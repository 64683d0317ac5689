import NameKeys.Text.Encoding.Strict
import NameKeys.Text.FilePath
import NameKeys.Text.Quoted

/-!
# Folders of log files

The folders and files that logging has made so far, and how the folder for a further log file is
made together with all folders above it. A path is followed from part to part; a part that leads
upwards leads to a folder in any case.
-/

namespace NameKeys

/-- Why the folder for a log file cannot be made, or the file in it. -/
inductive FolderFault where
  | unencodable (e : Unencodable)
  | zeroInPath
  | nameTooLong (path : Text)
  | fileInPlace (path : Text)
  | fileOnTheWay (path : Text)
  | folderInPlace (path : Text)

/-- The message about a folder or a file that cannot be made. -/
def FolderFault.message : FolderFault → Text
  | unencodable e => e.message
  | zeroInPath => "embedded null byte"
  | nameTooLong path => "[Errno 36] File name too long: " ++ Text.quoted path
  | fileInPlace path => "[Errno 17] File exists: " ++ Text.quoted path
  | fileOnTheWay path => "[Errno 20] Not a directory: " ++ Text.quoted path
  | folderInPlace path => "[Errno 21] Is a directory: " ++ Text.quoted path

/-- The folders that were made and the paths of the files, all resolved. -/
structure Folders where
  folders : List Text
  files : List Text

namespace Folders

/-- What keeps a part of a path from being followed or made. -/
inductive Obstacle where
  | absent
  | present
  | file
  | tooLong
  deriving DecidableEq, Repr

/-- The most bytes that a part of a path has. -/
def maxName : Nat := 255

def maxPath : Nat := 4095

def byteLength (path : Text) : Nat := (Encoding.plainUtf8.encode path).length

/-- The path of a part below a folder. -/
def below (folder part : Text) : Text := FilePath.resolve (FilePath.join folder part)

/-- The folder that a part leads to from a folder. -/
def enter (f : Folders) (folder part : Text) : Except Obstacle Text :=
  let path := below folder part
  if part = FilePath.upwards ∨ path ∈ f.folders then .ok path
  else if maxName < byteLength part then .error .tooLong
  else if path ∈ f.files then .error .file
  else .error .absent

/-- The folder that the parts of a path lead to. -/
def follow (f : Folders) (parts : List Text) : Except Obstacle Text := parts.foldlM f.enter "."

/-- Makes a folder in one that is there, given the part for it and the parts above it from the end.
-/
def makeOne (f : Folders) (part : Text) (above : List Text) : Except Obstacle Folders :=
  if maxPath < byteLength (Text.join [FilePath.slash] (part :: above).reverse) then .error .tooLong
  else do
    let folder ← f.follow above.reverse
    match f.enter folder part with
    | .ok _ | .error .file => throw .present
    | .error .absent => return { f with folders := below folder part :: f.folders }
    | .error obstacle => throw obstacle

/-- What comes of an obstacle to making a folder: nothing is to be done where the folder is there.
-/
def settle (f : Folders) (parts : List Text) (obstacle : Obstacle) : Except FolderFault Unit :=
  let path := Text.join [FilePath.slash] parts
  match f.follow parts, obstacle with
  | .ok _, _ => .ok ()
  | .error _, .tooLong => .error (.nameTooLong path)
  | .error _, .file => .error (.fileOnTheWay path)
  | .error _, _ => .error (.fileInPlace path)

/-- Makes a folder and those above it, given its parts from the end. What is made stays also where a
part cannot be made. -/
def make (f : Folders) : (parts : List Text) → Except FolderFault Unit × Folders
  | [] => (.ok (), f)
  | part :: above =>
    match f.makeOne part above with
    | .ok f => (.ok (), f)
    | .error .absent =>
      match f.make above with
      | (.error fault, f) => (.error fault, f)
      | (.ok (), f) =>
        match f.makeOne part above with
        | .ok f => (.ok (), f)
        | .error obstacle => (f.settle (part :: above).reverse obstacle, f)
    | .error obstacle => (f.settle (part :: above).reverse obstacle, f)

/-- Whether a path can be handed to the file system: byte escapes are the only surrogates in it, and
zero is not in it. -/
def checkPath (path : Text) : Except FolderFault Unit :=
  let isUsable (c : CodePoint) : Bool := !c.isSurrogate || c.isByteEscape
  match path.dropWhile isUsable with
  | [] => if path.contains (CodePoint.ofNat 0) then .error .zeroInPath else .ok ()
  | rest =>
    let position := (path.takeWhile isUsable).length
    .error (.unencodable ⟨.plainUtf8, position, rest.takeWhile CodePoint.isSurrogate⟩)

/-- Makes the folder for a file with those above it. -/
def makeFor (f : Folders) (path : Text) : Except FolderFault Unit × Folders :=
  let parts := (Text.splitOn FilePath.slash (FilePath.clean path)).filter fun part => !part.isEmpty
  match checkPath (Text.join [FilePath.slash] parts.dropLast) with
  | .error fault => (.error fault, f)
  | .ok () => f.make parts.dropLast.reverse

/-- Whether a file can be at a path whose folder is there. -/
def checkFile (f : Folders) (path : Text) : Except FolderFault Unit := do
  checkPath path
  let path := FilePath.resolve path
  if path = "." ∨ path ∈ f.folders then throw (.folderInPlace path)
  else if maxName < byteLength (FilePath.fileName path) then throw (.nameTooLong path)

end Folders

end NameKeys
