import NameKeys.Text.Basic

/-!
# File paths

Paths are texts with slashes between their parts. The clean form of a path has no empty parts and no
parts that stand for the directory they are in; parts that lead upwards are kept.
-/

namespace NameKeys.FilePath

def slash : CodePoint := CodePoint.ofChar '/'

def upwards : Text := ".."

/-- A path and a further path seen from it. An absolute path stands for itself. -/
def join (base part : Text) : Text :=
  match part with
  | c :: _ => if c = slash then part else extend base part
  | [] => extend base part
where
  /-- A path with a relative one behind it. -/
  extend (base part : Text) : Text :=
    if base.isEmpty ∨ base.getLast? = some slash then base ++ part else base ++ [slash] ++ part

/-- The slashes at the beginning of a clean path: two are kept, any other number is one. -/
def root (t : Text) : Text :=
  match (t.takeWhile (· = slash)).length with
  | 0 => []
  | 2 => [slash, slash]
  | _ => [slash]

def clean (t : Text) : Text :=
  let parts := (Text.splitOn slash t).filter fun part => !part.isEmpty && part ≠ Text.ofString "."
  match root t ++ Text.join [slash] parts with
  | [] => "."
  | path => path

def fileName (t : Text) : Text := (Text.splitOn slash t).getLastD []

/-- A file name without its last extension. A point at the beginning starts no extension. -/
def stem (name : Text) : Text :=
  let point := CodePoint.ofChar '.'
  let lead := name.takeWhile (· = point)
  let body := name.drop lead.length
  match body.reverse.dropWhile (· ≠ point) with
  | [] => name
  | _ :: before => lead ++ before.reverse

/-- A relative path with the parts that lead upwards resolved, as far as there are parts to leave.
-/
def resolve (t : Text) : Text :=
  let up := Text.ofString ".."
  let step (kept : List Text) (part : Text) : List Text :=
    match kept with
    | last :: before => if part = up ∧ last ≠ up then before else part :: kept
    | [] => [part]
  match Text.join [slash] (((Text.splitOn slash (clean t)).foldl step []).reverse) with
  | [] => "."
  | path => path

end NameKeys.FilePath
