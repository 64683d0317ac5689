import NameKeys.Config.Settings
import NameKeys.Log.FileSize
import NameKeys.Log.Folder
import NameKeys.Log.Layout

/-!
# Logging

Where log records go. Logging has a threshold and a list of handlers: the console with a layout, and
possibly a file that is always written as JSON. A file that has reached its size is rotated before
the next record: it is kept under its path with a number behind it, and the files kept before move
up by one. Setting logging up replaces all handlers.
-/

namespace NameKeys

/-- A place that log records are written to. -/
inductive LogHandler where
  | console (layout : LogLayout)
  | file (path : Text) (limit : FileSize) (backups : Int)
  deriving DecidableEq, Repr

/-- The threshold, the handlers, the folders made and the log files written so far, each path once.
-/
structure Logging where
  threshold : Int
  handlers : List LogHandler
  folders : List Text
  files : List (Text × Text)
  deriving DecidableEq, Repr

/-- What logging is set up with. -/
structure LoggingRequest where
  level : Value := .text "WARNING"
  layout : Value := .text "simple"
  file : Option Text := none
  megabytes : FileSize := .whole 10
  backups : Int := 5

/-- What is of a kind that cannot be used: a layout that cannot be looked up, or for a level the
styles that the module has under their name. -/
inductive WrongKind where
  | layout (value : Value)
  | styles

/-- Why logging cannot be set up. -/
inductive LoggingFault where
  | levelWithoutCase (value : Value)
  | unknownLevel (name : Text)
  | notALevel (text : Text)
  | wrongKind (kind : WrongKind)
  | folder (fault : FolderFault)

/-- The former name for faults about a kind. -/
@[match_pattern, deprecated LoggingFault.wrongKind (since := "2026-11-20")]
abbrev LoggingFault.unusableLayout (kind : WrongKind) : LoggingFault := .wrongKind kind

/-- The styles with the layouts that they have for a bare record. -/
def WrongKind.stylesLiteral : Text :=
  "\x7b'%': (<class 'logging.PercentStyle'>, '%(levelname)s:%(name)s:%(message)s'), " ++
    "'\x7b': (<class 'logging.StrFormatStyle'>, " ++
    "'\x7blevelname\x7d:\x7bname\x7d:\x7bmessage\x7d'), " ++
    "'$': (<class 'logging.StringTemplateStyle'>, " ++
    "'$\x7blevelname\x7d:$\x7bname\x7d:$\x7bmessage\x7d')\x7d"

/-- The message about something of a wrong kind. -/
def WrongKind.message : WrongKind → Text
  | layout value => "unhashable type: '" ++ value.typeName ++ "'"
  | styles => "Level not an integer or a valid string: " ++ stylesLiteral

namespace LoggingFault

/-- The message about a request that logging cannot be set up with. -/
def message : LoggingFault → Text
  | levelWithoutCase (.bytes _) => "attribute name must be string, not 'bytes'"
  | levelWithoutCase value => "'" ++ value.typeName ++ "' object has no attribute 'upper'"
  | unknownLevel name => "module 'logging' has no attribute '" ++ name ++ "'"
  | notALevel text => "Unknown level: " ++ Text.quoted text
  | wrongKind kind => kind.message
  | folder fault => fault.message

end LoggingFault

namespace Logging

/-- Logging before it is set up: warnings and worse are logged, and there are no handlers. -/
def initial : Logging := ⟨LogLevel.warning, [], [], []⟩

/-! ## Setting up -/

/-- A name that is looked up among the levels and stands for the layout of a bare record. -/
def bareLayoutName : Text := "BASIC_FORMAT"

/-- What the name of the bare layout stands for. -/
def bareLayout : Text := "%(levelname)s:%(name)s:%(message)s"

/-- A name that is looked up among the levels and stands for the styles of bare layouts. -/
def stylesName : Text := "_STYLES"

/-- The level that a value names, in any case. -/
def readLevel : Value → Except LoggingFault Int
  | .text t =>
    let name := Text.upper t
    match List.lookup name LogLevel.named with
    | some level => .ok level
    | none => .error (
        if name = bareLayoutName then .notALevel bareLayout
        else if name = stylesName then .wrongKind .styles
        else .unknownLevel name)
  | value => .error (.levelWithoutCase value)

mutual

/-- The first value in a value that cannot be looked up: a list, a set or a table, also inside
tuples. -/
def unusable? : Value → Option Value
  | .list items => some (.list items)
  | .set items => some (.set items)
  | .table entries => some (.table entries)
  | .tuple items => unusableItem? items
  | _ => none
termination_by structural value => value

/-- The first value among some that cannot be looked up. -/
def unusableItem? : List Value → Option Value
  | [] => none
  | value :: rest => (unusable? value).or (unusableItem? rest)
termination_by structural values => values

end

/-- The layout that a value names exactly, and the simple one for any other value that can be looked
up. -/
def readLayout (value : Value) : Except LoggingFault LogLayout :=
  match unusable? value with
  | some part => .error (.wrongKind (.layout part))
  | none =>
    .ok ((LogLayout.all.find? fun layout => value.text? = some layout.name).getD .simple)

/-- The text of a log file; empty if there is no such file. -/
def fileText (s : Logging) (path : Text) : Text := (List.lookup path s.files).getD []

def setFile (path text : Text) : List (Text × Text) → List (Text × Text)
  | [] => [(path, text)]
  | (p, t) :: rest => if p = path then (p, text) :: rest else (p, t) :: setFile path text rest

/-- Logging with a file opened in a folder that is made if it is not there. The file is there
afterwards, with the text it had. -/
def openFile (s : Logging) (path : Text) : Except FolderFault Unit × Logging :=
  let (made, f) := (Folders.mk s.folders (s.files.map (·.1))).makeFor path
  let s := { s with folders := f.folders }
  match made.bind fun () => f.checkFile path with
  | .error fault => (.error fault, s)
  | .ok () =>
    let path := FilePath.resolve path
    (.ok (), { s with files := setFile path (s.fileText path) s.files })

/-- Logging after a set-up. A level that cannot be read changes nothing; without a layout there are
no handlers, and without its file there is the console alone. -/
def setUp (s : Logging) (request : LoggingRequest) : Except LoggingFault Unit × Logging :=
  match readLevel request.level with
  | .error fault => (.error fault, s)
  | .ok threshold =>
    match readLayout request.layout with
    | .error fault => (.error fault, { s with threshold, handlers := [] })
    | .ok layout =>
      let s := { s with threshold, handlers := [.console layout] }
      match request.file with
      | none => (.ok (), s)
      | some path =>
        match s.openFile path with
        | (.error fault, s) => (.error (.folder fault), s)
        | (.ok (), s) =>
          let handler := .file (FilePath.resolve path) request.megabytes.ofMegabytes request.backups
          (.ok (), { s with handlers := [.console layout, handler] })

/-- The set-up that settings ask for. A path that is empty asks for no file. -/
def requestOf (settings : LoggingSettings) : LoggingRequest :=
  { level := .text settings.threshold.name
    layout := .text settings.layout.name
    file := settings.file.filter fun path => !path.isEmpty
    megabytes := .whole settings.maxMegabytes
    backups := settings.backups }

/-! ## Writing -/

/-- The path of a file with a number behind it. -/
def numbered (path : Text) (n : Nat) : Text := path ++ "." ++ Text.ofNat n

/-- The files with one moved to another path, where it replaces what was there. -/
def moveFile (source target : Text) (files : List (Text × Text)) : List (Text × Text) :=
  match List.lookup source files with
  | none => files
  | some text => setFile target text (files.filter fun file => file.1 ≠ source)

/-- The files with those numbered from `n` down to 1 moved up by one. -/
def moveUp (path : Text) : (n : Nat) → List (Text × Text) → List (Text × Text)
  | 0, files => files
  | n + 1, files => moveUp path n (moveFile (numbered path (n + 1)) (numbered path (n + 2)) files)

/-- The files after a rotation. Where no rotated files are kept, nothing is moved. -/
def rotate (path : Text) (backups : Int) (files : List (Text × Text)) : List (Text × Text) :=
  if backups ≤ 0 then files
  else
    let moved := moveUp path (backups.toNat - 1) files
    setFile path [] (moveFile path (numbered path 1) moved)

/-- The files after a line is written to one of them. -/
def writeLine (path : Text) (limit : FileSize) (backups : Int) (line : Text) (s : Logging) :
    Logging :=
  let isFull := limit.isReachedBy ((s.fileText path).length + line.length + 1)
  let s := if isFull then { s with files := rotate path backups s.files } else s
  { s with files := setFile path (s.fileText path ++ line ++ "\n") s.files }

/-- A record given to one handler: what appears on the console, the record and logging afterwards. A
record that cannot be laid out is dropped. -/
def handle (locale : LogLocale) (handler : LogHandler) (r : LogRecord) (s : Logging) :
    Text × LogRecord × Logging :=
  match handler with
  | .console layout =>
    match layout.applyWith locale r with
    | (.ok line, r) => (line ++ "\n", r, s)
    | (.error _, r) => ([], r, s)
  | .file path limit backups =>
    match LogLayout.json.applyWith locale r with
    | (.ok line, r) => ([], r, s.writeLine path limit backups line)
    | (.error _, r) => ([], r, s)

/-- A record given to handlers in order. -/
def handleAll (locale : LogLocale) : List LogHandler → LogRecord → Logging → Text × Logging
  | [], _, s => ([], s)
  | handler :: rest, r, s =>
    let (shown, r, s) := handle locale handler r s
    let (more, s) := handleAll locale rest r s
    (shown ++ more, s)

/-- Whether records of a level are logged. No level up to 0 is. -/
def isEnabled (s : Logging) (level : Int) : Bool := 0 < level && s.threshold ≤ level

/-- Logs a record: what appears on the console, and logging afterwards. Before handlers are set up,
warnings and worse appear as bare messages. -/
def emit (s : Logging) (r : LogRecord) (locale : LogLocale := {}) : Text × Logging :=
  if !s.isEnabled r.level then ([], s)
  else
    match s.handlers with
    | [] =>
      if r.level < LogLevel.warning then ([], s)
      else
        match r.written (fun _ => .ok none) fun r => .ok r.message with
        | (.ok t, _) => (t ++ "\n", s)
        | (.error _, _) => ([], s)
    | handlers => handleAll locale handlers r s

end Logging

end NameKeys
