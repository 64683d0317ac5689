import NameKeys.Config.Environment
import NameKeys.Config.Schema
import NameKeys.Text.FilePath
import NameKeys.Toml.Document
import NameKeys.Value.Literal

/-!
# Loading settings

Settings come from up to three files and from the environment: the defaults, the file of the system,
the file of the user and the variables, each overriding those before it. Which files are read is
settled first, as a list of sources; the loaded settings and the notices about the search are both
read off that list. A search can go astray where the system does not tell a place or what is there.
-/

namespace NameKeys

/-- How a system writes paths, and which directory its environment and the account of the user tell
as the home directory. -/
structure Conventions where
  clean : Text → Text
  join : Text → Text → Text
  isAbsolute : Text → Bool
  home? : Environment → Option Text → Option Text

namespace Conventions

/-- A directory without the slashes at its end. -/
def withoutEnd (directory : Text) : Text :=
  match directory.reverse.dropWhile (· = FilePath.slash) with
  | [] => "/"
  | path => path.reverse

/-- Paths with slashes, and a variable for the home directory. Where it is not set the account of
the user tells the directory. -/
def posix : Conventions where
  clean := FilePath.clean
  join := FilePath.join
  isAbsolute path := path.head? = some FilePath.slash
  home? environment account? := ((environment.get? "HOME").or account?).map withoutEnd

end Conventions

/-- What a run finds: the texts of the files with settings, the environment and the current
directory, whether the variable `PROGRAMDATA` says where the system keeps its settings, and the log
files of earlier runs. The system may refuse to look a path up, as one with a name that is too long,
or to tell the directory. `zone` is how many seconds the local time is ahead of universal time. -/
structure Host where
  files : List (Text × Text)
  environment : Environment
  directory : Text
  hasProgramData : Bool
  logFiles : List (Text × Text) := []
  conventions : Conventions := .posix
  accountHome? : Option Text := none
  refusal? : Text → Option Text := fun _ => none
  directoryRefusal? : Option Text := none
  zone : Int → Int := fun _ => 0

/-- A message about the search for settings. -/
structure Notice where
  level : Int
  message : Text
  deriving DecidableEq, Repr

/-- Why a search goes astray: the program's name leads out of the directory of the user's settings,
the home directory is not known, or the system refuses an answer. -/
inductive Astray where
  | program (name : Text)
  | home
  | refused (reason : Text)
  deriving DecidableEq, Repr

/-- Why settings cannot be loaded. -/
inductive LoadError where
  | unreadable (fault : Toml.Fault)
  | astray (error : Astray)
  | notATable (error : Environment.NotATable)
  | invalid (schema : Schema) (violations : List Violation)

/-- The message about a search that goes astray. -/
def LoadError.astrayMessage : Astray → Text
  | .program name => "appname must stay inside the base directory, got " ++ Text.quoted name
  | .home => "Could not determine home directory."
  | .refused reason => reason

/-- What was found at a place: nothing, the text of a file, or no answer. -/
inductive Finding where
  | nothing
  | text (t : Text)
  | astray (error : Astray)
  deriving DecidableEq, Repr

namespace Finding

def text? : Finding → Option Text
  | text t => some t
  | _ => none

/-- What a place sets. A place without a file sets nothing. -/
def table : Finding → Except LoadError Table
  | nothing => .ok []
  | text t => (Toml.parse t).mapError .unreadable
  | astray error => .error (.astray error)

end Finding

/-- A place that was searched: the notices about it, and what was found. -/
structure Source where
  notices : List Notice
  finding : Finding
  deriving DecidableEq, Repr

namespace Source

def table (s : Source) : Except LoadError Table := s.finding.table

/-- The notices about sources that are read in order, up to the first that cannot be read. -/
def noticesOf : List Source → List Notice
  | [] => []
  | s :: rest =>
    s.notices ++
      match s.table with
      | .ok _ => noticesOf rest
      | .error _ => []

/-- What sources set together, each overriding those before it. -/
def merged (sources : List Source) : Except LoadError Table :=
  (sources.mapM table).map fun tables => tables.foldl Table.merge []

end Source

namespace Host

def look (h : Host) (path : Text) : Finding :=
  match h.refusal? path with
  | some reason => .astray (.refused reason)
  | none =>
    match List.lookup path h.files with
    | some text => .text text
    | none => .nothing

/-- What a tilde at the beginning of a path stands for: the home directory, or itself if none is
told. -/
def tilde (h : Host) : Text := (h.conventions.home? h.environment h.accountHome?).getD "~"

/-- The home directory. A directory whose name begins with a tilde is taken for an unknown one. -/
def home (h : Host) : Except Astray Text :=
  if h.tilde.head? = some (CodePoint.ofChar '~') then .error .home else .ok h.tilde

def currentDirectory (h : Host) : Except Astray Text :=
  match h.directoryRefusal? with
  | some reason => .error (.refused reason)
  | none => .ok h.directory

/-- The clean path of parts below a path. -/
def below (h : Host) (base : Text) (parts : List Text) : Text :=
  h.conventions.clean (parts.foldl h.conventions.join base)

/-- Where the defaults are searched if there is no file at a path given for them. -/
def defaultsPaths (h : Host) (program : Text) : Except Astray (List Text) := do
  let directory ← h.currentDirectory
  let home ← h.home
  return [h.below directory ["config", "defaults.toml"],
    h.below home [".config", program, "defaults.toml"]]

/-- Where the settings of the system are. -/
def systemPath (h : Host) (program : Text) : Text :=
  if h.hasProgramData then
    h.below ((h.environment.get? "PROGRAMDATA").getD "C:\\ProgramData") [program, "config.toml"]
  else h.conventions.clean ("/etc/" ++ program ++ "/config.toml")

/-- Where the settings of the user are. The directory for settings has to be named by an absolute
path that is not blank. -/
def userPath (h : Host) (program : Text) : Text :=
  let directory := Text.strip ((h.environment.get? "XDG_CONFIG_HOME").getD [])
  if h.conventions.isAbsolute directory then h.below directory [program, "config.toml"]
  else h.below h.tilde [".config", program, "config.toml"]

/-- All paths where settings are searched. -/
def searchedPaths (h : Host) (program : Text) (path? : Option Text) : List Text :=
  (path?.map h.conventions.clean).toList ++ (h.defaultsPaths program).toOption.getD [] ++
    [h.systemPath program, h.userPath program]

/-- Whether a program's name leads out of the directory that it is joined to. -/
def isAstray (program : Text) : Bool :=
  let isDivider (c : CodePoint) : Bool := c = FilePath.slash || c = CodePoint.ofChar '\\'
  let divided := program.map fun c => if isDivider c then FilePath.slash else c
  let parts := Text.splitOn FilePath.slash divided
  program.head?.any isDivider || parts.contains ".."

def remark (message : Text) : Notice := ⟨LogLevel.debug, message⟩

/-- The source at a path, with what is to be remarked if there is nothing. -/
def sourceAt (h : Host) (kind path : Text) (missing : List Notice) : Source :=
  match h.look path with
  | .nothing => ⟨missing, .nothing⟩
  | .text text => ⟨[remark ("Loading " ++ kind ++ " from " ++ path)], .text text⟩
  | .astray error => ⟨[], .astray error⟩

/-- The defaults at the first of the usual paths where something is found. -/
def usualDefaults (h : Host) (program : Text) : Source :=
  match h.defaultsPaths program with
  | .error error => ⟨[], .astray error⟩
  | .ok paths =>
    match paths.find? fun path => h.look path ≠ .nothing with
    | some path => h.sourceAt "defaults" path []
    | none =>
      ⟨[remark ("No defaults found, searched: " ++ (Value.ofTexts paths).literal)], .nothing⟩

/-- The defaults of a given path. Without a path, or without a file there, the usual paths are
searched. -/
def defaults (h : Host) (program : Text) : (path? : Option Text) → Source
  | none => h.usualDefaults program
  | some path =>
    let path := h.conventions.clean path
    if h.look path = .nothing then
      let usual := h.usualDefaults program
      let message : Text := "Config file not found: " ++ path ++ ", using default locations"
      { usual with notices := ⟨LogLevel.warning, message⟩ :: usual.notices }
    else h.sourceAt "defaults" path []

def system (h : Host) (program : Text) : Source :=
  h.sourceAt "system config" (h.systemPath program) []

def user (h : Host) (program : Text) : Source :=
  if isAstray program then ⟨[], .astray (.program program)⟩
  else
    let path := h.userPath program
    h.sourceAt "user config" path [remark ("User config not found at " ++ path)]

/-- The sources of settings, each overriding those before it. -/
def sources (h : Host) (program : Text) (path? : Option Text) : List Source :=
  [h.defaults program path?, h.system program, h.user program]

/-- The notices about loading settings. -/
def notices (h : Host) (program : Text) (path? : Option Text) : List Notice :=
  Source.noticesOf (h.sources program path?)

/-- What all sources and the environment set, unchecked. -/
def gather (h : Host) (program : Text) (schema : Schema) (path? : Option Text) :
    Except LoadError Table := do
  let config ← Source.merged (h.sources program path?)
  (Environment.overrideAll program (· ∈ schema.listFields) h.environment config).mapError .notATable

/-- The settings that all sources and the environment set. -/
def load (h : Host) (program : Text) (schema : Schema) (path? : Option Text) :
    Except LoadError schema.Content := do
  let config ← h.gather program schema path?
  (schema.check config).mapError (.invalid schema)

end Host

end NameKeys
