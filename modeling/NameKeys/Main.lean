import NameKeys.Command.Outcome
import Std.Time.Zoned.Database

/-!
# The program

What the program takes from the system before a run and gives back after it: the arguments and the
environment, the user's account, the files with settings and the log files, the time with its zone
and the streams. What a run comes to is settled in between, without any of these.
-/

namespace NameKeys.Program

/-- The string of a text without surrogates. -/
def string? (t : Text) : Option String :=
  if t.any CodePoint.isSurrogate then none
  else some (String.ofList (t.map fun c => Char.ofNat c.val))

/-- What the system says of a path that it cannot read, unless there is nothing. -/
def refusal? : IO.Error → Option Text
  | .noFileOrDirectory .. => none
  | .inappropriateType _ code details =>
    -- a directory is there, but beyond a file there is nothing
    if code = 21 then some (Text.ofString details) else none
  | error => some (Text.ofString error.toString)

/-- The bytes of the file at a path, if there is one, or what the system says instead. -/
def bytesAt (path : Text) : IO (Except Text (Option (List UInt8))) := do
  let some path := string? path | return .ok none
  try return .ok (some (← IO.FS.readBinFile path).toList)
  catch error =>
    match refusal? error with
    | none => return .ok none
    | some reason => return .error reason

/-- The bytes of the file at a path, if there is one that can be read. -/
def bytesAt? (path : Text) : IO (Option (List UInt8)) :=
  return (← bytesAt path).toOption.join

/-- The texts of a file in which each text has a zero behind it. -/
def textsAt (path : Text) : IO (List Text) := do
  let bytes := (← bytesAt? path).getD []
  return (Text.splitOn (CodePoint.ofNat 0) (Utf8.decodeEscaping bytes)).dropLast

/-- The fields of the lines of a file in which the fields are divided by a code point. -/
def fieldsAt (path : Text) (divider : CodePoint) : IO (List (List Text)) := do
  let bytes := (← bytesAt? path).getD []
  let lines := Text.splitOn (CodePoint.ofChar '\n') (Utf8.decodeEscaping bytes)
  return lines.map (Text.splitOn divider)

/-- The home directory that the account of the user tells. -/
def accountHome? : IO (Option Text) := do
  let status ← fieldsAt "/proc/self/status" (CodePoint.ofChar '\t')
  let some user := status.findSome? fun fields =>
    if fields.head? = some (Text.ofString "Uid:") then fields[1]? else none | return none
  let accounts ← fieldsAt "/etc/passwd" (CodePoint.ofChar ':')
  return accounts.findSome? fun fields => if fields[2]? = some user then fields[5]? else none

/-- A text with line feeds as its only line ends. -/
def withLineFeeds (t : Text) : Text :=
  let lineFeed := CodePoint.ofChar '\n'
  Text.replace '\r' lineFeed (Text.join [lineFeed] (Text.splitAround "\r\n" t))

def findingAt (path : Text) : IO Finding := do
  match ← bytesAt path with
  | .error reason => return .astray (.refused reason)
  | .ok none => return .nothing
  | .ok (some bytes) =>
    match Utf8.decode? bytes with
    | some text => return .text (withLineFeeds text)
    | none => return .astray (.refused (path ++ " is not encoded in UTF-8"))

/-- The path of a log file and what it holds, a code point for each byte, if there is one. -/
def logAt? (path : Text) : IO (Option (Text × Text)) := do
  let some bytes ← bytesAt? path | return none
  return some (path, bytes.map fun b => CodePoint.ofNat b.toNat)

/-- The log files that are kept under a path with numbers from `n` on, up to the first that is
missing and at most so many. -/
def keptLogs (path : Text) : (n most : Nat) → IO (List (Text × Text))
  | _, 0 => return []
  | n, most + 1 => do
    let some file ← logAt? (Logging.numbered path n) | return []
    return file :: (← keptLogs path (n + 1) most)

/-- The log files that a request for logging is about. -/
def logsOf (request : LoggingRequest) : IO (List (Text × Text)) := do
  let some path := request.file | return []
  let path := FilePath.resolve path
  return (← logAt? path).toList ++ (← keptLogs path 1 request.backups.toNat)

/-- How many seconds local time is ahead of universal time at a second. Where the system has no rules
for it, it is universal time. -/
def localZone : IO (Int → Int) := do
  match ← Std.Time.Database.defaultGetLocalZoneRules.toBaseIO with
  | .error _ => return fun _ => 0
  | .ok rules =>
    return fun second =>
      (rules.timezoneAt (.ofSecondsSinceUnixEpoch (.ofInt second))).offset.second.val

/-- What an invocation finds on this system. -/
def host (invocation? : Option Invocation) : IO Host := do
  let environment := Environment.ofTexts (← textsAt "/proc/self/environ")
  let directory ← IO.currentDir.toBaseIO
  let host : Host :=
    { files := [], environment, hasProgramData := false
      directory := directory.toOption.elim [] fun path => Text.ofString path.toString
      directoryRefusal? := match directory with
        | .ok _ => none
        | .error error => some (Text.ofString error.toString)
      accountHome? := ← accountHome?
      zone := ← localZone }
  let some invocation := invocation? | return host
  let found ← (host.searchedPaths programName invocation.configPath?).mapM fun path =>
    return (path, ← findingAt path)
  let files := found.filterMap fun (path, finding) => finding.text?.map fun text => (path, text)
  let refusals := found.filterMap fun
    | (path, .astray error) => some (path, LoadError.astrayMessage error)
    | _ => none
  let host := { host with files, refusal? := fun path => List.lookup path refusals }
  let some request := invocation.loggingRequest? host | return host
  return { host with logFiles := ← logsOf request }

/-- Stores the log files that are not as they were. -/
def store (before after : List (Text × Text)) : IO Unit :=
  for (path, text) in after do
    if List.lookup path before ≠ some text then
      let folder := Text.join [FilePath.slash] (Text.splitOn FilePath.slash path).dropLast
      if let (some file, some folder) := (string? path, string? folder) then
        unless folder.isEmpty do IO.FS.createDirAll folder
        IO.FS.writeBinFile file (text.map fun c => UInt8.ofNat c.val).toByteArray

end NameKeys.Program

open NameKeys NameKeys.Program in
/-- Runs the program with the arguments it was started with. -/
def main : IO UInt32 := do
  let arguments := (← textsAt "/proc/self/cmdline").tail
  let host ← host (Invocation.ofTexts arguments).toOption
  let now := (← Std.Time.Timestamp.now).toSecondsSinceUnixEpoch.val
  let outcome := Outcome.ofArguments host now .plainUtf8 LoadError.message arguments
  store host.logFiles outcome.logFiles
  (← IO.getStdout).write outcome.output.toByteArray
  IO.eprint ((string? outcome.console).getD "")
  match outcome.ending with
  | .returned code | .stopped code => return code.toUInt32
  | .failed failure =>
    IO.eprintln ((string? (Outcome.shown failure.message)).getD "")
    return 1
