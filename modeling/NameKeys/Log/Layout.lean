import NameKeys.Log.Record

/-!
# Layouts of log records

The three layouts of a record. The two text layouts write a line and put the context in brackets at
its end, in order of the keys; a message or a report of several lines continues after the bracket.
The JSON layout writes one object in which the context follows the record's own fields and cannot
replace them. One record may be handed from layout to layout.
-/

namespace NameKeys

/-- Why something that a record was given cannot be laid out: arguments that do not fit the message,
an error that cannot be told, a context that is no table, or a key that JSON does not have. -/
inductive GivenFault where
  | arguments (reason : Text)
  | error (reason : Text)
  | contextWithoutItems (value : Value)
  | key (kind : Text)
  deriving Inhabited

/-- Why a record cannot be laid out. -/
inductive LayoutFault where
  | time (fault : TimeFault)
  | numeralTooLong
  | given (fault : GivenFault)

/-- The former name for faults of what a record was given. -/
@[match_pattern, deprecated LayoutFault.given (since := "2026-11-20")]
abbrev LayoutFault.contextWithoutItems (fault : GivenFault) : LayoutFault := .given fault

/-- The message about something that cannot be laid out. -/
def GivenFault.message : GivenFault → Text
  | arguments reason | error reason => reason
  | contextWithoutItems value => "'" ++ value.typeName ++ "' object has no attribute 'items'"
  | key kind => (JsonFault.key kind).message

/-- The message about a record that cannot be laid out. -/
def LayoutFault.message : LayoutFault → Text
  | time fault => fault.message
  | numeralTooLong => tooManyDigits
  | given fault => fault.message

/-- What layouts take from the process: the names of levels, and how many seconds the local time is
ahead of universal time at each second. -/
structure LogLocale where
  levelName : Int → Text := LogLevel.name
  zone : Int → Int := fun _ => 0

namespace LogRecord

def contextEntries (r : LogRecord) : Except LayoutFault (Entries Datum) :=
  match r.context with
  | .data entries => .ok entries
  | .value v =>
    if !v.isSomething then .ok []
    else
      match v with
      | .table entries => .ok (Datum.ofTable entries)
      | v => .error (.given (.contextWithoutItems v))

/-! ## Text -/

/-- The report of the record's error: the one that was made before, unless there is none or it is
empty. -/
def madeReport? (r : LogRecord) : Except Text (Option Text) :=
  match r.error? with
  | some error =>
    if (r.report?.getD []).isEmpty then error.report.map some else .ok r.report?
  | none => .ok r.report?

/-- A text with another one on the lines after it, if there is one and it is not empty. -/
def continued (t : Text) (more? : Option Text) : Text :=
  match more? with
  | none => t
  | some more =>
    if more.isEmpty then t
    else if t.getLast? = some (CodePoint.ofChar '\n') then t ++ more
    else t ++ "\n" ++ more

/-- The time of a record in local time. -/
def localTime (zone : Int → Int) (r : LogRecord) : Except LayoutFault Text :=
  ((Instant.ofNumber r.created).bind (Instant.toSecondText zone)).mapError .time

/-- A text layout without context: a line about the record with its message and its time filled in,
the report of its error and the calls that led to the message. What was made is left on the record,
also where something else fails after it. -/
def written (time? : LogRecord → Except LayoutFault (Option Text))
    (line : LogRecord → Except LayoutFault Text) (r : LogRecord) :
    Except LayoutFault Text × LogRecord :=
  match r.filled with
  | .error reason => (.error (.given (.arguments reason)), r)
  | .ok message =>
    let r := r.setMessage message
    match time? r with
    | .error fault => (.error fault, r)
    | .ok time? =>
      let r := r.setTime time?
      match line r with
      | .error fault => (.error fault, r)
      | .ok t =>
        match r.madeReport? with
        | .error reason => (.error (.given (.error reason)), r)
        | .ok report? => (.ok (continued (continued t report?) r.stack?), r.setReport report?)

/-- The line of the simple layout: program, level and message. -/
def simpleLine (r : LogRecord) : Text :=
  "memfs-pathnorm: " ++ r.levelName ++ ": " ++ r.message

/-- The line of the detailed layout: time, level, place and message. -/
def detailedLine (r : LogRecord) : Except LayoutFault Text :=
  let function : Text := r.function?.getD "None"
  if hasDecimalText r.line then
    .ok (r.time ++ " " ++ r.levelName ++ " [" ++ r.logger ++ ":" ++ function ++ ":" ++
      Text.ofInt r.line ++ "] " ++ r.message)
  else .error .numeralTooLong

/-- What the simple layout writes of a record without its context. -/
def simpleText (r : LogRecord) : Except LayoutFault Text × LogRecord :=
  r.written (fun _ => .ok none) fun r => .ok r.simpleLine

/-- What the detailed layout writes of a record without its context. -/
def detailedText (zone : Int → Int) (r : LogRecord) : Except LayoutFault Text × LogRecord :=
  r.written (fun r => (r.localTime zone).map some) detailedLine

/-- The entries of a context with equality signs between keys and literals, and commas between the
entries, in order of the keys. -/
def contextText (entries : Entries Datum) : Text :=
  let sorted := entries.mergeSort fun a b => Text.le a.1 b.1
  Text.join ", " (sorted.map fun (key, d) => key ++ "=" ++ d.literal)

/-- A text with a context in brackets at the end of its first line. -/
def insertContext (entries : Entries Datum) (t : Text) : Except LayoutFault Text :=
  if entries.isEmpty then .ok t
  else if entries.all fun entry => entry.2.hasLiteral then
    let bracket : Text := " (" ++ contextText entries ++ ")"
    match Text.cutAt '\n' t with
    | (head, some tail) => .ok (head ++ bracket ++ "\n" ++ tail)
    | (head, none) => .ok (head ++ bracket)
  else .error .numeralTooLong

/-- What a text layout wrote, with the record's context. -/
def withContext (r : LogRecord) (t : Except LayoutFault Text) : Except LayoutFault Text := do
  let t ← t
  let entries ← r.contextEntries
  insertContext entries t

/-! ## JSON -/

/-- The fields about the error that a record carries. -/
def errorFields (r : LogRecord) : Except Text Table :=
  match r.error? with
  | none => .ok []
  | some error => do
    let kind ← error.kind
    let text ← error.text
    let report ← error.report
    return [("exception", .table
      [("type", .text kind), ("message", .text text), ("traceback", .text report)])]

/-- The fields of a record in the order of the JSON layout. -/
def fields (r : LogRecord) : Except LayoutFault Table := do
  let time ← ((Instant.ofNumber r.created).bind Instant.toZonedText).mapError .time
  let message ← r.filled.mapError fun reason => .given (.arguments reason)
  let error ← r.errorFields.mapError fun reason => .given (.error reason)
  let own : Table :=
    [("timestamp", .text time), ("message", .text message), ("level", .text r.levelName),
      ("logger", .text r.logger), ("module", .text r.moduleName),
      ("function", match r.function? with | some name => .text name | none => .null),
      ("line", .int r.line)]
  return own ++ error

/-- The object of the JSON layout: the record's fields, and the context under all other keys. -/
def jsonLayout (r : LogRecord) : Except LayoutFault Text := do
  let fields ← r.fields
  let entries ← r.contextEntries
  let others := entries.filter fun (key, _) => key ∉ fields.keys
  (Datum.object (Datum.ofTable fields ++ others)).json.mapError fun
    | .numeralTooLong => .numeralTooLong
    | .key kind => .given (.key kind)

end LogRecord

namespace LogLayout

/-- A record in a layout, and the record afterwards. The simple layout writes the level in lower case
and sets it back to the name its number has, whether or not the layout succeeds. -/
def applyWith (locale : LogLocale) (layout : LogLayout) (r : LogRecord) :
    Except LayoutFault Text × LogRecord :=
  match layout with
  | json => (r.jsonLayout, r)
  | detailed =>
    let (t, after) := r.detailedText locale.zone
    (r.withContext t, after)
  | simple =>
    let (t, after) := (r.setLevelName (Text.lower r.levelName)).simpleText
    (r.withContext t, after.setLevelName (locale.levelName r.level))

/-- A record in a layout, and the record afterwards, where levels have their usual names and local
time is universal time. -/
def apply (layout : LogLayout) (r : LogRecord) : Except LayoutFault Text × LogRecord :=
  layout.applyWith {} r

/-- A record in one layout after the other: what each of them gives, and how the record has its level
written afterwards. -/
def applyAll (locale : LogLocale) : List LogLayout → LogRecord →
    List (Except LayoutFault Text × Text)
  | [], _ => []
  | layout :: rest, r =>
    let (line, after) := layout.applyWith locale r
    (line, after.levelName) :: applyAll locale rest after

end LogLayout

end NameKeys
