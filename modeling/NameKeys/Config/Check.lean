import NameKeys.Config.Violation
import NameKeys.Text.Integer
import NameKeys.Text.Utf8

/-!
# Checking settings

Tables are checked against the rules of the settings: every key is known, every value has or can be
read as what its setting needs, and the options do not contradict each other. Whether they do is
looked at only in a section without other violations.
-/

namespace NameKeys

namespace Check

/-- One of some named choices, given by its name in a case that `recase` makes the names' own. -/
def choice {α : Type} (all : List α) (name : α → Text) (recase : Text → Text) (fault : Fault) :
    Value → Except Fault α
  | .text t =>
    if t.any CodePoint.isSurrogate then .error .notUnicode
    else
      match all.find? fun a => name a = recase t with
      | some a => .ok a
      | none => .error fault
  | _ => .error fault

/-- A log threshold, given by name in any case. -/
def threshold : Value → Except Fault LogThreshold :=
  choice LogThreshold.all LogThreshold.name Text.upper .notALevel

/-- A layout, given by name in any case. -/
def layout : Value → Except Fault LogLayout :=
  choice LogLayout.all LogLayout.name Text.lower .notALayout

/-- The path of a log file. A blank text stands for none, and a choice for its name. -/
def file : Value → Except Fault (Option Text)
  | .null => .ok none
  | .text t => .ok (if Text.isBlank t then none else some t)
  | .bytes bs =>
    match Utf8.decode? bs with
    | some t => .ok (some t)
    | none => .error .notUnicode
  | .option o => .ok (some o.name)
  | .form f => .ok (some f.label)
  | .fold f => .ok (some f.label)
  | _ => .error .notAString

def dash : CodePoint := CodePoint.ofChar '-'

/-- The text without a point and zeros at its end. -/
def dropZeroFraction (t : Text) : Text :=
  match Text.cutAt '.' t with
  | (whole, some fraction) =>
    if !fraction.isEmpty && fraction.all (· = CodePoint.ofChar '0') then whole else t
  | (_, none) => t

/-- The text after zeros and underscores that follow a zero; of nothing else the last stays. -/
def afterZero? (last : CodePoint) : Text → Option Text
  | [] => some [last]
  | c :: rest =>
    if c = CodePoint.ofChar '0' ∨ c = CodePoint.ofChar '_' then afterZero? c rest
    else if c.asciiDigit?.isSome ∨ c = dash then some (c :: rest) else none

/-- A text that begins with a digit or a dash, without the zeros it begins with. -/
def dropLeadingZeros? : Text → Option Text
  | [] => none
  | c :: rest =>
    if c = CodePoint.ofChar '0' then afterZero? c rest
    else if c.asciiDigit?.isSome ∨ c = dash then some (c :: rest) else none

/-- A text without its underscores, of which none stand beside each other or at an end. -/
def dropUnderscores? (t : Text) : Option Text :=
  let underscore := CodePoint.ofChar '_'
  if t.head? = some underscore ∨ t.getLast? = some underscore ∨
      Text.occursIn [underscore, underscore] t then none
  else some (t.filter (· ≠ underscore))

/-- The sign and the digits of a text that may hold a plus sign, leading zeros, underscores and a
fraction of zeros. -/
def plainNumeral? (t : Text) : Option Text := do
  let t := dropZeroFraction t
  let unsigned ← match t with
    | c :: rest =>
      if c ≠ CodePoint.ofChar '+' then some t
      else if rest.head? = some dash then none
      else some rest
    | [] => none
  let plain ← match unsigned with
    | c :: rest =>
      if c = dash then (dropLeadingZeros? rest).map (c :: ·) else dropLeadingZeros? (c :: rest)
    | [] => none
  dropUnderscores? plain

/-- The integer that a text denotes in ASCII digits. -/
def numeral (t : Text) : Except Fault Int :=
  if t.any CodePoint.isSurrogate then .error .notUnicode
  else
    match plainNumeral? (Text.stripNumeral t) with
    | none => .error .notANumeral
    | some plain =>
      let (negative, digits) :=
        match plain with
        | c :: rest => if c = dash then (true, rest) else (false, plain)
        | [] => (false, [])
      if maxDigits < (plain.flatMap Utf8.encodeOne).length then .error .tooLarge
      else
        match digits.mapM CodePoint.asciiDigit? with
        | none | some [] => .error .notANumeral
        | some values => .ok (Text.signed negative values)

/-- Integers in place of which a floating-point number can stand have less than this size, `2 ^ 63`.
-/
def integerLimit : Nat := 0x8000000000000000

/-- An integer, or a value that stands for one. A choice is taken for a number that is too large. -/
def integer : Value → Except Fault Int
  | .int n => .ok n
  | .bool b => .ok (if b then 1 else 0)
  | .text t => numeral t
  | .bytes bs =>
    match Utf8.decode? bs with
    | some t => numeral t
    | none => .error .notANumeral
  | .float x =>
    match x, x.toInt? with
    | .finite .., some n => if n.natAbs < integerLimit then .ok n else .error .tooLarge
    | .finite .., none => .error .fraction
    | _, _ => .error .notFinite
  | .option _ | .form _ | .fold _ => .error .tooLarge
  | _ => .error .notAnInteger

/-- An integer that is not below a least one. -/
def integerFrom (least : Int) (value : Value) : Except Fault Int := do
  let n ← integer value
  if least ≤ n then .ok n else .error (.tooSmall least)

/-- The options that the texts among some items name, and the other items as they are. The first
text that names no option is a fault of the whole. -/
def readNames : List Value → Except Fault (List Value)
  | [] => .ok []
  | .text name :: rest =>
    match NormalizationOption.parse? name with
    | some o => (readNames rest).map (.option o :: ·)
    | none => .error (.badOptions (.unknownOption name))
  | value :: rest => (readNames rest).map (value :: ·)

def option : Value → Except Fault NormalizationOption
  | .option o => .ok o
  | .text name =>
    if name.any CodePoint.isSurrogate then .error .notUnicode
    else
      match NormalizationOption.ofName? name with
      | some o => .ok o
      | none => .error .notAnOption
  | _ => .error .notAnOption

/-- The options of some items, counted from `index` on, and the violations among them. -/
def optionItems (index : Nat) : List Value → Checked (List NormalizationOption)
  | [] => .ok []
  | value :: rest =>
    match option value, optionItems (index + 1) rest with
    | .ok o, .ok os => .ok (o :: os)
    | .error fault, others => .error (⟨[.item index], fault⟩ :: others.violations)
    | .ok _, .error violations => .error violations

/-- The parts of a text with commas between them that are not blank. -/
def listedNames (t : Text) : List Value :=
  ((Text.splitOn ',' t).filter fun part => !Text.isBlank part).map .text

/-- A list of options. Names may be spelled in any accepted way, save in a sequence that is produced
item by item. -/
def options (value : Value) : Checked (List NormalizationOption) :=
  let named (items : List Value) : Checked (List NormalizationOption) :=
    match readNames items with
    | .ok items => optionItems 0 items
    | .error fault => .error [⟨[], fault⟩]
  match value with
  | .text t => named (listedNames t)
  | .list items | .tuple items | .set items => named items
  | .generator items => optionItems 0 items
  | _ => .error [⟨[], .notAList⟩]

/-- The checked value at a key, or a default where there is none. -/
def field {α : Type} (entries : Table) (key : Text) (default : α) (check : Value → Checked α) :
    Checked α :=
  match entries.get? key with
  | none => .ok default
  | some value => (check value).mapError fun violations => violations.map (·.within key)

def single {α : Type} (check : Value → Except Fault α) (value : Value) : Checked α :=
  (check value).mapError fun fault => [⟨[], fault⟩]

/-- The violations of keys that are not among the known ones. -/
def unknownKeys (known : List Text) (entries : Table) : List Violation :=
  (entries.keys.filter (· ∉ known)).map fun key => ⟨[.key key], .unknownKey⟩

/-- A check of a table, all of whose keys have to be Unicode. -/
def withUnicodeKeys {α : Type} (check : Table → Checked α) (entries : Table) : Checked α :=
  if entries.keys.any fun key => key.any CodePoint.isSurrogate then .error [⟨[], .notUnicode⟩]
  else check entries

def logging : Table → Checked LoggingSettings := withUnicodeKeys fun entries =>
  let threshold := field entries "level" ({} : LoggingSettings).threshold (single threshold)
  let layout := field entries "format" ({} : LoggingSettings).layout (single layout)
  let file := field entries "file" ({} : LoggingSettings).file (single file)
  let size := field entries "max_file_size_mb" ({} : LoggingSettings).maxMegabytes
    (single (integerFrom 1))
  let backups := field entries "backup_count" ({} : LoggingSettings).backups
    (single (integerFrom 0))
  let unknown :=
    unknownKeys ["level", "format", "file", "max_file_size_mb", "backup_count"] entries
  match threshold, layout, file, size, backups, unknown with
  | .ok threshold, .ok layout, .ok file, .ok size, .ok backups, [] =>
    .ok ⟨threshold, layout, file, size, backups⟩
  | _, _, _, _, _, _ =>
    .error (threshold.violations ++ layout.violations ++ file.violations ++ size.violations ++
      backups.violations ++ unknown)

/-- Normalization settings from a table. -/
def normalization : Table → Checked NormalizationSettings := withUnicodeKeys fun entries =>
  let selected := field entries "options" ({} : NormalizationSettings).options options
  match selected, unknownKeys ["options"] entries with
  | .ok options, [] =>
    match Profile.select options with
    | .ok _ => .ok ⟨options⟩
    | .error error => .error [⟨[], .badOptions error⟩]
  | selected, unknown => .error (selected.violations ++ unknown)

/-- A section of settings, which has to be a table. -/
def sectionOf {α : Type} (schema : Schema) (check : Table → Checked α) : Value → Checked α
  | .table entries => check entries
  | _ => .error [⟨[], .notASection schema⟩]

def settings : Table → Checked Settings := withUnicodeKeys fun entries =>
  let log := field entries "logging" {} (sectionOf .logging logging)
  let names := field entries "normalization" {} (sectionOf .normalization normalization)
  match log, names, unknownKeys ["logging", "normalization"] entries with
  | .ok log, .ok names, [] => .ok ⟨log, names⟩
  | log, names, unknown => .error (log.violations ++ names.violations ++ unknown)

end Check

end NameKeys
