import NameKeys.Number.Binary64
import NameKeys.Text.Utf16
import NameKeys.Value.Basic

/-!
# Reading JSON

The value that a JSON text denotes. Blanks may stand around every part. Strings are read as UTF-16
units, of which two surrogates that are a pair make one code point and all other surrogates stand
alone. A number without fraction and exponent is an integer of at most 4300 digits, any other one a
floating-point number. Where a key occurs again in an object, its last value counts.
-/

namespace NameKeys

/-- Whether a code point may stand anywhere between the parts of a JSON text. -/
def CodePoint.isJsonBlank (c : CodePoint) : Bool :=
  c = ofChar ' ' || c = ofChar '\t' || c = ofChar '\n' || c = ofChar '\r'

namespace JsonReader

/-- A text from its first code point on that is no blank. -/
def skipBlanks (t : Text) : Text := t.dropWhile CodePoint.isJsonBlank

/-! ## Strings -/

/-- What may follow a backslash and the UTF-16 units it then stands for. -/
def escapes : List (Char × Nat) :=
  [('"', 0x22), ('\\', 0x5C), ('/', 0x2F), ('b', 0x08), ('f', 0x0C), ('n', 0x0A), ('r', 0x0D),
    ('t', 0x09)]

/-- The UTF-16 unit that a code point after a backslash stands for. -/
def escaped? (c : CodePoint) : Option Nat :=
  (escapes.find? fun (letter, _) => c = CodePoint.ofChar letter).map Prod.snd

/-- The UTF-16 unit of four hexadecimal digits. -/
def unit? (digits : Text) : Option Nat :=
  (digits.mapM CodePoint.hexDigit?).map fun values => values.foldl (fun n d => 16 * n + d) 0

/-- The UTF-16 units up to a closing quote, and what follows the quote. Control characters and
surrogates have to be escaped. -/
def units? : Text → Option (List Nat × Text)
  | [] => none
  | c :: rest =>
    if c = CodePoint.ofChar '"' then some ([], rest)
    else if c = CodePoint.ofChar '\\' then
      match rest with
      | [] => none
      | mark :: rest =>
        if mark = CodePoint.ofChar 'u' then
          match rest with
          | a :: b :: c :: d :: rest =>
            (unit? [a, b, c, d]).bind fun unit => (units? rest).map (Prod.map (unit :: ·) id)
          | _ => none
        else (escaped? mark).bind fun unit => (units? rest).map (Prod.map (unit :: ·) id)
    else if c.val < 0x20 ∨ c.isSurrogate then none
    else (units? rest).map (Prod.map (Utf16.unitsOf c ++ ·) id)

/-- The text up to a closing quote, and what follows the quote. -/
def string? (t : Text) : Option (Text × Text) := (units? t).map (Prod.map Utf16.pairUp id)

/-! ## Numbers -/

/-- The digits before the point and what follows them. They do not begin with a zero unless it is the
only digit. -/
def whole? (t : Text) : Option (List Nat × Text) :=
  let (digits, rest) := Text.spanDigits t
  if digits.isEmpty ∨ (1 < digits.length ∧ digits.head? = some 0) then none
  else some (digits, rest)

/-- The digits after the point, if there is one, and what follows them. -/
def fraction? (t : Text) : Option (List Nat × Text) :=
  match Text.afterPrefix? "." t with
  | none => some ([], t)
  | some after =>
    match Text.spanDigits after with
    | ([], _) => none
    | (digits, rest) => some (digits, rest)

/-- The exponent, if there is one, and what follows it. -/
def exponent? : Text → Option (Option Int × Text)
  | [] => some (none, [])
  | c :: after =>
    if c = CodePoint.ofChar 'e' ∨ c = CodePoint.ofChar 'E' then
      let (negative, size) := Text.spanSign after
      match Text.spanDigits size with
      | ([], _) => none
      | (digits, rest) => some (some (Text.signed negative digits), rest)
    else some (none, c :: after)

/-- The number a text begins with, its sign taken off, and what follows it. -/
def unsigned? (negative : Bool) (t : Text) : Option (Value × Text) :=
  match whole? t with
  | none => none
  | some (whole, rest) =>
    match fraction? rest with
    | none => none
    | some (fraction, rest) =>
      match fraction, exponent? rest with
      | _, none => none
      | [], some (none, rest) =>
        if whole.length ≤ maxDigits then some (.int (Text.signed negative whole), rest) else none
      | fraction, some (exponent?, rest) =>
        let exponent := exponent?.getD 0 - fraction.length
        some (.float (Binary64.ofDecimal negative (whole ++ fraction) exponent), rest)

/-- The number a text begins with, and what follows it. -/
def number? (t : Text) : Option (Value × Text) :=
  match Text.afterPrefix? "-" t with
  | some size => unsigned? true size
  | none => unsigned? false t

/-! ## Values -/

def words : List (Text × Value) := [("null", .null), ("true", .bool true), ("false", .bool false)]

/-- The word a text begins with, and what follows it. -/
def word? (t : Text) : Option (Value × Text) :=
  words.findSome? fun (word, v) => (Text.afterPrefix? word t).map (v, ·)

/-- What stands between commas up to a closing code point, at least one item, and what follows. Each
item takes a code point, so a bound above the length of the text is no limit. -/
def sequence? {α : Type} (close : CodePoint) (item? : Text → Option (α × Text)) :
    (bound : Nat) → Text → Option (List α × Text)
  | 0, _ => none
  | bound + 1, t =>
    match item? t with
    | none => none
    | some (item, rest) =>
      match skipBlanks rest with
      | [] => none
      | c :: rest =>
        if c = close then some ([item], rest)
        else if c = CodePoint.ofChar ',' then
          (sequence? close item? bound rest).map (Prod.map (item :: ·) id)
        else none

/-- The key and the value that a text begins with, and what follows them. -/
def member? (value? : Text → Option (Value × Text)) (t : Text) :
    Option ((Text × Value) × Text) :=
  match (Text.afterPrefix? "\"" (skipBlanks t)).bind string? with
  | none => none
  | some (key, rest) =>
    ((Text.afterPrefix? ":" (skipBlanks rest)).bind value?).map (Prod.map (key, ·) id)

/-- The table of keys and values in the order in which they are read. -/
def ofMembers (members : List (Text × Value)) : Table :=
  members.foldl (fun entries (key, v) => Entries.put key v entries) []

/-- The value a text begins with, and what follows it. A value inside of another one is shorter by a
code point at least, so a bound above the length of the text is no limit. -/
def value? : (bound : Nat) → Text → Option (Value × Text)
  | 0, _ => none
  | bound + 1, t =>
    match skipBlanks t with
    | [] => none
    | c :: rest =>
      if c = CodePoint.ofChar '"' then (string? rest).map (Prod.map .text id)
      else if c = CodePoint.ofChar '[' then
        match Text.afterPrefix? "]" (skipBlanks rest) with
        | some rest => some (.list [], rest)
        | none =>
          (sequence? (CodePoint.ofChar ']') (value? bound) bound rest).map (Prod.map .list id)
      else if c = CodePoint.ofChar '\x7b' then
        match Text.afterPrefix? "\x7d" (skipBlanks rest) with
        | some rest => some (.table [], rest)
        | none =>
          (sequence? (CodePoint.ofChar '\x7d') (member? (value? bound)) bound rest).map
            (Prod.map (.table ∘ ofMembers) id)
      else (word? (c :: rest)).or (number? (c :: rest))

end JsonReader

/-- The value that a text denotes in JSON. -/
def Value.ofJson? (t : Text) : Option Value :=
  match JsonReader.value? (t.length + 1) t with
  | some (v, rest) => if (JsonReader.skipBlanks rest).isEmpty then some v else none
  | none => none

end NameKeys
