import NameKeys.Value.Literal

/-!
# JSON

Values as JSON on one line of printable ASCII. Everything outside ASCII and every control character
is escaped by its UTF-16 units, lone surrogates included. A value JSON has no place for is written
as the text that displays it.
-/

namespace NameKeys

namespace CodePoint

/-- A UTF-16 unit escaped by its number. -/
def unitEscape (unit : Nat) : Text := "\\u" ++ Text.hex 4 unit

/-- One code point as it stands in a JSON string. -/
def jsonWithin (c : CodePoint) : Text :=
  if c = ofChar '"' then "\\\""
  else if c = ofChar '\\' then "\\\\"
  else if c = ofChar '\n' then "\\n"
  else if c = ofChar '\r' then "\\r"
  else if c = ofChar '\t' then "\\t"
  else if c.val = 0x0C then "\\f"
  else if c.val = 0x08 then "\\b"
  else if 0x20 ≤ c.val ∧ c.val ≤ 0x7E then [c]
  else if c.val < 0x10000 then unitEscape c.val
  else
    let offset := c.val - 0x10000
    unitEscape (0xD800 + offset / 0x400) ++ unitEscape (0xDC00 + offset % 0x400)

end CodePoint

def Text.json (t : Text) : Text := "\"" ++ t.flatMap CodePoint.jsonWithin ++ "\""

/-- The JSON number of a floating-point number, or its name if it is no finite number. -/
def Binary64.json : Binary64 → Text
  | .nan => "NaN"
  | .infinity negative => if negative then "-Infinity" else "Infinity"
  | x => x.toText

namespace Value

mutual

def json : Value → Text
  | null => "null"
  | bool b => if b then "true" else "false"
  | int n => Text.ofInt n
  | float x => x.json
  | text t => Text.json t
  | list items | tuple items => "[" ++ Text.join ", " (jsonItems items) ++ "]"
  | table entries => "\x7b" ++ Text.join ", " (jsonEntries entries) ++ "\x7d"
  | bytes bs => Text.json (display (bytes bs))
  | set items => Text.json (display (set items))
  | generator items => Text.json (display (generator items))
  | option o => Text.json (display (option o))
  | form f => Text.json (display (form f))
  | fold f => Text.json (display (fold f))
  | moment m => Text.json (display (moment m))
termination_by structural v => v

def jsonItems : List Value → List Text
  | [] => []
  | v :: vs => json v :: jsonItems vs
termination_by structural vs => vs

/-- The JSON of the entries of a table. -/
def jsonEntries : List (Text × Value) → List Text
  | [] => []
  | (key, v) :: rest => (Text.json key ++ ": " ++ json v) :: jsonEntries rest
termination_by structural entries => entries

end

end Value

end NameKeys
