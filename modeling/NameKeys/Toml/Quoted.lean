import NameKeys.Text.Blank
import NameKeys.Toml.Fault

/-!
# TOML strings

Strings between single or double quotes, one or three of them on each side. A string is given with
its quotes. It is checked that nothing follows its closing quote; then, between double quotes, the
escapes are resolved; last the quotes are taken off.
-/

namespace NameKeys.Toml

def doubleQuote : CodePoint := CodePoint.ofChar '"'

def singleQuote : CodePoint := CodePoint.ofChar '\''

def backslash : CodePoint := CodePoint.ofChar '\\'

def isQuote (c : CodePoint) : Bool := c = doubleQuote || c = singleQuote

/-- Whether a text begins with a quote. -/
def startsQuoted (t : Text) : Bool := t.head?.any isQuote

/-- Whether the backslashes directly before a place, where the text before it is given backwards,
leave one without a partner. -/
def followsEscape (behind : Text) : Bool := (behind.takeWhile (· = backslash)).length % 2 = 1

/-- Whether the backslashes at the end of a text leave one without a partner. -/
def endsEscaping (t : Text) : Bool := followsEscape t.reverse

/-! ## Quotes -/

/-- The pieces of a line at its double quotes, the first of them cut at its single quotes as well.
-/
def cutFirst : List Text → List Text
  | [] => []
  | first :: rest => Text.splitOn singleQuote first ++ rest

/-- Adds pieces between double quotes to the last of an even number of pieces between single quotes:
the last is inside a string until a single quote closes it. -/
def closeSingle (opened : List Text) : List Text → List Text
  | [] => opened
  | piece :: rest =>
    if opened.length % 2 = 0 then
      let last := opened.getLastD [] ++ [doubleQuote] ++ piece
      closeSingle (opened.dropLast ++ Text.splitOn singleQuote last) rest
    else opened ++ cutFirst (piece :: rest)

/-- The pieces of a line between its quotes, so that every second one stands for the inside of a
string. A single quote that opens before the first double quote takes double quotes in. -/
def splitQuotes (line : Text) : List Text :=
  match Text.splitOn doubleQuote line with
  | first :: second :: rest =>
    if first.contains singleQuote then closeSingle (Text.splitOn singleQuote first) (second :: rest)
    else cutFirst (first :: second :: rest)
  | pieces => cutFirst pieces

/-- How many occurrences of a separator stand inside the strings of a line before the first that
stands outside of them. -/
def quotedOccurrences (separator line : Text) : Nat := count false (splitQuotes line)
where
  /-- Counts over the pieces of a line between its quotes. -/
  count : (isInside : Bool) → List Text → Nat
    | _, [] => 0
    | isInside, piece :: rest =>
      let occurrences := (Text.splitAround separator piece).length - 1
      if !isInside && occurrences ≠ 0 then 0 else occurrences + count (!isInside) rest

/-- Whether the pieces of a string between its quotes go on after the string is closed. A piece that
ends in a backslash without a partner does not end at a quote. Of a long string, `empty` counts the
empty pieces, and two of them close it. -/
def goesOn (isLong : Bool) : (closed : Bool) → (empty : Nat) → List Text → Bool
  | _, _, [] => false
  | closed, empty, piece :: rest =>
    if piece.isEmpty then
      if isLong then goesOn isLong closed (empty + 1) rest else goesOn isLong true empty rest
    else if endsEscaping piece then goesOn isLong closed empty rest
    else if closed then true
    else if !isLong || 1 < empty then goesOn isLong true empty rest
    else goesOn isLong closed 0 rest

/-- Whether something follows the closing quote of a string, whose first quote is given apart. -/
def hasTail (quote : CodePoint) (rest : Text) : Bool :=
  match Text.splitOn quote rest with
  | [] :: [] :: pieces => goesOn true false 0 pieces
  | pieces => goesOn false false 0 pieces

/-! ## Escapes -/

/-- The letters after a backslash that stand for a code point. -/
def escapes : List (Char × Nat) :=
  [('0', 0x00), ('b', 0x08), ('f', 0x0C), ('n', 0x0A), ('r', 0x0D), ('t', 0x09), ('"', 0x22)]

/-- The code point that a letter after a backslash stands for. -/
def escaped? (c : CodePoint) : Option CodePoint :=
  (escapes.find? fun (letter, _) => c = CodePoint.ofChar letter).map fun (_, n) => CodePoint.ofNat n

/-- Whether a letter after a backslash announces the number of a code point. -/
def announcesNumber (c : CodePoint) : Bool :=
  c = CodePoint.ofChar 'u' || c = CodePoint.ofChar 'U'

/-- Whether all backslashes of a text have something to stand before, given the pieces after each of
them. -/
def haveMeaning : (afterBackslash : Bool) → List Text → Bool
  | _, [] => true
  | afterBackslash, [] :: rest => haveMeaning (!afterBackslash) rest
  | afterBackslash, (c :: _) :: rest =>
    ((escaped? c).isSome || announcesNumber c || afterBackslash) && haveMeaning false rest

/-- The code point of the hexadecimal digits at the beginning of a text, and the rest of the text.
-/
def readNumber (width : Nat) (t : Text) : Except Fault (CodePoint × Text) :=
  match (t.take width).mapM CodePoint.hexDigit? with
  | none => .error .malformed
  | some [] | some [0xD] => .error .textTooShort
  | some digits =>
    let value := digits.foldl (fun n d => 16 * n + d) 0
    if digits.head? = some 0xD ∧ 7 < (digits.drop 1).headD 0 then .error .malformed
    else if value < 0x110000 then .ok (CodePoint.ofNat value, t.drop width)
    else if value < 0x80000000 then .error .malformed
    else .error .escapeTooGreat

/-- A text with the numbers after the mark of an escape replaced by their code points, given the
pieces after each mark. Where the mark's backslash belongs to the one before it, the mark stands for
itself. -/
def replaceNumbers (mark : Text) (width : Nat) (before : Text) : List Text → Except Fault Text
  | [] => .ok before
  | piece :: rest => replace (endsEscaping before) before (piece :: rest)
where
  /-- Replaces the numbers of the remaining pieces; `isPlain` says whether the next mark stands for
  itself. -/
  replace (isPlain : Bool) (before : Text) : List Text → Except Fault Text
    | [] => .ok before
    | piece :: rest =>
      if isPlain then replace (endsEscaping piece) (before ++ mark ++ piece) rest
      else
        match readNumber width piece with
        | .ok (c, after) => replace false (before ++ c :: after) rest
        | .error fault => .error fault

/-- A text with the numbers of its escapes resolved that follow the letter. -/
def resolveNumbers (letter : Char) (width : Nat) (t : Text) : Except Fault Text :=
  let mark : Text := [backslash, CodePoint.ofChar letter]
  match Text.splitAround mark t with
  | before :: pieces => replaceNumbers mark width before pieces
  | [] => .ok t

/-- A text with its escapes resolved. Marks of numbers are left as they are. -/
def resolveLetters : Text → Except Fault Text
  | [] => .ok []
  | [c] => .ok [c]
  | c :: d :: rest =>
    if c = backslash then
      match escaped? d with
      | some e => (resolveLetters rest).map (e :: ·)
      | none =>
        if d = backslash then (resolveLetters rest).map (d :: ·)
        else if announcesNumber d then (resolveLetters rest).map (c :: d :: ·)
        else .error .malformed
    else (resolveLetters (d :: rest)).map (c :: ·)

/-- A text between double quotes with all its escapes resolved. -/
def resolveEscapes (t : Text) : Except Fault Text := do
  if haveMeaning false ((Text.splitOn backslash t).drop 1) then
    resolveLetters (← resolveNumbers 'U' 8 (← resolveNumbers 'u' 4 t))
  else throw .malformed

/-! ## Strings -/

/-- A string without its quotes, one or three on each side. -/
def dropQuotes (quote : CodePoint) (t : Text) : Text :=
  match t with
  | _ :: b :: rest =>
    if b = quote ∧ (rest.isEmpty ∨ rest.head? = some b) then Text.inner (Text.inner (Text.inner t))
    else Text.inner t
  | _ => Text.inner t

/-- The text that a string with its quotes stands for. -/
def readString (quote : CodePoint) (rest : Text) : Except Fault Text := do
  if hasTail quote rest then throw .malformed
  let t := quote :: rest
  return dropQuotes quote (← if quote = doubleQuote then resolveEscapes t else .ok t)

end NameKeys.Toml
