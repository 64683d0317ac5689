import NameKeys.Text.Encoding.Basic

/-!
# Strict encoding

Texts encoded without escapes of any kind. A text that the encoding does not hold is refused, with
the first stretch of it that is to blame.
-/

namespace NameKeys

/-- A stretch of a text, and its place in the text, that an encoding does not hold. -/
structure Unencodable where
  encoding : Encoding
  position : Nat
  stretch : Text

namespace Encoding

/-- The name of an encoding in messages. -/
def label : Encoding → Text
  | utf8 _ => "utf-8"
  | utf16 _ true => "utf-16"
  | utf16 .little false => "utf-16-le"
  | utf16 .big false => "utf-16-be"
  | utf32 _ true => "utf-32"
  | utf32 .little false => "utf-32-le"
  | utf32 .big false => "utf-32-be"
  | utf7 => "utf7"
  | ascii => "ascii"
  | latin1 => "latin-1"
  | page _ => "charmap"
  | escaped false => "unicodeescape"
  | escaped true => "rawunicodeescape"
  | multibyte m => m.label
  | iso2022 way => way.label
  | hz => "hz"
  | punycode => "punycode"

/-- Why an encoding does not hold a code point. -/
def limit : Encoding → Text
  | ascii => "ordinal not in range(128)"
  | latin1 => "ordinal not in range(256)"
  | page _ => "character maps to <undefined>"
  | multibyte _ | iso2022 _ | hz => "illegal multibyte sequence"
  | _ => "surrogates not allowed"

/-- How much of a stretch that an encoding does not hold is blamed at once: all of it, or one code
point where the encoding has units of several bytes. -/
def blamed (encoding : Encoding) (stretch : Text) : Text :=
  match encoding with
  | utf16 _ _ | utf32 _ _ => stretch.take 1
  | _ => stretch

/-- The bytes of a text that the encoding holds and that may go on, after the mark if there is
one. -/
def encodeStrictly (encoding : Encoding) (t : Text) : Except Unencodable (List UInt8) :=
  match encoding.withCoder? fun coder => coder.piece t with
  | some piece => piece.mapError fun (position, c) => ⟨encoding, position, [c]⟩
  | none =>
    let held := t.takeWhile encoding.holds
    match t.dropWhile encoding.holds with
    | [] => .ok (encoding.encode t)
    | rest =>
      .error ⟨encoding, held.length, encoding.blamed (rest.takeWhile fun c => !encoding.holds c)⟩

end Encoding

/-- The message about a text that an encoding does not hold. -/
def Unencodable.message (e : Unencodable) : Text :=
  let blamed : Text :=
    match e.stretch with
    | [c] => "character '" ++ Escaped.escape c ++ "' in position " ++ Text.ofNat e.position
    | stretch =>
      "characters in position " ++ Text.ofNat e.position ++ "-" ++
        Text.ofNat (e.position + stretch.length - 1)
  "'" ++ e.encoding.label ++ "' codec can't encode " ++ blamed ++ ": " ++ e.encoding.limit

end NameKeys
