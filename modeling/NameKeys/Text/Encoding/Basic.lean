import NameKeys.Text.CodePage.Basic
import NameKeys.Text.Iso2022
import NameKeys.Text.Multibyte.Basic
import NameKeys.Text.Punycode
import NameKeys.Text.Utf7
import NameKeys.Text.Utf16

/-!
# Encodings

The encodings a stream may have. A text is encoded with every byte escape standing for its byte; a
text that the encoding cannot hold in this way is encoded with backslash escapes instead, which
every encoding can hold. An encoding may begin what it encodes with a mark.
-/

namespace NameKeys

/-- An encoding of texts as bytes. The forms of Unicode may have a mark at the beginning, and the
escaped ones may be raw. -/
inductive Encoding where
  | utf8 (marked : Bool)
  | utf16 (order : ByteOrder) (marked : Bool)
  | utf32 (order : ByteOrder) (marked : Bool)
  | utf7
  | ascii
  | latin1
  | page (page : CodePage)
  | escaped (isRaw : Bool)
  | multibyte (m : Multibyte)
  | iso2022 (way : Iso2022)
  | hz
  | punycode
  deriving DecidableEq, Repr

namespace Encoding

/-- The mark at the beginning of a text in a form of Unicode. -/
def mark : CodePoint := CodePoint.ofNat 0xFEFF

/-- UTF-8 without a mark, which streams have if they name no encoding. -/
def plainUtf8 : Encoding := utf8 false

/-- Whatever there is for every coder, for the coder of an encoding that has one. -/
def withCoder? {α : Type} (f : {σ : Type} → Coder σ → α) : Encoding → Option α
  | multibyte m => some (f m.layout.coder)
  | iso2022 way => some (f way.coder)
  | hz => some (f Hz.coder)
  | _ => none

/-- The bytes of a code point that the encoding holds. -/
def encodeOne? (encoding : Encoding) (c : CodePoint) : Option (List UInt8) :=
  match encoding with
  | utf8 _ => if c.isSurrogate then none else some (Utf8.encodeOne c)
  | utf16 order _ =>
    if c.isSurrogate then none else some ((Utf16.unitsOf c).flatMap (order.split 2))
  | utf32 order _ => if c.isSurrogate then none else some (order.split 4 c.val)
  | utf7 => some (Utf7.encode [c])
  | ascii => if c.val < 0x80 then some [UInt8.ofNat c.val] else none
  | latin1 => if c.val < 0x100 then some [UInt8.ofNat c.val] else none
  | page p => (p.encodeOne? c).map fun b => [b]
  | escaped isRaw => some (Escaped.encode isRaw [c])
  | punycode => some (Punycode.encode [c])
  | encoding => (encoding.withCoder? fun coder => coder.encode? [c]).join

/-- Whether the encoding holds a code point. -/
def holds (encoding : Encoding) (c : CodePoint) : Bool := (encoding.encodeOne? c).isSome

/-- Whether single bytes can stand among the bytes of an encoding. -/
def holdsBytes : Encoding → Bool
  | utf16 _ _ | utf32 _ _ => false
  | _ => true

/-- The bytes of a code point, where a byte escape stands for its byte. -/
def encodeUnescaping? (encoding : Encoding) (c : CodePoint) : Option (List UInt8) :=
  match encoding.encodeOne? c with
  | some bytes => some bytes
  | none =>
    if c.isByteEscape && encoding.holdsBytes then some [UInt8.ofNat (c.val - 0xDC00)] else none

/-- The bytes of a code point, or those of its backslash escape. -/
def encodeEscaping (encoding : Encoding) (c : CodePoint) : List UInt8 :=
  (encoding.encodeOne? c).getD
    ((Escaped.escape c).flatMap fun d => (encoding.encodeOne? d).getD [])

/-- The bytes of the mark that an encoding begins with. -/
def markBytes : Encoding → List UInt8
  | utf8 true => Utf8.encodeOne mark
  | utf16 order true => order.split 2 mark.val
  | utf32 order true => order.split 4 mark.val
  | _ => []

/-- The bytes of a text without a mark. In UTF-7 and Punycode, which hold all texts, and with a
coder the bytes of a code point depend on the others. -/
def encodePlain (encoding : Encoding) (t : Text) : List UInt8 :=
  match encoding with
  | utf7 => Utf7.encode t
  | punycode => Punycode.encode t
  | encoding =>
    match encoding.withCoder? fun coder => coder.encode t with
    | some bytes => bytes
    | none =>
      match t.mapM encoding.encodeUnescaping? with
      | some pieces => pieces.flatten
      | none => t.flatMap encoding.encodeEscaping

/-- The bytes of a text that are written for it, after the mark if there is one. -/
def encode (encoding : Encoding) (t : Text) : List UInt8 :=
  encoding.markBytes ++ encoding.encodePlain t

/-- The text of some bytes without a mark, with the replacement character for what is no text. -/
def decodePlain (encoding : Encoding) (bytes : List UInt8) : Text :=
  match encoding with
  | utf8 _ => Utf8.decodeReplacing bytes
  | utf16 order _ => Utf16.ofUnits (order.pairs bytes)
  | utf32 order _ => (order.quadruples bytes).map Utf32.ofUnit
  | utf7 => Utf7.decode bytes
  | ascii => bytes.map fun b => if b < 0x80 then CodePoint.ofNat b.toNat else Utf8.replacement
  | latin1 => bytes.map fun b => CodePoint.ofNat b.toNat
  | page p => bytes.map p.decodeOne
  | escaped isRaw => Escaped.decode isRaw bytes
  | punycode => Punycode.decode bytes
  | encoding => (encoding.withCoder? fun coder => coder.decode bytes).getD []

/-- The text of some bytes, with the replacement character for what is no text. The mark of a marked
encoding is no part of the text. -/
def decode (encoding : Encoding) (bytes : List UInt8) : Text :=
  let mark := encoding.markBytes
  encoding.decodePlain (if mark.isPrefixOf bytes then bytes.drop mark.length else bytes)

end Encoding

end NameKeys
