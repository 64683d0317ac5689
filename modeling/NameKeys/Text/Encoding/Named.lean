import NameKeys.Text.CodePage.Named
import NameKeys.Text.Encoding.Basic

/-!
# Names of encodings

The names under which a stream can ask for an encoding. The case of a name does not matter, and
neither does what stands between its words.
-/

namespace NameKeys

/-- Why a name stands for no encoding that a key can be written in: no encoding has the name, or one
of something else than texts, or one that refuses keys and possibly texts without escapes as well,
or it is no name at all. -/
inductive EncodingFault where
  | unknown (name : Text)
  | notOfTexts (name : Text)
  | refusing (name reason : Text) (alsoPlain : Bool)
  | zeroInName

namespace Encoding

/-- The encodings that are no code pages with their names, which are in lower case and have
underscores between their words. -/
def names : List (Encoding × List String) :=
  [(utf8 false, ["utf_8", "utf8", "u8", "utf", "cp65001", "utf8_ucs2", "utf8_ucs4"]),
    (utf8 true, ["utf_8_sig"]),
    (utf16 .little true, ["utf_16", "utf16", "u16"]),
    (utf16 .little false, ["utf_16_le", "utf_16le", "unicodelittleunmarked"]),
    (utf16 .big false, ["utf_16_be", "utf_16be", "unicodebigunmarked"]),
    (utf32 .little true, ["utf_32", "utf32", "u32"]),
    (utf32 .little false, ["utf_32_le", "utf_32le"]),
    (utf32 .big false, ["utf_32_be", "utf_32be"]),
    (utf7, ["utf_7", "utf7", "u7", "unicode_1_1_utf_7"]),
    (ascii, ["ascii", "us_ascii", "646", "us", "cp367", "ibm367", "iso646_us", "iso_ir_6",
      "csascii", "ansi_x3.4_1968", "ansi_x3_4_1968", "ansi_x3.4_1986", "iso_646.irv_1991"]),
    (latin1, ["latin_1", "latin1", "latin", "l1", "iso_8859_1", "iso8859_1", "iso8859", "8859",
      "cp819", "ibm819", "iso_ir_100", "csisolatin1", "iso_8859_1_1987", "charmap"]),
    (escaped false, ["unicode_escape"]),
    (escaped true, ["raw_unicode_escape"]),
    (hz, ["hz", "hzgb", "hz_gb", "hz_gb_2312"]),
    (punycode, ["punycode"])] ++
  Multibyte.named.map (fun (m, names) => (multibyte m, names)) ++
  Iso2022.named.map fun (way, names) => (iso2022 way, names)

/-- The encodings that are no code pages under their names. -/
def named : List (Encoding × List Text) :=
  names.map fun (encoding, names) => (encoding, names.map Text.ofString)

/-- The names of encodings of bytes as bytes and of texts as texts. -/
def namedOtherwise : List Text :=
  ["base64", "base64_codec", "base_64", "bz2", "bz2_codec", "hex", "hex_codec", "quopri",
    "quopri_codec", "quoted_printable", "quotedprintable", "rot13", "rot_13", "uu", "uu_codec",
    "zip", "zlib", "zlib_codec"]

/-- The names of encodings that refuse every key, with the reason, and whether they refuse every
text: domain names leave no room for escapes. -/
def refusing : List (Text × Text × Bool) :=
  [("idna", "unsupported error handling surrogateescape", false),
    ("undefined", "undefined encoding", true)]

/-- A name in lower case, with one underscore for whatever stands between words of letters, digits
and points. -/
def plainName (name : Text) : Text :=
  let isWordPart (c : CodePoint) : Bool :=
    (0x30 ≤ c.val && c.val ≤ 0x39) || (0x41 ≤ c.val && c.val ≤ 0x5A) ||
    (0x61 ≤ c.val && c.val ≤ 0x7A) || c = CodePoint.ofChar '.'
  let lower (c : CodePoint) : CodePoint :=
    if 0x41 ≤ c.val ∧ c.val ≤ 0x5A then CodePoint.ofNat (c.val + 0x20) else c
  let spaced := name.map fun c => if isWordPart c then lower c else CodePoint.ofChar ' '
  Text.join "_" ((Text.splitOn ' ' spaced).filter fun word => !word.isEmpty)

def ofPlainName? (plain : Text) : Option Encoding :=
  match named.find? fun (_, names) => plain ∈ names with
  | some (encoding, _) => some encoding
  | none => (List.lookup plain CodePage.named).map page

/-- The encoding of a name, in which points may stand for underscores. -/
def ofName (name : Text) : Except EncodingFault Encoding :=
  let plain := plainName name
  let withoutPoints := Text.replace (CodePoint.ofChar '.') (CodePoint.ofChar '_') plain
  if name.contains (CodePoint.ofNat 0) then .error .zeroInName
  else
    match (ofPlainName? plain).or (ofPlainName? withoutPoints), List.lookup plain refusing with
    | some encoding, _ => .ok encoding
    | none, some (reason, alsoPlain) => .error (.refusing name reason alsoPlain)
    | none, none => .error (if plain ∈ namedOtherwise then .notOfTexts name else .unknown name)

/-- The encoding of a stream that gives a name for it. A stream that gives none, or an empty one,
takes UTF-8. -/
def ofStream (name? : Option Text) : Except EncodingFault Encoding :=
  match name? with
  | none | some [] => .ok plainUtf8
  | some name => ofName name

end Encoding

end NameKeys
