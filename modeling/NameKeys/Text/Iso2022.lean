import NameKeys.Text.Hz
import NameKeys.Text.Multibyte.Korean

/-!
# ISO 2022

Several character sets in bytes below `0x80`. An escape sequence designates a character set for the
bytes that follow, ASCII in the beginning and at the end. In the Korean way the set is designated
for shifted bytes, and single bytes shift to it and back. One way has two sets to read single code
points from, which are designated apart from the others.
-/

namespace NameKeys

/-- The last byte of the escape sequence that designates a character set, and whether the set has
two bytes for a code point. -/
structure SetMark where
  isWide : Bool
  final : UInt8
  deriving DecidableEq, Repr

namespace SetMark

def ascii : SetMark := ⟨false, 0x42⟩

/-- The mark of Latin letters to read single code points from. -/
def latin : SetMark := ⟨false, 0x41⟩

/-- The mark of Greek letters to read single code points from. -/
def greek : SetMark := ⟨false, 0x46⟩

/-- The mark of JIS X 0208, which has a shorter escape sequence than other sets with two bytes. -/
def jisX0208 : SetMark := ⟨true, 0x42⟩

end SetMark

/-- A character set that can be designated, with the sequences of bytes for its code points. -/
structure Designation where
  mark : SetMark
  layout : Layout
  /-- Whether only pairs of code points are written in the set. -/
  onlyPairs : Bool := false

namespace Designation

def jisX0208 : Designation := ⟨SetMark.jisX0208, { grids := [.low CharacterSet.jisX0208] }, false⟩

def jisX0208Before : Designation :=
  ⟨⟨true, 0x40⟩, { grids := [.low CharacterSet.jisX0208] }, false⟩

def jisX0212 : Designation := ⟨⟨true, 0x44⟩, { grids := [.low CharacterSet.jisX0212] }, false⟩

/-- The single bytes in the Japanese way. -/
def roman : Designation := ⟨⟨false, 0x4A⟩, { grids := [.roman] }, false⟩

def katakana : Designation := ⟨⟨false, 0x49⟩, { grids := [.ofRange 0x21 0x5F 0xFF61] }, false⟩

def gb2312 : Designation := ⟨⟨true, 0x41⟩, Hz.hanzi, false⟩

def ksX1001 : Designation :=
  ⟨⟨true, 0x43⟩,
    { grids :=
        [.low CharacterSet.ksX1001, .low CharacterSet.ksX1001Letters,
          .low CharacterSet.ksX1001Filler] },
    false⟩

/-- The first plane of JIS X 0213 under a mark, with what it has besides the common places. -/
def jisX0213First (final : UInt8) (more : List CharacterSet) (onlyPairs : Bool) : Designation :=
  ⟨⟨true, final⟩,
    { grids := ([CharacterSet.jisX0208, CharacterSet.jisX0213First] ++ more).map Grid.low
      pairs := Layout.pairsIn [[(0x21, 0x7E)], [(0x21, 0x7E)]] CharacterSet.jisX0213Pairs
      pairsTakeZero := true
      neverWritten := [CodePoint.ofNat 0xFF5E] },
    onlyPairs⟩

def jisX0213Second : Designation :=
  ⟨⟨true, 0x50⟩,
    { grids := [.low CharacterSet.jisX0213Second, .low CharacterSet.jisX0213Since] }, false⟩

/-- The second plane of JIS X 0213 as it is written for readers from before 2004: the place that was
changed then is read as it is since. -/
def jisX0213SecondBefore : Designation :=
  { jisX0213Second with
    layout :=
      { jisX0213Second.layout with
        alsoWritten := [(CodePoint.ofNat 0x9B1D, [0x7D, 0x3B])]
        neverWritten := [CodePoint.ofNat 0x9B1C] } }

/-- A set that is designated for single code points only. -/
def forSingles (mark : SetMark) : Designation := ⟨mark, { grids := [] }, false⟩

def width (d : Designation) : Nat := if d.mark.isWide then 2 else 1

/-- The bytes of a code point before another one or at the end, and whether they stand for the other
one as well. -/
def write? (d : Designation) (c : CodePoint) (next? : Option CodePoint) :
    Option (List UInt8 × Bool) :=
  match d.layout.write? () c next? with
  | some written =>
    if d.onlyPairs ∧ !written.takesNext then none else some (written.bytes, written.takesNext)
  | none => none

end Designation

/-- A way to use ISO 2022. -/
inductive Iso2022 where
  | jp
  | jp1
  | jp2
  | jp3
  | jp2004
  | jpExt
  | kr
  deriving DecidableEq, Repr

namespace Iso2022

/-- The character sets that can be designated. A code point is written in the first that has it. -/
def designations : Iso2022 → List Designation
  | jp => [.jisX0208, .roman, .jisX0208Before]
  | jp1 => [.jisX0208, .jisX0212, .roman, .jisX0208Before]
  | jp2 =>
    [.jisX0208, .jisX0212, .ksX1001, .gb2312, .roman, .jisX0208Before, .forSingles SetMark.latin,
      .forSingles SetMark.greek]
  | jp3 =>
    [.jisX0213First 0x4F [] true, .jisX0208, .jisX0213First 0x4F [] false, .jisX0213SecondBefore]
  | jp2004 =>
    [.jisX0213First 0x51 [CharacterSet.jisX0213Added] true, .jisX0208,
      .jisX0213First 0x51 [CharacterSet.jisX0213Added] false, .jisX0213Second]
  | jpExt => [.jisX0208, .jisX0212, .roman, .katakana, .jisX0208Before]
  | kr => [.ksX1001]

/-- Whether sets are designated for shifted bytes. -/
def shifts : Iso2022 → Bool
  | kr => true
  | _ => false

/-- Whether there are sets for single code points. -/
def readsSingles : Iso2022 → Bool
  | jp2 => true
  | _ => false

/-- The name of an encoding in messages. -/
def label : Iso2022 → Text
  | jp => "iso2022_jp"
  | jp1 => "iso2022_jp_1"
  | jp2 => "iso2022_jp_2"
  | jp3 => "iso2022_jp_3"
  | jp2004 => "iso2022_jp_2004"
  | jpExt => "iso2022_jp_ext"
  | kr => "iso2022_kr"

/-- The encodings with the names by which one can ask for them. -/
def named : List (Iso2022 × List String) :=
  [(jp, ["iso2022_jp", "csiso2022jp", "iso2022jp", "iso_2022_jp"]),
    (jp1, ["iso2022_jp_1", "iso2022jp_1", "iso_2022_jp_1"]),
    (jp2, ["iso2022_jp_2", "iso2022jp_2", "iso_2022_jp_2"]),
    (jp3, ["iso2022_jp_3", "iso2022jp_3", "iso_2022_jp_3"]),
    (jp2004, ["iso2022_jp_2004", "iso2022jp_2004", "iso_2022_jp_2004"]),
    (jpExt, ["iso2022_jp_ext", "iso2022jp_ext", "iso_2022_jp_ext"]),
    (kr, ["iso2022_kr", "csiso2022kr", "iso2022kr", "iso_2022_kr"])]

/-- The sets that are designated for plain bytes, for shifted bytes and for single code points,
whether bytes are shifted, and whether an escape sequence is read that designates nothing. -/
structure State where
  plain : SetMark
  shifted : SetMark
  single : SetMark
  isShifted : Bool
  isVerbatim : Bool
  deriving DecidableEq, Repr

/-- The state at the beginning of a text. -/
def start : State := ⟨.ascii, .ascii, .ascii, false, false⟩

/-- The byte that begins escape sequences. -/
def escape : UInt8 := 0x1B

/-- The byte that shifts the bytes after it. -/
def shiftOut : UInt8 := 0x0E

def shiftIn : UInt8 := 0x0F

/-! ## Writing -/

/-- The bytes that shift back, where bytes are shifted. -/
def shiftBack (s : State) : List UInt8 := if s.isShifted then [shiftIn] else []

/-- The escape sequence that designates a set for plain bytes, if it is not designated already. -/
def designatePlain (s : State) (mark : SetMark) : List UInt8 :=
  if s.plain = mark then []
  else if mark = .jisX0208 then [escape, 0x24, mark.final]
  else if mark.isWide then [escape, 0x24, 0x28, mark.final]
  else [escape, 0x28, mark.final]

/-- The escape sequence that designates a set for shifted bytes, if it is not designated already. -/
def designateShifted (s : State) (mark : SetMark) : List UInt8 :=
  if s.shifted = mark then [] else [escape, 0x24, 0x29, mark.final]

def write? (way : Iso2022) (s : State) (c : CodePoint) (next? : Option CodePoint) :
    Option (Written State) :=
  if c.isAscii then
    some ⟨designatePlain s .ascii ++ shiftBack s ++ [UInt8.ofNat c.val],
      { s with plain := .ascii, isShifted := false }, false⟩
  else
    way.designations.findSome? fun d =>
      (d.write? c next?).map fun (bytes, takesNext) =>
        if way.shifts then
          ⟨designateShifted s d.mark ++ (if s.isShifted then [] else [shiftOut]) ++ bytes,
            { s with shifted := d.mark, isShifted := true }, takesNext⟩
        else
          ⟨designatePlain s d.mark ++ bytes, { s with plain := d.mark }, takesNext⟩

def close (s : State) : List UInt8 := shiftBack s ++ designatePlain s .ascii

/-! ## Reading -/

/-- Whether a byte ends an escape sequence. -/
def endsEscape (b : UInt8) : Bool := (0x41 ≤ b && b ≤ 0x5A) || b = 0x40

/-- Where an escape sequence ends. -/
inductive EscapeEnd where
  | behind (length : Nat)
  | nowhere
  | later

/-- Where an escape sequence ends, looked for from the byte with a number on among the first 16.
Three bytes that announce a revision of JIS X 0208 are passed over in the Japanese ways. -/
def escapeEnd (way : Iso2022) (bytes : List UInt8) : (fuel index : Nat) → EscapeEnd
  | 0, _ => .nowhere
  | fuel + 1, index =>
    if 16 ≤ index then .nowhere
    else
      match bytes[index]? with
      | none => .later
      | some b =>
        if endsEscape b then .behind (index + 1)
        else if b = 0x26 ∧ bytes[index + 1]? = some 0x40 ∧ !way.shifts then
          escapeEnd way bytes fuel (index + 3)
        else escapeEnd way bytes fuel (index + 1)

/-- What an escape sequence designates a set for. -/
inductive Use where
  | plain
  | shifted
  | single

/-- The mark of the set that an escape sequence designates, and what for. -/
def designated? (way : Iso2022) : List UInt8 → Option (SetMark × Use)
  | [_, 0x24, final] => some (⟨true, final⟩, .plain)
  | [_, 0x28, final] => some (⟨false, final⟩, .plain)
  | [_, 0x29, final] => some (⟨false, final⟩, .shifted)
  | [_, 0x2E, final] => if way.readsSingles then some (⟨false, final⟩, .single) else none
  | [_, 0x24, 0x28, final] => some (⟨true, final⟩, .plain)
  | [_, 0x24, 0x29, final] => some (⟨true, final⟩, .shifted)
  | [_, 0x26, 0x40, 0x1B, 0x24, 0x42] => if way.shifts then none else some (.jisX0208, .plain)
  | _ => none

/-- The state behind an escape sequence that designates a set for some use. -/
def designate (s : State) (mark : SetMark) : Use → State
  | .plain => { s with plain := mark }
  | .shifted => { s with shifted := mark }
  | .single => { s with single := mark }

/-- What stands at the beginning of some bytes that begin an escape sequence. -/
def readEscape (way : Iso2022) (s : State) (bytes : List UInt8) : Reading State :=
  match escapeEnd way bytes 16 1 with
  | .later => ⟨[Utf8.replacement], bytes.length - 1, s⟩
  | .nowhere => ⟨[Utf8.replacement], 0, s⟩
  | .behind length =>
    let illFormed : Reading State := ⟨[Utf8.replacement], length - 1, s⟩
    match designated? way (bytes.take length) with
    | none => illFormed
    | some (mark, use) =>
      if mark = .ascii ∨ way.designations.any fun d => d.mark = mark then
        ⟨[], length - 1, designate s mark use⟩
      else illFormed

/-- The Greek letters to read single code points from, from the place `0xA0` on. -/
def greekLetters : Codes :=
  .listed [
    "\u00a0‘’£\ufffd\ufffd¦§¨©\ufffd«¬\u00ad\ufffd―°±²³΄΅Ά·ΈΉΊ»Ό½ΎΏ",
    "ΐΑΒΓΔΕΖΗΘΙΚΛΜΝΞΟΠΡ\ufffdΣΤΥΦΧΨΩΪΫάέήίΰαβγδεζηθικλμνξοπρςστυφχψωϊϋόύώ"]

def readSingle? (mark : SetMark) (b : UInt8) : Option CodePoint :=
  let n := b.toNat
  if mark = .latin then (if n < 0x80 then some (CodePoint.ofNat (n + 0x80)) else none)
  else if mark = .greek then
    if n < 0x20 then some (CodePoint.ofNat (n + 0x80))
    else if n < 0x80 then greekLetters.at? (n - 0x20)
    else some (CodePoint.ofNat (n - 0x80))
  else if mark = .ascii then (if n < 0x80 then some (CodePoint.ofNat n) else none)
  else none

/-- What stands at the beginning of some bytes in the set with a mark. -/
def readIn (way : Iso2022) (s : State) (mark : SetMark) (b : UInt8) (rest : List UInt8) :
    Reading State :=
  match way.designations.find? fun d => d.mark = mark with
  | none => ⟨[CodePoint.ofNat b.toNat], 0, s⟩
  | some d =>
    match d.layout.decodeFirst? (b :: rest) with
    | some (t, length) => ⟨t, length - 1, s⟩
    | none => ⟨[Utf8.replacement], d.width - 1, s⟩

/-- What stands at the beginning of some bytes. -/
def read (way : Iso2022) (s : State) (b : UInt8) (rest : List UInt8) : Reading State :=
  let itself : Text := [CodePoint.ofNat b.toNat]
  if s.isVerbatim then ⟨itself, 0, { s with isVerbatim := !endsEscape b }⟩
  else if b = escape then
    match rest with
    | [] => ⟨[Utf8.replacement], 0, s⟩
    | second :: further =>
      if second ∈ [0x28, 0x29, 0x24, 0x2E, 0x26] then readEscape way s (b :: rest)
      else if second = 0x4E ∧ way.readsSingles then
        match further.head?.bind (readSingle? s.single) with
        | some c => ⟨[c], 2, s⟩
        | none => ⟨[Utf8.replacement], 2, s⟩
      else ⟨itself, 0, { s with isVerbatim := true }⟩
  else if b = shiftIn ∧ way.shifts then ⟨[], 0, { s with isShifted := false }⟩
  else if b = shiftOut ∧ way.shifts then ⟨[], 0, { s with isShifted := true }⟩
  else if b = 0x0A then ⟨itself, 0, { s with isShifted := false }⟩
  else if b < 0x20 then ⟨itself, 0, s⟩
  else if 0x80 ≤ b then ⟨[Utf8.replacement], 0, s⟩
  else readIn way s (if s.isShifted then s.shifted else s.plain) b rest

/-- The coder of a way to use ISO 2022. -/
def coder (way : Iso2022) : Coder State where
  start := start
  write? := way.write?
  awaitsNext := fun c => way.designations.any fun d => d.layout.beginsPair c
  close := close
  read := way.read

end Iso2022

end NameKeys
