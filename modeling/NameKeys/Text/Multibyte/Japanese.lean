import NameKeys.Text.CharacterSet.Cp932
import NameKeys.Text.CharacterSet.JisX0208
import NameKeys.Text.CharacterSet.JisX0212
import NameKeys.Text.CharacterSet.JisX0213
import NameKeys.Text.Multibyte.Layout

/-!
# Japanese layouts

Two ways to write the Japanese character sets, each with ASCII and with narrow katakana in single
bytes or behind a byte of their own. EUC-JP writes row and cell of a place as they are, and the
second plane behind a byte of its own. Shift JIS puts two rows behind each first byte.
-/

namespace NameKeys

open CharacterSet

namespace Grid

/-- Rows of 94 places in two bytes from `0xA1` on. -/
def high (set : CharacterSet) : Grid := ⟨[[(0xA1, 0xFE)], [(0xA1, 0xFE)]], set, 0⟩

/-- Rows of 94 places in two bytes from `0x21` on. -/
def low (set : CharacterSet) : Grid := ⟨[[(0x21, 0x7E)], [(0x21, 0x7E)]], set, 0⟩

/-- Rows of 94 places in two bytes from `0xA1` on behind a byte that tells the plane. -/
def highBehind (lead : Nat) (set : CharacterSet) : Grid :=
  ⟨[[(lead, lead)], [(0xA1, 0xFE)], [(0xA1, 0xFE)]], set, 0⟩

/-- The two bytes of Shift JIS: those for the first leave out the narrow katakana. -/
def shiftedBytes : List ByteRanges :=
  [[(0x81, 0x9F), (0xE0, 0xFC)], [(0x40, 0x7E), (0x80, 0xFC)]]

/-- Rows of 94 places in the two bytes of Shift JIS. -/
def shifted (set : CharacterSet) : Grid := ⟨shiftedBytes, set, 0⟩

/-- The narrow katakana in single bytes. -/
def katakana : Grid := ofRange 0xA1 0xDF 0xFF61

/-- The narrow katakana behind a byte of their own. -/
def katakanaBehind : Grid :=
  ⟨[[(0x8E, 0x8E)], [(0xA1, 0xDF)]], [⟨0, .consecutive 0xFF61 63⟩], 0⟩

/-- The bytes below `0x80` in the Japanese way, with the yen sign and the overline. -/
def roman : Grid :=
  ⟨[[(0, 0x7F)]], [⟨0, .consecutive 0 0x5C⟩, ⟨0x5C, .consecutive 0xA5 1⟩,
    ⟨0x5D, .consecutive 0x5D 0x21⟩, ⟨0x7E, .consecutive 0x203E 1⟩,
    ⟨0x7F, .consecutive 0x7F 1⟩], 0⟩

/-- The backslash and the tilde among wide signs, where the single bytes have none. -/
def wideAscii : Grid :=
  shifted [⟨31, .consecutive 0x5C 1⟩, ⟨111, .consecutive 0x7E 1⟩]

end Grid

namespace CharacterSet

/-- The rows of the second plane of JIS X 0213, counted from 0, in the order in which Shift JIS
appends them to the first plane. -/
def secondPlaneRows : List Nat :=
  [0, 7, 2, 3, 4, 11, 12, 13, 14, 77, 78, 79, 80, 81, 82, 83, 84, 85, 86, 87, 88, 89, 90, 91, 92,
    93]

/-- The second plane as further rows of the first one. -/
def appended (set : CharacterSet) : CharacterSet := movingRows 94 94 secondPlaneRows set

end CharacterSet

namespace Layout

/-- The yen sign and the overline are written as the signs that ASCII has in their places. -/
def romanSigns : List (CodePoint × List UInt8) :=
  [(CodePoint.ofNat 0xA5, [0x5C]), (CodePoint.ofNat 0x203E, [0x7E])]

/-- EUC-JP has a plane of three bytes. -/
def planeOpening : List (List ByteRanges × Nat) := [([[(0x8F, 0x8F)]], 3)]

/-- EUC-JP with JIS X 0208 and JIS X 0212. -/
def eucJp : Layout where
  grids := [.ascii, .katakanaBehind, .high jisX0208, .highBehind 0x8F jisX0212]
  alsoWritten := romanSigns
  openings := planeOpening

/-- EUC-JP with JIS X 0213 as it was before 2004. -/
def eucJisX0213 : Layout where
  grids :=
    [.ascii, .katakanaBehind, .high jisX0208, .high jisX0213First, .highBehind 0x8F jisX0213Second,
      .highBehind 0x8F jisX0213Before, .highBehind 0x8F jisX0212]
  gridsToRead := [.high jisX0213Free]
  pairs := pairsIn [[(0xA1, 0xFE)], [(0xA1, 0xFE)]] jisX0213Pairs
  pairsTakeZero := true
  neverWritten := [0x7626, 0x7E6B, 0x9B1C].map CodePoint.ofNat
  openings := planeOpening

/-- EUC-JP with JIS X 0213 as it is since 2004. -/
def eucJis2004 : Layout where
  grids :=
    [.ascii, .katakanaBehind, .high jisX0208, .high jisX0213First, .high jisX0213Added,
      .highBehind 0x8F jisX0213Second, .highBehind 0x8F jisX0213Since, .highBehind 0x8F jisX0212]
  pairs := pairsIn [[(0xA1, 0xFE)], [(0xA1, 0xFE)]] jisX0213Pairs
  pairsTakeZero := true
  openings := planeOpening

def shiftJis : Layout where
  grids := [.ascii, .katakana, .shifted jisX0208]
  alsoWritten := romanSigns

/-- Shift JIS with JIS X 0213 as it was before 2004. -/
def shiftJisX0213 : Layout where
  grids :=
    [.roman, .katakana, .wideAscii, .shifted jisX0208, .shifted jisX0213First,
      .shifted (appended jisX0213Second), .shifted (appended jisX0213Before)]
  gridsToRead := [.shifted jisX0213Free]
  pairs := pairsIn Grid.shiftedBytes jisX0213Pairs
  pairsTakeZero := true
  neverWritten := [0xFF3C, 0xFF5E].map CodePoint.ofNat

/-- Shift JIS with JIS X 0213 as it is since 2004. -/
def shiftJis2004 : Layout where
  grids :=
    [.roman, .katakana, .wideAscii, .shifted jisX0208, .shifted jisX0213First,
      .shifted jisX0213Added, .shifted (appended jisX0213Second),
      .shifted (appended jisX0213Since)]
  pairs := pairsIn Grid.shiftedBytes jisX0213Pairs
  pairsTakeZero := true
  neverWritten := [0xFF3C, 0xFF5E].map CodePoint.ofNat

/-- Code page 932, which extends Shift JIS and has a code point for every single byte. -/
def cp932 : Layout where
  grids :=
    [.ofRange 0 0x80 0, .katakana, .ofRange 0xA0 0xA0 0xF8F0, .ofRange 0xFD 0xFF 0xF8F1,
      .shifted cp932Changes, .shifted jisX0208, .shifted cp932Additions, .shifted cp932Users,
      .shifted cp932Extensions]

end Layout

end NameKeys
