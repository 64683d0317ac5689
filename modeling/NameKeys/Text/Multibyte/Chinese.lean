import NameKeys.Text.CharacterSet.Big5
import NameKeys.Text.CharacterSet.Gb18030
import NameKeys.Text.CharacterSet.Gb2312
import NameKeys.Text.CharacterSet.Gbk
import NameKeys.Text.CharacterSet.Hkscs
import NameKeys.Text.Multibyte.Japanese

/-!
# Chinese layouts

The layouts for simplified Chinese write row and cell of a place in GB 2312 as they are, and their
additions with the bytes that are left. Those for traditional Chinese have rows of 157 places.
-/

namespace NameKeys

open CharacterSet

namespace Grid

def lowerSeconds : ByteRanges := [(0x40, 0x7E), (0x80, 0xA0)]

def allSeconds : ByteRanges := [(0x40, 0x7E), (0x80, 0xFE)]

/-- Consecutive code points for private use with rows of 94 places. -/
def privateRows (least greatest first count : Nat) : Grid :=
  ⟨[[(least, greatest)], [(0xA1, 0xFE)]], [⟨0, .consecutive first count⟩], 0⟩

/-- Four bytes, two of which are digits. -/
def withDigits (lead : Nat) (set : CharacterSet) : Grid :=
  ⟨[[(lead, 0xFE)], [(0x30, 0x39)], [(0x81, 0xFE)], [(0x30, 0x39)]], set, 0⟩

/-- Rows of 157 places, the first of which has the first byte `lead`. -/
def wideRows (lead : Nat) (set : CharacterSet) : Grid :=
  ⟨[[(lead, 0xFE)], [(0x40, 0x7E), (0xA1, 0xFE)]], set, 0⟩

end Grid

namespace Layout

def gb2312 : Layout where
  grids := [.ascii, .high gb2312Own, .high CharacterSet.gb2312]

def gbkGrids : List Grid :=
  [.ascii, .high gbkOwn, .high CharacterSet.gb2312, .high gbkAdditions,
    ⟨[[(0x81, 0xA0)], Grid.allSeconds], gbkHan, 0⟩,
    ⟨[[(0xAA, 0xFE)], Grid.lowerSeconds], gbkHan, 6080⟩,
    ⟨[[(0xA8, 0xA9)], Grid.lowerSeconds], gbkSigns, 0⟩]

def gbk : Layout where
  grids := gbkGrids

/-- GB 18030, which has all code points that are no surrogates: the second byte of four is a
digit. -/
def gb18030 : Layout where
  grids :=
    gbkGrids ++
      [⟨[[(0x81, 0xFE)], Grid.allSeconds], gb18030Additions, 0⟩,
        .privateRows 0xAA 0xAF 0xE000 564, .privateRows 0xF8 0xFE 0xE234 658,
        ⟨[[(0xA1, 0xA7)], Grid.lowerSeconds], [⟨0, .consecutive 0xE4C6 672⟩], 0⟩,
        .withDigits 0x81 gb18030Others, .withDigits 0x90 [⟨0, .consecutive 0x10000 0x100000⟩]]
  openings := [([[(0x80, 0xFF)], [(0x30, 0x39)]], 4)]

def big5 : Layout where
  grids :=
    [.ascii, .wideRows 0xA1 big5Own, .wideRows 0xA1 CharacterSet.big5, .wideRows 0xA1 big5Kana]
  gridsToRead := [.wideRows 0xA1 big5Slashes, .wideRows 0xA1 big5Numbers]

def cp950 : Layout where
  grids :=
    [.ascii, .wideRows 0xA1 cp950Changes, .wideRows 0xA1 big5Slashes,
      .wideRows 0xA1 CharacterSet.big5, .wideRows 0xA1 big5Kana, .wideRows 0xA1 cp950Additions]
  gridsToRead := [.wideRows 0xA1 big5Numbers]

/-- Big5 with the additions of Hong Kong. -/
def big5Hkscs : Layout where
  grids :=
    [.ascii, .wideRows 0xA1 big5Own, .wideRows 0x81 hkscs, .wideRows 0xA1 CharacterSet.big5]
  gridsToRead := [.wideRows 0xA1 big5Slashes, .wideRows 0xA1 big5Numbers]
  pairs := pairsIn [[(0x81, 0xFE)], [(0x40, 0x7E), (0xA1, 0xFE)]] hkscsPairs

end Layout

end NameKeys
