import NameKeys.Text.CharacterSet.KsX1001
import NameKeys.Text.CharacterSet.Uhc
import NameKeys.Text.Multibyte.Japanese

/-!
# Korean layouts

Of the 11172 Korean syllables KS X 1001 has 2350. EUC-KR spells the others with four of its letters,
code page 949 has them in the bytes that are left, and Johab composes all of them from the numbers
of a first letter, a vowel and a last letter.
-/

namespace NameKeys

open CharacterSet

namespace Grid

/-- The bytes of a syllable that is spelled with a filler and three letters. The filler stands for a
last letter as well where a syllable has none. -/
def spelledSyllables : Grid :=
  let row : ByteRanges := [(0xA4, 0xA4)]
  ⟨[row, [(0xD4, 0xD4)], row,
    [(0xA1, 0xA2), (0xA4, 0xA4), (0xA7, 0xA9), (0xB1, 0xB3), (0xB5, 0xBE)], row, [(0xBF, 0xD3)],
    row,
    [(0xD4, 0xD4), (0xA1, 0xA7), (0xA9, 0xB2), (0xB4, 0xB8), (0xBA, 0xBE)]],
    [⟨0, .consecutive 0xAC00 11172⟩], 0⟩

/-- The second bytes of code page 949 up to a greatest one. -/
def secondsUpTo (greatest : Nat) : ByteRanges := [(0x41, 0x5A), (0x61, 0x7A), (0x81, greatest)]

/-- Code points that share the first letter and the vowel, by their last letters: two bytes have a
set bit and five bits for each of the three. -/
def composed (first vowel : Nat) (codes : Codes) : Grid :=
  let lead := 0x80 + 4 * first + vowel / 8
  let base := vowel % 8 * 32
  ⟨[[(lead, lead)], [(base + 1, base + 17), (base + 19, base + 29)]], [⟨0, codes⟩], 0⟩

/-- The numbers of the vowels in Johab. The number 2 is for no vowel. -/
def vowels : List Nat :=
  [3, 4, 5, 6, 7, 10, 11, 12, 13, 14, 15, 18, 19, 20, 21, 22, 23, 26, 27, 28, 29]

/-- The first letters on their own. They have the numbers from 2 on. -/
def firstLetters : List Grid :=
  (Text.ofString "ㄱㄲㄴㄷㄸㄹㅁㅂㅃㅅㅆㅇㅈㅉㅊㅋㅌㅍㅎ").mapIdx fun i c =>
    composed (i + 2) 2 (.consecutive c.val 1)

/-- The last letters on their own, behind the place where all three are missing. -/
def lastLetters : Grid := composed 1 2 (.listed ["\u3000ㄱㄲㄳㄴㄵㄶㄷㄹㄺㄻㄼㄽㄾㄿㅀㅁㅂㅄㅅㅆㅇㅈㅊㅋㅌㅍㅎ"])

def vowelLetters : List Grid :=
  vowels.mapIdx fun i vowel => composed 1 vowel (.consecutive (0x314F + i) 1)

/-- All syllables, 28 for each first letter and each vowel. -/
def syllables : List Grid :=
  (List.range 19).flatMap fun first =>
    vowels.mapIdx fun i vowel =>
      composed (first + 2) vowel (.consecutive (0xAC00 + (first * 21 + i) * 28) 28)

/-- The second bytes of Johab for what is no syllable. -/
def otherSeconds : ByteRanges := [(0x31, 0x7E), (0x91, 0xFE)]

end Grid

namespace Layout

/-- The two sets of places of KS X 1001 without the filler. -/
def ksX1001Grids : List Grid := [.high ksX1001, .high ksX1001Letters]

/-- EUC-KR. The filler is written, but read as the beginning of a syllable. -/
def eucKr : Layout where
  grids := .ascii :: ksX1001Grids ++ [.spelledSyllables]
  alsoWritten := [(CodePoint.ofNat 0x3164, [0xA4, 0xD4])]
  openings := [([[(0xA4, 0xA4)], [(0xD4, 0xD4)]], 8)]

def cp949 : Layout where
  grids :=
    .ascii :: .high ksX1001Filler :: ksX1001Grids ++
      [⟨[[(0x81, 0xA0)], Grid.secondsUpTo 0xFE], furtherSyllables, 0⟩,
        ⟨[[(0xA1, 0xC6)], Grid.secondsUpTo 0xA0], furtherSyllables, 5696⟩]

/-- Johab, with two rows of KS X 1001 behind each first byte for what is no syllable. -/
def johab : Layout where
  grids :=
    [.ascii, ⟨[[(0xD9, 0xDE)], Grid.otherSeconds], ksX1001, 0⟩,
      ⟨[[(0xE0, 0xF9)], Grid.otherSeconds], ksX1001, 3854⟩,
      ⟨[[(0xDA, 0xDA)], [(0xD4, 0xD4)]], [⟨0, .consecutive 0x3164 1⟩], 0⟩] ++
    Grid.firstLetters ++ [Grid.lastLetters] ++ Grid.vowelLetters ++ Grid.syllables

end Layout

end NameKeys
