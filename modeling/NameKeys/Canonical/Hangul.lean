/-!
# Hangul syllables

A precomposed Hangul syllable decomposes into two or three jamo, and jamo compose into syllables, by
arithmetic instead of tables.
-/

namespace NameKeys.Hangul

def leadBase : Nat := 0x1100
def vowelBase : Nat := 0x1161
/-- One less than the first trailing consonant. -/
def tailBase : Nat := 0x11A7
def syllableBase : Nat := 0xAC00
/-- The number of leading consonants that compose. -/
def leadCount : Nat := 19
/-- The number of vowels that compose. -/
def vowelCount : Nat := 21
/-- The number of trailing consonants that compose, and one for none. -/
def tailCount : Nat := 28
def syllableCount : Nat := leadCount * vowelCount * tailCount

/-- Whether a code point is a precomposed syllable. -/
def isSyllable (c : Nat) : Bool := syllableBase ≤ c && c < syllableBase + syllableCount

def decomposition? (c : Nat) : Option (List Nat) :=
  if isSyllable c then
    let index := c - syllableBase
    let lead := leadBase + index / (vowelCount * tailCount)
    let vowel := vowelBase + index % (vowelCount * tailCount) / tailCount
    let tail := tailBase + index % tailCount
    some (if index % tailCount = 0 then [lead, vowel] else [lead, vowel, tail])
  else none

/-- The syllable of a leading consonant and a vowel, or of a syllable without a trailing consonant
and such a consonant. -/
def composite? (first second : Nat) : Option Nat :=
  if leadBase ≤ first ∧ first < leadBase + leadCount ∧
      vowelBase ≤ second ∧ second < vowelBase + vowelCount then
    some (syllableBase + ((first - leadBase) * vowelCount + (second - vowelBase)) * tailCount)
  else if isSyllable first ∧ (first - syllableBase) % tailCount = 0 ∧
      tailBase < second ∧ second < tailBase + tailCount then
    some (first + (second - tailBase))
  else none

end NameKeys.Hangul
