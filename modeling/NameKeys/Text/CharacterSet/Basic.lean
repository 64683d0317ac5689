import NameKeys.Text.Utf8

/-!
# Character sets

Sets of code points in numbered places, which an encoding writes in its own way. Most sets have
their places in rows. Where a code point has several places, the first one listed is its own.
-/

namespace NameKeys

/-- Code points in consecutive places: listed line by line, with the replacement character in places
that are free, or following each other. -/
inductive Codes where
  | listed (lines : List String)
  | consecutive (first count : Nat)

namespace Codes

/-- The place of a code point, counted from the first one. -/
def indexOf? (codes : Codes) (c : CodePoint) : Option Nat :=
  match codes with
  | listed lines =>
    if c = Utf8.replacement then none else (lines.flatMap Text.ofString).idxOf? c
  | consecutive first count =>
    if first ≤ c.val ∧ c.val < first + count then some (c.val - first) else none

/-- The code point in a place, counted from the first one. -/
def at? (codes : Codes) (index : Nat) : Option CodePoint :=
  match codes with
  | listed lines => (lines.flatMap Text.ofString)[index]?.filter (· ≠ Utf8.replacement)
  | consecutive first count =>
    if index < count then some (CodePoint.ofNat (first + index)) else none

end Codes

/-- Consecutive places, the number of the first and what they hold. -/
structure Block where
  start : Nat
  codes : Codes

abbrev CharacterSet := List Block

/-- Two code points at a time in one place, with the number of the place. -/
abbrev PairSet := List (Nat × String)

namespace CharacterSet

def placeOf? (set : CharacterSet) (c : CodePoint) : Option Nat :=
  set.findSome? fun block => (block.codes.indexOf? c).map (block.start + ·)

def at? (set : CharacterSet) (place : Nat) : Option CodePoint :=
  set.findSome? fun block =>
    if block.start ≤ place then block.codes.at? (place - block.start) else none

/-- The set with its rows moved: the row with the number that is listed first goes to row `first`,
the next to the row after it. No block has places in two rows, which have `width` places each. -/
def movingRows (width first : Nat) (rows : List Nat) (set : CharacterSet) : CharacterSet :=
  set.filterMap fun block =>
    (rows.idxOf? (block.start / width)).map fun i =>
      ⟨(first + i) * width + block.start % width, block.codes⟩

end CharacterSet

end NameKeys
