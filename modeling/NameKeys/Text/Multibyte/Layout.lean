import NameKeys.Text.Coder
import NameKeys.Text.Grid

/-!
# Layouts

A layout tells what sequences of bytes stand for which code points, where no sequence depends on
those before it. Most code points are in grids. A pair of code points may have a sequence of its
own.
-/

namespace NameKeys

/-- The sequences of bytes of an encoding. Code points are written by the first grid that has them
and read by the first that has their bytes, at last by those that are for reading only. -/
structure Layout where
  grids : List Grid
  gridsToRead : List Grid := []
  /-- The pairs with sequences of their own. -/
  pairs : List (Text × List UInt8) := []
  /-- Whether the first code point of a pair takes a second one that has no low bits with it. -/
  pairsTakeZero : Bool := false
  /-- Code points that are written with bytes that other code points are read from. -/
  alsoWritten : List (CodePoint × List UInt8) := []
  /-- Code points of the grids that are not written. -/
  neverWritten : List CodePoint := []
  /-- The beginnings of sequences that are longer than they look, with the whole length. -/
  openings : List (List ByteRanges × Nat) := []

namespace Layout

/-- The sequences of pairs in some places. -/
def pairsIn (bytes : List ByteRanges) (pairs : PairSet) : List (Text × List UInt8) :=
  pairs.filterMap fun (place, pair) =>
    (ByteRanges.write? bytes place).map fun sequence => (Text.ofString pair, sequence)

/-- The bytes of a code point on its own. -/
def encodeOne? (layout : Layout) (c : CodePoint) : Option (List UInt8) :=
  if c ∈ layout.neverWritten then none
  else (List.lookup c layout.alsoWritten).or (layout.grids.findSome? fun grid => grid.encode? c)

/-- Whether a code point is the first one of a pair. -/
def beginsPair (layout : Layout) (c : CodePoint) : Bool :=
  layout.pairs.any fun (pair, _) => pair.head? = some c

/-- The bytes of two code points that have a sequence together. Only the lower 16 bits of the second
one count. -/
def encodePair? (layout : Layout) (c d : CodePoint) : Option (List UInt8) :=
  if layout.beginsPair c then
    let low := d.val % 0x10000
    if low = 0 ∧ layout.pairsTakeZero then layout.encodeOne? c
    else List.lookup [c, CodePoint.ofNat low] layout.pairs
  else none

/-- What is written for a code point before another one or at the end. -/
def write? (layout : Layout) (_ : Unit) (c : CodePoint) (next? : Option CodePoint) :
    Option (Written Unit) :=
  match next?.bind (layout.encodePair? c) with
  | some bytes => some ⟨bytes, (), true⟩
  | none => (layout.encodeOne? c).map fun bytes => ⟨bytes, (), false⟩

/-- The text that some bytes begin with, and how many bytes stand for it. -/
def decodeFirst? (layout : Layout) (bytes : List UInt8) : Option (Text × Nat) :=
  match layout.pairs.find? fun (_, sequence) => sequence.isPrefixOf bytes with
  | some (pair, sequence) => some (pair, sequence.length)
  | none =>
    (layout.grids ++ layout.gridsToRead).findSome? fun grid =>
      (grid.decode? bytes).map fun c => ([c], grid.width)

/-- Whether some bytes are too few for the sequence that they begin. -/
def breaksOff (layout : Layout) (bytes : List UInt8) : Bool :=
  layout.openings.any fun (opening, length) =>
    (ByteRanges.read? opening bytes).isSome && bytes.length < length

/-- What stands at the beginning of some bytes. The replacement character stands for a byte that
begins no sequence, and for all the bytes of a sequence that breaks off at the end. -/
def read (layout : Layout) (_ : Unit) (b : UInt8) (rest : List UInt8) : Reading Unit :=
  match layout.decodeFirst? (b :: rest) with
  | some (t, length) => ⟨t, length - 1, ()⟩
  | none => ⟨[Utf8.replacement], if layout.breaksOff (b :: rest) then rest.length else 0, ()⟩

def coder (layout : Layout) : Coder Unit where
  start := ()
  write? := layout.write?
  awaitsNext := layout.beginsPair
  close := fun _ => []
  read := layout.read

end Layout

end NameKeys
