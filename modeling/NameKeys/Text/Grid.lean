import NameKeys.Text.CharacterSet.Basic

/-!
# Grids

An encoding with several bytes for a code point writes the number of its place in a character set
byte by byte. Each of the bytes comes from ranges of its own, and the last one counts fastest.
-/

namespace NameKeys

/-- The values a byte may have, as ranges with their least and their greatest value. -/
abbrev ByteRanges := List (Nat × Nat)

namespace ByteRanges

def size : ByteRanges → Nat
  | [] => 0
  | (least, greatest) :: rest => greatest + 1 - least + size rest

/-- The value with a number, counted from 0. -/
def byteAt? : ByteRanges → Nat → Option Nat
  | [], _ => none
  | (least, greatest) :: rest, i =>
    let here := greatest + 1 - least
    if i < here then some (least + i) else byteAt? rest (i - here)

def rankOf? : ByteRanges → Nat → Option Nat
  | [], _ => none
  | (least, greatest) :: rest, b =>
    if least ≤ b ∧ b ≤ greatest then some (b - least)
    else (rankOf? rest b).map (· + (greatest + 1 - least))

/-- How many sequences of bytes there are. -/
def sequences : List ByteRanges → Nat
  | [] => 1
  | ranges :: rest => ranges.size * sequences rest

/-- The sequence of bytes with a number. -/
def write? : List ByteRanges → Nat → Option (List UInt8)
  | [], _ => some []
  | ranges :: rest, i => do
    let b ← ranges.byteAt? (i / sequences rest)
    let bytes ← write? rest (i % sequences rest)
    return UInt8.ofNat b :: bytes

/-- The number of the sequence that some bytes begin with. -/
def read? : List ByteRanges → List UInt8 → Option Nat
  | [], _ => some 0
  | _ :: _, [] => none
  | ranges :: rest, b :: bytes => do
    let high ← ranges.rankOf? b.toNat
    let low ← read? rest bytes
    return high * sequences rest + low

end ByteRanges

/-- Sequences of bytes for the places of a character set from `start` on. -/
structure Grid where
  bytes : List ByteRanges
  set : CharacterSet
  start : Nat

namespace Grid

def encode? (grid : Grid) (c : CodePoint) : Option (List UInt8) := do
  let place ← grid.set.placeOf? c
  if place < grid.start then none else ByteRanges.write? grid.bytes (place - grid.start)

/-- The code point that some bytes begin with. -/
def decode? (grid : Grid) (bytes : List UInt8) : Option CodePoint := do
  let i ← ByteRanges.read? grid.bytes bytes
  grid.set.at? (grid.start + i)

def width (grid : Grid) : Nat := grid.bytes.length

/-- The grid of a single range of bytes for consecutive code points. -/
def ofRange (least greatest first : Nat) : Grid :=
  ⟨[[(least, greatest)]], [⟨0, .consecutive first (greatest + 1 - least)⟩], 0⟩

/-- The bytes below `0x80` for the same code points. -/
def ascii : Grid := ofRange 0 0x7F 0

end Grid

end NameKeys
