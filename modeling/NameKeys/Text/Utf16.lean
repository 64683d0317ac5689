import NameKeys.Text.Utf8

/-!
# UTF-16 and UTF-32

Texts as units of two or four bytes in either order of the bytes. Code points beyond the first plane
take two units of two bytes. Surrogates that stand alone have no place.
-/

namespace NameKeys

/-- Whether the first byte of a unit weighs least or most. -/
inductive ByteOrder where
  | little
  | big
  deriving DecidableEq, Repr

namespace ByteOrder

def split (order : ByteOrder) (width unit : Nat) : List UInt8 :=
  let bytes := (List.range width).map fun i => UInt8.ofNat ((unit >>> (8 * i)) % 256)
  match order with
  | little => bytes
  | big => bytes.reverse

def join (order : ByteOrder) (bytes : List UInt8) : Nat :=
  let fromGreatest := match order with | little => bytes.reverse | big => bytes
  fromGreatest.foldl (fun n b => 256 * n + b.toNat) 0

/-- The units of two bytes each; a byte at the end that makes no unit is left out. -/
def pairs (order : ByteOrder) : List UInt8 → List Nat
  | a :: b :: rest => order.join [a, b] :: order.pairs rest
  | _ => []

/-- The units of four bytes each; bytes at the end that make no unit are left out. -/
def quadruples (order : ByteOrder) : List UInt8 → List Nat
  | a :: b :: c :: d :: rest => order.join [a, b, c, d] :: order.quadruples rest
  | _ => []

end ByteOrder

namespace Utf16

def unitsOf (c : CodePoint) : List Nat :=
  if c.val < 0x10000 then [c.val]
  else [0xD800 + (c.val - 0x10000) / 0x400, 0xDC00 + (c.val - 0x10000) % 0x400]

/-- The text of some units, where surrogates that are no pair stand alone. -/
def pairUp : List Nat → Text
  | [] => []
  | [u] => [CodePoint.ofNat u]
  | u :: v :: rest =>
    if 0xD800 ≤ u ∧ u ≤ 0xDBFF ∧ 0xDC00 ≤ v ∧ v ≤ 0xDFFF then
      CodePoint.ofNat (0x10000 + (u - 0xD800) * 0x400 + (v - 0xDC00)) :: pairUp rest
    else CodePoint.ofNat u :: pairUp (v :: rest)

/-- The text of some units, with the replacement character for a surrogate that stands alone. -/
def ofUnits (units : List Nat) : Text :=
  (pairUp units).map fun c => if c.isSurrogate then Utf8.replacement else c

end Utf16

namespace Utf32

/-- The code point of a unit, or the replacement character if it is no scalar value. -/
def ofUnit (u : Nat) : CodePoint :=
  if u < 0xD800 ∨ (0xE000 ≤ u ∧ u < 0x110000) then CodePoint.ofNat u else Utf8.replacement

end Utf32

end NameKeys
