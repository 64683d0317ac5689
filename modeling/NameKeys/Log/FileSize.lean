import NameKeys.Number.Binary64

/-!
# File sizes

The size at which a log file is full. It is given in megabytes, as an integer or as a floating-point
number, and compared in bytes; a file with a size that is not positive is never full.
-/

namespace NameKeys

/-- A size as a number of either kind. -/
inductive FileSize where
  | whole (n : Int)
  | fractional (x : Binary64)
  deriving DecidableEq, Repr

namespace FileSize

/-- The bytes of a megabyte, as a power of two. -/
def megabyteBits : Nat := 20

/-- The size in bytes of a size in megabytes. -/
def ofMegabytes : FileSize → FileSize
  | whole n => whole (n * (Nat.pow 2 megabyteBits : Nat))
  | fractional (.finite negative m e) =>
    let (num, den) := Binary64.scaled 2 m 1 (e + megabyteBits)
    fractional (.ofQuotient negative num den)
  | size => size

/-- Whether a file with so many bytes is full. -/
def isReachedBy (limit : FileSize) (bytes : Nat) : Bool :=
  match limit with
  | whole n => 0 < n && n ≤ bytes
  | fractional (.finite false m e) =>
    let (num, den) := Binary64.scaled 2 m 1 e
    0 < m && num ≤ bytes * den
  | _ => false

end FileSize

end NameKeys
