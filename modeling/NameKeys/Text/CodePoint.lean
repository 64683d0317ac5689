/-!
# Code points

A name is a sequence of code points, and surrogates may stand in it alone: a name that came from
bytes in no valid encoding holds them. So a code point is any number below `0x110000`, not only a
scalar value.
-/

namespace NameKeys

/-- A number in the code space, surrogates included. -/
abbrev CodePoint := Fin 0x110000

namespace CodePoint

def ofChar (c : Char) : CodePoint := ⟨c.toNat, by
  rcases c.valid with h | ⟨_, h⟩
  · have : c.val.toNat < 0xD800 := h
    exact Nat.lt_trans this (by decide)
  · exact h⟩

instance : Coe Char CodePoint := ⟨ofChar⟩

/-- The code point of a number below `0x110000`. -/
def ofNat (n : Nat) : CodePoint := Fin.ofNat 0x110000 n

@[simp] theorem val_ofNat {n : Nat} (h : n < 0x110000) : (ofNat n).val = n := Nat.mod_eq_of_lt h

@[simp] theorem ofNat_val (c : CodePoint) : ofNat c.val = c := Fin.ext (Nat.mod_eq_of_lt c.isLt)

/-- Whether a code point is reserved for the halves of surrogate pairs. -/
def isSurrogate (c : CodePoint) : Bool := 0xD800 ≤ c.val && c.val ≤ 0xDFFF

/-- Whether a code point is the first half of a surrogate pair. -/
def isHighSurrogate (c : CodePoint) : Bool := 0xD800 ≤ c.val && c.val ≤ 0xDBFF

/-- Whether a code point is the second half of a surrogate pair. -/
def isLowSurrogate (c : CodePoint) : Bool := 0xDC00 ≤ c.val && c.val ≤ 0xDFFF

/-- Whether a code point stands for one byte from `0x80` on that could not be decoded. -/
def isByteEscape (c : CodePoint) : Bool := 0xDC80 ≤ c.val && c.val ≤ 0xDCFF

/-- Whether a code point is an ASCII one. -/
def isAscii (c : CodePoint) : Bool := c.val < 0x80

/-- The value of an ASCII decimal digit. -/
def asciiDigit? (c : CodePoint) : Option Nat :=
  if 0x30 ≤ c.val ∧ c.val ≤ 0x39 then some (c.val - 0x30) else none

/-- The value of an ASCII hexadecimal digit of either case. -/
def hexDigit? (c : CodePoint) : Option Nat :=
  if 0x30 ≤ c.val ∧ c.val ≤ 0x39 then some (c.val - 0x30)
  else if 0x41 ≤ c.val ∧ c.val ≤ 0x46 then some (c.val - 0x41 + 10)
  else if 0x61 ≤ c.val ∧ c.val ≤ 0x66 then some (c.val - 0x61 + 10)
  else none

/-- The code point of a decimal or lower-case hexadecimal digit below 16. -/
def ofDigit (d : Nat) : CodePoint := ofNat (if d < 10 then 0x30 + d else 0x61 + (d - 10))

end CodePoint

end NameKeys
