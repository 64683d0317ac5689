import NameKeys.Text.Basic

/-!
# UTF-8

Texts as bytes and bytes as texts. Reading goes from sequence to sequence: a complete sequence is
one code point, and where the bytes form none, the longest beginning of a sequence that stands there
is taken for ill-formed as a whole, or one byte if not even a beginning stands there.
-/

namespace NameKeys

namespace Utf8

/-- The bytes of one code point that is no surrogate. -/
def encodeOne (c : CodePoint) : List UInt8 :=
  let n := c.val
  let tail (shift : Nat) : UInt8 := UInt8.ofNat (0x80 + (n >>> shift) % 0x40)
  if n < 0x80 then [UInt8.ofNat n]
  else if n < 0x800 then [UInt8.ofNat (0xC0 + n / 0x40), tail 0]
  else if n < 0x10000 then [UInt8.ofNat (0xE0 + n / 0x1000), tail 6, tail 0]
  else [UInt8.ofNat (0xF0 + n / 0x40000), tail 12, tail 6, tail 0]

/-- What stands at the beginning of some bytes. -/
inductive Sequence where
  | wellFormed (c : CodePoint) (length : Nat)
  | illFormed (length : Nat)
  deriving DecidableEq, Repr

/-- How many bytes a sequence has by its first byte, what the first byte contributes, and the least
and the greatest second byte; nothing if no sequence begins with the byte. -/
def lead? (b : Nat) : Option (Nat × Nat × Nat × Nat) :=
  if b < 0x80 then some (1, b, 0, 0)
  else if 0xC2 ≤ b ∧ b ≤ 0xDF then some (2, b - 0xC0, 0x80, 0xBF)
  else if b = 0xE0 then some (3, 0, 0xA0, 0xBF)
  else if b = 0xED then some (3, 0xD, 0x80, 0x9F)
  else if 0xE1 ≤ b ∧ b ≤ 0xEF then some (3, b - 0xE0, 0x80, 0xBF)
  else if b = 0xF0 then some (4, 0, 0x90, 0xBF)
  else if 0xF1 ≤ b ∧ b ≤ 0xF3 then some (4, b - 0xF0, 0x80, 0xBF)
  else if b = 0xF4 then some (4, 4, 0x80, 0x8F)
  else none

/-- Reads the bytes that are still missing from a sequence of which `taken` are read; `low` and
`high` bound the next byte. -/
def finish (value taken : Nat) : (missing low high : Nat) → List UInt8 → Sequence
  | 0, _, _, _ => .wellFormed (CodePoint.ofNat value) taken
  | _ + 1, _, _, [] => .illFormed taken
  | missing + 1, low, high, b :: rest =>
    if low ≤ b.toNat ∧ b.toNat ≤ high then
      finish (value * 0x40 + (b.toNat - 0x80)) (taken + 1) missing 0x80 0xBF rest
    else .illFormed taken

/-- What stands at the beginning of a byte and those after it. -/
def sequenceAt (b : UInt8) (rest : List UInt8) : Sequence :=
  match lead? b.toNat with
  | none => .illFormed 1
  | some (length, value, low, high) => finish value 1 (length - 1) low high rest

def Sequence.length : Sequence → Nat
  | wellFormed _ length | illFormed length => length

/-- The text of some bytes, where `mend` gives the text of an ill-formed stretch. Of the bytes,
`skip` belong to a stretch that was read already. -/
def decodeFrom (mend : List UInt8 → Text) : (skip : Nat) → List UInt8 → Text
  | _, [] => []
  | skip + 1, _ :: rest => decodeFrom mend skip rest
  | 0, b :: rest =>
    match sequenceAt b rest with
    | .wellFormed c length => c :: decodeFrom mend (length - 1) rest
    | .illFormed length => mend (b :: rest.take (length - 1)) ++ decodeFrom mend (length - 1) rest

def replacement : CodePoint := CodePoint.ofNat 0xFFFD

/-- The text of some bytes, with the replacement character for every ill-formed stretch. -/
def decodeReplacing (bytes : List UInt8) : Text := decodeFrom (fun _ => [replacement]) 0 bytes

/-- The surrogate that stands for a byte that could not be decoded. -/
def escapeByte (b : UInt8) : CodePoint := CodePoint.ofNat (0xDC00 + b.toNat)

/-- The text of some bytes, with a surrogate for every byte of an ill-formed stretch. -/
def decodeEscaping (bytes : List UInt8) : Text := decodeFrom (·.map escapeByte) 0 bytes

/-- Whether bytes are well-formed, `skip` of them belonging to a stretch that was read already. -/
def isWellFormedFrom : (skip : Nat) → List UInt8 → Bool
  | _, [] => true
  | skip + 1, _ :: rest => isWellFormedFrom skip rest
  | 0, b :: rest =>
    match sequenceAt b rest with
    | .wellFormed _ length => isWellFormedFrom (length - 1) rest
    | .illFormed _ => false

def decode? (bytes : List UInt8) : Option Text :=
  if isWellFormedFrom 0 bytes then some (decodeReplacing bytes) else none

end Utf8

end NameKeys
