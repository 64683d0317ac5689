import NameKeys.Text.Multibyte.Chinese

/-!
# HZ

GB 2312 among ASCII in bytes below `0x80`. A tilde with a brace switches to two bytes for a code
point and back. Two tildes are one, and a tilde at the end of a line joins it to the next.
-/

namespace NameKeys

namespace Hz

def hanzi : Layout where
  grids := [.low CharacterSet.gb2312Own, .low CharacterSet.gb2312]

def tilde : UInt8 := 0x7E

/-- The bytes that switch to two bytes for a code point. -/
def opening : List UInt8 := [tilde, 0x7B]

/-- The bytes that switch back to ASCII. -/
def closing : List UInt8 := [tilde, 0x7D]

/-- What is written for a code point; `isOpen` tells whether two bytes are for one code point. -/
def write? (isOpen : Bool) (c : CodePoint) (_ : Option CodePoint) : Option (Written Bool) :=
  if c.isAscii then
    let b := UInt8.ofNat c.val
    some ⟨(if isOpen then closing else []) ++ (if b = tilde then [b, b] else [b]), false, false⟩
  else
    (hanzi.encodeOne? c).map fun bytes =>
      ⟨(if isOpen then [] else opening) ++ bytes, true, false⟩

/-- What stands at the beginning of some bytes. -/
def read (isOpen : Bool) (b : UInt8) (rest : List UInt8) : Reading Bool :=
  let illFormed : Reading Bool := ⟨[Utf8.replacement], 0, isOpen⟩
  if b = tilde then
    match rest.head? with
    | none => illFormed
    | some second =>
      if isOpen then (if [b, second] = closing then ⟨[], 1, false⟩ else illFormed)
      else if second = tilde then ⟨"~", 1, false⟩
      else if [b, second] = opening then ⟨[], 1, true⟩
      else if second = 0x0A then ⟨[], 1, false⟩
      else illFormed
  else if 0x80 ≤ b then illFormed
  else if isOpen then
    match hanzi.decodeFirst? (b :: rest) with
    | some (t, length) => ⟨t, length - 1, true⟩
    | none => illFormed
  else ⟨[CodePoint.ofNat b.toNat], 0, false⟩

def coder : Coder Bool where
  start := false
  write? := write?
  awaitsNext := fun _ => false
  close := fun isOpen => if isOpen then closing else []
  read := read

end Hz

end NameKeys
