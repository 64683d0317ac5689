import NameKeys.Text.Utf8

/-!
# Punycode

Texts in letters, digits and other ASCII. The ASCII code points of a text come first, with a minus
sign behind them if there are any. All others follow in the order of their values, each by how far
it lies behind the one before, counted over all the values and places it might have. These numbers
are written in digits whose weights adapt to the numbers before.
-/

namespace NameKeys

namespace Punycode

/-- The minus sign behind the ASCII code points. -/
def minus : UInt8 := 0x2D

def digit (value : Nat) : UInt8 :=
  UInt8.ofNat (if value < 26 then 0x61 + value else 0x30 + (value - 26))

/-- The value of a digit of either case. -/
def digitValue? (b : UInt8) : Option Nat :=
  let n := b.toNat
  if 0x41 ≤ n ∧ n ≤ 0x5A then some (n - 0x41)
  else if 0x61 ≤ n ∧ n ≤ 0x7A then some (n - 0x61)
  else if 0x30 ≤ n ∧ n ≤ 0x39 then some (n - 0x30 + 26)
  else none

/-- The least value that a digit has which does not end a number: from 1 to 26, the greater the
further behind in the number. -/
def threshold (index bias : Nat) : Nat := min 26 (max 1 (36 * (index + 1) - bias))

/-- The digits of a number from one with an index on. -/
def digitsFrom (bias : Nat) : (fuel index n : Nat) → List UInt8
  | 0, _, _ => []
  | fuel + 1, index, n =>
    let t := threshold index bias
    if n < t then [digit n]
    else digit (t + (n - t) % (36 - t)) :: digitsFrom bias fuel (index + 1) ((n - t) / (36 - t))

/-- The digits of a number. Each further digit makes the number less. -/
def digits (bias n : Nat) : List UInt8 := digitsFrom bias (n + 1) 0 n

/-- Divides by 35 while a number is great, and counts how often. -/
def scaleDown : (fuel n : Nat) → Nat × Nat
  | 0, n => (n, 0)
  | fuel + 1, n =>
    if 455 < n then
      let (rest, times) := scaleDown fuel (n / 35)
      (rest, times + 1)
    else (n, 0)

/-- The bias for the number behind `delta`, which was the first or not; `count` code points are
known with it. -/
def adapt (delta : Nat) (isFirst : Bool) (count : Nat) : Nat :=
  let delta := if isFirst then delta / 700 else delta / 2
  let delta := delta + delta / count
  let (rest, times) := scaleDown delta delta
  36 * times + 36 * rest / (rest + 38)

/-- The different code points of a text that are no ASCII, by their values. -/
def extended (t : Text) : List CodePoint :=
  ((t.filter fun c => !c.isAscii).mergeSort fun a b => a.val ≤ b.val).eraseReps

/-- The distances of the occurrences of a code point in a text from those before them. `passed`
counts the places for the code point since the last one. -/
def distancesTo (c : CodePoint) : (passed : Nat) → Text → List Nat × Nat
  | passed, [] => ([], passed)
  | passed, d :: rest =>
    if d = c then
      let (found, left) := distancesTo c 0 rest
      (passed :: found, left)
    else distancesTo c (if d.val < c.val then passed + 1 else passed) rest

/-- The distances of the occurrences of all code points from those before them. Behind the code
points below `least` in a text lie as many places as they are, and one more; `passed` counts those
since the last occurrence. -/
def distances (t : Text) : (least passed : Nat) → List CodePoint → List Nat
  | _, _, [] => []
  | least, passed, c :: rest =>
    let known := (t.filter fun d => d.val < c.val).length
    let (found, left) := distancesTo c (passed + (known + 1) * (c.val - least)) t
    found ++ distances t (c.val + 1) (left + 1) rest

/-- The digits of some numbers, where `count` code points are known before the first. -/
def writeNumbers : (bias : Nat) → (isFirst : Bool) → (count : Nat) → List Nat → List UInt8
  | _, _, _, [] => []
  | bias, isFirst, count, n :: rest =>
    digits bias n ++ writeNumbers (adapt n isFirst (count + 1)) false (count + 1) rest

def encode (t : Text) : List UInt8 :=
  let plain := (t.filter CodePoint.isAscii).map fun c => UInt8.ofNat c.val
  plain ++ (if plain.isEmpty then [] else [minus]) ++
    writeNumbers 72 true plain.length (distances t 0x80 0 (extended t))

/-- What is known of a text while its numbers are read: its code points so far, the value and the
place from which the next number counts, and whether that is the first. -/
structure Partial where
  known : Text
  value : Nat
  place : Nat
  bias : Nat
  isFirst : Bool

/-- What is known behind a number. A question mark stands for values that are no code points. -/
def Partial.add (p : Partial) (n : Nat) : Partial :=
  let places := p.known.length + 1
  let value := p.value + (p.place + n) / places
  let value := if value < 0x110000 then value else 0x3F
  let place := (p.place + n) % places
  ⟨p.known.take place ++ CodePoint.ofNat value :: p.known.drop place, value, place + 1,
    adapt n p.isFirst places, false⟩

/-- The text behind some digits, the first of which goes on with a number: `n` is its value so far,
`weight` and `index` belong to its next digit. What is no digit ends the text. -/
def readNumbers (p : Partial) : (n weight index : Nat) → List UInt8 → Text
  | _, _, _, [] => p.known
  | n, weight, index, b :: rest =>
    match digitValue? b with
    | none => p.known
    | some d =>
      let t := threshold index p.bias
      if d < t then readNumbers (p.add (n + d * weight)) 0 1 0 rest
      else readNumbers p (n + d * weight) (weight * (36 - t)) (index + 1) rest

def decode (bytes : List UInt8) : Text :=
  let behind := (bytes.reverse.takeWhile (· ≠ minus)).reverse
  let plain := bytes.take (bytes.length - behind.length - 1)
  let known : Text :=
    plain.map fun b => if b < 0x80 then CodePoint.ofNat b.toNat else Utf8.replacement
  readNumbers ⟨known, 0x80, 0, 72, true⟩ 0 1 0 behind

end Punycode

end NameKeys
