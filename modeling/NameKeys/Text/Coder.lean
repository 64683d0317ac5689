import NameKeys.Text.Escaped

/-!
# Coders

A coder writes a text as bytes one code point at a time and reads it from bytes one sequence at a
time. What stands for a code point may depend on the state that those before it have left, and two
code points may be written as one.
-/

namespace NameKeys

/-- What a coder writes for a code point: its bytes, the state behind them, and whether they stand
for the next code point as well. -/
structure Written (σ : Type) where
  bytes : List UInt8
  state : σ
  takesNext : Bool

/-- What a coder reads from a sequence of bytes: its text, how many more bytes than the first one it
has, and the state behind it. -/
structure Reading (σ : Type) where
  text : Text
  more : Nat
  state : σ

/-- A way to write and to read texts, with the state at their beginning. -/
structure Coder (σ : Type) where
  start : σ
  /-- What is written for a code point before another one or at the end, if it can be written. -/
  write? : σ → CodePoint → Option CodePoint → Option (Written σ)
  /-- Whether nothing is written for a code point before the next one is known. -/
  awaitsNext : CodePoint → Bool
  /-- The bytes at the end of a text. -/
  close : σ → List UInt8
  /-- What stands at the beginning of some bytes. -/
  read : σ → UInt8 → List UInt8 → Reading σ

namespace Coder

variable {σ : Type}

/-- The bytes of a text from a state on, where `instead` is written for a code point that cannot be
written. A code point that is `taken` has been written along with the one before it. -/
def writeWith (coder : Coder σ) (instead : σ → CodePoint → Option (List UInt8 × σ)) :
    (state : σ) → (taken : Bool) → Text → Option (List UInt8)
  | state, _, [] => some (coder.close state)
  | state, true, _ :: rest => coder.writeWith instead state false rest
  | state, false, c :: rest =>
    match coder.write? state c rest.head? with
    | some written =>
      (coder.writeWith instead written.state written.takesNext rest).map (written.bytes ++ ·)
    | none =>
      match instead state c with
      | some (bytes, state) => (coder.writeWith instead state false rest).map (bytes ++ ·)
      | none => none

/-- A byte escape as its byte, which leaves the state as it is. -/
def byteInstead (state : σ) (c : CodePoint) : Option (List UInt8 × σ) :=
  if c.isByteEscape then some ([UInt8.ofNat (c.val - 0xDC00)], state) else none

/-- The backslash escape of a code point. -/
def escapeInstead (coder : Coder σ) (state : σ) (c : CodePoint) : Option (List UInt8 × σ) :=
  (Escaped.escape c).foldlM
    (fun (bytes, state) d =>
      (coder.write? state d none).map fun written => (bytes ++ written.bytes, written.state))
    ([], state)

/-- The bytes of a text in which every code point can be written. -/
def encode? (coder : Coder σ) (t : Text) : Option (List UInt8) :=
  coder.writeWith (fun _ _ => none) coder.start false t

/-- The bytes of a text, where byte escapes stand for their bytes; with backslash escapes if there
is more that cannot be written. -/
def encode (coder : Coder σ) (t : Text) : List UInt8 :=
  ((coder.writeWith byteInstead coder.start false t).or
    (coder.writeWith coder.escapeInstead coder.start false t)).getD []

/-- The bytes of a text that may go on, from a state and a position on, or the position of the first
code point that cannot be written and the code point. -/
def pieceFrom (coder : Coder σ) :
    (state : σ) → (position : Nat) → (taken : Bool) → Text →
      Except (Nat × CodePoint) (List UInt8)
  | _, _, _, [] => .ok []
  | state, position, true, _ :: rest => coder.pieceFrom state (position + 1) false rest
  | state, position, false, c :: rest =>
    if rest.isEmpty && coder.awaitsNext c then .ok []
    else
      match coder.write? state c rest.head? with
      | some written =>
        (coder.pieceFrom written.state (position + 1) written.takesNext rest).map
          (written.bytes ++ ·)
      | none => .error (position, c)

/-- The bytes of a text that may go on. -/
def piece (coder : Coder σ) (t : Text) : Except (Nat × CodePoint) (List UInt8) :=
  coder.pieceFrom coder.start 0 false t

/-- The text of some bytes from a state on. The first `more` bytes belong to a sequence that has
been read. -/
def readFrom (coder : Coder σ) : (state : σ) → (more : Nat) → List UInt8 → Text
  | _, _, [] => []
  | state, more + 1, _ :: rest => coder.readFrom state more rest
  | state, 0, b :: rest =>
    let reading := coder.read state b rest
    reading.text ++ coder.readFrom reading.state reading.more rest

def decode (coder : Coder σ) (bytes : List UInt8) : Text := coder.readFrom coder.start 0 bytes

end Coder

end NameKeys
