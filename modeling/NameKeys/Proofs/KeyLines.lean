import Mathlib.Algebra.Order.BigOperators.Group.List
import Mathlib.Algebra.Order.Group.Nat
import Mathlib.Tactic.Lemma
import NameKeys.Command.KeyLine
import NameKeys.Proofs.Utf8Sequences

/-!
# Lines of keys in UTF-8

A key in UTF-8 is written code point by code point: a byte escape as its byte, another surrogate as
a backslash escape, and all else as its sequence of bytes. This fails for keys in which a byte
escape and another surrogate meet. Of such a key the byte escapes are written as backslash escapes
too.
-/

namespace NameKeys.Proofs
open CodePoint
open Encoding (lineFeed plainUtf8)

/-! ### The bytes of a code point -/

section CodePoints

variable {c : CodePoint}

def isStraySurrogate (c : CodePoint) : Bool := c.isSurrogate && !c.isByteEscape

/-- The backslash escape of a surrogate in ASCII. -/
def spelledSurrogate (c : CodePoint) : List UInt8 :=
  let spelling : Text := "\\u" ++ Text.hex 4 c.val
  spelling.map fun d => UInt8.ofNat d.val

/-- The bytes of a code point, with a backslash escape for every surrogate. -/
def spelledBytes (c : CodePoint) : List UInt8 :=
  if c.isSurrogate then spelledSurrogate c else Utf8.encodeOne c

/-- The bytes of a code point by itself, where a byte escape stands for its byte. -/
def ownBytes (c : CodePoint) : List UInt8 :=
  if c.isByteEscape then [UInt8.ofNat (c.val - 0xDC00)] else spelledBytes c

lemma isSurrogate_of_isByteEscape (h : c.isByteEscape = true) : c.isSurrogate = true := by
  simp only [isByteEscape, isSurrogate, Bool.and_eq_true, decide_eq_true_eq] at h ⊢
  omega

lemma isByteEscape_of_not_isSurrogate (h : c.isSurrogate = false) : c.isByteEscape = false := by
  rw [Bool.eq_false_iff]
  intro hescape
  rw [isSurrogate_of_isByteEscape hescape] at h
  exact Bool.noConfusion h

lemma ownBytes_of_not_isSurrogate (h : c.isSurrogate = false) : ownBytes c = Utf8.encodeOne c := by
  rw [ownBytes, isByteEscape_of_not_isSurrogate h, spelledBytes, h]
  rfl

lemma encodeOne?_plainUtf8 (c : CodePoint) :
    plainUtf8.encodeOne? c = if c.isSurrogate then none else some (Utf8.encodeOne c) := rfl

lemma flatMap_encodeOne?_of_isAscii {t : Text} (h : ∀ d ∈ t, d.val < 0x80) :
    (t.flatMap fun d => (plainUtf8.encodeOne? d).getD []) = t.map fun d => UInt8.ofNat d.val := by
  induction t with
  | nil => rfl
  | cons d rest ih =>
    have hd := h d (List.mem_cons_self ..)
    have hrest := ih fun e he => h e (List.mem_cons_of_mem d he)
    have hplain : d.isSurrogate = false := isSurrogate_eq_false_iff.mpr (by omega)
    rw [List.flatMap_cons, hrest, encodeOne?_plainUtf8, hplain, encodeOne_of_one hd]
    rfl

lemma ofDigit_isAscii (n : Nat) : (ofDigit (n % 16)).val < 0x80 := by
  have hn : n % 16 < 16 := Nat.mod_lt n (by decide)
  rw [ofDigit, val_ofNat]
  · split <;> omega
  · split <;> omega

lemma hex_isAscii (width n : Nat) : ∀ d ∈ Text.hex width n, d.val < 0x80 := by
  induction width generalizing n with
  | zero => simp [Text.hex]
  | succ width ih =>
    intro d hd
    rw [Text.hex] at hd
    rcases List.mem_append.mp hd with hd | hd
    · exact ih (n / 16) d hd
    · rw [List.mem_singleton.mp hd]
      exact ofDigit_isAscii n

lemma encodeEscaping_plainUtf8 (c : CodePoint) : plainUtf8.encodeEscaping c = spelledBytes c := by
  rw [Encoding.encodeEscaping, encodeOne?_plainUtf8, spelledBytes]
  cases hc : c.isSurrogate with
  | false => rfl
  | true =>
    have hescape : Escaped.escape c = "\\u" ++ Text.hex 4 c.val := by
      simp only [isSurrogate, Bool.and_eq_true, decide_eq_true_eq] at hc
      rw [Escaped.escape, if_neg (by omega), if_pos (by omega)]
    have hascii : ∀ d ∈ Escaped.escape c, d.val < 0x80 := by
      rw [hescape]
      intro d hd
      rcases List.mem_append.mp hd with hd | hd
      · have hd : d = ofChar '\\' ∨ d = ofChar 'u' := by simpa [Text.ofString] using hd
        rcases hd with rfl | rfl <;> decide
      · exact hex_isAscii 4 c.val d hd
    simp only [if_true, Option.getD_none]
    rw [flatMap_encodeOne?_of_isAscii hascii, hescape]
    rfl

lemma encodeUnescaping?_plainUtf8 (c : CodePoint) :
    plainUtf8.encodeUnescaping? c = if isStraySurrogate c then none else some (ownBytes c) := by
  rw [Encoding.encodeUnescaping?, encodeOne?_plainUtf8, ownBytes, spelledBytes, isStraySurrogate]
  cases hc : c.isSurrogate with
  | true => cases c.isByteEscape <;> rfl
  | false =>
    rw [isByteEscape_of_not_isSurrogate hc]
    rfl

lemma length_spelledSurrogate (c : CodePoint) : (spelledSurrogate c).length = 6 := by
  simp [spelledSurrogate, Text.hex, Text.ofString]

lemma length_ownBytes_le (c : CodePoint) : (ownBytes c).length ≤ (spelledBytes c).length := by
  rw [ownBytes]
  split
  · next h =>
    rw [spelledBytes, if_pos (isSurrogate_of_isByteEscape h), length_spelledSurrogate]
    simp
  · exact Nat.le_refl _

lemma length_ownBytes_lt (h : c.isByteEscape = true) :
    (ownBytes c).length < (spelledBytes c).length := by
  rw [ownBytes, if_pos h, spelledBytes, if_pos (isSurrogate_of_isByteEscape h),
    length_spelledSurrogate]
  simp

end CodePoints

/-! ### The bytes of a key -/

section Keys

variable {key : Text}

/-- Whether a key has a byte escape and another surrogate. -/
def MixesSurrogates (key : Text) : Prop :=
  key.any isByteEscape = true ∧ key.any isStraySurrogate = true

instance (key : Text) : Decidable (MixesSurrogates key) := inferInstanceAs (Decidable (_ ∧ _))

lemma no_stray_of_plain (h : ∀ c ∈ key, c.isSurrogate = false) :
    key.any isStraySurrogate = false := by
  rw [List.any_eq_false]
  intro c hc
  simp [isStraySurrogate, h c hc]

lemma flatMap_ownBytes_of_plain (h : ∀ c ∈ key, c.isSurrogate = false) :
    key.flatMap ownBytes = key.flatMap Utf8.encodeOne := by
  apply List.flatMap_congr
  intro c hc
  exact ownBytes_of_not_isSurrogate (h c hc)

lemma mapM_eq_some {α β : Type} {f : α → Option β} {g : α → β} {l : List α}
    (h : ∀ a ∈ l, f a = some (g a)) : l.mapM f = some (l.map g) := by
  induction l with
  | nil => rfl
  | cons a rest ih =>
    have hrest := ih fun b hb => h b (List.mem_cons_of_mem a hb)
    rw [List.mapM_cons, h a (List.mem_cons_self ..), hrest]
    rfl

lemma mapM_eq_none {α β : Type} {f : α → Option β} {l : List α} (h : ∃ a ∈ l, f a = none) :
    l.mapM f = none := by
  induction l with
  | nil => simp at h
  | cons a rest ih =>
    rw [List.mapM_cons]
    cases ha : f a with
    | none => rfl
    | some b =>
      obtain ⟨other, hmem, hother⟩ := h
      rcases List.mem_cons.mp hmem with rfl | hmem
      · rw [ha] at hother
        cases hother
      · rw [ih ⟨other, hmem, hother⟩]
        rfl

lemma encode_eq_getD (key : Text) :
    plainUtf8.encode key = ((key.mapM plainUtf8.encodeUnescaping?).map List.flatten).getD
      (key.flatMap plainUtf8.encodeEscaping) := by
  simp only [plainUtf8, Encoding.encode, Encoding.markBytes, Encoding.encodePlain,
    Encoding.withCoder?, List.nil_append]
  cases key.mapM (Encoding.utf8 false).encodeUnescaping? with
  | none => rfl
  | some pieces => rfl

lemma encode_of_no_stray (h : key.any isStraySurrogate = false) :
    plainUtf8.encode key = key.flatMap ownBytes := by
  have hall : key.mapM plainUtf8.encodeUnescaping? = some (key.map ownBytes) := by
    apply mapM_eq_some
    intro c hc
    have hstray : isStraySurrogate c = false := Bool.eq_false_iff.mpr (List.any_eq_false.mp h c hc)
    rw [encodeUnescaping?_plainUtf8, hstray]
    rfl
  rw [encode_eq_getD, hall]
  exact List.flatMap_def.symm

lemma encode_of_stray (h : key.any isStraySurrogate = true) :
    plainUtf8.encode key = key.flatMap spelledBytes := by
  have hnone : key.mapM plainUtf8.encodeUnescaping? = none := by
    apply mapM_eq_none
    obtain ⟨c, hc, hstray⟩ := List.any_eq_true.mp h
    refine ⟨c, hc, ?_⟩
    rw [encodeUnescaping?_plainUtf8, hstray]
    rfl
  rw [encode_eq_getD, hnone]
  exact congrArg (key.flatMap ·) (funext encodeEscaping_plainUtf8)

lemma flatMap_spelledBytes_of_no_escape (h : key.any isByteEscape = false) :
    key.flatMap spelledBytes = key.flatMap ownBytes := by
  apply List.flatMap_congr
  intro c hc
  rw [ownBytes, if_neg (List.any_eq_false.mp h c hc)]

lemma flatMap_spelledBytes_ne (h : key.any isByteEscape = true) :
    key.flatMap spelledBytes ≠ key.flatMap ownBytes := by
  intro heq
  have hlengths : (key.map fun c => (ownBytes c).length).sum <
      (key.map fun c => (spelledBytes c).length).sum := by
    apply List.sum_lt_sum
    · exact fun c _ => length_ownBytes_le c
    · obtain ⟨c, hc, hescape⟩ := List.any_eq_true.mp h
      exact ⟨c, hc, length_ownBytes_lt hescape⟩
  rw [← List.length_flatMap, ← List.length_flatMap, heq] at hlengths
  exact Nat.lt_irrefl _ hlengths

lemma encode_plainUtf8 (key : Text) :
    plainUtf8.encode key =
      if MixesSurrogates key then key.flatMap spelledBytes else key.flatMap ownBytes := by
  cases hstray : key.any isStraySurrogate with
  | true =>
    rw [encode_of_stray hstray]
    cases hescape : key.any isByteEscape with
    | true => rw [if_pos ⟨hescape, hstray⟩]
    | false => rw [flatMap_spelledBytes_of_no_escape hescape, ite_self]
  | false =>
    have hmixed : ¬ MixesSurrogates key := fun h => Bool.noConfusion (hstray.symm.trans h.2)
    rw [if_neg hmixed, encode_of_no_stray hstray]

end Keys

/-! ### Lines on a stream -/

section Lines

variable {encoding? before? : Option Text} {written? : Option (List UInt8)}

lemma toBytes_plainUtf8 (hutf8 : Encoding.ofStream encoding? = .ok plainUtf8)
    (hbefore : before?.mapM plainUtf8.encodeStrictly = .ok written?) (key : Text) :
    KeyLine.toBytes encoding? before? (.text key) =
      .ok (written?.getD [] ++ plainUtf8.keyLine key) := by
  unfold KeyLine.toBytes
  rw [hutf8]
  dsimp only
  rw [hbefore]
  rfl

/-- On a stream of bytes in UTF-8 a key is written as a line, behind what was written before. Its
code points are written each by itself if and only if no byte escape is in a key with another
surrogate; all surrogates of a key with both are written as backslash escapes. -/
theorem key_line_by_code_points (hutf8 : Encoding.ofStream encoding? = .ok plainUtf8)
    (hbefore : before?.mapM plainUtf8.encodeStrictly = .ok written?) (key : Text) :
    ∃ line, KeyLine.toBytes encoding? before? (.text key) = .ok (written?.getD [] ++ line) ∧
      (line = key.flatMap ownBytes ++ [lineFeed] ↔ ¬ MixesSurrogates key) ∧
      (MixesSurrogates key → line = key.flatMap spelledBytes ++ [lineFeed]) := by
  refine ⟨plainUtf8.keyLine key, toBytes_plainUtf8 hutf8 hbefore key, ?_⟩
  rw [Encoding.keyLine, encode_plainUtf8]
  by_cases hmixed : MixesSurrogates key
  · rw [if_pos hmixed]
    refine ⟨⟨fun hline => ?_, fun hnot => absurd hmixed hnot⟩, fun _ => rfl⟩
    exact absurd (List.append_cancel_right hline) (flatMap_spelledBytes_ne hmixed.1)
  · rw [if_neg hmixed]
    exact ⟨⟨fun _ => hmixed, fun _ => rfl⟩, fun h => absurd h hmixed⟩

theorem key_line_of_undecodable_name :
    KeyLine.toBytes (some "UTF-8") (some "> ") (.text [ofNat 0x4F, ofNat 0xF8, ofNat 0xDCE9]) =
      .ok [0x3E, 0x20, 0x4F, 0xC3, 0xB8, 0xE9, 0x0A] := by
  have hutf8 : Encoding.ofStream (some "UTF-8") = .ok plainUtf8 := by rfl
  have hbefore : (some (Text.ofString "> ")).mapM plainUtf8.encodeStrictly =
      .ok (some [0x3E, 0x20]) := by rfl
  obtain ⟨line, hline, hown, -⟩ := key_line_by_code_points hutf8 hbefore
    [ofNat 0x4F, ofNat 0xF8, ofNat 0xDCE9]
  rw [hline, hown.mpr (by decide)]
  rfl

/-- Beside a surrogate that stands for no byte, a byte escape is not written as its byte. -/
theorem byte_escape_spelled_beside_stray :
    KeyLine.toBytes none none (.text [ofNat 0xDC80, ofNat 0xD800]) =
      .ok ((Text.ofString "\\udc80\\ud800\n").map fun d => UInt8.ofNat d.val) ∧
    KeyLine.toBytes none none (.text [ofNat 0xDC80, ofNat 0xD800]) ≠
      .ok ([ofNat 0xDC80, ofNat 0xD800].flatMap ownBytes ++ [lineFeed]) := by
  have hline : KeyLine.toBytes none none (.text [ofNat 0xDC80, ofNat 0xD800]) =
      .ok ((Text.ofString "\\udc80\\ud800\n").map fun d => UInt8.ofNat d.val) := by rfl
  refine ⟨hline, fun hown => ?_⟩
  rw [hline] at hown
  exact absurd (Except.ok.inj hown) (by decide)

end Lines

end NameKeys.Proofs
