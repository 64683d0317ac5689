import Mathlib.Tactic.Lemma
import Mathlib.Tactic.SplitIfs
import NameKeys.Text.Utf8

/-!
# Sequences of UTF-8

Reading finds exactly the sequences that writing makes: where some bytes begin with the sequence of
a code point, this code point is read, and where one is read, its sequence stands there. The first
byte of a sequence continues no sequence, and all others do. So no sequence begins inside another
one.
-/

namespace NameKeys.Proofs
open CodePoint
open Utf8 (encodeOne lead? finish sequenceAt)

/-! ### Bytes that continue a sequence -/

section Bytes

variable {b : UInt8} {n : Nat}

/-- Whether a byte continues a sequence. -/
def Continues (b : UInt8) : Prop := 0x80 ≤ b.toNat ∧ b.toNat ≤ 0xBF

/-- The byte that continues a sequence with the last six bits of a number. -/
def continuing (n : Nat) : UInt8 := UInt8.ofNat (0x80 + n % 0x40)

lemma toNat_ofNat_of_lt (h : n < 0x100) : (UInt8.ofNat n).toNat = n := by
  rw [UInt8.toNat_ofNat']
  exact Nat.mod_eq_of_lt h

lemma ofNat_eq_of_toNat (h : b.toNat = n) : UInt8.ofNat n = b := by
  rw [← h]
  exact UInt8.ofNat_toNat

lemma toNat_continuing (n : Nat) : (continuing n).toNat = 0x80 + n % 0x40 :=
  toNat_ofNat_of_lt (by omega)

lemma continues_continuing (n : Nat) : Continues (continuing n) := by
  rw [Continues, toNat_continuing]
  omega

lemma continuing_eq (h : Continues b) (hn : n % 0x40 = b.toNat - 0x80) : continuing n = b := by
  have hb := h.1
  exact ofNat_eq_of_toNat (by omega)

/-- What begins with a byte: how many bytes the sequence has, what the byte contributes and the
bounds of the second byte, where only few first bytes have bounds of their own. -/
lemma lead?_eq (n : Nat) : lead? n =
    if n < 0x80 then some (1, n, 0, 0)
    else if 0xC2 ≤ n ∧ n ≤ 0xDF then some (2, n - 0xC0, 0x80, 0xBF)
    else if 0xE0 ≤ n ∧ n ≤ 0xEF then
      some (3, n - 0xE0, if n = 0xE0 then 0xA0 else 0x80, if n = 0xED then 0x9F else 0xBF)
    else if 0xF0 ≤ n ∧ n ≤ 0xF4 then
      some (4, n - 0xF0, if n = 0xF0 then 0x90 else 0x80, if n = 0xF4 then 0x8F else 0xBF)
    else none := by
  unfold lead?
  split_ifs <;> grind

lemma lead_cases (b : UInt8) : b.toNat < 0x80 ∨ (0xC2 ≤ b.toNat ∧ b.toNat ≤ 0xDF) ∨
    (0xE0 ≤ b.toNat ∧ b.toNat ≤ 0xEF) ∨ (0xF0 ≤ b.toNat ∧ b.toNat ≤ 0xF4) ∨
    lead? b.toNat = none := by
  by_cases hone : b.toNat < 0x80
  · exact .inl hone
  by_cases htwo : 0xC2 ≤ b.toNat ∧ b.toNat ≤ 0xDF
  · exact .inr (.inl htwo)
  by_cases hthree : 0xE0 ≤ b.toNat ∧ b.toNat ≤ 0xEF
  · exact .inr (.inr (.inl hthree))
  by_cases hfour : 0xF0 ≤ b.toNat ∧ b.toNat ≤ 0xF4
  · exact .inr (.inr (.inr (.inl hfour)))
  · rw [lead?_eq, if_neg hone, if_neg htwo, if_neg hthree, if_neg hfour]
    simp

lemma lead?_of_continues (h : Continues b) : lead? b.toNat = none := by
  have hlow := h.1
  have hhigh := h.2
  rw [lead?_eq, if_neg (by omega), if_neg (by omega), if_neg (by omega), if_neg (by omega)]

end Bytes

/-! ### Writing -/

section Writing

variable {c : CodePoint}

lemma isSurrogate_eq_false_iff : c.isSurrogate = false ↔ c.val < 0xD800 ∨ 0xDFFF < c.val := by
  simp only [isSurrogate, Bool.and_eq_false_iff, decide_eq_false_iff_not, Nat.not_le]

lemma encodeOne_of_one (h : c.val < 0x80) : encodeOne c = [UInt8.ofNat c.val] := by
  simp only [encodeOne]
  rw [if_pos h]

lemma encodeOne_of_two (hlow : 0x80 ≤ c.val) (hhigh : c.val < 0x800) :
    encodeOne c = [UInt8.ofNat (0xC0 + c.val / 0x40), continuing c.val] := by
  simp only [encodeOne]
  rw [if_neg (by omega), if_pos hhigh]
  rfl

lemma encodeOne_of_three (hlow : 0x800 ≤ c.val) (hhigh : c.val < 0x10000) :
    encodeOne c =
      [UInt8.ofNat (0xE0 + c.val / 0x1000), continuing (c.val / 0x40), continuing c.val] := by
  simp only [encodeOne]
  rw [if_neg (by omega), if_neg (by omega), if_pos hhigh, Nat.shiftRight_eq_div_pow]
  rfl

lemma encodeOne_of_four (h : 0x10000 ≤ c.val) :
    encodeOne c = [UInt8.ofNat (0xF0 + c.val / 0x40000), continuing (c.val / 0x1000),
      continuing (c.val / 0x40), continuing c.val] := by
  simp only [encodeOne]
  rw [if_neg (by omega), if_neg (by omega), if_neg (by omega), Nat.shiftRight_eq_div_pow,
    Nat.shiftRight_eq_div_pow]
  rfl

lemma exists_encodeOne_eq_cons (c : CodePoint) :
    ∃ b tail, encodeOne c = b :: tail ∧ ∀ x ∈ tail, Continues x := by
  by_cases hone : c.val < 0x80
  · exact ⟨_, _, encodeOne_of_one hone, by simp⟩
  by_cases htwo : c.val < 0x800
  · refine ⟨_, _, encodeOne_of_two (by omega) htwo, ?_⟩
    simp [continues_continuing]
  by_cases hthree : c.val < 0x10000
  · refine ⟨_, _, encodeOne_of_three (by omega) hthree, ?_⟩
    simp [continues_continuing]
  · refine ⟨_, _, encodeOne_of_four (by omega), ?_⟩
    simp [continues_continuing]

lemma encodeOne_ne_nil (c : CodePoint) : encodeOne c ≠ [] := by
  obtain ⟨b, tail, heq, -⟩ := exists_encodeOne_eq_cons c
  rw [heq]
  exact List.cons_ne_nil b tail

end Writing

/-! ### Reading -/

section Reading

variable {c : CodePoint} {value taken missing low high n : Nat} {b : UInt8} {bytes : List UInt8}

lemma sequenceAt_of_one (h : b.toNat < 0x80) (bytes : List UInt8) :
    sequenceAt b bytes = .wellFormed (ofNat b.toNat) 1 := by
  rw [sequenceAt, lead?_eq, if_pos h]
  rfl

lemma sequenceAt_of_two (hlow : 0xC2 ≤ b.toNat) (hhigh : b.toNat ≤ 0xDF) (bytes : List UInt8) :
    sequenceAt b bytes = finish (b.toNat - 0xC0) 1 1 0x80 0xBF bytes := by
  rw [sequenceAt, lead?_eq, if_neg (by omega), if_pos ⟨hlow, hhigh⟩]

lemma sequenceAt_of_three (hlow : 0xE0 ≤ b.toNat) (hhigh : b.toNat ≤ 0xEF) (bytes : List UInt8) :
    sequenceAt b bytes = finish (b.toNat - 0xE0) 1 2 (if b.toNat = 0xE0 then 0xA0 else 0x80)
      (if b.toNat = 0xED then 0x9F else 0xBF) bytes := by
  rw [sequenceAt, lead?_eq, if_neg (by omega), if_neg (by omega), if_pos ⟨hlow, hhigh⟩]

lemma sequenceAt_of_four (hlow : 0xF0 ≤ b.toNat) (hhigh : b.toNat ≤ 0xF4) (bytes : List UInt8) :
    sequenceAt b bytes = finish (b.toNat - 0xF0) 1 3 (if b.toNat = 0xF0 then 0x90 else 0x80)
      (if b.toNat = 0xF4 then 0x8F else 0xBF) bytes := by
  rw [sequenceAt, lead?_eq, if_neg (by omega), if_neg (by omega), if_neg (by omega),
    if_pos ⟨hlow, hhigh⟩]

lemma sequenceAt_of_lead?_none (h : lead? b.toNat = none) (bytes : List UInt8) :
    sequenceAt b bytes = .illFormed 1 := by
  rw [sequenceAt, h]

lemma finish_cons (hlow : low ≤ b.toNat) (hhigh : b.toNat ≤ high) :
    finish value taken (missing + 1) low high (b :: bytes) =
      finish (value * 0x40 + (b.toNat - 0x80)) (taken + 1) missing 0x80 0xBF bytes :=
  if_pos ⟨hlow, hhigh⟩

lemma finish_continuing {m : Nat} (hlow : low ≤ 0x80 + m % 0x40) (hhigh : 0x80 + m % 0x40 ≤ high) :
    finish value taken (missing + 1) low high (continuing m :: bytes) =
      finish (value * 0x40 + m % 0x40) (taken + 1) missing 0x80 0xBF bytes := by
  have hm := toNat_continuing m
  rw [finish_cons (by omega) (by omega), hm, Nat.add_sub_cancel_left]

lemma sequenceAt_of_encodeOne (hc : c.isSurrogate = false) {after : List UInt8}
    (h : encodeOne c ++ after = b :: bytes) :
    sequenceAt b bytes = .wellFormed c (encodeOne c).length := by
  have hlast := c.isLt
  rw [isSurrogate_eq_false_iff] at hc
  by_cases hone : c.val < 0x80
  · rw [encodeOne_of_one hone] at h ⊢
    obtain ⟨rfl, rfl⟩ := List.cons.inj h
    have hb := toNat_ofNat_of_lt (n := c.val) (by omega)
    rw [sequenceAt_of_one (by omega), hb, ofNat_val]
    rfl
  by_cases htwo : c.val < 0x800
  · rw [encodeOne_of_two (by omega) htwo] at h ⊢
    obtain ⟨rfl, rfl⟩ := List.cons.inj h
    have hb := toNat_ofNat_of_lt (n := 0xC0 + c.val / 0x40) (by omega)
    have hvalue : (0xC0 + c.val / 0x40 - 0xC0) * 0x40 + c.val % 0x40 = c.val := by omega
    rw [sequenceAt_of_two (by omega) (by omega), hb]
    refine (finish_continuing (by omega) (by omega)).trans ?_
    rw [finish, hvalue, ofNat_val]
    rfl
  by_cases hthree : c.val < 0x10000
  · rw [encodeOne_of_three (by omega) hthree] at h ⊢
    obtain ⟨rfl, rfl⟩ := List.cons.inj h
    have hb := toNat_ofNat_of_lt (n := 0xE0 + c.val / 0x1000) (by omega)
    have hvalue : ((0xE0 + c.val / 0x1000 - 0xE0) * 0x40 + c.val / 0x40 % 0x40) * 0x40 +
        c.val % 0x40 = c.val := by omega
    rw [sequenceAt_of_three (by omega) (by omega), hb]
    refine (finish_continuing (by split <;> omega) (by split <;> omega)).trans ?_
    refine (finish_continuing (by omega) (by omega)).trans ?_
    rw [finish, hvalue, ofNat_val]
    rfl
  · rw [encodeOne_of_four (by omega)] at h ⊢
    obtain ⟨rfl, rfl⟩ := List.cons.inj h
    have hb := toNat_ofNat_of_lt (n := 0xF0 + c.val / 0x40000) (by omega)
    have hvalue : (((0xF0 + c.val / 0x40000 - 0xF0) * 0x40 + c.val / 0x1000 % 0x40) * 0x40 +
        c.val / 0x40 % 0x40) * 0x40 + c.val % 0x40 = c.val := by omega
    rw [sequenceAt_of_four (by omega) (by omega), hb]
    refine (finish_continuing (by split <;> omega) (by split <;> omega)).trans ?_
    refine (finish_continuing (by omega) (by omega)).trans ?_
    refine (finish_continuing (by omega) (by omega)).trans ?_
    rw [finish, hvalue, ofNat_val]
    rfl

lemma exists_of_finish_eq_wellFormed
    (h : finish value taken (missing + 1) low high bytes = .wellFormed c n) :
    ∃ x rest, bytes = x :: rest ∧ low ≤ x.toNat ∧ x.toNat ≤ high ∧
      finish (value * 0x40 + (x.toNat - 0x80)) (taken + 1) missing 0x80 0xBF rest =
        .wellFormed c n := by
  cases bytes with
  | nil => cases h
  | cons x rest =>
    rw [finish] at h
    split at h
    · next hx => exact ⟨x, rest, rfl, hx.1, hx.2, h⟩
    · cases h

lemma finish_zero_eq_wellFormed (h : finish value taken 0 low high bytes = .wellFormed c n)
    (hvalue : value < 0x110000) : c.val = value ∧ n = taken := by
  rw [finish] at h
  cases h
  exact ⟨val_ofNat hvalue, rfl⟩

lemma encodeOne_of_sequenceAt (h : sequenceAt b bytes = .wellFormed c n) :
    c.isSurrogate = false ∧ n = (encodeOne c).length ∧
      ∃ after, b :: bytes = encodeOne c ++ after := by
  rw [isSurrogate_eq_false_iff]
  have hlast := UInt8.toNat_lt b
  rcases lead_cases b with hone | ⟨hlead, hlead'⟩ | ⟨hlead, hlead'⟩ | ⟨hlead, hlead'⟩ | hnone
  · rw [sequenceAt_of_one hone] at h
    cases h
    have hvalue : (ofNat b.toNat).val = b.toNat := val_ofNat (by omega)
    rw [encodeOne_of_one (by omega), hvalue, ofNat_eq_of_toNat rfl]
    exact ⟨by omega, rfl, bytes, rfl⟩
  · rw [sequenceAt_of_two hlead hlead'] at h
    obtain ⟨x, rest, rfl, hlow, hhigh, h⟩ := exists_of_finish_eq_wellFormed h
    obtain ⟨hvalue, rfl⟩ := finish_zero_eq_wellFormed h (by omega)
    rw [encodeOne_of_two (by omega) (by omega), ofNat_eq_of_toNat (b := b) (by omega),
      continuing_eq (b := x) ⟨hlow, hhigh⟩ (by omega)]
    exact ⟨by omega, rfl, rest, rfl⟩
  · rw [sequenceAt_of_three hlead hlead'] at h
    obtain ⟨x, rest, rfl, hlow, hhigh, h⟩ := exists_of_finish_eq_wellFormed h
    obtain ⟨y, rest, rfl, hlow', hhigh', h⟩ := exists_of_finish_eq_wellFormed h
    have hx : 0x80 ≤ x.toNat ∧ (b.toNat = 0xE0 → 0xA0 ≤ x.toNat) := by split at hlow <;> omega
    have hx' : x.toNat ≤ 0xBF ∧ (b.toNat = 0xED → x.toNat ≤ 0x9F) := by split at hhigh <;> omega
    obtain ⟨hvalue, rfl⟩ := finish_zero_eq_wellFormed h (by omega)
    rw [encodeOne_of_three (by omega) (by omega), ofNat_eq_of_toNat (b := b) (by omega),
      continuing_eq (b := x) ⟨hx.1, hx'.1⟩ (by omega),
      continuing_eq (b := y) ⟨hlow', hhigh'⟩ (by omega)]
    exact ⟨by omega, rfl, rest, rfl⟩
  · rw [sequenceAt_of_four hlead hlead'] at h
    obtain ⟨x, rest, rfl, hlow, hhigh, h⟩ := exists_of_finish_eq_wellFormed h
    obtain ⟨y, rest, rfl, hlow', hhigh', h⟩ := exists_of_finish_eq_wellFormed h
    obtain ⟨z, rest, rfl, hlow'', hhigh'', h⟩ := exists_of_finish_eq_wellFormed h
    have hx : 0x80 ≤ x.toNat ∧ (b.toNat = 0xF0 → 0x90 ≤ x.toNat) := by split at hlow <;> omega
    have hx' : x.toNat ≤ 0xBF ∧ (b.toNat = 0xF4 → x.toNat ≤ 0x8F) := by split at hhigh <;> omega
    obtain ⟨hvalue, rfl⟩ := finish_zero_eq_wellFormed h (by omega)
    rw [encodeOne_of_four (by omega), ofNat_eq_of_toNat (b := b) (by omega),
      continuing_eq (b := x) ⟨hx.1, hx'.1⟩ (by omega),
      continuing_eq (b := y) ⟨hlow', hhigh'⟩ (by omega),
      continuing_eq (b := z) ⟨hlow'', hhigh''⟩ (by omega)]
    exact ⟨by omega, rfl, rest, rfl⟩
  · rw [sequenceAt_of_lead?_none hnone] at h
    cases h

lemma finish_eq_illFormed (hlow : 0x80 ≤ low) (hhigh : high ≤ 0xBF)
    (h : finish value taken missing low high bytes = .illFormed n) :
    taken ≤ n ∧ ∀ x ∈ bytes.take (n - taken), Continues x := by
  induction missing generalizing value taken low high bytes with
  | zero => cases h
  | succ missing ih =>
    cases bytes with
    | nil =>
      cases h
      simp
    | cons y rest =>
      rw [finish] at h
      split at h
      · next hy =>
        obtain ⟨hn, hrest⟩ := ih (by omega) (by omega) h
        refine ⟨by omega, ?_⟩
        have htake : n - taken = n - (taken + 1) + 1 := by omega
        rw [htake, List.take_succ_cons]
        intro x hx
        rcases List.mem_cons.mp hx with rfl | hx
        · exact ⟨by omega, by omega⟩
        · exact hrest x hx
      · cases h
        simp

lemma continues_of_sequenceAt (h : sequenceAt b bytes = .illFormed n) :
    ∀ x ∈ bytes.take (n - 1), Continues x := by
  rcases lead_cases b with hone | ⟨hlead, hlead'⟩ | ⟨hlead, hlead'⟩ | ⟨hlead, hlead'⟩ | hnone
  · rw [sequenceAt_of_one hone] at h
    cases h
  · rw [sequenceAt_of_two hlead hlead'] at h
    exact (finish_eq_illFormed (by omega) (by omega) h).2
  · rw [sequenceAt_of_three hlead hlead'] at h
    exact (finish_eq_illFormed (by split <;> omega) (by split <;> omega) h).2
  · rw [sequenceAt_of_four hlead hlead'] at h
    exact (finish_eq_illFormed (by split <;> omega) (by split <;> omega) h).2
  · rw [sequenceAt_of_lead?_none hnone] at h
    cases h
    simp

lemma not_continues_of_encodeOne (hc : c.isSurrogate = false) {tail : List UInt8}
    (h : encodeOne c = b :: tail) : ¬ Continues b := by
  intro hcontinues
  have happend : encodeOne c ++ [] = b :: tail := by rw [List.append_nil, h]
  have hread := sequenceAt_of_encodeOne hc happend
  rw [sequenceAt_of_lead?_none (lead?_of_continues hcontinues)] at hread
  cases hread

lemma eq_nil_of_encodeOne_append {d : CodePoint} (hc : c.isSurrogate = false)
    (hd : d.isSurrogate = false) (h : encodeOne c ++ bytes = encodeOne d) : bytes = [] := by
  obtain ⟨b, tail, heq, -⟩ := exists_encodeOne_eq_cons d
  have hread := sequenceAt_of_encodeOne hc (h.trans heq)
  have happend : encodeOne d ++ [] = b :: tail := by rw [List.append_nil, heq]
  have hread' := sequenceAt_of_encodeOne hd happend
  rw [hread] at hread'
  obtain ⟨rfl, -⟩ := Utf8.Sequence.wellFormed.inj hread'
  exact List.append_right_eq_self.mp h

end Reading

end NameKeys.Proofs
