import Mathlib.Tactic.Lemma
import NameKeys.Canonical.Composition

/-!
# Hangul syllables by the places of their jamo

A precomposed syllable is a leading consonant, a vowel and a trailing consonant or none. In terms of
their places in the three rows of jamo, decomposition and composition are inverse to each other.
-/

namespace NameKeys.Proofs
open CodePoint

def lead (l : Nat) : CodePoint := ofNat (0x1100 + l)
def vowel (v : Nat) : CodePoint := ofNat (0x1161 + v)
def tail (t : Nat) : CodePoint := ofNat (0x11A7 + t)
/-- The syllable of three places, where 0 is no trailing consonant. -/
def syllable (l v t : Nat) : CodePoint := ofNat (0xAC00 + (l * 21 + v) * 28 + t)

section Places

variable {l v t : Nat}

lemma lead_val (hl : l < 19) : (lead l).val = 0x1100 + l := val_ofNat (by omega)

lemma vowel_val (hv : v < 21) : (vowel v).val = 0x1161 + v := val_ofNat (by omega)

lemma tail_val (ht : t < 28) : (tail t).val = 0x11A7 + t := val_ofNat (by omega)

lemma syllable_val (hl : l < 19) (hv : v < 21) (ht : t < 28) :
    (syllable l v t).val = 0xAC00 + (l * 21 + v) * 28 + t := val_ofNat (by omega)

end Places

lemma isSyllable_iff (n : Nat) : Hangul.isSyllable n = true ↔ 0xAC00 ≤ n ∧ n ≤ 0xD7A3 := by
  rw [Hangul.isSyllable, Bool.and_eq_true, decide_eq_true_eq, decide_eq_true_eq]
  change 0xAC00 ≤ n ∧ n < 0xAC00 + 19 * 21 * 28 ↔ _
  omega

lemma exists_syllable {c : CodePoint} (h : Hangul.isSyllable c.val = true) :
    ∃ l v t, l < 19 ∧ v < 21 ∧ t < 28 ∧ c = syllable l v t := by
  obtain ⟨hlow, hhigh⟩ := (isSyllable_iff c.val).mp h
  refine ⟨(c.val - 0xAC00) / 588, (c.val - 0xAC00) % 588 / 28, (c.val - 0xAC00) % 28,
    by omega, by omega, by omega, ?_⟩
  have hval : 0xAC00 + ((c.val - 0xAC00) / 588 * 21 + (c.val - 0xAC00) % 588 / 28) * 28 +
      (c.val - 0xAC00) % 28 = c.val := by omega
  rw [syllable, hval, ofNat_val]

lemma hangul_decomposition?_eq_none {n : Nat} (h : n < 0xAC00 ∨ 0xD7A3 < n) :
    Hangul.decomposition? n = none := by
  have hn : ¬Hangul.isSyllable n = true := by
    rw [isSyllable_iff]
    omega
  rw [Hangul.decomposition?, if_neg hn]

lemma decomposition_syllable {l v t : Nat} (hl : l < 19) (hv : v < 21) (ht : t < 28) :
    (syllable l v t).decomposition =
      [lead l, vowel v] ++ if t = 0 then [] else [tail t] := by
  have hval := syllable_val hl hv ht
  have hs : Hangul.isSyllable (syllable l v t).val = true := by
    rw [isSyllable_iff]
    omega
  have hindex : (syllable l v t).val - 0xAC00 = (l * 21 + v) * 28 + t := by omega
  have hlead : ((l * 21 + v) * 28 + t) / (21 * 28) = l := by omega
  have hvowel : ((l * 21 + v) * 28 + t) % (21 * 28) / 28 = v := by omega
  have htail : ((l * 21 + v) * 28 + t) % 28 = t := by omega
  simp only [decomposition, Hangul.decomposition?, hs, if_true, Hangul.syllableBase,
    Hangul.vowelCount, Hangul.tailCount, Hangul.leadBase, Hangul.vowelBase, Hangul.tailBase, hindex,
    hlead, hvowel, htail]
  split <;> rfl

lemma hangul_composite?_lead_vowel {l v : Nat} (hl : l < 19) (hv : v < 21) :
    Hangul.composite? (0x1100 + l) (0x1161 + v) = some (0xAC00 + (l * 21 + v) * 28) := by
  have hcond : 0x1100 ≤ 0x1100 + l ∧ 0x1100 + l < 0x1100 + 19 ∧
      0x1161 ≤ 0x1161 + v ∧ 0x1161 + v < 0x1161 + 21 := by omega
  rw [Hangul.composite?, Hangul.leadBase, Hangul.leadCount, Hangul.vowelBase, Hangul.vowelCount,
    if_pos hcond, Nat.add_sub_cancel_left, Nat.add_sub_cancel_left]
  rfl

lemma composite?_lead_vowel {l v : Nat} (hl : l < 19) (hv : v < 21) :
    composite? (lead l) (vowel v) = some (syllable l v 0) := by
  rw [composite?, lead_val hl, vowel_val hv, hangul_composite?_lead_vowel hl hv]
  rfl

lemma hangul_composite?_syllable_tail {l v t : Nat} (hl : l < 19) (hv : v < 21) (h0 : t ≠ 0)
    (ht : t < 28) : Hangul.composite? (0xAC00 + (l * 21 + v) * 28) (0x11A7 + t) =
      some (0xAC00 + (l * 21 + v) * 28 + t) := by
  have hs : Hangul.isSyllable (0xAC00 + (l * 21 + v) * 28) = true ∧
      (0xAC00 + (l * 21 + v) * 28 - 0xAC00) % 28 = 0 ∧
      0x11A7 < 0x11A7 + t ∧ 0x11A7 + t < 0x11A7 + 28 := by
    rw [isSyllable_iff]
    omega
  rw [Hangul.composite?, Hangul.leadBase, Hangul.leadCount, Hangul.vowelBase, Hangul.vowelCount,
    Hangul.syllableBase, Hangul.tailBase, Hangul.tailCount, if_neg (by omega), if_pos hs,
    Nat.add_sub_cancel_left]

lemma composite?_syllable_tail {l v t : Nat} (hl : l < 19) (hv : v < 21) (h0 : t ≠ 0)
    (ht : t < 28) : composite? (syllable l v 0) (tail t) = some (syllable l v t) := by
  rw [composite?, syllable_val hl hv (by omega), tail_val ht, Nat.add_zero,
    hangul_composite?_syllable_tail hl hv h0 ht]
  rfl

lemma hangul_composite?_cases {x y : CodePoint} {n : Nat}
    (h : Hangul.composite? x.val y.val = some n) :
    (∃ l v, l < 19 ∧ v < 21 ∧ x = lead l ∧ y = vowel v ∧ ofNat n = syllable l v 0) ∨
    ∃ l v t, l < 19 ∧ v < 21 ∧ t ≠ 0 ∧ t < 28 ∧ x = syllable l v 0 ∧ y = tail t ∧
      ofNat n = syllable l v t := by
  rw [Hangul.composite?, Hangul.leadBase, Hangul.leadCount, Hangul.vowelBase, Hangul.vowelCount,
    Hangul.syllableBase, Hangul.tailBase, Hangul.tailCount] at h
  split at h
  · next hc =>
    have hn : n = 0xAC00 + ((x.val - 0x1100) * 21 + (y.val - 0x1161)) * 28 + 0 := by
      have hsome := Option.some.inj h
      omega
    refine .inl ⟨x.val - 0x1100, y.val - 0x1161, by omega, by omega, ?_, ?_, congrArg ofNat hn⟩
    · rw [lead, Nat.add_sub_cancel' hc.1, ofNat_val]
    · rw [vowel, Nat.add_sub_cancel' hc.2.2.1, ofNat_val]
  · split at h
    · next hc =>
      obtain ⟨l, v, t, hl, hv, ht, rfl⟩ := exists_syllable hc.1
      have hval := syllable_val hl hv ht
      obtain rfl : t = 0 := by omega
      have hn : n = 0xAC00 + (l * 21 + v) * 28 + (y.val - 0x11A7) := by
        have hsome := Option.some.inj h
        omega
      refine .inr ⟨l, v, y.val - 0x11A7, hl, hv, by omega, by omega, rfl, ?_, congrArg ofNat hn⟩
      rw [tail, Nat.add_sub_cancel' (by omega), ofNat_val]
    · simp at h

end NameKeys.Proofs
