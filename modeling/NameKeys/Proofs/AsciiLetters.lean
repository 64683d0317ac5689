import NameKeys.Proofs.CaseFoldings
import NameKeys.Proofs.QuickCheck

/-!
# ASCII letters

Folding ASCII letters replaces one starter by another, and neither has a decomposition. So this
folding keeps decomposed text decomposed, may come before or after the marks are put in order, and
reaches no further than the full folding does.
-/

namespace NameKeys.Proofs
open CodePoint
open Text (foldCase foldAsciiCase insertMark orderMarks)
open CanonicalForm (verdictOn)

/-- The code point that takes the place of one when ASCII letters are folded. -/
def smallLetter (c : CodePoint) : CodePoint :=
  if 0x41 ≤ c.val ∧ c.val ≤ 0x5A then ofNat (c.val + 0x20) else c

/-- What is checked of the ASCII code points. -/
structure CheckedAscii : Prop where
  asciiStarter : ∀ n < 0x80, (ofNat n).isStarter = true
  asciiYes : ∀ n < 0x80, ∀ form ∈ CanonicalForm.all, form.verdictOn (ofNat n) = .yes
  asciiFolding : ∀ n < 0x80, folding (ofNat n) = [smallLetter (ofNat n)]

lemma checkedAscii : CheckedAscii where
  asciiStarter := by decide +kernel
  asciiYes := by decide +kernel
  asciiFolding := by decide +kernel

open CheckedAscii

/-! ### One code point -/

section Ascii

variable {c : CodePoint}

lemma isAscii_iff : c.isAscii = true ↔ c.val < 0x80 := by
  simp [isAscii]

lemma isAscii_eq_false_iff : c.isAscii = false ↔ 0x80 ≤ c.val := by
  simp [isAscii]

lemma isStarter_of_isAscii (h : c.isAscii = true) : c.isStarter = true := by
  have hc := asciiStarter checkedAscii c.val (isAscii_iff.mp h)
  rwa [ofNat_val] at hc

lemma verdictOn_of_isAscii (h : c.isAscii = true) (form : CanonicalForm) :
    form.verdictOn c = .yes := by
  have hc := asciiYes checkedAscii c.val (isAscii_iff.mp h) form (by cases form <;> decide)
  rwa [ofNat_val] at hc

lemma decomposition_of_isAscii (h : c.isAscii = true) : c.decomposition = [c] := by
  apply decomposition_eq_self
  rw [verdictOn_of_isAscii h]
  decide

lemma folding_of_isAscii (h : c.isAscii = true) : folding c = [smallLetter c] := by
  have hc := asciiFolding checkedAscii c.val (isAscii_iff.mp h)
  rwa [ofNat_val] at hc

end Ascii

lemma smallLetter_cases (c : CodePoint) :
    smallLetter c = c ∨ c.isAscii = true ∧ (smallLetter c).isAscii = true := by
  by_cases h : 0x41 ≤ c.val ∧ c.val ≤ 0x5A
  · have hval : (smallLetter c).val = c.val + 0x20 := by
      rw [smallLetter, if_pos h, val_ofNat (by omega)]
    right
    rw [isAscii_iff, isAscii_iff, hval]
    omega
  · left
    rw [smallLetter, if_neg h]

lemma smallLetter_smallLetter (c : CodePoint) : smallLetter (smallLetter c) = smallLetter c := by
  by_cases h : 0x41 ≤ c.val ∧ c.val ≤ 0x5A
  · have hval : (smallLetter c).val = c.val + 0x20 := by
      rw [smallLetter, if_pos h, val_ofNat (by omega)]
    have hsmall : ¬(0x41 ≤ (smallLetter c).val ∧ (smallLetter c).val ≤ 0x5A) := by omega
    rw [smallLetter, if_neg hsmall]
  · have hc : smallLetter c = c := by rw [smallLetter, if_neg h]
    rw [hc, hc]

lemma combiningClass_smallLetter (c : CodePoint) :
    (smallLetter c).combiningClass = c.combiningClass := by
  rcases smallLetter_cases c with h | ⟨hc, hsmall⟩
  · rw [h]
  · rw [(isStarter_iff _).mp (isStarter_of_isAscii hsmall),
      (isStarter_iff _).mp (isStarter_of_isAscii hc)]

lemma map_smallLetter_decomposition (c : CodePoint) :
    (smallLetter c).decomposition.map smallLetter = c.decomposition.map smallLetter := by
  rcases smallLetter_cases c with h | ⟨hc, hsmall⟩
  · rw [h]
  · rw [decomposition_of_isAscii hsmall, decomposition_of_isAscii hc, List.map_singleton,
      List.map_singleton, smallLetter_smallLetter]

lemma folding_smallLetter (c : CodePoint) : folding (smallLetter c) = folding c := by
  rcases smallLetter_cases c with h | ⟨hc, hsmall⟩
  · rw [h]
  · rw [folding_of_isAscii hsmall, folding_of_isAscii hc, smallLetter_smallLetter]

/-! ### A whole text -/

lemma foldAsciiCase_eq_map (t : Text) : foldAsciiCase t = t.map smallLetter := rfl

lemma foldAsciiCase_foldAsciiCase (t : Text) : foldAsciiCase (foldAsciiCase t) = foldAsciiCase t := by
  have hcomp : smallLetter ∘ smallLetter = smallLetter := funext smallLetter_smallLetter
  rw [foldAsciiCase_eq_map, foldAsciiCase_eq_map, List.map_map, hcomp]

lemma foldCase_foldAsciiCase (t : Text) : foldCase (foldAsciiCase t) = foldCase t := by
  induction t with
  | nil => rfl
  | cons c rest ih =>
    rw [foldAsciiCase_eq_map] at ih ⊢
    rw [List.map_cons, foldCase_cons, foldCase_cons, folding_smallLetter, ih]

lemma insertMark_map_smallLetter (c : CodePoint) (t : Text) :
    insertMark (smallLetter c) (t.map smallLetter) = (insertMark c t).map smallLetter := by
  induction t with
  | nil => rfl
  | cons d rest ih =>
    have hc := combiningClass_smallLetter c
    have hd := combiningClass_smallLetter d
    by_cases h : d.combiningClass ≠ 0 ∧ d.combiningClass < c.combiningClass
    · rw [insertMark_cons_of_lt h.1 h.2, List.map_cons, List.map_cons,
        insertMark_cons_of_lt (by omega) (by omega), ih]
    · rw [insertMark_cons_of_le (by omega), List.map_cons, insertMark_cons_of_le (by omega)]
      rfl

lemma orderMarks_foldAsciiCase (t : Text) :
    orderMarks (foldAsciiCase t) = foldAsciiCase (orderMarks t) := by
  induction t with
  | nil => rfl
  | cons c rest ih =>
    rw [foldAsciiCase_eq_map] at ih ⊢
    rw [List.map_cons, orderMarks_cons, ih]
    exact insertMark_map_smallLetter c _

lemma flatMap_decomposition_foldAsciiCase (t : Text) :
    foldAsciiCase ((foldAsciiCase t).flatMap decomposition) =
      foldAsciiCase (t.flatMap decomposition) := by
  simp only [foldAsciiCase_eq_map]
  induction t with
  | nil => rfl
  | cons c rest ih =>
    rw [List.map_cons, List.flatMap_cons, List.flatMap_cons, List.map_append, List.map_append,
      map_smallLetter_decomposition, ih]

lemma foldAsciiCase_decompose_foldAsciiCase (t : Text) :
    foldAsciiCase (foldAsciiCase t).decompose = foldAsciiCase t.decompose := by
  rw [Text.decompose, Text.decompose, ← orderMarks_foldAsciiCase, ← orderMarks_foldAsciiCase,
    flatMap_decomposition_foldAsciiCase]

lemma decompose_foldAsciiCase {t : Text} (hfull : ∀ c ∈ t, c.decomposition = [c])
    (hordered : CanonicalForm.marksInOrder t = true) :
    (foldAsciiCase t).decompose = foldAsciiCase t := by
  have hfolded : ∀ c ∈ foldAsciiCase t, c.decomposition = [c] := by
    intro c hc
    rw [foldAsciiCase_eq_map] at hc
    obtain ⟨d, hd, rfl⟩ := List.mem_map.mp hc
    rcases smallLetter_cases d with h | ⟨-, hsmall⟩
    · rw [h]
      exact hfull d hd
    · exact decomposition_of_isAscii hsmall
  rw [decompose_eq_orderMarks hfolded, orderMarks_foldAsciiCase, orderMarks_eq_self hordered]

end NameKeys.Proofs
