import NameKeys.Proofs.AsciiLetters

/-!
# Words in lower case

Full lower case does more than folding the ASCII letters, but a word of ASCII code points without the
letter `k` is the lower case of its own ASCII case variants only: besides them no code point has an
ASCII mapping but the Kelvin sign, which becomes a `k`.
-/

namespace NameKeys.Proofs
open CodePoint
open Text (foldAsciiCase lower lowerAfter)
open Unicode (lowercaseMapping lowercaseMappings)

def lowering (c : CodePoint) : Text := (lowercaseMapping c.val).map ofNat

/-- The letter that the Kelvin sign becomes. -/
def kelvinLetter : CodePoint := ofChar 'k'

/-- What is checked of the table of lower-case mappings. -/
structure CheckedLowercase : Prop where
  asciiLowering : ∀ n < 0x80, lowering (ofNat n) = [smallLetter (ofNat n)]
  otherLowering : ∀ e ∈ lowercaseMappings, 0x80 ≤ e.1 →
    (∃ n ∈ e.2, (ofNat n).isAscii = false) ∨ e.2.map ofNat = [kelvinLetter]

lemma checkedLowercase : CheckedLowercase where
  asciiLowering := by decide +kernel
  otherLowering := by decide +kernel

open CheckedLowercase

/-! ### One code point -/

section Lowering

variable {c : CodePoint}

lemma lowering_of_isAscii (h : c.isAscii = true) : lowering c = [smallLetter c] := by
  have hc := asciiLowering checkedLowercase c.val (isAscii_iff.mp h)
  rwa [ofNat_val] at hc

lemma lowering_of_not_isAscii (h : c.isAscii = false) :
    (∃ m ∈ lowering c, m.isAscii = false) ∨ lowering c = [kelvinLetter] := by
  have hval := isAscii_eq_false_iff.mp h
  unfold lowering lowercaseMapping
  cases hp : Unicode.lowercaseMappingTree.find? c.val with
  | none => exact .inl ⟨c, by simp, h⟩
  | some parts =>
    have hmem := Unicode.SearchTree.mem_of_find?_ofSorted hp
    rcases otherLowering checkedLowercase _ hmem hval with ⟨n, hn, hascii⟩ | hkelvin
    · exact .inl ⟨ofNat n, List.mem_map_of_mem hn, hascii⟩
    · exact .inr hkelvin

lemma isAscii_of_smallLetter (h : (smallLetter c).isAscii = true) : c.isAscii = true := by
  rcases smallLetter_cases c with hsame | ⟨hc, -⟩
  · rwa [hsame] at h
  · exact hc

end Lowering

/-! ### A whole text -/

/-- Whether a code point is an ASCII one that only ASCII code points become in lower case. -/
def isPlainLower (c : CodePoint) : Bool := c.isAscii && c ≠ kelvinLetter

/-- What comes of the first code point of a text: its mapping, or for a sigma something that is not
ASCII either. -/
lemma lowerAfter_cons (afterCased : Bool) (c : CodePoint) (rest : Text) :
    ∃ first nextCased, lowerAfter afterCased (c :: rest) = first ++ lowerAfter nextCased rest ∧
      (first = lowering c ∨ c.isAscii = false ∧ ∃ m ∈ first, m.isAscii = false) := by
  rw [lowerAfter]
  refine ⟨_, _, rfl, ?_⟩
  split
  · next hsigma =>
    refine .inr ⟨?_, _, List.mem_singleton_self _, by decide⟩
    simp [isAscii, hsigma.1]
  · exact .inl rfl

lemma lowerAfter_of_isAscii {t : Text} (h : ∀ c ∈ t, c.isAscii = true) (afterCased : Bool) :
    lowerAfter afterCased t = foldAsciiCase t := by
  induction t generalizing afterCased with
  | nil => rfl
  | cons c rest ih =>
    have hc := h c (List.mem_cons_self ..)
    obtain ⟨first, nextCased, heq, hfirst⟩ := lowerAfter_cons afterCased c rest
    have hlowering : first = [smallLetter c] := by
      rcases hfirst with hfirst | ⟨hother, -⟩
      · rw [hfirst, lowering_of_isAscii hc]
      · rw [hc] at hother
        contradiction
    rw [heq, hlowering, ih (fun d hd => h d (List.mem_cons_of_mem _ hd))]
    rfl

lemma foldAsciiCase_of_lowerAfter {t word : Text} (hword : ∀ c ∈ word, isPlainLower c = true)
    {afterCased : Bool} (h : lowerAfter afterCased t = word) : foldAsciiCase t = word := by
  induction t generalizing word afterCased with
  | nil => exact h
  | cons c rest ih =>
    obtain ⟨first, nextCased, heq, hfirst⟩ := lowerAfter_cons afterCased c rest
    rw [← h, heq] at hword
    have hplain : ∀ m ∈ first, m.isAscii = true ∧ m ≠ kelvinLetter := fun m hm => by
      simpa [isPlainLower] using hword m (List.mem_append_left _ hm)
    have hlowering : first = [smallLetter c] := by
      rcases hfirst with rfl | ⟨-, m, hm, hother⟩
      · cases hc : c.isAscii with
        | true => exact lowering_of_isAscii hc
        | false =>
          rcases lowering_of_not_isAscii hc with ⟨m, hm, hother⟩ | hkelvin
          · rw [(hplain m hm).1] at hother
            contradiction
          · exact absurd rfl (hplain kelvinLetter (by simp [hkelvin])).2
      · rw [(hplain m hm).1] at hother
        contradiction
    have hrest := ih (fun d hd => hword d (List.mem_append_right _ hd)) rfl
    rw [← h, heq, hlowering, ← hrest]
    rfl

lemma lower_eq_iff {word : Text} (hword : ∀ c ∈ word, isPlainLower c = true) (t : Text) :
    lower t = word ↔ foldAsciiCase t = word := by
  refine ⟨foldAsciiCase_of_lowerAfter hword, fun h => ?_⟩
  rw [← h]
  refine lowerAfter_of_isAscii (fun c hc => ?_) false
  have hsmall : smallLetter c ∈ word := by
    rw [← h, foldAsciiCase_eq_map]
    exact List.mem_map_of_mem hc
  have hplain := hword _ hsmall
  simp only [isPlainLower, Bool.and_eq_true] at hplain
  exact isAscii_of_smallLetter hplain.1

end NameKeys.Proofs
