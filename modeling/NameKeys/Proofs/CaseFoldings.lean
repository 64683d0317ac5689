import NameKeys.Proofs.CanonicalTables
import NameKeys.Text.Case

/-!
# Facts about the table of case foldings

Full folding and decomposition commute code point by code point. A mark folds to itself, except the
iota subscript, which becomes a letter; and no mark has a greater class than it.
-/

namespace NameKeys.Proofs
open CodePoint
open Text (foldCase)
open Unicode hiding combiningClass composite?

def folding (c : CodePoint) : Text := (caseFolding c.val).map ofNat

/-- The mark below a letter that folds to a letter of its own. -/
def iotaSubscript : CodePoint := ofNat 0x345

/-- The letter that the iota subscript folds to. -/
def iotaLetter : CodePoint := ofNat 0x3B9

/-- What is checked of the table of case foldings. -/
structure CheckedFoldings : Prop where
  notHangul : ∀ e ∈ caseFoldings,
    (e.1 < 0x1100 ∨ 0x11C2 < e.1) ∧ (e.1 < 0xAC00 ∨ 0xD7A3 < e.1)
  foldingsDecompose : ∀ e ∈ caseFoldings,
    (e.2.map ofNat).flatMap decomposition = (ofNat e.1).decomposition.flatMap folding
  decompositionsFold : ∀ e ∈ decompositions,
    folding (ofNat e.1) = [ofNat e.1] → (e.2.map ofNat).flatMap folding = e.2.map ofNat
  marks : ∀ e ∈ caseFoldings, (ofNat e.1).isStarter = true ∨ ofNat e.1 = iotaSubscript
  starters : ∀ e ∈ caseFoldings, (ofNat e.1).decomposition = [ofNat e.1] →
    e.2 ≠ [] ∧ ∀ n ∈ e.2, (ofNat n).isStarter = true
  classes : ∀ r ∈ combiningClassRanges, r.2.2 < 240 ∨ r.1 = 0x345 ∧ r.2.1 = 0x345
  subscriptClass : iotaSubscript.combiningClass = 240
  subscriptFolding : folding iotaSubscript = [iotaLetter]
  letterStarter : iotaLetter.isStarter = true

lemma checkedFoldings : CheckedFoldings where
  notHangul := by decide +kernel
  foldingsDecompose := by decide +kernel
  decompositionsFold := by decide +kernel
  marks := by decide +kernel
  starters := by decide +kernel
  classes := by decide +kernel
  subscriptClass := by decide +kernel
  subscriptFolding := by decide +kernel
  letterStarter := by decide +kernel

open CheckedFoldings

lemma foldCase_cons (c : CodePoint) (t : Text) : foldCase (c :: t) = folding c ++ foldCase t := rfl

lemma folding_cases (c : CodePoint) :
    (∃ parts, (c.val, parts) ∈ caseFoldings ∧ folding c = parts.map ofNat) ∨ folding c = [c] := by
  unfold folding caseFolding
  cases hp : caseFoldingTree.find? c.val with
  | none => exact .inr (by simp)
  | some parts => exact .inl ⟨parts, SearchTree.mem_of_find?_ofSorted hp, rfl⟩

lemma folding_of_isHangul {c : CodePoint} (h : IsHangul c.val) : folding c = [c] := by
  rcases folding_cases c with ⟨parts, hmem, -⟩ | heq
  · have hkey := notHangul checkedFoldings _ hmem
    unfold IsHangul at h
    omega
  · exact heq

/-! ### Folding and decomposition -/

lemma flatMap_folding_decomposition_syllable {l v t : Nat} (hl : l < 19) (hv : v < 21)
    (ht : t < 28) : (syllable l v t).decomposition.flatMap folding =
      (syllable l v t).decomposition := by
  have hlead : folding (lead l) = [lead l] :=
    folding_of_isHangul (.inl (by rw [lead_val hl]; omega))
  have hvowel : folding (vowel v) = [vowel v] :=
    folding_of_isHangul (.inl (by rw [vowel_val hv]; omega))
  have htail : folding (tail t) = [tail t] :=
    folding_of_isHangul (.inl (by rw [tail_val ht]; omega))
  rw [decomposition_syllable hl hv ht]
  split <;> simp [hlead, hvowel, htail]

/-- Folding a code point and decomposing it may be done in either order. -/
lemma flatMap_decomposition_folding (c : CodePoint) :
    (folding c).flatMap decomposition = c.decomposition.flatMap folding := by
  rcases folding_cases c with ⟨parts, hmem, heq⟩ | heq
  · have hc := foldingsDecompose checkedFoldings _ hmem
    rw [ofNat_val] at hc
    rw [heq, hc]
  · rw [heq, List.flatMap_singleton]
    rcases decomposition_cases c with ⟨l, v, t, hl, hv, ht, rfl⟩ | ⟨parts, hmem, hd⟩ | hd
    · exact (flatMap_folding_decomposition_syllable hl hv ht).symm
    · have hc := decompositionsFold checkedFoldings _ hmem
      rw [ofNat_val] at hc
      rw [hd, hc heq]
    · rw [hd, List.flatMap_singleton, heq]

lemma flatMap_decomposition_foldCase (t : Text) :
    (foldCase t).flatMap decomposition = foldCase (t.flatMap decomposition) := by
  induction t with
  | nil => rfl
  | cons c rest ih =>
    rw [foldCase_cons, List.flatMap_append, flatMap_decomposition_folding, ih]
    exact List.flatMap_append.symm

/-! ### Folding and marks -/

lemma folding_of_mark {c : CodePoint} (hc : c.isStarter = false) (h : c ≠ iotaSubscript) :
    folding c = [c] := by
  rcases folding_cases c with ⟨parts, hmem, -⟩ | heq
  · have hmark := marks checkedFoldings _ hmem
    rw [ofNat_val, hc] at hmark
    exact absurd (hmark.resolve_left (by simp)) h
  · exact heq

lemma folding_of_starter {c : CodePoint} (hc : c.isStarter = true) (hd : c.decomposition = [c]) :
    folding c ≠ [] ∧ ∀ p ∈ folding c, p.isStarter = true := by
  rcases folding_cases c with ⟨parts, hmem, heq⟩ | heq
  · have hparts := starters checkedFoldings _ hmem
    rw [ofNat_val] at hparts
    obtain ⟨hne, hstarters⟩ := hparts hd
    rw [heq]
    refine ⟨by simpa using hne, fun p hp => ?_⟩
    obtain ⟨n, hn, rfl⟩ := List.mem_map.mp hp
    exact hstarters n hn
  · rw [heq]
    exact ⟨by simp, fun p hp => by rw [List.mem_singleton.mp hp, hc]⟩

lemma combiningClass_iotaSubscript : iotaSubscript.combiningClass = 240 :=
  subscriptClass checkedFoldings

lemma folding_iotaSubscript : folding iotaSubscript = [iotaLetter] :=
  subscriptFolding checkedFoldings

lemma isStarter_iotaLetter : iotaLetter.isStarter = true :=
  letterStarter checkedFoldings

lemma combiningClass_lt_of_ne {c : CodePoint} (h : c ≠ iotaSubscript) : c.combiningClass < 240 := by
  by_contra hc
  have hclass : Unicode.combiningClass c.val = c.combiningClass := rfl
  obtain ⟨r, hr, hfirst, hlast, heq⟩ := exists_range_of_class (n := c.val) (by omega)
  have hr' := classes checkedFoldings r hr
  have hval : c.val = 0x345 := by omega
  exact h (Fin.ext hval)

end NameKeys.Proofs
