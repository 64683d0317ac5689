import NameKeys.Matching.Key
import NameKeys.Proofs.AsciiLetters
import NameKeys.Proofs.FoldedForms

/-!
# Keys of keys

A key has its profile's case folded. After decomposition it is decomposed as well, for folding
decomposed and ordered text gives nothing that decomposes and puts no mark out of order: the iota
subscript, which folds to a letter, stands last among the marks. So a key is its own key, except
where letters that were folded after composition compose with what follows them.
-/

namespace NameKeys.Proofs
open CodePoint
open Text (foldCase decompose orderMarks)
open CanonicalForm (marksInOrder verdictOn)

/-- What is checked of folded code points and of those that cannot stand in decomposed text. -/
structure CheckedKeys : Prop where
  foldingsFolded : ∀ e ∈ Unicode.caseFoldings, ∀ n ∈ e.2, folding (ofNat n) = [ofNat n]
  noDecomposes : ∀ r ∈ Unicode.decomposedNoRanges, (0xAC00 ≤ r.1 ∧ r.2 ≤ 0xD7A3) ∨
    ∀ i < r.2 + 1 - r.1, (ofNat (r.1 + i)).decomposition ≠ [ofNat (r.1 + i)]

lemma checkedKeys : CheckedKeys where
  foldingsFolded := by decide +kernel
  noDecomposes := by decide +kernel

open CheckedKeys

/-! ### Folded text -/

lemma folding_of_mem_folding {c p : CodePoint} (h : p ∈ folding c) : folding p = [p] := by
  rcases folding_cases c with ⟨parts, hmem, heq⟩ | heq
  · rw [heq] at h
    obtain ⟨n, hn, rfl⟩ := List.mem_map.mp h
    exact foldingsFolded checkedKeys _ hmem n hn
  · rw [heq] at h
    obtain rfl := List.mem_singleton.mp h
    exact heq

lemma foldCase_eq_self {t : Text} (h : ∀ c ∈ t, folding c = [c]) : foldCase t = t := by
  induction t with
  | nil => rfl
  | cons c rest ih =>
    rw [foldCase_cons, h c (List.mem_cons_self ..), ih fun d hd => h d (List.mem_cons_of_mem c hd)]
    rfl

lemma foldCase_foldCase (t : Text) : foldCase (foldCase t) = foldCase t := by
  apply foldCase_eq_self
  intro p hp
  obtain ⟨c, -, hc⟩ := List.mem_flatMap.mp hp
  exact folding_of_mem_folding hc

lemma fold_apply_apply (fold : CaseFold) (t : Text) :
    fold.apply (fold.apply t) = fold.apply t := by
  cases fold with
  | none => rfl
  | unicode => exact foldCase_foldCase t
  | ascii => exact foldAsciiCase_foldAsciiCase t

/-! ### Folded text after decomposition -/

lemma subscriptsLast_of_marksInOrder {t : Text} (h : marksInOrder t = true) :
    subscriptsLast t = true := by
  induction t with
  | nil => rfl
  | cons c rest ih =>
    have hrest := ih (marksInOrder_tail h)
    by_cases hc : c = iotaSubscript
    · subst hc
      rw [subscriptsLast_cons_iotaSubscript]
      refine ⟨?_, hrest⟩
      cases rest with
      | nil => rfl
      | cons d rest =>
        rw [subscriptStays_cons]
        exact ((marksInOrder_cons_cons _ d rest).mp h).1
    · rw [subscriptsLast_cons_of_ne hc]
      exact hrest

lemma decompose_foldCase {t : Text} (hfull : ∀ c ∈ t, c.decomposition = [c])
    (hordered : marksInOrder t = true) : decompose (foldCase t) = foldCase t := by
  have hlast := subscriptsLast_of_marksInOrder hordered
  rw [decompose, flatMap_decomposition_foldCase, flatMap_decomposition_eq_self hfull,
    (orderMarks_foldCase_iff hfull).mpr hlast, orderMarks_eq_self hordered]

lemma decompose_fold_apply (fold : CaseFold) {t : Text} (hfull : ∀ c ∈ t, c.decomposition = [c])
    (hordered : marksInOrder t = true) : decompose (fold.apply t) = fold.apply t := by
  cases fold with
  | none => exact decompose_eq_self hfull hordered
  | unicode => exact decompose_foldCase hfull hordered
  | ascii => exact decompose_foldAsciiCase hfull hordered

/-! ### The quick check of decomposed text -/

lemma syllable_ne_decomposition {l v t : Nat} (hl : l < 19) (hv : v < 21) (ht : t < 28) :
    (syllable l v t).decomposition ≠ [syllable l v t] := by
  intro h
  have hlength := congrArg List.length h
  rw [decomposition_syllable hl hv ht] at hlength
  simp at hlength

lemma decomposition_ne_of_range {first last : Nat} {c : CodePoint}
    (h : ∀ i < last + 1 - first, (ofNat (first + i)).decomposition ≠ [ofNat (first + i)])
    (hfirst : first ≤ c.val) (hlast : c.val ≤ last) : c.decomposition ≠ [c] := by
  have hc := h (c.val - first) (by omega)
  rwa [Nat.add_sub_cancel' hfirst, ofNat_val] at hc

lemma decomposedNo_eq_false {c : CodePoint} (h : c.decomposition = [c]) :
    Unicode.decomposedNo c.val = false := by
  rw [Bool.eq_false_iff]
  intro hno
  obtain ⟨r, hr, hfirst, hlast⟩ := Unicode.SearchTree.exists_range_of_covers hno
  rcases noDecomposes checkedKeys r hr with hsyllables | hrange
  · have hs : Hangul.isSyllable c.val = true := by
      rw [isSyllable_iff]
      omega
    obtain ⟨l, v, t, hl, hv, ht, rfl⟩ := exists_syllable hs
    exact syllable_ne_decomposition hl hv ht h
  · exact decomposition_ne_of_range hrange hfirst hlast h

lemma passes_decompose {t : Text} (h : decompose t = t) : Passes .decompose t where
  ordered := h ▸ marksInOrder_decompose t
  yes c hc := by
    have hself : c.decomposition = [c] := decomposition_of_mem_decompose (t := t) (by rwa [h])
    rw [verdictOn, decomposedNo_eq_false hself]
    rfl

/-! ### Keys -/

lemma fold_apply_key (p : Profile) (t : Text) : p.fold.apply (p.key t) = p.key t :=
  fold_apply_apply p.fold _

lemma key_key_of_apply {p : Profile} {t : Text} (h : p.form.apply (p.key t) = p.key t) :
    p.key (p.key t) = p.key t := by
  rw [Profile.key, h]
  exact fold_apply_key p t

lemma decompose_key (fold : CaseFold) (t : Text) :
    decompose ((Profile.mk .decompose fold).key t) = (Profile.mk .decompose fold).key t := by
  have hkey : (Profile.mk .decompose fold).key t = fold.apply (decompose t) :=
    congrArg fold.apply (apply_eq_transform .decompose t)
  rw [hkey]
  exact decompose_fold_apply fold (fun _ => decomposition_of_mem_decompose) (marksInOrder_decompose t)

lemma apply_key {p : Profile} (h : p ≠ ⟨.compose, .unicode⟩ ∧ p ≠ ⟨.compose, .ascii⟩) (t : Text) :
    p.form.apply (p.key t) = p.key t := by
  obtain ⟨form, fold⟩ := p
  rw [apply_eq_transform]
  cases form with
  | none => rfl
  | compose =>
    obtain rfl : fold = .none := by
      cases fold <;> simp_all
    change Text.compose (CanonicalForm.compose.apply t) = CanonicalForm.compose.apply t
    rw [apply_eq_transform]
    exact compose_compose t
  | decompose => exact decompose_key fold t

lemma composed_unicode_key_not_stable :
    (Profile.mk .compose .unicode).key ((Profile.mk .compose .unicode).key [0x149, 0x303]) ≠
      (Profile.mk .compose .unicode).key [0x149, 0x303] := by
  decide +kernel

lemma composed_ascii_key_not_stable :
    (Profile.mk .compose .ascii).key ((Profile.mk .compose .ascii).key [0x48, 0x331]) ≠
      (Profile.mk .compose .ascii).key [0x48, 0x331] := by
  decide +kernel

/-- Every key has its case folded. Keys are their own keys under exactly the profiles that do not
fold case after composition, and after decomposition every key is decomposed, however its case was
folded. -/
theorem keys_are_folded_and_stable (p : Profile) (t : Text) :
    p.fold.apply (p.key t) = p.key t ∧
    ((∀ u, p.key (p.key u) = p.key u) ↔ p ≠ ⟨.compose, .unicode⟩ ∧ p ≠ ⟨.compose, .ascii⟩) ∧
    ∀ fold : CaseFold,
      CanonicalForm.decompose.holds ((Profile.mk .decompose fold).key t) = true ∧
      CanonicalForm.decompose.apply ((Profile.mk .decompose fold).key t) =
        (Profile.mk .decompose fold).key t := by
  refine ⟨fold_apply_key p t, ⟨?_, ?_⟩, ?_⟩
  · intro h
    constructor
    · rintro rfl
      exact composed_unicode_key_not_stable (h _)
    · rintro rfl
      exact composed_ascii_key_not_stable (h _)
  · intro hp u
    exact key_key_of_apply (apply_key hp u)
  · intro fold
    refine ⟨holds_of_passes (passes_decompose (decompose_key fold t)), ?_⟩
    rw [apply_eq_transform]
    exact decompose_key fold t

end NameKeys.Proofs
