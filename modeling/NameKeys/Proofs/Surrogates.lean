import NameKeys.Matching.Key
import NameKeys.Proofs.AsciiLetters
import NameKeys.Proofs.MarkOrder

/-!
# Surrogates in names

A code point that no table mentions separates what stands before it from what stands behind it: no
mark passes it, nothing composes with it or across it, and it folds to itself. Surrogates are such
code points, and no other code point becomes one. So a key has the surrogates of its name, and the
stretches between them are the keys of the name's stretches.
-/

namespace NameKeys.Proofs
open CodePoint
open Text (foldCase foldAsciiCase decompose compose composeMarks composeAfter orderMarks isBlocked)
open Unicode hiding combiningClass composite?

/-! ### Code points that take part in nothing -/

/-- A starter that has no decomposition and no composite and folds to itself. -/
structure Inert (s : CodePoint) : Prop where
  starter : s.isStarter = true
  full : s.decomposition = [s]
  composesBehind : ∀ x : CodePoint, x.composite? s = none
  composesBefore : ∀ y : CodePoint, s.composite? y = none
  folded : folding s = [s]
  small : smallLetter s = s

namespace Inert

variable {s : CodePoint}

lemma decompose_append (h : Inert s) (u v : Text) :
    decompose (u ++ s :: v) = decompose u ++ s :: decompose v := by
  rw [decompose, List.flatMap_append, List.flatMap_cons, h.full, List.singleton_append,
    orderMarks_append_starter h.starter]
  rfl

lemma composeAfter_eq (h : Inert s) (between t : Text) :
    composeAfter s between t = s :: between.reverse ++ composeMarks t := by
  induction t generalizing between with
  | nil => rw [composeAfter, composeMarks, List.append_nil]
  | cons c rest ih =>
    rw [composeAfter, h.composesBefore, ite_self, composeMarks]
    by_cases hc : c.isStarter = true
    · rw [if_pos hc, if_pos hc]
    · rw [if_neg hc, if_neg hc, ih, List.reverse_cons, List.cons_append, List.append_assoc,
        List.singleton_append, List.cons_append]

lemma composeAfter_cons (h : Inert s) (x : CodePoint) (between t : Text) :
    composeAfter x between (s :: t) = x :: between.reverse ++ s :: composeMarks t := by
  rw [composeAfter, h.composesBehind, ite_self]
  change (if s.isStarter = true then _ else _) = _
  rw [if_pos h.starter, h.composeAfter_eq, List.reverse_nil]
  rfl

lemma composeAfter_append (h : Inert s) (x : CodePoint) (between u v : Text) :
    composeAfter x between (u ++ s :: v) = composeAfter x between u ++ s :: composeMarks v := by
  induction u generalizing x between with
  | nil => exact h.composeAfter_cons x between v
  | cons c rest ih =>
    rw [List.cons_append, composeAfter, composeAfter]
    split
    · exact ih _ _
    · split
      · rw [ih, List.append_assoc]
      · exact ih _ _

lemma composeMarks_append (h : Inert s) (u v : Text) :
    composeMarks (u ++ s :: v) = composeMarks u ++ s :: composeMarks v := by
  induction u with
  | nil =>
    rw [List.nil_append, composeMarks, composeMarks, if_pos h.starter, h.composeAfter_eq]
    rfl
  | cons c rest ih =>
    rw [List.cons_append, composeMarks, composeMarks]
    split
    · exact h.composeAfter_append c [] rest v
    · rw [ih, List.cons_append]

lemma transform_append (h : Inert s) (form : CanonicalForm) (u v : Text) :
    form.transform (u ++ s :: v) = form.transform u ++ s :: form.transform v := by
  cases form with
  | none => rfl
  | compose =>
    change composeMarks (decompose (u ++ s :: v)) = _
    rw [h.decompose_append, h.composeMarks_append]
    rfl
  | decompose => exact h.decompose_append u v

lemma fold_append (h : Inert s) (fold : CaseFold) (u v : Text) :
    fold.apply (u ++ s :: v) = fold.apply u ++ s :: fold.apply v := by
  cases fold with
  | none => rfl
  | unicode =>
    have happend : foldCase (u ++ s :: v) = foldCase u ++ foldCase (s :: v) := List.flatMap_append
    change foldCase (u ++ s :: v) = _
    rw [happend, foldCase_cons, h.folded]
    rfl
  | ascii =>
    change (u ++ s :: v).map smallLetter = _
    rw [List.map_append, List.map_cons, h.small]
    rfl

lemma key_append (h : Inert s) (p : Profile) (u v : Text) :
    p.key (u ++ s :: v) = p.key u ++ s :: p.key v := by
  rw [Profile.key, Profile.key, Profile.key, apply_eq_transform, apply_eq_transform,
    apply_eq_transform, h.transform_append, h.fold_append]

end Inert

/-! ### Surrogates in the tables -/

/-- What is checked of surrogates: they stand in no table. -/
structure CheckedSurrogates : Prop where
  inNoClass : ∀ r ∈ combiningClassRanges, r.2.1 < 0xD800 ∨ 0xDFFF < r.1
  inNoDecomposition : ∀ e ∈ decompositions,
    (ofNat e.1).isSurrogate = false ∧ ∀ n ∈ e.2, (ofNat n).isSurrogate = false
  inNoComposition : ∀ e ∈ compositions, (ofNat e.1).isSurrogate = false ∧
    (ofNat e.2.1).isSurrogate = false ∧ (ofNat e.2.2).isSurrogate = false
  inNoFolding : ∀ e ∈ caseFoldings,
    (ofNat e.1).isSurrogate = false ∧ ∀ n ∈ e.2, (ofNat n).isSurrogate = false

lemma checkedSurrogates : CheckedSurrogates where
  inNoClass := by decide +kernel
  inNoDecomposition := by decide +kernel
  inNoComposition := by decide +kernel
  inNoFolding := by decide +kernel

open CheckedSurrogates

lemma isSurrogate_iff (c : CodePoint) : c.isSurrogate = true ↔ 0xD800 ≤ c.val ∧ c.val ≤ 0xDFFF := by
  simp [isSurrogate]

section Tables

variable {c p : CodePoint}

lemma isSurrogate_syllable {l v t : Nat} (hl : l < 19) (hv : v < 21) (ht : t < 28) :
    (syllable l v t).isSurrogate = false := by
  rw [Bool.eq_false_iff, ne_eq, isSurrogate_iff, syllable_val hl hv ht]
  omega

lemma eq_of_mem_decomposition (hp : p.isSurrogate = true) (h : p ∈ c.decomposition) : p = c := by
  rcases decomposition_cases c with ⟨l, v, t, hl, hv, ht, rfl⟩ | ⟨parts, hmem, heq⟩ | heq
  · exfalso
    have hjamo : p.val < 0xD800 := by
      rw [decomposition_syllable hl hv ht] at h
      rcases List.mem_append.mp h with hp | hp
      · rcases List.mem_pair.mp hp with rfl | rfl
        · rw [lead_val hl]
          omega
        · rw [vowel_val hv]
          omega
      · split at hp
        · simp at hp
        · obtain rfl := List.mem_singleton.mp hp
          rw [tail_val ht]
          omega
    have hrange := (isSurrogate_iff p).mp hp
    omega
  · rw [heq] at h
    obtain ⟨n, hn, rfl⟩ := List.mem_map.mp h
    rw [(inNoDecomposition checkedSurrogates _ hmem).2 n hn] at hp
    exact absurd hp Bool.false_ne_true
  · rw [heq] at h
    exact List.mem_singleton.mp h

lemma decomposition_of_isSurrogate (h : c.isSurrogate = true) : c.decomposition = [c] := by
  rcases decomposition_cases c with ⟨l, v, t, hl, hv, ht, rfl⟩ | ⟨parts, hmem, -⟩ | heq
  · rw [isSurrogate_syllable hl hv ht] at h
    exact absurd h Bool.false_ne_true
  · have hc := (inNoDecomposition checkedSurrogates _ hmem).1
    rw [ofNat_val, h] at hc
    exact absurd hc.symm Bool.false_ne_true
  · exact heq

lemma isStarter_of_isSurrogate (h : c.isSurrogate = true) : c.isStarter = true := by
  rw [isStarter_iff]
  by_contra hclass
  obtain ⟨r, hr, hfirst, hlast, -⟩ := exists_range_of_class (n := c.val) hclass
  have hr' := inNoClass checkedSurrogates r hr
  have hrange := (isSurrogate_iff c).mp h
  omega

lemma not_surrogates_of_composite? {x y z : CodePoint} (h : x.composite? y = some z) :
    x.isSurrogate = false ∧ y.isSurrogate = false ∧ z.isSurrogate = false := by
  have hbelow : ∀ {c : CodePoint}, c.val < 0xD800 → c.isSurrogate = false := by
    intro c hc
    rw [Bool.eq_false_iff, ne_eq, isSurrogate_iff]
    omega
  rcases composite?_cases h with ⟨l, v, hl, hv, rfl, rfl, rfl⟩ |
    ⟨l, v, t, hl, hv, -, ht, rfl, rfl, rfl⟩ | ⟨n, hmem, rfl⟩
  · exact ⟨hbelow (by rw [lead_val hl]; omega), hbelow (by rw [vowel_val hv]; omega),
      isSurrogate_syllable hl hv (by omega)⟩
  · exact ⟨isSurrogate_syllable hl hv (by omega), hbelow (by rw [tail_val ht]; omega),
      isSurrogate_syllable hl hv ht⟩
  · have hxyz := inNoComposition checkedSurrogates _ hmem
    simpa only [ofNat_val] using hxyz

lemma eq_of_mem_folding (hp : p.isSurrogate = true) (h : p ∈ folding c) : p = c := by
  rcases folding_cases c with ⟨parts, hmem, heq⟩ | heq
  · rw [heq] at h
    obtain ⟨n, hn, rfl⟩ := List.mem_map.mp h
    rw [(inNoFolding checkedSurrogates _ hmem).2 n hn] at hp
    exact absurd hp Bool.false_ne_true
  · rw [heq] at h
    exact List.mem_singleton.mp h

lemma folding_of_isSurrogate (h : c.isSurrogate = true) : folding c = [c] := by
  rcases folding_cases c with ⟨parts, hmem, -⟩ | heq
  · have hc := (inNoFolding checkedSurrogates _ hmem).1
    rw [ofNat_val, h] at hc
    exact absurd hc.symm Bool.false_ne_true
  · exact heq

lemma eq_of_isSurrogate_smallLetter (h : (smallLetter c).isSurrogate = true) : smallLetter c = c := by
  rcases smallLetter_cases c with heq | ⟨-, hsmall⟩
  · exact heq
  · have hascii := isAscii_iff.mp hsmall
    have hrange := (isSurrogate_iff _).mp h
    omega

lemma inert_of_isSurrogate (h : c.isSurrogate = true) : Inert c where
  starter := isStarter_of_isSurrogate h
  full := decomposition_of_isSurrogate h
  composesBehind x := by
    rw [Option.eq_none_iff_forall_ne_some]
    intro z hz
    have hc := (not_surrogates_of_composite? hz).2.1
    rw [h] at hc
    exact Bool.false_ne_true hc.symm
  composesBefore y := by
    rw [Option.eq_none_iff_forall_ne_some]
    intro z hz
    have hc := (not_surrogates_of_composite? hz).1
    rw [h] at hc
    exact Bool.false_ne_true hc.symm
  folded := folding_of_isSurrogate h
  small := by
    have hrange := (isSurrogate_iff c).mp h
    rw [smallLetter, if_neg (by omega)]

end Tables

/-! ### The surrogates of a key -/

section Keys

variable {c : CodePoint} (hc : c.isSurrogate = true)
include hc

lemma mem_of_mem_decompose {t : Text} (h : c ∈ decompose t) : c ∈ t := by
  rw [decompose, (orderMarks_perm _).mem_iff] at h
  obtain ⟨d, hd, hcd⟩ := List.mem_flatMap.mp h
  rwa [eq_of_mem_decomposition hc hcd]

lemma mem_of_mem_composeAfter {s : CodePoint} {between t : Text}
    (h : c ∈ composeAfter s between t) : c = s ∨ c ∈ between ∨ c ∈ t := by
  induction t generalizing s between with
  | nil => simpa [composeAfter] using h
  | cons d rest ih =>
    rw [composeAfter] at h
    split at h
    · next z hz =>
      have hcomposite : s.composite? d = some z := by
        split at hz
        · simp at hz
        · exact hz
      have hne : c ≠ z := by
        rintro rfl
        rw [(not_surrogates_of_composite? hcomposite).2.2] at hc
        exact Bool.false_ne_true hc
      rcases ih h with heq | hbetween | hrest
      · exact absurd heq hne
      · exact .inr (.inl hbetween)
      · exact .inr (.inr (List.mem_cons_of_mem d hrest))
    · split at h
      · rcases List.mem_append.mp h with hfront | hrest
        · rw [List.mem_cons, List.mem_reverse] at hfront
          tauto
        · have hrest := ih hrest
          simp only [List.not_mem_nil, false_or] at hrest
          exact .inr (.inr (List.mem_cons.mpr hrest))
      · have hrest := ih h
        simp only [List.mem_cons] at hrest ⊢
        tauto

lemma mem_of_mem_composeMarks {t : Text} (h : c ∈ composeMarks t) : c ∈ t := by
  induction t with
  | nil => exact h
  | cons d rest ih =>
    rw [composeMarks] at h
    split at h
    · have hmem := mem_of_mem_composeAfter hc h
      simp only [List.not_mem_nil, false_or] at hmem
      exact List.mem_cons.mpr hmem
    · rcases List.mem_cons.mp h with rfl | hrest
      · exact List.mem_cons_self ..
      · exact List.mem_cons_of_mem d (ih hrest)

lemma mem_of_mem_transform {form : CanonicalForm} {t : Text} (h : c ∈ form.transform t) : c ∈ t := by
  cases form with
  | none => exact h
  | compose => exact mem_of_mem_decompose hc (mem_of_mem_composeMarks hc h)
  | decompose => exact mem_of_mem_decompose hc h

lemma mem_of_mem_fold_apply {fold : CaseFold} {t : Text} (h : c ∈ fold.apply t) : c ∈ t := by
  cases fold with
  | none => exact h
  | unicode =>
    obtain ⟨d, hd, hcd⟩ := List.mem_flatMap.mp h
    rwa [eq_of_mem_folding hc hcd]
  | ascii =>
    obtain ⟨d, hd, rfl⟩ := List.mem_map.mp h
    change (smallLetter d).isSurrogate = true at hc
    change smallLetter d ∈ t
    rwa [eq_of_isSurrogate_smallLetter hc]

lemma mem_of_mem_key {p : Profile} {t : Text} (h : c ∈ p.key t) : c ∈ t := by
  have hform := mem_of_mem_fold_apply hc h
  rw [apply_eq_transform] at hform
  exact mem_of_mem_transform hc hform

end Keys

lemma not_isSurrogate_of_mem_key {p : Profile} {t : Text} (h : ∀ c ∈ t, c.isSurrogate = false) :
    ∀ c ∈ p.key t, c.isSurrogate = false := by
  intro c hmem
  rw [Bool.eq_false_iff]
  intro hc
  rw [h c (mem_of_mem_key hc hmem)] at hc
  exact Bool.false_ne_true hc

lemma filter_isSurrogate_eq_nil {t : Text} (h : ∀ c ∈ t, c.isSurrogate = false) :
    t.filter isSurrogate = [] := by
  rw [List.filter_eq_nil_iff]
  intro c hc
  rw [h c hc]
  exact Bool.false_ne_true

lemma surrogates_key_append (p : Profile) {u : Text} (hu : ∀ c ∈ u, c.isSurrogate = false)
    (t : Text) :
    (p.key (u ++ t)).filter isSurrogate = (u ++ t).filter isSurrogate ∧
    (p.key (u ++ t)).splitOnP isSurrogate = ((u ++ t).splitOnP isSurrogate).map p.key := by
  induction t generalizing u with
  | nil =>
    have hkey := not_isSurrogate_of_mem_key (p := p) hu
    rw [List.append_nil, List.splitOnP_eq_singleton hu, List.splitOnP_eq_singleton hkey,
      filter_isSurrogate_eq_nil hu, filter_isSurrogate_eq_nil hkey]
    exact ⟨rfl, rfl⟩
  | cons c rest ih =>
    cases hc : c.isSurrogate with
    | true =>
      have hkey := not_isSurrogate_of_mem_key (p := p) hu
      obtain ⟨hfilter, hsplit⟩ := ih (u := []) (by simp)
      rw [List.nil_append] at hfilter hsplit
      rw [(inert_of_isSurrogate hc).key_append]
      constructor
      · rw [List.filter_append, List.filter_append, filter_isSurrogate_eq_nil hu,
          filter_isSurrogate_eq_nil hkey, List.filter_cons_of_pos hc, List.filter_cons_of_pos hc,
          hfilter]
      · rw [List.splitOnP_append_cons_of_forall_mem hu c hc,
          List.splitOnP_append_cons_of_forall_mem hkey c hc, hsplit, List.map_cons]
    | false =>
      have hlonger : ∀ d ∈ u ++ [c], d.isSurrogate = false := by
        intro d hd
        rcases List.mem_append.mp hd with hd | hd
        · exact hu d hd
        · rwa [List.mem_singleton.mp hd]
      have hstep := ih hlonger
      rwa [List.append_assoc, List.singleton_append] at hstep

/-- A surrogate passes into the key and separates what stands around it. So the surrogates of a key
are those of the name in their order, and the stretches between them are the keys of the stretches
of the name. -/
theorem surrogates_separate_keys (p : Profile) :
    (∀ (u v : Text) (s : CodePoint), s.isSurrogate = true →
      p.key (u ++ s :: v) = p.key u ++ s :: p.key v) ∧
    ∀ t : Text,
      (p.key t).filter isSurrogate = t.filter isSurrogate ∧
      (p.key t).splitOnP isSurrogate = (t.splitOnP isSurrogate).map p.key := by
  refine ⟨fun u v s hs => (inert_of_isSurrogate hs).key_append p u v, fun t => ?_⟩
  exact surrogates_key_append p (u := []) (by simp) t

theorem surrogate_between_letter_and_accent :
    (Profile.mk .compose .ascii).key [0x45, 0xD800, 0x301] = [0x65, 0xD800, 0x301] ∧
    (Profile.mk .compose .ascii).key [0x45, 0x301] = [0xC9] := by
  have hseparate := (surrogates_separate_keys ⟨.compose, .ascii⟩).1 [0x45] [0x301] 0xD800
    (by decide +kernel)
  refine ⟨?_, by decide +kernel⟩
  rw [show ([0x45, 0xD800, 0x301] : Text) = [0x45] ++ 0xD800 :: [0x301] from rfl, hseparate]
  decide +kernel

end NameKeys.Proofs
