import Mathlib.Data.List.Basic
import NameKeys.Canonical.Form
import NameKeys.Proofs.HangulSyllables

/-!
# Facts about the tables of the canonical forms

Each fact is checked once, entry by entry, and then stated of every code point: what stands in no
table is covered because a look-up finds entries only. Hangul syllables have no entries, and their
facts are arithmetic.
-/

namespace NameKeys.Proofs
open CanonicalForm (verdictOn)
open Unicode hiding combiningClass composite?

/-! ### Checks of the tables -/

/-- A code point composes back from its decomposition: from a starter that composes with nothing
before it, code point by code point in order of class. -/
def recomposes (c : CodePoint) : Bool :=
  match c.decomposition with
  | [] => false
  | d :: ds =>
    c.isStarter && d.isStarter && decide (CanonicalForm.compose.verdictOn d = .yes) &&
      decide (ds.Pairwise fun x y => x.combiningClass ≤ y.combiningClass) &&
      decide (ds.foldlM CodePoint.composite? d = some c)

/-- What is checked of the tables of the canonical forms. -/
structure CheckedTables : Prop where
  classesNotHangul : ∀ r ∈ combiningClassRanges,
    (r.2.1 < 0x1100 ∨ 0x11C2 < r.1) ∧ (r.2.1 < 0xAC00 ∨ 0xD7A3 < r.1)
  decompositionsNotHangul : ∀ e ∈ decompositions,
    (e.1 < 0x1100 ∨ 0x11C2 < e.1) ∧ (e.1 < 0xAC00 ∨ 0xD7A3 < e.1)
  decompositionsFull : ∀ e ∈ decompositions, ∀ n ∈ e.2,
    (CodePoint.ofNat n).decomposition = [CodePoint.ofNat n]
  decompositionsNo : ∀ e ∈ decompositions, decomposedNo e.1 = true
  decompositionsRecompose : ∀ e ∈ decompositions,
    composedNo e.1 = true ∨ recomposes (.ofNat e.1) = true
  syllableRange : ∀ r ∈ decomposedNoRanges, r.1 ≤ 0xAC00 ∨ 0xD7A3 < r.1
  syllableFloor : decomposedNoTree.floor? 0xAC00 = some (0xAC00, 0xD7A3)
  compositionsBounded : ∀ e ∈ compositions, e.2.1 < 0x110000
  compositionsDecompose : ∀ e ∈ compositions, (CodePoint.ofNat e.2.2).decomposition =
    (CodePoint.ofNat e.1).decomposition ++ [CodePoint.ofNat e.2.1]
  compositionsNotYes : ∀ e ∈ compositions, composedNo e.2.1 = true ∨ composedMaybe e.2.1 = true
  leadsYes : ∀ l < 19, composedNo (0x1100 + l) = false ∧ composedMaybe (0x1100 + l) = false
  vowelsMaybe : ∀ v < 21, composedMaybe (0x1161 + v) = true
  tailsMaybe : ∀ t < 27, composedMaybe (0x11A8 + t) = true

lemma checkedTables : CheckedTables where
  classesNotHangul := by decide +kernel
  decompositionsNotHangul := by decide +kernel
  decompositionsFull := by decide +kernel
  decompositionsNo := by decide +kernel
  decompositionsRecompose := by decide +kernel
  syllableRange := by decide +kernel
  syllableFloor := by decide +kernel
  compositionsBounded := by decide +kernel
  compositionsDecompose := by decide +kernel
  compositionsNotYes := by decide +kernel
  leadsYes := by decide +kernel
  vowelsMaybe := by decide +kernel
  tailsMaybe := by decide +kernel

-- The checks are used as functions of `checkedTables`: a name below it would have to wait for them.
open CheckedTables

/-! ### Look-up -/

lemma floorFrom_congr {α : Type} {t : SearchTree α} {k l : Nat}
    (h : ∀ e ∈ t.toList, k < e.1 ↔ l < e.1) (best : Option (Nat × α)) :
    t.floorFrom k best = t.floorFrom l best := by
  induction t generalizing best with
  | leaf => rfl
  | node left key value right ihl ihr =>
    have hleft := ihl fun e he => h e (by simp [SearchTree.toList, he])
    have hright := ihr fun e he => h e (by simp [SearchTree.toList, he])
    have hkey : k < key ↔ l < key := h (key, value) (by simp [SearchTree.toList])
    simp only [SearchTree.floorFrom, hkey, hleft, hright]

lemma mem_decompositions {n : Nat} {parts : List Nat} (h : fullDecomposition? n = some parts) :
    (n, parts) ∈ decompositions :=
  SearchTree.mem_of_find?_ofSorted h

lemma mem_compositions {a b n : Nat} (hb : b < 0x110000) (h : Unicode.composite? a b = some n) :
    (a, b, n) ∈ compositions := by
  obtain ⟨⟨a', b', n'⟩, he, heq⟩ := List.mem_map.mp (SearchTree.mem_of_find?_ofSorted h)
  have hb' := compositionsBounded checkedTables _ he
  simp only [pairKey, Prod.mk.injEq] at heq hb'
  obtain ⟨rfl, rfl, rfl⟩ : a = a' ∧ b = b' ∧ n = n' := by omega
  exact he

lemma exists_range_of_class {n : Nat} (h : Unicode.combiningClass n ≠ 0) :
    ∃ r ∈ combiningClassRanges, r.1 ≤ n ∧ n ≤ r.2.1 ∧ Unicode.combiningClass n = r.2.2 := by
  unfold Unicode.combiningClass at h ⊢
  split at h
  · next first last cls hf =>
    obtain ⟨hm, hle⟩ := SearchTree.mem_of_floor? hf
    by_cases hlast : n ≤ last
    · exact ⟨_, SearchTree.mem_of_mem_ofSorted hm, hle, hlast, by simp [hlast]⟩
    · simp [hlast] at h
  · simp at h

/-! ### Hangul code points in the tables -/

/-- Whether a number is one of the jamo that compose or one of the syllables. -/
def IsHangul (n : Nat) : Prop := 0x1100 ≤ n ∧ n ≤ 0x11C2 ∨ 0xAC00 ≤ n ∧ n ≤ 0xD7A3

lemma combiningClass_of_isHangul {n : Nat} (h : IsHangul n) : Unicode.combiningClass n = 0 := by
  by_contra hn
  obtain ⟨r, hr, hfirst, hlast, -⟩ := exists_range_of_class hn
  have hr' := classesNotHangul checkedTables r hr
  unfold IsHangul at h
  omega

lemma fullDecomposition?_of_isHangul {n : Nat} (h : IsHangul n) : fullDecomposition? n = none := by
  cases hn : fullDecomposition? n with
  | none => rfl
  | some parts =>
    have hkey := decompositionsNotHangul checkedTables _ (mem_decompositions hn)
    unfold IsHangul at h
    omega

lemma decomposedNo_of_syllable {n : Nat} (h : 0xAC00 ≤ n ∧ n ≤ 0xD7A3) : decomposedNo n = true := by
  have hcongr : decomposedNoTree.floor? n = decomposedNoTree.floor? 0xAC00 := by
    apply floorFrom_congr
    intro e he
    have hkey := syllableRange checkedTables e (SearchTree.mem_of_mem_ofSorted he)
    omega
  rw [decomposedNo, SearchTree.covers, hcongr, syllableFloor checkedTables]
  exact decide_eq_true h.2

/-! ### Decompositions -/

lemma decomposition_cases (c : CodePoint) :
    (∃ l v t, l < 19 ∧ v < 21 ∧ t < 28 ∧ c = syllable l v t) ∨
    (∃ parts, (c.val, parts) ∈ decompositions ∧ c.decomposition = parts.map CodePoint.ofNat) ∨
    c.decomposition = [c] := by
  by_cases hs : Hangul.isSyllable c.val = true
  · exact .inl (exists_syllable hs)
  · have hd : Hangul.decomposition? c.val = none := by rw [Hangul.decomposition?, if_neg hs]
    cases hp : fullDecomposition? c.val with
    | none => exact .inr (.inr (by simp only [CodePoint.decomposition, hd, hp]))
    | some parts =>
      exact .inr (.inl ⟨parts, mem_decompositions hp, by
        simp only [CodePoint.decomposition, hd, hp]⟩)

lemma decomposition_jamo {n : Nat} (h : 0x1100 ≤ n ∧ n ≤ 0x11C2) :
    (CodePoint.ofNat n).decomposition = [CodePoint.ofNat n] := by
  have hval : (CodePoint.ofNat n).val = n := CodePoint.val_ofNat (by omega)
  have harith : Hangul.decomposition? n = none := hangul_decomposition?_eq_none (by omega)
  simp only [CodePoint.decomposition, hval, harith, fullDecomposition?_of_isHangul (.inl h)]

lemma decomposition_of_mem {c p : CodePoint} (h : p ∈ c.decomposition) : p.decomposition = [p] := by
  rcases decomposition_cases c with ⟨l, v, t, hl, hv, ht, rfl⟩ | ⟨parts, hmem, heq⟩ | heq
  · rw [decomposition_syllable hl hv ht] at h
    rcases List.mem_append.mp h with hp | hp
    · rcases List.mem_pair.mp hp with rfl | rfl
      · exact decomposition_jamo (by omega)
      · exact decomposition_jamo (by omega)
    · split at hp
      · simp at hp
      · obtain rfl := List.mem_singleton.mp hp
        exact decomposition_jamo (by omega)
  · rw [heq] at h
    obtain ⟨n, hn, rfl⟩ := List.mem_map.mp h
    exact decompositionsFull checkedTables _ hmem n hn
  · rw [heq] at h
    obtain rfl := List.mem_singleton.mp h
    exact heq

lemma decomposition_eq_self {c : CodePoint} (h : CanonicalForm.decompose.verdictOn c ≠ .no) :
    c.decomposition = [c] := by
  have hno : ¬decomposedNo c.val = true := by
    intro hc
    simp [verdictOn, hc] at h
  rcases decomposition_cases c with ⟨l, v, t, hl, hv, ht, rfl⟩ | ⟨parts, hmem, -⟩ | heq
  · have hval := syllable_val hl hv ht
    exact absurd (decomposedNo_of_syllable (by omega)) hno
  · exact absurd (decompositionsNo checkedTables _ hmem) hno
  · exact heq

/-! ### Composites -/

lemma composite?_cases {x y z : CodePoint} (h : x.composite? y = some z) :
    (∃ l v, l < 19 ∧ v < 21 ∧ x = lead l ∧ y = vowel v ∧ z = syllable l v 0) ∨
    (∃ l v t, l < 19 ∧ v < 21 ∧ t ≠ 0 ∧ t < 28 ∧ x = syllable l v 0 ∧ y = tail t ∧
      z = syllable l v t) ∨
    ∃ n, (x.val, y.val, n) ∈ compositions ∧ z = .ofNat n := by
  rw [CodePoint.composite?] at h
  cases hh : Hangul.composite? x.val y.val with
  | some n =>
    rw [hh, Option.orElse_some, Option.map_some] at h
    obtain rfl := Option.some.inj h
    rcases hangul_composite?_cases hh with hj | hs
    · exact .inl hj
    · exact .inr (.inl hs)
  | none =>
    rw [hh, Option.orElse_none] at h
    obtain ⟨n, hn, rfl⟩ := Option.map_eq_some_iff.mp h
    exact .inr (.inr ⟨n, mem_compositions y.isLt hn, rfl⟩)

lemma decomposition_composite {x y z : CodePoint} (h : x.composite? y = some z) :
    z.decomposition = x.decomposition ++ [y] := by
  rcases composite?_cases h with ⟨l, v, hl, hv, rfl, rfl, rfl⟩ |
    ⟨l, v, t, hl, hv, h0, ht, rfl, rfl, rfl⟩ | ⟨n, hmem, rfl⟩
  · rw [decomposition_syllable hl hv (by omega), lead, decomposition_jamo (by omega)]
    rfl
  · rw [decomposition_syllable hl hv ht, decomposition_syllable hl hv (by omega), if_neg h0]
    rfl
  · have hz := compositionsDecompose checkedTables _ hmem
    simp only [CodePoint.ofNat_val] at hz
    exact hz

lemma verdictOn_compose_eq_yes_iff (c : CodePoint) : CanonicalForm.compose.verdictOn c = .yes ↔
    composedNo c.val = false ∧ composedMaybe c.val = false := by
  cases hno : composedNo c.val <;> cases hmaybe : composedMaybe c.val <;>
    simp [verdictOn, hno, hmaybe]

lemma composite?_eq_none {c : CodePoint} (h : CanonicalForm.compose.verdictOn c = .yes)
    (x : CodePoint) : x.composite? c = none := by
  obtain ⟨hno, hmaybe⟩ := (verdictOn_compose_eq_yes_iff c).mp h
  rw [Option.eq_none_iff_forall_ne_some]
  intro z hz
  rcases composite?_cases hz with ⟨l, v, -, hv, -, rfl, -⟩ |
    ⟨l, v, t, -, -, h0, ht, -, rfl, -⟩ | ⟨n, hmem, -⟩
  · rw [vowel_val hv, vowelsMaybe checkedTables v hv] at hmaybe
    simp at hmaybe
  · have hval : (tail t).val = 0x11A8 + (t - 1) := by
      rw [tail_val ht]
      omega
    rw [hval, tailsMaybe checkedTables (t - 1) (by omega)] at hmaybe
    simp at hmaybe
  · have hc := compositionsNotYes checkedTables _ hmem
    simp [hno, hmaybe] at hc

/-! ### Recomposition -/

lemma recomposes_iff (c : CodePoint) : recomposes c = true ↔
    ∃ d ds, c.decomposition = d :: ds ∧ c.isStarter = true ∧ d.isStarter = true ∧
      CanonicalForm.compose.verdictOn d = .yes ∧
      (ds.Pairwise fun x y => x.combiningClass ≤ y.combiningClass) ∧
      ds.foldlM CodePoint.composite? d = some c := by
  unfold recomposes
  cases c.decomposition with
  | nil => simp
  | cons d ds => simp [and_assoc]

lemma isStarter_of_isHangul {c : CodePoint} (h : IsHangul c.val) : c.isStarter = true := by
  simp [CodePoint.isStarter, CodePoint.combiningClass, combiningClass_of_isHangul h]

lemma recomposes_syllable {l v t : Nat} (hl : l < 19) (hv : v < 21) (ht : t < 28) :
    recomposes (syllable l v t) = true := by
  have hlead : IsHangul (lead l).val := by
    rw [lead_val hl]
    exact .inl (by omega)
  have hsyllable : IsHangul (syllable l v t).val := by
    rw [syllable_val hl hv ht]
    exact .inr (by omega)
  have hyes : CanonicalForm.compose.verdictOn (lead l) = .yes := by
    rw [verdictOn_compose_eq_yes_iff, lead_val hl]
    exact leadsYes checkedTables l hl
  have hclass : (vowel v).combiningClass = 0 := by
    rw [CodePoint.combiningClass, vowel_val hv]
    exact combiningClass_of_isHangul (.inl (by omega))
  rw [recomposes_iff]
  refine ⟨lead l, _, decomposition_syllable hl hv ht, isStarter_of_isHangul hsyllable,
    isStarter_of_isHangul hlead, hyes, ?_, ?_⟩
  · by_cases h0 : t = 0 <;> simp [h0, hclass]
  · by_cases h0 : t = 0
    · subst h0
      simp [composite?_lead_vowel hl hv]
    · simp [h0, composite?_lead_vowel hl hv, composite?_syllable_tail hl hv h0 ht]

lemma mark_or_recomposes {c : CodePoint} (h : CanonicalForm.compose.verdictOn c = .yes) :
    c.isStarter = false ∧ c.decomposition = [c] ∨ recomposes c = true := by
  rcases decomposition_cases c with ⟨l, v, t, hl, hv, ht, rfl⟩ | ⟨parts, hmem, -⟩ | heq
  · exact .inr (recomposes_syllable hl hv ht)
  · have hno := ((verdictOn_compose_eq_yes_iff c).mp h).1
    have hc := decompositionsRecompose checkedTables _ hmem
    rw [hno, CodePoint.ofNat_val] at hc
    exact .inr (hc.resolve_left (by simp))
  · cases hs : c.isStarter with
    | false => exact .inl ⟨rfl, heq⟩
    | true => exact .inr ((recomposes_iff c).mpr ⟨c, [], heq, hs, hs, h, .nil, rfl⟩)

end NameKeys.Proofs
