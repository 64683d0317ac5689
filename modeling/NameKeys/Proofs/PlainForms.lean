import Mathlib.Logic.Relation
import NameKeys.Proofs.ExactCheck

/-!
# The forms by the plain algorithm

The two forms as they are defined, without any check: code points are replaced by their full
decompositions, neighbouring marks are exchanged until they are in order, and for composed text
every code point in turn composes with the last starter before it where nothing blocks it. The form
of a text is what comes of this, and the check finds exactly the texts that come of themselves.
-/

namespace NameKeys.Proofs
open Text hiding ofNat
open CodePoint
open CanonicalForm (marksInOrder)
open Relation (ReflTransGen)

/-! ### The algorithm -/

/-- An exchange of two neighbours of which the second is a mark of a smaller class. -/
inductive Exchanges : Text → Text → Prop
  | swap (front : Text) {a b : CodePoint} (rest : Text) (mark : b.isStarter = false)
      (smaller : b.combiningClass < a.combiningClass) :
      Exchanges (front ++ a :: b :: rest) (front ++ b :: a :: rest)

/-- Whether a text comes of another one by exchanges until none is left to make. -/
structure IsOrdering (t u : Text) : Prop where
  exchanges : ReflTransGen Exchanges t u
  settled : ∀ v, ¬ Exchanges u v

/-- A code point composes with the last starter of the text before it, where all marks between are
of smaller classes. -/
inductive Absorbs : Text → CodePoint → Text → Prop
  | intro (front : Text) {s c z : CodePoint} {marks : Text} (starter : s.isStarter = true)
      (unblocked : ∀ m ∈ marks, m.isStarter = false ∧ m.combiningClass < c.combiningClass)
      (composite : s.composite? c = some z) : Absorbs (front ++ s :: marks) c (front ++ z :: marks)

/-- What a text becomes when the code points of another one are put behind it from left to right,
where those compose that can. -/
inductive Composes : Text → Text → Text → Prop
  | done (t : Text) : Composes t [] t
  | absorb {t next rest u : Text} {c : CodePoint} (absorbs : Absorbs t c next)
      (composes : Composes next rest u) : Composes t (c :: rest) u
  | put {t rest u : Text} {c : CodePoint} (absorbs : ∀ next, ¬ Absorbs t c next)
      (composes : Composes (t ++ [c]) rest u) : Composes t (c :: rest) u

/-- Whether a text is another one in a form, by the plain algorithm. -/
def IsPlainForm : CanonicalForm → Text → Text → Prop
  | .none, t, u => u = t
  | .decompose, t, u => IsOrdering (t.flatMap decomposition) u
  | .compose, t, u => ∃ d, IsOrdering (t.flatMap decomposition) d ∧ Composes [] d u

/-! ### Exchanges -/

section Exchanges

variable {t u : Text} {c : CodePoint}

lemma Exchanges.cons (c : CodePoint) (h : Exchanges t u) : Exchanges (c :: t) (c :: u) := by
  obtain ⟨front, rest, hmark, hlt⟩ := h
  exact .swap (c :: front) rest hmark hlt

lemma Exchanges.orderMarks_eq (h : Exchanges t u) : orderMarks t = orderMarks u := by
  obtain ⟨front, rest, hmark, hlt⟩ := h
  have hclass := (isStarter_eq_false_iff _).mp hmark
  have hswap := orderMarks_cons_append (List.forall_mem_singleton.mpr ⟨hclass, hlt⟩) rest
  exact orderMarks_append_congr front hswap

lemma exchanges_insertMark (c : CodePoint) (t : Text) :
    ReflTransGen Exchanges (c :: t) (insertMark c t) := by
  induction t with
  | nil => exact .refl
  | cons d rest ih =>
    by_cases hd : d.combiningClass ≠ 0 ∧ d.combiningClass < c.combiningClass
    · rw [insertMark_cons_of_lt hd.1 hd.2]
      have hswap : Exchanges (c :: d :: rest) (d :: c :: rest) :=
        .swap [] rest ((isStarter_eq_false_iff d).mpr hd.1) hd.2
      exact .head hswap (ih.lift (d :: ·) fun _ _ => Exchanges.cons d)
    · rw [insertMark_cons_of_le (by omega)]

lemma exchanges_orderMarks (t : Text) : ReflTransGen Exchanges t (orderMarks t) := by
  induction t with
  | nil => exact .refl
  | cons c rest ih =>
    exact (ih.lift (c :: ·) fun _ _ => Exchanges.cons c).trans (exchanges_insertMark c _)

lemma not_exchanges (h : marksInOrder t = true) (u : Text) : ¬ Exchanges t u := by
  rintro ⟨front, rest, hmark, hlt⟩
  induction front with
  | nil =>
    have hle := ((marksInOrder_cons_cons _ _ rest).mp h).1
    have hclass := (isStarter_eq_false_iff _).mp hmark
    omega
  | cons c front ih => exact ih (marksInOrder_tail h)

/-- Whatever exchanges are made, they end in the text with its marks in order. -/
lemma isOrdering_iff : IsOrdering t u ↔ u = orderMarks t := by
  constructor
  · rintro ⟨hexchanges, hsettled⟩
    have hsame : orderMarks t = orderMarks u := by
      clear hsettled
      induction hexchanges with
      | refl => rfl
      | tail _ hlast ih => exact ih.trans hlast.orderMarks_eq
    rw [hsame]
    rcases (exchanges_orderMarks u).cases_head with hself | ⟨v, hfirst, -⟩
    · exact hself
    · exact absurd hfirst (hsettled v)
  · rintro rfl
    exact ⟨exchanges_orderMarks t, not_exchanges (marksInOrder_orderMarks t)⟩

end Exchanges

/-! ### Composition from left to right -/

section Composition

variable {front marks t next rest u between : Text} {s c : CodePoint}

lemma eq_of_append_starter {front' marks' : Text} {s' : CodePoint} (hs : s.isStarter = true)
    (hs' : s'.isStarter = true) (hmarks : ∀ m ∈ marks, m.isStarter = false)
    (hmarks' : ∀ m ∈ marks', m.isStarter = false)
    (h : front ++ s :: marks = front' ++ s' :: marks') :
    front = front' ∧ s = s' ∧ marks = marks' := by
  rcases List.append_eq_append_iff.mp h with ⟨more, rfl, htail⟩ | ⟨more, rfl, htail⟩
  · cases more with
    | nil =>
      obtain ⟨rfl, rfl⟩ := List.cons.inj htail
      exact ⟨(List.append_nil _).symm, rfl, rfl⟩
    | cons d more =>
      obtain ⟨rfl, rfl⟩ := List.cons.inj htail
      have hmark := hmarks s' (List.mem_append_right _ (List.mem_cons_self ..))
      simp [hs'] at hmark
  · cases more with
    | nil =>
      obtain ⟨rfl, rfl⟩ := List.cons.inj htail
      exact ⟨List.append_nil _, rfl, rfl⟩
    | cons d more =>
      obtain ⟨rfl, rfl⟩ := List.cons.inj htail
      have hmark := hmarks' s (List.mem_append_right _ (List.mem_cons_self ..))
      simp [hs] at hmark

lemma absorbs_iff (hs : s.isStarter = true) (h : Between between (c :: rest)) :
    Absorbs (front ++ s :: between.reverse) c next ↔
      isBlocked c between = false ∧ ∃ z, s.composite? c = some z ∧
        next = front ++ z :: between.reverse := by
  have hmarks : ∀ m ∈ between.reverse, m.isStarter = false := fun m hm =>
    (isStarter_eq_false_iff m).mpr (h.marks m (List.mem_reverse.mp hm))
  constructor
  · intro habsorbs
    generalize hdone : front ++ s :: between.reverse = done at habsorbs
    obtain ⟨front', hs', hunblocked, hz⟩ := habsorbs
    obtain ⟨rfl, rfl, rfl⟩ :=
      eq_of_append_starter hs hs' hmarks (fun m hm => (hunblocked m hm).1) hdone
    refine ⟨?_, _, hz, rfl⟩
    cases between with
    | nil => rfl
    | cons last earlier =>
      have hlast := (hunblocked last (by simp)).2
      simpa [isBlocked] using hlast
  · rintro ⟨hblocked, z, hz, rfl⟩
    refine .intro front hs (fun m hm => ⟨hmarks m hm, ?_⟩) hz
    exact lt_of_not_isBlocked h hblocked m (List.mem_reverse.mp hm)

lemma not_absorbs (h : ∀ m ∈ t, m.isStarter = false) (c : CodePoint) (next : Text) :
    ¬ Absorbs t c next := by
  rintro ⟨front, hs, -, -⟩
  have hmark := h _ (List.mem_append_right front (List.mem_cons_self ..))
  simp [hs] at hmark

lemma composes_nil_iff : Composes t [] u ↔ u = t :=
  ⟨fun | .done _ => rfl, fun h => h ▸ .done t⟩

lemma composes_cons_of_absorbs (h : ∀ v, Absorbs t c v ↔ v = next) :
    Composes t (c :: rest) u ↔ Composes next rest u := by
  constructor
  · rintro (_ | ⟨habsorbs, hrest⟩ | ⟨hnone, -⟩)
    · exact (h _).mp habsorbs ▸ hrest
    · exact absurd ((h next).mpr rfl) (hnone next)
  · exact .absorb ((h next).mpr rfl)

lemma composes_cons_of_not_absorbs (h : ∀ v, ¬ Absorbs t c v) :
    Composes t (c :: rest) u ↔ Composes (t ++ [c]) rest u := by
  constructor
  · rintro (_ | ⟨habsorbs, -⟩ | ⟨-, hrest⟩)
    · exact absurd habsorbs (h _)
    · exact hrest
  · exact .put h

/-- Behind a starter and the marks that stay there, code points are put as they are composed with
it. -/
lemma composes_iff_composeAfter (hs : s.isStarter = true) (h : Between between rest) :
    Composes (front ++ s :: between.reverse) rest u ↔
      u = front ++ composeAfter s between rest := by
  -- `Between` carries the order of the marks that stay, on which it rests that the last one decides
  induction rest generalizing s between front with
  | nil => exact composes_nil_iff
  | cons c rest ih =>
    rcases composeAfter_cons_cases s c between rest with ⟨z, hblocked, hz, heq⟩ | ⟨hnone, hcases⟩
    · have habsorbs : ∀ v, Absorbs (front ++ s :: between.reverse) c v ↔
          v = front ++ z :: between.reverse := by
        intro v
        rw [absorbs_iff hs h, hz]
        simp [hblocked]
      rw [composes_cons_of_absorbs habsorbs, ih (composite?_occurs hz).1 (h.composite hblocked),
        heq]
    · have habsorbs : ∀ v, ¬ Absorbs (front ++ s :: between.reverse) c v := by
        intro v hv
        obtain ⟨hblocked, z, hz, -⟩ := (absorbs_iff hs h).mp hv
        rcases hnone with htrue | hnone
        · simp [hblocked] at htrue
        · simp [hz] at hnone
      rw [composes_cons_of_not_absorbs habsorbs]
      rcases hcases with ⟨hc, heq⟩ | ⟨hc, heq⟩
      · rw [heq, ← List.append_assoc]
        exact ih hc h.starter
      · have hmark := h.mark ((isStarter_eq_false_iff c).mp hc)
        have hdone : front ++ s :: between.reverse ++ [c] =
            front ++ s :: (c :: between).reverse := by simp
        rw [hdone, heq]
        exact ih hs hmark

lemma composes_iff_composeMarks (hmarks : ∀ m ∈ marks, m.isStarter = false)
    (hfull : ∀ d ∈ t, d.decomposition = [d]) (hordered : marksInOrder t = true) :
    Composes marks t u ↔ u = marks ++ composeMarks t := by
  induction t generalizing marks with
  | nil => rw [composes_nil_iff, composeMarks, List.append_nil]
  | cons c rest ih =>
    have hrest := (List.forall_mem_cons.mp hfull).2
    have htail := marksInOrder_tail hordered
    rw [composes_cons_of_not_absorbs (not_absorbs hmarks c), composeMarks]
    split
    · next hs => exact composes_iff_composeAfter hs ⟨by simp, .nil, hrest, htail, by simp⟩
    · next hs =>
      have hc : c.isStarter = false := Bool.eq_false_iff.mpr hs
      have hmore : ∀ m ∈ marks ++ [c], m.isStarter = false :=
        List.forall_mem_append.mpr ⟨hmarks, fun m hm => List.mem_singleton.mp hm ▸ hc⟩
      rw [ih hmore hrest htail, List.append_assoc]
      rfl

end Composition

/-! ### The forms -/

lemma isPlainForm_iff (form : CanonicalForm) (t u : Text) :
    IsPlainForm form t u ↔ u = form.transform t := by
  cases form with
  | none => exact Iff.rfl
  | decompose => exact isOrdering_iff
  | compose =>
    simp only [IsPlainForm, isOrdering_iff, exists_eq_left]
    exact composes_iff_composeMarks (List.forall_mem_nil _)
      (fun _ => decomposition_of_mem_decompose) (marksInOrder_decompose t)

/-- The form of a text is what the plain algorithm makes of it, and the check lets exactly those
texts pass of which the plain algorithm makes nothing else. -/
theorem apply_eq_plainForm {form : CanonicalForm} (hform : form ≠ .none) (t : Text) :
    (∀ u, form.apply t = u ↔ IsPlainForm form t u) ∧
      (form.holds t = true ↔ IsPlainForm form t t) := by
  constructor
  · intro u
    rw [apply_eq_transform, isPlainForm_iff, eq_comm]
  · rw [holds_iff hform, isPlainForm_iff, eq_comm]

theorem plainForm_of_dotted_long_s :
    CanonicalForm.compose ≠ .none ∧
    IsPlainForm .compose [0x17F, 0x307, 0x323] [0x1E9B, 0x323] ∧
    ¬ IsPlainForm .compose [0x17F, 0x307, 0x323] [0x17F, 0x307, 0x323] ∧
    IsPlainForm .compose [0x1E9B, 0x323] [0x1E9B, 0x323] := by
  have hform : CanonicalForm.compose ≠ .none := by decide
  have happly : CanonicalForm.compose.apply [0x17F, 0x307, 0x323] = [0x1E9B, 0x323] := by
    decide +kernel
  have hbefore : CanonicalForm.compose.holds [0x17F, 0x307, 0x323] = false := by decide +kernel
  have hafter : CanonicalForm.compose.holds [0x1E9B, 0x323] = true := by decide +kernel
  refine ⟨hform, (apply_eq_plainForm hform _).1 _ |>.mp happly, fun h => ?_,
    (apply_eq_plainForm hform _).2.mp hafter⟩
  have hholds := (apply_eq_plainForm hform [0x17F, 0x307, 0x323]).2.mpr h
  rw [hbefore] at hholds
  cases hholds

end NameKeys.Proofs
