import NameKeys.Proofs.ComposedText

/-!
# The quick check is certain

Text that passes the quick check for a form is in the form. For composed text the reason is local: a
starter composes back from its decomposition even when other marks have moved in between, since
these are of smaller classes and compose with nothing.
-/

namespace NameKeys.Proofs
open Text CodePoint
open CanonicalForm (marksInOrder verdictOn)

/-- The text passes the quick check for a form. -/
structure Passes (form : CanonicalForm) (t : Text) : Prop where
  ordered : marksInOrder t = true
  yes : ∀ c ∈ t, form.verdictOn c = .yes

lemma Passes.of_quickCheck {form : CanonicalForm} {t : Text} (h : form.quickCheck t = .yes) :
    Passes form t := by
  unfold CanonicalForm.quickCheck at h
  split at h
  · simp at h
  · next ho =>
    split at h
    · simp at h
    · next hno =>
      split at h
      · simp at h
      · next hmaybe =>
        refine ⟨by simpa using ho, fun c hc => ?_⟩
        have hcno : form.verdictOn c ≠ .no := fun hv => hno (by simpa using ⟨c, hc, hv⟩)
        have hcmaybe : form.verdictOn c ≠ .maybe := fun hv => hmaybe (by simpa using ⟨c, hc, hv⟩)
        cases hv : form.verdictOn c <;> simp_all

lemma Passes.quickCheck {form : CanonicalForm} {t : Text} (h : Passes form t) :
    form.quickCheck t = .yes := by
  have hany : ∀ v, v ≠ .yes → (t.any fun c => form.verdictOn c = v) = false := by
    intro v hv
    rw [List.any_eq_false]
    intro c hc
    rw [h.yes c hc, decide_eq_true_eq]
    exact hv.symm
  rw [CanonicalForm.quickCheck, h.ordered, hany .no (by decide), hany .maybe (by decide)]
  rfl

lemma Passes.tail {form : CanonicalForm} {c : CodePoint} {t : Text} (h : Passes form (c :: t)) :
    Passes form t :=
  ⟨marksInOrder_tail h.ordered, fun d hd => h.yes d (List.mem_cons_of_mem c hd)⟩

/-! ### Marks in between -/

/-- The marks that a text begins with. -/
def leadingMarks (t : Text) : Text := t.takeWhile fun c => c.combiningClass ≠ 0

/-- The marks that a text begins with and that a code point would be put behind. -/
def marksBelow (d : CodePoint) (t : Text) : Text :=
  t.takeWhile fun e => e.combiningClass ≠ 0 ∧ e.combiningClass < d.combiningClass

lemma leadingMarks_cons_mark {c : CodePoint} (h : c.combiningClass ≠ 0) (t : Text) :
    leadingMarks (c :: t) = c :: leadingMarks t :=
  List.takeWhile_cons_of_pos (by simpa using h)

lemma leadingMarks_cons_starter {c : CodePoint} (h : c.combiningClass = 0) (t : Text) :
    leadingMarks (c :: t) = [] :=
  List.takeWhile_cons_of_neg (by simpa using h)

lemma mem_leadingMarks_of_mem_marksBelow {d e : CodePoint} {t : Text} (h : e ∈ marksBelow d t) :
    e ∈ leadingMarks t := by
  induction t with
  | nil => simp [marksBelow] at h
  | cons f rest ih =>
    by_cases hf : f.combiningClass ≠ 0 ∧ f.combiningClass < d.combiningClass
    · rw [marksBelow, List.takeWhile_cons_of_pos (by simpa using hf)] at h
      rw [leadingMarks_cons_mark hf.1]
      rcases List.mem_cons.mp h with rfl | h
      · exact List.mem_cons_self ..
      · exact List.mem_cons_of_mem f (ih h)
    · rw [marksBelow, List.takeWhile_cons_of_neg (by simpa using hf)] at h
      simp at h

lemma marksBelow_insertMark {d e : CodePoint} (h : d.combiningClass ≤ e.combiningClass) (t : Text) :
    marksBelow d (insertMark e t) = marksBelow d t := by
  induction t with
  | nil => simp [insertMark, marksBelow, h]
  | cons f rest ih =>
    unfold marksBelow at ih ⊢
    by_cases hf : f.combiningClass ≠ 0 ∧ f.combiningClass < e.combiningClass
    · rw [insertMark_cons_of_lt hf.1 hf.2, List.takeWhile_cons, List.takeWhile_cons, ih]
    · rw [insertMark_cons_of_le (by omega), List.takeWhile_cons_of_neg (by simp [h]),
        List.takeWhile_cons_of_neg (by simp; omega)]

lemma marksBelow_foldr_insertMark {d : CodePoint} {ds : Text}
    (h : ∀ e ∈ ds, d.combiningClass ≤ e.combiningClass) (t : Text) :
    marksBelow d (ds.foldr insertMark t) = marksBelow d t := by
  induction ds with
  | nil => rfl
  | cons e rest ih =>
    rw [List.foldr_cons, marksBelow_insertMark (h e (List.mem_cons_self ..)),
      ih fun f hf => h f (List.mem_cons_of_mem e hf)]

/-! ### Recomposition of a starter -/

lemma composeAfter_cons_of_yes {c : CodePoint} (h : CanonicalForm.compose.verdictOn c = .yes)
    (s : CodePoint) (between t : Text) :
    composeAfter s between (c :: t) =
      if c.isStarter then s :: between.reverse ++ composeAfter c [] t
      else composeAfter s (c :: between) t := by
  rw [composeAfter, composite?_eq_none h]
  simp

lemma composeAfter_insertMark {s z d : CodePoint} (hz : s.composite? d = some z) {between : Text}
    (hb : isBlocked d between = false) {t : Text}
    (ht : ∀ e ∈ marksBelow d t, CanonicalForm.compose.verdictOn e = .yes) :
    composeAfter s between (insertMark d t) = composeAfter z between t := by
  induction t generalizing between with
  | nil => simp [insertMark, composeAfter, hb, hz]
  | cons e rest ih =>
    by_cases he : e.combiningClass ≠ 0 ∧ e.combiningClass < d.combiningClass
    · have hbelow : marksBelow d (e :: rest) = e :: marksBelow d rest :=
        List.takeWhile_cons_of_pos (by simpa using he)
      rw [hbelow] at ht
      have hyes := ht e (List.mem_cons_self ..)
      have hstarter : e.isStarter = false := (isStarter_eq_false_iff e).mpr he.1
      have hblocked : isBlocked d (e :: between) = false := by simpa [isBlocked] using he.2
      rw [insertMark_cons_of_lt he.1 he.2, composeAfter_cons_of_yes hyes, composeAfter_cons_of_yes hyes,
        hstarter]
      exact ih hblocked fun f hf => ht f (List.mem_cons_of_mem e hf)
    · rw [insertMark_cons_of_le (by omega), composeAfter, hb, hz]
      rfl

/-- A starter composes back from its decomposition, whatever marks of smaller classes that compose
with nothing were moved in between. -/
lemma composeAfter_foldr_insertMark {s z : CodePoint} {ds t : Text}
    (hsorted : ds.Pairwise fun x y => x.combiningClass ≤ y.combiningClass)
    (hz : ds.foldlM composite? s = some z)
    (ht : ∀ e ∈ leadingMarks t, CanonicalForm.compose.verdictOn e = .yes) :
    composeAfter s [] (ds.foldr insertMark t) = composeAfter z [] t := by
  induction ds generalizing s with
  | nil =>
    obtain rfl : s = z := by simpa using hz
    rfl
  | cons d rest ih =>
    rw [List.foldlM_cons] at hz
    obtain ⟨y, hy, hz⟩ := Option.bind_eq_some_iff.mp hz
    have hbelow : marksBelow d (rest.foldr insertMark t) = marksBelow d t :=
      marksBelow_foldr_insertMark (fun e he => List.rel_of_pairwise_cons hsorted he) t
    rw [List.foldr_cons, composeAfter_insertMark hy rfl]
    · exact ih hsorted.of_cons hz
    · intro e he
      rw [hbelow] at he
      exact ht e (mem_leadingMarks_of_mem_marksBelow he)

/-! ### Composed text -/

lemma decompose_cons (c : CodePoint) (t : Text) :
    decompose (c :: t) = c.decomposition.foldr insertMark (decompose t) := by
  rw [decompose, List.flatMap_cons, orderMarks_append]
  rfl

lemma exists_decompose_cons {c : CodePoint} (h : recomposes c = true) (t : Text) :
    ∃ (d : CodePoint) (ds : Text),
      decompose (c :: t) = d :: ds.foldr insertMark (decompose t) ∧ d.isStarter = true ∧
      CanonicalForm.compose.verdictOn d = .yes ∧
      (ds.Pairwise fun x y => x.combiningClass ≤ y.combiningClass) ∧
      ds.foldlM composite? d = some c := by
  obtain ⟨d, ds, hd, -, hs, hyes, hsorted, hz⟩ := (recomposes_iff c).mp h
  refine ⟨d, ds, ?_, hs, hyes, hsorted, hz⟩
  rw [decompose_cons, hd, List.foldr_cons, insertMark_of_isStarter hs]

lemma decomposition_of_mark {c : CodePoint} (h : CanonicalForm.compose.verdictOn c = .yes)
    (hc : c.isStarter = false) : c.decomposition = [c] := by
  rcases mark_or_recomposes h with ⟨-, hd⟩ | hr
  · exact hd
  · obtain ⟨-, -, -, hs, -⟩ := (recomposes_iff c).mp hr
    simp [hs] at hc

lemma recomposes_of_starter {c : CodePoint} (h : CanonicalForm.compose.verdictOn c = .yes)
    (hc : c.isStarter = true) : recomposes c = true := by
  rcases mark_or_recomposes h with ⟨hs, -⟩ | hr
  · simp [hs] at hc
  · exact hr

lemma decompose_cons_mark {c : CodePoint} {t : Text} (h : Passes .compose (c :: t))
    (hc : c.isStarter = false) : decompose (c :: t) = c :: decompose t := by
  have hd := decomposition_of_mark (h.yes c (List.mem_cons_self ..)) hc
  induction t generalizing c with
  | nil => rw [decompose_cons, hd]; rfl
  | cons e rest ih =>
    have hyes := h.tail.yes e (List.mem_cons_self ..)
    have horder := ((marksInOrder_cons_cons c e rest).mp h.ordered).1
    rw [decompose_cons, hd, List.foldr_cons, List.foldr_nil]
    cases hs : e.isStarter with
    | false =>
      rw [ih h.tail hs (decomposition_of_mark hyes hs)]
      exact insertMark_cons_of_le horder _
    | true =>
      obtain ⟨d, ds, heq, hds, -⟩ := exists_decompose_cons (recomposes_of_starter hyes hs) rest
      rw [heq]
      exact insertMark_cons_of_le (.inl ((isStarter_iff d).mp hds)) _

lemma leadingMarks_decompose {t : Text} (h : Passes .compose t) :
    leadingMarks (decompose t) = leadingMarks t := by
  induction t with
  | nil => rfl
  | cons c rest ih =>
    cases hc : c.isStarter with
    | false =>
      have hmark := (isStarter_eq_false_iff c).mp hc
      rw [decompose_cons_mark h hc, leadingMarks_cons_mark hmark, leadingMarks_cons_mark hmark,
        ih h.tail]
    | true =>
      obtain ⟨d, ds, heq, hds, -⟩ :=
        exists_decompose_cons (recomposes_of_starter (h.yes c (List.mem_cons_self ..)) hc) rest
      rw [heq, leadingMarks_cons_starter ((isStarter_iff d).mp hds),
        leadingMarks_cons_starter ((isStarter_iff c).mp hc)]

lemma yes_of_mem_leadingMarks_decompose {t : Text} (h : Passes .compose t) :
    ∀ e ∈ leadingMarks (decompose t), CanonicalForm.compose.verdictOn e = .yes := by
  intro e he
  rw [leadingMarks_decompose h] at he
  exact h.yes e ((List.takeWhile_prefix _).subset he)

lemma composeAfter_decompose {t : Text} (h : Passes .compose t) (s : CodePoint)
    (between : List CodePoint) :
    composeAfter s between (decompose t) = s :: between.reverse ++ t := by
  induction t generalizing s between with
  | nil => simp [decompose, composeAfter]
  | cons c rest ih =>
    have hyes := h.yes c (List.mem_cons_self ..)
    cases hc : c.isStarter with
    | false =>
      rw [decompose_cons_mark h hc, composeAfter_cons_of_yes hyes, hc, if_neg Bool.false_ne_true,
        ih h.tail]
      simp
    | true =>
      obtain ⟨d, ds, heq, hds, hd, hsorted, hz⟩ :=
        exists_decompose_cons (recomposes_of_starter hyes hc) rest
      rw [heq, composeAfter_cons_of_yes hd, hds, if_pos rfl,
        composeAfter_foldr_insertMark hsorted hz (yes_of_mem_leadingMarks_decompose h.tail),
        ih h.tail]
      rfl

lemma compose_eq_self {t : Text} (h : Passes .compose t) : compose t = t := by
  rw [compose]
  induction t with
  | nil => rfl
  | cons c rest ih =>
    cases hc : c.isStarter with
    | false => rw [decompose_cons_mark h hc, composeMarks, hc, if_neg Bool.false_ne_true, ih h.tail]
    | true =>
      obtain ⟨d, ds, heq, hds, -, hsorted, hz⟩ :=
        exists_decompose_cons (recomposes_of_starter (h.yes c (List.mem_cons_self ..)) hc) rest
      rw [heq, composeMarks, hds, if_pos rfl,
        composeAfter_foldr_insertMark hsorted hz (yes_of_mem_leadingMarks_decompose h.tail),
        composeAfter_decompose h.tail]
      rfl

/-! ### Both forms -/

lemma holds_of_passes {form : CanonicalForm} {t : Text} (h : Passes form t) :
    form.holds t = true := by
  rw [CanonicalForm.holds, h.quickCheck]

lemma transform_eq_self {form : CanonicalForm} {t : Text} (h : Passes form t) :
    form.transform t = t := by
  cases form with
  | none => rfl
  | compose => exact compose_eq_self h
  | decompose =>
    refine decompose_eq_self (fun c hc => decomposition_eq_self ?_) h.ordered
    rw [h.yes c hc]
    decide

lemma transform_of_holds {form : CanonicalForm} {t : Text} (h : form.holds t = true) :
    form.transform t = t := by
  unfold CanonicalForm.holds at h
  split at h
  · next hq => exact transform_eq_self (Passes.of_quickCheck hq)
  · simp at h
  · exact of_decide_eq_true h

/-- The quick check only saves work: the form of a text is always its transformation. -/
lemma apply_eq_transform (form : CanonicalForm) (t : Text) : form.apply t = form.transform t := by
  unfold CanonicalForm.apply
  split
  · rfl
  · split
    · next hh => exact (transform_of_holds hh).symm
    · rfl

end NameKeys.Proofs
