import NameKeys.Matching.Key
import NameKeys.Proofs.CaseFoldings
import NameKeys.Proofs.QuickCheck

/-!
# Full folding after either form

Folded text is not brought into a form again. So the keys of a name under the two forms may differ by
more than the form: the keys agree up to canonical equivalence exactly when no iota subscript, which
folds from a mark to a letter, stands before a mark of a smaller class.
-/

namespace NameKeys.Proofs
open Text CodePoint

def composedFolded : Profile := ⟨.compose, .unicode⟩

def decomposedFolded : Profile := ⟨.decompose, .unicode⟩

/-- Whether the iota subscript would stay in front of a text: the text begins with no mark of a
smaller class. -/
def subscriptStays : Text → Bool
  | [] => true
  | d :: _ => d.isStarter || iotaSubscript.combiningClass ≤ d.combiningClass

/-- Whether no iota subscript stands directly before a mark of a smaller class. -/
def subscriptsLast : Text → Bool
  | [] => true
  | c :: rest => (c ≠ iotaSubscript || subscriptStays rest) && subscriptsLast rest

lemma subscriptStays_cons (d : CodePoint) (t : Text) : subscriptStays (d :: t) = true ↔
    d.combiningClass = 0 ∨ iotaSubscript.combiningClass ≤ d.combiningClass := by
  simp [subscriptStays, isStarter]

lemma subscriptsLast_cons_iotaSubscript (t : Text) :
    subscriptsLast (iotaSubscript :: t) = true ↔
      subscriptStays t = true ∧ subscriptsLast t = true := by
  simp [subscriptsLast]

lemma subscriptsLast_cons_of_ne {c : CodePoint} (h : c ≠ iotaSubscript) (t : Text) :
    subscriptsLast (c :: t) = subscriptsLast t := by
  simp [subscriptsLast, h]

/-! ### The place of the iota subscript -/

lemma insertMark_iotaSubscript {t : Text} (h : subscriptStays t = true) :
    insertMark iotaSubscript t = iotaSubscript :: t := by
  cases t with
  | nil => rfl
  | cons d rest => exact insertMark_cons_of_le ((subscriptStays_cons d rest).mp h) rest

lemma insertMark_iotaSubscript_cons {d : CodePoint} {t : Text}
    (h : ¬subscriptStays (d :: t) = true) :
    insertMark iotaSubscript (d :: t) = d :: insertMark iotaSubscript t := by
  rw [subscriptStays_cons] at h
  exact insertMark_cons_of_lt (by omega) (by omega) t

lemma subscriptStays_of_orderMarks {t : Text} (h : subscriptStays (orderMarks t) = true) :
    subscriptStays t = true := by
  cases t with
  | nil => rfl
  | cons d rest =>
    rw [orderMarks_cons] at h
    rw [subscriptStays_cons]
    cases ho : orderMarks rest with
    | nil =>
      rw [ho] at h
      exact (subscriptStays_cons d []).mp h
    | cons e u =>
      rw [ho] at h
      by_cases he : e.combiningClass ≠ 0 ∧ e.combiningClass < d.combiningClass
      · rw [insertMark_cons_of_lt he.1 he.2, subscriptStays_cons] at h
        omega
      · rw [insertMark_cons_of_le (by omega), subscriptStays_cons] at h
        exact h

lemma subscriptStays_orderMarks {t : Text} (hlast : subscriptsLast t = true)
    (h : subscriptStays t = true) : subscriptStays (orderMarks t) = true := by
  induction t with
  | nil => rfl
  | cons d rest ih =>
    have hd := (subscriptStays_cons d rest).mp h
    cases hs : d.isStarter with
    | true =>
      rw [orderMarks_cons_starter hs, subscriptStays_cons]
      exact .inl ((isStarter_iff d).mp hs)
    | false =>
      have hmark := (isStarter_eq_false_iff d).mp hs
      obtain rfl : d = iotaSubscript := by
        by_contra hne
        have hlt := combiningClass_lt_of_ne hne
        rw [combiningClass_iotaSubscript] at hd
        omega
      obtain ⟨hstays, hrest⟩ := (subscriptsLast_cons_iotaSubscript rest).mp hlast
      rw [orderMarks_cons, insertMark_iotaSubscript (ih hrest hstays), subscriptStays_cons]
      exact .inr (Nat.le_refl _)

/-! ### Folding ordered text -/

lemma insertMark_foldCase_cons {c d : CodePoint}
    (h : d.combiningClass = 0 ∨ c.combiningClass ≤ d.combiningClass) (hd : d.decomposition = [d])
    (t : Text) : insertMark c (foldCase (d :: t)) = c :: foldCase (d :: t) := by
  rw [foldCase_cons]
  cases hs : d.isStarter with
  | true =>
    obtain ⟨hne, hstarters⟩ := folding_of_starter hs hd
    obtain ⟨p, ps, hp⟩ := List.exists_cons_of_ne_nil hne
    rw [hp] at hstarters ⊢
    have hclass := (isStarter_iff p).mp (hstarters p (List.mem_cons_self ..))
    exact insertMark_cons_of_le (.inl hclass) _
  | false =>
    by_cases hsub : d = iotaSubscript
    · rw [hsub, folding_iotaSubscript]
      exact insertMark_cons_of_le (.inl ((isStarter_iff _).mp isStarter_iotaLetter)) _
    · rw [folding_of_mark hs hsub]
      exact insertMark_cons_of_le h _

lemma foldCase_insertMark {c : CodePoint} (hc : c.isStarter = false) (hne : c ≠ iotaSubscript)
    {t : Text} (ht : ∀ d ∈ t, d.decomposition = [d]) :
    foldCase (insertMark c t) = insertMark c (foldCase t) := by
  have hlt := combiningClass_lt_of_ne hne
  induction t with
  | nil => rw [insertMark, foldCase_cons, folding_of_mark hc hne]; rfl
  | cons d rest ih =>
    by_cases hd : d.combiningClass ≠ 0 ∧ d.combiningClass < c.combiningClass
    · have hdne : d ≠ iotaSubscript := by
        rintro rfl
        rw [combiningClass_iotaSubscript] at hd
        omega
      have hfold := folding_of_mark ((isStarter_eq_false_iff d).mpr hd.1) hdne
      rw [insertMark_cons_of_lt hd.1 hd.2, foldCase_cons, foldCase_cons, hfold,
        ih fun e he => ht e (List.mem_cons_of_mem d he)]
      exact (insertMark_cons_of_lt hd.1 hd.2 _).symm
    · rw [insertMark_cons_of_le (by omega), foldCase_cons, folding_of_mark hc hne,
        insertMark_foldCase_cons (by omega) (ht d (List.mem_cons_self ..))]
      rfl

/-- Where the iota subscript moves, a mark comes to stand where its letter is. -/
lemma foldCase_insertMark_iotaSubscript_ne {t : Text} (h : ¬subscriptStays t = true) (u : Text) :
    foldCase (insertMark iotaSubscript t) ≠ iotaLetter :: u := by
  cases t with
  | nil => exact absurd rfl h
  | cons d rest =>
    have hd := h
    rw [subscriptStays_cons] at hd
    have hne : d ≠ iotaSubscript := by
      rintro rfl
      omega
    have hmark : d.isStarter = false := (isStarter_eq_false_iff d).mpr (by omega)
    rw [insertMark_iotaSubscript_cons h, foldCase_cons, folding_of_mark hmark hne]
    intro heq
    obtain ⟨rfl, -⟩ := List.cons.inj heq
    rw [isStarter_iotaLetter] at hmark
    exact Bool.false_ne_true hmark.symm

/-- Decomposed text may be folded before or after its marks are put in order exactly when no iota
subscript stands before a mark of a smaller class. -/
lemma orderMarks_foldCase_iff {t : Text} (ht : ∀ c ∈ t, c.decomposition = [c]) :
    orderMarks (foldCase t) = foldCase (orderMarks t) ↔ subscriptsLast t = true := by
  induction t with
  | nil => simp [subscriptsLast, foldCase]
  | cons c rest ih =>
    have hrest : ∀ d ∈ rest, d.decomposition = [d] := fun d hd => ht d (List.mem_cons_of_mem c hd)
    have hordered : ∀ d ∈ orderMarks rest, d.decomposition = [d] := fun d hd =>
      hrest d ((orderMarks_perm rest).mem_iff.mp hd)
    have ih := ih hrest
    cases hs : c.isStarter with
    | true =>
      have hne : c ≠ iotaSubscript := by
        rintro rfl
        simp [isStarter, combiningClass_iotaSubscript] at hs
      have hstarters := (folding_of_starter hs (ht c (List.mem_cons_self ..))).2
      rw [orderMarks_cons_starter hs, foldCase_cons, foldCase_cons,
        orderMarks_starters_append hstarters, List.append_cancel_left_eq, ih,
        subscriptsLast_cons_of_ne hne]
    | false =>
      by_cases hne : c = iotaSubscript
      · subst hne
        have hletter : orderMarks (foldCase (iotaSubscript :: rest)) =
            iotaLetter :: orderMarks (foldCase rest) := by
          rw [foldCase_cons, folding_iotaSubscript]
          exact orderMarks_cons_starter isStarter_iotaLetter _
        rw [hletter, orderMarks_cons, subscriptsLast_cons_iotaSubscript]
        by_cases hstays : subscriptStays (orderMarks rest) = true
        · have hfront := subscriptStays_of_orderMarks hstays
          rw [insertMark_iotaSubscript hstays, foldCase_cons, folding_iotaSubscript]
          simp [ih, hfront]
        · constructor
          · intro h
            exact absurd h.symm (foldCase_insertMark_iotaSubscript_ne hstays _)
          · rintro ⟨hfront, hlast⟩
            exact absurd (subscriptStays_orderMarks hlast hfront) hstays
      · rw [foldCase_cons, folding_of_mark hs hne, List.singleton_append, orderMarks_cons,
          orderMarks_cons, foldCase_insertMark hs hne hordered, insertMark_inj, ih,
          subscriptsLast_cons_of_ne hne]

/-! ### The keys under the two profiles -/

lemma decompose_composedFolded_key (t : Text) :
    decompose (composedFolded.key t) = orderMarks (foldCase ((compose t).flatMap decomposition)) := by
  have hkey : composedFolded.key t = foldCase (compose t) :=
    congrArg foldCase (apply_eq_transform .compose t)
  rw [hkey, decompose, flatMap_decomposition_foldCase]

lemma decomposedFolded_key (t : Text) :
    decomposedFolded.key t = foldCase (orderMarks ((compose t).flatMap decomposition)) := by
  have hkey : decomposedFolded.key t = foldCase (decompose t) :=
    congrArg foldCase (apply_eq_transform .decompose t)
  rw [hkey, ← decompose_compose, decompose]

/-- The decomposition of a name's key under one profile is its key under the other exactly when the
composed name has no iota subscript before a mark of a smaller class. -/
lemma decompose_composedFolded_key_iff (t : Text) :
    decompose (composedFolded.key t) = decomposedFolded.key t ↔
      subscriptsLast ((compose t).flatMap decomposition) = true := by
  rw [decompose_composedFolded_key, decomposedFolded_key]
  exact orderMarks_foldCase_iff fun _ => decomposition_of_mem_flatMap

lemma subscriptsLast_of_not_mem {t : Text} (h : iotaSubscript ∉ t) : subscriptsLast t = true := by
  induction t with
  | nil => rfl
  | cons c rest ih =>
    have hne : c ≠ iotaSubscript := fun heq => h (heq ▸ List.mem_cons_self ..)
    rw [subscriptsLast_cons_of_ne hne]
    exact ih fun hrest => h (List.mem_cons_of_mem c hrest)

lemma subscriptsLast_compose_of_not_mem {t : Text} (h : iotaSubscript ∉ decompose t) :
    subscriptsLast ((compose t).flatMap decomposition) = true := by
  apply subscriptsLast_of_not_mem
  intro hmem
  apply h
  rw [← decompose_compose, decompose]
  exact (orderMarks_perm _).mem_iff.mpr hmem

lemma decompose_eq_self_of_holds {form : CanonicalForm} (hf : form ≠ .none) {s t : Text}
    (hs : form.holds s = true) (ht : form.holds t = true) (h : decompose s = decompose t) :
    s = t := by
  rw [← transform_of_holds hs, ← transform_of_holds ht]
  cases form with
  | none => exact absurd rfl hf
  | compose => exact congrArg composeMarks h
  | decompose => exact h

/-- Full folding after either form equates the same names up to a form that is not restored. Where no
iota subscript stands before a mark of a smaller class, the names that are equivalent after
decomposition are those whose keys after composition are canonically equivalent, and this is the
exact place of the difference; names that decompose without an iota subscript have none there. Keys
that are in a form themselves make no difference. -/
theorem folded_forms_agree_up_to_form {a b : Text}
    (ha : subscriptsLast ((compose a).flatMap decomposition) = true)
    (hb : subscriptsLast ((compose b).flatMap decomposition) = true) :
    (∀ t, CanonicalForm.decompose.apply (composedFolded.key t) = decomposedFolded.key t ↔
      subscriptsLast ((compose t).flatMap decomposition) = true) ∧
    (∀ t, iotaSubscript ∉ CanonicalForm.decompose.apply t →
      subscriptsLast ((compose t).flatMap decomposition) = true) ∧
    decomposedFolded.equivalent a b =
      (Profile.mk .decompose .none).equivalent (composedFolded.key a) (composedFolded.key b) ∧
    (composedFolded.equivalent a b = true → decomposedFolded.equivalent a b = true) ∧
    ∀ form : CanonicalForm, form ≠ .none →
      form.holds (composedFolded.key a) = true → form.holds (composedFolded.key b) = true →
      composedFolded.equivalent a b = decomposedFolded.equivalent a b := by
  have hexact : ∀ t, CanonicalForm.decompose.apply (composedFolded.key t) = decomposedFolded.key t ↔
      subscriptsLast ((compose t).flatMap decomposition) = true := by
    intro t
    rw [apply_eq_transform]
    exact decompose_composedFolded_key_iff t
  have hkeys : decomposedFolded.key a = decomposedFolded.key b ↔
      decompose (composedFolded.key a) = decompose (composedFolded.key b) := by
    rw [(decompose_composedFolded_key_iff a).mpr ha, (decompose_composedFolded_key_iff b).mpr hb]
  refine ⟨hexact, fun t h => ?_, ?_, ?_, ?_⟩
  · rw [apply_eq_transform] at h
    exact subscriptsLast_compose_of_not_mem h
  · apply decide_eq_decide.mpr
    rw [← (hexact a).mpr ha, ← (hexact b).mpr hb]
    rfl
  · intro h
    have hcomposed : composedFolded.key a = composedFolded.key b := of_decide_eq_true h
    exact decide_eq_true (hkeys.mpr (congrArg decompose hcomposed))
  · intro form hf hforma hformb
    refine decide_eq_decide.mpr ⟨fun h => hkeys.mpr (congrArg decompose h), fun h => ?_⟩
    exact decompose_eq_self_of_holds hf hforma hformb (hkeys.mp h)

theorem folded_forms_agree_on_accented_vowels :
    composedFolded.equivalent [0x1FB2] [0x1FBA, 0x345] =
      decomposedFolded.equivalent [0x1FB2] [0x1FBA, 0x345] ∧
    decomposedFolded.equivalent [0x390] [0x399, 0x308, 0x301] =
      (Profile.mk .decompose .none).equivalent (composedFolded.key [0x390])
        (composedFolded.key [0x399, 0x308, 0x301]) := by
  constructor
  · have halpha := folded_forms_agree_up_to_form (a := [0x1FB2]) (b := [0x1FBA, 0x345])
      (by decide +kernel) (by decide +kernel)
    exact halpha.2.2.2.2 .compose (by decide) (by decide +kernel) (by decide +kernel)
  · have hiota := folded_forms_agree_up_to_form (a := [0x390]) (b := [0x399, 0x308, 0x301])
      (subscriptsLast_compose_of_not_mem (by decide +kernel))
      (subscriptsLast_compose_of_not_mem (by decide +kernel))
    exact hiota.2.2.1

/-- Neither profile equates all names that the other does. The letter with dialytika and accent folds
to three code points, of which its capital has two as one. Behind a subscript, a mark of a smaller
class stays with the letter in decomposed text and follows the second letter in composed text. -/
theorem folded_forms_disagree :
    composedFolded.equivalent [0x390] [0x399, 0x308, 0x301] = false ∧
    decomposedFolded.equivalent [0x390] [0x399, 0x308, 0x301] = true ∧
    composedFolded.equivalent [0x1FB3, 0x316] [0x3B1, 0x3B9, 0x316] = true ∧
    decomposedFolded.equivalent [0x1FB3, 0x316] [0x3B1, 0x3B9, 0x316] = false := by
  decide +kernel

end NameKeys.Proofs
