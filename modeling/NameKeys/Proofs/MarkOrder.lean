import Mathlib.Tactic.Lemma
import NameKeys.Canonical.Form

/-!
# The order of marks

Marks are put in order of class by insertion from the right. This file proves what the insertion
does to a whole text: marks of different classes may change places beforehand, ordered text is
exactly the text that stays as it is, and nothing moves past a starter.
-/

namespace NameKeys.Proofs
open Text
open CanonicalForm (marksInOrder)

lemma isStarter_iff (c : CodePoint) : c.isStarter = true ↔ c.combiningClass = 0 := by
  simp [CodePoint.isStarter]

lemma isStarter_eq_false_iff (c : CodePoint) : c.isStarter = false ↔ c.combiningClass ≠ 0 := by
  simp [CodePoint.isStarter]

@[simp] lemma orderMarks_nil : orderMarks [] = [] := rfl

lemma orderMarks_cons (c : CodePoint) (t : Text) :
    orderMarks (c :: t) = insertMark c (orderMarks t) := rfl

lemma orderMarks_append (s t : Text) : orderMarks (s ++ t) = s.foldr insertMark (orderMarks t) :=
  List.foldr_append

/-! ### One insertion -/

lemma insertMark_cons_of_lt {c d : CodePoint} (h0 : d.combiningClass ≠ 0)
    (hlt : d.combiningClass < c.combiningClass) (t : Text) :
    insertMark c (d :: t) = d :: insertMark c t := by
  rw [insertMark, if_pos ⟨h0, hlt⟩]

lemma insertMark_cons_of_le {c d : CodePoint}
    (h : d.combiningClass = 0 ∨ c.combiningClass ≤ d.combiningClass) (t : Text) :
    insertMark c (d :: t) = c :: d :: t := by
  rw [insertMark, if_neg (by omega)]

lemma insertMark_of_isStarter {c : CodePoint} (h : c.isStarter = true) (t : Text) :
    insertMark c t = c :: t := by
  have hc := (isStarter_iff c).mp h
  cases t with
  | nil => rfl
  | cons d rest => exact insertMark_cons_of_le (by omega) rest

lemma insertMark_comm {a b : CodePoint} (ha : a.combiningClass ≠ 0) (hb : b.combiningClass ≠ 0)
    (hab : a.combiningClass ≠ b.combiningClass) (t : Text) :
    insertMark a (insertMark b t) = insertMark b (insertMark a t) := by
  induction t with
  | nil =>
    simp only [insertMark]
    split <;> split <;> first | rfl | omega
  | cons d rest ih =>
    by_cases hda : d.combiningClass ≠ 0 ∧ d.combiningClass < a.combiningClass
    · by_cases hdb : d.combiningClass ≠ 0 ∧ d.combiningClass < b.combiningClass
      · simp only [insertMark_cons_of_lt hda.1 hda.2, insertMark_cons_of_lt hdb.1 hdb.2, ih]
      · rw [insertMark_cons_of_lt hda.1 hda.2, insertMark_cons_of_le (by omega),
          insertMark_cons_of_lt hb (by omega), insertMark_cons_of_lt hda.1 hda.2,
          insertMark_cons_of_le (by omega)]
    · by_cases hdb : d.combiningClass ≠ 0 ∧ d.combiningClass < b.combiningClass
      · rw [insertMark_cons_of_lt hdb.1 hdb.2, insertMark_cons_of_le (by omega),
          insertMark_cons_of_le (by omega), insertMark_cons_of_lt ha (by omega),
          insertMark_cons_of_lt hdb.1 hdb.2]
      · rw [insertMark_cons_of_le (c := a) (by omega), insertMark_cons_of_le (c := b) (by omega)]
        rcases Nat.lt_or_gt_of_ne hab with hlt | hlt
        · rw [insertMark_cons_of_le (by omega), insertMark_cons_of_lt ha hlt,
            insertMark_cons_of_le (by omega)]
        · rw [insertMark_cons_of_lt hb hlt, insertMark_cons_of_le (by omega),
            insertMark_cons_of_le (by omega)]

lemma insertMark_perm (c : CodePoint) (t : Text) : (insertMark c t).Perm (c :: t) := by
  induction t with
  | nil => exact .refl _
  | cons d rest ih =>
    rw [insertMark]
    split
    · exact (ih.cons d).trans (.swap c d rest)
    · exact .refl _

lemma erase_insertMark (c : CodePoint) (t : Text) : (insertMark c t).erase c = t := by
  induction t with
  | nil => exact List.erase_cons_head ..
  | cons d rest ih =>
    by_cases hd : d.combiningClass ≠ 0 ∧ d.combiningClass < c.combiningClass
    · have hne : d ≠ c := by
        rintro rfl
        omega
      rw [insertMark_cons_of_lt hd.1 hd.2, List.erase_cons_tail (by simpa using hne), ih]
    · rw [insertMark_cons_of_le (by omega), List.erase_cons_head]

lemma insertMark_inj (c : CodePoint) {t u : Text} :
    insertMark c t = insertMark c u ↔ t = u := by
  constructor
  · intro h
    rw [← erase_insertMark c t, h, erase_insertMark]
  · rintro rfl
    rfl

/-! ### Ordered text -/

lemma marksInOrder_cons_cons (a b : CodePoint) (t : Text) :
    marksInOrder (a :: b :: t) = true ↔
      (b.combiningClass = 0 ∨ a.combiningClass ≤ b.combiningClass) ∧
        marksInOrder (b :: t) = true := by
  simp [marksInOrder, CodePoint.isStarter]

lemma marksInOrder_tail {c : CodePoint} {t : Text} (h : marksInOrder (c :: t) = true) :
    marksInOrder t = true := by
  cases t with
  | nil => rfl
  | cons d rest => exact ((marksInOrder_cons_cons c d rest).mp h).2

lemma insertMark_eq_cons {c : CodePoint} {t : Text} (h : marksInOrder (c :: t) = true) :
    insertMark c t = c :: t := by
  cases t with
  | nil => rfl
  | cons d rest => exact insertMark_cons_of_le ((marksInOrder_cons_cons c d rest).mp h).1 rest

lemma marksInOrder_insertMark (c : CodePoint) {t : Text} (h : marksInOrder t = true) :
    marksInOrder (insertMark c t) = true := by
  induction t with
  | nil => rfl
  | cons d rest ih =>
    by_cases hd : d.combiningClass ≠ 0 ∧ d.combiningClass < c.combiningClass
    · rw [insertMark_cons_of_lt hd.1 hd.2]
      have hrest := ih (marksInOrder_tail h)
      cases rest with
      | nil => exact (marksInOrder_cons_cons d c []).mpr ⟨.inr (Nat.le_of_lt hd.2), rfl⟩
      | cons e rest =>
        have hde := ((marksInOrder_cons_cons d e rest).mp h).1
        by_cases he : e.combiningClass ≠ 0 ∧ e.combiningClass < c.combiningClass
        · rw [insertMark_cons_of_lt he.1 he.2] at hrest ⊢
          exact (marksInOrder_cons_cons d e _).mpr ⟨hde, hrest⟩
        · rw [insertMark_cons_of_le (by omega)] at hrest ⊢
          exact (marksInOrder_cons_cons d c _).mpr ⟨.inr (Nat.le_of_lt hd.2), hrest⟩
    · rw [insertMark_cons_of_le (by omega)]
      exact (marksInOrder_cons_cons c d rest).mpr ⟨by omega, h⟩

/-! ### A whole text -/

lemma orderMarks_perm (t : Text) : (orderMarks t).Perm t := by
  induction t with
  | nil => exact .refl _
  | cons c rest ih => exact (insertMark_perm c _).trans (ih.cons c)

lemma orderMarks_cons_starter {s : CodePoint} (h : s.isStarter = true) (t : Text) :
    orderMarks (s :: t) = s :: orderMarks t :=
  insertMark_of_isStarter h _

lemma orderMarks_starters_append {s : Text} (h : ∀ c ∈ s, c.isStarter = true) (t : Text) :
    orderMarks (s ++ t) = s ++ orderMarks t := by
  induction s with
  | nil => rfl
  | cons c rest ih =>
    rw [List.cons_append, orderMarks_cons_starter (h c (List.mem_cons_self ..)),
      ih fun d hd => h d (List.mem_cons_of_mem c hd)]
    rfl

lemma insertMark_append_starter {s : CodePoint} (h : s.isStarter = true) (c : CodePoint)
    (t u : Text) : insertMark c (t ++ s :: u) = insertMark c t ++ s :: u := by
  induction t with
  | nil => exact insertMark_cons_of_le (.inl ((isStarter_iff s).mp h)) u
  | cons d rest ih =>
    rw [List.cons_append]
    by_cases hd : d.combiningClass ≠ 0 ∧ d.combiningClass < c.combiningClass
    · rw [insertMark_cons_of_lt hd.1 hd.2, insertMark_cons_of_lt hd.1 hd.2, ih, List.cons_append]
    · rw [insertMark_cons_of_le (by omega), insertMark_cons_of_le (by omega), List.cons_append,
        List.cons_append]

lemma orderMarks_append_starter {s : CodePoint} (h : s.isStarter = true) (t u : Text) :
    orderMarks (t ++ s :: u) = orderMarks t ++ s :: orderMarks u := by
  induction t with
  | nil => exact orderMarks_cons_starter h u
  | cons c rest ih =>
    rw [List.cons_append, orderMarks_cons, ih, insertMark_append_starter h, orderMarks_cons]

lemma marksInOrder_orderMarks (t : Text) : marksInOrder (orderMarks t) = true := by
  induction t with
  | nil => rfl
  | cons c rest ih => exact marksInOrder_insertMark c ih

lemma orderMarks_eq_self {t : Text} (h : marksInOrder t = true) : orderMarks t = t := by
  induction t with
  | nil => rfl
  | cons c rest ih => rw [orderMarks_cons, ih (marksInOrder_tail h), insertMark_eq_cons h]

lemma orderMarks_append_congr (s : Text) {t u : Text} (h : orderMarks t = orderMarks u) :
    orderMarks (s ++ t) = orderMarks (s ++ u) := by
  rw [orderMarks_append, orderMarks_append, h]

lemma orderMarks_cons_append {c : CodePoint} {marks : Text}
    (h : ∀ d ∈ marks, d.combiningClass ≠ 0 ∧ d.combiningClass < c.combiningClass) (t : Text) :
    orderMarks (c :: (marks ++ t)) = orderMarks (marks ++ c :: t) := by
  induction marks with
  | nil => rfl
  | cons d rest ih =>
    have hd := h d (List.mem_cons_self ..)
    have hrest := ih fun e he => h e (List.mem_cons_of_mem d he)
    rw [orderMarks_cons] at hrest
    rw [List.cons_append, List.cons_append, orderMarks_cons, orderMarks_cons, orderMarks_cons,
      ← hrest, insertMark_comm (by omega) hd.1 (by omega)]

end NameKeys.Proofs
