import NameKeys.Proofs.CanonicalTables
import NameKeys.Proofs.MarkOrder

/-!
# Decomposition undoes composition

Decomposed text stays as it is when it is decomposed again, and a composed text decomposes into the
text that it was composed from. So each of the two forms can be computed from the other.
-/

namespace NameKeys.Proofs
open Text CodePoint
open CanonicalForm (marksInOrder)

/-! ### Decomposed text -/

lemma flatMap_decomposition_eq_self {t : Text} (h : ∀ c ∈ t, c.decomposition = [c]) :
    t.flatMap decomposition = t := by
  induction t with
  | nil => rfl
  | cons c rest ih =>
    rw [List.flatMap_cons, h c (List.mem_cons_self ..), ih fun d hd => h d (List.mem_cons_of_mem c hd)]
    rfl

lemma decompose_eq_orderMarks {t : Text} (h : ∀ c ∈ t, c.decomposition = [c]) :
    t.decompose = orderMarks t := by
  rw [decompose, flatMap_decomposition_eq_self h]

lemma decompose_eq_self {t : Text} (h : ∀ c ∈ t, c.decomposition = [c])
    (ho : marksInOrder t = true) : t.decompose = t := by
  rw [decompose_eq_orderMarks h, orderMarks_eq_self ho]

lemma decomposition_of_mem_flatMap {t : Text} {c : CodePoint} (h : c ∈ t.flatMap decomposition) :
    c.decomposition = [c] := by
  obtain ⟨d, -, hc⟩ := List.mem_flatMap.mp h
  exact decomposition_of_mem hc

lemma decomposition_of_mem_decompose {t : Text} {c : CodePoint} (h : c ∈ t.decompose) :
    c.decomposition = [c] :=
  decomposition_of_mem_flatMap ((orderMarks_perm _).mem_iff.mp h)

lemma marksInOrder_decompose (t : Text) : marksInOrder t.decompose = true :=
  marksInOrder_orderMarks _

lemma decompose_decompose (t : Text) : t.decompose.decompose = t.decompose :=
  decompose_eq_self (fun _ => decomposition_of_mem_decompose) (marksInOrder_decompose t)

/-! ### Composition of decomposed text -/

/-- What holds while a starter is composed: the marks between, the last first, are in order, and the
rest is decomposed and in order behind them. -/
structure Between (between rest : Text) : Prop where
  marks : ∀ d ∈ between, d.combiningClass ≠ 0
  sorted : between.Pairwise fun d e => e.combiningClass ≤ d.combiningClass
  full : ∀ c ∈ between ++ rest, c.decomposition = [c]
  ordered : marksInOrder rest = true
  below : ∀ c, rest.head? = some c → c.combiningClass = 0 ∨
    ∀ d ∈ between, d.combiningClass ≤ c.combiningClass

section Between

variable {c : CodePoint} {between rest : Text}

lemma lt_of_not_isBlocked (h : Between between (c :: rest)) (hb : isBlocked c between = false) :
    ∀ d ∈ between, d.combiningClass < c.combiningClass := by
  intro d hd
  cases between with
  | nil => simp at hd
  | cons last earlier =>
    have hlast : last.combiningClass < c.combiningClass := by simpa [isBlocked] using hb
    rcases List.mem_cons.mp hd with rfl | hd
    · exact hlast
    · have hle := List.rel_of_pairwise_cons h.sorted hd
      omega

lemma Between.head_rest (h : Between between (c :: rest)) {e : CodePoint} (he : rest.head? = some e) :
    e.combiningClass = 0 ∨ c.combiningClass ≤ e.combiningClass := by
  cases rest with
  | nil => simp at he
  | cons d rest =>
    obtain rfl : d = e := by simpa using he
    exact ((marksInOrder_cons_cons c d rest).mp h.ordered).1

lemma Between.composite (h : Between between (c :: rest)) (hb : isBlocked c between = false) :
    Between between rest where
  marks := h.marks
  sorted := h.sorted
  full d hd := by
    rcases List.mem_append.mp hd with hd | hd
    · exact h.full d (List.mem_append_left _ hd)
    · exact h.full d (List.mem_append_right _ (List.mem_cons_of_mem c hd))
  ordered := marksInOrder_tail h.ordered
  below e he := by
    rcases h.head_rest he with h0 | hle
    · exact .inl h0
    · exact .inr fun d hd => Nat.le_trans (Nat.le_of_lt (lt_of_not_isBlocked h hb d hd)) hle

lemma Between.starter (h : Between between (c :: rest)) : Between [] rest where
  marks := by simp
  sorted := .nil
  full d hd := h.full d (List.mem_append_right _ (List.mem_cons_of_mem c hd))
  ordered := marksInOrder_tail h.ordered
  below := by simp

lemma Between.mark (h : Between between (c :: rest)) (hc : c.combiningClass ≠ 0) :
    Between (c :: between) rest where
  marks d hd := by
    rcases List.mem_cons.mp hd with rfl | hd
    · exact hc
    · exact h.marks d hd
  sorted := .cons ((h.below c rfl).resolve_left hc) h.sorted
  full d hd := by
    apply h.full d
    simp only [List.mem_append, List.mem_cons] at hd ⊢
    tauto
  ordered := marksInOrder_tail h.ordered
  below e he := by
    rcases h.head_rest he with h0 | hle
    · exact .inl h0
    · refine .inr fun d hd => ?_
      rcases List.mem_cons.mp hd with rfl | hd
      · exact hle
      · exact Nat.le_trans ((h.below c rfl).resolve_left hc d hd) hle

end Between

/-- A starter with marks between and decomposed text behind it decomposes, once composed, into what
it was composed from, up to the order of marks. -/
lemma decompose_composeAfter (s : CodePoint) {between rest : Text} (h : Between between rest) :
    (composeAfter s between rest).decompose =
      orderMarks (s.decomposition ++ (between.reverse ++ rest)) := by
  induction rest generalizing s between with
  | nil =>
    have hfull : between.reverse.flatMap decomposition = between.reverse :=
      flatMap_decomposition_eq_self fun d hd => h.full d (by simpa using hd)
    rw [composeAfter, decompose, List.flatMap_cons, hfull, List.append_nil]
  | cons c rest ih =>
    have hcfull : c.decomposition = [c] := h.full c (by simp)
    rw [composeAfter]
    split
    · next z hz =>
      have hb : isBlocked c between = false := by
        by_contra hb
        simp [hb] at hz
      have hcomp : s.composite? c = some z := by simpa [hb] using hz
      have hlt : ∀ d ∈ between.reverse,
          d.combiningClass ≠ 0 ∧ d.combiningClass < c.combiningClass := fun d hd =>
        ⟨h.marks d (by simpa using hd), lt_of_not_isBlocked h hb d (by simpa using hd)⟩
      rw [ih z (h.composite hb), decomposition_composite hcomp, List.append_assoc]
      exact orderMarks_append_congr _ (orderMarks_cons_append hlt rest)
    · split
      · next hs =>
        have hfull : between.reverse.flatMap decomposition = between.reverse :=
          flatMap_decomposition_eq_self fun d hd =>
            h.full d (List.mem_append_left _ (by simpa using hd))
        have hnext := ih c h.starter
        rw [hcfull] at hnext
        rw [List.cons_append, decompose, List.flatMap_cons, List.flatMap_append, hfull]
        apply orderMarks_append_congr
        apply orderMarks_append_congr
        exact hnext
      · next hs =>
        have hc : c.combiningClass ≠ 0 := by simpa [isStarter] using hs
        rw [ih s (h.mark hc), List.reverse_cons, List.append_assoc, List.singleton_append]

lemma decompose_composeMarks_eq_orderMarks {t : Text} (hfull : ∀ c ∈ t, c.decomposition = [c])
    (hordered : marksInOrder t = true) : (composeMarks t).decompose = orderMarks t := by
  induction t with
  | nil => rfl
  | cons c rest ih =>
    have hc : c.decomposition = [c] := hfull c (List.mem_cons_self ..)
    have hrestfull : ∀ d ∈ rest, d.decomposition = [d] := fun d hd =>
      hfull d (List.mem_cons_of_mem c hd)
    rw [composeMarks]
    split
    · have hbetween : Between [] rest := ⟨by simp, .nil, hrestfull, marksInOrder_tail hordered, by simp⟩
      rw [decompose_composeAfter c hbetween, hc]
      rfl
    · rw [decompose, List.flatMap_cons, hc]
      exact orderMarks_append_congr [c] (ih hrestfull (marksInOrder_tail hordered))

/-! ### The two forms of a text -/

lemma decompose_compose (t : Text) : t.compose.decompose = t.decompose := by
  have hordered := marksInOrder_decompose t
  rw [compose, decompose_composeMarks_eq_orderMarks (fun _ => decomposition_of_mem_decompose) hordered,
    orderMarks_eq_self hordered]

lemma compose_decompose (t : Text) : t.decompose.compose = t.compose := by
  rw [compose, decompose_decompose, compose]

lemma compose_compose (t : Text) : t.compose.compose = t.compose := by
  rw [compose, decompose_compose, compose]

end NameKeys.Proofs
