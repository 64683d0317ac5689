import NameKeys.Proofs.StableKeys

/-!
# The quick check is exact

Text that its transformation gives back is found to be in the form. What the quick check refuses
does not come out of a transformation: composed text has its marks in order, and what composes is a
starter that may stand in composed text.
-/

namespace NameKeys.Proofs
open Text hiding ofNat
open CodePoint
open CanonicalForm (marksInOrder verdictOn)

/-! ### Checks of the tables -/

/-- What is checked of composites and of what cannot stand in composed text. -/
structure CheckedComposites : Prop where
  compositesOccur : ∀ e ∈ Unicode.compositions, Unicode.composedNo e.2.2 = false
  compositesStart : ∀ e ∈ Unicode.compositions, (ofNat e.2.2).isStarter = true
  compositesBounded : ∀ e ∈ Unicode.compositions, e.2.2 < 0x110000
  syllablesOccur : ∀ r ∈ Unicode.composedNoRanges, r.2 < 0xAC00 ∨ 0xD7A3 < r.1
  excludedDecompose : ∀ r ∈ Unicode.composedNoRanges, ∀ i < r.2 + 1 - r.1,
    (ofNat (r.1 + i)).decomposition ≠ [ofNat (r.1 + i)]

lemma checkedComposites : CheckedComposites where
  compositesOccur := by decide +kernel
  compositesStart := by decide +kernel
  compositesBounded := by decide +kernel
  syllablesOccur := by decide +kernel
  excludedDecompose := by decide +kernel

open CheckedComposites

lemma composedNo_eq_false {c : CodePoint} (h : c.decomposition = [c]) :
    Unicode.composedNo c.val = false := by
  rw [Bool.eq_false_iff]
  intro hno
  obtain ⟨r, hr, hfirst, hlast⟩ := Unicode.SearchTree.exists_range_of_covers hno
  have hrange := excludedDecompose checkedComposites r hr
  exact decomposition_ne_of_range hrange hfirst hlast h

lemma composedNo_syllable {l v t : Nat} (hl : l < 19) (hv : v < 21) (ht : t < 28) :
    Unicode.composedNo (syllable l v t).val = false := by
  rw [Bool.eq_false_iff]
  intro hno
  obtain ⟨r, hr, hfirst, hlast⟩ := Unicode.SearchTree.exists_range_of_covers hno
  have hrange := syllablesOccur checkedComposites r hr
  rw [syllable_val hl hv ht] at hfirst hlast
  omega

lemma isStarter_syllable {l v t : Nat} (hl : l < 19) (hv : v < 21) (ht : t < 28) :
    (syllable l v t).isStarter = true := by
  refine isStarter_of_isHangul ?_
  rw [syllable_val hl hv ht]
  exact .inr (by omega)

lemma composite?_occurs {x y z : CodePoint} (h : x.composite? y = some z) :
    z.isStarter = true ∧ Unicode.composedNo z.val = false := by
  rcases composite?_cases h with ⟨l, v, hl, hv, -, -, rfl⟩ |
    ⟨l, v, t, hl, hv, -, ht, -, -, rfl⟩ | ⟨n, hmem, rfl⟩
  · exact ⟨isStarter_syllable hl hv (by omega), composedNo_syllable hl hv (by omega)⟩
  · exact ⟨isStarter_syllable hl hv ht, composedNo_syllable hl hv ht⟩
  · have hoccurs := compositesOccur checkedComposites _ hmem
    rw [val_ofNat (compositesBounded checkedComposites _ hmem)]
    exact ⟨compositesStart checkedComposites _ hmem, hoccurs⟩

/-! ### Composed text -/

section Composed

variable {s c : CodePoint} {between rest t u : Text}

lemma composeAfter_cons_cases (s c : CodePoint) (between rest : Text) :
    (∃ z, isBlocked c between = false ∧ s.composite? c = some z ∧
      composeAfter s between (c :: rest) = composeAfter z between rest) ∨
    (isBlocked c between = true ∨ s.composite? c = none) ∧
      (c.isStarter = true ∧
          composeAfter s between (c :: rest) = s :: between.reverse ++ composeAfter c [] rest ∨
        c.isStarter = false ∧
          composeAfter s between (c :: rest) = composeAfter s (c :: between) rest) := by
  rw [composeAfter]
  cases hblocked : isBlocked c between with
  | true => cases hstarter : c.isStarter <;> simp
  | false =>
    cases hz : s.composite? c with
    | some z => simp
    | none => cases hstarter : c.isStarter <;> simp

lemma exists_composeAfter_eq_cons (hs : s.isStarter = true) (between rest : Text) :
    ∃ z u, composeAfter s between rest = z :: u ∧ z.isStarter = true := by
  induction rest generalizing s between with
  | nil => exact ⟨s, _, rfl, hs⟩
  | cons c rest ih =>
    rcases composeAfter_cons_cases s c between rest with ⟨z, -, hz, heq⟩ |
      ⟨-, ⟨-, heq⟩ | ⟨-, heq⟩⟩
    · rw [heq]
      exact ih (composite?_occurs hz).1 between
    · exact ⟨s, _, heq, hs⟩
    · rw [heq]
      exact ih hs (c :: between)

lemma marksInOrder_append_starter (hs : s.isStarter = true) (ht : marksInOrder t = true)
    (hu : marksInOrder (s :: u) = true) : marksInOrder (t ++ s :: u) = true := by
  have hself : orderMarks (t ++ s :: u) = t ++ s :: u := by
    rw [orderMarks_append_starter hs, orderMarks_eq_self ht,
      orderMarks_eq_self (marksInOrder_tail hu)]
  rw [← hself]
  exact marksInOrder_orderMarks _

lemma marksInOrder_of_pairwise (h : t.Pairwise fun d e => d.combiningClass ≤ e.combiningClass) :
    marksInOrder t = true := by
  induction t with
  | nil => rfl
  | cons c rest ih =>
    cases rest with
    | nil => rfl
    | cons d rest =>
      have hle := List.rel_of_pairwise_cons h (List.mem_cons_self ..)
      exact (marksInOrder_cons_cons c d rest).mpr ⟨.inr hle, ih h.of_cons⟩

lemma Between.marksInOrder (h : Between between rest) (hs : s.isStarter = true) :
    marksInOrder (s :: between.reverse) = true := by
  refine marksInOrder_of_pairwise (.cons (fun d _ => ?_) (List.pairwise_reverse.mpr h.sorted))
  rw [(isStarter_iff s).mp hs]
  exact Nat.zero_le _

lemma marksInOrder_composeAfter (hs : s.isStarter = true) (h : Between between rest) :
    marksInOrder (composeAfter s between rest) = true := by
  induction rest generalizing s between with
  | nil => exact h.marksInOrder hs
  | cons c rest ih =>
    rcases composeAfter_cons_cases s c between rest with ⟨z, hb, hz, heq⟩ |
      ⟨-, ⟨hc, heq⟩ | ⟨hc, heq⟩⟩
    · rw [heq]
      exact ih (composite?_occurs hz).1 (h.composite hb)
    · obtain ⟨z, u, hzu, hz⟩ := exists_composeAfter_eq_cons hc [] rest
      have hnext := ih hc h.starter
      rw [hzu] at hnext
      rw [heq, hzu]
      exact marksInOrder_append_starter hz (h.marksInOrder hs) hnext
    · rw [heq]
      exact ih hs (h.mark ((isStarter_eq_false_iff c).mp hc))

lemma composedNo_of_mem_composeAfter (hs : Unicode.composedNo s.val = false)
    (h : ∀ d ∈ between ++ rest, d.decomposition = [d]) :
    ∀ d ∈ composeAfter s between rest, Unicode.composedNo d.val = false := by
  induction rest generalizing s between with
  | nil =>
    intro d hd
    rcases List.mem_cons.mp hd with rfl | hd
    · exact hs
    · exact composedNo_eq_false (h d (List.mem_append_left _ (List.mem_reverse.mp hd)))
  | cons c rest ih =>
    have hc : c.decomposition = [c] := h c (List.mem_append_right _ (List.mem_cons_self ..))
    have hrest : ∀ d ∈ rest, d.decomposition = [d] := fun d hd =>
      h d (List.mem_append_right _ (List.mem_cons_of_mem c hd))
    have hbetween : ∀ d ∈ between, d.decomposition = [d] := fun d hd =>
      h d (List.mem_append_left _ hd)
    rcases composeAfter_cons_cases s c between rest with ⟨z, -, hz, heq⟩ |
      ⟨-, ⟨-, heq⟩ | ⟨-, heq⟩⟩
    · rw [heq]
      exact ih (composite?_occurs hz).2 (List.forall_mem_append.mpr ⟨hbetween, hrest⟩)
    · rw [heq, List.cons_append]
      refine List.forall_mem_cons.mpr ⟨hs, List.forall_mem_append.mpr ⟨fun d hd => ?_, ?_⟩⟩
      · exact composedNo_eq_false (hbetween d (List.mem_reverse.mp hd))
      · exact ih (composedNo_eq_false hc) hrest
    · rw [heq]
      exact ih hs (List.forall_mem_append.mpr ⟨List.forall_mem_cons.mpr ⟨hc, hbetween⟩, hrest⟩)

lemma composeMarks_occurs (hfull : ∀ c ∈ t, c.decomposition = [c])
    (hordered : marksInOrder t = true) :
    marksInOrder (composeMarks t) = true ∧
      ∀ c ∈ composeMarks t, Unicode.composedNo c.val = false := by
  induction t with
  | nil => exact ⟨rfl, List.forall_mem_nil _⟩
  | cons c rest ih =>
    have hc := List.forall_mem_cons.mp hfull
    have hrest := marksInOrder_tail hordered
    obtain ⟨ihorder, ihoccurs⟩ := ih hc.2 hrest
    rw [composeMarks]
    split
    · next hs =>
      exact ⟨marksInOrder_composeAfter hs ⟨by simp, .nil, hc.2, hrest, by simp⟩,
        composedNo_of_mem_composeAfter (composedNo_eq_false hc.1) hc.2⟩
    · refine ⟨?_, List.forall_mem_cons.mpr ⟨composedNo_eq_false hc.1, ihoccurs⟩⟩
      cases rest with
      | nil => rfl
      | cons d rest =>
        have hd := ((marksInOrder_cons_cons c d rest).mp hordered).1
        rw [composeMarks] at ihorder ⊢
        split
        · next hs =>
          obtain ⟨z, u, hzu, hz⟩ := exists_composeAfter_eq_cons hs [] rest
          rw [if_pos hs, hzu] at ihorder
          rw [hzu]
          exact (marksInOrder_cons_cons c z u).mpr ⟨.inl ((isStarter_iff z).mp hz), ihorder⟩
        · next hs =>
          rw [if_neg hs] at ihorder
          exact (marksInOrder_cons_cons c d _).mpr ⟨hd, ihorder⟩

end Composed

/-! ### Both forms -/

lemma quickCheck_ne_no {form : CanonicalForm} {t : Text} (hordered : marksInOrder t = true)
    (hoccurs : ∀ c ∈ t, form.verdictOn c ≠ .no) : form.quickCheck t ≠ .no := by
  have hany : (t.any fun c => form.verdictOn c = .no) = false := by
    rw [List.any_eq_false]
    exact fun c hc heq => hoccurs c hc (of_decide_eq_true heq)
  rw [CanonicalForm.quickCheck, hordered, hany, if_neg (by decide), if_neg (by decide)]
  split <;> decide

lemma quickCheck_compose_ne_no (t : Text) : CanonicalForm.compose.quickCheck (compose t) ≠ .no := by
  obtain ⟨hordered, hoccurs⟩ := composeMarks_occurs (fun _ => decomposition_of_mem_decompose)
    (marksInOrder_decompose t)
  refine quickCheck_ne_no hordered fun c hc => ?_
  rw [verdictOn, hoccurs c hc, if_neg (by decide)]
  split <;> decide

lemma holds_iff {form : CanonicalForm} (hform : form ≠ .none) (t : Text) :
    form.holds t = true ↔ form.transform t = t := by
  refine ⟨transform_of_holds, fun h => ?_⟩
  cases form with
  | none => exact absurd rfl hform
  | decompose => exact holds_of_passes (passes_decompose h)
  | compose =>
    have hno := quickCheck_compose_ne_no t
    rw [show compose t = t from h] at hno
    rw [CanonicalForm.holds]
    split
    · rfl
    · next hcheck => exact absurd hcheck hno
    · exact decide_eq_true h

end NameKeys.Proofs
