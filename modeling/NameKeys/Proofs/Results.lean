import Mathlib.Tactic.Lemma
import Mathlib.Tactic.Basic

/-!
# Results that may be errors

When a computation that may fail has a result: in one step, in two steps one after the other, and in
a list of steps of which the first failure decides.
-/

namespace NameKeys.Proofs

variable {ε δ α β : Type}

section Steps

variable {x : Except ε α} {a : α} {b : β}

lemma mapError_eq_ok_iff {f : ε → δ} : x.mapError f = .ok a ↔ x = .ok a := by
  cases x with
  | error e => exact iff_of_false nofun nofun
  | ok b => exact ⟨fun h => congrArg _ (Except.ok.inj h), fun h => congrArg _ (Except.ok.inj h)⟩

lemma bind_eq_ok_iff {f : α → Except ε β} : x >>= f = .ok b ↔ ∃ a, x = .ok a ∧ f a = .ok b := by
  cases x with
  | error e => exact iff_of_false nofun fun ⟨_, h, _⟩ => nomatch h
  | ok a => exact ⟨fun h => ⟨a, rfl, h⟩, fun ⟨_, h, hf⟩ => Except.ok.inj h ▸ hf⟩

lemma eq_ok_of_toOption (h : x.toOption = some a) : x = .ok a := by
  cases x with
  | error e => cases h
  | ok b => exact congrArg _ (Option.some.inj h)

lemma exists_eq_error_of_toOption (h : x.toOption.isNone = true) : ∃ e, x = .error e := by
  cases x with
  | error e => exact ⟨e, rfl⟩
  | ok b => cases h

lemma exists_eq_error_of_forall_ne (h : ∀ a, x ≠ .ok a) : ∃ e, x = .error e := by
  cases x with
  | error e => exact ⟨e, rfl⟩
  | ok a => exact absurd rfl (h a)

instance decidableExistsOk (x : Except ε α) (P : α → Prop) [DecidablePred P] :
    Decidable (∃ a, x = .ok a ∧ P a) :=
  match x with
  | .ok a => decidable_of_iff (P a)
    ⟨fun h => ⟨a, rfl, h⟩, fun ⟨_, hother, h⟩ => Except.ok.inj hother ▸ h⟩
  | .error _ => .isFalse fun ⟨_, hother, _⟩ => nomatch hother

end Steps

section Lists

variable {f : α → Except ε β}

lemma mapM_eq_error {before : List α} (hbefore : ∀ a ∈ before, ∃ b, f a = .ok b) {a : α} {e : ε}
    (ha : f a = .error e) (rest : List α) : (before ++ a :: rest).mapM f = .error e := by
  induction before with
  | nil =>
    rw [List.nil_append, List.mapM_cons, ha]
    rfl
  | cons first before ih =>
    obtain ⟨b, hb⟩ := hbefore first (List.mem_cons_self ..)
    rw [List.cons_append, List.mapM_cons, hb,
      ih fun other hother => hbefore other (List.mem_cons_of_mem _ hother)]
    rfl

lemma mapM_eq_ok {g? : α → Option β} (hf : ∀ a b, f a = .ok b ↔ g? a = some b) {as : List α}
    {bs : List β} (h : as.map g? = bs.map some) : as.mapM f = .ok bs := by
  induction as generalizing bs with
  | nil =>
    cases bs with
    | nil => rfl
    | cons b bs => cases h
  | cons a as ih =>
    cases bs with
    | nil => cases h
    | cons b bs =>
      obtain ⟨hhead, htail⟩ := List.cons.inj h
      rw [List.mapM_cons, (hf a b).mpr hhead, ih htail]
      rfl

lemma exists_eq_error_of_mapM {as : List α} {e : ε} (h : as.mapM f = .error e) :
    ∃ a ∈ as, f a = .error e := by
  induction as with
  | nil => cases h
  | cons a as ih =>
    rw [List.mapM_cons] at h
    cases ha : f a with
    | error other =>
      rw [ha] at h
      exact ⟨a, List.mem_cons_self .., ha.trans (congrArg _ (Except.error.inj h))⟩
    | ok b =>
      rw [ha] at h
      cases hrest : as.mapM f with
      | error other =>
        rw [hrest] at h
        obtain ⟨later, hmem, hlater⟩ := ih (hrest.trans (congrArg _ (Except.error.inj h)))
        exact ⟨later, List.mem_cons_of_mem _ hmem, hlater⟩
      | ok bs =>
        rw [hrest] at h
        cases h

end Lists

end NameKeys.Proofs
