import NameKeys.Proofs.PatternKeys
import NameKeys.Proofs.QuickCheck

/-!
# The two forms name the same things

Each form of a text determines the other, so without folding the two equate the same names, and under
a profile with a form every canonical spelling of a name stands for the name itself.
-/

namespace NameKeys.Proofs
open Text

def spellings (t : Text) : List Text :=
  [t, CanonicalForm.compose.apply t, CanonicalForm.decompose.apply t]

lemma apply_apply {f g : CanonicalForm} (hf : f ≠ .none) (hg : g ≠ .none) (t : Text) :
    f.apply (g.apply t) = f.apply t := by
  simp only [apply_eq_transform]
  cases f with
  | none => exact absurd rfl hf
  | compose =>
    cases g with
    | none => exact absurd rfl hg
    | compose => exact compose_compose t
    | decompose => exact compose_decompose t
  | decompose =>
    cases g with
    | none => exact absurd rfl hg
    | compose => exact decompose_compose t
    | decompose => exact decompose_decompose t

lemma apply_eq_apply_iff {f g : CanonicalForm} (hf : f ≠ .none) (hg : g ≠ .none) (a b : Text) :
    f.apply a = f.apply b ↔ g.apply a = g.apply b := by
  constructor
  · intro h
    rw [← apply_apply hg hf a, h, apply_apply hg hf b]
  · intro h
    rw [← apply_apply hf hg a, h, apply_apply hf hg b]

lemma key_of_mem_spellings {f : CanonicalForm} (hf : f ≠ .none) (fold : CaseFold) {t u : Text}
    (hu : u ∈ spellings t) : (Profile.mk f fold).key u = (Profile.mk f fold).key t := by
  have hform : f.apply u = f.apply t := by
    simp only [spellings, List.mem_cons, List.not_mem_nil, or_false] at hu
    rcases hu with rfl | rfl | rfl
    · rfl
    · exact apply_apply hf (by decide) t
    · exact apply_apply hf (by decide) t
  rw [Profile.key, Profile.key, hform]

/-- A form of a form is the form of the text. So the two forms equate the same names without folding,
and with any folding the canonical spellings of a name share its key and match each other, whatever
the pattern has been asked before. -/
theorem canonical_spellings_are_one_name {f g : CanonicalForm} (hf : f ≠ .none) (hg : g ≠ .none)
    (fold : CaseFold) (t a b : Text) :
    f.apply (g.apply t) = f.apply t ∧
    (Profile.mk .compose .none).equivalent a b = (Profile.mk .decompose .none).equivalent a b ∧
    ∀ u ∈ spellings t, ∀ v ∈ spellings t,
      (Profile.mk f fold).key u = (Profile.mk f fold).key v ∧
      ∀ before : List Value,
        ((afterCandidates (.compile (.mk f fold) u) before).matchValue (.text v)).1 = .ok true := by
  refine ⟨apply_apply hf hg t, ?_, ?_⟩
  · have hiff := apply_eq_apply_iff (f := .compose) (g := .decompose) (by decide) (by decide) a b
    exact decide_eq_decide.mpr hiff
  · intro u hu v hv
    have hkey : (Profile.mk f fold).key u = (Profile.mk f fold).key v := by
      rw [key_of_mem_spellings hf fold hu, key_of_mem_spellings hf fold hv]
    exact ⟨hkey, fun before => (matchValue_afterCandidates_iff _ u v before).mpr hkey.symm⟩

theorem canonical_spellings_of_dotted_long_s :
    spellings [0x17F, 0x307, 0x323] =
      [[0x17F, 0x307, 0x323], [0x1E9B, 0x323], [0x17F, 0x323, 0x307]] ∧
    (Profile.mk .decompose .unicode).key [0x1E9B, 0x323] =
      (Profile.mk .decompose .unicode).key [0x17F, 0x323, 0x307] := by
  have hspellings : spellings [0x17F, 0x307, 0x323] =
      [[0x17F, 0x307, 0x323], [0x1E9B, 0x323], [0x17F, 0x323, 0x307]] := by decide +kernel
  have hkeys := (canonical_spellings_are_one_name (f := .decompose) (g := .compose) (by decide)
    (by decide) .unicode [0x17F, 0x307, 0x323] [] []).2.2
  rw [hspellings] at hkeys
  exact ⟨hspellings, (hkeys _ (by simp) _ (by simp)).1⟩

end NameKeys.Proofs
