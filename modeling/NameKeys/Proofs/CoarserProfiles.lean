import NameKeys.Matching.Key
import NameKeys.Proofs.AsciiLetters

/-!
# Coarser profiles

A profile is coarser than another if it equates all names that the other does. That is so where its
key can be computed from the other's key: folding more of the case after the same form, or folding
ASCII letters after decomposition in place of any other form. Names of ASCII characters have no form
to differ in.
-/

namespace NameKeys.Proofs
open CodePoint
open Text (foldCase foldAsciiCase decompose)

/-- Whether all names that are equivalent under the first profile are so under the second. -/
def Refines (p q : Profile) : Prop :=
  ∀ a b, p.equivalent a b = true → q.equivalent a b = true

lemma equivalent_iff (p : Profile) (a b : Text) : p.equivalent a b = true ↔ p.key a = p.key b := by
  simp [Profile.equivalent]

lemma refines_of_key {p q : Profile} {g : Text → Text} (h : ∀ t, q.key t = g (p.key t)) :
    Refines p q := by
  intro a b hab
  rw [equivalent_iff] at hab ⊢
  rw [h, h, hab]

/-! ### More of the case folded -/

lemma refines_ascii (form : CanonicalForm) : Refines ⟨form, .none⟩ ⟨form, .ascii⟩ :=
  refines_of_key (g := foldAsciiCase) fun _ => rfl

lemma refines_unicode (form : CanonicalForm) : Refines ⟨form, .ascii⟩ ⟨form, .unicode⟩ :=
  refines_of_key (g := foldCase) fun t => (foldCase_foldAsciiCase (form.apply t)).symm

/-! ### ASCII letters folded after decomposition -/

lemma decompose_transform (form : CanonicalForm) (t : Text) :
    decompose (form.transform t) = decompose t := by
  cases form with
  | none => rfl
  | compose => exact decompose_compose t
  | decompose => exact decompose_decompose t

lemma decompose_ascii_key_key (form : CanonicalForm) (t : Text) :
    (Profile.mk .decompose .ascii).key ((Profile.mk form .ascii).key t) =
      (Profile.mk .decompose .ascii).key t := by
  change foldAsciiCase (CanonicalForm.decompose.apply (foldAsciiCase (form.apply t))) =
    foldAsciiCase (CanonicalForm.decompose.apply t)
  rw [apply_eq_transform, apply_eq_transform, apply_eq_transform]
  calc foldAsciiCase (decompose (foldAsciiCase (form.transform t)))
      = foldAsciiCase (decompose (form.transform t)) := foldAsciiCase_decompose_foldAsciiCase _
    _ = foldAsciiCase (decompose t) := by rw [decompose_transform]

lemma refines_decompose_ascii (form : CanonicalForm) :
    Refines ⟨form, .ascii⟩ ⟨.decompose, .ascii⟩ :=
  refines_of_key (g := (Profile.mk .decompose .ascii).key) fun t =>
    (decompose_ascii_key_key form t).symm

lemma not_refines_compose_ascii : ¬Refines ⟨.none, .ascii⟩ ⟨.compose, .ascii⟩ := by
  intro h
  have heq := h [0x48, 0x331] [0x68, 0x331] (by decide +kernel)
  revert heq
  decide +kernel

/-! ### Names of ASCII characters -/

section AsciiNames

variable {t : Text} (h : ∀ c ∈ t, c.isAscii = true)
include h

lemma marksInOrder_of_isAscii : CanonicalForm.marksInOrder t = true := by
  induction t with
  | nil => rfl
  | cons c rest ih =>
    have hrest := ih fun d hd => h d (List.mem_cons_of_mem c hd)
    cases rest with
    | nil => rfl
    | cons d rest =>
      have hd := isStarter_of_isAscii (h d (by simp))
      exact (marksInOrder_cons_cons c d rest).mpr ⟨.inl ((isStarter_iff d).mp hd), hrest⟩

lemma apply_of_isAscii (form : CanonicalForm) : form.apply t = t := by
  have hpasses : Passes form t :=
    ⟨marksInOrder_of_isAscii h, fun c hc => verdictOn_of_isAscii (h c hc) form⟩
  rw [apply_eq_transform, transform_eq_self hpasses]

lemma foldCase_of_isAscii : foldCase t = foldAsciiCase t := by
  induction t with
  | nil => rfl
  | cons c rest ih =>
    have hrest := ih fun d hd => h d (List.mem_cons_of_mem c hd)
    rw [foldCase_cons, folding_of_isAscii (h c (List.mem_cons_self ..)), hrest]
    rfl

end AsciiNames

/-- Folding more case makes a profile coarser, whatever its form is. Folding ASCII letters after
decomposition is coarser than folding them after any form, which does not hold of composition. On
names of ASCII characters all forms and both foldings give the same key. -/
theorem profiles_ordered_by_coarseness (form : CanonicalForm) :
    Refines ⟨form, .none⟩ ⟨form, .ascii⟩ ∧
    Refines ⟨form, .ascii⟩ ⟨form, .unicode⟩ ∧
    Refines ⟨form, .ascii⟩ ⟨.decompose, .ascii⟩ ∧
    ¬Refines ⟨.none, .ascii⟩ ⟨.compose, .ascii⟩ ∧
    ∀ t : Text, (∀ c ∈ t, c.isAscii = true) →
      (∀ (other : CanonicalForm) (fold : CaseFold),
        (Profile.mk form fold).key t = (Profile.mk other fold).key t) ∧
      (Profile.mk form .ascii).key t = (Profile.mk form .unicode).key t := by
  refine ⟨refines_ascii form, refines_unicode form, refines_decompose_ascii form,
    not_refines_compose_ascii, ?_⟩
  intro t ht
  have hkey : ∀ (form : CanonicalForm) (fold : CaseFold),
      (Profile.mk form fold).key t = fold.apply t := fun form fold =>
    congrArg fold.apply (apply_of_isAscii ht form)
  refine ⟨fun other fold => ?_, ?_⟩
  · rw [hkey, hkey]
  · rw [hkey, hkey]
    exact (foldCase_of_isAscii ht).symm

theorem coarser_profiles_of_accented_capital :
    (Profile.mk .compose .ascii).equivalent [0xC9, 0x41] [0x45, 0x301, 0x61] = true ∧
    (Profile.mk .compose .unicode).equivalent [0xC9, 0x41] [0x45, 0x301, 0x61] = true ∧
    (Profile.mk .decompose .ascii).equivalent [0xC9, 0x41] [0x45, 0x301, 0x61] = true ∧
    (Profile.mk .compose .ascii).key [0x46, 0x6F, 0x6F] =
      (Profile.mk .compose .unicode).key [0x46, 0x6F, 0x6F] := by
  have hsame : (Profile.mk .compose .ascii).equivalent [0xC9, 0x41] [0x45, 0x301, 0x61] = true := by
    decide +kernel
  have hascii : ([0x46, 0x6F, 0x6F] : Text).all isAscii = true := by decide +kernel
  obtain ⟨-, hunicode, hdecompose, -, hnames⟩ := profiles_ordered_by_coarseness .compose
  exact ⟨hsame, hunicode _ _ hsame, hdecompose _ _ hsame,
    (hnames [0x46, 0x6F, 0x6F] (List.all_eq_true.mp hascii)).2⟩

end NameKeys.Proofs
