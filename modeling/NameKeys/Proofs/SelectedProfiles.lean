import NameKeys.Profile.Basic
import NameKeys.Proofs.Results

/-!
# Selected profiles

Options select a profile exactly if they do not contradict each other, and then it has these options
and no others. In a collection the options are read first, in order, so the first item that is no
option and names none decides, whatever the others are.
-/

namespace NameKeys.Proofs
open Profile (formOf? foldOf? select readOption)

/-! ### Options -/

def ContradictoryForms (os : List NormalizationOption) : Prop := .nfc ∈ os ∧ .nfd ∈ os

/-- Whether options choose both case foldings. -/
def ContradictoryFolds (os : List NormalizationOption) : Prop :=
  .caseFoldUnicode ∈ os ∧ .caseFoldAscii ∈ os

/-- Whether options contradict each other. -/
def Contradictory (os : List NormalizationOption) : Prop :=
  ContradictoryForms os ∨ ContradictoryFolds os

instance (os : List NormalizationOption) : Decidable (ContradictoryForms os) :=
  inferInstanceAs (Decidable (_ ∧ _))

instance (os : List NormalizationOption) : Decidable (ContradictoryFolds os) :=
  inferInstanceAs (Decidable (_ ∧ _))

instance (os : List NormalizationOption) : Decidable (Contradictory os) :=
  inferInstanceAs (Decidable (_ ∨ _))

section Options

variable {os : List NormalizationOption}

lemma mem_options_iff (p : Profile) (o : NormalizationOption) :
    o ∈ p.options ↔ formOf? o = some p.form ∨ foldOf? o = some p.fold := by
  obtain ⟨form, fold⟩ := p
  cases form <;> cases fold <;> cases o <;> decide

lemma chooses_findSome?_iff {α : Type} {choice? : NormalizationOption → Option α} {default : α}
    (hdefault : ∀ o, choice? o ≠ some default)
    (hinjective : ∀ a b c, choice? a = some c → choice? b = some c → a = b)
    (hunique : ∀ a ∈ os, ∀ b ∈ os, choice? a ≠ none → choice? b ≠ none → a = b)
    (o : NormalizationOption) :
    choice? o = some ((os.findSome? choice?).getD default) ↔ choice? o ≠ none ∧ o ∈ os := by
  cases hfound : os.findSome? choice? with
  | none =>
    have hnone := List.findSome?_eq_none_iff.mp hfound
    exact ⟨fun h => absurd h (hdefault o), fun h => absurd (hnone o h.2) h.1⟩
  | some c =>
    obtain ⟨a, ha, hchoice⟩ := List.exists_of_findSome?_eq_some hfound
    constructor
    · intro h
      rw [hinjective o a c h hchoice]
      exact ⟨Option.ne_none_iff_exists'.mpr ⟨c, hchoice⟩, ha⟩
    · rintro ⟨hsome, hmem⟩
      rw [hunique o hmem a ha hsome (Option.ne_none_iff_exists'.mpr ⟨c, hchoice⟩)]
      exact hchoice

lemma chooses_form_iff (h : ¬ ContradictoryForms os) (o : NormalizationOption) :
    formOf? o = some ((os.findSome? formOf?).getD .none) ↔ formOf? o ≠ none ∧ o ∈ os := by
  refine chooses_findSome?_iff ?_ ?_ ?_ o
  · intro o
    cases o <;> nofun
  · intro a b c ha hb
    cases a <;> cases b <;> cases ha <;> cases hb <;> rfl
  · intro a ha b hb hsome hsome'
    unfold ContradictoryForms at h
    cases a <;> cases b <;> simp_all [formOf?]

lemma chooses_fold_iff (h : ¬ ContradictoryFolds os) (o : NormalizationOption) :
    foldOf? o = some ((os.findSome? foldOf?).getD .none) ↔ foldOf? o ≠ none ∧ o ∈ os := by
  refine chooses_findSome?_iff ?_ ?_ ?_ o
  · intro o
    cases o <;> nofun
  · intro a b c ha hb
    cases a <;> cases b <;> cases ha <;> cases hb <;> rfl
  · intro a ha b hb hsome hsome'
    unfold ContradictoryFolds at h
    cases a <;> cases b <;> simp_all [foldOf?]

lemma select_of_contradictoryForms (h : ContradictoryForms os) :
    select os = .error .contradictoryForms :=
  if_pos h

lemma select_of_contradictoryFolds (hforms : ¬ ContradictoryForms os) (h : ContradictoryFolds os) :
    select os = .error .contradictoryFolds :=
  (if_neg hforms).trans (if_pos h)

lemma select_of_contradictory (h : Contradictory os) : ∃ error, select os = .error error := by
  by_cases hforms : ContradictoryForms os
  · exact ⟨_, select_of_contradictoryForms hforms⟩
  · exact ⟨_, select_of_contradictoryFolds hforms (h.resolve_left hforms)⟩

lemma select_of_not_contradictory (h : ¬ Contradictory os) :
    ∃ p, select os = .ok p ∧ ∀ o, o ∈ p.options ↔ o ∈ os := by
  obtain ⟨hforms, hfolds⟩ := not_or.mp h
  refine ⟨_, (if_neg hforms).trans (if_neg hfolds), fun o => ?_⟩
  rw [mem_options_iff, chooses_form_iff hforms, chooses_fold_iff hfolds, ← or_and_right]
  refine and_iff_right ?_
  cases o <;> simp [formOf?, foldOf?]

lemma select_cases (os : List NormalizationOption) :
    (ContradictoryForms os ∧ select os = .error .contradictoryForms) ∨
    (¬ ContradictoryForms os ∧ ContradictoryFolds os ∧
      select os = .error .contradictoryFolds) ∨
    (¬ Contradictory os ∧ ∃ p, select os = .ok p ∧ ∀ o, o ∈ p.options ↔ o ∈ os) := by
  by_cases hforms : ContradictoryForms os
  · exact .inl ⟨hforms, select_of_contradictoryForms hforms⟩
  by_cases hfolds : ContradictoryFolds os
  · exact .inr (.inl ⟨hforms, hfolds, select_of_contradictoryFolds hforms hfolds⟩)
  have hconsistent : ¬ Contradictory os := not_or.mpr ⟨hforms, hfolds⟩
  exact .inr (.inr ⟨hconsistent, select_of_not_contradictory hconsistent⟩)

end Options

/-! ### Collections -/

section Collections

/-- The option that an item is or names, if there is one. -/
def optionOf? : Value → Option NormalizationOption
  | .option o => some o
  | .text name => NormalizationOption.parse? name
  | _ => none

lemma readOption_eq_ok_iff {item : Value} {o : NormalizationOption} :
    readOption item = .ok o ↔ optionOf? item = some o := by
  cases item with
  | option p => simp [readOption, optionOf?]
  | text name =>
    simp only [readOption, Profile.readOptionName, optionOf?]
    cases NormalizationOption.parse? name <;> simp
  | _ => simp [readOption, Profile.readOptionName, optionOf?]

lemma readOption_unknown {name : Text} (h : NormalizationOption.parse? name = none) :
    readOption (.text name) = .error (.configuration (.unknownOption name)) := by
  simp only [readOption, Profile.readOptionName, h]

variable {items : List Value} {os : List NormalizationOption}

lemma create_list_of_options (hitems : items.map optionOf? = os.map some) :
    Profile.create (.list items) = (select os).mapError .configuration := by
  have hread : items.mapM readOption = .ok os :=
    mapM_eq_ok (fun item o => readOption_eq_ok_iff) hitems
  change (items.mapM readOption).bind _ = _
  rw [hread]
  simp only [Except.bind]
  cases select os <;> rfl

lemma create_list_of_fault {before : List Value}
    (hbefore : ∀ item ∈ before, (optionOf? item).isSome = true) {item : Value}
    {error : OptionsError} (hitem : readOption item = .error error) (rest : List Value) :
    Profile.create (.list (before ++ item :: rest)) = .error error := by
  have hread : ∀ item ∈ before, ∃ o, readOption item = .ok o := fun item hmem => by
    obtain ⟨o, ho⟩ := Option.isSome_iff_exists.mp (hbefore item hmem)
    exact ⟨o, readOption_eq_ok_iff.mpr ho⟩
  change ((before ++ item :: rest).mapM readOption).bind _ = _
  rw [mapM_eq_error hread hitem rest]
  rfl

end Collections

end NameKeys.Proofs
