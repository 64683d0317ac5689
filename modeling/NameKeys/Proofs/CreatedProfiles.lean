import NameKeys.Proofs.SelectedProfiles

/-!
# Profiles from collections of options

A collection of options and of their names is read from its first item on. The first name that is
unknown is reported, whatever else is wrong. Otherwise two forms are reported before two foldings,
and without either there is the profile that has exactly these options. So only the set of options
matters: not their order, nor how often they occur, nor how they are spelled.
-/

namespace NameKeys.Proofs
open Profile (formOf? foldOf? select create optionItems)

/-! ### Sets of options -/

section Sets

variable {os os' : List NormalizationOption} {p p' : Profile}

lemma eq_of_options_iff (h : ∀ o, o ∈ p.options ↔ o ∈ p'.options) : p = p' := by
  obtain ⟨form, fold⟩ := p
  obtain ⟨form', fold'⟩ := p'
  simp only [mem_options_iff] at h
  have hform : form = form' := by
    have hnfc := h .nfc
    have hnfd := h .nfd
    cases form <;> cases form' <;> simp_all [formOf?, foldOf?]
  have hfold : fold = fold' := by
    have hunicode := h .caseFoldUnicode
    have hascii := h .caseFoldAscii
    cases fold <;> cases fold' <;> simp_all [formOf?, foldOf?]
  rw [hform, hfold]

lemma not_contradictory_options (p : Profile) : ¬ Contradictory p.options := by
  obtain ⟨form, fold⟩ := p
  cases form <;> cases fold <;> decide

lemma select_congr (h : ∀ o, o ∈ os ↔ o ∈ os') : select os = select os' := by
  have hforms : ContradictoryForms os ↔ ContradictoryForms os' := and_congr (h _) (h _)
  have hfolds : ContradictoryFolds os ↔ ContradictoryFolds os' := and_congr (h _) (h _)
  by_cases hform : ContradictoryForms os
  · rw [select_of_contradictoryForms hform, select_of_contradictoryForms (hforms.mp hform)]
  have hform' : ¬ ContradictoryForms os' := fun hother => hform (hforms.mpr hother)
  by_cases hfold : ContradictoryFolds os
  · rw [select_of_contradictoryFolds hform hfold,
      select_of_contradictoryFolds hform' (hfolds.mp hfold)]
  have hfold' : ¬ ContradictoryFolds os' := fun hother => hfold (hfolds.mpr hother)
  obtain ⟨p, hp, hoptions⟩ := select_of_not_contradictory (not_or.mpr ⟨hform, hfold⟩)
  obtain ⟨p', hp', hoptions'⟩ := select_of_not_contradictory (not_or.mpr ⟨hform', hfold'⟩)
  have hsame : p = p' := by
    apply eq_of_options_iff
    intro o
    rw [hoptions, hoptions', h]
  rw [hp, hp', hsame]

lemma select_options (p : Profile) : select p.options = .ok p := by
  obtain ⟨p', hp', hoptions⟩ := select_of_not_contradictory (not_contradictory_options p)
  rw [hp', eq_of_options_iff hoptions]

end Sets

/-! ### Reading collections -/

section Collections

variable {options : Value} {items : List Value}

/-- Whether a value is an option or a text, which may name one. -/
def IsOptionOrText : Value → Prop
  | .option _ | .text _ => True
  | _ => False

/-- The options that the items of a collection are or name. -/
def optionsAmong (items : List Value) : List NormalizationOption := items.filterMap optionOf?

/-- Whether all items of a collection are options or name some. -/
def AllKnown (items : List Value) : Prop := ∀ item ∈ items, optionOf? item ≠ none

instance (items : List Value) : Decidable (AllKnown items) :=
  inferInstanceAs (Decidable (∀ item ∈ items, optionOf? item ≠ none))

lemma map_optionOf?_of_allKnown (h : AllKnown items) :
    items.map optionOf? = (optionsAmong items).map some := by
  induction items with
  | nil => rfl
  | cons item rest ih =>
    obtain ⟨o, ho⟩ := Option.ne_none_iff_exists'.mp (h item (List.mem_cons_self ..))
    have hrest : AllKnown rest := fun other hother => h other (List.mem_cons_of_mem item hother)
    rw [List.map_cons, ih hrest, ho]
    simp only [optionsAmong, List.filterMap_cons, ho, List.map_cons]

lemma map_optionOf?_option (os : List NormalizationOption) :
    (os.map Value.option).map optionOf? = os.map some := by
  rw [List.map_map]
  rfl

lemma exists_first_unknown (h : ¬ AllKnown items) :
    ∃ before item rest, items = before ++ item :: rest ∧ AllKnown before ∧
      optionOf? item = none := by
  induction items with
  | nil => exact absurd (fun item hitem => absurd hitem List.not_mem_nil) h
  | cons item rest ih =>
    by_cases hitem : optionOf? item = none
    · exact ⟨[], item, rest, rfl, fun other hother => absurd hother List.not_mem_nil, hitem⟩
    · have hrest : ¬ AllKnown rest := by
        intro hknown
        apply h
        intro other hother
        rcases List.mem_cons.mp hother with rfl | hother
        · exact hitem
        · exact hknown other hother
      obtain ⟨before, other, rest, rfl, hbefore, hother⟩ := ih hrest
      refine ⟨item :: before, other, rest, rfl, ?_, hother⟩
      intro known hknown
      rcases List.mem_cons.mp hknown with rfl | hknown
      · exact hitem
      · exact hbefore known hknown

lemma create_eq_of_items (hitems : optionItems options = .ok items) :
    create options = create (.list items) := by
  unfold create
  rw [hitems]
  rfl

lemma create_of_allKnown (hitems : optionItems options = .ok items) (hknown : AllKnown items) :
    create options = (select (optionsAmong items)).mapError .configuration := by
  rw [create_eq_of_items hitems]
  exact create_list_of_options (map_optionOf?_of_allKnown hknown)

/-! ### Results -/

/-- Whether a profile is refused for an error with a context. -/
def IsRefusedFor (error : ConfigurationError) (context : Table)
    (result : Except OptionsError Profile) : Prop :=
  result = .error (.configuration error) ∧ error.context = context

/-- Whether a result is what options come to: two forms are refused, and otherwise two foldings, and
otherwise there is the profile with these options. -/
def IsSelection (os : List NormalizationOption) (result : Except OptionsError Profile) : Prop :=
  if ContradictoryForms os then
    IsRefusedFor .contradictoryForms [("options", .ofTexts ["nfc", "nfd"])] result
  else if ContradictoryFolds os then
    IsRefusedFor .contradictoryFolds
      [("options", .ofTexts ["case_fold_ascii", "case_fold_unicode"])] result
  else ∃ p, result = .ok p ∧ ∀ o, o ∈ p.options ↔ o ∈ os

lemma isSelection_select (os : List NormalizationOption) :
    IsSelection os ((select os).mapError .configuration) := by
  rcases select_cases os with ⟨hforms, h⟩ | ⟨hforms, hfolds, h⟩ | ⟨hconsistent, p, h, hoptions⟩
  · rw [IsSelection, if_pos hforms, h]
    exact ⟨rfl, rfl⟩
  · rw [IsSelection, if_neg hforms, if_pos hfolds, h]
    exact ⟨rfl, rfl⟩
  · obtain ⟨hforms, hfolds⟩ := not_or.mp hconsistent
    rw [IsSelection, if_neg hforms, if_neg hfolds, h]
    exact ⟨p, rfl, hoptions⟩

/-- A collection of options and texts is refused for the first text that names no option, if there
is one. Otherwise the set of options decides, and the options of the profile give it again in
whatever order they are taken. -/
theorem create_by_set_of_options (hitems : optionItems options = .ok items)
    (htexts : ∀ item ∈ items, IsOptionOrText item) :
    (¬ AllKnown items → ∃ before name rest, items = before ++ .text name :: rest ∧
      AllKnown before ∧ NormalizationOption.parse? name = none ∧
      IsRefusedFor (.unknownOption name) [("option", .text name),
        ("available", .ofTexts ["nfc", "nfd", "case_fold_unicode", "case_fold_ascii"])]
        (create options)) ∧
    (AllKnown items →
      IsSelection (optionsAmong items) (create options) ∧
      ∀ options' items', optionItems options' = .ok items' → AllKnown items' →
        (∀ o, o ∈ optionsAmong items' ↔ o ∈ optionsAmong items) →
        create options' = create options) ∧
    (∀ p, create options = .ok p →
      ∀ os : List NormalizationOption, os.Perm p.options →
        create (.set (os.map .option)) = .ok p) := by
  refine ⟨fun hunknown => ?_, fun hknown => ⟨?_, fun options' items' hitems' hknown' hsame => ?_⟩,
    fun p _ os hperm => ?_⟩
  · obtain ⟨before, item, rest, rfl, hbefore, hitem⟩ := exists_first_unknown hunknown
    have htext := htexts item (by simp)
    cases item with
    | option o => cases hitem
    | text name =>
      have hread : ∀ item ∈ before, (optionOf? item).isSome = true := fun item hmem =>
        Option.isSome_iff_ne_none.mpr (hbefore item hmem)
      refine ⟨before, name, rest, rfl, hbefore, hitem, ?_, rfl⟩
      rw [create_eq_of_items hitems]
      exact create_list_of_fault hread (readOption_unknown hitem) rest
    | _ => exact htext.elim
  · rw [create_of_allKnown hitems hknown]
    exact isSelection_select _
  · rw [create_of_allKnown hitems hknown, create_of_allKnown hitems' hknown', select_congr hsame]
  · have hset : optionItems (.set (os.map .option)) = .ok (os.map .option) := rfl
    rw [create_eq_of_items hset, create_list_of_options (map_optionOf?_option os),
      select_congr fun o => hperm.mem_iff, select_options]
    rfl

def spelledItems : List Value :=
  [.text "CASE-FOLD-ASCII", .option .nfd, .text " nfc\n", .text "nfc", .text "Case_Fold-Unicode"]

theorem create_of_all_options :
    IsRefusedFor .contradictoryForms [("options", .ofTexts ["nfc", "nfd"])]
      (create (.tuple spelledItems)) := by
  have hitems : optionItems (.tuple spelledItems) = .ok spelledItems := rfl
  have htexts : ∀ item ∈ spelledItems, IsOptionOrText item := by simp [spelledItems, IsOptionOrText]
  obtain ⟨-, hknown, -⟩ := create_by_set_of_options hitems htexts
  obtain ⟨hselection, -⟩ := hknown (by decide +kernel)
  have hboth : ContradictoryForms (optionsAmong spelledItems) := by decide +kernel
  rwa [IsSelection, if_pos hboth] at hselection

end Collections

end NameKeys.Proofs
