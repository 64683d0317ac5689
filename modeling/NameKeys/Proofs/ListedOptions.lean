import NameKeys.Config.Environment
import NameKeys.Proofs.AcceptedSettings
import NameKeys.Proofs.OptionNames

/-!
# Options listed in a text

A text with commas between the names of options is taken apart in two places: where settings are
checked, which leaves the blanks around names to whoever reads them, and where a variable is
converted to a list, which takes them off. Either drops the same pieces and keeps the same names, so
settings come out the same, or they are refused for the same reason.
-/

namespace NameKeys.Proofs
open Environment (convert items)
open NormalizationOption (parse?)
open Profile (select)
open Text (splitOn strip)

/-! ### Pieces -/

def piecesIn (t : Text) : List Text := (splitOn ',' t).filter fun piece => !Text.isBlank piece

lemma items_eq (t : Text) : items t = (piecesIn t).map strip := by
  have hkept : ((fun item => !List.isEmpty item) ∘ strip) = fun piece => !Text.isBlank piece := by
    funext piece
    have hblank : (strip piece).isEmpty = Text.isBlank piece := by
      rw [Bool.eq_iff_iff, List.isEmpty_iff]
      exact strip_eq_nil_iff
    rw [Function.comp_apply, hblank]
  rw [items, List.filter_map, hkept]
  rfl

lemma parse?_strip (name : Text) : parse? (strip name) = parse? name := by
  have hstrip : strip (strip name) = strip name := trimWhere_trimWhere _ name
  rw [parse?, hstrip, parse?]

/-! ### Reading names -/

section Names

variable {items before : List Value} {names : List Text} {os : List NormalizationOption}
  {value : Value} {name : Text}

lemma readNames_of_unknown (hbefore : before.map optionOf? = os.map some)
    (hname : parse? name = none) (rest : List Value) :
    Check.readNames (before ++ .text name :: rest) =
      .error (.badOptions (.unknownOption name)) := by
  induction before generalizing os with
  | nil => simp only [List.nil_append, Check.readNames, hname]
  | cons item before ih =>
    cases os with
    | nil => cases hbefore
    | cons o os =>
      obtain ⟨hitem, hbefore⟩ := List.cons.inj hbefore
      have hread := ih hbefore
      cases item with
      | option other =>
        rw [List.cons_append, Check.readNames, hread]
        · rfl
        · intro name hname
          cases hname
      | text first =>
        have hparse : parse? first = some o := hitem
        simp only [List.cons_append, Check.readNames, hparse, hread]
        rfl
      | _ => cases hitem

/-! ### Settings from options -/

def settingsOf (value : Value) : Checked NormalizationSettings :=
  Check.normalization [("options", value)]

lemma settingsOf_text (t : Text) :
    settingsOf (.text t) = settingsOf (.list ((piecesIn t).map .text)) := rfl

lemma settingsOf_eq (value : Value) :
    settingsOf value =
      ((Check.options value).mapError fun violations => violations.map (·.within "options")).bind
        fun os =>
          ((select os).mapError fun error => [⟨[], .badOptions error⟩]).map fun _ => ⟨os⟩ := by
  have hkeys : ∀ key ∈ Entries.keys [(("options" : Text), value)], key ∈ normalizationKeys :=
    fun _ hkey => hkey
  have hunknown : Check.unknownKeys ["options"] [("options", value)] = [] := rfl
  have hfield : Check.field [("options", value)] "options" [] Check.options =
      (Check.options value).mapError fun violations => violations.map (·.within "options") := by
    rw [Check.field, get?_cons, if_pos rfl]
  rw [settingsOf, Check.normalization, withUnicodeKeys_eq normalizationKeys rfl hkeys]
  dsimp only
  rw [hfield, hunknown]
  cases Check.options value with
  | error violations => exact congrArg _ (List.append_nil _)
  | ok os =>
    simp only [Except.mapError, Except.bind]
    cases select os <;> rfl

lemma settingsOf_of_options (h : items.map optionOf? = os.map some) :
    settingsOf (.list items) =
      ((select os).mapError fun error => [⟨[], .badOptions error⟩]).map fun _ => ⟨os⟩ := by
  have hoptions : Check.options (.list items) = .ok os := by
    simp only [Check.options, readNames_of_options h, optionItems_options]
  rw [settingsOf_eq, hoptions]
  rfl

lemma settingsOf_of_unknown (hbefore : before.map optionOf? = os.map some)
    (hname : parse? name = none) (rest : List Value) :
    settingsOf (.list (before ++ .text name :: rest)) =
      .error [⟨[.key "options"], .badOptions (.unknownOption name)⟩] := by
  have hoptions : Check.options (.list (before ++ .text name :: rest)) =
      .error [⟨[], .badOptions (.unknownOption name)⟩] := by
    simp only [Check.options, readNames_of_unknown hbefore hname]
  rw [settingsOf_eq, hoptions]
  rfl

end Names

/-! ### Agreement -/

/-- Whether two errors have the same reason, where blanks around an unknown name do not count. -/
inductive SameReason : ConfigurationError → ConfigurationError → Prop
  | unknown (name : Text) : SameReason (.unknownOption name) (.unknownOption (strip name))
  | forms : SameReason .contradictoryForms .contradictoryForms
  | folds : SameReason .contradictoryFolds .contradictoryFolds

/-- Whether settings come out the same, with a profile, or are refused in the same place for the
same reason. -/
inductive SameSettingsOrReason :
    Checked NormalizationSettings → Checked NormalizationSettings → Prop
  | settings (s : NormalizationSettings) (p : Profile) (profile : s.profile = .ok p) :
    SameSettingsOrReason (.ok s) (.ok s)
  | reason (path : List Step) {error other : ConfigurationError} (reason : SameReason error other) :
    SameSettingsOrReason (.error [⟨path, .badOptions error⟩]) (.error [⟨path, .badOptions other⟩])

/-- What names of options come to: settings with these options in this order, or an error about the
first name that is unknown, or about names that contradict each other. -/
inductive ComesTo : List Text → Checked NormalizationSettings → Prop
  | settings {names : List Text} {os : List NormalizationOption}
    (known : names.map parse? = os.map some) (consistent : ¬ Contradictory os) :
    ComesTo names (.ok ⟨os⟩)
  | forms {names : List Text} {os : List NormalizationOption}
    (known : names.map parse? = os.map some) (forms : ContradictoryForms os) :
    ComesTo names (.error [⟨[], .badOptions .contradictoryForms⟩])
  | folds {names : List Text} {os : List NormalizationOption}
    (known : names.map parse? = os.map some) (forms : ¬ ContradictoryForms os)
    (folds : ContradictoryFolds os) :
    ComesTo names (.error [⟨[], .badOptions .contradictoryFolds⟩])
  | unknown {front back : List Text} {name : Text} {os : List NormalizationOption}
    (known : front.map parse? = os.map some) (unknown : parse? name = none) :
    ComesTo (front ++ name :: back)
      (.error [⟨[.key "options"], .badOptions (.unknownOption name)⟩])

section Agreement

variable {names others : List Text} {os : List NormalizationOption}

lemma map_optionOf?_text (names : List Text) :
    (names.map Value.text).map optionOf? = names.map parse? := List.map_map

lemma known_or_unknown (names : List Text) : (∃ os : List NormalizationOption,
      names.map parse? = os.map some) ∨
    ∃ front name back, ∃ os : List NormalizationOption, names = front ++ name :: back ∧
      front.map parse? = os.map some ∧ parse? name = none := by
  induction names with
  | nil => exact .inl ⟨[], rfl⟩
  | cons name rest ih =>
    cases hname : parse? name with
    | none => exact .inr ⟨[], name, rest, [], rfl, rfl, hname⟩
    | some o =>
      rcases ih with ⟨os, hos⟩ | ⟨front, bad, back, os, rfl, hfront, hbad⟩
      · exact .inl ⟨o :: os, by rw [List.map_cons, hname, hos, List.map_cons]⟩
      · exact .inr ⟨name :: front, bad, back, o :: os, rfl,
          by rw [List.map_cons, hname, hfront, List.map_cons], hbad⟩

lemma comesTo_settingsOf (names : List Text) :
    ComesTo names (settingsOf (.list (names.map .text))) := by
  rcases known_or_unknown names with ⟨os, hknown⟩ | ⟨front, name, back, os, rfl, hknown, hname⟩
  · rw [settingsOf_of_options ((map_optionOf?_text names).trans hknown)]
    rcases select_cases os with
      ⟨hforms, h⟩ | ⟨hforms, hfolds, h⟩ | ⟨hconsistent, p, h, -⟩ <;> rw [h]
    · exact .forms hknown hforms
    · exact .folds hknown hforms hfolds
    · exact .settings hknown hconsistent
  · rw [List.map_append, List.map_cons,
      settingsOf_of_unknown ((map_optionOf?_text front).trans hknown) hname]
    exact .unknown hknown hname

lemma SameSettingsOrReason.of_options (hnames : names.map parse? = os.map some)
    (hothers : others.map parse? = os.map some) :
    SameSettingsOrReason (settingsOf (.list (names.map .text)))
      (settingsOf (.list (others.map .text))) := by
  rw [settingsOf_of_options ((map_optionOf?_text names).trans hnames),
    settingsOf_of_options ((map_optionOf?_text others).trans hothers)]
  rcases select_cases os with ⟨-, h⟩ | ⟨-, -, h⟩ | ⟨-, p, h, -⟩ <;> rw [h]
  · exact .reason [] .forms
  · exact .reason [] .folds
  · exact .settings ⟨os⟩ p h

/-- Options that a text lists come to the same, whether the text is checked itself or was converted
to a list before: what the pieces of the text that are not blank come to as names. -/
theorem options_of_text_or_list (t : Text) :
    SameSettingsOrReason (settingsOf (.text t)) (settingsOf (convert true t)) ∧
      ComesTo (piecesIn t) (settingsOf (.text t)) := by
  have hlist : convert true t = .list (((piecesIn t).map strip).map .text) := by
    rw [convert, if_pos rfl, items_eq]
    rfl
  rw [settingsOf_text, hlist]
  refine ⟨?_, comesTo_settingsOf (piecesIn t)⟩
  have hstripped : ∀ names : List Text, (names.map strip).map parse? = names.map parse? :=
    fun names => List.map_map.trans (List.map_congr_left fun name _ => parse?_strip name)
  rcases known_or_unknown (piecesIn t) with ⟨os, hknown⟩ | ⟨front, name, back, os, h, hknown, hname⟩
  · exact .of_options hknown ((hstripped _).trans hknown)
  · rw [h, List.map_append, List.map_append, List.map_append, List.map_cons, List.map_cons,
      List.map_cons, settingsOf_of_unknown ((map_optionOf?_text front).trans hknown) hname,
      settingsOf_of_unknown ((map_optionOf?_text _).trans ((hstripped front).trans hknown))
        ((parse?_strip name).trans hname)]
    exact .reason [.key "options"] (.unknown name)

end Agreement

example : (settingsOf (.text "NFD,, nfd\u2003")).toOption = some ⟨[.nfd, .nfd]⟩ := by decide +kernel

end NameKeys.Proofs
