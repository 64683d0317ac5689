import NameKeys.Value.Literal

/-!
# Profiles

A profile is a canonical form and a case folding. It is built from options, of which at most one may
choose a form and at most one a folding, and it gives the options back. The errors say what is wrong
with the options, and for each error there is its message and its context: the values it is about.
-/

namespace NameKeys

/-- What is wrong with normalization options or with the choices of a profile. -/
inductive ConfigurationError where
  | unknownOption (name : Text)
  | contradictoryForms
  | contradictoryFolds
  | invalidForm (value : Value)
  | invalidFold (value : Value)

namespace ConfigurationError

def message : ConfigurationError → Text
  | unknownOption name => "Unknown normalization option: " ++ Text.quoted name
  | contradictoryForms => "Only one canonical form may be selected"
  | contradictoryFolds => "Only one case folding may be selected"
  | invalidForm value => "Invalid canonical form: " ++ value.literal
  | invalidFold value => "Invalid case folding: " ++ value.literal

/-- The values an error is about, and the values there are. -/
def context : ConfigurationError → Table
  | unknownOption name =>
    [("option", .text name), ("available", .ofTexts (NormalizationOption.all.map (·.name)))]
  | contradictoryForms =>
    [("options", .ofTexts [NormalizationOption.nfc.name, NormalizationOption.nfd.name])]
  | contradictoryFolds =>
    [("options", .ofTexts
      [NormalizationOption.caseFoldAscii.name, NormalizationOption.caseFoldUnicode.name])]
  | invalidForm value =>
    [("canonical_form", value), ("available", .ofTexts (CanonicalForm.all.map (·.name)))]
  | invalidFold value =>
    [("case_fold", value), ("available", .ofTexts (CaseFold.all.map (·.name)))]

end ConfigurationError

/-- Why options could not be read. -/
inductive OptionsError where
  | configuration (error : ConfigurationError)
  | notAName (value : Value)
  | notIterable (value : Value)
  | numeralTooLong

/-- One canonical form and one case folding. -/
structure Profile where
  form : CanonicalForm
  fold : CaseFold
  deriving DecidableEq, Repr

namespace Profile

/-- The profile under which only identical names are equivalent. -/
def exact : Profile := ⟨.none, .none⟩

/-- Whether only identical names are equivalent. -/
def isExact (p : Profile) : Bool := p.form = .none ∧ p.fold = .none

/-- The form that an option chooses, if it chooses one. -/
def formOf? : NormalizationOption → Option CanonicalForm
  | .nfc => some .compose
  | .nfd => some .decompose
  | _ => none

/-- The folding that an option chooses, if it chooses one. -/
def foldOf? : NormalizationOption → Option CaseFold
  | .caseFoldUnicode => some .unicode
  | .caseFoldAscii => some .ascii
  | _ => none

/-- The profile that options select, in whatever order and however often they are given. -/
def select (options : List NormalizationOption) : Except ConfigurationError Profile :=
  if .nfc ∈ options ∧ .nfd ∈ options then .error .contradictoryForms
  else if .caseFoldUnicode ∈ options ∧ .caseFoldAscii ∈ options then .error .contradictoryFolds
  else .ok {
    form := (options.findSome? formOf?).getD .none
    fold := (options.findSome? foldOf?).getD .none }

/-- The options that select a profile, in order of their names. -/
def options (p : Profile) : List NormalizationOption :=
  (match p.fold with
    | .none => []
    | .unicode => [.caseFoldUnicode]
    | .ascii => [.caseFoldAscii]) ++
  (match p.form with
    | .none => []
    | .compose => [.nfc]
    | .decompose => [.nfd])

/-- The names of a profile's options, or `none`. -/
def label (p : Profile) : Text :=
  match p.options with
  | [] => "none"
  | options => Text.join "+" (options.map (·.name))

def readOptionName : Value → Except OptionsError NormalizationOption
  | .text name =>
    match NormalizationOption.parse? name with
    | some o => .ok o
    | none => .error (.configuration (.unknownOption name))
  | value => .error (.notAName value)

/-- The option that one item of a collection of options is or names. -/
def readOption : Value → Except OptionsError NormalizationOption
  | .option o => .ok o
  | value => readOptionName value

/-- The items of a collection of options. A text is one option's name. -/
def optionItems (options : Value) : Except OptionsError (List Value) :=
  match options with
  | .text name => .ok [.text name]
  | value =>
    match value.items? with
    | some items => .ok items
    | none => .error (.notIterable value)

/-- The profile that a collection of options and of their names selects. The names are read first,
in order, so that a name that is unknown is reported before options that contradict each other. -/
def create (options : Value) : Except OptionsError Profile := do
  let items ← optionItems options
  let selected ← items.mapM readOption
  match select selected with
  | .ok profile => .ok profile
  | .error error => .error (.configuration error)

/-- The profile of two values, which have to be a form and a folding. -/
def ofChoices (form fold : Value) : Except OptionsError Profile :=
  let refuse (value : Value) (error : ConfigurationError) : Except OptionsError Profile :=
    .error (if value.hasLiteral then .configuration error else .numeralTooLong)
  match form, fold with
  | .form form, .fold fold => .ok ⟨form, fold⟩
  | .form _, fold => refuse fold (.invalidFold fold)
  | form, _ => refuse form (.invalidForm form)

end Profile

end NameKeys
