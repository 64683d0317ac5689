import NameKeys.Proofs.MergedTables
import NameKeys.Proofs.VariableNames

/-!
# Settings that variables override

Variables are taken in order, and each sets the setting that it addresses and nothing else. So a
setting is what the last of its variables has, and is as it was where it has none. A variable fails
exactly if it addresses something that is there and is no section, and no variable makes another one
fail.
-/

namespace NameKeys.Proofs
open Environment (address? convert)

/-! ### Variables that fail -/

instance (value : Value) : Decidable (∃ entries, value = .table entries) :=
  match value with
  | .table entries => .isTrue ⟨entries, rfl⟩
  | .null | .bool _ | .int _ | .float _ | .text _ | .bytes _ | .list _ | .tuple _ | .set _
  | .generator _ | .option _ | .form _ | .fold _ | .moment _ => .isFalse nofun

/-- Whether a variable addresses something in a table that is there and is no section. -/
def Clashes (program : Text) (config : Table) (named : Text × Text) : Prop :=
  ∃ address ∈ address? program named.1, ∃ value ∈ config.get? address.1,
    ¬ ∃ entries, value = .table entries

instance (program : Text) (config : Table) (named : Text × Text) :
    Decidable (Clashes program config named) :=
  inferInstanceAs (Decidable (∃ address ∈ _, ∃ value ∈ _, ¬ _))

/-! ### What variables have for each setting -/

/-- The variables for a setting, in order. -/
def variablesFor (program : Text) (environment : Environment) (address : Text × Text) :
    Environment :=
  environment.filter fun named => address? program named.1 = some address

/-- What the last of the variables for a setting has. -/
def lastValue? (program : Text) (isList : Text × Text → Bool) (environment : Environment)
    (address : Text × Text) : Option Value :=
  (variablesFor program environment address).getLast?.map fun named =>
    convert (isList address) named.2

/-- Whether variables turned one table into another: every setting is what its last variable has, or
as it was, and sections without variables are as they were. -/
structure TurnsInto (program : Text) (isList : Text × Text → Bool) (environment : Environment)
    (config after : Table) : Prop where
  settings : ∀ sectionName key, setting? after sectionName key =
    (lastValue? program isList environment (sectionName, key)).or (setting? config sectionName key)
  others : ∀ sectionName, (∀ key, variablesFor program environment (sectionName, key) = []) →
    after.get? sectionName = config.get? sectionName
  keys : KeysDistinct config → KeysDistinct after
  sections : HoldsSections config → HoldsSections after

section Runs

variable {program sectionName key : Text} {isList : Text × Text → Bool}
  {environment rest : Environment} {config middle after : Table} {named : Text × Text}
  {address : Text × Text}

lemma mem_variablesFor : named ∈ variablesFor program environment address ↔
    named ∈ environment ∧ address? program named.1 = some address :=
  List.mem_filter.trans (and_congr_right fun _ => decide_eq_true_iff)

lemma variablesFor_append (environment rest : Environment) (address : Text × Text) :
    variablesFor program (environment ++ rest) address =
      variablesFor program environment address ++ variablesFor program rest address :=
  List.filter_append ..

lemma lastValue?_append (environment rest : Environment) (address : Text × Text) :
    lastValue? program isList (environment ++ rest) address =
      (lastValue? program isList rest address).or
        (lastValue? program isList environment address) := by
  unfold lastValue?
  rw [variablesFor_append, List.getLast?_append]
  exact Option.map_or

lemma lastValue?_singleton (named : Text × Text) (address : Text × Text) :
    lastValue? program isList [named] address =
      if address? program named.1 = some address then some (convert (isList address) named.2)
      else none := by
  unfold lastValue? variablesFor
  by_cases h : address? program named.1 = some address
  · simp [h]
  · simp [h]

/-! ### One variable -/

lemma assign_eq_ok {sectionName : Text}
    (hsection : ∀ value, config.get? sectionName = some value → ∃ entries, value = .table entries)
    (key : Text) (value : Value) :
    ∃ entries : Table,
      Environment.assign sectionName key value config =
        .ok (config.put sectionName (.table (entries.put key value))) ∧
      (∀ other, setting? config sectionName other = entries.get? other) ∧
      (KeysDistinct config → entries.keys.Nodup) := by
  rw [Environment.assign]
  cases hget : config.get? sectionName with
  | none => exact ⟨[], rfl, fun other => setting?_of_get?_eq_none hget, fun _ => .nil⟩
  | some present =>
    obtain ⟨entries, rfl⟩ := hsection present hget
    refine ⟨entries, rfl, fun other => setting?_of_get? hget, fun hkeys => ?_⟩
    exact hkeys.settings _ (mem_of_get? hget) entries rfl

lemma setting?_put {sectionName : Text} {entries : Table}
    (hentries : ∀ other, setting? config sectionName other = entries.get? other) (key : Text)
    (value : Value) (otherSection other : Text) :
    setting? (config.put sectionName (.table (entries.put key value))) otherSection other =
      if otherSection = sectionName ∧ other = key then some value
      else setting? config otherSection other := by
  by_cases hsection : otherSection = sectionName
  · subst hsection
    rw [setting?_of_get? ((get?_put ..).trans (if_pos rfl)), hentries]
    simp only [true_and]
    exact get?_put other key value entries
  · have hget : (config.put sectionName (.table (entries.put key value))).get? otherSection =
        config.get? otherSection := (get?_put ..).trans (if_neg hsection)
    rw [if_neg fun h => hsection h.1, setting?, setting?, hget]

lemma TurnsInto.nil : TurnsInto program isList [] config config :=
  ⟨fun _ _ => rfl, fun _ _ => rfl, id, id⟩

/-- Variables that come later stand in front of those before them. -/
lemma TurnsInto.append (h : TurnsInto program isList environment config middle)
    (hrest : TurnsInto program isList rest middle after) :
    TurnsInto program isList (environment ++ rest) config after where
  settings := by
    intro sectionName key
    rw [hrest.settings, h.settings, lastValue?_append, Option.or_assoc]
  others := by
    intro sectionName hnone
    have hboth : ∀ key, variablesFor program environment (sectionName, key) = [] ∧
        variablesFor program rest (sectionName, key) = [] := fun key => by
      rw [← List.append_eq_nil_iff, ← variablesFor_append]
      exact hnone key
    rw [hrest.others sectionName fun key => (hboth key).2,
      h.others sectionName fun key => (hboth key).1]
  keys := fun hkeys => hrest.keys (h.keys hkeys)
  sections := fun hsections => hrest.sections (h.sections hsections)

/-- A variable that does not clash sets its setting and nothing else. -/
lemma turnsInto_override (isList : Text × Text → Bool) (h : ¬ Clashes program config named) :
    ∃ after, Environment.override program isList config named = .ok after ∧
      TurnsInto program isList [named] config after := by
  unfold Environment.override
  cases haddress : address? program named.1 with
  | none =>
    refine ⟨config, rfl, fun sectionName key => ?_, fun _ _ => rfl, id, id⟩
    rw [lastValue?_singleton, haddress, if_neg nofun]
    rfl
  | some address =>
    obtain ⟨addressed, itsKey⟩ := address
    have hsection : ∀ value, config.get? addressed = some value →
        ∃ entries, value = .table entries := fun value hvalue => by
      by_contra hnot
      exact h ⟨(addressed, itsKey), haddress, value, hvalue, hnot⟩
    obtain ⟨entries, hassign, hentries, hkeys⟩ :=
      assign_eq_ok hsection itsKey (convert (isList (addressed, itsKey)) named.2)
    refine ⟨_, hassign, fun sectionName key => ?_, fun sectionName hnone => ?_,
      fun hconfig => ?_, fun hconfig => hconfig.put _⟩
    · rw [setting?_put hentries, lastValue?_singleton, haddress]
      by_cases hhere : sectionName = addressed ∧ key = itsKey
      · obtain ⟨rfl, rfl⟩ := hhere
        rw [if_pos ⟨rfl, rfl⟩, if_pos rfl]
        rfl
      · have hother : some (addressed, itsKey) ≠ some (sectionName, key) := fun heq => by
          obtain ⟨rfl, rfl⟩ := Prod.mk.inj (Option.some.inj heq)
          exact hhere ⟨rfl, rfl⟩
        rw [if_neg hhere, if_neg hother]
        rfl
    · have hne : sectionName ≠ addressed := fun heq => by
        have hmem : named ∈ variablesFor program [named] (sectionName, itsKey) :=
          mem_variablesFor.mpr ⟨List.mem_singleton_self _, heq ▸ haddress⟩
        rw [hnone] at hmem
        cases hmem
      exact (get?_put ..).trans (if_neg hne)
    · exact hconfig.put (nodup_keys_put _ _ (hkeys hconfig)) addressed

lemma override_of_clashes (isList : Text × Text → Bool) (h : Clashes program config named) :
    ∃ error, Environment.override program isList config named = .error error := by
  obtain ⟨⟨sectionName, key⟩, haddress, value, hvalue, hnot⟩ := h
  have haddress : address? program named.1 = some (sectionName, key) := haddress
  have hvalue : config.get? sectionName = some value := hvalue
  unfold Environment.override Environment.assign
  rw [haddress]
  dsimp only
  rw [hvalue]
  cases value with
  | table entries => exact absurd ⟨entries, rfl⟩ hnot
  | _ => exact ⟨_, rfl⟩

/-! ### All variables -/

lemma TurnsInto.addressed {last : Text × Text}
    (h : TurnsInto program isList environment config after)
    (hlast : (variablesFor program environment (sectionName, key)).getLast? = some last) :
    setting? after sectionName key = some (convert (isList (sectionName, key)) last.2) := by
  rw [h.settings, lastValue?, hlast]
  rfl

lemma TurnsInto.exists_get? (h : TurnsInto program isList environment config after)
    (hsome : variablesFor program environment (sectionName, key) ≠ []) :
    ∃ entries, after.get? sectionName = some (.table entries) := by
  have hset := h.addressed (List.getLast?_eq_some_getLast hsome)
  unfold setting? at hset
  split at hset
  · next entries hentries => exact ⟨entries, hentries⟩
  · cases hset

lemma TurnsInto.clashes_iff (h : TurnsInto program isList environment config after)
    (hno : ∀ named ∈ environment, ¬ Clashes program config named) (other : Text × Text) :
    Clashes program after other ↔ Clashes program config other := by
  refine exists_congr fun address => and_congr_right fun _ => ?_
  by_cases hnone : ∀ key, variablesFor program environment (address.1, key) = []
  · rw [h.others address.1 hnone]
  · -- Whatever the section held, it is a section before and afterwards.
    obtain ⟨key, hsome⟩ := not_forall.mp hnone
    obtain ⟨entries, hentries⟩ := h.exists_get? hsome
    obtain ⟨named, hnamed⟩ := List.exists_mem_of_ne_nil _ hsome
    obtain ⟨hmem, haddress⟩ := mem_variablesFor.mp hnamed
    refine iff_of_false ?_ fun ⟨value, hvalue, hnot⟩ => ?_
    · rintro ⟨value, hvalue, hnot⟩
      rw [hentries] at hvalue
      exact hnot ⟨entries, (Option.some.inj hvalue).symm⟩
    · exact hno named hmem ⟨(address.1, key), haddress, value, hvalue, hnot⟩

lemma turnsInto_overrideAll (isList : Text × Text → Bool)
    (h : ∀ named ∈ environment, ¬ Clashes program config named) :
    ∃ after, Environment.overrideAll program isList environment config = .ok after ∧
      TurnsInto program isList environment config after := by
  unfold Environment.overrideAll
  induction environment generalizing config with
  | nil => exact ⟨config, rfl, .nil⟩
  | cons named rest ih =>
    obtain ⟨hnamed, hrest⟩ := List.forall_mem_cons.mp h
    obtain ⟨next, hnext, hturns⟩ := turnsInto_override isList hnamed
    have hother := hturns.clashes_iff (List.forall_mem_singleton.mpr hnamed)
    obtain ⟨after, hafter, hall⟩ := ih fun other hmem hclash =>
      hrest other hmem ((hother other).mp hclash)
    refine ⟨after, ?_, hturns.append hall⟩
    rw [List.foldlM_cons, hnext]
    exact hafter

/-- Variables fail exactly if one of them clashes with what stood there before. -/
lemma overrideAll_eq_error_iff (isList : Text × Text → Bool) (environment : Environment) :
    (∃ error, Environment.overrideAll program isList environment config = .error error) ↔
      ∃ named ∈ environment, Clashes program config named := by
  unfold Environment.overrideAll
  induction environment generalizing config with
  | nil => simp [pure, Except.pure]
  | cons named rest ih =>
    rw [List.foldlM_cons]
    by_cases hclash : Clashes program config named
    · obtain ⟨error, herror⟩ := override_of_clashes isList hclash
      rw [herror]
      exact iff_of_true ⟨error, rfl⟩ ⟨named, List.mem_cons_self .., hclash⟩
    · obtain ⟨after, hafter, hturns⟩ := turnsInto_override isList hclash
      have hother := hturns.clashes_iff (List.forall_mem_singleton.mpr hclash)
      rw [hafter]
      simp only [List.exists_mem_cons_iff, hclash, false_or]
      refine ih.trans ?_
      simp only [hother]

end Runs

end NameKeys.Proofs
