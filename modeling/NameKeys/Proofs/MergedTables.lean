import Mathlib.Data.List.Nodup
import NameKeys.Value.Merge

/-!
# Look-up in merged tables

What stands at a key of a merged table is what the overriding table has there, merged over what the
base has. Where the overriding value is no table, it stands as it is. In tables of sections the same
holds of every setting, a key of a section.
-/

namespace NameKeys.Proofs

/-! ### Entries -/

section Entries

variable {α : Type} {entries : Entries α}

lemma get?_cons (key other : Text) (item : α) (entries : Entries α) :
    Entries.get? key ((other, item) :: entries) =
      if key = other then some item else Entries.get? key entries := by
  by_cases h : key = other
  · simp [Entries.get?, h]
  · have hbeq : (key == other) = false := by simpa using h
    simp [Entries.get?, List.lookup_cons, h, hbeq]

lemma get?_put (key other : Text) (item : α) (entries : Entries α) :
    Entries.get? key (Entries.put other item entries) =
      if key = other then some item else Entries.get? key entries := by
  induction entries with
  | nil => rw [Entries.put, get?_cons]
  | cons entry rest ih =>
    obtain ⟨name, old⟩ := entry
    rw [Entries.put]
    by_cases hname : name = other
    · subst hname
      rw [if_pos rfl, get?_cons, get?_cons]
      split <;> rfl
    · rw [if_neg hname, get?_cons, get?_cons, ih]
      by_cases hkey : key = name
      · rw [if_pos hkey, if_pos hkey, if_neg (hkey ▸ hname)]
      · rw [if_neg hkey, if_neg hkey]

lemma mem_of_get? {key : Text} {item : α} (h : Entries.get? key entries = some item) :
    (key, item) ∈ entries := by
  induction entries with
  | nil => simp [Entries.get?] at h
  | cons entry rest ih =>
    obtain ⟨name, old⟩ := entry
    rw [get?_cons] at h
    split at h
    · next hname =>
      obtain rfl := Option.some.inj h
      rw [hname]
      exact List.mem_cons_self ..
    · exact List.mem_cons_of_mem _ (ih h)

lemma get?_eq_none {key : Text} (h : key ∉ Entries.keys entries) :
    Entries.get? key entries = none := by
  cases hget : Entries.get? key entries with
  | none => rfl
  | some item => exact absurd (List.mem_map_of_mem (mem_of_get? hget)) h

lemma get?_filter (p : Text → Bool) (key : Text) (entries : Entries α) :
    Entries.get? key (entries.filter fun e => p e.1) = if p key then entries.get? key else none := by
  induction entries with
  | nil => simp [Entries.get?]
  | cons e entries ih =>
    obtain ⟨name, item⟩ := e
    rw [get?_cons, List.filter_cons]
    by_cases hkey : key = name
    · subst hkey
      cases hp : p key with
      | true => rw [if_pos rfl, get?_cons, if_pos rfl, if_pos rfl, if_pos rfl]
      | false =>
        rw [if_neg Bool.false_ne_true, ih, hp, if_neg Bool.false_ne_true,
          if_neg Bool.false_ne_true]
    · rw [if_neg hkey, ← ih]
      split
      · rw [get?_cons, if_neg hkey]
      · rfl

lemma get?_of_mem (hkeys : entries.keys.Nodup) {key : Text} {item : α} (h : (key, item) ∈ entries) :
    entries.get? key = some item := by
  induction entries with
  | nil => cases h
  | cons entry rest ih =>
    obtain ⟨name, old⟩ := entry
    obtain ⟨hname, hrest⟩ := List.nodup_cons.mp hkeys
    rw [get?_cons]
    rcases List.mem_cons.mp h with heq | hmem
    · obtain ⟨rfl, rfl⟩ := Prod.mk.inj heq
      rw [if_pos rfl]
    · have hkey : key ∈ Entries.keys rest := List.mem_map_of_mem hmem
      have hne : key ≠ name := fun heq => hname (heq ▸ hkey)
      rw [if_neg hne, ih hrest hmem]

lemma mem_put {key : Text} {item : α} {entry : Text × α}
    (h : entry ∈ Entries.put key item entries) : entry = (key, item) ∨ entry ∈ entries := by
  induction entries with
  | nil => exact .inl (List.mem_singleton.mp h)
  | cons first rest ih =>
    obtain ⟨name, old⟩ := first
    rw [Entries.put] at h
    split at h
    · next hname =>
      rw [hname] at h
      rcases List.mem_cons.mp h with h | h
      · exact .inl h
      · exact .inr (List.mem_cons_of_mem _ h)
    · rcases List.mem_cons.mp h with rfl | h
      · exact .inr (List.mem_cons_self ..)
      · rcases ih h with h | h
        · exact .inl h
        · exact .inr (List.mem_cons_of_mem _ h)

lemma keys_put (key : Text) (item : α) (entries : Entries α) :
    (entries.put key item).keys =
      if key ∈ entries.keys then entries.keys else entries.keys ++ [key] := by
  induction entries with
  | nil => rfl
  | cons entry rest ih =>
    obtain ⟨name, old⟩ := entry
    rw [Entries.put]
    by_cases hname : name = key
    · subst hname
      simp [Entries.keys]
    · have hkeys : ∀ other : Entries α, Entries.keys ((name, old) :: other) = name :: other.keys :=
        fun _ => rfl
      rw [if_neg hname, hkeys, hkeys, ih]
      by_cases hmem : key ∈ Entries.keys rest
      · rw [if_pos hmem, if_pos (List.mem_cons_of_mem _ hmem)]
      · rw [if_neg hmem, if_neg (List.not_mem_cons_of_ne_of_not_mem (Ne.symm hname) hmem)]
        rfl

lemma nodup_keys_put (key : Text) (item : α) (h : (Entries.keys entries).Nodup) :
    (Entries.keys (Entries.put key item entries)).Nodup := by
  rw [keys_put]
  split
  · exact h
  · next hnew =>
    refine List.nodup_append.mpr ⟨h, List.nodup_singleton key, fun other hother last hlast => ?_⟩
    obtain rfl := List.mem_singleton.mp hlast
    exact fun heq => hnew (heq ▸ hother)

end Entries

/-! ### Merged tables -/

lemma mergeOver_none (value : Value) : value.mergeOver none = value := by
  cases value <;> rfl

lemma mergeOver_of_not_table {value : Value} (h : ∀ entries, value ≠ .table entries)
    (base : Option Value) : value.mergeOver base = value := by
  cases value with
  | table entries => exact absurd rfl (h entries)
  | _ => rfl

def IsTable (value? : Option Value) : Prop := ∃ entries, value? = some (.table entries)

lemma mergeOver_of_not_tables {value : Value} {below : Option Value}
    (h : ¬ (IsTable (some value) ∧ IsTable below)) : value.mergeOver below = value := by
  cases value with
  | table entries =>
    cases below with
    | none => exact mergeOver_none _
    | some lower =>
      cases lower with
      | table lower => exact absurd ⟨⟨entries, rfl⟩, lower, rfl⟩ h
      | _ => rfl
  | _ => rfl

lemma table_mergeOver_cons (key : Text) (value : Value) (override base : Table) :
    Table.mergeOver ((key, value) :: override) base =
      Table.mergeOver override (base.put key (value.mergeOver (base.get? key))) := rfl

lemma get?_mergeOver {override : Table} (h : override.keys.Nodup) (base : Table) (key : Text) :
    (Table.mergeOver override base).get? key =
      match override.get? key with
      | none => base.get? key
      | some value => some (value.mergeOver (base.get? key)) := by
  induction override generalizing base with
  | nil => rfl
  | cons entry rest ih =>
    obtain ⟨name, value⟩ := entry
    obtain ⟨hname, hrest⟩ := List.nodup_cons.mp h
    rw [table_mergeOver_cons, ih hrest, get?_cons, get?_put]
    by_cases hkey : key = name
    · subst hkey
      rw [get?_eq_none hname]
      simp
    · simp [hkey]

/-! ### Settings in tables of sections -/

/-- What a table holds at a key of one of its sections. -/
def setting? (config : Table) (sectionName key : Text) : Option Value :=
  match config.get? sectionName with
  | some (.table entries) => Entries.get? key entries
  | _ => none

/-- Whether only tables stand in a table. -/
def HoldsSections (config : Table) : Prop := ∀ e ∈ config, ∃ entries, e.2 = .table entries

/-- Whether a table and the tables in it hold each key once. -/
structure KeysDistinct (config : Table) : Prop where
  sections : config.keys.Nodup
  settings : ∀ e ∈ config, ∀ entries, e.2 = .table entries → (Entries.keys entries).Nodup

section Settings

variable {config base override : Table} {sectionName key : Text}

lemma setting?_of_get? {entries : Table} (h : config.get? sectionName = some (.table entries)) :
    setting? config sectionName key = Entries.get? key entries := by
  rw [setting?, h]

lemma setting?_of_get?_eq_none (h : config.get? sectionName = none) :
    setting? config sectionName key = none := by
  rw [setting?, h]

lemma HoldsSections.get? (h : HoldsSections config) {value : Value}
    (hget : config.get? sectionName = some value) : ∃ entries, value = .table entries :=
  h _ (mem_of_get? hget)

lemma HoldsSections.put (h : HoldsSections config) (entries : Table) :
    HoldsSections (config.put sectionName (.table entries)) := by
  intro e he
  rcases mem_put he with rfl | he
  · exact ⟨entries, rfl⟩
  · exact h e he

lemma KeysDistinct.put (h : KeysDistinct config) {entries : Table} (hentries : entries.keys.Nodup)
    (sectionName : Text) : KeysDistinct (config.put sectionName (.table entries)) where
  sections := nodup_keys_put _ _ h.sections
  settings := by
    intro e he inner hinner
    rcases mem_put he with rfl | he
    · obtain rfl := Value.table.inj hinner
      exact hentries
    · exact h.settings e he inner hinner

lemma mergeOver_table {entries : Table} {below : Option Value}
    (h : ∀ value, below = some value → ∃ entries, value = .table entries) :
    ∃ merged, (Value.table entries).mergeOver below = .table merged := by
  cases below with
  | none => exact ⟨entries, rfl⟩
  | some value =>
    obtain ⟨lower, rfl⟩ := h value rfl
    exact ⟨Table.mergeOver entries lower, rfl⟩

lemma HoldsSections.merge (hbase : HoldsSections base) (h : HoldsSections override) :
    HoldsSections (Table.merge base override) := by
  unfold Table.merge
  induction override generalizing base with
  | nil => exact hbase
  | cons entry rest ih =>
    obtain ⟨name, value⟩ := entry
    obtain ⟨entries, rfl⟩ : ∃ entries, value = .table entries := h _ (List.mem_cons_self ..)
    have hbelow : ∀ value, Entries.get? name base = some value → ∃ entries, value = .table entries :=
      fun value hvalue => hbase.get? hvalue
    obtain ⟨merged, hmerged⟩ : ∃ merged,
      (Value.table entries).mergeOver (Entries.get? name base) = .table merged :=
        mergeOver_table hbelow
    rw [table_mergeOver_cons, hmerged]
    exact ih (hbase.put merged) fun e he => h e (List.mem_cons_of_mem _ he)

lemma setting?_merge (hbase : HoldsSections base) (h : HoldsSections override)
    (hkeys : KeysDistinct override) (sectionName key : Text) :
    setting? (Table.merge base override) sectionName key =
      match setting? override sectionName key with
      | none => setting? base sectionName key
      | some value => some (value.mergeOver (setting? base sectionName key)) := by
  have hget : (Table.merge base override).get? sectionName =
      match override.get? sectionName with
      | none => base.get? sectionName
      | some value => some (value.mergeOver (base.get? sectionName)) :=
    get?_mergeOver hkeys.sections base sectionName
  cases hover : override.get? sectionName with
  | none =>
    simp only [hover] at hget
    simp only [setting?, hover, hget]
  | some value =>
    obtain ⟨entries, rfl⟩ := h.get? hover
    simp only [hover] at hget
    rw [setting?_of_get? hover]
    cases hlower : base.get? sectionName with
    | none =>
      rw [hlower, mergeOver_none] at hget
      rw [setting?_of_get?_eq_none hlower, setting?_of_get? hget]
      cases Entries.get? key entries with
      | none => rfl
      | some value => simp only [mergeOver_none]
    | some value =>
      obtain ⟨lower, rfl⟩ := hbase.get? hlower
      have hentries := hkeys.settings _ (mem_of_get? hover) entries rfl
      have hmerged : (Table.merge base override).get? sectionName =
          some (.table (Table.mergeOver entries lower)) := by
        rw [hget, hlower]
        rfl
      rw [setting?_of_get? hlower, setting?_of_get? hmerged]
      exact get?_mergeOver hentries lower key

end Settings

end NameKeys.Proofs
