import NameKeys.Proofs.MergedTables

/-!
# Tables that are kept

While a program runs, a table is kept at a place, can be changed there and may be an entry of
several others. Merging kept tables copies the base to a new place, changes nothing but copies that
it made itself, and leaves there what merging gives for tables as values. So whatever shares tables
with the base, the overriding table or both finds them unchanged.
-/

namespace NameKeys.Proofs

/-- What stands at a key of a kept table: a value that is no table, or the place of one. -/
inductive Slot where
  | plain (value : Value)
  | place (n : Nat)

/-- The tables that are kept, by place. -/
abbrev Store := List (Entries Slot)

namespace Store

def entriesAt (s : Store) (place : Nat) : Entries Slot := s.getD place []

/-- The store with something at a key of the table at a place. -/
def write (s : Store) (place : Nat) (key : Text) (slot : Slot) : Store :=
  s.modify place (Entries.put key slot)

/-- One entry of an overriding table assigned in a copy of the base. -/
def assign (merge : Store → Nat → Nat → Option (Store × Nat)) (copy : Nat) (s : Store)
    (entry : Text × Slot) : Option Store :=
  match (s.entriesAt copy).get? entry.1, entry.2 with
  | some (.place lower), .place upper =>
    (merge s lower upper).map fun merged => merged.1.write copy entry.1 (.place merged.2)
  | _, slot => some (s.write copy entry.1 slot)

/-- The store after the table at one place is overridden by the table at another, and the place of
what comes of it. Overriding tables may be nested as deep as `depth`. -/
def merge : (depth : Nat) → Store → (base override : Nat) → Option (Store × Nat)
  | 0, _, _, _ => none
  | depth + 1, s, base, override =>
    ((s.entriesAt override).foldlM (assign (merge depth) s.length) (s ++ [s.entriesAt base])).map
      fun after => (after, s.length)

end Store

/-! ### What slots stand for -/

/-- Whether a slot stands for a value, with the tables in it nested no deeper than `depth` and kept
at places that are not to be avoided. -/
def StandsFor (s : Store) (avoided : Nat → Prop) : (depth : Nat) → Slot → Value → Prop
  | _, .plain value, v => v = value ∧ ¬ IsTable (some value)
  | 0, .place _, _ => False
  | depth + 1, .place n, v => ¬ avoided n ∧ ∃ slots entries, s[n]? = some slots ∧
      v = .table entries ∧
      List.Forall₂ (fun a b => a.1 = b.1 ∧ StandsFor s avoided depth a.2 b.2) slots entries

/-- Whether slots stand for the values of entries, key by key. -/
def StandForEntries (s : Store) (avoided : Nat → Prop) (depth : Nat) :
    Entries Slot → Table → Prop :=
  List.Forall₂ fun a b => a.1 = b.1 ∧ StandsFor s avoided depth a.2 b.2

def IsKept (s : Store) (depth place : Nat) (entries : Table) : Prop :=
  StandsFor s (fun _ => False) depth (.place place) (.table entries)

section Slots

variable {s s' : Store} {avoided avoided' : Nat → Prop} {depth depth' n : Nat} {slot : Slot}
  {value : Value} {slots : Entries Slot} {entries : Table}

lemma standsFor_table_iff :
    StandsFor s avoided (depth + 1) (.place n) (.table entries) ↔
      ¬ avoided n ∧
        ∃ slots, s[n]? = some slots ∧ StandForEntries s avoided depth slots entries := by
  constructor
  · rintro ⟨hn, slots, _, hslots, heq, h⟩
    obtain rfl := Value.table.inj heq
    exact ⟨hn, slots, hslots, h⟩
  · rintro ⟨hn, slots, hslots, h⟩
    exact ⟨hn, slots, entries, hslots, rfl, h⟩

lemma standsFor_plain (h : ¬ IsTable (some value)) :
    StandsFor s avoided depth (.plain value) value := by
  cases depth with
  | zero => exact ⟨rfl, h⟩
  | succ depth => exact ⟨rfl, h⟩

lemma StandsFor.isTable_iff (h : StandsFor s avoided depth slot value) :
    IsTable (some value) ↔ ∃ n, slot = .place n := by
  cases slot with
  | plain v =>
    have hv : value = v ∧ ¬ IsTable (some v) := by cases depth <;> exact h
    rw [hv.1]
    exact iff_of_false hv.2 nofun
  | place n =>
    cases depth with
    | zero => exact h.elim
    | succ depth =>
      obtain ⟨-, -, entries, -, rfl, -⟩ := h
      exact iff_of_true ⟨entries, rfl⟩ ⟨n, rfl⟩

/-- What slots stand for depends on the places that are not avoided only. -/
lemma StandsFor.transfer (h : StandsFor s avoided depth slot value) (hdepth : depth ≤ depth')
    (hs : ∀ n slots, ¬ avoided n → s[n]? = some slots → ¬ avoided' n ∧ s'[n]? = some slots) :
    StandsFor s' avoided' depth' slot value := by
  induction depth generalizing slot value depth' with
  | zero =>
    cases slot with
    | plain v =>
      cases depth' with
      | zero => exact h
      | succ depth' => exact h
    | place n => exact h.elim
  | succ depth ih =>
    obtain ⟨deeper, rfl⟩ : ∃ deeper, depth' = deeper + 1 := ⟨depth' - 1, by omega⟩
    cases slot with
    | plain v => exact h
    | place n =>
      obtain ⟨hn, slots, entries, hslots, rfl, hentries⟩ := h
      obtain ⟨hn', hslots'⟩ := hs n slots hn hslots
      refine ⟨hn', slots, entries, hslots', rfl, hentries.imp fun a b hab => ?_⟩
      exact ⟨hab.1, ih hab.2 (by omega)⟩

lemma StandForEntries.transfer (h : StandForEntries s avoided depth slots entries)
    (hdepth : depth ≤ depth')
    (hs : ∀ n slots, ¬ avoided n → s[n]? = some slots → ¬ avoided' n ∧ s'[n]? = some slots) :
    StandForEntries s' avoided' depth' slots entries :=
  h.imp fun _ _ hab => ⟨hab.1, hab.2.transfer hdepth hs⟩

lemma StandForEntries.get? (h : StandForEntries s avoided depth slots entries) (key : Text) :
    Option.Rel (StandsFor s avoided depth) (slots.get? key) (entries.get? key) := by
  induction h with
  | nil => exact .none
  | @cons a b slots entries hab _ ih =>
    obtain ⟨name, slot⟩ := a
    obtain ⟨name', value⟩ := b
    obtain ⟨rfl, hslot⟩ := hab
    rw [get?_cons, get?_cons]
    split
    · exact .some hslot
    · exact ih

lemma StandForEntries.isTable_get?_iff (h : StandForEntries s avoided depth slots entries)
    (key : Text) : IsTable (entries.get? key) ↔ ∃ n, slots.get? key = some (.place n) := by
  have hrel := h.get? key
  generalize slots.get? key = slot? at hrel
  generalize entries.get? key = value? at hrel
  cases hrel with
  | some hslot => exact hslot.isTable_iff.trans (by simp)
  | none => exact iff_of_false nofun nofun

lemma StandForEntries.put (h : StandForEntries s avoided depth slots entries) (key : Text)
    (hslot : StandsFor s avoided depth slot value) :
    StandForEntries s avoided depth (slots.put key slot) (entries.put key value) := by
  induction h with
  | nil => exact .cons ⟨rfl, hslot⟩ .nil
  | @cons a b slots entries hab hrest ih =>
    obtain ⟨name, old⟩ := a
    obtain ⟨name', below⟩ := b
    obtain ⟨rfl, hold⟩ := hab
    rw [Entries.put, Entries.put]
    split
    · exact .cons ⟨rfl, hslot⟩ hrest
    · exact .cons ⟨rfl, hold⟩ ih

end Slots

/-! ### Overriding a copy -/

section Copies

variable {before now s : Store} {avoided : Nat → Prop} {depth limit n : Nat} {slot : Slot}
  {value : Value} {slots : Entries Slot} {entries : Table}

lemma getElem?_of_isPrefix (h : before <+: now) (hslots : before[n]? = some slots) :
    now[n]? = some slots := by
  obtain ⟨added, rfl⟩ := h
  obtain ⟨hn, -⟩ := List.getElem?_eq_some_iff.mp hslots
  rw [List.getElem?_append_left hn, hslots]

lemma lt_length (h : s[n]? = some slots) : n < s.length := (List.getElem?_eq_some_iff.mp h).1

lemma entriesAt_eq (h : s[n]? = some slots) : s.entriesAt n = slots := by
  rw [Store.entriesAt, List.getD_eq_getElem?_getD, h]
  rfl

lemma getElem?_write (key : Text) (slot : Slot) (h : s[n]? = some slots) :
    (s.write n key slot)[n]? = some (slots.put key slot) := by
  rw [Store.write, List.getElem?_modify, h]
  simp

lemma getElem?_write_of_ne {other : Nat} (hne : n ≠ other) (key : Text) (slot : Slot) :
    (s.write other key slot)[n]? = s[n]? := by
  rw [Store.write, List.getElem?_modify]
  simp [Ne.symm hne]

lemma isPrefix_write (h : before <+: now) (key : Text) (slot : Slot) :
    before <+: now.write before.length key slot := by
  rw [List.prefix_iff_getElem?] at h ⊢
  intro n hn
  rw [getElem?_write_of_ne (Nat.ne_of_lt hn), h n hn]

/-- Whether everything that was kept before is as it was, and a copy made since stands for a table
without being a part of it. -/
structure IsCopying (before now : Store) (avoided : Nat → Prop) (depth : Nat) (entries : Table) :
    Prop where
  kept : before <+: now
  copy : ∃ slots, now[before.length]? = some slots ∧
    StandForEntries now (fun n => avoided n ∨ n = before.length) depth slots entries

/-- Whether a way of merging kept tables gives, in a new place, what merging gives for tables as
values, where the overriding table is nested no deeper than `depth`. -/
def MergesKept (merge : Store → Nat → Nat → Option (Store × Nat)) (depth : Nat) : Prop :=
  ∀ (s : Store) (avoided : Nat → Prop) (limit base override : Nat) (lower upper : Table),
    (∀ n, avoided n → n < s.length) → depth ≤ limit →
    StandsFor s avoided limit (.place base) (.table lower) →
    StandsFor s avoided depth (.place override) (.table upper) →
    ∃ after, merge s base override = some (after, s.length) ∧ s <+: after ∧
      StandsFor after avoided limit (.place s.length) (.table (Table.merge lower upper))

lemma IsCopying.write (h : IsCopying before now avoided depth entries) (key : Text)
    (hslot : StandsFor now (fun n => avoided n ∨ n = before.length) depth slot value) :
    IsCopying before (now.write before.length key slot) avoided depth (entries.put key value) := by
  obtain ⟨slots, hslots, hentries⟩ := h.copy
  refine ⟨isPrefix_write h.kept key slot, slots.put key slot, getElem?_write key slot hslots, ?_⟩
  refine (hentries.put key hslot).transfer (Nat.le_refl depth) fun n other hn hother => ⟨hn, ?_⟩
  rw [getElem?_write_of_ne (fun heq => hn (.inr heq)), hother]

lemma IsCopying.extend {after : Store} (h : IsCopying before now avoided depth entries)
    (hkept : now <+: after) : IsCopying before after avoided depth entries := by
  obtain ⟨slots, hslots, hentries⟩ := h.copy
  refine ⟨h.kept.trans hkept, slots, getElem?_of_isPrefix hkept hslots, ?_⟩
  exact hentries.transfer (Nat.le_refl depth) fun n other hn hother =>
    ⟨hn, getElem?_of_isPrefix hkept hother⟩

lemma assign_places {merge : Store → Nat → Nat → Option (Store × Nat)} {key : Text}
    {copy lower upper : Nat} (h : (s.entriesAt copy).get? key = some (.place lower)) :
    Store.assign merge copy s (key, .place upper) =
      (merge s lower upper).map fun merged => merged.1.write copy key (.place merged.2) := by
  simp only [Store.assign, h]

lemma assign_of_not_places {merge : Store → Nat → Nat → Option (Store × Nat)} {key : Text}
    {copy : Nat}
    (h : ¬ ∃ lower upper, (s.entriesAt copy).get? key = some (.place lower) ∧ slot = .place upper) :
    Store.assign merge copy s (key, slot) = some (s.write copy key slot) := by
  unfold Store.assign
  split
  · next lower upper hlower hupper => exact absurd ⟨lower, upper, hlower, hupper⟩ h
  · rfl

lemma assign_of_isCopying {merge : Store → Nat → Nat → Option (Store × Nat)}
    (hmerge : MergesKept merge depth) (hdepth : depth ≤ limit)
    (havoided : ∀ n, avoided n → n < before.length)
    (h : IsCopying before now avoided limit entries) (key : Text)
    (hslot : StandsFor before avoided depth slot value) :
    ∃ next, Store.assign merge before.length now (key, slot) = some next ∧
      IsCopying before next avoided limit
        (entries.put key (value.mergeOver (entries.get? key))) := by
  obtain ⟨slots, hslots, hentries⟩ := h.copy
  have hnow : StandsFor now (fun n => avoided n ∨ n = before.length) depth slot value :=
    hslot.transfer (Nat.le_refl depth) fun n other hn hother =>
      ⟨not_or.mpr ⟨hn, Nat.ne_of_lt (lt_length hother)⟩, getElem?_of_isPrefix h.kept hother⟩
  by_cases hplaces : ∃ lower upper, slots.get? key = some (.place lower) ∧ slot = .place upper
  · obtain ⟨lower, upper, hlower, rfl⟩ := hplaces
    obtain ⟨above, hover⟩ := hslot.isTable_iff.mpr ⟨upper, rfl⟩
    obtain rfl := Option.some.inj hover
    obtain ⟨below, hunder⟩ := (hentries.isTable_get?_iff key).mpr ⟨lower, hlower⟩
    have hrel := hentries.get? key
    rw [hlower, hunder] at hrel
    obtain ⟨hlowerSlot⟩ := hrel
    have hcopy : before.length < now.length := lt_length hslots
    have hlength : ∀ n, avoided n ∨ n = before.length → n < now.length := by
      rintro n (hn | rfl)
      · exact Nat.lt_trans (havoided n hn) hcopy
      · exact hcopy
    obtain ⟨after, hmerged, hkept, hresult⟩ :=
      hmerge now _ limit lower upper below above hlength hdepth hlowerSlot hnow
    refine ⟨after.write before.length key (.place now.length), ?_, ?_⟩
    · rw [assign_places (by rw [entriesAt_eq hslots, hlower]), hmerged]
      rfl
    · rw [hunder]
      exact (h.extend hkept).write key hresult
  · have hnot : ¬ (IsTable (some value) ∧ IsTable (entries.get? key)) := by
      rintro ⟨hvalue, hbelow⟩
      obtain ⟨upper, hupper⟩ := hslot.isTable_iff.mp hvalue
      obtain ⟨lower, hlower⟩ := (hentries.isTable_get?_iff key).mp hbelow
      exact hplaces ⟨lower, upper, hlower, hupper⟩
    rw [mergeOver_of_not_tables hnot]
    refine ⟨_, assign_of_not_places ?_, h.write key (hnow.transfer hdepth fun n other hn hother =>
      ⟨hn, hother⟩)⟩
    rwa [entriesAt_eq hslots]

lemma foldlM_assign_of_isCopying {merge : Store → Nat → Nat → Option (Store × Nat)}
    (hmerge : MergesKept merge depth) (hdepth : depth ≤ limit)
    (havoided : ∀ n, avoided n → n < before.length)
    (h : IsCopying before now avoided limit entries) {override : Table}
    (hslots : StandForEntries before avoided depth slots override) :
    ∃ after, slots.foldlM (Store.assign merge before.length) now = some after ∧
      IsCopying before after avoided limit (Table.mergeOver override entries) := by
  induction hslots generalizing now entries with
  | nil => exact ⟨now, rfl, h⟩
  | @cons a b slots override hab _ ih =>
    obtain ⟨key, slot⟩ := a
    obtain ⟨name, value⟩ := b
    obtain ⟨rfl, hslot⟩ := hab
    obtain ⟨next, hnext, hcopying⟩ := assign_of_isCopying hmerge hdepth havoided h key hslot
    obtain ⟨after, hafter, hmerged⟩ := ih hcopying
    refine ⟨after, ?_, hmerged⟩
    rw [List.foldlM_cons, hnext]
    exact hafter

/-- Kept tables are merged as their values are, whatever they share, and stay as they were. -/
lemma mergesKept (depth : Nat) : MergesKept (Store.merge depth) depth := by
  -- The overriding table's entries are one level less deep, and the copy is what they may not touch
  -- while they are merged themselves.
  induction depth with
  | zero =>
    intro s avoided limit base override lower upper _ _ _ hover
    exact hover.elim
  | succ depth ih =>
    intro s avoided limit base override lower upper havoided hdepth hbase hover
    obtain ⟨shallower, rfl⟩ : ∃ shallower, limit = shallower + 1 := ⟨limit - 1, by omega⟩
    obtain ⟨-, slots, hslots, hentries⟩ := standsFor_table_iff.mp hbase
    obtain ⟨-, overSlots, hoverSlots, hoverEntries⟩ := standsFor_table_iff.mp hover
    have hcopying : IsCopying s (s ++ [slots]) avoided shallower lower := by
      refine ⟨List.prefix_append s [slots], slots, by simp, ?_⟩
      exact hentries.transfer (Nat.le_refl shallower) fun n other hn hother =>
        ⟨not_or.mpr ⟨hn, Nat.ne_of_lt (lt_length hother)⟩,
          getElem?_of_isPrefix (List.prefix_append s [slots]) hother⟩
    obtain ⟨after, hafter, hmerged⟩ := foldlM_assign_of_isCopying ih (by omega) havoided hcopying
      hoverEntries
    obtain ⟨copied, hcopied, hvalues⟩ := hmerged.copy
    refine ⟨after, ?_, hmerged.kept, ?_⟩
    · rw [Store.merge, entriesAt_eq hslots, entriesAt_eq hoverSlots, hafter]
      rfl
    · refine standsFor_table_iff.mpr
        ⟨fun hn => Nat.lt_irrefl _ (havoided _ hn), copied, hcopied, ?_⟩
      exact hvalues.transfer (Nat.le_refl shallower) fun n other hn hother =>
        ⟨fun havoid => hn (.inl havoid), hother⟩

end Copies

end NameKeys.Proofs
