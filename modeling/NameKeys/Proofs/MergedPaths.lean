import NameKeys.Proofs.KeptTables

/-!
# Paths through merged tables

A path of keys leads from a table through tables in it. What a merged table holds at the end of a
path depends on how far both tables have tables along it: while both have, they are merged, and
where this ends for the first time the overriding table decides, save where it has nothing at all.
-/

namespace NameKeys.Proofs

/-- What a value holds at the end of a path of keys, all but the last of which lead to tables. -/
def reached? : (path : List Text) → Value → Option Value
  | [], value => some value
  | key :: path, .table entries => (Entries.get? key entries).bind (reached? path)
  | _ :: _, _ => none

/-- Whether all tables in a value hold each key once. -/
def HoldsKeysOnce (value : Value) : Prop :=
  ∀ path entries, reached? path value = some (.table entries) → (Entries.keys entries).Nodup

/-- Whether a path cannot be followed in a value beyond this beginning of it. -/
structure EndsAt (value : Value) (path beginning : List Text) : Prop where
  isBeginning : beginning <+: path
  reached : reached? beginning value ≠ none
  longest : ∀ other, other <+: path → reached? other value ≠ none → other.length ≤ beginning.length

section Paths

variable {value : Value} {entries override base : Table} {key : Text} {path rest : List Text}

/-! ### Following paths -/

lemma reached?_cons_table (key : Text) (path : List Text) (entries : Table) :
    reached? (key :: path) (.table entries) = (entries.get? key).bind (reached? path) := rfl

lemma reached?_cons_of_not_table (h : ¬ IsTable (some value)) :
    reached? (key :: path) value = none := by
  cases value with
  | table entries => exact absurd ⟨entries, rfl⟩ h
  | _ => rfl

lemma reached?_append (path rest : List Text) (value : Value) :
    reached? (path ++ rest) value = (reached? path value).bind (reached? rest) := by
  induction path generalizing value with
  | nil => rfl
  | cons key path ih =>
    by_cases h : IsTable (some value)
    · obtain ⟨entries, hentries⟩ := h
      obtain rfl := Option.some.inj hentries
      rw [List.cons_append, reached?_cons_table, reached?_cons_table, Option.bind_assoc]
      exact congrArg _ (funext ih)
    · rw [List.cons_append, reached?_cons_of_not_table h, reached?_cons_of_not_table h]
      rfl

lemma HoldsKeysOnce.keys (h : HoldsKeysOnce (.table entries)) : entries.keys.Nodup :=
  h [] entries rfl

lemma HoldsKeysOnce.get? (h : HoldsKeysOnce (.table entries))
    (hget : entries.get? key = some value) : HoldsKeysOnce value := by
  intro path inner hinner
  apply h (key :: path) inner
  rw [reached?_cons_table, hget]
  exact hinner

lemma holdsKeysOnce_of_not_table (h : ¬ IsTable (some value)) : HoldsKeysOnce value := by
  intro path entries hreached
  cases path with
  | nil => exact absurd ⟨entries, hreached⟩ h
  | cons key path =>
    rw [reached?_cons_of_not_table h] at hreached
    cases hreached

lemma holdsKeysOnce_table (hkeys : entries.keys.Nodup) (h : ∀ e ∈ entries, HoldsKeysOnce e.2) :
    HoldsKeysOnce (.table entries) := by
  intro path inner hreached
  cases path with
  | nil =>
    obtain rfl := Value.table.inj (Option.some.inj hreached)
    exact hkeys
  | cons key path =>
    obtain ⟨value, hget, hvalue⟩ := Option.bind_eq_some_iff.mp hreached
    exact h _ (mem_of_get? hget) path inner hvalue

lemma exists_endsAt (path : List Text) (value : Value) :
    ∃ beginning, EndsAt value path beginning := by
  induction path generalizing value with
  | nil =>
    refine ⟨[], List.prefix_rfl, nofun, fun other hother _ => ?_⟩
    exact hother.length_le
  | cons key path ih =>
    cases hkey : reached? [key] value with
    | none =>
      refine ⟨[], List.nil_prefix, nofun, fun other hother hreached => ?_⟩
      cases other with
      | nil => exact Nat.le_refl _
      | cons first other =>
        obtain ⟨rfl, -⟩ := List.cons_prefix_cons.mp hother
        have hnone : reached? ([first] ++ other) value = none := by
          rw [reached?_append, hkey]
          rfl
        exact absurd hnone hreached
    | some next =>
      have hnext : ∀ rest, reached? (key :: rest) value = reached? rest next := fun rest => by
        have happend := reached?_append [key] rest value
        rwa [hkey] at happend
      obtain ⟨beginning, hends⟩ := ih next
      refine ⟨key :: beginning, List.cons_prefix_cons.mpr ⟨rfl, hends.isBeginning⟩, ?_, ?_⟩
      · rw [hnext]
        exact hends.reached
      · intro other hother hreached
        cases other with
        | nil => exact Nat.zero_le _
        | cons first other =>
          obtain ⟨rfl, hrest⟩ := List.cons_prefix_cons.mp hother
          rw [hnext] at hreached
          exact Nat.succ_le_succ (hends.longest other hrest hreached)

/-! ### Merging along paths -/

lemma reached?_mergeOver {above : Value} (hkeys : HoldsKeysOnce above)
    (h : reached? path above = some value) (below : Option Value) :
    reached? path (above.mergeOver below) =
      some (value.mergeOver (below.bind (reached? path))) := by
  induction path generalizing above below with
  | nil =>
    obtain rfl := Option.some.inj h
    have hbelow : below.bind (reached? []) = below := Option.bind_fun_some below
    rw [hbelow]
    rfl
  | cons key path ih =>
    by_cases htables : IsTable (some above) ∧ IsTable below
    · obtain ⟨⟨upper, hupper⟩, lower, rfl⟩ := htables
      obtain rfl := Option.some.inj hupper
      obtain ⟨next, hnext, hreached⟩ := Option.bind_eq_some_iff.mp h
      have hmerged := get?_mergeOver hkeys.keys lower key
      rw [hnext] at hmerged
      have hstep := ih (hkeys.get? hnext) hreached (Entries.get? key lower)
      rw [Value.mergeOver, reached?_cons_table, hmerged]
      exact hstep
    · -- What is merged is the overriding value, and no path leads on from what is below.
      have hbelow : value.mergeOver (below.bind (reached? (key :: path))) = value := by
        by_cases hover : IsTable (some above)
        · have hnone : below.bind (reached? (key :: path)) = none := by
            cases below with
            | none => rfl
            | some lower => exact reached?_cons_of_not_table fun hlower => htables ⟨hover, hlower⟩
          rw [hnone, mergeOver_none]
        · rw [reached?_cons_of_not_table hover] at h
          cases h
      rw [mergeOver_of_not_tables htables, hbelow, h]

/-- What a merged value holds at the end of a path. -/
structure IsMergedAt (base override merged : Value) (path : List Text) : Prop where
  value : ∀ value, reached? path override = some value → ¬ IsTable (some value) →
    reached? path merged = some value
  tables : ∀ upper lower : Table, reached? path override = some (.table upper) →
    reached? path base = some (.table lower) →
    reached? path merged = some (.table (Table.merge lower upper)) ∧
      (Table.merge lower upper).keys = lower.keys ++ upper.keys.filter (· ∉ lower.keys)
  table : ∀ upper, reached? path override = some (.table upper) → ¬ IsTable (reached? path base) →
    reached? path merged = some (.table upper)
  nothing : reached? path override = none → ∃ beginning, EndsAt override path beginning ∧
    (IsTable (reached? beginning override) ∧ IsTable (reached? beginning base) →
      reached? path merged = reached? path base) ∧
    (¬ (IsTable (reached? beginning override) ∧ IsTable (reached? beginning base)) →
      reached? path merged = none)

lemma reached?_mergeOver_of_endsAt {above below : Value} (hkeys : HoldsKeysOnce above)
    {beginning : List Text} (hnothing : reached? path above = none)
    (hends : EndsAt above path beginning) :
    (IsTable (reached? beginning above) ∧ IsTable (reached? beginning below) →
      reached? path (above.mergeOver (some below)) = reached? path below) ∧
    (¬ (IsTable (reached? beginning above) ∧ IsTable (reached? beginning below)) →
      reached? path (above.mergeOver (some below)) = none) := by
  obtain ⟨rest, rfl⟩ := hends.isBeginning
  obtain ⟨last, hlast⟩ := Option.ne_none_iff_exists'.mp hends.reached
  have hmerged : reached? (beginning ++ rest) (above.mergeOver (some below)) =
      reached? rest (last.mergeOver (reached? beginning below)) := by
    rw [reached?_append, reached?_mergeOver hkeys hlast]
    rfl
  have hrest : reached? rest last = none := by
    rwa [reached?_append, hlast] at hnothing
  rw [hmerged, hlast]
  constructor
  · rintro ⟨⟨upper, hupper⟩, lower, hlower⟩
    obtain rfl := Option.some.inj hupper
    cases rest with
    | nil => cases hrest
    | cons key rest =>
      have hkey : Entries.get? key upper = none := by
        by_contra hsome
        have hfurther : reached? (beginning ++ [key]) above ≠ none := by
          rw [reached?_append, hlast]
          simpa [reached?_cons_table, reached?] using hsome
        have hlonger := hends.longest (beginning ++ [key]) ⟨rest, by simp⟩ hfurther
        rw [List.length_append, List.length_singleton] at hlonger
        omega
      have hget := get?_mergeOver (hkeys (beginning) upper hlast) lower key
      rw [hkey] at hget
      rw [reached?_append, hlower, Option.bind_some, Value.mergeOver, reached?_cons_table, hget]
      rfl
  · intro htables
    rw [mergeOver_of_not_tables htables, hrest]

end Paths

/-! ### Keys -/

section Keys

variable {base override : Table}

lemma keys_mergeOver (h : override.keys.Nodup) (base : Table) :
    (Table.mergeOver override base).keys =
      base.keys ++ override.keys.filter (· ∉ base.keys) := by
  induction override generalizing base with
  | nil => simp [Table.mergeOver, Entries.keys]
  | cons entry rest ih =>
    obtain ⟨name, value⟩ := entry
    obtain ⟨hname, hrest⟩ := List.nodup_cons.mp h
    have hkeys : Entries.keys ((name, value) :: rest) = name :: Entries.keys rest := rfl
    rw [table_mergeOver_cons, ih hrest, keys_put, hkeys]
    by_cases hmem : name ∈ base.keys
    · rw [if_pos hmem, List.filter_cons_of_neg (by simpa using hmem)]
    · have hfilter : (Entries.keys rest).filter (· ∉ base.keys ++ [name]) =
          (Entries.keys rest).filter (· ∉ base.keys) := by
        refine List.filter_congr fun key hkey => ?_
        have hne : key ≠ name := fun heq => hname (heq ▸ hkey)
        simp [hne]
      rw [if_neg hmem, List.filter_cons_of_pos (by simpa using hmem), hfilter]
      simp

end Keys

/-! ### Merging with nothing and with itself -/

section Identities

variable {entries : Table}

lemma put_of_not_mem {α : Type} {key : Text} {entries : Entries α} (h : key ∉ entries.keys)
    (item : α) : entries.put key item = entries ++ [(key, item)] := by
  induction entries with
  | nil => rfl
  | cons entry rest ih =>
    obtain ⟨name, old⟩ := entry
    obtain ⟨hname, hrest⟩ := List.ne_and_not_mem_of_not_mem_cons h
    rw [Entries.put, if_neg (Ne.symm hname), ih hrest]
    rfl

lemma mergeOver_of_disjoint {override base : Table} (h : override.keys.Nodup)
    (hdisjoint : ∀ key ∈ override.keys, key ∉ base.keys) :
    Table.mergeOver override base = base ++ override := by
  induction override generalizing base with
  | nil => exact (List.append_nil base).symm
  | cons entry rest ih =>
    obtain ⟨name, value⟩ := entry
    obtain ⟨hname, hrest⟩ := List.nodup_cons.mp h
    have hnew : name ∉ base.keys := hdisjoint name (List.mem_cons_self ..)
    rw [table_mergeOver_cons, get?_eq_none hnew, mergeOver_none, put_of_not_mem hnew, ih hrest]
    · exact List.append_assoc base [(name, value)] rest
    · intro key hkey
      have hne : key ≠ name := fun heq => hname (heq ▸ hkey)
      have hold : key ∉ base.keys := hdisjoint key (List.mem_cons_of_mem _ hkey)
      have hkeys : Entries.keys (base ++ [(name, value)]) = base.keys ++ [name] :=
        List.map_append ..
      rw [hkeys]
      simp [hne, hold]

lemma nil_merge (h : entries.keys.Nodup) : Table.merge [] entries = entries :=
  mergeOver_of_disjoint h fun _ _ => List.not_mem_nil

lemma get?_append_cons {α : Type} {key : Text} {before : Entries α} (h : key ∉ before.keys)
    (item : α) (rest : Entries α) :
    Entries.get? key (before ++ (key, item) :: rest) = some item := by
  induction before with
  | nil => exact (get?_cons ..).trans (if_pos rfl)
  | cons entry before ih =>
    obtain ⟨name, old⟩ := entry
    obtain ⟨hname, hbefore⟩ := List.ne_and_not_mem_of_not_mem_cons h
    rw [List.cons_append, get?_cons, if_neg hname, ih hbefore]

lemma put_append_cons {α : Type} {key : Text} {before : Entries α} (h : key ∉ before.keys)
    (item : α) (rest : Entries α) :
    Entries.put key item (before ++ (key, item) :: rest) = before ++ (key, item) :: rest := by
  induction before with
  | nil => simp [Entries.put]
  | cons entry before ih =>
    obtain ⟨name, old⟩ := entry
    obtain ⟨hname, hbefore⟩ := List.ne_and_not_mem_of_not_mem_cons h
    rw [List.cons_append, Entries.put, if_neg (Ne.symm hname), ih hbefore]

mutual

lemma mergeOver_self : (value : Value) → HoldsKeysOnce value → value.mergeOver (some value) = value
  | .table entries, h =>
    congrArg Value.table (mergeOver_append_self entries [] h.keys fun (_, _) he =>
      h.get? (get?_of_mem h.keys he))
  | .null, _ | .bool _, _ | .int _, _ | .float _, _ | .text _, _ | .bytes _, _ | .list _, _
  | .tuple _, _ | .set _, _ | .generator _, _ | .option _, _ | .form _, _ | .fold _, _
  | .moment _, _ => rfl
termination_by structural value => value

lemma mergeOver_append_self : (rest : List (Text × Value)) → (before : Table) →
    (Entries.keys (before ++ rest)).Nodup → (∀ e ∈ rest, HoldsKeysOnce e.2) →
    Table.mergeOver rest (before ++ rest) = before ++ rest
  | [], _, _, _ => rfl
  | (name, value) :: rest, before, hkeys, hrest => by
    have happend : before ++ (name, value) :: rest = before ++ [(name, value)] ++ rest :=
      (List.append_assoc before [(name, value)] rest).symm
    have hnew : name ∉ before.keys := by
      have hnodup : (before.keys ++ name :: Entries.keys rest).Nodup := by
        simpa [Entries.keys] using hkeys
      exact fun hmem => (List.disjoint_of_nodup_append hnodup hmem (List.mem_cons_self ..))
    have hself : value.mergeOver (some value) = value :=
      mergeOver_self value (hrest (name, value) (List.mem_cons_self ..))
    rw [table_mergeOver_cons, get?_append_cons hnew, hself, put_append_cons hnew, happend]
    exact mergeOver_append_self rest (before ++ [(name, value)]) (happend ▸ hkeys) fun e he =>
      hrest e (List.mem_cons_of_mem _ he)
termination_by structural rest => rest

end

end Identities

/-- A merged table holds at the end of every path what the overriding table has there, merged with
what the base has if both are tables. Where the overriding table has nothing, the base stands if
both have tables as far as the path leads in the overriding one, and otherwise nothing does. Keys of
the base keep their places and new ones follow. Where the tables are kept, what comes of them is
kept at a new place and everything that was kept before is as it was. -/
theorem merge_along_paths (base : Table) {override : Table} (hkeys : HoldsKeysOnce (.table override)) :
    (∀ path, IsMergedAt (.table base) (.table override) (.table (Table.merge base override)) path) ∧
    (∀ (s : Store) (depth lower upper : Nat),
      IsKept s depth lower base → IsKept s depth upper override →
      ∃ after, Store.merge depth s lower upper = some (after, s.length) ∧ s <+: after ∧
        IsKept after depth s.length (Table.merge base override)) ∧
    Table.merge base [] = base ∧ Table.merge [] override = override ∧
    Table.merge override override = override := by
  refine ⟨fun path => ⟨?_, ?_, ?_, ?_⟩, ?_, rfl, nil_merge hkeys.keys, ?_⟩
  · intro value hvalue hnot
    have hmerged := reached?_mergeOver hkeys hvalue (some (.table base))
    rw [mergeOver_of_not_tables fun h => hnot h.1] at hmerged
    exact hmerged
  · intro upper lower hupper hlower
    have hmerged := reached?_mergeOver hkeys hupper (some (.table base))
    rw [Option.bind_some, hlower] at hmerged
    exact ⟨hmerged, keys_mergeOver (hkeys path upper hupper) lower⟩
  · intro upper hupper hnot
    have hmerged := reached?_mergeOver hkeys hupper (some (.table base))
    rw [Option.bind_some, mergeOver_of_not_tables fun h => hnot h.2] at hmerged
    exact hmerged
  · intro hnothing
    obtain ⟨beginning, hends⟩ := exists_endsAt path (.table override)
    exact ⟨beginning, hends, reached?_mergeOver_of_endsAt hkeys hnothing hends⟩
  · intro s depth lower upper hlower hupper
    exact mergesKept depth s _ depth lower upper base override (fun _ => False.elim)
      (Nat.le_refl depth) hlower hupper
  · exact Value.table.inj (mergeOver_self (.table override) hkeys)

/-- Two tables and, in the last two places, a base and an overriding table that share one of them.
-/
def sharingStore : Store := [
  [("x", .plain (.int 1))],
  [("x", .plain (.int 2))],
  [("a", .place 0), ("c", .plain (.int 3)), ("d", .place 0)],
  [("d", .plain (.int 4)), ("a", .place 1), ("b", .place 0), ("c", .place 1)]]

def sharingBase : Table :=
  [("a", .table [("x", .int 1)]), ("c", .int 3), ("d", .table [("x", .int 1)])]

def sharingOverride : Table :=
  [("d", .int 4), ("a", .table [("x", .int 2)]), ("b", .table [("x", .int 1)]),
    ("c", .table [("x", .int 2)])]

theorem merge_along_shared_paths :
    HoldsKeysOnce (.table sharingOverride) ∧
    (∀ path, IsMergedAt (.table sharingBase) (.table sharingOverride) (.table
      [("a", .table [("x", .int 2)]), ("c", .table [("x", .int 2)]), ("d", .int 4),
        ("b", .table [("x", .int 1)])]) path) ∧
    ∃ after, Store.merge 2 sharingStore 2 3 = some (after, 4) ∧ sharingStore <+: after ∧
      IsKept after 2 4 (Table.merge sharingBase sharingOverride) := by
  have hint : ∀ n, HoldsKeysOnce (.int n) := fun n => holdsKeysOnce_of_not_table nofun
  have hinner : ∀ n, HoldsKeysOnce (.table [("x", .int n)]) := fun n =>
    holdsKeysOnce_table (List.nodup_singleton _) (by simp [hint])
  have hkeys : HoldsKeysOnce (.table sharingOverride) :=
    holdsKeysOnce_table (by decide +kernel) (by simp [sharingOverride, hint, hinner])
  have hplain : ∀ depth n,
      StandsFor sharingStore (fun _ => False) depth (.plain (.int n)) (.int n) :=
    fun _ _ => standsFor_plain nofun
  have hshared : ∀ (place : Nat) (n : Int),
      sharingStore[place]? = some [(Text.ofString "x", Slot.plain (.int n))] →
      StandsFor sharingStore (fun _ => False) 1 (.place place) (.table [("x", .int n)]) :=
    fun place n hplace =>
      standsFor_table_iff.mpr ⟨id, _, hplace, .cons (And.intro rfl (hplain 0 n)) .nil⟩
  have hlower : IsKept sharingStore 2 2 sharingBase :=
    standsFor_table_iff.mpr ⟨id, _, rfl, .cons ⟨rfl, hshared 0 1 rfl⟩
      (.cons ⟨rfl, hplain 1 3⟩ (.cons ⟨rfl, hshared 0 1 rfl⟩ .nil))⟩
  have hupper : IsKept sharingStore 2 3 sharingOverride :=
    standsFor_table_iff.mpr ⟨id, _, rfl, .cons ⟨rfl, hplain 1 4⟩ (.cons ⟨rfl, hshared 1 2 rfl⟩
      (.cons ⟨rfl, hshared 0 1 rfl⟩ (.cons ⟨rfl, hshared 1 2 rfl⟩ .nil)))⟩
  obtain ⟨hpaths, hstored, -⟩ := merge_along_paths sharingBase hkeys
  exact ⟨hkeys, hpaths, hstored sharingStore 2 2 3 hlower hupper⟩

end NameKeys.Proofs
