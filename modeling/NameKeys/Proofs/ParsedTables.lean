import NameKeys.Proofs.MergedTables
import NameKeys.Toml.Document

/-!
# Tables of parsed documents

Whatever a document sets, it sets by putting something at a key or at the end of a list. So no table
of a parsed document holds a key twice, which is what makes looking a setting up the same as reading
the table entry by entry.
-/

namespace NameKeys.Proofs
open Toml

/-! ### Results of what may fail -/

/-- Whether a condition holds of the result, if there is one. -/
def Yields {ε α : Type} (P : α → Prop) (x : Except ε α) : Prop := ∀ a, x = .ok a → P a

section Yields

variable {ε α β : Type} {P : α → Prop} {Q : β → Prop}

lemma Yields.ok {a : α} (h : P a) : Yields P (.ok a : Except ε α) := by
  rintro _ ⟨⟩
  exact h

lemma Yields.error (e : ε) : Yields P (.error e : Except ε α) := nofun

lemma Yields.bind {x : Except ε α} {f : α → Except ε β} (hx : Yields P x)
    (hf : ∀ a, P a → Yields Q (f a)) : Yields Q (x >>= f) := by
  cases x with
  | error e => exact Yields.error e
  | ok a => exact hf a (hx a rfl)

lemma Yields.andThen (x : Except ε α) {f : α → Except ε β} (hf : ∀ a, Yields Q (f a)) :
    Yields Q (x >>= f) :=
  Yields.bind (P := fun _ => True) (fun _ _ => trivial) fun a _ => hf a

end Yields

/-! ### Items -/

/-- Whether every table in an item holds each key once. -/
inductive KeysOnce : Item → Prop
  | bool (b : Bool) : KeysOnce (.bool b)
  | int (n : Int) : KeysOnce (.int n)
  | float (x : Binary64) : KeysOnce (.float x)
  | text (t : Text) : KeysOnce (.text t)
  | moment (m : Moment) : KeysOnce (.moment m)
  | list {items : List Item} (each : ∀ item ∈ items, KeysOnce item) : KeysOnce (.list items)
  | table {isInline : Bool} {entries : Entries Item} (nodup : (Entries.keys entries).Nodup)
    (each : ∀ entry ∈ entries, KeysOnce entry.2) : KeysOnce (.table isInline entries)

namespace KeysOnce

variable {item sub : Item} {items : List Item} {isInline : Bool} {entries : Entries Item}

lemma newTable (isInline : Bool) : KeysOnce (.table isInline []) := .table .nil (by simp)

lemma of_mem (h : KeysOnce (.list items)) (hmem : item ∈ items) : KeysOnce item := by
  cases h with
  | list each => exact each item hmem

lemma concat (h : KeysOnce (.list items)) (hitem : KeysOnce item) :
    KeysOnce (.list (items ++ [item])) := by
  refine .list fun other hother => ?_
  rcases List.mem_append.mp hother with hother | hother
  · exact h.of_mem hother
  · rwa [List.mem_singleton.mp hother]

lemma dropLast (h : KeysOnce (.list items)) : KeysOnce (.list items.dropLast) :=
  .list fun _ hitem => h.of_mem (List.dropLast_subset items hitem)

lemma get? (h : KeysOnce (.table isInline entries)) {key : Text}
    (hsub : Entries.get? key entries = some sub) : KeysOnce sub := by
  cases h with
  | table _ each => exact each _ (mem_of_get? hsub)

lemma getD (h : KeysOnce (.table isInline entries)) (key : Text) (hitem : KeysOnce item) :
    KeysOnce ((Entries.get? key entries).getD item) := by
  cases hsub : Entries.get? key entries with
  | none => exact hitem
  | some sub => exact h.get? hsub

lemma put (h : KeysOnce (.table isInline entries)) (key : Text) (hsub : KeysOnce sub) :
    KeysOnce (.table isInline (Entries.put key sub entries)) := by
  cases h with
  | table nodup each =>
    refine .table (nodup_keys_put key sub nodup) fun entry hentry => ?_
    rcases mem_put hentry with rfl | hentry
    · exact hsub
    · exact each entry hentry

lemma setKey (h : KeysOnce item) (key : Text) (hsub : KeysOnce sub) :
    KeysOnce (setKey key sub item) := by
  cases item with
  | table isInline entries => exact h.put key hsub
  | _ => exact h

end KeysOnce

/-! ### Values and entries -/

lemma keysOnce_number? {t : Text} {item : Item} (h : number? t = some item) : KeysOnce item := by
  unfold number? at h
  simp only at h
  split at h
  · obtain ⟨x, -, rfl⟩ := Option.map_eq_some_iff.mp h
    exact .float _
  · split at h
    · obtain ⟨x, -, rfl⟩ := Option.map_eq_some_iff.mp h
      exact .float _
    · obtain ⟨n, -, rfl⟩ := Option.map_eq_some_iff.mp h
      exact .int _

lemma keysOnce_truth? {t : Text} {x : Except Toml.Fault Item} (h : truth? t = some x) :
    Yields KeysOnce x := by
  unfold truth? at h
  split at h
  · obtain rfl := Option.some.inj h
    exact .ok (.bool true)
  · split at h
    · obtain rfl := Option.some.inj h
      exact .ok (.bool false)
    · split at h
      · obtain rfl := Option.some.inj h
        exact .error _
      · simp at h

lemma keysOnce_readScalar (isPlain : Bool) (t : Text) : Yields KeysOnce (readScalar isPlain t) := by
  unfold readScalar
  split
  · next htruth => exact keysOnce_truth? htruth
  · split
    · exact .ok (.moment _)
    · exact .error _
  · refine Yields.andThen _ fun moment? => ?_
    split
    · exact .ok (.moment _)
    · split
      · next value hvalue =>
        split at hvalue
        · exact .ok (keysOnce_number? hvalue)
        · simp at hvalue
      · exact .error _

lemma keysOnce_alterBelow {α : Type} {change : Item → Except Toml.Fault (Item × α)}
    (hchange : ∀ item, KeysOnce item → Yields (fun r => KeysOnce r.1) (change item))
    (path : List Text) {item : Item} (h : KeysOnce item) :
    Yields (fun r => KeysOnce r.1) (alterBelow change path item) := by
  induction path generalizing item with
  | nil => exact hchange item h
  | cons key path ih =>
    cases item with
    | table isInline entries =>
      refine Yields.bind (ih (h.getD key (.newTable false))) ?_
      rintro ⟨sub, a⟩ hsub
      exact .ok (h.put key hsub)
    | _ => exact .error _

lemma keysOnce_readItems {read : Text → Except Toml.Fault Item} (hread : ∀ t, Yields KeysOnce (read t))
    (kind? : Option Text) (pieces : List Text) :
    Yields (fun items => KeysOnce (.list items)) (readItems read kind? pieces) := by
  induction pieces generalizing kind? with
  | nil => exact .ok (.list (by simp))
  | cons piece rest ih =>
    rw [readItems]
    split
    · exact ih kind?
    · refine Yields.bind (hread _) fun item hitem => ?_
      split
      · exact .error _
      · refine Yields.bind (ih _) fun items hitems => .ok (.list ?_)
        intro other hother
        rcases List.mem_cons.mp hother with rfl | hother
        · exact hitem
        · exact hitems.of_mem hother

lemma keysOnce_readEntries {read : Text → Item → Except Toml.Fault (Item × Option Unfinished)}
    (hread : ∀ t item, KeysOnce item → Yields (fun r => KeysOnce r.1) (read t item))
    (lines : List Text) {item : Item} (h : KeysOnce item) :
    Yields KeysOnce (readEntries read lines item) := by
  induction lines generalizing item with
  | nil => exact .ok h
  | cons line rest ih =>
    rw [readEntries]
    refine Yields.bind (hread line item h) ?_
    rintro ⟨after, unfinished?⟩ hafter
    cases unfinished? with
    | none => exact ih hafter
    | some u => exact .ok hafter

lemma keysOnce_read (fuel : Nat) :
    (∀ isPlain t, Yields KeysOnce (readItem isPlain t fuel)) ∧
    (∀ t item, KeysOnce item → Yields KeysOnce (readInline t item fuel)) ∧
    ∀ line item, KeysOnce item → Yields (fun r => KeysOnce r.1) (readEntry line item fuel) := by
  induction fuel with
  | zero => exact ⟨fun _ _ => .error _, fun _ _ _ => .error _, fun _ _ _ => .error _⟩
  | succ fuel ih =>
    obtain ⟨hitem, hinline, hentry⟩ := ih
    refine ⟨fun isPlain t => ?_, fun t item h => ?_, fun line item h => ?_⟩
    · cases t with
      | nil => exact .error _
      | cons c rest =>
        rw [readItem]
        split
        · cases readString c rest with
          | error fault => exact .error fault
          | ok t => exact .ok (.text t)
        · split
          · refine Yields.andThen _ fun pieces => ?_
            exact Yields.bind (keysOnce_readItems (hitem true) none pieces) fun items h => .ok h
          · split
            · exact hinline _ _ (.newTable true)
            · exact keysOnce_readScalar isPlain _
    · rw [readInline]
      exact Yields.andThen _ fun lines => keysOnce_readEntries hentry lines h
    · rw [readEntry]
      refine Yields.andThen _ fun d => Yields.andThen _ fun key => ?_
      refine keysOnce_alterBelow (fun table htable => ?_) key.1 h
      refine Yields.andThen _ fun goesOn => ?_
      dsimp only
      split
      · split
        · exact .error _
        · split
          · exact .error _
          · exact .ok htable
      · refine Yields.bind (hitem _ _) fun value hvalue => ?_
        split
        · exact .error _
        · exact .ok (htable.setKey key.2 hvalue)

/-! ### Documents -/

lemma keysOnce_alterAt {α : Type} {change : Item → Except Toml.Fault (Item × α)}
    (hchange : ∀ item, KeysOnce item → Yields (fun r => KeysOnce r.1) (change item))
    (steps : List Toml.Step) {item : Item} (h : KeysOnce item) :
    Yields (fun r => KeysOnce r.1) (alterAt change steps item) := by
  induction steps generalizing item with
  | nil => exact hchange item h
  | cons step steps ih =>
    cases step with
    | key key =>
      cases item with
      | table isInline entries =>
        refine Yields.bind (ih (h.getD key (.newTable false))) ?_
        rintro ⟨sub, a⟩ hsub
        exact .ok (h.put key hsub)
      | _ => exact .error _
    | last =>
      cases item with
      | list items =>
        have hlast : KeysOnce (items.getLastD .newTable) := by
          rw [List.getLastD_eq_getLast?]
          cases hlast : items.getLast? with
          | none => exact .newTable false
          | some item => exact h.of_mem (List.mem_of_getLast? hlast)
        refine Yields.bind (ih hlast) ?_
        rintro ⟨item, a⟩ hitem
        exact .ok (h.dropLast.concat hitem)
      | text t => exact Yields.andThen _ fun _ => .ok h
      | _ => exact .error _

lemma keysOnce_enterLast {go : Item → Except Toml.Fault Opened}
    (hgo : ∀ item, KeysOnce item → Yields (fun o => KeysOnce o.item) (go item)) {item : Item}
    (h : KeysOnce item) : Yields (fun o => KeysOnce o.item) (enterLast go item) := by
  cases item with
  | list items =>
    rw [enterLast]
    split
    · exact .error _
    · next last hlast =>
      refine Yields.bind (hgo last (h.of_mem (List.mem_of_getLast? hlast))) fun o ho => ?_
      exact .ok (h.dropLast.concat ho)
  | text t =>
    rw [enterLast]
    split
    · exact .error _
    · exact Yields.andThen _ fun _ => .ok h
  | _ => exact .error _

lemma keysOnce_openTable (isList : Bool) (made : List Text) (names : List Text) {item : Item}
    (h : KeysOnce item) : Yields (fun o => KeysOnce o.item) (openTable isList made names item) := by
  induction names generalizing made item with
  | nil => exact .ok h
  | cons name names ih =>
    rw [openTable]
    split
    · exact .error _
    · beta_reduce
      extract_lets isLast fresh enter under
      have hfresh : KeysOnce fresh := by
        unfold fresh
        split
        · refine .list fun item hitem => ?_
          rw [List.mem_singleton.mp hitem]
          exact .newTable false
        · exact .newTable false
      have henter : ∀ made sub, KeysOnce sub → Yields (fun o => KeysOnce o.item) (enter made sub) := by
        intro made sub hsub
        unfold enter
        split
        · exact ih made hsub
        · exact keysOnce_enterLast (fun item hitem => ih made hitem) hsub
        · exact ih made hsub
      have hunder : ∀ isInline entries made sub, KeysOnce (.table isInline entries) → KeysOnce sub →
          Yields (fun o => KeysOnce o.item) (under isInline entries made sub) :=
        fun isInline entries made sub htable hsub =>
          Yields.bind (henter made sub hsub) fun o ho => .ok (htable.put name ho)
      split
      · next isInline entries =>
        split
        · exact hunder isInline entries _ _ h hfresh
        · next sub hsub _ => exact hunder isInline entries _ _ h (h.get? hsub)
        · next sub hsub _ =>
          split
          · split
            · exact .error _
            · exact hunder isInline entries _ _ h (h.get? hsub)
          · split
            · split
              · exact hunder isInline entries _ _ h ((h.get? hsub).concat (.newTable false))
              · exact .error _
            · exact .error _
      · refine keysOnce_enterLast (fun part hpart => ?_) h
        split
        · exact hunder _ _ _ _ hpart (hpart.getD name hfresh)
        · exact .error _

section Documents

variable {d : Document}

lemma keysOnce_continueWith (h : KeysOnce d.root) (u : Unfinished) (line : Text) :
    Yields (fun d => KeysOnce d.root) (d.continueWith u line) := by
  rw [Document.continueWith]
  refine Yields.andThen _ fun closes => ?_
  dsimp only
  split
  · refine Yields.bind ((keysOnce_read _).1 true _) fun item hitem => ?_
    refine Yields.bind (keysOnce_alterAt (fun table htable => ?_) d.place h) ?_
    · exact .ok (htable.setKey u.key hitem)
    · rintro ⟨root, _⟩ hroot
      exact .ok hroot
  · exact .ok h

lemma keysOnce_readLine (h : KeysOnce d.root) (line : Text) :
    Yields (fun d => KeysOnce d.root) (d.readLine line) := by
  rw [Document.readLine]
  split
  · refine Yields.andThen _ fun header => ?_
    exact Yields.bind (keysOnce_openTable _ _ _ h) fun o ho => .ok ho
  · split
    · dsimp only
      split
      · exact .error _
      · refine Yields.bind (keysOnce_alterAt (fun table htable => ?_) d.place h) ?_
        · exact Yields.bind ((keysOnce_read _).2.1 line table htable) fun table htable => .ok htable
        · rintro ⟨root, _⟩ hroot
          exact .ok hroot
    · split
      · refine Yields.bind
          (keysOnce_alterAt (fun table htable => (keysOnce_read _).2.2 line table htable) d.place h) ?_
        rintro ⟨root, unfinished?⟩ hroot
        exact .ok hroot
      · exact .ok h

/-- A line keeps every table's keys distinct. -/
lemma keysOnce_step (h : KeysOnce d.root) (line : Text) :
    Yields (fun d => KeysOnce d.root) (d.step line) := by
  rw [Document.step]
  split
  · dsimp only
    split
    · exact .ok h
    · exact keysOnce_readLine h _
  · next u _ =>
    generalize (if u.isJoined ∨ !u.value.contains newline then Text.strip line else line) = line
    dsimp only
    split
    · exact .ok h
    · exact keysOnce_continueWith h u line

lemma keysOnce_foldlM (lines : List Text) (h : KeysOnce d.root) :
    Yields (fun d => KeysOnce d.root) (lines.foldlM Document.step d) := by
  induction lines generalizing d with
  | nil => exact .ok h
  | cons line lines ih => exact Yields.bind (keysOnce_step h line) fun d hd => ih hd

end Documents

/-! ### The tables themselves -/

lemma keys_toEntries (entries : Entries Item) :
    (Item.toEntries entries).keys = Entries.keys entries := by
  induction entries with
  | nil => rfl
  | cons entry rest ih => exact congrArg (entry.1 :: ·) ih

lemma mem_toEntries {entries : Entries Item} {e : Text × Value} (h : e ∈ Item.toEntries entries) :
    ∃ entry ∈ entries, e = (entry.1, entry.2.toValue) := by
  induction entries with
  | nil => simp [Item.toEntries] at h
  | cons entry rest ih =>
    rcases List.mem_cons.mp h with rfl | h
    · exact ⟨entry, List.mem_cons_self .., rfl⟩
    · obtain ⟨other, hother, rfl⟩ := ih h
      exact ⟨other, List.mem_cons_of_mem _ hother, rfl⟩

lemma keysDistinct_toEntries {isInline : Bool} {entries : Entries Item}
    (h : KeysOnce (.table isInline entries)) : KeysDistinct (Item.toEntries entries) := by
  obtain - | - | - | - | - | - | ⟨nodup, each⟩ := h
  refine ⟨by rwa [keys_toEntries], fun e he settings hsettings => ?_⟩
  obtain ⟨⟨name, item⟩, hitem, rfl⟩ := mem_toEntries he
  have honce := each _ hitem
  cases item with
  | table isInline entries =>
    obtain rfl := Value.table.inj hsettings
    obtain - | - | - | - | - | - | ⟨nodup, -⟩ := honce
    exact (keys_toEntries entries).symm ▸ nodup
  | _ => simp [Item.toValue] at hsettings

theorem keysDistinct_of_parse {t : Text} {table : Table} (h : parse t = .ok table) :
    KeysDistinct table := by
  have hparse : Yields KeysDistinct (parse t) := by
    rw [parse]
    refine Yields.andThen _ fun lines => ?_
    refine Yields.bind (keysOnce_foldlM lines (d := Document.empty) (.newTable false)) fun d hd => ?_
    split
    · next hroot => exact .ok (keysDistinct_toEntries (hroot ▸ hd))
    · exact .error _
  exact hparse table h

end NameKeys.Proofs
