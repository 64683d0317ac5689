/-!
# Look-up in ordered tables

A table of a code point property is written down as a list in increasing order of its keys and
looked up as a balanced binary tree. The lemmas say that whatever is found stands in the list, so a
property that holds of every entry of a table holds of every answer.
-/

namespace NameKeys.Unicode

/-- A binary tree whose keys increase from left to right. -/
inductive SearchTree (α : Type) where
  | leaf
  | node (left : SearchTree α) (key : Nat) (value : α) (right : SearchTree α)

namespace SearchTree

variable {α : Type}

def find? (k : Nat) : SearchTree α → Option α
  | leaf => none
  | node left key value right =>
    if k < key then left.find? k else if key < k then right.find? k else some value

/-- The entry with the greatest key up to `k`, or `best` where the tree has none. -/
def floorFrom (k : Nat) (best : Option (Nat × α)) : SearchTree α → Option (Nat × α)
  | leaf => best
  | node left key value right =>
    if k < key then left.floorFrom k best else right.floorFrom k (some (key, value))

/-- The entry with the greatest key up to `k`. -/
def floor? (t : SearchTree α) (k : Nat) : Option (Nat × α) := t.floorFrom k none

/-- Whether a number lies in one of the ranges of a tree that maps the first number of each range
to its last. -/
def covers (t : SearchTree Nat) (k : Nat) : Bool :=
  match t.floor? k with
  | some (_, last) => k ≤ last
  | none => false

def toList : SearchTree α → List (Nat × α)
  | leaf => []
  | node left key value right => left.toList ++ (key, value) :: right.toList

/-- A tree of at most the given depth holding a beginning of the list, and the rest of the list. -/
def takeFrom : Nat → List (Nat × α) → SearchTree α × List (Nat × α)
  | 0, entries => (leaf, entries)
  | depth + 1, entries =>
    match takeFrom depth entries with
    | (left, []) => (left, [])
    | (left, (key, value) :: rest) =>
      let (right, unused) := takeFrom depth rest
      (node left key value right, unused)

/-- The balanced tree of a list in increasing order of its keys, of up to 4095 entries. -/
def ofSorted (entries : List (Nat × α)) : SearchTree α := (takeFrom 12 entries).1

theorem toList_takeFrom (depth : Nat) (entries : List (Nat × α)) :
    (takeFrom depth entries).1.toList ++ (takeFrom depth entries).2 = entries := by
  induction depth generalizing entries with
  | zero => rfl
  | succ depth ih =>
    have left := ih entries
    rw [takeFrom]
    split
    · next l h => simpa [h] using left
    · next l key value rest h =>
      have right := ih rest
      simp only [h] at left
      simp only [toList, List.append_assoc, List.cons_append, right, left]

/-- Every entry of the tree stands in the list it was made from. -/
theorem mem_of_mem_ofSorted {entries : List (Nat × α)} {e : Nat × α}
    (h : e ∈ (ofSorted entries).toList) : e ∈ entries := by
  rw [← toList_takeFrom 12 entries]
  exact List.mem_append_left _ h

theorem mem_of_find? {t : SearchTree α} {k : Nat} {v : α} (h : t.find? k = some v) :
    (k, v) ∈ t.toList := by
  induction t with
  | leaf => simp [find?] at h
  | node left key value right ihl ihr =>
    rw [find?] at h
    split at h
    · exact List.mem_append_left _ (ihl h)
    · split at h
      · exact List.mem_append_right _ (List.mem_cons_of_mem _ (ihr h))
      · obtain rfl : k = key := by omega
        obtain rfl : value = v := by simpa using h
        simp [toList]

theorem mem_of_floorFrom {t : SearchTree α} {k : Nat} {best : Option (Nat × α)} {e : Nat × α}
    (h : t.floorFrom k best = some e) : (e ∈ t.toList ∧ e.1 ≤ k) ∨ best = some e := by
  induction t generalizing best with
  | leaf => exact .inr h
  | node left key value right ihl ihr =>
    rw [floorFrom] at h
    split at h
    · rcases ihl h with ⟨m, l⟩ | b
      · exact .inl ⟨List.mem_append_left _ m, l⟩
      · exact .inr b
    · rcases ihr h with ⟨m, l⟩ | b
      · exact .inl ⟨List.mem_append_right _ (List.mem_cons_of_mem _ m), l⟩
      · obtain rfl : (key, value) = e := by simpa using b
        exact .inl ⟨by simp [toList], by simpa using ‹¬ k < key›⟩

theorem mem_of_floor? {t : SearchTree α} {k : Nat} {e : Nat × α} (h : t.floor? k = some e) :
    e ∈ t.toList ∧ e.1 ≤ k := by
  rcases mem_of_floorFrom h with m | b
  · exact m
  · simp at b

/-- A number found in the ranges lies in one of the ranges of the list. -/
theorem exists_range_of_covers {ranges : List (Nat × Nat)} {k : Nat}
    (h : (ofSorted ranges).covers k) : ∃ r ∈ ranges, r.1 ≤ k ∧ k ≤ r.2 := by
  rw [covers] at h
  split at h
  · next first last hf =>
    obtain ⟨m, l⟩ := mem_of_floor? hf
    exact ⟨_, mem_of_mem_ofSorted m, l, by simpa using h⟩
  · simp at h

/-- What is found at a key stands in the list with that key. -/
theorem mem_of_find?_ofSorted {entries : List (Nat × α)} {k : Nat} {v : α}
    (h : (ofSorted entries).find? k = some v) : (k, v) ∈ entries :=
  mem_of_mem_ofSorted (mem_of_find? h)

end SearchTree

end NameKeys.Unicode
