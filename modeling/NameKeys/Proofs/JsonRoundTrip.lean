import NameKeys.Proofs.DecimalText
import NameKeys.Proofs.JsonStrings
import NameKeys.Proofs.MergedPaths

/-!
# Values read back from JSON

A value built from null, truth values, integers that can be written, texts, lists and tables is read
back from the JSON it is written as. Its JSON is one line of printable ASCII.
-/

namespace NameKeys.Proofs
open CodePoint
open JsonReader (exponent? fraction? member? number? ofMembers sequence? skipBlanks unsigned? value?
  whole? word?)
open Text (afterPrefix? join spanDigits)
open Value (json jsonEntries jsonItems)

variable {c : CodePoint} {t rest : Text}

/-! ### Numbers -/

/-- Whether a number ends where a text begins: no digit, point or exponent follows. -/
def EndsNumber (rest : Text) : Prop := ∀ c ∈ rest.head?,
  c.asciiDigit? = none ∧ c ≠ ofChar '.' ∧ c ≠ ofChar 'e' ∧ c ≠ ofChar 'E'

lemma asciiDigit?_of_isDigit {c : Char} (h : c.isDigit = true) :
    (ofChar c).asciiDigit? = some (digitValue c) := by
  rw [asciiDigit?, if_pos (val_of_isDigit h)]
  rfl

lemma spanDigits_digits {digits : List Char} (hdigits : ∀ c ∈ digits, c.isDigit = true)
    (hend : EndsNumber rest) :
    spanDigits (digits.map ofChar ++ rest) = (digits.map digitValue, rest) := by
  have hall : ∀ c ∈ digits.map ofChar, c.asciiDigit?.isSome = true := by
    intro c hc
    obtain ⟨digit, hmem, rfl⟩ := List.mem_map.mp hc
    rw [asciiDigit?_of_isDigit (hdigits digit hmem), Option.isSome_some]
  have htake : rest.takeWhile (fun c => c.asciiDigit?.isSome) = [] := by
    cases rest with
    | nil => rfl
    | cons c rest => rw [List.takeWhile_cons_of_neg (by simp [(hend c rfl).1])]
  have hdrop : rest.dropWhile (fun c => c.asciiDigit?.isSome) = rest := by
    cases rest with
    | nil => rfl
    | cons c rest => rw [List.dropWhile_cons_of_neg (by simp [(hend c rfl).1])]
  have hvalues : (digits.map ofChar).filterMap asciiDigit? = digits.map digitValue := by
    rw [List.filterMap_map, ← List.filterMap_eq_map]
    exact List.filterMap_congr fun c hc => asciiDigit?_of_isDigit (hdigits c hc)
  rw [spanDigits, List.takeWhile_append_of_pos hall, List.dropWhile_append_of_pos hall, htake, hdrop,
    List.append_nil, hvalues]

lemma head?_digits_ne_zero {n : Nat} (h : 0 < n) :
    ((Nat.toDigits 10 n).map digitValue).head? ≠ some 0 := by
  induction n using Nat.strong_induction_on with
  | _ n ih =>
    by_cases hlt : n < 10
    · have hsmall : ∀ n < 10, 0 < n → ([n.digitChar].map digitValue).head? ≠ some 0 := by decide
      rw [Nat.toDigits_of_lt_base hlt]
      exact hsmall n hlt h
    · have hne : (Nat.toDigits 10 (n / 10)).map digitValue ≠ [] := by simp [Nat.toDigits_ne_nil]
      rw [Nat.toDigits_of_base_le (by decide) (by omega), List.map_append,
        List.head?_append_of_ne_nil _ hne]
      exact ih (n / 10) (by omega) (by omega)

lemma whole?_ofNat (n : Nat) (hend : EndsNumber rest) :
    whole? (Text.ofNat n ++ rest) = some ((Nat.toDigits 10 n).map digitValue, rest) := by
  have hspan := spanDigits_digits (fun _ hc => isDigit_of_mem_toDigits (n := n) hc) hend
  simp only [whole?, Text.ofNat, hspan]
  rw [if_neg]
  rintro (hempty | ⟨hlong, hzero⟩)
  · simp [Nat.toDigits_ne_nil] at hempty
  · by_cases hn : 0 < n
    · exact head?_digits_ne_zero hn hzero
    · obtain rfl : n = 0 := by omega
      contradiction

lemma fraction?_of_endsNumber (hend : EndsNumber rest) : fraction? rest = some ([], rest) := by
  have hpoint : afterPrefix? "." rest = none := by
    cases rest with
    | nil => rfl
    | cons c rest => exact if_neg fun h => (hend c rfl).2.1 h.symm
  rw [fraction?, hpoint]

lemma exponent?_of_endsNumber (hend : EndsNumber rest) : exponent? rest = some (none, rest) := by
  cases rest with
  | nil => rfl
  | cons c rest =>
    obtain ⟨-, -, hsmall, hcapital⟩ := hend c rfl
    rw [exponent?, if_neg (not_or.mpr ⟨hsmall, hcapital⟩)]

lemma unsigned?_ofNat {n : Nat} (negative : Bool) (hshort : hasDecimalText n = true)
    (hend : EndsNumber rest) :
    unsigned? negative (Text.ofNat n ++ rest) =
      some (.int (if negative then -(n : Int) else n), rest) := by
  have hlength := (length_toDigits_le_iff n).mpr hshort
  simp only [unsigned?, whole?_ofNat n hend, fraction?_of_endsNumber hend,
    exponent?_of_endsNumber hend, if_pos hlength, Text.signed, ofDecimalDigits_toDigits]

lemma number?_ofInt {n : Int} (hshort : hasDecimalText n = true) (hend : EndsNumber rest) :
    number? (Text.ofInt n ++ rest) = some (.int n, rest) := by
  cases n with
  | ofNat n =>
    obtain ⟨c, digits, heq, hdigit⟩ := ofNat_eq_cons n
    have hminus : afterPrefix? "-" (Text.ofInt (.ofNat n) ++ rest) = none := by
      rw [Text.ofInt, heq]
      exact if_neg fun h => ofChar_ne_of_isDigit hdigit (d := '-') (by decide) h.symm
    rw [number?, hminus]
    exact unsigned?_ofNat false hshort hend
  | negSucc n =>
    have hminus : afterPrefix? "-" (Text.ofInt (.negSucc n) ++ rest) =
        some (Text.ofNat (n + 1) ++ rest) := rfl
    rw [number?, hminus]
    exact unsigned?_ofNat true hshort hend

/-! ### Values -/

/-- A value that JSON has a place for: null, a truth value, an integer that can be written, a text in
which no surrogates look like a pair, a list of such values, or a table of such values under such
texts, all of them different. -/
inductive IsPlain : Value → Prop
  | null : IsPlain .null
  | bool (b : Bool) : IsPlain (.bool b)
  | int {n : Int} (short : hasDecimalText n = true) : IsPlain (.int n)
  | text {t : Text} (free : IsPairFree t) : IsPlain (.text t)
  | list {items : List Value} (plain : ∀ v ∈ items, IsPlain v) : IsPlain (.list items)
  | table {entries : Table} (distinct : entries.keys.Nodup)
      (free : ∀ key ∈ entries.keys, IsPairFree key) (plain : ∀ e ∈ entries, IsPlain e.2) :
      IsPlain (.table entries)

/-- Whether a value is read back from its JSON, whatever follows it and however tight the bound. -/
structure ReadsBack (v : Value) : Prop where
  begins : ∃ c more, json v = c :: more ∧ isJsonBlank c = false ∧ c ≠ ofChar ']'
  value : ∀ bound rest, (json v).length < bound → EndsNumber rest →
    value? bound (json v ++ rest) = some (v, rest)

section Steps

variable {bound : Nat} {v : Value}

lemma isJsonBlank_eq_false (h : 0x21 ≤ c.val) : isJsonBlank c = false := by
  have hne : ∀ d : CodePoint, d.val < 0x21 → c ≠ d := by
    rintro d hd rfl
    omega
  simp [isJsonBlank, hne (ofChar ' ') (by decide), hne (ofChar '\t') (by decide),
    hne (ofChar '\n') (by decide), hne (ofChar '\r') (by decide)]

lemma skipBlanks_cons (h : isJsonBlank c = false) : skipBlanks (c :: rest) = c :: rest := by
  rw [skipBlanks, List.dropWhile_cons_of_neg (by simp [h])]

lemma skipBlanks_space (t : Text) : skipBlanks (ofChar ' ' :: t) = skipBlanks t := rfl

lemma value?_space (bound : Nat) (t : Text) : value? bound (ofChar ' ' :: t) = value? bound t := by
  cases bound with
  | zero => rfl
  | succ bound => rw [value?, value?, skipBlanks_space]

lemma value?_word (h : word? (c :: rest) = some (v, t)) (hblank : isJsonBlank c = false)
    (hother : c ≠ ofChar '"' ∧ c ≠ ofChar '[' ∧ c ≠ ofChar '\x7b') :
    value? (bound + 1) (c :: rest) = some (v, t) := by
  rw [value?, skipBlanks_cons hblank]
  simp only [if_neg hother.1, if_neg hother.2.1, if_neg hother.2.2, h, Option.some_or]

lemma value?_number (h : number? (c :: rest) = some (v, t)) (hlow : 0x2D ≤ c.val)
    (hhigh : c.val ≤ 0x39) : value? (bound + 1) (c :: rest) = some (v, t) := by
  have hne : ∀ d : CodePoint, d.val < 0x2D ∨ 0x39 < d.val → c ≠ d := by
    rintro d hd rfl
    omega
  have hnull : afterPrefix? "null" (c :: rest) = none := if_neg (hne (ofChar 'n') (by decide)).symm
  have htrue : afterPrefix? "true" (c :: rest) = none := if_neg (hne (ofChar 't') (by decide)).symm
  have hfalse : afterPrefix? "false" (c :: rest) = none :=
    if_neg (hne (ofChar 'f') (by decide)).symm
  have hword : word? (c :: rest) = none := by
    simp [word?, JsonReader.words, hnull, htrue, hfalse]
  rw [value?, skipBlanks_cons (isJsonBlank_eq_false (by omega))]
  simp only [if_neg (hne (ofChar '"') (by decide)), if_neg (hne (ofChar '[') (by decide)),
    if_neg (hne (ofChar '\x7b') (by decide)), hword, h, Option.none_or]

lemma endsNumber_cons {d : Char} (h : (ofChar d).asciiDigit? = none)
    (hother : ofChar d ≠ ofChar '.' ∧ ofChar d ≠ ofChar 'e' ∧ ofChar d ≠ ofChar 'E') (rest : Text) :
    EndsNumber (ofChar d :: rest) := by
  intro c hc
  obtain rfl : ofChar d = c := by simpa using hc
  exact ⟨h, hother⟩

end Steps

/-! ### Sequences -/

section Sequences

variable {α : Type} {close : CodePoint} {item? : Text → Option (α × Text)} {write : α → Text}

/-- Items that are read back one by one are read back up to the closing code point when they are
joined. -/
lemma sequence?_join (hclose : isJsonBlank close = false) (hcomma : ofChar ',' ≠ close)
    (hends : ∀ rest, EndsNumber (close :: rest))
    (hspace : ∀ t, item? (ofChar ' ' :: t) = item? t) {a : α} {items : List α}
    (h : ∀ b ∈ a :: items, ∀ rest, EndsNumber rest → item? (write b ++ rest) = some (b, rest))
    {bound : Nat} (hbound : items.length < bound) (rest : Text) :
    sequence? close item? bound (join ", " ((a :: items).map write) ++ close :: rest) =
      some (a :: items, rest) := by
  have hskip : ∀ bound t, sequence? close item? bound (ofChar ' ' :: t) =
      sequence? close item? bound t := by
    intro bound t
    cases bound with
    | zero => rfl
    | succ bound => rw [sequence?, sequence?, hspace]
  induction items generalizing a bound with
  | nil =>
    obtain _ | bound := bound
    · contradiction
    have hitem := h a (List.mem_cons_self ..) (close :: rest) (hends rest)
    rw [List.map_singleton, join, sequence?, hitem]
    dsimp only
    rw [skipBlanks_cons hclose]
    exact if_pos rfl
  | cons b items ih =>
    obtain _ | bound := bound
    · contradiction
    have hjoin : join ", " ((a :: b :: items).map write) ++ close :: rest = write a ++
        ofChar ',' :: ofChar ' ' :: (join ", " ((b :: items).map write) ++ close :: rest) := by
      simp only [List.map_cons, join, List.append_assoc]
      rfl
    have hitem := h a (List.mem_cons_self ..) (ofChar ',' :: ofChar ' ' ::
      (join ", " ((b :: items).map write) ++ close :: rest)) (endsNumber_cons rfl (by decide) _)
    have hitems := ih (fun d hd => h d (List.mem_cons_of_mem _ hd)) (Nat.lt_of_succ_lt_succ hbound)
    rw [hjoin, sequence?, hitem]
    dsimp only
    rw [skipBlanks_cons rfl]
    dsimp only
    rw [if_neg hcomma, if_pos rfl, hskip, hitems]
    rfl

lemma member?_json {read : Text → Option (Value × Text)} {key : Text} {v : Value}
    (hspace : ∀ t, read (ofChar ' ' :: t) = read t) (hkey : IsPairFree key)
    (hv : read (json v ++ rest) = some (v, rest)) :
    member? read (Text.json key ++ ": " ++ json v ++ rest) = some ((key, v), rest) := by
  have hjson : Text.json key ++ ": " ++ json v ++ rest =
      Text.json key ++ ofChar ':' :: ofChar ' ' :: (json v ++ rest) := by
    simp only [List.append_assoc]
    rfl
  have hstring := string?_json hkey (ofChar ':' :: ofChar ' ' :: (json v ++ rest))
  have hquote : ∀ t, (afterPrefix? "\"" (ofChar '"' :: t)).bind JsonReader.string? =
      JsonReader.string? t := fun _ => rfl
  have hcolon : ∀ t, (afterPrefix? ":" (ofChar ':' :: ofChar ' ' :: t)).bind read = read t := hspace
  rw [hjson, json_append, member?, skipBlanks_cons rfl, hquote, hstring]
  dsimp only
  rw [skipBlanks_cons rfl, hcolon, hv]
  rfl

lemma join_cons_cons (first next : Text) (pieces : List Text) :
    join ", " (first :: next :: pieces) = first ++ ", " ++ join ", " (next :: pieces) := rfl

lemma length_le_length_join {piece : Text} {pieces : List Text} (h : piece ∈ pieces) :
    piece.length ≤ (join ", " pieces).length := by
  induction pieces with
  | nil => cases h
  | cons first pieces ih =>
    cases pieces with
    | nil => rw [List.mem_singleton.mp h, join]
    | cons next pieces =>
      rw [join_cons_cons, List.length_append, List.length_append]
      rcases List.mem_cons.mp h with rfl | h
      · omega
      · have hrest := ih h
        omega

lemma length_le_length_join_cons (first : Text) (pieces : List Text) :
    pieces.length ≤ (join ", " (first :: pieces)).length := by
  have hcomma : List.length (", " : Text) = 2 := rfl
  induction pieces generalizing first with
  | nil => exact Nat.zero_le _
  | cons next pieces ih =>
    have hrest := ih next
    rw [join_cons_cons, List.length_append, List.length_append, List.length_cons]
    omega

end Sequences

/-! ### Round trip -/

lemma foldl_put {entries before : Table} (h : (Entries.keys (before ++ entries)).Nodup) :
    entries.foldl (fun table e => Entries.put e.1 e.2 table) before = before ++ entries := by
  induction entries generalizing before with
  | nil => exact (List.append_nil before).symm
  | cons e entries ih =>
    have hnew : e.1 ∉ Entries.keys before := by
      intro hmem
      rw [Entries.keys, List.map_append] at h
      exact (List.nodup_append.mp h).2.2 e.1 hmem e.1 (List.mem_cons_self ..) rfl
    rw [List.foldl_cons, put_of_not_mem hnew, ih (by simpa [Entries.keys] using h),
      List.append_assoc, List.singleton_append]

lemma ofMembers_eq {entries : Table} (h : entries.keys.Nodup) : ofMembers entries = entries :=
  foldl_put h

lemma ofInt_eq_cons (n : Int) :
    ∃ c more, Text.ofInt n = c :: more ∧ 0x2D ≤ c.val ∧ c.val ≤ 0x39 := by
  cases n with
  | ofNat n =>
    obtain ⟨c, more, heq, hdigit⟩ := ofNat_eq_cons n
    have hval := val_of_isDigit hdigit
    exact ⟨ofChar c, more, heq, by omega, hval.2⟩
  | negSucc n => exact ⟨ofChar '-', Text.ofNat (n + 1), rfl, by decide, by decide⟩

lemma ReadsBack.of_succ {v : Value}
    (hbegins : ∃ c more, json v = c :: more ∧ isJsonBlank c = false ∧ c ≠ ofChar ']')
    (hvalue : ∀ bound rest, (json v).length ≤ bound → EndsNumber rest →
      value? (bound + 1) (json v ++ rest) = some (v, rest)) : ReadsBack v where
  begins := hbegins
  value bound rest hbound hend := by
    obtain _ | bound := bound
    · exact absurd hbound (Nat.not_lt_zero _)
    · exact hvalue bound rest (Nat.le_of_lt_succ hbound) hend

def jsonEntry (e : Text × Value) : Text := Text.json e.1 ++ ": " ++ json e.2

lemma jsonItems_eq_map (items : List Value) : jsonItems items = items.map json := by
  induction items with
  | nil => rfl
  | cons v items ih => rw [jsonItems, ih, List.map_cons]

lemma jsonEntries_eq_map (entries : Table) : jsonEntries entries = entries.map jsonEntry := by
  induction entries with
  | nil => rfl
  | cons e entries ih =>
    rw [jsonEntries, ih, List.map_cons]
    rfl

lemma exists_join_cons (piece : Text) (pieces : List Text) :
    ∃ tail, join ", " (piece :: pieces) = piece ++ tail := by
  cases pieces with
  | nil => exact ⟨[], (List.append_nil piece).symm⟩
  | cons next pieces => exact ⟨_, List.append_assoc ..⟩

lemma readsBack_list {items : List Value} (h : ∀ v ∈ items, ReadsBack v) :
    ReadsBack (.list items) := by
  refine .of_succ ⟨ofChar '[', _, rfl, rfl, by decide⟩ fun bound rest hbound _ => ?_
  cases items with
  | nil => rfl
  | cons v items =>
    have hjson : json (.list (v :: items)) =
        ofChar '[' :: (join ", " ((v :: items).map json) ++ [ofChar ']']) := by
      rw [← jsonItems_eq_map]
      rfl
    rw [hjson, List.length_cons, List.length_append, List.length_singleton] at hbound
    have hcount := length_le_length_join_cons (json v) (items.map json)
    rw [← List.map_cons, List.length_map] at hcount
    have hitems : ∀ w ∈ v :: items, ∀ rest, EndsNumber rest →
        value? bound (json w ++ rest) = some (w, rest) := by
      intro w hw rest hend
      have hlength := length_le_length_join (List.mem_map_of_mem (f := json) hw)
      exact (h w hw).value bound rest (by omega) hend
    have hfirst : afterPrefix? "]" (skipBlanks (join ", " ((v :: items).map json) ++
        ofChar ']' :: rest)) = none := by
      obtain ⟨c, more, hbegins, hblank, hne⟩ := (h v (List.mem_cons_self ..)).begins
      obtain ⟨tail, htail⟩ := exists_join_cons (json v) (items.map json)
      rw [List.map_cons, htail, hbegins, List.cons_append, List.cons_append, skipBlanks_cons hblank]
      exact if_neg hne.symm
    rw [hjson, List.cons_append, List.append_assoc, List.singleton_append, value?,
      skipBlanks_cons rfl]
    dsimp only
    rw [if_neg (by decide), if_pos rfl, hfirst]
    dsimp only
    rw [sequence?_join rfl (by decide) (endsNumber_cons rfl (by decide)) (value?_space bound) hitems
      (by omega) rest]
    rfl

lemma readsBack_table {entries : Table} (hdistinct : entries.keys.Nodup)
    (hfree : ∀ key ∈ entries.keys, IsPairFree key) (h : ∀ e ∈ entries, ReadsBack e.2) :
    ReadsBack (.table entries) := by
  refine .of_succ ⟨ofChar '\x7b', _, rfl, rfl, by decide⟩ fun bound rest hbound _ => ?_
  cases entries with
  | nil => rfl
  | cons e entries =>
    have hjson : json (.table (e :: entries)) =
        ofChar '\x7b' :: (join ", " ((e :: entries).map jsonEntry) ++ [ofChar '\x7d']) := by
      rw [← jsonEntries_eq_map]
      rfl
    rw [hjson, List.length_cons, List.length_append, List.length_singleton] at hbound
    have hcount := length_le_length_join_cons (jsonEntry e) (entries.map jsonEntry)
    rw [← List.map_cons, List.length_map] at hcount
    have hmembers : ∀ d ∈ e :: entries, ∀ rest, EndsNumber rest →
        member? (value? bound) (jsonEntry d ++ rest) = some (d, rest) := by
      intro d hd rest hend
      have hlength := length_le_length_join (List.mem_map_of_mem (f := jsonEntry) hd)
      have hentry : (jsonEntry d).length = (Text.json d.1).length + 2 + (json d.2).length := by
        rw [jsonEntry, List.length_append, List.length_append]
        rfl
      exact member?_json (value?_space bound) (hfree d.1 (List.mem_map_of_mem hd))
        ((h d hd).value bound rest (by omega) hend)
    have hfirst : afterPrefix? "\x7d" (skipBlanks (join ", " ((e :: entries).map jsonEntry) ++
        ofChar '\x7d' :: rest)) = none := by
      obtain ⟨tail, htail⟩ := exists_join_cons (jsonEntry e) (entries.map jsonEntry)
      rw [List.map_cons, htail, jsonEntry, List.append_assoc, List.append_assoc, List.append_assoc,
        json_append, skipBlanks_cons rfl]
      rfl
    rw [hjson, List.cons_append, List.append_assoc, List.singleton_append, value?,
      skipBlanks_cons rfl]
    dsimp only
    rw [if_neg (by decide), if_neg (by decide), if_pos rfl, hfirst]
    dsimp only
    rw [sequence?_join rfl (by decide) (endsNumber_cons rfl (by decide)) (fun _ => rfl) hmembers
      (by omega) rest, Option.map_some, Prod.map_apply, Function.comp_apply, ofMembers_eq hdistinct]
    rfl

/-- Every plain value is read back from its JSON. -/
lemma IsPlain.readsBack {v : Value} (h : IsPlain v) : ReadsBack v := by
  -- for every bound and every rest at once, since both change with the depth
  induction h with
  | null =>
    exact .of_succ ⟨ofChar 'n', "ull", rfl, rfl, by decide⟩ fun _ _ _ _ =>
      value?_word rfl rfl (by decide)
  | bool b =>
    cases b with
    | false =>
      exact .of_succ ⟨ofChar 'f', "alse", rfl, rfl, by decide⟩ fun _ _ _ _ =>
        value?_word rfl rfl (by decide)
    | true =>
      exact .of_succ ⟨ofChar 't', "rue", rfl, rfl, by decide⟩ fun _ _ _ _ =>
        value?_word rfl rfl (by decide)
  | @int n hshort =>
    obtain ⟨c, more, heq, hlow, hhigh⟩ := ofInt_eq_cons n
    have hne : c ≠ ofChar ']' := by
      rintro rfl
      exact absurd hhigh (by decide)
    refine .of_succ ⟨c, more, heq, isJsonBlank_eq_false (by omega), hne⟩ fun bound rest _ hend => ?_
    have hnumber := number?_ofInt hshort hend
    simp only [json]
    rw [heq] at hnumber ⊢
    exact value?_number hnumber hlow hhigh
  | @text t hfree =>
    refine .of_succ ⟨ofChar '"', _, rfl, rfl, by decide⟩ fun bound rest _ _ => ?_
    rw [json, json_append, value?, skipBlanks_cons rfl]
    simp only [if_pos, string?_json hfree]
    rfl
  | list _ ih => exact readsBack_list ih
  | table hdistinct hfree _ ih => exact readsBack_table hdistinct hfree ih

lemma ofJson?_json {v : Value} (h : IsPlain v) : Value.ofJson? (json v) = some v := by
  have hend : EndsNumber [] := fun c hc => by cases hc
  have hvalue := h.readsBack.value ((json v).length + 1) [] (Nat.lt_succ_self _) hend
  rw [List.append_nil] at hvalue
  rw [Value.ofJson?, hvalue]
  rfl

/-! ### Printable ASCII -/

lemma forall_mem_join {P : CodePoint → Prop} {separator : Text} {pieces : List Text}
    (hseparator : ∀ c ∈ separator, P c) (h : ∀ piece ∈ pieces, ∀ c ∈ piece, P c) :
    ∀ c ∈ join separator pieces, P c := by
  induction pieces with
  | nil => exact List.forall_mem_nil _
  | cons piece pieces ih =>
    obtain ⟨hpiece, hpieces⟩ := List.forall_mem_cons.mp h
    cases pieces with
    | nil => exact hpiece
    | cons next pieces =>
      change ∀ c ∈ piece ++ separator ++ join separator (next :: pieces), P c
      exact List.forall_mem_append.mpr
        ⟨List.forall_mem_append.mpr ⟨hpiece, hseparator⟩, ih hpieces⟩

lemma isPlainLine_join {pieces : List Text} (h : ∀ piece ∈ pieces, IsPlainLine piece) :
    IsPlainLine (join ", " pieces) := by
  have hcomma : IsPlainLine ", " := by decide
  exact forall_mem_join hcomma h

lemma isPlainLine_ofInt (n : Int) : IsPlainLine (Text.ofInt n) := by
  have hnat : ∀ n : Nat, IsPlainLine (Text.ofNat n) := by
    intro n c hc
    obtain ⟨digit, hdigit, rfl⟩ := List.mem_map.mp hc
    have hval := val_of_isDigit (isDigit_of_mem_toDigits hdigit)
    omega
  cases n with
  | ofNat n => exact hnat n
  | negSucc n => exact List.forall_mem_cons.mpr ⟨by decide, hnat (n + 1)⟩

lemma IsPlain.isPlainLine {v : Value} (h : IsPlain v) : IsPlainLine (json v) := by
  induction h with
  | null => decide
  | bool b => cases b <;> decide
  | int => exact isPlainLine_ofInt _
  | text => exact isPlainLine_json _
  | @list items _ ih =>
    have hopen : IsPlainLine "[" := by decide
    have hclose : IsPlainLine "]" := by decide
    have hitems : IsPlainLine (join ", " (jsonItems items)) := by
      rw [jsonItems_eq_map]
      exact isPlainLine_join (List.forall_mem_map.mpr ih)
    exact (hopen.append hitems).append hclose
  | @table entries _ _ _ ih =>
    have hopen : IsPlainLine "\x7b" := by decide
    have hclose : IsPlainLine "\x7d" := by decide
    have hcolon : IsPlainLine ": " := by decide
    have hentries : IsPlainLine (join ", " (jsonEntries entries)) := by
      rw [jsonEntries_eq_map]
      exact isPlainLine_join (List.forall_mem_map.mpr fun e he =>
        ((isPlainLine_json e.1).append hcolon).append (ih e he))
    exact (hopen.append hentries).append hclose

/-! ### Integers that can be written -/

lemma haveLiterals_iff {items : List Value} :
    Value.haveLiterals items = true ↔ ∀ v ∈ items, v.hasLiteral = true := by
  induction items with
  | nil => exact ⟨fun _ => List.forall_mem_nil _, fun _ => rfl⟩
  | cons v items ih => rw [Value.haveLiterals, Bool.and_eq_true, ih, List.forall_mem_cons]

lemma entriesHaveLiterals_iff {entries : Table} :
    Value.entriesHaveLiterals entries = true ↔ ∀ e ∈ entries, e.2.hasLiteral = true := by
  induction entries with
  | nil => exact ⟨fun _ => List.forall_mem_nil _, fun _ => rfl⟩
  | cons e entries ih => rw [Value.entriesHaveLiterals, Bool.and_eq_true, ih, List.forall_mem_cons]

lemma IsPlain.hasLiteral {v : Value} (h : IsPlain v) : v.hasLiteral = true := by
  induction h with
  | null => rfl
  | bool => rfl
  | int short => exact short
  | text => rfl
  | list _ ih => exact haveLiterals_iff.mpr ih
  | table _ _ _ ih => exact entriesHaveLiterals_iff.mpr ih

end NameKeys.Proofs
