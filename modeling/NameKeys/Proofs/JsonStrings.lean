import Mathlib.Data.List.Chain
import NameKeys.Proofs.KeyLines
import NameKeys.Value.Json
import NameKeys.Value.JsonReader

/-!
# JSON strings

What is written as a JSON string is read back, as long as no surrogates stand in it that would be
taken for a pair.
-/

namespace NameKeys.Proofs
open CodePoint
open JsonReader (units? unit? string? escaped?)
open Utf16 (pairUp unitsOf)

/-- Whether no high surrogate stands directly before a low one. -/
def IsPairFree (t : Text) : Prop :=
  t.IsChain fun c d => ¬ (c.isHighSurrogate = true ∧ d.isLowSurrogate = true)

instance decidableIsPairFree (t : Text) : Decidable (IsPairFree t) :=
  inferInstanceAs (Decidable (t.IsChain _))

variable {c : CodePoint} {t rest : Text}

/-! ### UTF-16 units -/

lemma isHighSurrogate_iff : c.isHighSurrogate = true ↔ 0xD800 ≤ c.val ∧ c.val ≤ 0xDBFF := by
  simp [isHighSurrogate]

lemma isLowSurrogate_iff : c.isLowSurrogate = true ↔ 0xDC00 ≤ c.val ∧ c.val ≤ 0xDFFF := by
  simp [isLowSurrogate]

lemma unitsOf_eq_cons (d : CodePoint) : ∃ v more, unitsOf d = v :: more ∧
    (0xDC00 ≤ v → v ≤ 0xDFFF → d.isLowSurrogate = true) := by
  have hlt := d.isLt
  unfold unitsOf
  split
  · exact ⟨_, _, rfl, fun hlow hhigh => isLowSurrogate_iff.mpr ⟨hlow, hhigh⟩⟩
  · exact ⟨_, _, rfl, fun hlow _ => by omega⟩

lemma pairUp_units (h : IsPairFree t) : pairUp (t.flatMap unitsOf) = t := by
  induction t with
  | nil => rfl
  | cons c rest ih =>
    have hrest := ih h.tail
    have hlt := c.isLt
    rw [List.flatMap_cons, unitsOf]
    split
    · cases rest with
      | nil => simp [pairUp]
      | cons d others =>
        obtain ⟨v, more, hunits, hlow⟩ := unitsOf_eq_cons d
        have hhead := (List.isChain_cons_cons.mp h).1
        rw [List.flatMap_cons, hunits] at hrest ⊢
        rw [List.singleton_append, List.cons_append, pairUp, if_neg, ofNat_val, ← List.cons_append,
          hrest]
        rintro ⟨hc, hc', hv, hv'⟩
        exact hhead ⟨isHighSurrogate_iff.mpr ⟨hc, hc'⟩, hlow hv hv'⟩
    · have hval : 0x10000 + (0xD800 + (c.val - 0x10000) / 0x400 - 0xD800) * 0x400 +
          (0xDC00 + (c.val - 0x10000) % 0x400 - 0xDC00) = c.val := by omega
      rw [List.cons_append, List.cons_append, pairUp, if_pos (by omega), hval, ofNat_val,
        List.nil_append, hrest]

/-! ### Escapes -/

lemma hexDigit?_ofDigit (n : Nat) : (ofDigit (n % 16)).hexDigit? = some (n % 16) := by
  have hdigits : ∀ d : Fin 16, (ofDigit d.val).hexDigit? = some d.val := by decide
  exact hdigits ⟨n % 16, by omega⟩

lemma unit?_hex {n : Nat} (h : n < 0x10000) : unit? (Text.hex 4 n) = some n := by
  have hsum : 16 * (16 * (16 * (16 * 0 + n / 16 / 16 / 16 % 16) + n / 16 / 16 % 16) + n / 16 % 16) +
      n % 16 = n := by omega
  simp only [unit?, Text.hex, List.nil_append, List.cons_append, List.mapM_cons, List.mapM_nil,
    hexDigit?_ofDigit, Option.pure_def, Option.bind_eq_bind, Option.bind_some, Option.map_some,
    List.foldl_cons, List.foldl_nil, hsum]

lemma units?_unitEscape {unit : Nat} (h : unit < 0x10000) :
    units? (unitEscape unit ++ rest) = (units? rest).map (Prod.map (unit :: ·) id) := by
  have hunit := unit?_hex h
  simp only [Text.hex, List.nil_append, List.cons_append] at hunit
  have hescape : unitEscape unit ++ rest = ofChar '\\' :: ofChar 'u' ::
      ofDigit (unit / 16 / 16 / 16 % 16) :: ofDigit (unit / 16 / 16 % 16) ::
      ofDigit (unit / 16 % 16) :: ofDigit (unit % 16) :: rest := rfl
  rw [hescape, JsonReader.units?.eq_def]
  dsimp only
  rw [if_neg (by decide), if_pos rfl, if_pos rfl, hunit, Option.bind_some]

lemma units?_escaped {mark : CodePoint} {unit : Nat} (hmark : mark ≠ ofChar 'u')
    (h : escaped? mark = some unit) :
    units? (ofChar '\\' :: mark :: rest) = (units? rest).map (Prod.map (unit :: ·) id) := by
  rw [JsonReader.units?.eq_def]
  dsimp only
  rw [if_neg (by decide), if_pos rfl, if_neg hmark, h, Option.bind_some]

lemma units?_quote (rest : Text) : units? (ofChar '"' :: rest) = some ([], rest) := by
  rw [JsonReader.units?.eq_def]
  dsimp only
  rw [if_pos rfl]

lemma units?_plain (hquote : c ≠ ofChar '"') (hslash : c ≠ ofChar '\\') (hcontrol : 0x20 ≤ c.val)
    (hsurrogate : c.isSurrogate = false) :
    units? (c :: rest) = (units? rest).map (Prod.map (unitsOf c ++ ·) id) := by
  rw [JsonReader.units?.eq_def]
  dsimp only
  rw [if_neg hquote, if_neg hslash, if_neg]
  simp [hsurrogate, hcontrol]

/-! ### Strings -/

lemma units?_jsonWithin (c : CodePoint) (rest : Text) :
    units? (jsonWithin c ++ rest) = (units? rest).map (Prod.map (unitsOf c ++ ·) id) := by
  have hlt := c.isLt
  unfold jsonWithin
  split
  · next h => subst h; exact units?_escaped (by decide) rfl
  split
  · next h => subst h; exact units?_escaped (by decide) rfl
  split
  · next h => subst h; exact units?_escaped (by decide) rfl
  split
  · next h => subst h; exact units?_escaped (by decide) rfl
  split
  · next h => subst h; exact units?_escaped (by decide) rfl
  split
  · next h =>
    rw [unitsOf, h]
    exact units?_escaped (by decide) rfl
  split
  · next h =>
    rw [unitsOf, h]
    exact units?_escaped (by decide) rfl
  split
  · next hquote hslash _ _ _ _ _ hplain =>
    have hsurrogate : c.isSurrogate = false := by
      simp only [isSurrogate, Bool.and_eq_false_iff, decide_eq_false_iff_not]
      omega
    exact units?_plain hquote hslash hplain.1 hsurrogate
  split
  · next h =>
    rw [units?_unitEscape h, unitsOf, if_pos h]
    rfl
  · next h =>
    rw [List.append_assoc, units?_unitEscape (by omega), units?_unitEscape (by omega), unitsOf,
      if_neg h, Option.map_map]
    rfl

lemma units?_json (t rest : Text) :
    units? (t.flatMap jsonWithin ++ ofChar '"' :: rest) = some (t.flatMap unitsOf, rest) := by
  induction t with
  | nil => exact units?_quote rest
  | cons c t ih =>
    rw [List.flatMap_cons, List.append_assoc, units?_jsonWithin, ih]
    rfl

lemma json_append (t rest : Text) :
    Text.json t ++ rest = ofChar '"' :: (t.flatMap jsonWithin ++ ofChar '"' :: rest) := by
  have hquote : ("\"" : Text) = [ofChar '"'] := rfl
  simp [Text.json, hquote]

lemma string?_json (h : IsPairFree t) (rest : Text) :
    string? (t.flatMap jsonWithin ++ ofChar '"' :: rest) = some (t, rest) := by
  rw [string?, units?_json, Option.map_some, Prod.map_apply, pairUp_units h, id]

/-! ### Printable ASCII -/

/-- Whether a text is one line of printable ASCII: it holds no control character. -/
def IsPlainLine (t : Text) : Prop := ∀ c ∈ t, 0x20 ≤ c.val ∧ c.val ≤ 0x7E

instance decidableIsPlainLine (t : Text) : Decidable (IsPlainLine t) :=
  decidable_of_iff (t.all (fun c => 0x20 ≤ c.val && c.val ≤ 0x7E) = true) (by simp [IsPlainLine])

lemma IsPlainLine.append {s t : Text} (hs : IsPlainLine s) (ht : IsPlainLine t) :
    IsPlainLine (s ++ t) := List.forall_mem_append.mpr ⟨hs, ht⟩

lemma isPlainLine_ofDigit {d : Nat} (h : d < 16) : IsPlainLine [ofDigit d] := by
  have hdigits : ∀ d : Fin 16, IsPlainLine [ofDigit d.val] := by decide
  exact hdigits ⟨d, h⟩

lemma isPlainLine_hex (width n : Nat) : IsPlainLine (Text.hex width n) := by
  induction width generalizing n with
  | zero => exact List.forall_mem_nil _
  | succ width ih => exact (ih (n / 16)).append (isPlainLine_ofDigit (by omega))

lemma isPlainLine_unitEscape (unit : Nat) : IsPlainLine (unitEscape unit) := by
  have hmark : IsPlainLine "\\u" := by decide
  exact hmark.append (isPlainLine_hex 4 unit)

lemma isPlainLine_jsonWithin (c : CodePoint) : IsPlainLine (jsonWithin c) := by
  unfold jsonWithin
  iterate 7
    split
    · decide
  split
  · next h =>
    intro d hd
    rw [List.mem_singleton.mp hd]
    exact h
  split
  · exact isPlainLine_unitEscape _
  · exact (isPlainLine_unitEscape _).append (isPlainLine_unitEscape _)

lemma isPlainLine_json (t : Text) : IsPlainLine (Text.json t) := by
  have hquote : IsPlainLine "\"" := by decide
  have hwithin : IsPlainLine (t.flatMap jsonWithin) := by
    intro c hc
    obtain ⟨d, -, hcd⟩ := List.mem_flatMap.mp hc
    exact isPlainLine_jsonWithin d c hcd
  exact (hquote.append hwithin).append hquote

lemma isPairFree_append {s t : Text} (hs : ∀ c ∈ s, c.isHighSurrogate = false)
    (ht : IsPairFree t) : IsPairFree (s ++ t) := by
  induction s with
  | nil => exact ht
  | cons c s ih =>
    obtain ⟨hc, hs⟩ := List.forall_mem_cons.mp hs
    have hrest := ih hs
    rw [List.cons_append]
    refine List.isChain_cons.mpr ⟨fun d _ hpair => ?_, hrest⟩
    rw [hc] at hpair
    exact absurd hpair.1 Bool.false_ne_true

lemma IsPlainLine.no_high (h : IsPlainLine t) : ∀ c ∈ t, c.isHighSurrogate = false := by
  intro c hc
  have hval := h c hc
  simp only [isHighSurrogate, Bool.and_eq_false_iff, decide_eq_false_iff_not]
  omega

lemma IsPlainLine.isPairFree (h : IsPlainLine t) : IsPairFree t := by
  have hfree := isPairFree_append h.no_high List.isChain_nil
  rwa [List.append_nil] at hfree

end NameKeys.Proofs
