import Mathlib.Data.Nat.Digits.Defs
import NameKeys.Proofs.OptionNames
import NameKeys.Proofs.VariableTexts

/-!
# Truth values and integers in variables

The text of a variable is a truth value exactly if it is one of four words in whatever case of ASCII
letters, and an integer exactly if it is written as one: white space around a sign and digits of any
script, with single underscores between them and at most 4300 of them. No text is both, and any other
text is left as it is.
-/

namespace NameKeys.Proofs
open CodePoint
open Text (foldAsciiCase separatedDigits? spanSign stripNumeral toInt?)
open Environment (convertValue scalar)

/-! ### Words for truth values -/

/-- Whether a text is a word for a truth value in whatever case of ASCII letters. -/
def SpellsTruth (t : Text) (b : Bool) : Prop := ∃ word, (word, b) ∈ truthWords ∧ foldAsciiCase t = word

lemma truthOf?_eq_some_iff {t : Text} {b : Bool} : truthOf? t = some b ↔ SpellsTruth t b := by
  unfold truthOf? SpellsTruth
  constructor
  · intro h
    obtain ⟨before, after, hwords, -⟩ := List.lookup_eq_some_iff.mp h
    refine ⟨_, ?_, rfl⟩
    rw [hwords]
    simp
  · rintro ⟨word, hmem, rfl⟩
    have hall : ∀ e ∈ truthWords, List.lookup e.1 truthWords = some e.2 := by
      unfold truthWords
      simp only [List.forall_mem_cons]
      exact ⟨rfl, rfl, rfl, rfl, List.forall_mem_nil _⟩
    exact hall _ hmem

/-! ### Digits -/

/-- Whether a text consists of digits of any script with these values, at most one underscore
between each two. -/
inductive AreDigits : Text → List Nat → Prop
  | one {c : CodePoint} {d : Nat} (digit : c.decimalDigit? = some d) : AreDigits [c] [d]
  | next {c : CodePoint} {d : Nat} {rest : Text} {ds : List Nat} (digit : c.decimalDigit? = some d)
      (digits : AreDigits rest ds) : AreDigits (c :: rest) (d :: ds)
  | separated {c : CodePoint} {d : Nat} {rest : Text} {ds : List Nat}
      (digit : c.decimalDigit? = some d) (digits : AreDigits rest ds) :
      AreDigits (c :: underscore :: rest) (d :: ds)

section Digits

variable {c : CodePoint} {d : Nat} {t : Text} {ds : List Nat}

/-- What is checked of the digits of all scripts. -/
lemma checkedDigits : ∀ z ∈ Unicode.digitZeros, ∀ k < 10,
    (ofNat (z + k)).isWhiteSpace = false ∧ (z = 0x30 ∨ 0x80 ≤ z) := by
  decide +kernel

lemma digit_cases (h : c.decimalDigit? = some d) :
    c.isWhiteSpace = false ∧ (0x30 ≤ c.val ∧ c.val ≤ 0x39 ∨ 0x80 ≤ c.val) := by
  unfold decimalDigit? Unicode.decimalDigit? at h
  obtain ⟨z, hfind, -⟩ := Option.map_eq_some_iff.mp h
  have hmem := List.mem_of_find?_eq_some hfind
  have hrange := List.find?_some hfind
  simp only [Bool.and_eq_true, decide_eq_true_eq] at hrange
  obtain ⟨hwhite, hzero⟩ := checkedDigits z hmem (c.val - z) (by omega)
  have hc : ofNat (z + (c.val - z)) = c := by
    rw [Nat.add_sub_cancel' hrange.1, ofNat_val]
  rw [hc] at hwhite
  exact ⟨hwhite, by omega⟩

lemma ne_ofChar_of_digit (h : c.decimalDigit? = some d) {s : Char}
    (hs : (ofChar s).val < 0x30 ∨ 0x39 < (ofChar s).val ∧ (ofChar s).val < 0x80) : c ≠ ofChar s := by
  rintro rfl
  obtain ⟨-, hval⟩ := digit_cases h
  omega

lemma AreDigits.exists_cons (h : AreDigits t ds) :
    ∃ c d rest, t = c :: rest ∧ c.decimalDigit? = some d := by
  cases h with
  | one digit => exact ⟨_, _, _, rfl, digit⟩
  | next digit _ => exact ⟨_, _, _, rfl, digit⟩
  | separated digit _ => exact ⟨_, _, _, rfl, digit⟩

lemma AreDigits.not_white (h : AreDigits t ds) : ∀ c ∈ t, c.isWhiteSpace = false := by
  induction h with
  | one digit => simp [(digit_cases digit).1]
  | next digit _ ih => exact List.forall_mem_cons.mpr ⟨(digit_cases digit).1, ih⟩
  | separated digit _ ih =>
    exact List.forall_mem_cons.mpr ⟨(digit_cases digit).1, List.forall_mem_cons.mpr ⟨rfl, ih⟩⟩

lemma separatedDigits?_eq_some_iff :
    separatedDigits? decimalDigit? t = some ds ↔ AreDigits t ds := by
  constructor
  · intro h
    fun_induction separatedDigits? decimalDigit? t generalizing ds with
    | case1 => cases h
    | case2 c =>
      obtain ⟨d, hd, rfl⟩ := Option.map_eq_some_iff.mp h
      exact .one hd
    | case3 c next rest hnone => cases h
    | case4 c next rest d hd ih₁ ih₂ =>
      obtain ⟨ds, hrest, rfl⟩ := Option.map_eq_some_iff.mp h
      split at hrest
      · next hnext =>
        rw [hnext]
        exact .separated hd (ih₁ hrest)
      · exact .next hd (ih₂ hrest)
  · intro h
    induction h with
    | one digit => simp [separatedDigits?, digit]
    | next digit digits ih =>
      obtain ⟨next, d, rest, rfl, hnext⟩ := digits.exists_cons
      have hne := ne_ofChar_of_digit hnext (s := '_') (.inr (by decide))
      simp only [separatedDigits?, digit, if_neg hne, ih, Option.map_some]
    | separated digit digits ih =>
      have hunderscore : underscore = ofChar '_' := rfl
      simp only [separatedDigits?, digit, if_pos hunderscore, ih, Option.map_some]

lemma ofDecimalDigits_eq (ds : List Nat) : ofDecimalDigits ds = Nat.ofDigits 10 ds.reverse := by
  rw [Nat.ofDigits_eq_foldr, List.foldr_reverse, ofDecimalDigits]
  simp only [Nat.cast_id, Nat.add_comm]

end Digits

/-! ### Integers -/

/-- Whether a text is a sign, or none, and whether it makes what follows negative. -/
inductive IsSign : Text → Bool → Prop
  | none : IsSign [] false
  | plus : IsSign [ofChar '+'] false
  | minus : IsSign [ofChar '-'] true

/-- Whether a text is an integer as people write them, with not too many digits: white space, a sign,
digits and white space again. -/
def DenotesInteger (t : Text) (n : Int) : Prop :=
  ∃ front sign digits back : Text, ∃ negative ds,
    t = front ++ (sign ++ digits) ++ back ∧ (∀ c ∈ front, c.isWhiteSpace = true) ∧
    (∀ c ∈ back, c.isWhiteSpace = true) ∧ IsSign sign negative ∧ AreDigits digits ds ∧
    ds.length ≤ maxDigits ∧
    n = if negative then -Nat.ofDigits 10 ds.reverse else Nat.ofDigits 10 ds.reverse

section Integers

variable {t : Text} {n : Int}

lemma spanSign_append {sign digits : Text} {negative : Bool} {ds : List Nat}
    (hsign : IsSign sign negative) (hdigits : AreDigits digits ds) :
    spanSign (sign ++ digits) = (negative, digits) := by
  cases hsign with
  | none =>
    obtain ⟨c, d, rest, rfl, hd⟩ := hdigits.exists_cons
    have hminus := ne_ofChar_of_digit hd (s := '-') (.inl (by decide))
    have hplus := ne_ofChar_of_digit hd (s := '+') (.inl (by decide))
    rw [List.nil_append, spanSign, if_neg hminus, if_neg hplus]
  | plus => rfl
  | minus => rfl

lemma exists_sign_of_spanSign {numeral : Text} {negative : Bool}
    (h : spanSign t = (negative, numeral)) : ∃ sign, t = sign ++ numeral ∧ IsSign sign negative := by
  unfold spanSign at h
  split at h
  · obtain ⟨rfl, rfl⟩ := Prod.mk.inj h
    exact ⟨[], rfl, .none⟩
  · next c rest =>
    split at h
    · next hminus =>
      obtain ⟨rfl, rfl⟩ := Prod.mk.inj h
      exact ⟨[ofChar '-'], by rw [hminus]; rfl, .minus⟩
    · split at h
      · next hplus =>
        obtain ⟨rfl, rfl⟩ := Prod.mk.inj h
        exact ⟨[ofChar '+'], by rw [hplus]; rfl, .plus⟩
      · obtain ⟨rfl, rfl⟩ := Prod.mk.inj h
        exact ⟨[], rfl, .none⟩

lemma stripNumeral_append {front sign digits back : Text} {negative : Bool} {ds : List Nat}
    (hfront : ∀ c ∈ front, c.isWhiteSpace = true) (hback : ∀ c ∈ back, c.isWhiteSpace = true)
    (hsign : IsSign sign negative) (hdigits : AreDigits digits ds) :
    stripNumeral (front ++ (sign ++ digits) ++ back) = sign ++ digits := by
  refine (trimWhere_append hfront hback).trans (trimWhere_eq_self fun c hc => ?_)
  rcases List.mem_append.mp hc with hc | hc
  · cases hsign with
    | none => cases hc
    | plus => rw [List.mem_singleton.mp hc]; rfl
    | minus => rw [List.mem_singleton.mp hc]; rfl
  · exact hdigits.not_white c hc

lemma signed_eq (negative : Bool) (ds : List Nat) :
    Text.signed negative ds =
      if negative then -Nat.ofDigits 10 ds.reverse else Nat.ofDigits 10 ds.reverse := by
  rw [Text.signed, ofDecimalDigits_eq, Nat.coe_ofDigits]
  rfl

lemma toInt?_eq_some_iff : toInt? t = some n ↔ DenotesInteger t n := by
  constructor
  · intro h
    obtain ⟨front, back, ht, hfront, hback⟩ := exists_eq_append_trimWhere isWhiteSpace t
    unfold toInt? at h
    cases hspan : spanSign (stripNumeral t) with
    | mk negative numeral =>
      rw [hspan] at h
      obtain ⟨sign, hsign, hsigned⟩ := exists_sign_of_spanSign hspan
      cases hdigits : separatedDigits? decimalDigit? numeral with
      | none => simp [hdigits] at h
      | some ds =>
        simp only [hdigits] at h
        split at h
        · next hlength =>
          obtain rfl := Option.some.inj h
          have hstrip : t.trimWhere isWhiteSpace = sign ++ numeral := hsign
          rw [hstrip] at ht
          exact ⟨front, sign, numeral, back, negative, ds, ht, hfront, hback, hsigned,
            separatedDigits?_eq_some_iff.mp hdigits, hlength, signed_eq negative ds⟩
        · cases h
  · rintro ⟨front, sign, digits, back, negative, ds, rfl, hfront, hback, hsign, hdigits, hlength, rfl⟩
    have hread := separatedDigits?_eq_some_iff.mpr hdigits
    rw [toInt?, stripNumeral_append hfront hback hsign hdigits, spanSign_append hsign hdigits]
    simp only [hread, if_pos hlength, signed_eq]

lemma DenotesInteger.truthOf?_eq_none (h : DenotesInteger t n) : truthOf? t = none := by
  obtain ⟨front, sign, digits, back, -, ds, rfl, -, -, -, hdigits, -, -⟩ := h
  obtain ⟨c, d, rest, rfl, hd⟩ := hdigits.exists_cons
  obtain ⟨-, hval⟩ := digit_cases hd
  refine Proofs.truthOf?_eq_none (c := c) (by simp) ?_
  rw [isAscii_eq_false_iff]
  omega

end Integers

/-- The text of a variable that is no list has a value, namely the truth value that it is a word for,
the integer that it denotes, or where there is neither the text itself. The decimal text of an integer
is this integer if it does not have too many digits. -/
theorem variable_values_by_spelling (t : Text) :
    (∀ b, convertValue false (.text t) = .ok (.bool b) ↔ SpellsTruth t b) ∧
    (∀ n, convertValue false (.text t) = .ok (.int n) ↔ DenotesInteger t n) ∧
    (convertValue false (.text t) = .ok (.text t) ↔
      (∀ b, ¬ SpellsTruth t b) ∧ ∀ n, ¬ DenotesInteger t n) ∧
    ∀ n : Int, convertValue false (.text (Text.ofInt n)) =
      .ok (if (Nat.toDigits 10 n.natAbs).length ≤ maxDigits then .int n else .text (Text.ofInt n)) := by
  have hvalue : ∀ t, convertValue false (.text t) = .ok (scalar t) := fun _ => rfl
  simp only [hvalue, Except.ok.injEq, ← truthOf?_eq_some_iff, ← toInt?_eq_some_iff]
  refine ⟨fun b => ?_, fun n => ?_, ?_, fun n => ?_⟩
  · rw [scalar_eq]
    cases truthOf? t with
    | some other => simp
    | none => cases toInt? t <;> simp
  · rw [scalar_eq]
    cases htruth : truthOf? t with
    | some b =>
      refine iff_of_false nofun fun h => ?_
      rw [(toInt?_eq_some_iff.mp h).truthOf?_eq_none] at htruth
      cases htruth
    | none => cases toInt? t <;> simp
  · rw [scalar_eq]
    cases truthOf? t with
    | some b => simp
    | none => cases toInt? t <;> simp
  · have hdigits : (Nat.toDigits 10 n.natAbs).length ≤ maxDigits ↔ hasDecimalText n = true := by
      rw [← List.length_map (f := digitValue), length_toDigits_le_iff, hasDecimalText, hasDecimalText,
        Int.natAbs_natCast]
    rw [scalar_eq, truthOf?_ofInt, toInt?_ofInt]
    by_cases hshort : hasDecimalText n = true
    · rw [if_pos hshort, if_pos (hdigits.mpr hshort)]
    · rw [if_neg hshort, if_neg (mt hdigits.mp hshort)]

example : toInt? " -1_٢\u2003" = some (-12) := by decide +kernel

end NameKeys.Proofs
