import Mathlib.Tactic.Lemma
import NameKeys.Text.Integer

/-!
# Integers written in decimal

An integer that is written in decimal is read back, whatever its sign and its size, as long as it
does not have too many digits. With more of them it is not read at all.
-/

namespace NameKeys.Proofs
open CodePoint
open Text (spanSign separatedDigits? toInt?)

def digitValue (c : Char) : Nat := c.toNat - '0'.toNat

/-! ### Trimming -/

lemma trimWhere_eq_self {p : CodePoint → Bool} {t : Text} (h : ∀ c ∈ t, p c = false) :
    t.trimWhere p = t := by
  have hdrop : ∀ u : Text, (∀ c ∈ u, p c = false) → u.dropWhile p = u := by
    intro u hu
    cases u with
    | nil => rfl
    | cons c rest => rw [List.dropWhile_cons_of_neg (by simp [hu c])]
  rw [Text.trimWhere, hdrop t h, hdrop t.reverse fun c hc => h c (List.mem_reverse.mp hc),
    List.reverse_reverse]

/-! ### Digits -/

section Digits

variable {c : Char}

lemma val_of_isDigit (h : c.isDigit = true) : 0x30 ≤ (ofChar c).val ∧ (ofChar c).val ≤ 0x39 := by
  have hc : '0' ≤ c ∧ c ≤ '9' := by simpa [Char.isDigit, Char.le_def] using h
  exact ⟨hc.1, hc.2⟩

lemma decimalDigit?_of_isDigit (h : c.isDigit = true) :
    (ofChar c).decimalDigit? = some (digitValue c) := by
  obtain ⟨hlow, hhigh⟩ := val_of_isDigit h
  have hzero : Unicode.digitZeros.find? (fun z => z ≤ (ofChar c).val && (ofChar c).val < z + 10) =
      some 0x30 := by
    rw [Unicode.digitZeros, List.find?_cons_of_pos (by simp; omega)]
  rw [CodePoint.decimalDigit?, Unicode.decimalDigit?, hzero]
  rfl

lemma ofChar_ne_of_isDigit (h : c.isDigit = true) {d : Char} (hd : d.isDigit = false) :
    ofChar c ≠ ofChar d := by
  intro heq
  have hval : c.toNat = d.toNat := congrArg (fun e : CodePoint => e.val) heq
  have hchar : c = d := Char.toNat_inj.mp hval
  rw [hchar, hd] at h
  contradiction

lemma isWhiteSpace_of_isDigit (h : c.isDigit = true) : (ofChar c).isWhiteSpace = false := by
  obtain ⟨hlow, hhigh⟩ := val_of_isDigit h
  simp only [isWhiteSpace, Bool.or_eq_false_iff, Bool.and_eq_false_iff, decide_eq_false_iff_not,
    beq_eq_false_iff_ne]
  omega

lemma separatedDigits?_map_ofChar {digits : List Char} (hne : digits ≠ [])
    (h : ∀ c ∈ digits, c.isDigit = true) :
    separatedDigits? decimalDigit? (digits.map ofChar) = some (digits.map digitValue) := by
  induction digits with
  | nil => exact absurd rfl hne
  | cons c rest ih =>
    have hc := decimalDigit?_of_isDigit (h c (List.mem_cons_self ..))
    cases rest with
    | nil => simp [separatedDigits?, hc]
    | cons d rest =>
      have hd := ofChar_ne_of_isDigit (h d (by simp)) (d := '_') (by decide)
      have hrest := ih (List.cons_ne_nil _ _) fun e he => h e (List.mem_cons_of_mem _ he)
      rw [List.map_cons, List.map_cons] at hrest
      simp [separatedDigits?, hc, hd, hrest]

end Digits

lemma ofDecimalDigits_map_digitValue (digits : List Char) :
    ofDecimalDigits (digits.map digitValue) = Nat.ofDigitChars 10 digits 0 := by
  rw [Nat.ofDigitChars_eq_foldl, ofDecimalDigits, List.foldl_map]
  rfl

/-! ### Numerals -/

section Numerals

variable (n : Nat)

lemma isDigit_of_mem_toDigits {n : Nat} {c : Char} (h : c ∈ Nat.toDigits 10 n) :
    c.isDigit = true :=
  Nat.isDigit_of_mem_toDigits (by decide) (by decide) h

lemma ofNat_eq_cons : ∃ c rest, Text.ofNat n = ofChar c :: rest ∧ c.isDigit = true := by
  cases hdigits : Nat.toDigits 10 n with
  | nil => exact absurd hdigits Nat.toDigits_ne_nil
  | cons c rest =>
    refine ⟨c, rest.map ofChar, by rw [Text.ofNat, hdigits]; rfl, ?_⟩
    exact isDigit_of_mem_toDigits (by rw [hdigits]; exact List.mem_cons_self ..)

lemma separatedDigits?_ofNat : separatedDigits? decimalDigit? (Text.ofNat n) =
    some ((Nat.toDigits 10 n).map digitValue) :=
  separatedDigits?_map_ofChar Nat.toDigits_ne_nil fun _ hc => isDigit_of_mem_toDigits hc

lemma ofDecimalDigits_toDigits : ofDecimalDigits ((Nat.toDigits 10 n).map digitValue) = n := by
  rw [ofDecimalDigits_map_digitValue, Nat.ofDigitChars_ten_toDigits]

lemma length_toDigits_le_iff :
    ((Nat.toDigits 10 n).map digitValue).length ≤ maxDigits ↔ hasDecimalText n = true := by
  rw [List.length_map, hasDecimalText, decide_eq_true_iff, Int.natAbs_natCast, Nat.pow_eq,
    Nat.length_toDigits_le_iff (by decide) (by decide)]

lemma isWhiteSpace_of_mem_ofNat {n : Nat} {c : CodePoint} (h : c ∈ Text.ofNat n) :
    c.isWhiteSpace = false := by
  obtain ⟨digit, hdigit, rfl⟩ := List.mem_map.mp h
  exact isWhiteSpace_of_isDigit (isDigit_of_mem_toDigits hdigit)

lemma stripNumeral_ofInt (n : Int) : Text.stripNumeral (Text.ofInt n) = Text.ofInt n := by
  refine trimWhere_eq_self fun c hc => ?_
  cases n with
  | ofNat n => exact isWhiteSpace_of_mem_ofNat hc
  | negSucc n =>
    rcases List.mem_cons.mp hc with rfl | hc
    · decide
    · exact isWhiteSpace_of_mem_ofNat hc

lemma spanSign_ofNat : spanSign (Text.ofNat n) = (false, Text.ofNat n) := by
  obtain ⟨c, rest, heq, hdigit⟩ := ofNat_eq_cons n
  have hminus := ofChar_ne_of_isDigit hdigit (d := '-') (by decide)
  have hplus := ofChar_ne_of_isDigit hdigit (d := '+') (by decide)
  rw [heq, spanSign, if_neg hminus, if_neg hplus]

lemma toInt?_of_spanSign {t : Text} {negative : Bool}
    (h : spanSign (Text.stripNumeral t) = (negative, Text.ofNat n)) :
    toInt? t = if hasDecimalText n then
      some (if negative then -(n : Int) else n) else none := by
  rw [toInt?, h]
  simp only [separatedDigits?_ofNat, length_toDigits_le_iff, Text.signed,
    ofDecimalDigits_toDigits]

end Numerals

lemma toInt?_ofInt (n : Int) :
    toInt? (Text.ofInt n) = if hasDecimalText n then some n else none := by
  have hstrip := stripNumeral_ofInt n
  cases n with
  | ofNat n =>
    have hspan : spanSign (Text.stripNumeral (Text.ofInt (.ofNat n))) = (false, Text.ofNat n) := by
      rw [hstrip]
      exact spanSign_ofNat n
    rw [toInt?_of_spanSign n hspan]
    rfl
  | negSucc n =>
    have hspan : spanSign (Text.stripNumeral (Text.ofInt (.negSucc n))) =
        (true, Text.ofNat (n + 1)) := by
      rw [hstrip]
      rfl
    have hdigits : hasDecimalText (n + 1 : Nat) = hasDecimalText (.negSucc n) := rfl
    rw [toInt?_of_spanSign (n + 1) hspan, hdigits]
    rfl

lemma val_of_mem_ofInt {n : Int} {c : CodePoint} (h : c ∈ Text.ofInt n) : c.val ≤ 0x39 := by
  have hdigit : ∀ {n : Nat}, c ∈ Text.ofNat n → c.val ≤ 0x39 := fun h => by
    obtain ⟨digit, hmem, rfl⟩ := List.mem_map.mp h
    exact (val_of_isDigit (isDigit_of_mem_toDigits hmem)).2
  cases n with
  | ofNat n => exact hdigit h
  | negSucc n =>
    rcases List.mem_cons.mp h with rfl | h
    · decide
    · exact hdigit h

end NameKeys.Proofs
