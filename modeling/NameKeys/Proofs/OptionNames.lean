import Mathlib.Data.List.DropRight
import Mathlib.Data.List.Forall2
import NameKeys.Profile.Basic
import NameKeys.Proofs.DecimalText
import NameKeys.Proofs.LowerCase

/-!
# How options are named

A text names an option exactly if blanks surround the option's name, letters of which may be ASCII
capitals and underscores of which may be hyphens. Full lower case does not let anything else in,
because nothing but ASCII letters has the letters of these names as its lower case. Any other text
is reported as it is.
-/

namespace NameKeys.Proofs
open CodePoint
open Text (foldAsciiCase lower replace strip)
open NormalizationOption (ofName? parse?)

/-! ### Trimming -/

section Trimming

variable {p : CodePoint → Bool} {front t back : Text}

lemma exists_eq_append_trimWhere (p : CodePoint → Bool) (t : Text) :
    ∃ front back, t = front ++ t.trimWhere p ++ back ∧ (∀ c ∈ front, p c = true) ∧
      ∀ c ∈ back, p c = true := by
  refine ⟨t.takeWhile p, (t.dropWhile p).rtakeWhile p, ?_, fun c => List.mem_takeWhile_imp, ?_⟩
  · have htrim : t.trimWhere p = (t.dropWhile p).rdropWhile p := rfl
    rw [htrim, List.append_assoc, List.rdropWhile_append_rtakeWhile,
      List.takeWhile_append_dropWhile]
  · intro c hc
    exact List.mem_takeWhile_imp (List.mem_reverse.mp hc)

lemma trimWhere_append (hfront : ∀ c ∈ front, p c = true) (hback : ∀ c ∈ back, p c = true) :
    (front ++ t ++ back).trimWhere p = t.trimWhere p := by
  have hend : ∀ u : Text, ((u ++ back).reverse.dropWhile p).reverse =
      (u.reverse.dropWhile p).reverse := by
    intro u
    rw [List.reverse_append, List.dropWhile_append_of_pos]
    exact fun c hc => hback c (List.mem_reverse.mp hc)
  rw [Text.trimWhere, List.append_assoc, List.dropWhile_append_of_pos hfront, List.dropWhile_append,
    Text.trimWhere]
  split
  · next hempty =>
    rw [List.isEmpty_iff.mp hempty, List.dropWhile_eq_nil_iff.mpr hback]
  · exact hend _

lemma trimWhere_trimWhere (p : CodePoint → Bool) (t : Text) :
    (t.trimWhere p).trimWhere p = t.trimWhere p := by
  obtain ⟨front, back, ht, hfront, hback⟩ := exists_eq_append_trimWhere p t
  have htrim := trimWhere_append (t := t.trimWhere p) hfront hback
  rw [← ht] at htrim
  exact htrim.symm

lemma strip_eq_nil_iff : strip t = [] ↔ Text.isBlank t = true := by
  constructor
  · intro h
    obtain ⟨front, back, ht, hfront, hback⟩ := exists_eq_append_trimWhere CodePoint.isBlank t
    have hnil : t.trimWhere CodePoint.isBlank = [] := h
    rw [hnil, List.append_nil] at ht
    rw [ht, Text.isBlank, List.all_append, List.all_eq_true.mpr hfront, List.all_eq_true.mpr hback]
    rfl
  · intro h
    have hstrip := trimWhere_append (t := []) (List.all_eq_true.mp h) (List.forall_mem_nil _)
    rwa [List.append_nil, List.append_nil] at hstrip

end Trimming

/-! ### Spellings -/

def hyphen : CodePoint := ofChar '-'

def underscore : CodePoint := ofChar '_'

/-- Whether a code point can be typed for one of an option's name: it is that one, its ASCII
capital, or a hyphen for an underscore. -/
def IsTypedFor (c n : CodePoint) : Prop :=
  c = n ∨ (0x61 ≤ n.val ∧ n.val ≤ 0x7A ∧ c.val + 0x20 = n.val) ∨ (c = hyphen ∧ n = underscore)

/-- Whether a text is an option's name as it can be typed, with blanks around it. -/
def Spells (t : Text) (o : NormalizationOption) : Prop :=
  ∃ front core back, t = front ++ core ++ back ∧ (∀ c ∈ front, c.isBlank = true) ∧
    (∀ c ∈ back, c.isBlank = true) ∧ List.Forall₂ IsTypedFor core o.name

/-- Whether a code point is like those in the names of options: a small letter that only ASCII
letters have as their lower case, or an underscore. -/
def IsNamePoint (n : CodePoint) : Prop :=
  isPlainLower n = true ∧ (n = underscore ∨ 0x61 ≤ n.val ∧ n.val ≤ 0x7A)

section Spellings

variable {c n : CodePoint} {t core name : Text} {o : NormalizationOption}

lemma isNamePoint_of_mem_name (h : n ∈ o.name) : IsNamePoint n := by
  have hall : (o.name.all fun n =>
      isPlainLower n && (n == underscore || decide (0x61 ≤ n.val ∧ n.val ≤ 0x7A))) = true := by
    cases o <;> rfl
  have hn := List.all_eq_true.mp hall n h
  simpa only [IsNamePoint, Bool.and_eq_true, Bool.or_eq_true, beq_iff_eq, decide_eq_true_eq]
    using hn

lemma isTypedFor_iff (h : IsNamePoint n) : IsTypedFor c n ↔
    (if smallLetter c = hyphen then underscore else smallLetter c) = n := by
  obtain ⟨-, hn⟩ := h
  have hhyphen : hyphen.val = 0x2D := rfl
  have hunderscore : underscore.val = 0x5F := rfl
  have heq : ∀ d e : CodePoint, d = e ↔ d.val = e.val := fun d e => Fin.ext_iff
  unfold IsTypedFor
  by_cases hcapital : 0x41 ≤ c.val ∧ c.val ≤ 0x5A
  · have hval : (smallLetter c).val = c.val + 0x20 := by
      rw [smallLetter, if_pos hcapital, val_ofNat (by omega)]
    have hne : smallLetter c ≠ hyphen := fun hsame => by
      have hvals := (heq _ _).mp hsame
      omega
    rw [if_neg hne]
    simp only [heq] at hn ⊢
    omega
  · have hsmall : smallLetter c = c := by rw [smallLetter, if_neg hcapital]
    rw [hsmall]
    split <;> simp only [heq] at * <;> omega

lemma isPlainLower_of_replace (hname : ∀ n ∈ name, IsNamePoint n)
    (h : replace hyphen underscore t = name) : ∀ c ∈ t, isPlainLower c = true := by
  intro c hc
  have hmem : (if c = hyphen then underscore else c) ∈ name := by
    rw [← h, replace]
    exact List.mem_map_of_mem hc
  by_cases hhyphen : c = hyphen
  · rw [hhyphen]
    rfl
  · rw [if_neg hhyphen] at hmem
    exact (hname c hmem).1

lemma replace_lower_eq_iff (hname : ∀ n ∈ name, IsNamePoint n) :
    replace hyphen underscore (lower t) = name ↔
      replace hyphen underscore (foldAsciiCase t) = name := by
  constructor
  · intro h
    have hplain := isPlainLower_of_replace hname h
    rw [(lower_eq_iff hplain t).mp rfl, h]
  · intro h
    have hplain := isPlainLower_of_replace hname h
    rw [(lower_eq_iff hplain t).mpr rfl, h]

lemma forall₂_isTypedFor_iff (hname : ∀ n ∈ name, IsNamePoint n) :
    List.Forall₂ IsTypedFor t name ↔ replace hyphen underscore (lower t) = name := by
  rw [replace_lower_eq_iff hname, foldAsciiCase_eq_map, replace, List.map_map]
  induction name generalizing t with
  | nil => rw [List.forall₂_nil_right_iff, List.map_eq_nil_iff]
  | cons n name ih =>
    obtain ⟨hn, hrest⟩ := List.forall_mem_cons.mp hname
    cases t with
    | nil => exact iff_of_false nofun nofun
    | cons c t =>
      rw [List.forall₂_cons, List.map_cons, List.cons.injEq, ih hrest, isTypedFor_iff hn]
      rfl

lemma ofName?_eq_some_iff : ofName? name = some o ↔ name = o.name := by
  constructor
  · intro h
    have ho := List.find?_some h
    exact (of_decide_eq_true ho).symm
  · rintro rfl
    cases o <;> rfl

lemma isAscii_of_isTypedFor (hn : IsNamePoint n) (h : IsTypedFor c n) :
    c.isAscii = true ∧ c.isBlank = false := by
  have hval : c.val = 0x2D ∨ c.val = 0x5F ∨ 0x41 ≤ c.val ∧ c.val ≤ 0x5A ∨
      0x61 ≤ c.val ∧ c.val ≤ 0x7A := by
    rcases h with rfl | ⟨hlow, hhigh, heq⟩ | ⟨rfl, -⟩
    · rcases hn.2 with rfl | hletter
      · exact .inr (.inl rfl)
      · exact .inr (.inr (.inr hletter))
    · exact .inr (.inr (.inl (by omega)))
    · exact .inl rfl
  constructor
  · rw [isAscii_iff]
    omega
  · simp only [isBlank, isWhiteSpace, Bool.or_eq_false_iff, Bool.and_eq_false_iff,
      decide_eq_false_iff_not, beq_eq_false_iff_ne]
    omega

lemma isAscii_of_forall₂ (hname : ∀ n ∈ name, IsNamePoint n)
    (h : List.Forall₂ IsTypedFor core name) :
    ∀ c ∈ core, c.isAscii = true ∧ c.isBlank = false := by
  induction h with
  | nil => exact List.forall_mem_nil _
  | cons hcn _ ih =>
    obtain ⟨hn, hrest⟩ := List.forall_mem_cons.mp hname
    exact List.forall_mem_cons.mpr ⟨isAscii_of_isTypedFor hn hcn, ih hrest⟩

lemma parse?_eq_some_iff : parse? t = some o ↔ Spells t o := by
  have hname : ∀ n ∈ o.name, IsNamePoint n := fun n hn => isNamePoint_of_mem_name hn
  have hparse : parse? t = ofName? (replace hyphen underscore (lower (strip t))) := rfl
  rw [hparse, ofName?_eq_some_iff, ← forall₂_isTypedFor_iff hname]
  constructor
  · intro h
    obtain ⟨front, back, ht, hfront, hback⟩ := exists_eq_append_trimWhere CodePoint.isBlank t
    exact ⟨front, strip t, back, ht, hfront, hback, h⟩
  · rintro ⟨front, core, back, rfl, hfront, hback, hcore⟩
    have hstrip : strip (front ++ core ++ back) = core := by
      refine (trimWhere_append hfront hback).trans (trimWhere_eq_self fun c hc => ?_)
      exact (isAscii_of_forall₂ hname hcore c hc).2
    rwa [hstrip]

end Spellings

/-- A text is taken for an option exactly if it spells it, and is otherwise reported as it was
given, with the names that there are. Only blanks and ASCII code points can be in a text that is
taken. -/
theorem option_of_spellings (name : Text) :
    (∀ o, Profile.readOptionName (.text name) = .ok o ↔ Spells name o) ∧
    ((∀ o, ¬ Spells name o) →
      Profile.readOptionName (.text name) = .error (.configuration (.unknownOption name)) ∧
      (ConfigurationError.unknownOption name).context = ([("option", .text name),
        ("available", .ofTexts ["nfc", "nfd", "case_fold_unicode", "case_fold_ascii"])] : Table)) ∧
    ∀ o, Spells name o → ∀ c ∈ name, c.isBlank = true ∨ c.isAscii = true := by
  refine ⟨fun o => ?_, fun hnone => ⟨?_, rfl⟩, ?_⟩
  · rw [← parse?_eq_some_iff, Profile.readOptionName]
    cases parse? name with
    | none => exact iff_of_false nofun nofun
    | some other =>
      constructor
      · intro h
        rw [Except.ok.inj h]
      · intro h
        rw [Option.some.inj h]
  · have hparse : parse? name = none := by
      cases h : parse? name with
      | none => rfl
      | some o => exact absurd (parse?_eq_some_iff.mp h) (hnone o)
    rw [Profile.readOptionName, hparse]
  · rintro o ⟨front, core, back, rfl, hfront, hback, hcore⟩ c hc
    simp only [List.mem_append] at hc
    rcases hc with (hc | hc) | hc
    · exact .inl (hfront c hc)
    · exact .inr (isAscii_of_forall₂ (fun n hn => isNamePoint_of_mem_name hn) hcore c hc).1
    · exact .inl (hback c hc)

example : parse? "\tCase-fold_ASCII\u2003" = some .caseFoldAscii := by decide +kernel

end NameKeys.Proofs
