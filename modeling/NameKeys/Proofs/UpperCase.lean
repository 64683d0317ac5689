import Mathlib.Data.List.Infix
import NameKeys.Log.Level
import NameKeys.Proofs.AsciiLetters

/-!
# Words in capitals

Full upper case lets code points outside ASCII into ASCII words, one by one or as ligatures of
several letters. Of the names of log thresholds it is only the letter I that has such a look-alike:
the dotless one. No other mapping stands anywhere in these names.
-/

namespace NameKeys.Proofs
open CodePoint
open Text (foldAsciiCase replace upper)
open Unicode (uppercaseMapping uppercaseMappings)

def uppering (c : CodePoint) : Text := (uppercaseMapping c.val).map ofNat

/-- The code point that takes the place of one when ASCII letters are made capitals. -/
def capitalLetter (c : CodePoint) : CodePoint :=
  if 0x61 ≤ c.val ∧ c.val ≤ 0x7A then ofNat (c.val - 0x20) else c

/-- The small letter without a dot that becomes a capital I. -/
def dotlessLetter : CodePoint := ofNat 0x131

/-- The capital that a code point becomes, where it is an ASCII one or the dotless letter. -/
def plainCapital (c : CodePoint) : CodePoint :=
  if c = dotlessLetter then ofChar 'I' else capitalLetter c

/-- What is checked of the table of upper-case mappings. -/
structure CheckedUppercase : Prop where
  asciiUppering : ∀ n < 0x80, uppering (ofNat n) = [capitalLetter (ofNat n)]
  dotlessUppering : uppering dotlessLetter = [ofChar 'I']
  otherUppering : ∀ e ∈ uppercaseMappings, 0x80 ≤ e.1 → ofNat e.1 = dotlessLetter ∨
    (∃ n ∈ e.2, (ofNat n).isAscii = false) ∨
    ∀ threshold ∈ LogThreshold.all, ¬ e.2.map ofNat <:+: threshold.name

lemma checkedUppercase : CheckedUppercase where
  asciiUppering := by decide +kernel
  dotlessUppering := by decide +kernel
  otherUppering := by decide +kernel

open CheckedUppercase

section Words

variable {c n : CodePoint} {t : Text} {threshold : LogThreshold}

lemma mem_all_thresholds (threshold : LogThreshold) : threshold ∈ LogThreshold.all := by
  cases threshold <;> decide

lemma capital_of_mem_name (h : n ∈ threshold.name) : 0x41 ≤ n.val ∧ n.val ≤ 0x5A := by
  have hall : (threshold.name.all fun n => decide (0x41 ≤ n.val ∧ n.val ≤ 0x5A)) = true := by
    cases threshold <;> rfl
  exact of_decide_eq_true (List.all_eq_true.mp hall n h)

lemma uppering_of_isAscii (h : c.isAscii = true) : uppering c = [capitalLetter c] := by
  have hc := asciiUppering checkedUppercase c.val (isAscii_iff.mp h)
  rwa [ofNat_val] at hc

lemma plainCapital_of_isAscii (h : c.isAscii = true) : plainCapital c = capitalLetter c := by
  have hne : c ≠ dotlessLetter := by
    rintro rfl
    cases h
  rw [plainCapital, if_neg hne]

lemma plainCapital_of_not_isAscii (h : c.isAscii = false) (hne : c ≠ dotlessLetter) :
    plainCapital c = c := by
  have hval := isAscii_eq_false_iff.mp h
  rw [plainCapital, if_neg hne, capitalLetter, if_neg (by omega)]

lemma uppering_eq_of_infix (h : uppering c <:+: threshold.name) : uppering c = [plainCapital c] := by
  cases hc : c.isAscii with
  | true => rw [uppering_of_isAscii hc, plainCapital_of_isAscii hc]
  | false =>
    by_cases hdotless : c = dotlessLetter
    · rw [hdotless]
      exact dotlessUppering checkedUppercase
    · exfalso
      have hval := isAscii_eq_false_iff.mp hc
      unfold uppering uppercaseMapping at h
      cases hparts : Unicode.uppercaseMappingTree.find? c.val with
      | none =>
        have hmem : c ∈ threshold.name := by
          apply h.subset
          rw [hparts]
          simp
        have hcapital := capital_of_mem_name hmem
        omega
      | some parts =>
        rw [hparts] at h
        have hmem := Unicode.SearchTree.mem_of_find?_ofSorted hparts
        rcases otherUppering checkedUppercase _ hmem (by omega) with hsame | ⟨m, hm, hother⟩ | hnone
        · exact hdotless (by rwa [ofNat_val] at hsame)
        · have hcapital := capital_of_mem_name (h.subset (List.mem_map_of_mem hm))
          have hval := isAscii_eq_false_iff.mp hother
          omega
        · exact hnone threshold (mem_all_thresholds threshold) h

lemma uppering_eq_of_mem (h : plainCapital c ∈ threshold.name) : uppering c = [plainCapital c] := by
  cases hc : c.isAscii with
  | true => rw [uppering_of_isAscii hc, plainCapital_of_isAscii hc]
  | false =>
    by_cases hdotless : c = dotlessLetter
    · rw [hdotless]
      exact dotlessUppering checkedUppercase
    · rw [plainCapital_of_not_isAscii hc hdotless] at h
      have hcapital := capital_of_mem_name h
      have hval := isAscii_eq_false_iff.mp hc
      omega

lemma upper_eq_map (h : ∀ c ∈ t, uppering c = [plainCapital c]) : upper t = t.map plainCapital := by
  induction t with
  | nil => rfl
  | cons c rest ih =>
    have hrest := ih fun d hd => h d (List.mem_cons_of_mem _ hd)
    have hcons : upper (c :: rest) = uppering c ++ upper rest := rfl
    rw [hcons, h c (List.mem_cons_self ..), hrest]
    rfl

lemma upper_eq_name_iff : upper t = threshold.name ↔ t.map plainCapital = threshold.name := by
  constructor
  · intro h
    rw [← h]
    refine (upper_eq_map fun c hc => ?_).symm
    have hinfix : uppering c <:+: threshold.name := by
      obtain ⟨front, back, rfl⟩ := List.append_of_mem hc
      rw [← h]
      refine ⟨upper front, upper back, ?_⟩
      simp [upper, uppering]
    exact uppering_eq_of_infix hinfix
  · intro h
    rw [← h]
    refine upper_eq_map fun c hc => ?_
    have hmem : plainCapital c ∈ threshold.name := by
      rw [← h]
      exact List.mem_map_of_mem hc
    exact uppering_eq_of_mem hmem

lemma plainCapital_eq_iff (hn : 0x41 ≤ n.val ∧ n.val ≤ 0x5A) :
    plainCapital c = n ↔
      smallLetter (if c = dotlessLetter then ofChar 'I' else c) = smallLetter n := by
  have hcapital : ∀ d : CodePoint, capitalLetter d = n ↔ smallLetter d = smallLetter n := by
    intro d
    have hsmall : (smallLetter n).val = n.val + 0x20 := by
      rw [smallLetter, if_pos hn, val_ofNat (by omega)]
    have hvals : ∀ e f : CodePoint, e = f ↔ e.val = f.val := fun e f => Fin.ext_iff
    rw [hvals, hvals, hsmall]
    by_cases hd : 0x61 ≤ d.val ∧ d.val ≤ 0x7A
    · rw [capitalLetter, if_pos hd, smallLetter, if_neg (by omega), val_ofNat (by omega)]
      omega
    · rw [capitalLetter, if_neg hd, smallLetter]
      split
      · rw [val_ofNat (by omega)]
        omega
      · omega
  unfold plainCapital
  split
  · have hletter : capitalLetter (ofChar 'I') = ofChar 'I' := rfl
    rw [← hcapital, hletter]
  · exact hcapital c

end Words

lemma map_eq_iff_map_eq_map {α β γ : Type} {f : α → β} {g : α → γ} {h : β → γ} {name : List β}
    {t : List α} (hletters : ∀ n ∈ name, ∀ c, f c = n ↔ g c = h n) :
    t.map f = name ↔ t.map g = name.map h := by
  induction name generalizing t with
  | nil => simp
  | cons n name ih =>
    obtain ⟨hn, hname⟩ := List.forall_mem_cons.mp hletters
    cases t with
    | nil => simp
    | cons c t =>
      simp only [List.map_cons, List.cons.injEq]
      rw [hn c, ih hname]

/-- Whether a text is the name of a threshold in whatever case of ASCII letters, where the dotless
letter may stand for an I. -/
def NamesThreshold (t : Text) (threshold : LogThreshold) : Prop :=
  foldAsciiCase (replace dotlessLetter (ofChar 'I') t) = foldAsciiCase threshold.name

instance (t : Text) (threshold : LogThreshold) : Decidable (NamesThreshold t threshold) :=
  inferInstanceAs (Decidable (_ = _))

lemma upper_eq_name_iff_names {t : Text} {threshold : LogThreshold} :
    upper t = threshold.name ↔ NamesThreshold t threshold := by
  rw [upper_eq_name_iff, NamesThreshold, foldAsciiCase_eq_map, foldAsciiCase_eq_map, replace,
    List.map_map]
  refine map_eq_iff_map_eq_map fun n hn c => ?_
  exact plainCapital_eq_iff (capital_of_mem_name hn)

end NameKeys.Proofs
