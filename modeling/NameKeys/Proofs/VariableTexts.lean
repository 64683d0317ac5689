import NameKeys.Config.Environment
import NameKeys.Proofs.DecimalText
import NameKeys.Proofs.LowerCase

/-!
# What the texts of variables stand for

A text that names a truth value in whatever case stands for it, a text that denotes an integer for the
integer, and any other text for itself. Where a setting is a list, pieces that are joined with commas
are taken apart again.
-/

namespace NameKeys.Proofs
open CodePoint
open Text (foldAsciiCase splitOn join strip)
open Environment (scalar items)

/-! ### Truth values, integers and texts -/

def truthWords : List (Text × Bool) :=
  [("true", true), ("yes", true), ("false", false), ("no", false)]

/-- The truth value that a text names, in whatever case. -/
def truthOf? (t : Text) : Option Bool := List.lookup (foldAsciiCase t) truthWords

lemma truthWords_letters :
    ∀ word ∈ truthWords, ∀ c ∈ word.1, isPlainLower c = true ∧ 0x61 ≤ c.val := by
  have hall : (truthWords.all fun word =>
      word.1.all fun c => isPlainLower c && decide (0x61 ≤ c.val)) = true := rfl
  simpa only [List.all_eq_true, Bool.and_eq_true, decide_eq_true_eq] using hall

lemma scalar_eq (t : Text) :
    scalar t =
      match truthOf? t with
      | some b => .bool b
      | none =>
        match Text.toInt? t with
        | some n => .int n
        | none => .text t := by
  have hword : ∀ word ∈ truthWords, (Text.lower t = word.1 ↔ foldAsciiCase t = word.1) :=
    fun word hmem => lower_eq_iff (fun c hc => (truthWords_letters word hmem c hc).1) t
  obtain ⟨htrue, hyes, hfalse, hno⟩ :
      (Text.lower t = "true" ↔ foldAsciiCase t = "true") ∧
      (Text.lower t = "yes" ↔ foldAsciiCase t = "yes") ∧
      (Text.lower t = "false" ↔ foldAsciiCase t = "false") ∧
      (Text.lower t = "no" ↔ foldAsciiCase t = "no") :=
    ⟨hword ("true", true) (by simp [truthWords]), hword ("yes", true) (by simp [truthWords]),
      hword ("false", false) (by simp [truthWords]), hword ("no", false) (by simp [truthWords])⟩
  simp only [scalar, htrue, hyes, hfalse, hno, truthOf?, truthWords, List.lookup_cons,
    List.lookup_nil]
  generalize foldAsciiCase t = folded
  by_cases h1 : folded = "true"
  · rw [h1]
    rfl
  by_cases h2 : folded = "yes"
  · rw [h2]
    rfl
  by_cases h3 : folded = "false"
  · rw [h3]
    rfl
  by_cases h4 : folded = "no"
  · rw [h4]
    rfl
  have hne : ∀ word : Text, folded ≠ word → (folded == word) = false := fun word h => by
    simpa using h
  rw [if_neg (not_or.mpr ⟨h1, h2⟩), if_neg (not_or.mpr ⟨h3, h4⟩)]
  cases Text.toInt? t <;> simp only [hne _ h1, hne _ h2, hne _ h3, hne _ h4]

lemma scalar_eq_text {t : Text} (htruth : truthOf? t = none) (hint : Text.toInt? t = none) :
    scalar t = .text t := by
  rw [scalar_eq, htruth, hint]

lemma truthOf?_eq_none {t : Text} {c : CodePoint} (hmem : c ∈ t)
    (hc : c.val < 0x41 ∨ c.isAscii = false) : truthOf? t = none := by
  have hval : c.val < 0x41 ∨ 0x80 ≤ c.val := by rwa [← isAscii_eq_false_iff]
  have hsmall : smallLetter c = c := by
    rw [smallLetter, if_neg (by omega)]
  have hfolded : c ∈ foldAsciiCase t := by
    rw [foldAsciiCase_eq_map, ← hsmall]
    exact List.mem_map_of_mem hmem
  rw [truthOf?, List.lookup_eq_none_iff]
  intro word hword
  have hne : foldAsciiCase t ≠ word.1 := by
    intro heq
    obtain ⟨hplain, hletter⟩ := truthWords_letters word hword c (heq ▸ hfolded)
    simp only [isPlainLower, Bool.and_eq_true] at hplain
    have hascii := isAscii_iff.mp hplain.1
    omega
  simpa using hne

lemma truthOf?_ofInt (n : Int) : truthOf? (Text.ofInt n) = none := by
  obtain ⟨c, hc⟩ : ∃ c, c ∈ Text.ofInt n := by
    cases n with
    | ofNat n =>
      obtain ⟨c, rest, heq, -⟩ := ofNat_eq_cons n
      exact ⟨ofChar c, by rw [Text.ofInt, heq]; exact List.mem_cons_self ..⟩
    | negSucc n => exact ⟨ofChar '-', List.mem_cons_self ..⟩
  have hval := val_of_mem_ofInt hc
  exact truthOf?_eq_none hc (.inl (by omega))

lemma scalar_ofInt {n : Int} (h : hasDecimalText n = true) : scalar (Text.ofInt n) = .int n := by
  rw [scalar_eq, truthOf?_ofInt, toInt?_ofInt, if_pos h]

/-! ### Lists -/

section Lists

variable {separator : CodePoint}

lemma splitOn_of_not_mem {piece : Text} (h : separator ∉ piece) :
    splitOn separator piece = [piece] := by
  induction piece with
  | nil => rfl
  | cons c rest ih =>
    obtain ⟨hc, hrest⟩ := List.ne_and_not_mem_of_not_mem_cons h
    rw [splitOn, ih hrest]
    simp [hc.symm]

lemma exists_splitOn_eq_cons (separator : CodePoint) (t : Text) :
    ∃ piece pieces, splitOn separator t = piece :: pieces := by
  cases t with
  | nil => exact ⟨_, _, rfl⟩
  | cons c rest =>
    unfold splitOn
    split
    · exact ⟨_, _, rfl⟩
    · split <;> exact ⟨_, _, rfl⟩

lemma splitOn_append_cons {piece : Text} (h : separator ∉ piece) (rest : Text) :
    splitOn separator (piece ++ separator :: rest) = piece :: splitOn separator rest := by
  induction piece with
  | nil =>
    obtain ⟨first, others, hrest⟩ := exists_splitOn_eq_cons separator rest
    rw [List.nil_append, splitOn, hrest]
    simp
  | cons c piece ih =>
    obtain ⟨hc, hpiece⟩ := List.ne_and_not_mem_of_not_mem_cons h
    rw [List.cons_append, splitOn, ih hpiece]
    simp [hc.symm]

lemma splitOn_join {pieces : List Text} (hne : pieces ≠ [])
    (h : ∀ piece ∈ pieces, separator ∉ piece) :
    splitOn separator (join [separator] pieces) = pieces := by
  induction pieces with
  | nil => exact absurd rfl hne
  | cons piece rest ih =>
    have hpiece := h piece (List.mem_cons_self ..)
    cases rest with
    | nil => exact splitOn_of_not_mem hpiece
    | cons next rest =>
      have hrest := ih (List.cons_ne_nil _ _) fun p hp => h p (List.mem_cons_of_mem _ hp)
      have hjoin : join [separator] (piece :: next :: rest) =
          piece ++ separator :: join [separator] (next :: rest) := by
        simp [join]
      rw [hjoin, splitOn_append_cons hpiece, hrest]

end Lists

lemma items_join {pieces : List Text} (h : ∀ piece ∈ pieces, ofChar ',' ∉ piece) :
    items (join "," pieces) = (pieces.map strip).filter fun item => !item.isEmpty := by
  have hcomma : Text.ofString "," = [ofChar ','] := rfl
  cases pieces with
  | nil => rfl
  | cons piece rest => rw [items, hcomma, splitOn_join (List.cons_ne_nil _ _) h]

end NameKeys.Proofs
