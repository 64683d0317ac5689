import NameKeys.Proofs.DatedInstants
import NameKeys.Proofs.JsonRoundTrip
import NameKeys.Value.Datum

/-!
# Literals on one line

The literal of a value holds no line feed, whatever texts and bytes are in the value and however
deep they lie: quoted texts escape it, and nothing else is written around them that has one.
-/

namespace NameKeys.Proofs
open CodePoint
open Text (join)

def lineEnd : CodePoint := ofChar '\n'

def IsOneLine (t : Text) : Prop := lineEnd ∉ t

instance decidableIsOneLine (t : Text) : Decidable (IsOneLine t) :=
  inferInstanceAs (Decidable (lineEnd ∉ t))

variable {s t : Text} {pieces : List Text} {quote c : CodePoint}

lemma IsOneLine.append (hs : IsOneLine s) (ht : IsOneLine t) : IsOneLine (s ++ t) :=
  List.not_mem_append hs ht

lemma isOneLine_join (hs : IsOneLine s) (h : ∀ piece ∈ pieces, IsOneLine piece) :
    IsOneLine (join s pieces) := by
  intro hmem
  exact forall_mem_join (P := (· ≠ lineEnd)) (fun c hc heq => hs (heq ▸ hc))
    (fun piece hpiece c hc heq => h piece hpiece (heq ▸ hc)) lineEnd hmem rfl

lemma IsPlainLine.isOneLine (h : IsPlainLine t) : IsOneLine t := by
  intro hmem
  have hlow := (h lineEnd hmem).1
  exact absurd hlow (by decide)

/-! ### Quoted texts -/

lemma isPlainLine_numericEscape (c : CodePoint) : IsPlainLine c.numericEscape := by
  have hbyte : IsPlainLine "\\x" := by decide
  have hshort : IsPlainLine "\\u" := by decide
  have hlong : IsPlainLine "\\U" := by decide
  unfold numericEscape
  split
  · exact hbyte.append (isPlainLine_hex 2 _)
  · split
    · exact hshort.append (isPlainLine_hex 4 _)
    · exact hlong.append (isPlainLine_hex 8 _)

lemma isOneLine_singleton (h : ¬ c.val < 0x20) : IsOneLine [c] := by
  intro hmem
  obtain rfl := List.mem_singleton.mp hmem
  exact h (by decide)

lemma isOneLine_quotedWithin (hquote : quote ≠ lineEnd) : IsOneLine (quotedWithin quote c) := by
  unfold quotedWithin
  split
  · next h =>
    intro hmem
    rcases List.mem_pair.mp hmem with hslash | hc
    · exact absurd hslash (by decide)
    · rcases h with heq | heq
      · exact hquote (heq ▸ hc.symm)
      · exact absurd (hc.trans heq) (by decide)
  split
  · decide
  split
  · decide
  split
  · decide
  split
  · exact (isPlainLine_numericEscape c).isOneLine
  · next hhigh =>
    split
    · exact isOneLine_singleton hhigh
    split
    · exact isOneLine_singleton hhigh
    · exact (isPlainLine_numericEscape c).isOneLine

lemma quoteFor_ne_lineEnd (holds : Char → Bool) : quoteFor holds ≠ lineEnd := by
  unfold quoteFor
  split <;> decide

lemma isOneLine_quote (hquote : quote ≠ lineEnd) : IsOneLine [quote] :=
  fun hmem => hquote (List.mem_singleton.mp hmem).symm

lemma isOneLine_flatMap {α : Type} {items : List α} {written : α → Text}
    (h : ∀ a, IsOneLine (written a)) : IsOneLine (items.flatMap written) := by
  intro hmem
  obtain ⟨a, -, ha⟩ := List.mem_flatMap.mp hmem
  exact h a ha

lemma isOneLine_quoted (t : Text) : IsOneLine (Text.quoted t) := by
  have hquote := quoteFor_ne_lineEnd fun c => t.contains (ofChar c)
  have hwithin : IsOneLine (t.flatMap (quotedWithin _)) :=
    isOneLine_flatMap fun _ => isOneLine_quotedWithin hquote
  exact ((isOneLine_quote hquote).append hwithin).append (isOneLine_quote hquote)

lemma isOneLine_byteWithin (hquote : quote ≠ lineEnd) (b : UInt8) :
    IsOneLine (byteWithin quote b) := by
  unfold byteWithin
  dsimp only
  split
  · exact isOneLine_quotedWithin hquote
  · exact (isPlainLine_numericEscape _).isOneLine

lemma isOneLine_quotedBytes (bytes : List UInt8) : IsOneLine (quotedBytes bytes) := by
  have hmark : IsOneLine "b" := by decide
  have hquote := quoteFor_ne_lineEnd fun c => bytes.any fun b => b.toNat = c.toNat
  have hwithin : IsOneLine (bytes.flatMap (byteWithin _)) :=
    isOneLine_flatMap (isOneLine_byteWithin hquote)
  exact ((hmark.append (isOneLine_quote hquote)).append hwithin).append (isOneLine_quote hquote)

/-! ### Numbers -/

lemma IsPlainLine.of_subset (h : IsPlainLine t) (hsubset : s ⊆ t) : IsPlainLine s :=
  fun c hc => h c (hsubset hc)

lemma isPlainLine_layOut (digits : Nat) (exponent : Int) :
    IsPlainLine (Binary64.layOut digits exponent) := by
  have hpoint : IsPlainLine "." := by decide
  have hzero : IsPlainLine "0" := by decide
  have hzeros : ∀ n, IsPlainLine (List.replicate n (ofChar '0')) := fun n =>
    hzero.of_subset (List.replicate_subset_singleton n _)
  have hsignificant : IsPlainLine
      ((Text.ofNat digits).reverse.dropWhile fun c => c = ofChar '0').reverse := by
    refine (isPlainLine_ofInt digits).of_subset fun c hc => ?_
    exact List.mem_reverse.mp ((List.dropWhile_sublist _).subset (List.mem_reverse.mp hc))
  have htake : ∀ n, IsPlainLine (List.take n _) := fun n =>
    hsignificant.of_subset (List.take_subset n _)
  have hdrop : ∀ n, IsPlainLine (List.drop n _) := fun n =>
    hsignificant.of_subset (List.drop_subset n _)
  unfold Binary64.layOut
  dsimp only
  split
  · split
    · exact (hzero.append hpoint).append ((hzeros _).append hsignificant)
    split
    · exact ((hsignificant.append (hzeros _)).append hpoint).append hzero
    · exact ((htake _).append hpoint).append (hdrop _)
  · rw [List.splitAt_eq]
    refine IsPlainLine.append (IsPlainLine.append ?_ ?_) (isPlainLine_padded _ _)
    · dsimp only
      split
      · exact htake 1
      · exact ((htake 1).append hpoint).append (hdrop 1)
    · split <;> decide

lemma isPlainLine_toText (x : Binary64) : IsPlainLine x.toText := by
  cases x with
  | nan => decide
  | infinity negative => cases negative <;> decide
  | finite negative mantissa exponent =>
    have hsize : IsPlainLine (Binary64.toText (.finite false mantissa exponent)) := by
      have hlayout := isPlainLine_layOut (Binary64.shortestDecimal mantissa exponent).1
        (Binary64.shortestDecimal mantissa exponent).2
      simp only [Binary64.toText, Bool.false_eq_true, if_false]
      by_cases hzero : mantissa = 0
      · rw [if_pos hzero]
        decide
      · rw [if_neg hzero]
        exact hlayout
    have hminus : IsPlainLine "-" := by decide
    cases negative with
    | false => exact hsize
    | true => exact hminus.append hsize

/-! ### Values -/

lemma isOneLine_optionLiteral {kind symbol label : Text} (hkind : IsOneLine kind)
    (hsymbol : IsOneLine symbol) : IsOneLine (Value.optionLiteral kind symbol label) := by
  have hopen : IsOneLine "<" := by decide
  have hpoint : IsOneLine "." := by decide
  have hcolon : IsOneLine ": " := by decide
  have hclose : IsOneLine ">" := by decide
  exact ((((((hopen.append hkind).append hpoint).append hsymbol).append hcolon).append
    (isOneLine_quoted label)).append hclose)

lemma isOneLine_brackets {opening closing : Text} (hopening : IsOneLine opening)
    (hclosing : IsOneLine closing) (h : ∀ piece ∈ pieces, IsOneLine piece) :
    IsOneLine (opening ++ join ", " pieces ++ closing) := by
  have hcomma : IsOneLine ", " := by decide
  exact (hopening.append (isOneLine_join hcomma h)).append hclosing

mutual

/-- The literal of a value is on one line. -/
lemma isOneLine_literal (v : Value) : IsOneLine v.literal := by
  cases v with
  | null => decide
  | bool b => cases b <;> decide
  | int n => exact (isPlainLine_ofInt n).isOneLine
  | float x => exact (isPlainLine_toText x).isOneLine
  | text t => exact isOneLine_quoted t
  | bytes bs => exact isOneLine_quotedBytes bs
  | list items => exact isOneLine_brackets (by decide) (by decide) (isOneLine_literals items)
  | tuple items =>
    have hitems := isOneLine_literals items
    match items, hitems with
    | [], _ => decide
    | [item], hitems =>
      have hopen : IsOneLine "(" := by decide
      have hclose : IsOneLine ",)" := by decide
      exact (hopen.append (hitems _ (List.mem_singleton_self _))).append hclose
    | item :: next :: rest, hitems => exact isOneLine_brackets (by decide) (by decide) hitems
  | set items =>
    have hitems := isOneLine_literals items
    match items, hitems with
    | [], _ => decide
    | item :: rest, hitems => exact isOneLine_brackets (by decide) (by decide) hitems
  | generator items => exact (by decide : IsOneLine "<generator object>")
  | table entries =>
    exact isOneLine_brackets (by decide) (by decide) (isOneLine_entryLiterals entries)
  | option o => exact isOneLine_optionLiteral (by decide) (by cases o <;> decide)
  | form f => exact isOneLine_optionLiteral (by decide) (by cases f <;> decide)
  | fold f => exact isOneLine_optionLiteral (by decide) (by cases f <;> decide)
  | moment m => cases m <;> decide
termination_by structural v

lemma isOneLine_literals (items : List Value) :
    ∀ piece ∈ Value.literals items, IsOneLine piece := by
  cases items with
  | nil => exact List.forall_mem_nil _
  | cons v rest =>
    exact List.forall_mem_cons.mpr ⟨isOneLine_literal v, isOneLine_literals rest⟩
termination_by structural items

lemma isOneLine_entryLiterals (entries : List (Text × Value)) :
    ∀ piece ∈ Value.entryLiterals entries, IsOneLine piece := by
  cases entries with
  | nil => exact List.forall_mem_nil _
  | cons entry rest =>
    obtain ⟨key, v⟩ := entry
    have hcolon : IsOneLine ": " := by decide
    have hentry := ((isOneLine_quoted key).append hcolon).append (isOneLine_literal v)
    exact List.forall_mem_cons.mpr ⟨hentry, isOneLine_entryLiterals rest⟩
termination_by structural entries

end

/-! ### Data -/

mutual

lemma isOneLine_datumLiteral (d : Datum) : IsOneLine d.literal := by
  cases d with
  | value v => exact isOneLine_literal v
  | member kind name v isValue =>
    have hopen : IsOneLine "<" := by decide
    have hpoint : IsOneLine "." := by decide
    have hcolon : IsOneLine ": " := by decide
    have hclose : IsOneLine ">" := by decide
    exact ((((((hopen.append kind.isOneLine).append hpoint).append name.isOneLine).append
      hcolon).append (isOneLine_datumLiteral v)).append hclose)
  | list items => exact isOneLine_brackets (by decide) (by decide) (isOneLine_datumLiterals items)
  | tuple items =>
    have hitems := isOneLine_datumLiterals items
    match items, hitems with
    | [], _ => decide
    | [item], hitems =>
      have hopen : IsOneLine "(" := by decide
      have hclose : IsOneLine ",)" := by decide
      exact (hopen.append (hitems _ (List.mem_singleton_self _))).append hclose
    | item :: next :: rest, hitems => exact isOneLine_brackets (by decide) (by decide) hitems
  | dict entries =>
    exact isOneLine_brackets (by decide) (by decide) (isOneLine_datumEntryLiterals entries)
termination_by structural d

lemma isOneLine_datumLiterals (items : List Datum) :
    ∀ piece ∈ Datum.literals items, IsOneLine piece := by
  cases items with
  | nil => exact List.forall_mem_nil _
  | cons d rest =>
    exact List.forall_mem_cons.mpr ⟨isOneLine_datumLiteral d, isOneLine_datumLiterals rest⟩
termination_by structural items

lemma isOneLine_datumEntryLiterals (entries : List (Datum × Datum)) :
    ∀ piece ∈ Datum.entryLiterals entries, IsOneLine piece := by
  cases entries with
  | nil => exact List.forall_mem_nil _
  | cons entry rest =>
    obtain ⟨key, d⟩ := entry
    have hcolon : IsOneLine ": " := by decide
    have hentry := ((isOneLine_datumLiteral key).append hcolon).append (isOneLine_datumLiteral d)
    exact List.forall_mem_cons.mpr ⟨hentry, isOneLine_datumEntryLiterals rest⟩
termination_by structural entries

end

end NameKeys.Proofs
