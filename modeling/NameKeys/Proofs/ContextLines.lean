import Mathlib.Data.List.Perm.Basic
import Mathlib.Data.List.TakeWhile
import NameKeys.Log.Layout
import NameKeys.Proofs.LiteralLines
import NameKeys.Proofs.Results
import NameKeys.Proofs.VariableNames
import NameKeys.Proofs.VariableTexts

/-!
# Contexts in text layouts

The text layouts write the line that they write without context, with the context in brackets at the
end of its first line. The entries stand in order of their keys, in whatever order they were put
into the context, and the brackets hold no line feed however deep texts with line feeds lie in the
values.
-/

namespace NameKeys.Proofs
open LogRecord (contextText insertContext)
open Text (splitOn)

/-! ### Order of the keys -/

/-- Whether a text comes before another one: at the first place where they differ it ends or has the
smaller code point. -/
def Precedes (s t : Text) : Prop := List.Lex (fun a b => a.val < b.val) s t

/-- Whether some entries are other ones in order of their keys. -/
structure IsInOrder (entries sorted : Entries Datum) : Prop where
  perm : sorted.Perm entries
  increasing : sorted.Pairwise fun a b => Precedes a.1 b.1

/-- The entries of a context in the order in which a layout writes them. -/
def inKeyOrder (entries : Entries Datum) : Entries Datum :=
  entries.mergeSort fun a b => Text.le a.1 b.1

section Order

variable {s t u : Text} {entries filled sorted : Entries Datum}

lemma textLe_iff : Text.le s t = true ↔ s = t ∨ Precedes s t := by
  induction s generalizing t with
  | nil =>
    cases t with
    | nil => exact iff_of_true rfl (.inl rfl)
    | cons b bs => exact iff_of_true rfl (.inr .nil)
  | cons a as ih =>
    cases t with
    | nil => exact iff_of_false nofun nofun
    | cons b bs =>
      rw [Precedes, List.cons_lex_cons_iff, Text.le]
      by_cases hsame : a = b
      · subst hsame
        rw [if_pos rfl, ih]
        simp [Precedes]
      · rw [if_neg hsame]
        simp [hsame]

lemma precedes_irrefl (t : Text) : ¬ Precedes t t := by
  intro h
  induction t with
  | nil => nomatch h
  | cons c rest ih =>
    rcases List.cons_lex_cons_iff.mp h with hlt | ⟨-, hrest⟩
    · exact lt_irrefl _ hlt
    · exact ih hrest

lemma Precedes.trans (hst : Precedes s t) (htu : Precedes t u) : Precedes s u :=
  List.lex_trans (fun hab hbc => hab.trans hbc) hst htu

lemma textLe_trans (hst : Text.le s t = true) (htu : Text.le t u = true) : Text.le s u = true := by
  rw [textLe_iff] at *
  rcases hst with rfl | hst
  · exact htu
  · rcases htu with rfl | htu
    · exact .inr hst
    · exact .inr (hst.trans htu)

lemma textLe_total (s t : Text) : (Text.le s t || Text.le t s) = true := by
  induction s generalizing t with
  | nil => rfl
  | cons a as ih =>
    cases t with
    | nil => rfl
    | cons b bs =>
      by_cases hsame : a = b
      · subst hsame
        simp [Text.le, ih bs]
      · have hval : a.val ≠ b.val := fun h => hsame (Fin.ext h)
        rcases Nat.lt_or_gt_of_ne hval with hlt | hlt
        · simp [Text.le, hsame, hlt]
        · simp [Text.le, Ne.symm hsame, hlt]

lemma isInOrder_inKeyOrder (hnodup : entries.keys.Nodup) :
    IsInOrder entries (inKeyOrder entries) := by
  have hperm : (inKeyOrder entries).Perm entries := List.mergeSort_perm entries _
  have hsorted : (inKeyOrder entries).Pairwise fun a b => Text.le a.1 b.1 = true := by
    apply List.pairwise_mergeSort
    · exact fun a b c => textLe_trans
    · exact fun a b => textLe_total a.1 b.1
  have hkeys := List.pairwise_map.mp ((hperm.map Prod.fst).nodup_iff.mpr hnodup)
  refine ⟨hperm, (hsorted.and hkeys).imp fun {a b} h => ?_⟩
  exact (textLe_iff.mp h.1).resolve_left h.2

lemma IsInOrder.unique {other : Entries Datum} (h : IsInOrder entries sorted)
    (hother : IsInOrder filled other) (hperm : filled.Perm entries) : other = sorted := by
  refine List.Perm.eq_of_pairwise (fun a b _ _ hab hba => ?_) hother.increasing h.increasing
    ((hother.perm.trans hperm).trans h.perm.symm)
  exact absurd (hab.trans hba) (precedes_irrefl _)

end Order

/-! ### Brackets in a line -/

/-- Entries in brackets, with equality signs between keys and literals and commas between the
entries. -/
def bracketed (entries : Entries Datum) : Text :=
  " (" ++ Text.join ", " (entries.map fun entry => entry.1 ++ "=" ++ entry.2.literal) ++ ")"

/-- A text with another one at the end of its first line. -/
def withFirstLineExtended (inserted t : Text) : Text :=
  t.takeWhile (· ≠ lineEnd) ++ inserted ++ t.dropWhile (· ≠ lineEnd)

def lineCount (t : Text) : Nat := (splitOn lineEnd t).length

section Brackets

variable {entries sorted : Entries Datum} {inserted t : Text}

lemma isOneLine_bracketed (h : ∀ key ∈ entries.keys, IsOneLine key) :
    IsOneLine (bracketed entries) := by
  have hequals : IsOneLine "=" := by decide
  refine isOneLine_brackets (by decide) (by decide) fun piece hpiece => ?_
  obtain ⟨entry, hentry, rfl⟩ := List.mem_map.mp hpiece
  have hkey := h entry.1 (List.mem_map_of_mem hentry)
  exact (hkey.append hequals).append (isOneLine_datumLiteral entry.2)

lemma exists_first_line (t : Text) : IsOneLine t ∨
    ∃ first rest, t = first ++ lineEnd :: rest ∧ IsOneLine first := by
  by_cases hmem : lineEnd ∈ t
  · obtain ⟨first, rest, heq, hfirst⟩ := List.eq_append_cons_of_mem hmem
    exact .inr ⟨first, rest, heq, hfirst⟩
  · exact .inl hmem

lemma IsOneLine.forall_ne (h : IsOneLine t) : ∀ c ∈ t, decide (c ≠ lineEnd) = true :=
  fun _ hc => decide_eq_true fun heq => h (heq ▸ hc)

lemma withFirstLineExtended_of_isOneLine (h : IsOneLine t) :
    withFirstLineExtended inserted t = t ++ inserted := by
  rw [withFirstLineExtended, List.takeWhile_eq_self_iff.mpr h.forall_ne,
    List.dropWhile_eq_nil_iff.mpr h.forall_ne, List.append_nil]

lemma withFirstLineExtended_append_cons (h : IsOneLine t) (rest : Text) :
    withFirstLineExtended inserted (t ++ lineEnd :: rest) = t ++ inserted ++ lineEnd :: rest := by
  rw [withFirstLineExtended, List.takeWhile_append_of_pos h.forall_ne,
    List.dropWhile_append_of_pos h.forall_ne, List.takeWhile_cons_of_neg (by decide),
    List.dropWhile_cons_of_neg (by decide), List.append_nil]

lemma lineCount_withFirstLineExtended (h : IsOneLine inserted) :
    lineCount (withFirstLineExtended inserted t) = lineCount t := by
  rcases exists_first_line t with hone | ⟨first, rest, rfl, hone⟩
  · rw [withFirstLineExtended_of_isOneLine hone, lineCount, lineCount,
      splitOn_of_not_mem (hone.append h), splitOn_of_not_mem hone]
    rfl
  · rw [withFirstLineExtended_append_cons hone, lineCount, lineCount,
      splitOn_append_cons (hone.append h), splitOn_append_cons hone]
    rfl

lemma insertContext_eq (hne : entries ≠ [])
    (hliterals : ∀ entry ∈ entries, entry.2.hasLiteral = true) (t : Text) :
    insertContext entries t =
      .ok (withFirstLineExtended (bracketed (inKeyOrder entries)) t) := by
  have hfull : ¬ entries.isEmpty = true := fun h => hne (List.isEmpty_iff.mp h)
  rw [insertContext, if_neg hfull, if_pos (List.all_eq_true.mpr hliterals)]
  rcases exists_first_line t with hone | ⟨first, rest, rfl, hone⟩
  · have hcut : Text.cutAt '\n' t = (t, none) := by
      have hdrop : t.dropWhile (· ≠ CodePoint.ofChar '\n') = [] :=
        List.dropWhile_eq_nil_iff.mpr hone.forall_ne
      rw [Text.cutAt, hdrop]
    rw [withFirstLineExtended_of_isOneLine hone]
    simp only [hcut]
    rfl
  · have hcut : Text.cutAt '\n' (first ++ lineEnd :: rest) = (first, some rest) :=
      cutAt_eq_some_iff.mpr ⟨rfl, hone⟩
    rw [withFirstLineExtended_append_cons hone]
    have hbracket : (" (" : Text) ++ contextText entries ++ ")" = bracketed (inKeyOrder entries) :=
      rfl
    simp only [hcut]
    rw [hbracket, List.append_assoc _ (Text.ofString "\n")]
    rfl

end Brackets

/-! ### Lines without context -/

/-- Whether a text is the local date and time of a number of seconds, to the second. -/
def IsLocalTime (zone : Int → Int) (created : Binary64) (time : Text) : Prop :=
  ∃ instant, Instant.ofNumber created = .ok instant ∧
    let c := CalendarTime.ofSeconds (instant.seconds + zone instant.seconds)
    Instant.yearLimit - 2 * Instant.signedLimit ≤ c.year ∧ c.year < Instant.signedLimit ∧
      time = Text.ofInt c.year ++ c.afterYear

/-- Whether a text is what a text layout writes of a record before it tells its error. -/
inductive IsHead (locale : LogLocale) (r : LogRecord) : LogLayout → Text → Prop
  | simple {message : Text} (filled : r.filled = .ok message) :
    IsHead locale r .simple ("memfs-pathnorm: " ++ Text.lower r.levelName ++ ": " ++ message)
  | detailed {message time : Text} (filled : r.filled = .ok message)
    (dated : IsLocalTime locale.zone r.created time) (line : hasDecimalText r.line = true) :
    IsHead locale r .detailed (time ++ " " ++ r.levelName ++ " [" ++ r.logger ++ ":" ++
      r.function?.getD "None" ++ ":" ++ Text.ofInt r.line ++ "] " ++ message)

/-- Whether a text is what a text layout writes of a record without its context: the head, the report
of the error and the calls that led to the message. -/
def IsLine (locale : LogLocale) (layout : LogLayout) (r : LogRecord) (line : Text) : Prop :=
  ∃ head report?, IsHead locale r layout head ∧ r.madeReport? = .ok report? ∧
    line = LogRecord.continued (LogRecord.continued head report?) r.stack?

section Lines

variable {r : LogRecord} {locale : LogLocale} {layout : LogLayout} {entries : Entries Datum}
  {line : Text}

lemma calendarTime_eq_ok_iff {seconds : Int} {c : CalendarTime} :
    Instant.calendarTime seconds = .ok c ↔ c = CalendarTime.ofSeconds seconds ∧
      Instant.yearLimit - 2 * Instant.signedLimit ≤ c.year ∧ c.year < Instant.yearLimit := by
  dsimp only [Instant.calendarTime]
  split
  case isTrue h =>
    refine ⟨fun heq => ?_, fun ⟨heq, _⟩ => congrArg Except.ok heq.symm⟩
    obtain rfl := Except.ok.inj heq
    exact ⟨rfl, h⟩
  case isFalse h =>
    refine iff_of_false nofun ?_
    rintro ⟨rfl, hyear⟩
    exact h hyear

lemma toSecondText_eq_ok_iff {zone : Int → Int} {instant : Instant} {time : Text} :
    instant.toSecondText zone = .ok time ↔
      let c := CalendarTime.ofSeconds (instant.seconds + zone instant.seconds)
      Instant.yearLimit - 2 * Instant.signedLimit ≤ c.year ∧ c.year < Instant.signedLimit ∧
        time = Text.ofInt c.year ++ c.afterYear := by
  dsimp only
  rw [Instant.toSecondText, bind_eq_ok_iff]
  constructor
  · rintro ⟨c, hc, htext⟩
    obtain ⟨rfl, hlow, -⟩ := calendarTime_eq_ok_iff.mp hc
    split at htext
    case isTrue hhigh => exact ⟨hlow, hhigh, (Except.ok.inj htext).symm⟩
    case isFalse => contradiction
  · rintro ⟨hlow, hhigh, rfl⟩
    have hyear : (CalendarTime.ofSeconds (instant.seconds + zone instant.seconds)).year <
        Instant.yearLimit := hhigh.trans (by decide)
    exact ⟨_, calendarTime_eq_ok_iff.mpr ⟨rfl, hlow, hyear⟩, if_pos hhigh⟩

lemma localTime_eq_ok_iff {zone : Int → Int} {time : Text} :
    r.localTime zone = .ok time ↔ IsLocalTime zone r.created time := by
  rw [LogRecord.localTime, mapError_eq_ok_iff]
  exact bind_eq_ok_iff.trans
    (exists_congr fun instant => and_congr_right fun _ => toSecondText_eq_ok_iff)

/-- A text layout writes a line where it has all the parts of one. -/
lemma written_eq_ok_iff {time? : LogRecord → Except LayoutFault (Option Text)}
    {head : LogRecord → Except LayoutFault Text} :
    (r.written time? head).1 = .ok line ↔ ∃ message made? t report?, r.filled = .ok message ∧
      time? (r.setMessage message) = .ok made? ∧
      head ((r.setMessage message).setTime made?) = .ok t ∧ r.madeReport? = .ok report? ∧
      line = LogRecord.continued (LogRecord.continued t report?) r.stack? := by
  constructor
  · intro h
    unfold LogRecord.written at h
    split at h
    · contradiction
    next message hfilled =>
      dsimp only at h
      split at h
      · contradiction
      next made? hmade =>
        split at h
        · contradiction
        next t ht =>
          split at h
          · contradiction
          next report? hreport =>
            exact ⟨message, made?, t, report?, hfilled, hmade, ht, hreport, (Except.ok.inj h).symm⟩
  · rintro ⟨message, made?, t, report?, hfilled, hmade, ht, hreport, rfl⟩
    have hkept : ((r.setMessage message).setTime made?).madeReport? = .ok report? := hreport
    simp only [LogRecord.written, hfilled, hmade, ht, hkept]
    rfl

lemma simpleText_eq_ok_iff : (r.simpleText).1 = .ok line ↔ ∃ message report?,
    r.filled = .ok message ∧ r.madeReport? = .ok report? ∧
    line = LogRecord.continued (LogRecord.continued
      ("memfs-pathnorm: " ++ r.levelName ++ ": " ++ message) report?) r.stack? := by
  rw [LogRecord.simpleText, written_eq_ok_iff]
  constructor
  · rintro ⟨message, made?, t, report?, hfilled, -, ht, hreport, rfl⟩
    obtain rfl := Except.ok.inj ht
    exact ⟨message, report?, hfilled, hreport, rfl⟩
  · rintro ⟨message, report?, hfilled, hreport, rfl⟩
    exact ⟨message, none, _, report?, hfilled, rfl, rfl, hreport, rfl⟩

lemma detailedLine_eq_ok_iff : r.detailedLine = .ok line ↔ hasDecimalText r.line = true ∧
    line = r.time ++ " " ++ r.levelName ++ " [" ++ r.logger ++ ":" ++ r.function?.getD "None" ++ ":" ++
      Text.ofInt r.line ++ "] " ++ r.message := by
  rw [LogRecord.detailedLine]
  split
  case isTrue hshort => rw [Except.ok.injEq, eq_comm, and_iff_right hshort]
  case isFalse hlong => exact iff_of_false nofun fun h => hlong h.1

lemma detailedText_eq_ok_iff : (r.detailedText locale.zone).1 = .ok line ↔
    ∃ message time report?, r.filled = .ok message ∧ IsLocalTime locale.zone r.created time ∧
      hasDecimalText r.line = true ∧ r.madeReport? = .ok report? ∧
      line = LogRecord.continued (LogRecord.continued
        (time ++ " " ++ r.levelName ++ " [" ++ r.logger ++ ":" ++ r.function?.getD "None" ++ ":" ++
          Text.ofInt r.line ++ "] " ++ message) report?) r.stack? := by
  rw [LogRecord.detailedText, written_eq_ok_iff]
  constructor
  · rintro ⟨message, made?, t, report?, hfilled, hmade, ht, hreport, rfl⟩
    have hlocal : (r.localTime locale.zone).map some = .ok made? := hmade
    cases htime : r.localTime locale.zone with
    | error fault =>
      rw [htime] at hlocal
      nomatch hlocal
    | ok time =>
      rw [htime] at hlocal
      obtain rfl := Except.ok.inj hlocal
      obtain ⟨hshort, rfl⟩ := detailedLine_eq_ok_iff.mp ht
      exact ⟨message, time, report?, hfilled, localTime_eq_ok_iff.mp htime, hshort, hreport, rfl⟩
  · rintro ⟨message, time, report?, hfilled, htime, hshort, hreport, rfl⟩
    have hmade : (r.localTime locale.zone).map some = .ok (some time) :=
      congrArg (Except.map some) (localTime_eq_ok_iff.mpr htime)
    exact ⟨message, some time, _, report?, hfilled, hmade,
      detailedLine_eq_ok_iff.mpr ⟨hshort, rfl⟩, hreport, rfl⟩

lemma applyWith_eq_ok_iff (hlayout : layout ≠ .json) :
    (layout.applyWith locale (r.setContext (.value .null))).1 = .ok line ↔
      IsLine locale layout r line := by
  have hwritten : ∀ t, (r.setContext (.value .null)).withContext t = t := by
    rintro (fault | t) <;> rfl
  cases layout with
  | json => exact absurd rfl hlayout
  | simple =>
    have happly : (LogLayout.simple.applyWith locale (r.setContext (.value .null))).1 =
        ((r.setContext (.value .null)).setLevelName (Text.lower r.levelName)).simpleText.1 :=
      hwritten _
    rw [happly, simpleText_eq_ok_iff]
    constructor
    · rintro ⟨message, report?, hfilled, hreport, rfl⟩
      exact ⟨_, report?, .simple hfilled, hreport, rfl⟩
    · rintro ⟨_, report?, hhead, hreport, rfl⟩
      cases hhead with
      | simple hfilled => exact ⟨_, report?, hfilled, hreport, rfl⟩
  | detailed =>
    have happly : (LogLayout.detailed.applyWith locale (r.setContext (.value .null))).1 =
        ((r.setContext (.value .null)).detailedText locale.zone).1 := hwritten _
    rw [happly, detailedText_eq_ok_iff]
    constructor
    · rintro ⟨message, time, report?, hfilled, hdated, hshort, hreport, rfl⟩
      exact ⟨_, report?, .detailed hfilled hdated hshort, hreport, rfl⟩
    · rintro ⟨_, report?, hhead, hreport, rfl⟩
      cases hhead with
      | detailed hfilled hdated hshort =>
        exact ⟨_, _, report?, hfilled, hdated, hshort, hreport, rfl⟩

/-! ### Lines with context -/

lemma written_setContext (context : Context)
    {time? : LogRecord → Except LayoutFault (Option Text)}
    {head : LogRecord → Except LayoutFault Text}
    (htime : ∀ r : LogRecord, time? (r.setContext context) = time? r)
    (hhead : ∀ r : LogRecord, head (r.setContext context) = head r) :
    ((r.setContext context).written time? head).1 = (r.written time? head).1 := by
  have hmessage : ∀ message, (r.setContext context).setMessage message =
      (r.setMessage message).setContext context := fun _ => rfl
  have htimed : ∀ message made?, ((r.setMessage message).setContext context).setTime made? =
      ((r.setMessage message).setTime made?).setContext context := fun _ _ => rfl
  have hreport : ∀ r : LogRecord, (r.setContext context).madeReport? = r.madeReport? :=
    fun _ => rfl
  have hfilled : (r.setContext context).filled = r.filled := rfl
  rw [LogRecord.written, LogRecord.written, hfilled]
  cases r.filled with
  | error reason => rfl
  | ok message =>
    simp only [hmessage, htime]
    cases time? (r.setMessage message) with
    | error fault => rfl
    | ok made? =>
      simp only [htimed, hhead]
      cases head ((r.setMessage message).setTime made?) with
      | error fault => rfl
      | ok t =>
        simp only [hreport]
        cases ((r.setMessage message).setTime made?).madeReport? with
        | error reason => rfl
        | ok report? => rfl

lemma withContext_data (hne : entries ≠ [])
    (hliterals : ∀ entry ∈ entries, entry.2.hasLiteral = true) (t : Except LayoutFault Text) :
    (r.setContext (.data entries)).withContext t =
      ((r.setContext (.value .null)).withContext t).map
        (withFirstLineExtended (bracketed (inKeyOrder entries))) := by
  cases t with
  | error fault => rfl
  | ok t => exact insertContext_eq hne hliterals t

lemma applyWith_data (hne : entries ≠ [])
    (hliterals : ∀ entry ∈ entries, entry.2.hasLiteral = true) (hlayout : layout ≠ .json) :
    (layout.applyWith locale (r.setContext (.data entries))).1 =
      (layout.applyWith locale (r.setContext (.value .null))).1.map
        (withFirstLineExtended (bracketed (inKeyOrder entries))) := by
  cases layout with
  | json => exact absurd rfl hlayout
  | detailed =>
    have htext : ∀ context, ((r.setContext context).detailedText locale.zone).1 =
        (r.detailedText locale.zone).1 :=
      fun context => written_setContext context (fun _ => rfl) fun _ => rfl
    simp only [LogLayout.applyWith, htext]
    exact withContext_data hne hliterals _
  | simple =>
    have hname : ∀ context, (r.setContext context).setLevelName
        (Text.lower (r.setContext context).levelName) =
          (r.setLevelName (Text.lower r.levelName)).setContext context := fun _ => rfl
    have htext : ∀ context,
        ((r.setLevelName (Text.lower r.levelName)).setContext context).simpleText.1 =
          (r.setLevelName (Text.lower r.levelName)).simpleText.1 :=
      fun context => written_setContext context (fun _ => rfl) fun _ => rfl
    simp only [LogLayout.applyWith, hname, htext]
    exact withContext_data hne hliterals _

end Lines

def hourAhead : LogLocale where
  zone _ := 3600

/-- A record about a raised error, with a message that begins with a line feed. -/
def linedRecord : LogRecord :=
  LogRecord.make LogLevel.error "\nsecond" "x" "mod.py" none 7
    (.finite false 0x10000000000000 (-52)) (some {
      kind := .ok "ValueError"
      text := .ok "gone\nfor good"
      report := .ok "Traceback:\n  mod.py\nValueError: gone\nfor good" }) (.value .null)

def twoLineMember : Datum := .member ⟨"Colour", by decide⟩ ⟨"RED", by decide⟩
  (.value (.text "r\nd")) false

/-- A context with line feeds in bytes and in a member inside a tuple under a number, and in a text,
not in order of its keys. -/
def linedContext : Entries Datum :=
  [("path", .dict [(.value (.int 1), .tuple [.value (.bytes [10]), twoLineMember])]),
    ("form", .list [.value (.text "a\nb"), .value .null])]

lemma isInOrder_linedContext : IsInOrder linedContext linedContext.reverse :=
  ⟨linedContext.reverse_perm, List.pairwise_pair.mpr (.rel (by decide))⟩

end NameKeys.Proofs
