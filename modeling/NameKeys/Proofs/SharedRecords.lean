import Mathlib.Tactic.Basic
import NameKeys.Log.Layout

/-!
# Layouts of a shared record

A record that goes from layout to layout is laid out by each of them as a fresh one would be, and
has its level written as before after each: what a layout leaves on the record is never read by
another one, or is what that one would make itself.
-/

namespace NameKeys.Proofs

/-! ### Working space -/

/-- Whether a record is another one with its working space used: another message and another time may
be written there, and the report may have been made, but it is the report that the other record would
be given. -/
structure IsUsed (r used : LogRecord) : Prop where
  report : used.madeReport? = r.madeReport?
  rest : ∃ message time report?, used = { r with message, time, report? }

section Records

variable {r used : LogRecord} {locale : LogLocale}

lemma IsUsed.refl (r : LogRecord) : IsUsed r r := ⟨rfl, r.message, r.time, r.report?, rfl⟩

lemma IsUsed.filled (h : IsUsed r used) : used.filled = r.filled := by
  obtain ⟨-, -, -, -, rfl⟩ := h
  rfl

lemma IsUsed.stack (h : IsUsed r used) : used.stack? = r.stack? := by
  obtain ⟨-, -, -, -, rfl⟩ := h
  rfl

lemma IsUsed.levelName (h : IsUsed r used) : used.levelName = r.levelName := by
  obtain ⟨-, -, -, -, rfl⟩ := h
  rfl

lemma IsUsed.setMessage (h : IsUsed r used) (message : Text) :
    IsUsed r (used.setMessage message) := by
  obtain ⟨hreport, _, time, report?, rfl⟩ := h
  exact ⟨hreport, message, time, report?, rfl⟩

lemma IsUsed.setTime (h : IsUsed r used) (time? : Option Text) : IsUsed r (used.setTime time?) := by
  obtain ⟨hreport, message, time, report?, rfl⟩ := h
  exact ⟨hreport, message, _, report?, rfl⟩

lemma IsUsed.setLevelName (h : IsUsed r used) (levelName : Text) :
    IsUsed (r.setLevelName levelName) (used.setLevelName levelName) := by
  obtain ⟨hreport, message, time, report?, rfl⟩ := h
  exact ⟨hreport, message, time, report?, rfl⟩

lemma madeReport?_setReport {report? : Option Text} (h : r.madeReport? = .ok report?) :
    (r.setReport report?).madeReport? = .ok report? := by
  unfold LogRecord.madeReport? at h ⊢
  unfold LogRecord.setReport
  cases herror : r.error? with
  | none => rfl
  | some error =>
    simp only [herror] at h ⊢
    by_cases hempty : (r.report?.getD []).isEmpty = true
    · rw [if_pos hempty] at h
      rw [h, ite_self]
    · rw [if_neg hempty] at h
      obtain rfl := Except.ok.inj h
      rw [if_neg hempty]

lemma IsUsed.setReport (h : IsUsed r used) {report? : Option Text}
    (hmade : r.madeReport? = .ok report?) : IsUsed r (used.setReport report?) := by
  have hreport := madeReport?_setReport (h.report.trans hmade)
  obtain ⟨-, message, time, _, rfl⟩ := h
  exact ⟨hreport.trans hmade.symm, message, time, report?, rfl⟩

/-- A text layout that reads no working space but what it wrote itself writes the same on a used
record, and leaves it used. -/
lemma written_of_isUsed (h : IsUsed r used)
    {time? : LogRecord → Except LayoutFault (Option Text)}
    {line : LogRecord → Except LayoutFault Text}
    (htime : ∀ message, time? (used.setMessage message) = time? (r.setMessage message))
    (hline : ∀ message made?, time? (r.setMessage message) = .ok made? →
      line ((used.setMessage message).setTime made?) =
        line ((r.setMessage message).setTime made?)) :
    (used.written time? line).1 = (r.written time? line).1 ∧
      IsUsed r (used.written time? line).2 := by
  rw [LogRecord.written, LogRecord.written, h.filled]
  cases r.filled with
  | error reason => exact ⟨rfl, h⟩
  | ok message =>
    have hmessage := h.setMessage message
    simp only [htime]
    cases hmade : time? (r.setMessage message) with
    | error fault => exact ⟨rfl, hmessage⟩
    | ok made? =>
      have htimed := hmessage.setTime made?
      have hfresh := ((IsUsed.refl r).setMessage message).setTime made?
      simp only [hline message made? hmade]
      cases line ((r.setMessage message).setTime made?) with
      | error fault => exact ⟨rfl, htimed⟩
      | ok t =>
        simp only [htimed.report, hfresh.report, htimed.stack, hfresh.stack]
        cases hreport : r.madeReport? with
        | error reason => exact ⟨rfl, htimed⟩
        | ok report? => exact ⟨rfl, htimed.setReport hreport⟩

lemma simpleText_of_isUsed (h : IsUsed r used) :
    used.simpleText.1 = r.simpleText.1 ∧ IsUsed r used.simpleText.2 := by
  refine written_of_isUsed h (fun message => rfl) fun message made? hmade => ?_
  obtain ⟨-, _, _, _, rfl⟩ := h
  rfl

lemma detailedText_of_isUsed (h : IsUsed r used) (zone : Int → Int) :
    (used.detailedText zone).1 = (r.detailedText zone).1 ∧
      IsUsed r (used.detailedText zone).2 := by
  refine written_of_isUsed h (fun message => ?_) fun message made? hmade => ?_
  · obtain ⟨-, _, _, _, rfl⟩ := h
    rfl
  · cases htime : (r.setMessage message).localTime zone with
    | error fault =>
      rw [htime] at hmade
      cases hmade
    | ok time =>
      rw [htime] at hmade
      obtain rfl := Except.ok.inj hmade
      obtain ⟨-, _, _, _, rfl⟩ := h
      rfl

lemma applyWith_of_isUsed (hname : r.levelName = locale.levelName r.level) (h : IsUsed r used)
    (layout : LogLayout) :
    (layout.applyWith locale used).1 = (layout.applyWith locale r).1 ∧
      IsUsed r (layout.applyWith locale used).2 := by
  have hcontext : ∀ t, used.withContext t = r.withContext t := by
    obtain ⟨-, _, _, _, rfl⟩ := h
    exact fun t => rfl
  cases layout with
  | json =>
    have hused := h
    obtain ⟨-, message, time, report?, rfl⟩ := h
    exact ⟨rfl, hused⟩
  | detailed =>
    obtain ⟨hline, hused⟩ := detailedText_of_isUsed h locale.zone
    refine ⟨?_, hused⟩
    simp only [LogLayout.applyWith, hcontext, hline]
  | simple =>
    obtain ⟨hline, hused⟩ := simpleText_of_isUsed (h.setLevelName (Text.lower r.levelName))
    have hlevel : used.level = r.level := by
      obtain ⟨-, _, _, _, rfl⟩ := h
      rfl
    simp only [LogLayout.applyWith, hcontext, h.levelName, hline, hlevel, ← hname]
    exact ⟨trivial, hused.setLevelName r.levelName⟩

/-! ### Sequences of layouts -/

lemma applyAll_cons (locale : LogLocale) (layout : LogLayout) (rest : List LogLayout)
    (r : LogRecord) : LogLayout.applyAll locale (layout :: rest) r =
      ((layout.applyWith locale r).1, (layout.applyWith locale r).2.levelName) ::
        LogLayout.applyAll locale rest (layout.applyWith locale r).2 := rfl

lemma applyAll_of_isUsed (hname : r.levelName = locale.levelName r.level) (h : IsUsed r used)
    (layouts : List LogLayout) : LogLayout.applyAll locale layouts used =
      layouts.map fun layout => ((layout.applyWith locale r).1, r.levelName) := by
  induction layouts generalizing used with
  | nil => rfl
  | cons layout rest ih =>
    obtain ⟨hline, hused⟩ := applyWith_of_isUsed hname h layout
    rw [applyAll_cons, hline, hused.levelName, ih hused, List.map_cons]

/-- However many layouts have seen a record before, each of them gives the line that it gives on a
fresh copy of it, or fails as it does there, and leaves the level written as it was. -/
theorem layouts_of_shared_record (hname : r.levelName = locale.levelName r.level)
    (layouts : List LogLayout) : LogLayout.applyAll locale layouts r =
      layouts.map fun layout => ((layout.applyWith locale r).1, r.levelName) :=
  applyAll_of_isUsed hname (IsUsed.refl r) layouts

end Records

/-- The usual names of levels, and one more for a level between two of them, an hour ahead. -/
def noticeLocale : LogLocale where
  levelName level := if level = 25 then "Notice" else LogLevel.name level
  zone _ := 3600

/-- A record of the level between, about an error that other errors led to, with another message and
another time left on it. -/
def noticeRecord (filled : Except Text Text) (error? : Option ErrorInfo) : LogRecord where
  level := 25
  filled
  logger := "x"
  moduleName := "mod"
  function? := none
  line := 7
  created := .finite false 0x10000000000000 (-52)
  error?
  context := .value (.table [("kept", .int 2)])
  levelName := "Notice"
  message := "renamed %d names"
  time := "1970-01-01T00:00:01"

/-- The record about an error that another one led to, with an argument that fits its message. -/
def chainedNotice : LogRecord :=
  noticeRecord (.ok "renamed 3 names") (some {
    kind := .ok "ValueError"
    text := .ok "gone"
    report := .ok "OSError\n\nDuring handling:\n\nValueError: gone" })

def emptyNotice : LogRecord := noticeRecord (.ok "renamed 3 names") (some .empty)

def unfittingNotice : LogRecord := noticeRecord (.error "%d format: a real number is required") none

/-- Layouts that see the record, one of them twice. -/
def noticeLayouts : List LogLayout := [.simple, .detailed, .json, .simple]

theorem layouts_of_shared_notice :
    chainedNotice.levelName = noticeLocale.levelName chainedNotice.level ∧
    LogLayout.applyAll noticeLocale noticeLayouts chainedNotice =
      noticeLayouts.map (fun layout =>
        ((layout.applyWith noticeLocale chainedNotice).1, chainedNotice.levelName)) ∧
    LogLayout.applyAll noticeLocale noticeLayouts emptyNotice =
      noticeLayouts.map (fun layout =>
        ((layout.applyWith noticeLocale emptyNotice).1, emptyNotice.levelName)) ∧
    LogLayout.applyAll noticeLocale noticeLayouts unfittingNotice =
      noticeLayouts.map (fun layout =>
        ((layout.applyWith noticeLocale unfittingNotice).1, unfittingNotice.levelName)) ∧
    (LogLayout.simple.applyWith noticeLocale chainedNotice).1.toOption =
      some (Text.ofString ("memfs-pathnorm: notice: renamed 3 names (kept=2)\n" ++
        "OSError\n\nDuring handling:\n\nValueError: gone")) ∧
    (LogLayout.detailed.applyWith noticeLocale emptyNotice).1.toOption =
      some (Text.ofString ("1970-01-01T01:00:01 Notice [x:None:7] renamed 3 names (kept=2)\n" ++
        "NoneType: None")) ∧
    (LogLayout.json.applyWith noticeLocale emptyNotice).1.toOption = none ∧
    (LogLayout.simple.applyWith noticeLocale unfittingNotice).1.toOption = none := by
  have hname : chainedNotice.levelName = noticeLocale.levelName chainedNotice.level := rfl
  refine ⟨hname, layouts_of_shared_record hname _, layouts_of_shared_record (r := emptyNotice) hname _,
    layouts_of_shared_record (r := unfittingNotice) hname _, ?_, ?_, ?_, rfl⟩ <;> decide +kernel

end NameKeys.Proofs
