import NameKeys.Log.Logging
import NameKeys.Proofs.AcceptedSettings
import NameKeys.Proofs.LowerCase
import NameKeys.Proofs.UpperCase

/-!
# Levels and layouts by name

A text is accepted as a level or as a layout exactly if it is one of their names in whatever case of
ASCII letters, where a dotless letter may stand for an I in a level. Settings keep the name's usual
spelling, and logging that is set up from it finds the level and the layout under this name.
-/

namespace NameKeys.Proofs
open CodePoint
open Text (foldAsciiCase lower upper)

/-- Whether a text is the name of a layout in whatever case of ASCII letters. -/
def NamesLayout (t : Text) (layout : LogLayout) : Prop :=
  foldAsciiCase t = foldAsciiCase layout.name

def levelOf : LogThreshold → Int
  | .debug => LogLevel.debug
  | .info => LogLevel.info
  | .warning => LogLevel.warning
  | .error => LogLevel.error

/-! ### Choices -/

section Choices

variable {α : Type} {all : List α} {name : α → Text} {recase : Text → Text} {fault : Fault}
  {t : Text} {a : α}

lemma choice_text_eq_ok_iff (hnames : ∀ a b, name a = name b → a = b) (hall : ∀ a, a ∈ all)
    (hplain : recase t = name a → t.any isSurrogate = false) :
    Check.choice all name recase fault (.text t) = .ok a ↔ recase t = name a := by
  have hfind : ∀ b, (all.find? fun b => name b = recase t) = some b ↔ recase t = name b := by
    intro b
    constructor
    · intro h
      have hb := List.find?_some h
      exact (of_decide_eq_true hb).symm
    · intro h
      cases hfound : all.find? fun b => name b = recase t with
      | none =>
        have hnone := List.find?_eq_none.mp hfound b (hall b)
        simp [h] at hnone
      | some c =>
        have hc := List.find?_some hfound
        rw [hnames c b ((of_decide_eq_true hc).trans h)]
  simp only [Check.choice]
  cases hsurrogate : t.any isSurrogate with
  | true =>
    refine iff_of_false nofun fun h => ?_
    rw [hplain h] at hsurrogate
    contradiction
  | false =>
    rw [if_neg Bool.false_ne_true, ← hfind a]
    cases all.find? fun b => name b = recase t with
    | none => exact iff_of_false nofun nofun
    | some b =>
      constructor
      · intro h
        rw [Except.ok.inj h]
      · intro h
        rw [Option.some.inj h]

end Choices

section Names

variable {t : Text} {threshold : LogThreshold} {layout : LogLayout}

lemma any_isSurrogate_eq_false (h : ∀ c ∈ t, c.val ≤ 0x131) : t.any isSurrogate = false := by
  rw [List.any_eq_false]
  intro c hc
  have hval := h c hc
  simp only [isSurrogate, Bool.and_eq_true, decide_eq_true_eq]
  omega

lemma threshold_text_eq_ok_iff :
    Check.threshold (.text t) = .ok threshold ↔ NamesThreshold t threshold := by
  rw [← upper_eq_name_iff_names]
  refine choice_text_eq_ok_iff (fun a b h => ?_) mem_all_thresholds fun h => ?_
  · revert h
    cases a <;> cases b <;> decide
  · apply any_isSurrogate_eq_false
    intro c hc
    rw [upper_eq_name_iff] at h
    have hcapital : plainCapital c ∈ threshold.name := h ▸ List.mem_map_of_mem hc
    have hval := capital_of_mem_name hcapital
    by_cases hdotless : c = dotlessLetter
    · rw [hdotless]
      decide
    · cases hascii : c.isAscii with
      | true =>
        have hlt := isAscii_iff.mp hascii
        omega
      | false =>
        rw [plainCapital_of_not_isAscii hascii hdotless] at hval
        omega

lemma isPlainLower_of_mem_name {n : CodePoint} (h : n ∈ layout.name) : isPlainLower n = true := by
  have hall : (layout.name.all isPlainLower) = true := by cases layout <;> rfl
  exact List.all_eq_true.mp hall n h

lemma layout_text_eq_ok_iff : Check.layout (.text t) = .ok layout ↔ NamesLayout t layout := by
  have hlower := lower_eq_iff (fun n (hn : n ∈ layout.name) => isPlainLower_of_mem_name hn) t
  have hname : foldAsciiCase layout.name = layout.name := by cases layout <;> rfl
  rw [NamesLayout, hname, ← hlower]
  refine choice_text_eq_ok_iff (fun a b h => ?_) (fun a => ?_) fun h => ?_
  · revert h
    cases a <;> cases b <;> decide
  · cases a <;> decide
  · apply any_isSurrogate_eq_false
    intro c hc
    have hsmall : smallLetter c ∈ layout.name := by
      rw [← hlower.mp h, foldAsciiCase_eq_map]
      exact List.mem_map_of_mem hc
    have hplain := isPlainLower_of_mem_name hsmall
    simp only [isPlainLower, Bool.and_eq_true] at hplain
    have hascii := isAscii_iff.mp (isAscii_of_smallLetter hplain.1)
    omega

end Names

/-! ### Settings of one name -/

section Settings

variable {value : Value} {s : LoggingSettings}

lemma logging_level_eq_ok_iff :
    Check.logging [("level", value)] = .ok s ↔
      ∃ threshold, Check.threshold value = .ok threshold ∧ s = { threshold := threshold } := by
  rw [logging_eq_ok_iff]
  constructor
  · rintro ⟨-, hthreshold, hlayout, hfile, hsize, hbackups⟩
    obtain ⟨threshold, layout, file, maxMegabytes, backups⟩ := s
    cases hlayout
    cases hfile
    cases hsize
    cases hbackups
    exact ⟨threshold, hthreshold, rfl⟩
  · rintro ⟨threshold, hthreshold, rfl⟩
    refine ⟨fun key hkey => ?_, hthreshold, rfl, rfl, rfl, rfl⟩
    rw [List.mem_singleton.mp hkey]
    simp [loggingKeys]

lemma logging_format_eq_ok_iff :
    Check.logging [("format", value)] = .ok s ↔
      ∃ layout, Check.layout value = .ok layout ∧ s = { layout := layout } := by
  rw [logging_eq_ok_iff]
  constructor
  · rintro ⟨-, hthreshold, hlayout, hfile, hsize, hbackups⟩
    obtain ⟨threshold, layout, file, maxMegabytes, backups⟩ := s
    cases hthreshold
    cases hfile
    cases hsize
    cases hbackups
    exact ⟨layout, hlayout, rfl⟩
  · rintro ⟨layout, hlayout, rfl⟩
    refine ⟨fun key hkey => ?_, rfl, hlayout, rfl, rfl, rfl⟩
    rw [List.mem_singleton.mp hkey]
    simp [loggingKeys]

end Settings

/-! ### Setting up -/

/-- Whether settings hold the usual names of level and layout, and logging that is set up from them
finds both under these names: no other layout has to stand in, and all that changes are the threshold
and the handlers. -/
structure IsFoundByName (s : LoggingSettings) : Prop where
  level : s.toTable.get? "level" = some (.text s.threshold.name)
  format : s.toTable.get? "format" = some (.text s.layout.name)
  readLevel : Logging.readLevel (Logging.requestOf s).level = .ok (levelOf s.threshold)
  layout : LogLayout.all.find? (fun layout =>
    (Logging.requestOf s).layout.text? = some layout.name) = some s.layout
  setUp : ∀ log : Logging, s.file = none → log.setUp (Logging.requestOf s) =
    (.ok (), { log with threshold := levelOf s.threshold, handlers := [.console s.layout] })

lemma isFoundByName (s : LoggingSettings) : IsFoundByName s := by
  have hlevel : Logging.readLevel (Logging.requestOf s).level = .ok (levelOf s.threshold) := by
    unfold Logging.requestOf
    cases s.threshold <;> rfl
  have hfind : LogLayout.all.find? (fun layout =>
      (Logging.requestOf s).layout.text? = some layout.name) = some s.layout := by
    unfold Logging.requestOf
    cases s.layout <;> rfl
  refine ⟨rfl, rfl, hlevel, hfind, fun log hfile => ?_⟩
  have hlayout : Logging.readLayout (Logging.requestOf s).layout = .ok s.layout := by
    unfold Logging.requestOf
    cases s.layout <;> rfl
  have hnone : (Logging.requestOf s).file = none := by
    unfold Logging.requestOf
    rw [hfile]
    rfl
  rw [Logging.setUp, hlevel, hlayout]
  dsimp only
  rw [hnone]

/-- Logging settings of one text for the level, or of one for the layout, are accepted exactly if the
text names one of them, hold it under its usual name, and logging that is set up from them finds it
there. -/
theorem settings_by_level_or_layout_name (t : Text) :
    (∀ s, Check.logging [("level", .text t)] = .ok s ↔
      ∃ threshold, NamesThreshold t threshold ∧ s = { threshold := threshold }) ∧
    (∀ s, Check.logging [("format", .text t)] = .ok s ↔
      ∃ layout, NamesLayout t layout ∧ s = { layout := layout }) ∧
    ∀ s : LoggingSettings, IsFoundByName s := by
  refine ⟨fun s => ?_, fun s => ?_, isFoundByName⟩
  · rw [logging_level_eq_ok_iff]
    simp only [threshold_text_eq_ok_iff]
  · rw [logging_format_eq_ok_iff]
    simp only [layout_text_eq_ok_iff]

example : NamesThreshold "warnıng" .warning ∧ ¬ NamesThreshold "warnİng" .warning := by decide

end NameKeys.Proofs
