import Mathlib.Tactic.Basic
import NameKeys.Log.Logging

/-!
# Logging set up again and again

However often logging is set up, its threshold and its handlers are those of the last set-up whose
level is known: the console, and behind it at most one file. A set-up with an unknown level fails
before it changes anything.
-/

namespace NameKeys.Proofs
open Logging (readLevel readLayout)

/-- A set-up by names: of a level, of a layout and possibly of a log file, with the size in
megabytes at which it is rotated and the number of rotated files to keep. -/
structure SetUpCall where
  level : Text
  layout : Text
  file : Option Text
  megabytes : FileSize
  backups : Int

namespace SetUpCall

def request (call : SetUpCall) : LoggingRequest :=
  { level := .text call.level, layout := .text call.layout, file := call.file
    megabytes := call.megabytes, backups := call.backups }

/-- The level of a set-up, if its name is that of a level in any case. -/
def level? (call : SetUpCall) : Option Int := List.lookup (Text.upper call.level) LogLevel.named

/-- The layout of the console: the simple one unless another one has exactly the name. -/
def consoleLayout (call : SetUpCall) : LogLayout :=
  if call.layout = "json" then .json else if call.layout = "detailed" then .detailed else .simple

def bytes (call : SetUpCall) : FileSize :=
  match call.megabytes with
  | .whole n => .whole (n * 1048576)
  | size => size.ofMegabytes

def handlers (call : SetUpCall) : List LogHandler :=
  .console call.consoleLayout ::
    (call.file.map fun path => .file (FilePath.resolve path) call.bytes call.backups).toList

end SetUpCall

/-- Logging after one set-up after the other, whether or not they succeed. -/
def loggingAfter (s : Logging) (calls : List SetUpCall) : Logging :=
  calls.foldl (fun s call => (s.setUp call.request).2) s

/-- Whether each of some set-ups in a row succeeds. -/
def successes (s : Logging) : List SetUpCall → List Bool
  | [] => []
  | call :: rest =>
    (s.setUp call.request).1.isOk :: successes (s.setUp call.request).2 rest

/-- Whether every log file can be opened when a set-up with a known level comes to it. -/
def FilesOpen (s : Logging) : List SetUpCall → Prop
  | [] => True
  | call :: rest =>
    (call.level?.isSome → ∀ path ∈ call.file, (s.openFile path).1.isOk = true) ∧
      FilesOpen (s.setUp call.request).2 rest

instance decidableFilesOpen :
    ∀ (s : Logging) (calls : List SetUpCall), Decidable (FilesOpen s calls)
  | _, [] => inferInstanceAs (Decidable True)
  | s, call :: rest =>
    have := decidableFilesOpen (s.setUp call.request).2 rest
    inferInstanceAs (Decidable (_ ∧ _))

/-- The last of some set-ups whose level is known, with its level. -/
def lastAccepted? (calls : List SetUpCall) : Option (Int × SetUpCall) :=
  (calls.filterMap fun call => call.level?.map fun level => (level, call)).getLast?

section SetUps

variable {s : Logging} {call : SetUpCall} {level : Int}

lemma readLayout_text (t : Text) : readLayout (.text t) =
    .ok (if t = "json" then .json else if t = "detailed" then .detailed else .simple) := by
  have hfind : readLayout (.text t) =
      .ok ((LogLayout.all.find? fun layout => t = layout.name).getD .simple) := by
    simp [readLayout, Logging.unusable?, Value.text?]
  rw [hfind, LogLayout.all]
  by_cases hsimple : t = "simple"
  · subst hsimple
    rfl
  by_cases hdetailed : t = "detailed"
  · subst hdetailed
    rfl
  by_cases hjson : t = "json"
  · subst hjson
    rfl
  simp [LogLayout.name, hsimple, hdetailed, hjson]

lemma ofMegabytes_eq_bytes (call : SetUpCall) : call.megabytes.ofMegabytes = call.bytes := by
  unfold SetUpCall.bytes
  cases call.megabytes <;> rfl

lemma openFile_update (threshold : Int) (handlers : List LogHandler) (path : Text) :
    (Logging.openFile { s with threshold, handlers } path).1 = (s.openFile path).1 ∧
      (Logging.openFile { s with threshold, handlers } path).2.threshold = threshold ∧
      (Logging.openFile { s with threshold, handlers } path).2.handlers = handlers := by
  unfold Logging.openFile
  dsimp only
  split <;> exact ⟨rfl, rfl, rfl⟩

lemma readLevel_of_known (h : call.level? = some level) :
    readLevel call.request.level = .ok level := by
  have hlookup : List.lookup (Text.upper call.level) LogLevel.named = some level := h
  simp only [SetUpCall.request, readLevel, hlookup]

lemma setUp_of_unknown (h : call.level? = none) (s : Logging) :
    ∃ fault, s.setUp call.request = (.error fault, s) := by
  have hlookup : List.lookup (Text.upper call.level) LogLevel.named = none := h
  simp only [Logging.setUp, SetUpCall.request, readLevel, hlookup]
  exact ⟨_, rfl⟩

lemma setUp_of_known (h : call.level? = some level)
    (hopen : ∀ path ∈ call.file, (s.openFile path).1.isOk = true) :
    (s.setUp call.request).1 = .ok () ∧ (s.setUp call.request).2.threshold = level ∧
      (s.setUp call.request).2.handlers = call.handlers := by
  have hlevel := readLevel_of_known h
  have hlayout : readLayout call.request.layout = .ok call.consoleLayout :=
    readLayout_text call.layout
  rw [Logging.setUp, hlevel, hlayout]
  dsimp only
  cases hfile : call.file with
  | none =>
    have hrequest : call.request.file = none := hfile
    rw [hrequest, SetUpCall.handlers, hfile]
    exact ⟨rfl, rfl, rfl⟩
  | some path =>
    have hrequest : call.request.file = some path := hfile
    obtain ⟨hsame, hthreshold, -⟩ :=
      openFile_update (s := s) level [.console call.consoleLayout] path
    have hok := hopen path hfile
    rw [← hsame] at hok
    rw [hrequest, SetUpCall.handlers, hfile]
    dsimp only
    split
    · next heq =>
      rw [heq] at hok
      cases hok
    · next opened heq =>
      rw [heq] at hthreshold
      refine ⟨rfl, hthreshold, ?_⟩
      rw [← ofMegabytes_eq_bytes]
      rfl

/-! ### Runs -/

lemma lastAccepted?_cons (call : SetUpCall) (rest : List SetUpCall) :
    lastAccepted? (call :: rest) =
      (lastAccepted? rest).or (call.level?.map fun level => (level, call)) := by
  unfold lastAccepted?
  cases h : call.level? with
  | none => simp [h]
  | some level => cases hlast : (rest.filterMap _).getLast? <;> simp [h, hlast, List.getLast?_cons]

lemma loggingAfter_eq {calls : List SetUpCall} (hopen : FilesOpen s calls) :
    ((loggingAfter s calls).threshold, (loggingAfter s calls).handlers) =
      (lastAccepted? calls).elim (s.threshold, s.handlers)
        fun last => (last.1, last.2.handlers) := by
  induction calls generalizing s with
  | nil => rfl
  | cons call rest ih =>
    obtain ⟨hfile, hrest⟩ := hopen
    have hafter : loggingAfter s (call :: rest) = loggingAfter (s.setUp call.request).2 rest := rfl
    rw [hafter, ih hrest, lastAccepted?_cons]
    cases hlast : lastAccepted? rest with
    | some last => rfl
    | none =>
      cases hlevel : call.level? with
      | none =>
        obtain ⟨fault, hsetUp⟩ := setUp_of_unknown hlevel s
        rw [hsetUp]
        rfl
      | some level =>
        obtain ⟨-, hthreshold, hhandlers⟩ := setUp_of_known hlevel (hfile (hlevel ▸ rfl))
        simp [hthreshold, hhandlers]

lemma successes_eq {calls : List SetUpCall} (hopen : FilesOpen s calls) :
    successes s calls = calls.map fun call => call.level?.isSome := by
  induction calls generalizing s with
  | nil => rfl
  | cons call rest ih =>
    obtain ⟨hfile, hrest⟩ := hopen
    rw [successes, ih hrest, List.map_cons]
    cases hlevel : call.level? with
    | none =>
      obtain ⟨fault, hsetUp⟩ := setUp_of_unknown hlevel s
      rw [hsetUp]
      rfl
    | some level =>
      have hok := (setUp_of_known hlevel (hfile (hlevel ▸ rfl))).1
      rw [hok]
      rfl

/-- After set-ups in a row threshold and handlers are those that the last one with a known level
asks for, whatever they were before and whatever the others asked for; without such a one they are
as they were. The set-ups with a known level are those that succeed, and any other one leaves all of
logging as it is. -/
theorem logging_after_setUps (calls : List SetUpCall) (hopen : FilesOpen s calls) :
    ((loggingAfter s calls).threshold, (loggingAfter s calls).handlers) =
      (lastAccepted? calls).elim (s.threshold, s.handlers) (fun last => (last.1, last.2.handlers)) ∧
    successes s calls = calls.map (fun call => call.level?.isSome) ∧
    ∀ call : SetUpCall, call.level? = none →
      ∀ now : Logging, ∃ fault, now.setUp call.request = (.error fault, now) :=
  ⟨loggingAfter_eq hopen, successes_eq hopen, fun _ hlevel now => setUp_of_unknown hlevel now⟩

end SetUps

/-- Set-ups with and without a log file, with layouts that are known and one that is not, and with
two levels that are not known. -/
def severalCalls : List SetUpCall :=
  [⟨"debug", "json", some "logs/deep/a.log", .whole 2, 3⟩,
    ⟨"loud", "simple", some "x.log", .whole 1, 1⟩,
    ⟨"Warning", "xml", none, .whole 10, 5⟩, ⟨"info", "detailed", some "./logs/b.log", .whole 4, -1⟩,
    ⟨"basic_format", "json", none, .whole 10, 5⟩]

theorem logging_after_severalCalls :
    FilesOpen .initial severalCalls ∧
    (loggingAfter .initial severalCalls).threshold = LogLevel.info ∧
    (loggingAfter .initial severalCalls).handlers =
      [.console .detailed, .file "logs/b.log" (.whole 4194304) (-1)] ∧
    successes .initial severalCalls = [true, false, true, true, false] := by
  have hopen : FilesOpen .initial severalCalls := by decide +kernel
  obtain ⟨hafter, hsuccesses, -⟩ := logging_after_setUps severalCalls hopen
  obtain ⟨hthreshold, hhandlers⟩ := Prod.mk.inj hafter
  refine ⟨hopen, hthreshold.trans ?_, hhandlers.trans ?_, hsuccesses.trans ?_⟩
  · decide +kernel
  · decide +kernel
  · decide +kernel

end NameKeys.Proofs
