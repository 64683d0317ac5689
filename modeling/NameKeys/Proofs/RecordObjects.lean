import NameKeys.Log.Layout
import NameKeys.Proofs.DatedInstants
import NameKeys.Proofs.JsonRoundTrip
import NameKeys.Proofs.Results

/-!
# Log records as JSON objects

A log record in the JSON layout is one line that denotes an object: the record's own fields, whatever
the context holds, and after them the context under all other keys. There is such a line for every
record whose time has a date in the years 1 to 9999, whose arguments fit its message and whose error
can be told.
-/

namespace NameKeys.Proofs
open CodePoint

/-! ### A record's own fields -/

/-- The keys of a record's own fields in order. -/
def ownKeys (r : LogRecord) : List Text :=
  ["timestamp", "message", "level", "logger", "module", "function", "line"] ++
    if r.error?.isSome then ["exception"] else []

/-- Whether an error can be told, by these texts. -/
structure IsToldAs (e : ErrorInfo) (kind text report : Text) : Prop where
  kind : e.kind = .ok kind
  text : e.text = .ok text
  report : e.report = .ok report

/-- Whether everything about a record can be written. -/
structure IsWritable (r : LogRecord) : Prop where
  dated : IsDated r.created
  line : hasDecimalText r.line = true
  message : ∃ message, r.filled = .ok message
  error : ∀ e, r.error? = some e → ∃ kind text report, IsToldAs e kind text report

/-- Whether no text of a record holds surrogates that look like a pair. -/
structure HasPairFreeTexts (r : LogRecord) : Prop where
  message : ∀ message, r.filled = .ok message → IsPairFree message
  levelName : IsPairFree r.levelName
  logger : IsPairFree r.logger
  moduleName : IsPairFree r.moduleName
  function : ∀ name, r.function? = some name → IsPairFree name
  error : ∀ e, r.error? = some e → ∀ kind text report, IsToldAs e kind text report →
    IsPairFree kind ∧ IsPairFree text ∧ IsPairFree report

def errorObject (kind text report : Text) : Value :=
  .table [("type", .text kind), ("message", .text text), ("traceback", .text report)]

/-- Whether an object holds the values of a record under the keys of the record's fields. -/
structure HoldsFields (r : LogRecord) (obj : Table) : Prop where
  timestamp : ∃ instant time, Instant.ofNumber r.created = .ok instant ∧
    instant.toZonedText = .ok time ∧ obj.get? "timestamp" = some (.text time)
  message : ∃ message, r.filled = .ok message ∧ obj.get? "message" = some (.text message)
  level : obj.get? "level" = some (.text r.levelName)
  logger : obj.get? "logger" = some (.text r.logger)
  moduleName : obj.get? "module" = some (.text r.moduleName)
  function : obj.get? "function" = some (r.function?.elim .null .text)
  line : obj.get? "line" = some (.int r.line)
  error : ∀ e, r.error? = some e → ∃ kind text report, IsToldAs e kind text report ∧
    obj.get? "exception" = some (errorObject kind text report)

section Fields

variable {r : LogRecord} {fields : Table} {message kind text report : Text}

lemma isPlain_errorObject (hkind : IsPairFree kind) (htext : IsPairFree text)
    (hreport : IsPairFree report) : IsPlain (errorObject kind text report) := by
  have hdistinct : (["type", "message", "traceback"] : List Text).Nodup := by decide
  have hkeys : ∀ key ∈ (["type", "message", "traceback"] : List Text), IsPlainLine key := by decide
  refine .table hdistinct (fun key hkey => (hkeys key hkey).isPairFree) ?_
  simp only [List.forall_mem_cons]
  exact ⟨.text hkind, .text htext, .text hreport, List.forall_mem_nil _⟩

def leadingFields (r : LogRecord) (time message : Text) : Table :=
  [("timestamp", .text time), ("message", .text message), ("level", .text r.levelName),
    ("logger", .text r.logger), ("module", .text r.moduleName),
    ("function", match r.function? with | some name => .text name | none => .null),
    ("line", .int r.line)]

lemma errorFields_eq_ok_iff {e : ErrorInfo} {error : Table} (herror : r.error? = some e) :
    r.errorFields = .ok error ↔ ∃ kind text report, IsToldAs e kind text report ∧
      error = [(Text.ofString "exception", errorObject kind text report)] := by
  simp only [LogRecord.errorFields, herror, bind_eq_ok_iff]
  constructor
  · rintro ⟨kind, hkind, text, htext, report, hreport, herror⟩
    exact ⟨kind, text, report, ⟨hkind, htext, hreport⟩, (Except.ok.inj herror).symm⟩
  · rintro ⟨kind, text, report, ⟨hkind, htext, hreport⟩, rfl⟩
    exact ⟨kind, hkind, text, htext, report, hreport, rfl⟩

lemma fields_eq_ok_iff : r.fields = .ok fields ↔ ∃ instant time message error,
    Instant.ofNumber r.created = .ok instant ∧ instant.toZonedText = .ok time ∧
    r.filled = .ok message ∧ r.errorFields = .ok error ∧
    fields = leadingFields r time message ++ error := by
  simp only [LogRecord.fields, bind_eq_ok_iff, mapError_eq_ok_iff]
  constructor
  · rintro ⟨time, htime, message, hfilled, error, herror, hfields⟩
    obtain ⟨instant, hinstant, hzoned⟩ := bind_eq_ok_iff.mp htime
    exact ⟨instant, time, message, error, hinstant, hzoned, hfilled, herror,
      (Except.ok.inj hfields).symm⟩
  · rintro ⟨instant, time, message, error, hinstant, hzoned, hfilled, herror, rfl⟩
    exact ⟨time, bind_eq_ok_iff.mpr ⟨instant, hinstant, hzoned⟩, message, hfilled, error, herror,
      rfl⟩

lemma hasDate_of_toZonedText {instant : Instant} {time : Text}
    (h : instant.toZonedText = .ok time) : HasDate instant ∧ IsPlainLine time := by
  by_cases hdate : HasDate instant
  · obtain ⟨other, hother, hline⟩ := exists_toZonedText hdate
    obtain rfl := Except.ok.inj (h.symm.trans hother)
    exact ⟨hdate, hline⟩
  · obtain ⟨fault, hfault⟩ := toZonedText_of_not_hasDate hdate
    exact nomatch h.symm.trans hfault

lemma holdsFields_of_fields (h : r.fields = .ok fields) :
    HoldsFields r fields ∧ fields.keys = ownKeys r := by
  obtain ⟨instant, time, message, error, hinstant, htime, hfilled, herrors, rfl⟩ :=
    fields_eq_ok_iff.mp h
  have hfunction : ∀ error, Entries.get? "function" (leadingFields r time message ++ error) =
      some (r.function?.elim .null .text) := by
    intro error
    rw [leadingFields]
    cases r.function? <;> rfl
  cases herror : r.error? with
  | none =>
    rw [LogRecord.errorFields, herror] at herrors
    obtain rfl := Except.ok.inj herrors
    refine ⟨⟨⟨instant, time, hinstant, htime, rfl⟩, ⟨message, hfilled, rfl⟩, rfl, rfl, rfl,
      hfunction _, rfl, fun e he => nomatch herror.symm.trans he⟩, ?_⟩
    rw [ownKeys, herror]
    rfl
  | some e =>
    obtain ⟨kind, text, report, htold, rfl⟩ := (errorFields_eq_ok_iff herror).mp herrors
    refine ⟨⟨⟨instant, time, hinstant, htime, rfl⟩, ⟨message, hfilled, rfl⟩, rfl, rfl, rfl,
      hfunction _, rfl, fun other hother => ?_⟩, ?_⟩
    · obtain rfl := Option.some.inj (herror.symm.trans hother)
      exact ⟨kind, text, report, htold, rfl⟩
    · rw [ownKeys, herror]
      rfl

lemma isPlain_fields (h : r.fields = .ok fields) (htexts : HasPairFreeTexts r)
    (hshort : hasDecimalText r.line = true) : ∀ e ∈ fields, IsPlain e.2 := by
  obtain ⟨instant, time, message, error, -, htime, hfilled, herrors, rfl⟩ := fields_eq_ok_iff.mp h
  obtain ⟨-, htimeLine⟩ := hasDate_of_toZonedText htime
  refine List.forall_mem_append.mpr ⟨?_, ?_⟩
  · simp only [leadingFields, List.forall_mem_cons]
    refine ⟨.text htimeLine.isPairFree, .text (htexts.message message hfilled),
      .text htexts.levelName, .text htexts.logger, .text htexts.moduleName, ?_, .int hshort,
      List.forall_mem_nil _⟩
    cases hname : r.function? with
    | none => exact .null
    | some name => exact .text (htexts.function name hname)
  · cases herror : r.error? with
    | none =>
      rw [LogRecord.errorFields, herror] at herrors
      obtain rfl := Except.ok.inj herrors
      exact List.forall_mem_nil _
    | some e =>
      obtain ⟨kind, text, report, htold, rfl⟩ := (errorFields_eq_ok_iff herror).mp herrors
      obtain ⟨hkind, htext, hreport⟩ := htexts.error e herror kind text report htold
      exact List.forall_mem_singleton.mpr (isPlain_errorObject hkind htext hreport)

lemma isWritable_iff :
    IsWritable r ↔ (∃ fields, r.fields = .ok fields) ∧ hasDecimalText r.line = true := by
  constructor
  · rintro ⟨⟨instant, hinstant, hdate⟩, hshort, ⟨message, hfilled⟩, htold⟩
    obtain ⟨time, htime, -⟩ := exists_toZonedText hdate
    have herrors : ∃ error, r.errorFields = .ok error := by
      cases herror : r.error? with
      | none =>
        rw [LogRecord.errorFields, herror]
        exact ⟨_, rfl⟩
      | some e =>
        obtain ⟨kind, text, report, htold⟩ := htold e herror
        exact ⟨_, (errorFields_eq_ok_iff herror).mpr ⟨kind, text, report, htold, rfl⟩⟩
    obtain ⟨error, herrors⟩ := herrors
    exact ⟨⟨_, fields_eq_ok_iff.mpr
      ⟨instant, time, message, error, hinstant, htime, hfilled, herrors, rfl⟩⟩, hshort⟩
  · rintro ⟨⟨fields, hfields⟩, hshort⟩
    obtain ⟨hown, -⟩ := holdsFields_of_fields hfields
    obtain ⟨instant, time, hinstant, htime, -⟩ := hown.timestamp
    obtain ⟨message, hfilled, -⟩ := hown.message
    refine ⟨⟨instant, hinstant, (hasDate_of_toZonedText htime).1⟩, hshort, ⟨message, hfilled⟩,
      fun e he => ?_⟩
    obtain ⟨kind, text, report, htold, -⟩ := hown.error e he
    exact ⟨kind, text, report, htold⟩

end Fields

/-! ### The object of a record and its context -/

/-- Whether an object is what a record and its context make: the record's own values, and the values
of the context under all keys that are none of the record's. The record's keys stand first. -/
structure IsRecordObject (r : LogRecord) (entries obj : Table) : Prop extends HoldsFields r obj where
  other : ∀ key, key ∉ ownKeys r → obj.get? key = entries.get? key
  keys : obj.keys = ownKeys r ++ entries.keys.filter (· ∉ ownKeys r)

/-- Whether the context of a record is a table, as such or as data, or there is none and the table is
empty. -/
inductive HasContext (r : LogRecord) : Table → Prop
  | table {entries : Table} (context : r.context = .value (.table entries)) : HasContext r entries
  | data {entries : Table} (context : r.context = .data (Datum.ofTable entries)) :
    HasContext r entries
  | none (context : r.context = .value .null) : HasContext r []

/-- The object of a record with its fields and its context. -/
def mergedObject (fields entries : Table) : Table :=
  fields ++ entries.filter fun e => e.1 ∉ fields.keys

section Objects

variable {r : LogRecord} {fields entries : Table}

lemma get?_mergedObject (key : Text) : (mergedObject fields entries).get? key =
    (fields.get? key).or (if key ∉ fields.keys then entries.get? key else none) := by
  have happend : (mergedObject fields entries).get? key =
      (fields.get? key).or (Entries.get? key (entries.filter fun e => e.1 ∉ fields.keys)) :=
    List.lookup_append
  have hfilter := get?_filter (fun key => decide (key ∉ fields.keys)) key entries
  rw [happend, hfilter]
  simp only [decide_eq_true_eq]

lemma keys_mergedObject : (mergedObject fields entries).keys =
    fields.keys ++ entries.keys.filter (· ∉ fields.keys) := by
  simp only [Entries.keys, mergedObject, List.map_append, List.filter_map]
  rfl

lemma isRecordObject_merged (h : HoldsFields r fields) (hkeys : fields.keys = ownKeys r) :
    IsRecordObject r entries (mergedObject fields entries) := by
  have hown : ∀ {key v}, fields.get? key = some v →
      (mergedObject fields entries).get? key = some v := by
    intro key v hget
    rw [get?_mergedObject, hget, Option.some_or]
  obtain ⟨instant, time, hinstant, htime, htimestamp⟩ := h.timestamp
  obtain ⟨message, hfilled, hmessage⟩ := h.message
  refine ⟨⟨⟨instant, time, hinstant, htime, hown htimestamp⟩, ⟨message, hfilled, hown hmessage⟩,
    hown h.level, hown h.logger, hown h.moduleName, hown h.function, hown h.line, fun e he => ?_⟩,
    fun key hkey => ?_, ?_⟩
  · obtain ⟨kind, text, report, htold, hget⟩ := h.error e he
    exact ⟨kind, text, report, htold, hown hget⟩
  · rw [← hkeys] at hkey
    rw [get?_mergedObject, get?_eq_none hkey, Option.none_or, if_pos hkey]
  · rw [keys_mergedObject, hkeys]

lemma checkedOwnKeys (r : LogRecord) : (ownKeys r).Nodup ∧ ∀ key ∈ ownKeys r, IsPlainLine key := by
  unfold ownKeys
  cases r.error?.isSome <;> decide

lemma isPlain_mergedObject (hkeys : fields.keys = ownKeys r) (hfields : ∀ e ∈ fields, IsPlain e.2)
    (hentries : IsPlain (.table entries)) : IsPlain (.table (mergedObject fields entries)) := by
  obtain ⟨hnodup, hlines⟩ := checkedOwnKeys r
  cases hentries with
  | table hdistinct hfree hplain =>
    refine .table ?_ ?_ ?_
    · rw [keys_mergedObject, hkeys]
      refine List.nodup_append.mpr ⟨hnodup, hdistinct.filter _, ?_⟩
      rintro key hown other hother rfl
      exact absurd hown (by simpa using (List.mem_filter.mp hother).2)
    · rw [keys_mergedObject, hkeys]
      refine List.forall_mem_append.mpr ⟨fun key hown => (hlines key hown).isPairFree, ?_⟩
      exact fun key hkey => hfree key (List.mem_of_mem_filter hkey)
    · refine List.forall_mem_append.mpr ⟨hfields, ?_⟩
      exact fun e he => hplain e (List.mem_of_mem_filter he)

lemma jsonEntries_ofTable (table : Table) :
    Datum.jsonEntries ((Datum.ofTable table).map fun (key, d) => (.value (.text key), d)) =
      if Value.entriesHaveLiterals table then .ok (Value.jsonEntries table)
      else .error .numeralTooLong := by
  induction table with
  | nil => rfl
  | cons entry rest ih =>
    obtain ⟨key, v⟩ := entry
    change Datum.jsonEntries
      ((Datum.value (.text key), Datum.value v) :: (Datum.ofTable rest).map _) = _
    rw [Datum.jsonEntries, Datum.json, Value.entriesHaveLiterals]
    by_cases hv : v.hasLiteral = true
    · by_cases hrest : Value.entriesHaveLiterals rest = true
      · rw [if_pos hrest] at ih
        rw [if_pos hv, hv, hrest, ih]
        rfl
      · rw [if_neg hrest] at ih
        rw [if_pos hv, hv, Bool.true_and, if_neg hrest, ih]
        rfl
    · rw [if_neg hv, Bool.eq_false_iff.mpr hv]
      rfl

lemma json_object (table : Table) : (Datum.object (Datum.ofTable table)).json =
    if (Value.table table).hasLiteral then .ok (Value.table table).json
    else .error .numeralTooLong := by
  rw [Datum.object, Datum.json, jsonEntries_ofTable, Value.hasLiteral, Value.json]
  split <;> rfl

lemma filter_ofTable (keys : List Text) : (Datum.ofTable entries).filter (fun e => e.1 ∉ keys) =
    Datum.ofTable (entries.filter fun e => e.1 ∉ keys) := List.filter_map

lemma jsonLayout_eq (hfields : r.fields = .ok fields)
    (hentries : r.contextEntries = .ok (Datum.ofTable entries)) :
    r.jsonLayout = if (Value.table (mergedObject fields entries)).hasLiteral then
      .ok (Value.table (mergedObject fields entries)).json else .error .numeralTooLong := by
  have hobject : Datum.ofTable fields ++ Datum.ofTable (entries.filter fun e => e.1 ∉ fields.keys) =
      Datum.ofTable (mergedObject fields entries) := List.map_append.symm
  rw [LogRecord.jsonLayout, hfields, hentries]
  change ((Datum.object (Datum.ofTable fields ++
    (Datum.ofTable entries).filter fun e => e.1 ∉ fields.keys)).json).mapError _ = _
  rw [filter_ofTable, hobject, json_object]
  split <;> rfl

lemma HasContext.contextEntries (h : HasContext r entries) :
    r.contextEntries = .ok (Datum.ofTable entries) := by
  unfold LogRecord.contextEntries
  cases h with
  | table h =>
    rw [h]
    cases entries <;> rfl
  | data h => rw [h]
  | none h =>
    rw [h]
    rfl

lemma isWritable_of_line (hentries : r.contextEntries = .ok (Datum.ofTable entries)) {line : Text}
    (h : r.jsonLayout = .ok line) : IsWritable r := by
  obtain ⟨fields, hfields, -⟩ := bind_eq_ok_iff.mp h
  refine isWritable_iff.mpr ⟨⟨fields, hfields⟩, ?_⟩
  have hmem : (Text.ofString "line", Value.int r.line) ∈ mergedObject fields entries :=
    List.mem_append_left _ (mem_of_get? (holdsFields_of_fields hfields).1.line)
  rw [jsonLayout_eq hfields hentries] at h
  split at h
  case isTrue hliteral =>
    rw [Value.hasLiteral, entriesHaveLiterals_iff] at hliteral
    have hshort := hliteral _ hmem
    rwa [Value.hasLiteral] at hshort
  case isFalse => contradiction

end Objects

/-- A record of which everything can be written is laid out as one line of printable ASCII. It
denotes an object with the record's own values, whatever the context holds, and with exactly the
context's values under all other keys, the record's keys first and the others in order of the
context. Any other record has no such line. -/
theorem json_object_of_record {r : LogRecord} {entries : Table} (hcontext : HasContext r entries)
    (hplain : IsPlain (.table entries)) (htexts : HasPairFreeTexts r) :
    (IsWritable r → ∃ line obj, r.jsonLayout = .ok line ∧ IsPlainLine line ∧
      Value.ofJson? line = some (.table obj) ∧ IsRecordObject r entries obj) ∧
    (¬ IsWritable r → ∃ fault, r.jsonLayout = .error fault) := by
  have hentries := hcontext.contextEntries
  constructor
  · intro hwritable
    obtain ⟨⟨fields, hfields⟩, hshort⟩ := isWritable_iff.mp hwritable
    obtain ⟨hown, hkeys⟩ := holdsFields_of_fields hfields
    have hobj := isPlain_mergedObject hkeys (isPlain_fields hfields htexts hshort) hplain
    refine ⟨_, mergedObject fields entries, ?_, hobj.isPlainLine, ofJson?_json hobj,
      isRecordObject_merged hown hkeys⟩
    rw [jsonLayout_eq hfields hentries, if_pos hobj.hasLiteral]
  · exact fun hunwritable => exists_eq_error_of_forall_ne fun line hline =>
      hunwritable (isWritable_of_line hentries hline)

/-- What is told about a missing key that was looked for while another error was handled. -/
def missingKey : ErrorInfo where
  kind := .ok "KeyError"
  text := .ok "'\u00fc'"
  report := .ok "OSError\n\nDuring handling:\n\nKeyError: '\u00fc'"

def clashingContext : Table :=
  [("exception", .null), ("name", .text [ofNat 0xD800, ofNat 0x1F600]),
    ("message", .text "other"), ("tried", .list [.bool false, .table [("", .int (-5))]])]

/-- A record about a missing key, with such a context. -/
def clashingRecord : LogRecord :=
  .make LogLevel.error "no \"key\"\n" "x" "/a/mod.py" (some "find") 7
    (.finite false 0x10000000000000 (-52)) (some missingKey) (.value (.table clashingContext))

lemma isPlain_clashingContext : IsPlain (.table clashingContext) := by
  have hkeys : (["exception", "name", "message", "tried"] : List Text).Nodup := by decide
  have hfree : ∀ key ∈ (["exception", "name", "message", "tried"] : List Text), IsPairFree key := by
    decide
  have hinner : IsPlain (.table [("", .int (-5))]) := by
    refine .table (List.nodup_singleton _) (List.forall_mem_singleton.mpr .nil) ?_
    exact List.forall_mem_singleton.mpr (.int (by decide +kernel))
  have htried : IsPlain (.list [.bool false, .table [("", .int (-5))]]) :=
    .list (List.forall_mem_cons.mpr ⟨.bool false, List.forall_mem_singleton.mpr hinner⟩)
  refine .table hkeys hfree ?_
  simp only [clashingContext, List.forall_mem_cons]
  exact ⟨.null, .text (by decide), .text (by decide), htried, List.forall_mem_nil _⟩

theorem object_of_clashing_record :
    HasContext clashingRecord clashingContext ∧ IsPlain (.table clashingContext) ∧
    HasPairFreeTexts clashingRecord ∧ IsWritable clashingRecord ∧
    ∃ line obj, clashingRecord.jsonLayout = .ok line ∧ IsPlainLine line ∧
      Value.ofJson? line = some (.table obj) ∧
      IsRecordObject clashingRecord clashingContext obj := by
  have hcontext : HasContext clashingRecord clashingContext := .table rfl
  have htexts : HasPairFreeTexts clashingRecord := by
    refine ⟨fun message hfilled => ?_, by decide, by decide, by decide, fun name hname => ?_,
      fun e he kind text report htold => ?_⟩
    · obtain rfl := Except.ok.inj hfilled
      decide
    · obtain rfl := Option.some.inj hname
      decide
    · obtain rfl := Option.some.inj he
      obtain ⟨hkind, htext, hreport⟩ := htold
      obtain rfl := Except.ok.inj hkind
      obtain rfl := Except.ok.inj htext
      obtain rfl := Except.ok.inj hreport
      decide +kernel
  have hwritable : IsWritable clashingRecord := by
    refine ⟨by decide +kernel, by decide +kernel, ⟨_, rfl⟩, fun e he => ?_⟩
    obtain rfl := Option.some.inj he
    exact ⟨_, _, _, rfl, rfl, rfl⟩
  exact ⟨hcontext, isPlain_clashingContext, htexts, hwritable,
    (json_object_of_record hcontext isPlain_clashingContext htexts).1 hwritable⟩

def smallContext : Table := [("a", .int 1)]

def smallRecord (filled : Except Text Text) (line : Int) (created : Binary64)
    (error? : Option ErrorInfo) : LogRecord where
  level := LogLevel.error
  filled
  logger := "x"
  moduleName := "mod"
  function? := none
  line
  created
  error?
  context := .value (.table smallContext)
  levelName := "ERROR"

def firstSecond : Binary64 := .finite false 0x10000000000000 (-52)

def lateRecord : LogRecord := smallRecord (.ok "m") 1 (Binary64.ofInt 253402300800) none

def longNumber : Int := Nat.pow 10 maxDigits

lemma hasDecimalText_longNumber : hasDecimalText longNumber = false := by decide +kernel

/-- A record at a line whose number has too many digits. -/
def distantRecord : LogRecord := smallRecord (.ok "m") longNumber firstSecond none

/-- A record with an argument that does not fit its message. -/
def unfittingRecord : LogRecord :=
  smallRecord (.error "%d format: a real number is required, not str") 1 firstSecond none

/-- A record about the error at hand, where there is none. -/
def errorlessRecord : LogRecord := smallRecord (.ok "m") 1 firstSecond (some .empty)

/-- A record about an error with a number that has too many digits. -/
def unspeakableRecord : LogRecord :=
  smallRecord (.ok "m") 1 firstSecond (some (LoggedError.info ⟨.value, some (.int longNumber)⟩))

/-- A record with two surrogates in its message that look like a pair. -/
def pairedRecord : LogRecord :=
  smallRecord (.ok [ofNat 0xD800, ofNat 0xDC00]) 1 firstSecond none

lemma isPlain_smallContext : IsPlain (.table smallContext) := by
  refine .table (List.nodup_singleton _) (List.forall_mem_singleton.mpr (by decide)) ?_
  exact List.forall_mem_singleton.mpr (.int (by decide +kernel))

section SmallRecords

variable {filled : Except Text Text} {line : Int} {created : Binary64} {error? : Option ErrorInfo}

lemma hasContext_smallRecord : HasContext (smallRecord filled line created error?) smallContext :=
  .table rfl

lemma hasPairFreeTexts_smallRecord (hfilled : ∀ message, filled = .ok message → IsPairFree message)
    (herror : ∀ e, error? = some e → ∀ kind text report, ¬ IsToldAs e kind text report) :
    HasPairFreeTexts (smallRecord filled line created error?) := by
  have hlevel : IsPairFree "ERROR" := by decide
  have hlogger : IsPairFree "x" := by decide
  have hmodule : IsPairFree "mod" := by decide
  refine ⟨hfilled, hlevel, hlogger, hmodule, nofun, ?_⟩
  exact fun e he kind text report htold => absurd htold (herror e he kind text report)

lemma smallRecord_without_line
    (hfilled : ∀ message, filled = .ok message → IsPairFree message)
    (herror : ∀ e, error? = some e → ∀ kind text report, ¬ IsToldAs e kind text report)
    (h : ¬ IsWritable (smallRecord filled line created error?)) :
    HasContext (smallRecord filled line created error?) smallContext ∧
      HasPairFreeTexts (smallRecord filled line created error?) ∧
      ¬ ∃ line', (smallRecord filled line created error?).jsonLayout = .ok line' := by
  refine ⟨hasContext_smallRecord, hasPairFreeTexts_smallRecord hfilled herror, ?_⟩
  exact fun ⟨line', hline⟩ => h (isWritable_of_line hasContext_smallRecord.contextEntries hline)

lemma isPairFree_of_m (message : Text) (h : (.ok "m" : Except Text Text) = .ok message) :
    IsPairFree message := by
  obtain rfl := Except.ok.inj h
  decide

lemma not_isToldAs_empty (kind text report : Text) : ¬ IsToldAs .empty kind text report :=
  fun h => nomatch h.kind

end SmallRecords

lemma message_of_paired_record : ∃ line obj, pairedRecord.jsonLayout = .ok line ∧
    Value.ofJson? line = some (.table obj) ∧ ¬ HoldsFields pairedRecord obj := by
  have hmessage : ((pairedRecord.jsonLayout.toOption.bind Value.ofJson?).bind fun v =>
      (reached? ["message"] v).bind Value.text?) = some [ofNat 0x10000] := by
    decide +kernel
  obtain ⟨v, hv, hget⟩ := Option.bind_eq_some_iff.mp hmessage
  obtain ⟨line, hline, hobj⟩ := Option.bind_eq_some_iff.mp hv
  cases v with
  | table obj =>
    refine ⟨line, obj, eq_ok_of_toOption hline, hobj, fun h => ?_⟩
    obtain ⟨message, hfilled, hown⟩ := h.message
    obtain rfl := Except.ok.inj hfilled
    rw [reached?_cons_table, hown] at hget
    exact absurd hget (by decide)
  | _ => cases hget

/-- There is no line for a record of the year 10000, one at a line whose number has too many digits,
one with an argument that does not fit, and ones about an error that there is not or that cannot be
told. A message with two surrogates that look like a pair is no longer the record's own in the
object. -/
theorem late_and_paired_records :
    IsPlain (.table smallContext) ∧
    (∀ r ∈ [lateRecord, distantRecord, unfittingRecord, errorlessRecord, unspeakableRecord],
      HasContext r smallContext ∧ HasPairFreeTexts r ∧ ¬ ∃ line, r.jsonLayout = .ok line) ∧
    HasContext pairedRecord smallContext ∧ ∃ line obj, pairedRecord.jsonLayout = .ok line ∧
      Value.ofJson? line = some (.table obj) ∧ ¬ HoldsFields pairedRecord obj := by
  have hlate : ¬ IsDated lateRecord.created := by decide +kernel
  have hunspeakable : ∀ e, unspeakableRecord.error? = some e → ∀ kind text report,
      ¬ IsToldAs e kind text report := by
    intro e he kind text report htold
    obtain rfl := Option.some.inj he
    have htext := htold.text
    simp [LoggedError.info, LoggedError.text, Value.hasLiteral, hasDecimalText_longNumber] at htext
  have herrorless : ∀ e, errorlessRecord.error? = some e → ∀ kind text report,
      ¬ IsToldAs e kind text report := by
    intro e he
    obtain rfl := Option.some.inj he
    exact not_isToldAs_empty
  refine ⟨isPlain_smallContext, ?_, hasContext_smallRecord, message_of_paired_record⟩
  simp only [List.forall_mem_cons]
  refine ⟨?_, ?_, ?_, ?_, ?_, List.forall_mem_nil _⟩
  · exact smallRecord_without_line isPairFree_of_m nofun fun h => hlate h.dated
  · exact smallRecord_without_line isPairFree_of_m nofun fun h =>
      Bool.false_ne_true (hasDecimalText_longNumber.symm.trans h.line)
  · exact smallRecord_without_line nofun nofun fun h => nomatch h.message
  · exact smallRecord_without_line isPairFree_of_m herrorless fun h => by
      obtain ⟨kind, text, report, htold⟩ := h.error _ rfl
      exact herrorless _ rfl kind text report htold
  · exact smallRecord_without_line isPairFree_of_m hunspeakable fun h => by
      obtain ⟨kind, text, report, htold⟩ := h.error _ rfl
      exact hunspeakable _ rfl kind text report htold

end NameKeys.Proofs
