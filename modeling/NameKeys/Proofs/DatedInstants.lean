import NameKeys.Log.Instant
import NameKeys.Proofs.JsonStrings
import NameKeys.Proofs.Results

/-!
# Instants with a date

The date of an instant lies in the years 1 to 9999 exactly if the instant lies between the beginning
of the year 1 and that of the year 10000. These are the instants with a text that names the time zone,
and the text is printable ASCII.
-/

namespace NameKeys.Proofs
open CodePoint

/-- Whether an instant lies in the years 1 to 9999. -/
def HasDate (instant : Instant) : Prop :=
  -62135596800 ≤ instant.microseconds / 1000000 ∧ instant.microseconds / 1000000 < 253402300800

instance decidableHasDate (instant : Instant) : Decidable (HasDate instant) :=
  inferInstanceAs (Decidable (_ ∧ _))

/-- Whether a number of seconds is an instant in the years 1 to 9999. -/
def IsDated (created : Binary64) : Prop :=
  ∃ instant, Instant.ofNumber created = .ok instant ∧ HasDate instant

instance decidableIsDated (created : Binary64) : Decidable (IsDated created) :=
  inferInstanceAs (Decidable (∃ instant, _ ∧ HasDate instant))

/-! ### Years -/

/-- The years of an era are counted from 0 to 399. The first has 365 days, and the last begins with
day 145731. -/
lemma yearOfEra_bounds (d : Int) (hlow : 0 ≤ d) (hhigh : d < 146097) :
    let y := (d - d / 1460 + d / 36524 - d / 146096) / 365
    0 ≤ y ∧ y ≤ 399 ∧ (y = 0 ↔ d < 365) ∧ (y = 399 ↔ 145731 ≤ d) := by
  intro y
  have hleap : 146000 ≤ d → d / 1460 = 100 := by omega
  have hera : d = 146096 ∨ d / 36524 ≤ 3 := by omega
  have hlast : 145731 ≤ d → d < 146000 → d / 1460 = 99 ∧ d / 36524 = 3 ∧ d / 146096 = 0 := by omega
  have hbefore : d < 145731 → d / 1460 ≤ 99 := by omega
  refine ⟨?_, ?_, ?_, ?_⟩ <;> omega

lemma one_le_year_iff (t : Int) : 1 ≤ (CalendarTime.ofSeconds t).year ↔ -62135596800 ≤ t := by
  obtain ⟨hlow, hhigh, hfirst, -⟩ := yearOfEra_bounds ((t / 86400 + 719468) % 146097) (by omega)
    (by omega)
  unfold CalendarTime.ofSeconds
  dsimp only
  generalize ((t / 86400 + 719468) % 146097 - _ + _ - _) / 365 = y at *
  by_cases hy : y = 0
  · subst hy
    split <;> omega
  · split <;> omega

lemma year_le_iff (t : Int) : (CalendarTime.ofSeconds t).year ≤ 9999 ↔ t < 253402300800 := by
  obtain ⟨hlow, hhigh, -, hlast⟩ := yearOfEra_bounds ((t / 86400 + 719468) % 146097) (by omega)
    (by omega)
  unfold CalendarTime.ofSeconds
  dsimp only
  generalize ((t / 86400 + 719468) % 146097 - _ + _ - _) / 365 = y at *
  by_cases hy : y = 399
  · subst hy
    split <;> omega
  · split <;> omega

/-! ### Texts of dates -/

lemma isPlainLine_padded (width n : Nat) : IsPlainLine (Text.padded width n) := by
  induction width generalizing n with
  | zero => exact List.forall_mem_nil _
  | succ width ih => exact (ih (n / 10)).append (isPlainLine_ofDigit (by omega))

lemma isPlainLine_afterYear (c : CalendarTime) : IsPlainLine c.afterYear := by
  have hdash : IsPlainLine "-" := by decide
  have hcolon : IsPlainLine ":" := by decide
  have hmark : IsPlainLine "T" := by decide
  have htwo : ∀ n : Int, IsPlainLine (Text.padded 2 n.toNat) := fun n => isPlainLine_padded 2 _
  unfold CalendarTime.afterYear
  exact (((((((((hdash.append (htwo _)).append hdash).append (htwo _)).append hmark).append
    (htwo _)).append hcolon).append (htwo _)).append hcolon).append (htwo _))

section Texts

variable {instant : Instant}

lemma exists_toZonedText (h : HasDate instant) :
    ∃ time, instant.toZonedText = .ok time ∧ IsPlainLine time := by
  have hfirst := (one_le_year_iff _).mpr h.1
  have hlast := (year_le_iff _).mpr h.2
  have hcalendar : Instant.calendarTime (instant.microseconds / 1000000) =
      .ok (CalendarTime.ofSeconds (instant.microseconds / 1000000)) := by
    refine if_pos ?_
    unfold Instant.yearLimit Instant.signedLimit
    omega
  have hpoint : IsPlainLine "." := by decide
  have hzone : IsPlainLine "+00:00" := by decide
  rw [Instant.toZonedText, hcalendar]
  refine ⟨_, if_pos ⟨hfirst, hlast⟩, ?_⟩
  refine (((isPlainLine_padded 4 _).append (isPlainLine_afterYear _)).append ?_).append hzone
  split
  · exact List.forall_mem_nil _
  · exact hpoint.append (isPlainLine_padded 6 _)

lemma toZonedText_of_not_hasDate (h : ¬ HasDate instant) :
    ∃ fault, instant.toZonedText = .error fault := by
  rw [HasDate, ← one_le_year_iff, ← year_le_iff] at h
  rw [Instant.toZonedText, Instant.calendarTime]
  dsimp only
  split
  · exact ⟨_, if_neg h⟩
  · exact ⟨_, rfl⟩

end Texts

end NameKeys.Proofs
