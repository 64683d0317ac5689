import NameKeys.Number.Binary64

/-!
# Instants

Points in time in seconds since the beginning of 1970, and their dates in the Gregorian calendar. One
notation is in universal time and rounded to microseconds; the other is in local time and cut off to
seconds.
-/

namespace NameKeys

/-- Why a number of seconds is no point in time, or one without a date. -/
inductive TimeFault where
  | nan
  | tooFar
  | yearTooLarge
  | yearNotWritable
  | yearOutOfRange (year : Int)

def TimeFault.message : TimeFault → Text
  | nan => "Invalid value NaN (not a number)"
  | tooFar => "timestamp out of range for platform time_t"
  | yearTooLarge => "[Errno 75] Value too large for defined data type"
  | yearNotWritable => "signed integer is greater than maximum"
  | yearOutOfRange year => "year " ++ Text.ofInt year ++ " is out of range"

/-- A point in time: the last full second, and the nearest microsecond. -/
structure Instant where
  seconds : Int
  microseconds : Int
  deriving DecidableEq, Repr

namespace Instant

/-- The instant of a floating-point number of seconds. The fraction of a second is multiplied in
floating point before it is rounded, halves to the even side. -/
def ofBinary64 (negative : Bool) (mantissa : Nat) (exponent : Int) : Instant :=
  let (num, den) := Binary64.scaled 2 mantissa 1 exponent
  let whole : Int := num / den
  let fraction : Int :=
    match Binary64.ofQuotient false (num % den * 1000000) den with
    | .finite _ m e =>
      let (n, d) := Binary64.scaled 2 m 1 e
      Binary64.nearest n d
    | _ => 0
  let micros := whole * 1000000 + fraction
  if negative then ⟨-whole - (if num % den = 0 then 0 else 1), -micros⟩ else ⟨whole, micros⟩

/-- Instants have fewer seconds than this number, `2 ^ 63`, and at least its negative. -/
def secondLimit : Int := 0x8000000000000000

/-- The instant of a number of seconds. -/
def ofNumber : Binary64 → Except TimeFault Instant
  | .nan => .error .nan
  | .infinity _ => .error .tooFar
  | .finite negative m e =>
    let t := ofBinary64 negative m e
    if -secondLimit ≤ t.seconds ∧ t.seconds < secondLimit then .ok t else .error .tooFar

end Instant

/-- A date and a time of day. -/
structure CalendarTime where
  year : Int
  month : Int
  day : Int
  hour : Int
  minute : Int
  second : Int
  deriving DecidableEq, Repr

namespace CalendarTime

/-- The date and time of day at a second. The days are counted from the first of March of the year
0, in eras of 400 years, so that a leap day ends its year. -/
def ofSeconds (t : Int) : CalendarTime :=
  let days := t / 86400 + 719468
  let time := t % 86400
  let era := days / 146097
  let dayOfEra := days % 146097
  let yearOfEra := (dayOfEra - dayOfEra / 1460 + dayOfEra / 36524 - dayOfEra / 146096) / 365
  let dayOfYear := dayOfEra - (365 * yearOfEra + yearOfEra / 4 - yearOfEra / 100)
  let month := (5 * dayOfYear + 2) / 153
  { year := era * 400 + yearOfEra + (if month < 10 then 0 else 1)
    month := if month < 10 then month + 3 else month - 9
    day := dayOfYear - (153 * month + 2) / 5 + 1
    hour := time / 3600
    minute := time % 3600 / 60
    second := time % 60 }

/-- A date and time without its year: month, day, `T`, hour, minute and second in two digits each.
-/
def afterYear (c : CalendarTime) : Text :=
  let two (n : Int) : Text := Text.padded 2 n.toNat
  "-" ++ two c.month ++ "-" ++ two c.day ++ "T" ++ two c.hour ++ ":" ++ two c.minute ++ ":" ++
    two c.second

end CalendarTime

namespace Instant

/-- Signed numbers of 32 bits are below this number, `2 ^ 31`. -/
def signedLimit : Int := 0x80000000

/-- The first year that is too great for a calendar. The years are counted in 32 bits from 1900. -/
def yearLimit : Int := signedLimit + 1900

/-- The date and time at a second, if its year fits into a calendar. -/
def calendarTime (seconds : Int) : Except TimeFault CalendarTime :=
  let c := CalendarTime.ofSeconds seconds
  if yearLimit - 2 * signedLimit ≤ c.year ∧ c.year < yearLimit then .ok c else .error .yearTooLarge

/-- The local date and time to the second, where local time is ahead of universal time by so many
seconds. A year that is written has 32 bits. -/
def toSecondText (zone : Int → Int) (t : Instant) : Except TimeFault Text := do
  let c ← calendarTime (t.seconds + zone t.seconds)
  if c.year < signedLimit then return Text.ofInt c.year ++ c.afterYear else throw .yearNotWritable

/-- The universal date and time with the time zone, to the microsecond where it is no full second. The
year has four digits; one that is out of range is told in 32 bits. -/
def toZonedText (t : Instant) : Except TimeFault Text := do
  let c ← calendarTime (t.microseconds / 1000000)
  let micros := t.microseconds % 1000000
  if 1 ≤ c.year ∧ c.year ≤ 9999 then
    return Text.padded 4 c.year.toNat ++ c.afterYear ++
      (if micros = 0 then [] else Text.ofString "." ++ Text.padded 6 micros.toNat) ++ "+00:00"
  else
    throw (.yearOutOfRange (if c.year < signedLimit then c.year else c.year - 2 * signedLimit))

end Instant

end NameKeys
