import NameKeys.Toml.Quoted

/-!
# TOML scalars

Truth values, numbers, dates and times. A number has at most one sign in front that is its own,
digits with underscores between them, and no leading zero. Integers may be in base 16, 8 or 2.
-/

namespace NameKeys.Toml

/-! ## Dates and times -/

/-- The numbers of two digits each at the beginning of a text, with colons between them. -/
def clock? : Text → Option (Nat × Nat × Nat)
  | a :: b :: c :: d :: e :: f :: g :: h :: _ =>
    let colon := CodePoint.ofChar ':'
    let two (tens ones : CodePoint) : Option Nat := do
      return 10 * (← tens.asciiDigit?) + (← ones.asciiDigit?)
    if c = colon ∧ f = colon then
      match two a b, two d e, two g h with
      | some hour, some minute, some second => some (hour, minute, second)
      | _, _, _ => none
    else none
  | _ => none

/-- The integer between two places of a text. -/
def integerAt? (start stop : Nat) (t : Text) : Option Int := Text.toInt? ((t.take stop).drop start)

def daysInMonth (year month : Int) : Int :=
  if month = 2 then
    if year % 4 = 0 ∧ (year % 100 ≠ 0 ∨ year % 400 = 0) then 29 else 28
  else if month = 4 ∨ month = 6 ∨ month = 9 ∨ month = 11 then 30 else 31

/-- Whether there is a day with this date. -/
def isDate (year month day : Int) : Bool :=
  1 ≤ year && year ≤ 9999 && 1 ≤ month && month ≤ 12 && 1 ≤ day && day ≤ daysInMonth year month

/-- Whether there is a time of day with these parts. -/
def isTimeOfDay (hour minute second : Int) : Bool :=
  0 ≤ hour && hour ≤ 23 && 0 ≤ minute && minute ≤ 59 && 0 ≤ second && second ≤ 59

/-- The microseconds of a date's fraction of a second, given what follows the seconds. What cannot
be read counts for nothing, and so does the fraction where the time zone after it cannot be read. -/
def microseconds (t : Text) : Except Fault Int :=
  let plus := CodePoint.ofChar '+'
  let minus := CodePoint.ofChar '-'
  let zone? (zone : Text) : Bool := (integerAt? 1 3 zone).isSome && (integerAt? 4 6 zone).isSome
  let number (digits : Text) : Except Fault Int :=
    match Text.toInt? digits with
    | none => .ok 0
    | some n =>
      if digits.length ≤ 6 then .ok (n * (Nat.pow 10 (6 - digits.length) : Nat))
      else
        match Binary64.ofInt n with
        | .infinity _ => .error .fractionTooLong
        | _ => .ok (Int.tdiv (n * 1000000) (Nat.pow 10 digits.length : Nat))
  match t with
  | [] => .ok 0
  | c :: rest =>
    if c ≠ CodePoint.ofChar '.' then .ok 0
    else if Text.upper (rest.drop (rest.length - 1)) = "Z" then number rest.dropLast
    else
      let sign? :=
        if rest.contains plus then some plus else if rest.contains minus then some minus else none
      match sign? with
      | none => number rest
      | some sign =>
        let digits := rest.takeWhile (· ≠ sign)
        if zone? (rest.drop digits.length) then number digits else .ok 0

/-- The kind of a date, with or without a time of day, if a text is one. -/
def date? (t : Text) : Except Fault (Option Moment) := do
  let micros ← microseconds (t.drop 19)
  if !(t.drop 1).contains (CodePoint.ofChar '-') then return none
  match integerAt? 0 4 t, integerAt? 5 7 t, integerAt? 8 10 t with
  | some year, some month, some day =>
    if !isDate year month day then return none
    else if t.length = 10 then return some .date
    else
      match integerAt? 11 13 t, integerAt? 14 16 t, integerAt? 17 19 t with
      | some hour, some minute, some second =>
        if isTimeOfDay hour minute second ∧ 0 ≤ micros ∧ micros < 1000000 then
          return some .dateTime
        else return none
      | _, _, _ => return none
  | _, _, _ => return none

/-! ## Numbers -/

def underscore : CodePoint := CodePoint.ofChar '_'

/-- Whether underscores and leading zeros of a number are in order. -/
def isPlainNumber (t : Text) : Bool :=
  let zero := CodePoint.ofChar '0'
  let point := CodePoint.ofChar '.'
  match Text.strip t with
  | [] => false
  | [c] => c ≠ underscore
  | c :: d :: rest =>
    let n := c :: d :: rest
    let isSigned := c = CodePoint.ofChar '+' ∨ c = CodePoint.ofChar '-'
    let size := if isSigned then d :: rest else n
    c ≠ underscore && n.getLast? ≠ some underscore &&
    !Text.occursIn [underscore, point] n && !Text.occursIn [point, underscore] n &&
    !(c = zero && !(d = point || d = CodePoint.ofChar 'o' || d = CodePoint.ofChar 'b' ||
      d = CodePoint.ofChar 'x')) &&
    !(isSigned && d = zero && !rest.isEmpty && rest.head? ≠ some point) &&
    !Text.occursIn [underscore, underscore] size

def basedDigits? (base : Nat) (t : Text) : Option Nat :=
  match t.mapM fun c => c.hexDigit?.filter (· < base) with
  | none | some [] => none
  | some digits => some (digits.foldl (fun n d => base * n + d) 0)

/-- The value of an integer's digits: a zero and a letter announce a base other than ten, and only
zero begins with a zero otherwise. -/
def wholeNumber? (t : Text) : Option Nat :=
  let decimal (digits : List Nat) : Option Nat :=
    if digits.isEmpty || maxDigits < digits.length then none else some (ofDecimalDigits digits)
  let zero := CodePoint.ofChar '0'
  match t with
  | c :: d :: rest =>
    let letter := Text.foldAsciiCase [d]
    if c = zero ∧ letter = "x" then basedDigits? 16 rest
    else if c = zero ∧ letter = "o" then basedDigits? 8 rest
    else if c = zero ∧ letter = "b" then basedDigits? 2 rest
    else
      match t.mapM CodePoint.asciiDigit?, decide (c = zero) with
      | some digits, false => decimal digits
      | some digits, true => (decimal digits).filter (· = 0)
      | none, _ => none
  | _ => (t.mapM CodePoint.asciiDigit?).bind decimal

/-- The integer that a text denotes, without underscores. -/
def integer? (t : Text) : Option Int :=
  let (negative, size) := Text.spanSign ((Text.stripNumeral t).map CodePoint.withAsciiDigit)
  (wholeNumber? size).map fun n => if negative then -(n : Int) else n

/-- The floating-point number of a text that begins with a digit, and does not end in its first
point. -/
def decimal? (t : Text) : Option Binary64 :=
  match t, Text.cutAt '.' t with
  | c :: _, (_, fraction?) =>
    if c.asciiDigit?.isSome ∧ fraction? ≠ some [] then Binary64.ofText? t else none
  | [], _ => none

def number? (t : Text) : Option Item :=
  let minus := t.head? = some (CodePoint.ofChar '-')
  let size := (Text.spanSign t).2.filter (· ≠ underscore)
  let name := Text.lower size
  let float (x? : Option Binary64) : Option Item :=
    x?.map fun x => .float (if minus then x.negated else x)
  if size.contains (CodePoint.ofChar '.') ∨ (!size.contains (CodePoint.ofChar 'x') ∧
      (size.contains (CodePoint.ofChar 'e') ∨ size.contains (CodePoint.ofChar 'E'))) then
    float (decimal? size)
  else if name = "inf" ∨ name = "nan" then float (Binary64.ofText? size)
  else (integer? size).map fun n => .int (if minus then -n else n)

/-- A truth value. Its name in another case is none. -/
def truth? (t : Text) : Option (Except Fault Item) :=
  if t = "true" then some (.ok (.bool true))
  else if t = "false" then some (.ok (.bool false))
  else if Text.lower t = "true" ∨ Text.lower t = "false" then some (.error .malformed)
  else none

/-- The value of a text that is neither a string nor an array nor an inline table. Where `isPlain`
does not hold, the text is no number. -/
def readScalar (isPlain : Bool) (t : Text) : Except Fault Item := do
  match truth? t, clock? t with
  | some truth, _ => truth
  | none, some (hour, minute, second) =>
    if isTimeOfDay hour minute second then return .moment .timeOfDay else throw .malformed
  | none, none =>
    match ← date? t with
    | some moment => return .moment moment
    | none =>
      match if isPlain then number? t else none with
      | some value => return value
      | none => throw .malformed

end NameKeys.Toml
