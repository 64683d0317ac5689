import NameKeys.Toml.Quoted
import NameKeys.Unicode.Alphanumeric

/-!
# Lines of TOML documents

A document is read from its first code point to its last before anything is made of it. This blanks
out comments and the line ends inside arrays, and it finds the lines whose key is malformed and the
strings that are not closed. What is left falls into lines that can be read one after another.

Quotes are counted by what stands directly before them, and the end of the document counts as
standing before its beginning.
-/

namespace NameKeys.Toml

def newline : CodePoint := CodePoint.ofChar '\n'

/-- The space that takes the place of what is blanked out. -/
def space : CodePoint := CodePoint.ofChar ' '

/-- The kind of header that is open. -/
inductive Header where
  | none
  | table
  | listOfTables
  deriving DecidableEq, Repr

/-- Where in a key the reading is. -/
inductive KeyPlace where
  | outside
  | within
  | behind
  deriving DecidableEq, Repr

/-- What is open where the reading is. `quote?` is the quote of an open string; `isLong` says that a
string of several lines is open, `hasPoint` that the key has a point. -/
structure LineState where
  quote? : Option CodePoint := none
  isLong : Bool := false
  inComment : Bool := false
  atStart : Bool := true
  header : Header := .none
  brackets : Int := 0
  key : KeyPlace := .outside
  hasPoint : Bool := false
  deriving DecidableEq, Repr

namespace LineState

/-- Whether neither a string nor a header is open. -/
def isFree (s : LineState) : Bool := s.quote?.isNone && s.header = .none

/-- The state where blanks end a part of a key: after a point the next part may follow them. -/
def afterBlank (s : LineState) : Text → Except Fault LineState
  | [] => if s.hasPoint then .error .listTooShort else .ok s
  | next :: _ =>
    if s.hasPoint ∧ !next.isBlank ∧ next ≠ CodePoint.ofChar '.' then .ok { s with key := .within }
    else .ok s

/-- The state after a code point of a key, or nothing if the code point is to be read like any other
because the key ends there. -/
def stepKey (s : LineState) (behind : Text) (c : CodePoint) (rest : Text) :
    Except Fault (Option LineState) :=
  let point := CodePoint.ofChar '.'
  if c = newline then .error .malformed
  else
    match s.quote?, s.key with
    | some quote, _ =>
      if c = quote ∧ !followsEscape behind then .ok (some { s with quote? := none, key := .behind })
      else .ok (some s)
    | none, .within =>
      if c.isBlank then .ok (some { s with key := .behind })
      else if c = point then .ok (some { s with hasPoint := true })
      else if Unicode.isAlphanumeric c.val ∨ c = CodePoint.ofChar '_' ∨
          c = CodePoint.ofChar '-' then
        .ok (some s)
      else if s.hasPoint ∧ behind.head? = some point ∧ isQuote c then
        .ok (some { s with quote? := some c })
      else endKey c
    | none, _ =>
      if c.isBlank then (s.afterBlank rest).map some
      else if c = point then (({ s with hasPoint := true }).afterBlank rest).map some
      else endKey c
where
  /-- Only an equality sign ends a key. -/
  endKey (c : CodePoint) : Except Fault (Option LineState) :=
    if c = CodePoint.ofChar '=' then .ok none else .error .malformed

/-- The state after a quote, given what stands before it. Two of the same quote before it make it
the third of a long string; a single quote is turned by one such quote as well, and a double quote
that is escaped does not count. -/
def stepQuote (s : LineState) (behind : Text) (c : CodePoint) : LineState :=
  let before := min 2 (behind.takeWhile (· = c)).length
  let isEscaped : Bool :=
    c = doubleQuote && before ≠ 1 && followsEscape (behind.drop before)
  let isOpen : Bool := if before = 2 then !s.isLong else s.quote?.isNone
  if isEscaped then s
  else
    { s with
      isLong := if before = 2 then isOpen else s.isLong
      quote? := if isOpen then some c else none }

def stepBracket (s : LineState) (previous? : Option CodePoint) (c : CodePoint) (rest : Text) :
    LineState :=
  let opening := CodePoint.ofChar '['
  let closing := CodePoint.ofChar ']'
  if c = opening ∧ s.isFree then
    if !s.atStart then { s with brackets := s.brackets + 1 }
    else if rest.head? = some opening then { s with header := .listOfTables }
    else { s with header := .table }
  else if c = closing ∧ s.quote?.isNone then
    match s.header with
    | .none => { s with brackets := s.brackets - 1 }
    | .table => { s with header := .none }
    | .listOfTables => if previous? = some closing then { s with header := .none } else s
  else s

/-- What stands in place of a line end, in front of what stands before it. Inside a long string, the
line end after two of the same quote gives way to a third. -/
def stepNewline (s : LineState) (behind : Text) : Except Fault (LineState × Text) :=
  if s.quote?.isSome ∨ s.isLong then
    if !s.isLong then .error .malformed
    else
      match behind with
      | a :: b :: before =>
        if isQuote a ∧ a = b then
          match before with
          | d :: before => .ok (s, a :: a :: b :: (if d = a then space else d) :: before)
          | [] => .ok (s, [a, a, b])
        else .ok (s, newline :: behind)
      | _ => .ok (s, newline :: behind)
  else if s.brackets ≠ 0 then .ok (s, space :: behind)
  else .ok ({ s with atStart := true }, newline :: behind)

/-- The state after the first code point of a line that is no space: it begins a key or a header. -/
def stepStart (s : LineState) (c : CodePoint) : Except Fault LineState :=
  if !s.atStart ∨ c = space ∨ c = CodePoint.ofChar '\t' then .ok s
  else if s.header ≠ .none then .ok { s with atStart := false }
  else if c = CodePoint.ofChar '=' then .error .malformed
  else .ok { s with atStart := false, key := .within }

/-- The state after a code point that belongs to no key, and what stands before the next one. -/
def stepOther (s : LineState) (behind : Text) (c : CodePoint) (rest : Text) :
    Except Fault (LineState × Text) := do
  let counts : Bool := isQuote c && s.quote?.all (· = c)
  let s := if counts then s.stepQuote behind c else s
  if c = CodePoint.ofChar '#' ∧ s.isFree then return ({ s with inComment := true }, space :: behind)
  let s := s.stepBracket behind.head? c rest
  if c = newline then s.stepNewline behind
  else return (← s.stepStart c, c :: behind)

/-- The state after a code point, and what stands before the next one. -/
def step (s : LineState) (behind : Text) (c : CodePoint) (rest : Text) :
    Except Fault (LineState × Text) := do
  if s.inComment ∧ c ≠ newline then return (s, space :: behind)
  let s := { s with inComment := false }
  let isReturn : Bool := c = CodePoint.ofChar '\r'
  if isReturn ∧ rest.isEmpty then throw .listTooShort
  if isReturn ∧ rest.head? = some newline then return (s, space :: behind)
  if s.key = .outside then s.stepOther behind c rest
  else
    match ← s.stepKey behind c rest with
    | some s => return (s, c :: behind)
    | none => ({ s with key := .outside, hasPoint := false }).stepOther behind c rest

end LineState

/-- The code points before the end of a text in reverse order, once the rest of the text is read. -/
def readLines (s : LineState) (behind : Text) : Text → Except Fault Text
  | [] => if s.key = .outside ∧ s.quote?.isNone then .ok behind else .error .malformed
  | c :: rest => do
    let (s, behind) ← s.step behind c rest
    readLines s behind rest

def linesOf (t : Text) : Except Fault (List Text) := do
  let behind ← readLines {} t.reverse t
  return Text.splitOn newline (behind.take t.length).reverse

end NameKeys.Toml
