import NameKeys.Toml.Scalar

/-!
# TOML values and entries

Values, and lines that give a key its value. A value is a text whose end is known, so an array is
cut into its items and an inline table into its entries before they are read. The key of an entry
may lead through tables, which are made where they are missing. A string of several lines is opened
by its entry and closed by a later line.
-/

namespace NameKeys.Toml

/-! ## Cutting an entry into key and value -/

/-- The equality sign between a key and its value. -/
def equalitySign : CodePoint := CodePoint.ofChar '='

/-- Whether a text that may hold further equality signs is a value as it stands. -/
def isWholeValue (t : Text) : Except Fault Bool := do
  let opens (c : CodePoint) : Bool :=
    c = CodePoint.ofChar ' ' || c = CodePoint.ofChar '\t' || isQuote c ||
    c = CodePoint.ofChar '[' || c = CodePoint.ofChar '\x7b'
  let plain := Text.strip t
  if t.isEmpty ∨ t.head?.any opens ∨ plain = "true" ∨ plain = "false" ∨
      (Binary64.ofText? t).isSome then return true
  else return (← date? t).isSome || (clock? t).isSome

/-- A key, its value and whether the value may be a number. -/
structure Division where
  key : Text
  value : Text
  isPlain : Bool

/-- Divides a line at its `n`th equality sign, or at a later one if what follows is no whole value.
-/
def divideFrom (line : Text) : (fuel n : Nat) → (value : Text) → (isPlain : Bool) →
    Except Fault Division
  | 0, _, _, _ => .error .malformed
  | fuel + 1, n, value, isPlain => do
    if ← isWholeValue value then return ⟨(Text.splitAtNth [equalitySign] n line).1, value, isPlain⟩
    else
      let next := (Text.splitAtNth [equalitySign] (n + 1) line).2
      if value = next then throw .malformed
      else divideFrom line fuel (n + 1) next (isPlain && isPlainNumber next)

/-- Divides a line at the first equality sign outside of strings. -/
def divide (line : Text) : Except Fault Division := do
  let n := 1 + quotedOccurrences [equalitySign] line
  let value := (Text.splitAtNth [equalitySign] n line).2
  let first :=
    if value.head?.any fun c => c.asciiDigit?.isSome then value.filter (· ≠ underscore) else value
  let d ← divideFrom line (line.length + 2) n first (isPlainNumber value)
  return { d with key := Text.strip d.key, value := Text.strip d.value }

/-- The point between the parts of a key. -/
def keyPoint : CodePoint := CodePoint.ofChar '.'

/-- The parts of a key with points: the strings in it are parts as they stand. -/
def keyParts (key : Text) : List Text :=
  if key.any isQuote then outside (splitQuotes key) else Text.splitOn keyPoint key
where
  /-- The parts of pieces of which the first stands outside of strings. -/
  outside : List Text → List Text
    | [] => []
    | piece :: rest => (Text.splitOn keyPoint piece).map Text.strip ++ inside rest
  /-- The parts of pieces of which the first stands inside a string. -/
  inside : List Text → List Text
    | [] => []
    | piece :: rest => piece :: outside rest

/-- The tables that a key leads through and its last part. -/
def readKey (key : Text) : Except Fault (List Text × Text) :=
  if key.contains keyPoint then
    match (keyParts key).reverse.dropWhile List.isEmpty with
    | [] => .error .listTooShort
    | name :: parents => .ok ((parents.filter fun part => !part.isEmpty).reverse, Text.strip name)
  else
    match key with
    | [] => .error .textTooShort
    | c :: _ =>
      if isQuote c ∧ key.getLast? = some c then (resolveLetters (Text.inner key)).map ([], ·)
      else .ok ([], key)

/-! ## Strings of several lines -/

/-- Whether the text inside brackets begins with a quote. -/
def holdsString (t : Text) : Bool := startsQuoted (Text.strip (Text.inner t))

/-- The last item of a list of texts, given from the end, that begins with a quote, with all that
follows it. -/
def lastString (last : Text) : List Text → Except Fault Text
  | [] => .ok last
  | previous :: before =>
    match last with
    | [] => .error .textTooShort
    | c :: _ =>
      if isQuote c then .ok last
      else lastString (previous ++ [CodePoint.ofChar ','] ++ last) before

/-- Whether a text begins a string of several lines, of which it does not hold the end. -/
def opensLong : Text → Except Fault Bool
  | [] => .error .textTooShort
  | c :: rest =>
    if !isQuote c then .ok false
    else
      match rest with
      | [] => .error .textTooShort
      | d :: rest' =>
        if d ≠ c then .ok false
        else
          match rest' with
          | [] => .error .textTooShort
          | e :: _ =>
            .ok (e = c && !(5 < rest.length + 1 && (rest.drop (rest.length - 3)).all (· = c)))

/-- Whether a value, or the last string of an array that is still open, goes on in the next line. -/
def isUnfinished (value : Text) : Except Fault Bool :=
  match value with
  | c :: _ :: _ :: _ =>
    if c = CodePoint.ofChar '[' ∧ value.getLast? ≠ some (CodePoint.ofChar ']') ∧
        holdsString value then
      match (Text.splitOn ',' (Text.strip (value.drop 1))).reverse with
      | last :: before => do opensLong (← lastString last before)
      | [] => .ok false
    else opensLong value
  | _ => .ok false

/-- A key whose value goes on in the next line, and the value so far. With `isJoined` the line goes
on without a line end. -/
structure Unfinished where
  key : Text
  value : Text
  isJoined : Bool

/-- A value so far, at the end of a line: a backslash there joins the next line to it. -/
def continueValue (key value : Text) : Unfinished :=
  if endsEscaping value then ⟨key, value.dropLast, true⟩ else ⟨key, value ++ "\n", false⟩

/-! ## Cutting arrays and inline tables -/

/-- Whether a text is empty or ends in the quote it begins with. -/
def isBounded (t : Text) : Bool :=
  match t with
  | [] => true
  | c :: rest => (c :: rest).getLast? = some c && !endsEscaping rest.dropLast

/-- Whether a piece of an array of strings is a string of its own. -/
def isWholeString (t : Text) : Bool :=
  let t := Text.strip t
  let beginsLong :=
    match t with
    | a :: b :: c :: _ =>
      let fromEnd := t.reverse
      a = b && a = c && fromEnd[1]? ≠ some a && fromEnd[2]? ≠ some a
    | _ => false
  isBounded t && !beginsLong

/-- A piece of an array of strings with as many of the following pieces as make it a string. -/
def joinString (piece : Text) : List Text → Except Fault (Text × List Text)
  | [] => if isWholeString piece then .ok (piece, []) else .error .listTooShort
  | next :: rest =>
    if isWholeString piece then .ok (piece, next :: rest)
    else joinString (piece ++ [CodePoint.ofChar ','] ++ next) rest

/-- Joining takes pieces away. -/
theorem length_joinString {piece joined : Text} {rest after : List Text}
    (h : joinString piece rest = .ok (joined, after)) : after.length ≤ rest.length := by
  induction rest generalizing piece with
  | nil =>
    unfold joinString at h
    split at h
    · cases h
      exact Nat.le_refl _
    · cases h
  | cons next rest ih =>
    unfold joinString at h
    split at h
    · cases h
      exact Nat.le_refl _
    · exact Nat.le_trans (ih h) (Nat.le_succ _)

/-- The pieces of an array of strings with those joined that a comma inside a string divided. The
last piece is taken as it is. -/
def joinStrings (pieces : List Text) : Except Fault (List Text) :=
  match pieces with
  | piece :: next :: rest =>
    match h : joinString piece (next :: rest) with
    | .error fault => .error fault
    | .ok (joined, after) => do
      have : after.length < rest.length + 2 := Nat.lt_add_one_of_le (length_joinString h)
      return joined :: (← joinStrings after)
  | pieces => .ok pieces
termination_by pieces.length

/-- Where in an array of inline tables the reading is. -/
inductive TablePlace where
  | inside
  | behind
  | between

/-- The inline tables of an array, given the text inside the brackets from the first one on. `taken`
is what is read of the table, from its end, `depth` counts open braces. -/
def cutTables (place : TablePlace) (taken : Text) (depth : Nat) (inString : Bool) :
    Text → List Text
  | [] => []
  | c :: rest =>
    let brace := CodePoint.ofChar '\x7b'
    match place with
    | .behind => cutTables .between [] depth false rest
    | .between =>
      if c = brace then cutTables .inside [c] depth false rest
      else cutTables .between [] depth false rest
    | .inside =>
      let inString :=
        if isQuote c then !inString || (taken.takeWhile (· = backslash)).length % 2 = 1
        else inString
      let depth := if !inString && c = brace then depth + 1 else depth
      if inString || c ≠ CodePoint.ofChar '\x7d' then
        cutTables .inside (c :: taken) depth inString rest
      else if 1 < depth then cutTables .inside (c :: taken) (depth - 1) inString rest
      else (c :: taken).reverse :: cutTables .behind [] depth inString rest

/-- The items of an array that has arrays among them: commas inside brackets do not divide. -/
def cutArrays (depth : Int) (taken : Text) : Text → List Text
  | [] => [taken.reverse]
  | c :: rest =>
    if c = CodePoint.ofChar ',' ∧ depth = 0 then taken.reverse :: cutArrays depth [] rest
    else
      let depth :=
        if c = CodePoint.ofChar '[' then depth + 1
        else if c = CodePoint.ofChar ']' then depth - 1 else depth
      cutArrays depth (c :: taken) rest

/-- The items of an array that is given with its brackets. -/
def arrayItems (t : Text) : Except Fault (List Text) :=
  let t := Text.strip t
  let content := Text.inner t
  let (before, bracket?) := Text.cutAt '[' content
  if bracket?.isSome ∧ Text.isBlank before then .ok (cutArrays 0 [] content)
  else
    let pieces : Except Fault (List Text) :=
      if (Text.strip content).head? ≠ some (CodePoint.ofChar '\x7b') then
        .ok (Text.splitOn ',' content)
      else
        match content with
        | [] => .ok []
        | c :: rest =>
          .ok (cutTables .inside [c] (if c = CodePoint.ofChar '\x7b' then 1 else 0) false rest)
    if holdsString t then pieces.bind joinStrings else pieces

/-- Whether the value of an inline entry is complete, so that the next comma divides. -/
def isWholeEntry (entry : Text) : Except Fault Bool :=
  match Text.cutAt equalitySign entry with
  | (_, none) => .error .malformed
  | (_, some value) =>
    let value := Text.strip value
    match value with
    | [] => .error .textTooShort
    | c :: _ =>
      let closes (last : Char) : Bool := value.getLast? = some (CodePoint.ofChar last)
      .ok ((isQuote c && value.getLast? = some c) || c = CodePoint.ofChar '-' ||
        c.asciiDigit?.isSome || value = "true" || value = "false" ||
        (c = CodePoint.ofChar '[' && closes ']') || (c = CodePoint.ofChar '\x7b' && closes '\x7d'))

/-- The entries of an inline table, given the pieces between its commas; `piece` is the next one. -/
def joinEntries (piece : Text) : List Text → Except Fault (List Text)
  | [] => do if ← isWholeEntry piece then return [piece] else throw .malformed
  | next :: rest => do
    if ← isWholeEntry piece then return piece :: (← joinEntries next rest)
    else joinEntries (piece ++ [CodePoint.ofChar ','] ++ next) rest

/-- The entries of an inline table that is given with its braces. -/
def inlineEntries (t : Text) : Except Fault (List Text) :=
  match Text.splitOn ',' (Text.inner t) with
  | [] => .ok []
  | [piece] => if Text.isBlank piece then .ok [] else joinEntries piece []
  | piece :: rest => joinEntries piece rest

/-! ## Setting keys -/

/-- The fault of leading a key through an item that is no table. -/
def noTable (key : Text) : Item → Fault
  | .list _ => .keyOfList
  | .text t => if Text.occursIn key t then .keyOfText else .noAssignment (.text t)
  | item => .noKeys item

/-- An item with the table changed to which a path leads, and what the change yields. Tables on the
way are made. -/
def alterBelow {α : Type} (change : Item → Except Fault (Item × α)) :
    (path : List Text) → Item → Except Fault (Item × α)
  | [], item => change item
  | key :: path, .table isInline entries => do
    let (sub, a) ← alterBelow change path ((Entries.get? key entries).getD .newTable)
    return (.table isInline (Entries.put key sub entries), a)
  | key :: _, item => .error (noTable key item)

/-- Whether an item is a table that has no such key. -/
def isFree (key : Text) : Item → Bool
  | .table _ entries => (Entries.get? key entries).isNone
  | _ => false

def setKey (key : Text) (value : Item) : Item → Item
  | .table isInline entries => .table isInline (Entries.put key value entries)
  | item => item

/-! ## Reading -/

/-- The kind in which the items of an array agree. -/
def arrayKind : Item → Text
  | .moment .dateTime => Moment.date.typeName
  | item => item.typeName

/-- The items of an array read one by one; all have to be of the first one's kind. Pieces that are
blank are skipped. -/
def readItems (read : Text → Except Fault Item) (kind? : Option Text) :
    List Text → Except Fault (List Item)
  | [] => .ok []
  | piece :: rest =>
    let piece := Text.strip piece
    if piece.isEmpty then readItems read kind? rest
    else do
      let item ← read piece
      if kind?.any (· ≠ arrayKind item) then throw .malformed
      return item :: (← readItems read (some (arrayKind item)) rest)

/-- Entries read into a table one after another, up to one that is unfinished. -/
def readEntries (read : Text → Item → Except Fault (Item × Option Unfinished)) :
    List Text → Item → Except Fault Item
  | [], table => .ok table
  | entry :: rest, table => do
    match ← read entry table with
    | (table, none) => readEntries read rest table
    | (table, some _) => return table

mutual

/-- The item that a text without blanks around it denotes. -/
def readItem (isPlain : Bool) (t : Text) : (fuel : Nat) → Except Fault Item
  | 0 => .error .malformed
  | fuel + 1 =>
    match t with
    | [] => .error .malformed
    | c :: rest =>
      if isQuote c then (readString c rest).map .text
      else if c = CodePoint.ofChar '[' then do
        return .list (← readItems (fun piece => readItem true piece fuel) none (← arrayItems t))
      else if c = CodePoint.ofChar '\x7b' then readInline t (.table true []) fuel
      else readScalar isPlain t

/-- An item with the entries of an inline table set in it. -/
def readInline (t : Text) (item : Item) : (fuel : Nat) → Except Fault Item
  | 0 => .error .malformed
  | fuel + 1 => do
    readEntries (fun entry item => readEntry entry item fuel) (← inlineEntries t) item

/-- An item with the key of an entry set in it, and the entry's value if it is unfinished. -/
def readEntry (line : Text) (item : Item) : (fuel : Nat) →
    Except Fault (Item × Option Unfinished)
  | 0 => .error .malformed
  | fuel + 1 => do
    let d ← divide line
    let (path, key) ← readKey d.key
    alterBelow (fun table => do
      if ← isUnfinished d.value then
        if !isFree key table then throw .malformed
        if key.isEmpty then throw .unnamedLongValue
        return (table, some (continueValue key d.value))
      else
        let value ← readItem d.isPlain d.value fuel
        if !isFree key table then throw .malformed
        return (setKey key value table, none)) path item

end

/-- Fuel for all items inside a text: every bracket or brace that is opened takes three steps. -/
def fuelFor (t : Text) : Nat := 3 * t.length + 8

end NameKeys.Toml
