import NameKeys.Toml.Entry
import NameKeys.Toml.Lines

/-!
# TOML documents

The table of a document, made line by line. A header says where the entries after it go: to a table,
or to the last table of a list of tables. A table can be opened by one header only, save that a
table which a longer header made on its way can be opened later. Lines that are neither headers nor
entries are passed over.
-/

namespace NameKeys.Toml

/-! ## Places -/

/-- A step from a value to a part of it: to what a key holds, or to the last part. -/
inductive Step where
  | key (key : Text)
  | last
  deriving DecidableEq, Repr

/-- An item with the part changed to which steps lead, and what the change yields. -/
def alterAt {α : Type} (change : Item → Except Fault (Item × α)) :
    List Step → Item → Except Fault (Item × α)
  | [], item => change item
  | .key key :: steps, .table isInline entries => do
    let (sub, a) ← alterAt change steps ((Entries.get? key entries).getD .newTable)
    return (.table isInline (Entries.put key sub entries), a)
  | .last :: steps, .list items => do
    let (item, a) ← alterAt change steps (items.getLastD .newTable)
    return (.list (items.dropLast ++ [item]), a)
  | .last :: steps, .text t => do
    let (_, a) ← alterAt change steps (.text (t.drop (t.length - 1)))
    return (.text t, a)
  | _, _ => .error .malformed

/-! ## Headers -/

/-- The end of a header: two brackets if it is one of a list of tables. -/
def headerEnd (isList : Bool) : Text := if isList then "]]" else "]"

/-- Whether a code point may stand in a name without quotes. -/
def isNamePart (c : CodePoint) : Bool :=
  (0x30 ≤ c.val && c.val ≤ 0x39) || (0x41 ≤ c.val && c.val ≤ 0x5A) ||
  (0x61 ≤ c.val && c.val ≤ 0x7A) || c = CodePoint.ofChar '_' || c = CodePoint.ofChar '-'

/-- The names of a header, given the pieces between its points. `open?` holds the pieces of a name
in quotes that is not closed yet. -/
def headerNames (open? : Option Text) : List Text → Except Fault (List Text)
  | [] => if open?.isNone then .ok [] else .error .malformed
  | piece :: rest =>
    let whole :=
      match open? with
      | some before => before ++ [keyPoint] ++ piece
      | none => Text.strip piece
    let name := Text.strip whole
    if startsQuoted name then
      if name.length ≠ 1 ∧ name.getLast? = name.head? then
        (headerNames none rest).map (Text.inner name :: ·)
      else headerNames (some whole) rest
    else if !name.isEmpty && name.all isNamePart then (headerNames none rest).map (name :: ·)
    else .error .malformed

/-- Whether a line is the header of a list of tables, and the names in it. -/
def readHeader (line : Text) : Except Fault (Bool × List Text) := do
  let bracket := CodePoint.ofChar '['
  let content := line.drop 1
  if content.isEmpty then throw .malformed
  let isList : Bool := content.head? = some bracket
  let content := if isList then content.drop 1 else content
  let ending := headerEnd isList
  let n := 1 + quotedOccurrences ending content
  let pieces := Text.splitAround ending content
  if pieces.length ≤ n ∨ !Text.isBlank (Text.join ending (pieces.drop n)) then throw .malformed
  else
    let names ← headerNames none (Text.splitOn keyPoint (Text.join ending (pieces.take n)))
    return (isList, names)

/-- An item with a table opened in it, the steps to the table, and the names of the tables that were
made on the way to others. -/
structure Opened where
  item : Item
  place : List Step
  made : List Text

/-- Goes on from the last part of an item. -/
def enterLast (go : Item → Except Fault Opened) : Item → Except Fault Opened
  | .list items =>
    match items.getLast? with
    | none => .error .listTooShort
    | some item => do
      let o ← go item
      return { o with item := .list (items.dropLast ++ [o.item]), place := .last :: o.place }
  | .text t =>
    match t.getLast? with
    | none => .error .textTooShort
    | some c => do
      let o ← go (.text [c])
      return { o with item := .text t, place := .last :: o.place }
  | item => .error (.noEntries item)

/-- Opens the table that names lead to from an item. On the way to a list of tables, lists are
entered at once. -/
def openTable (isList : Bool) (made : List Text) : (names : List Text) → Item → Except Fault Opened
  | [], item => .ok ⟨item, [], made⟩
  | name :: names, item => do
    if name.isEmpty then throw .malformed
    let isLast := names.isEmpty
    let fresh : Item := if isLast && isList then .list [.newTable] else .newTable
    let enter (made : List Text) (sub : Item) : Except Fault Opened :=
      match isList, sub with
      | true, .table isInline entries => openTable isList made names (.table isInline entries)
      | true, sub => enterLast (openTable isList made names) sub
      | false, sub => openTable isList made names sub
    let under (isInline : Bool) (entries : Entries Item) (made : List Text) (sub : Item) :
        Except Fault Opened := do
      let o ← enter made sub
      let item : Item := .table isInline (Entries.put name o.item entries)
      return { o with item, place := .key name :: o.place }
    match item with
    | .table isInline entries =>
      match Entries.get? name entries, isLast with
      | none, _ => under isInline entries (if isLast then made else made ++ [name]) fresh
      | some sub, false => under isInline entries made sub
      | some sub, true =>
        if name ∈ made then
          if isList then throw .malformed else under isInline entries (made.erase name) sub
        else if isList then
          match sub with
          | .list items => under isInline entries made (.list (items ++ [.newTable]))
          | sub => throw (.noList sub)
        else throw .malformed
    | item =>
      enterLast (fun part =>
        match part with
        | .table isInline entries =>
          under isInline entries made ((Entries.get? name entries).getD fresh)
        | part => throw (noTable name part)) item

/-! ## Documents -/

/-- A document that is read up to some line: its table, where entries go, the names of the tables
made on the way to others, and the value that is unfinished. -/
structure Document where
  root : Item
  place : List Step
  made : List Text
  unfinished? : Option Unfinished

namespace Document

/-- The document before its first line. -/
def empty : Document := ⟨.newTable, [], [], none⟩

/-- Whether a line ends an unfinished value. -/
def closes (value line : Text) : Except Fault Bool :=
  match value with
  | [] => .error .textTooShort
  | c :: _ =>
    if c = CodePoint.ofChar '[' then
      match line.getLast? with
      | none => .error .textTooShort
      | some last => .ok (last = CodePoint.ofChar ']')
    else .ok (2 < line.length && (line.drop (line.length - 3)).all (· = c))

/-- The document after a line that belongs to an unfinished value. -/
def continueWith (d : Document) (u : Unfinished) (line : Text) : Except Fault Document := do
  let value := u.value ++ line
  if ← closes value line then
    let item ← readItem true value (fuelFor value)
    let (root, _) ← alterAt (fun table => .ok (setKey u.key item table, ())) d.place d.root
    return { d with root, unfinished? := none }
  else return { d with unfinished? := some (continueValue u.key value) }

/-- The document after a line of its own. -/
def readLine (d : Document) (line : Text) : Except Fault Document := do
  if line.head? = some (CodePoint.ofChar '[') then
    let (isList, names) ← readHeader line
    let o ← openTable isList d.made names d.root
    return { d with root := o.item, place := o.place, made := o.made }
  else if line.head? = some (CodePoint.ofChar '\x7b') then
    if line.getLast? ≠ some (CodePoint.ofChar '\x7d') then throw .malformed
    let (root, _) ← alterAt (fun table => do return (← readInline line table (fuelFor line), ()))
      d.place d.root
    return { d with root }
  else if line.contains equalitySign then
    let read (table : Item) := readEntry line table (fuelFor line)
    let (root, unfinished?) ← alterAt read d.place d.root
    return { d with root, unfinished? }
  else return d

def step (d : Document) (line : Text) : Except Fault Document :=
  match d.unfinished? with
  | none =>
    let line := Text.strip line
    if line.isEmpty then .ok d else d.readLine line
  | some u =>
    let line := if u.isJoined ∨ !u.value.contains newline then Text.strip line else line
    if line.isEmpty ∧ u.isJoined then .ok d else d.continueWith u line

end Document

def parse (t : Text) : Except Fault Table := do
  let d ← (← linesOf t).foldlM Document.step .empty
  match d.root with
  | .table _ entries => return Item.toEntries entries
  | _ => throw .malformed

end NameKeys.Toml
