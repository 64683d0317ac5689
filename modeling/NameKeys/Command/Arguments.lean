import NameKeys.Command.Grammar
import NameKeys.Text.Integer

/-!
# Arguments

An argument list is read in two passes. The first marks each argument: a switch, something that
looks like a switch and is none, or a word. All arguments after a double dash are words. The second
goes through the marked arguments from the left, gives switches their values and fills the slots.
-/

namespace NameKeys

/-- What a switch's own argument holds besides the switch: nothing, a text behind the letter of the
switch, with or without an equality sign between, or a text after a longer spelling and an equality
sign. -/
inductive Attached where
  | nothing
  | joined (text : Text)
  | equated (text : Text)
  deriving DecidableEq, Repr

/-- What an argument is. -/
inductive Mark where
  | word
  | separator
  | unknown
  | switch (switch : Switch) (attached : Attached)
  deriving DecidableEq, Repr

/-- An argument and what it is. -/
structure Argument where
  text : Text
  mark : Mark
  deriving DecidableEq, Repr

/-- Why reading a command line ends: help is asked for, or the command line is wrong. -/
inductive Stop where
  | help (grammar : Grammar)
  | misuse (grammar : Grammar) (error : UsageError)

/-- The dash that switches start with. -/
def dash : CodePoint := CodePoint.ofChar '-'

/-- The double dash after which there are no switches. -/
def doubleDash : Text := [dash, dash]

namespace Mark

/-- Whether a text is a negative number: digits, or a point with digits after it and possibly before
it. A line feed may follow. -/
def isNegativeNumber (t : Text) : Bool :=
  let isDigit (c : CodePoint) : Bool := c.decimalDigit?.isSome
  let isNumber (t : Text) : Bool :=
    match Text.cutAt '.' t with
    | (whole, none) => !whole.isEmpty && whole.all isDigit
    | (whole, some fraction) =>
      whole.all isDigit && !fraction.isEmpty && fraction.all isDigit
  match t with
  | [] => false
  | c :: rest =>
    c = dash &&
      isNumber (if rest.getLast? = some (CodePoint.ofChar '\n') then rest.dropLast else rest)

/-- The switches that an argument can stand for without being one's spelling: those with a spelling
that it begins, or the one with its first letter. -/
def abbreviated (g : Grammar) : Text → List (Text × Mark)
  | a :: b :: rest =>
    if b = dash then
      let (name, value?) := Text.cutAt '=' (a :: b :: rest)
      let attached : Attached := match value? with | some v => .equated v | none => .nothing
      (g.spellings.filter fun spelling => name.isPrefixOf spelling.1).map fun (spelling, s) =>
        (spelling, switch s attached)
    else
      (g.spellings.filter fun spelling => spelling.1 = [a, b]).map fun (spelling, s) =>
        (spelling, switch s (.joined rest))
  | _ => []

/-- The mark of an argument that starts with a dash and is no spelling of a switch. -/
def ofDashed (g : Grammar) (argument : Text) : Except UsageError Mark :=
  match abbreviated g argument with
  | [(_, mark)] => .ok mark
  | [] =>
    if isNegativeNumber argument || argument.contains (CodePoint.ofChar ' ') then .ok word
    else .ok unknown
  | several => .error (.ambiguous argument (several.map (·.1)))

/-- The mark of an argument that stands before any double dash. -/
def of (g : Grammar) (argument : Text) : Except UsageError Mark :=
  if argument.head? ≠ some dash then .ok word
  else
    match List.lookup argument g.spellings with
    | some s => .ok (switch s .nothing)
    | none =>
      if argument.length = 1 then .ok word
      else
        match Text.cutAt '=' argument with
        | (name, some value) =>
          match List.lookup name g.spellings with
          | some s => .ok (switch s (if name.length = 2 then .joined value else .equated value))
          | none => ofDashed g argument
        | (_, none) => ofDashed g argument

end Mark

namespace Argument

/-- Whether an argument is the double dash. -/
def isSeparator (a : Argument) : Bool := a.mark = .separator

/-- Whether an argument is a word or the double dash. -/
def isPlain (a : Argument) : Bool := a.mark = .word ∨ a.mark = .separator

def markAll (g : Grammar) : List Text → Except UsageError (List Argument)
  | [] => .ok []
  | text :: rest =>
    if text = doubleDash then .ok (⟨text, .separator⟩ :: rest.map (⟨·, .word⟩))
    else do
      let mark ← Mark.of g text
      return ⟨text, mark⟩ :: (← markAll g rest)

end Argument

namespace Switch

/-- The value of a switch that takes one, and the arguments after it: the value is attached to the
switch or is the next word. A double dash that is attached divides and leaves no value. -/
def value (s : Switch) (rest : List Argument) :
    Attached → Except UsageError (Option Text × List Argument)
  | .joined v | .equated v => .ok (if v = doubleDash then none else some v, rest)
  | .nothing =>
    match rest with
    | ⟨v, .word⟩ :: rest => .ok (some v, rest)
    | _ => .error (.missingValue s)

/-- A value takes none of the arguments after the switch, or the first of them. -/
theorem length_value {s : Switch} {rest after : List Argument} {attached : Attached}
    {v : Option Text} (h : s.value rest attached = .ok (v, after)) :
    after.length ≤ rest.length := by
  unfold value at h
  split at h
  · cases h
    exact Nat.le_refl _
  · cases h
    exact Nat.le_refl _
  · split at h
    · cases h
      exact Nat.le_succ _
    · cases h

/-- Whether the letters joined to a switch without a value are in order. They are further switches,
up to one that takes a value. -/
def checkLetters (g : Grammar) (s : Switch) (rest : List Argument) : Text → Except UsageError Unit
  | [] => .error (.ignoredValue s [])
  | c :: letters =>
    match List.lookup [dash, c] g.spellings with
    | none => .error (.ignoredValue s (c :: letters))
    | some next =>
      if next.takesValue then
        (next.value rest (if letters.isEmpty then .nothing else .joined letters)).map fun _ => ()
      else if letters.isEmpty then .ok () else checkLetters g next rest letters

/-- Whether what is attached to a switch without a value is in order. -/
def checkAttached (g : Grammar) (s : Switch) (rest : List Argument) :
    Attached → Except UsageError Unit
  | .nothing => .ok ()
  | .joined letters => checkLetters g s rest letters
  | .equated v => .error (.ignoredValue s v)

end Switch

namespace Slot

/-- Whether a slot that holds a word goes on to take an argument. -/
def continues : Slot → Argument → Bool
  | one _, a => a.isSeparator
  | many _, a => a.isPlain
  | command _, _ => true

/-- The arguments that a slot takes, and the others: a word, with a double dash before it, and all
that the slot goes on to take. -/
def take? (slot : Slot) (arguments : List Argument) : Option (List Argument × List Argument) :=
  let before := arguments.takeWhile (·.isSeparator)
  match arguments.dropWhile (·.isSeparator) with
  | [] => none
  | a :: rest =>
    if a.isPlain then
      some (before ++ a :: rest.takeWhile slot.continues, rest.dropWhile slot.continues)
    else none

/-- What fills a slot that took some arguments. The first double dash only divides; the command gets
all that is its own. -/
def filling (slot : Slot) (arguments : List Argument) : List Text :=
  match slot with
  | command _ => arguments.map (·.text)
  | one _ | many _ => (arguments.map (·.text)).erase doubleDash

/-- A slot leaves fewer arguments than there were. -/
theorem length_take? {slot : Slot} {arguments taken rest : List Argument}
    (h : slot.take? arguments = some (taken, rest)) : rest.length < arguments.length := by
  unfold take? at h
  have hdrop : (arguments.dropWhile (·.isSeparator)).length ≤ arguments.length :=
    (List.dropWhile_suffix _).length_le
  split at h
  · cases h
  · rename_i a others heq
    rw [heq] at hdrop
    split at h
    · cases h
      have := (List.dropWhile_suffix (l := others) slot.continues).length_le
      simp only [List.length_cons] at hdrop
      omega
    · cases h

end Slot

/-- What a command line holds: its switches with their values, if they are given any, what fills its
slots, the slots that are left, and the arguments that have no place. -/
structure Arguments where
  values : List (Switch × Option Text)
  filled : List (List Text)
  missing : List Slot
  extra : List Text

namespace Arguments

/-- Goes through marked arguments with some slots to fill. -/
def scan (g : Grammar) (slots : List Slot) (arguments : List Argument) : Except Stop Arguments :=
  match arguments with
  | [] => .ok ⟨[], [], slots, []⟩
  | ⟨text, .unknown⟩ :: rest => do
    let others ← scan g slots rest
    return { others with extra := text :: others.extra }
  | ⟨_, .switch s attached⟩ :: rest =>
    if s.takesValue then
      match h : s.value rest attached with
      | .error error => .error (.misuse g error)
      | .ok (value, after) => do
        have := Switch.length_value h
        let others ← scan g slots after
        return { others with values := (s, value) :: others.values }
    else
      match s.checkAttached g rest attached with
      | .error error => .error (.misuse g error)
      | .ok () => .error (.help g)
  | a :: rest =>
    match slots with
    | [] => do
      let others ← scan g [] rest
      return { others with extra := a.text :: others.extra }
    | slot :: slots =>
      match h : slot.take? (a :: rest) with
      | none => do
        let others ← scan g (slot :: slots) rest
        return { others with extra := a.text :: others.extra }
      | some (taken, after) => do
        have : after.length < rest.length + 1 := Slot.length_take? h
        let others ← scan g slots after
        return { others with filled := slot.filling taken :: others.filled }
termination_by arguments.length

/-- The arguments of a grammar that some texts are. Every slot has to be filled. -/
def read (g : Grammar) (texts : List Text) : Except Stop Arguments := do
  let marked ← (Argument.markAll g texts).mapError (.misuse g)
  let arguments ← scan g g.slots marked
  if arguments.missing.isEmpty then return arguments
  else throw (.misuse g (.missing (arguments.missing.map (·.label))))

end Arguments

end NameKeys
