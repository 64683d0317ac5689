import NameKeys.Text.Basic
import NameKeys.Unicode.Cased
import NameKeys.Unicode.CaseFolding
import NameKeys.Unicode.Lowercase
import NameKeys.Unicode.Uppercase

/-!
# Upper and lower case

Full case conversion of texts. A mapping may have several code points, and the lower case of the
capital sigma depends on its place: the final form stands after a cased letter and not before one,
where case-ignorable code points between do not count.
-/

namespace NameKeys.Text

def upper (t : Text) : Text :=
  t.flatMap fun c => (Unicode.uppercaseMapping c.val).map CodePoint.ofNat

/-- Whether the first code point that is not case-ignorable is cased. -/
def startsCased (t : Text) : Bool :=
  match t.dropWhile fun c => Unicode.isCaseIgnorable c.val with
  | [] => false
  | c :: _ => Unicode.isCased c.val

/-- The lower case of what follows other text; `afterCased` says whether the last code point there
that is not case-ignorable is cased. -/
def lowerAfter (afterCased : Bool) : Text → Text
  | [] => []
  | c :: rest =>
    let mapped : Text :=
      if c.val = 0x3A3 ∧ afterCased ∧ !startsCased rest then [CodePoint.ofNat 0x3C2]
      else (Unicode.lowercaseMapping c.val).map CodePoint.ofNat
    mapped ++
      lowerAfter (if Unicode.isCaseIgnorable c.val then afterCased else Unicode.isCased c.val) rest

def lower (t : Text) : Text := lowerAfter false t

def foldCase (t : Text) : Text :=
  t.flatMap fun c => (Unicode.caseFolding c.val).map CodePoint.ofNat

/-- The text with the letters `A` to `Z`, and no others, in lower case. -/
def foldAsciiCase (t : Text) : Text :=
  t.map fun c => if 0x41 ≤ c.val ∧ c.val ≤ 0x5A then CodePoint.ofNat (c.val + 0x20) else c

end NameKeys.Text
