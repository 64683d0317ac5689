import NameKeys.Text.Case

/-!
# Case folding

The choice of how far letter case is ignored.
-/

namespace NameKeys

/-- Which differences of case a profile ignores. -/
inductive CaseFold where
  | none
  | unicode
  | ascii
  deriving DecidableEq, Repr

namespace CaseFold

/-- The foldings in the order in which they are listed. -/
def all : List CaseFold := [none, unicode, ascii]

def name : CaseFold → Text
  | none => "NONE"
  | unicode => "UNICODE"
  | ascii => "ASCII"

def label : CaseFold → Text
  | none => "none"
  | unicode => "unicode"
  | ascii => "ascii"

/-- The text with the differences of case gone. -/
def apply : CaseFold → Text → Text
  | none, t => t
  | unicode, t => t.foldCase
  | ascii, t => t.foldAsciiCase

end CaseFold

end NameKeys
