import NameKeys.Text.Blank
import NameKeys.Text.Case

/-!
# Normalization options

The options a file system is configured with. Two choose a canonical form and two choose a case
folding. An option is named with blanks around its name ignored, in upper or lower case, with
hyphens or underscores between its words.
-/

namespace NameKeys

/-- A choice of one canonical form or of one case folding. -/
inductive NormalizationOption where
  | nfc
  | nfd
  | caseFoldUnicode
  | caseFoldAscii
  deriving DecidableEq, Repr

namespace NormalizationOption

/-- The options in the order in which they are listed. -/
def all : List NormalizationOption := [nfc, nfd, caseFoldUnicode, caseFoldAscii]

/-- The name under which an option is written. -/
def name : NormalizationOption → Text
  | nfc => "nfc"
  | nfd => "nfd"
  | caseFoldUnicode => "case_fold_unicode"
  | caseFoldAscii => "case_fold_ascii"

def symbol : NormalizationOption → Text
  | nfc => "NFC"
  | nfd => "NFD"
  | caseFoldUnicode => "CASE_FOLD_UNICODE"
  | caseFoldAscii => "CASE_FOLD_ASCII"

/-- Whether an option chooses a canonical form. -/
def isForm : NormalizationOption → Bool
  | nfc | nfd => true
  | caseFoldUnicode | caseFoldAscii => false

/-- Whether an option chooses a case folding. -/
def isFold (o : NormalizationOption) : Bool := !o.isForm

/-- The option with exactly this name. -/
def ofName? (name : Text) : Option NormalizationOption := all.find? fun o => o.name = name

def parse? (t : Text) : Option NormalizationOption :=
  ofName? (Text.replace '-' '_' (Text.lower (Text.strip t)))

end NormalizationOption

end NameKeys
