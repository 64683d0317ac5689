import NameKeys.Text.CodePoint

/-!
# Texts

A text is a list of code points. This file holds how texts are taken apart and put together:
splitting at a separator, joining, and replacing one code point.
-/

namespace NameKeys

abbrev Text := List CodePoint

namespace Text

def ofString (s : String) : Text := s.toList.map CodePoint.ofChar

instance : Coe String Text := ⟨ofString⟩

instance : LawfulBEq Text := inferInstanceAs (LawfulBEq (List CodePoint))

/-- The pieces of a text between the occurrences of a separator: one more than there are
separators. -/
def splitOn (separator : CodePoint) : Text → List Text
  | [] => [[]]
  | c :: rest =>
    match splitOn separator rest with
    | [] => [[c]]
    | piece :: pieces => if c = separator then [] :: piece :: pieces else (c :: piece) :: pieces

/-- The pieces with the separator between each two. -/
def join (separator : Text) : List Text → Text
  | [] => []
  | [piece] => piece
  | piece :: pieces => piece ++ separator ++ join separator pieces

/-- What stands before the first occurrence of a separator and, where there is one, what stands
after it. -/
def cutAt (separator : CodePoint) (t : Text) : Text × Option Text :=
  match t.dropWhile (· ≠ separator) with
  | [] => (t, none)
  | _ :: rest => (t.takeWhile (· ≠ separator), some rest)

/-- The pieces of a text between the occurrences of a separator that is a text itself, found from
the left and not overlapping. The first `skip` code points belong to an occurrence already found. -/
def splitAroundFrom (separator : Text) : (skip : Nat) → Text → List Text
  | _, [] => [[]]
  | skip + 1, _ :: rest => splitAroundFrom separator skip rest
  | 0, c :: rest =>
    if separator.isPrefixOf (c :: rest) then
      [] :: splitAroundFrom separator (separator.length - 1) rest
    else
      match splitAroundFrom separator 0 rest with
      | [] => [[c]]
      | piece :: pieces => (c :: piece) :: pieces

/-- The pieces of a text between the occurrences of a separator that is not empty. -/
def splitAround (separator t : Text) : List Text := splitAroundFrom separator 0 t

/-- Whether a text occurs in another one. -/
def occursIn (part : Text) : Text → Bool
  | [] => part.isEmpty
  | c :: rest => part.isPrefixOf (c :: rest) || occursIn part rest

/-- What stands before the `n`th occurrence of a separator, or before the last if there are fewer,
and what stands after it. A text without the separator is all behind it. -/
def splitAtNth (separator : Text) (n : Nat) (t : Text) : Text × Text :=
  let pieces := splitAround separator t
  let before := min n (pieces.length - 1)
  (join separator (pieces.take before), join separator (pieces.drop before))

/-- The text without its first and its last code point. -/
def inner (t : Text) : Text := t.tail.dropLast

/-- Every occurrence of one code point replaced by another. -/
def replace (old new : CodePoint) (t : Text) : Text := t.map fun c => if c = old then new else c

/-- What follows a beginning, if the text has that beginning. -/
def afterPrefix? : (beginning : Text) → Text → Option Text
  | [], t => some t
  | _ :: _, [] => none
  | p :: ps, c :: rest => if p = c then afterPrefix? ps rest else none

/-- Order by code point, a beginning of a text before the text. -/
def le : Text → Text → Bool
  | [], _ => true
  | _ :: _, [] => false
  | a :: as, b :: bs => if a = b then le as bs else a.val < b.val

/-- The text with everything from the first to the last place where `p` fails. -/
def trimWhere (p : CodePoint → Bool) (t : Text) : Text :=
  ((t.dropWhile p).reverse.dropWhile p).reverse

end Text

end NameKeys
