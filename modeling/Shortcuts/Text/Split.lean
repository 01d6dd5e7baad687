import Shortcuts.Text.Blank

/-!
# Splitting text

Lines end at a newline, which takes one carriage return before it along. Words are separated by
runs of blanks. A cut is made at the first occurrence of a character.
-/

namespace Shortcuts.Text

/-- Put a character in front of the first piece. -/
def grow (c : Char) : List (List Char) → List (List Char)
  | [] => [[c]]
  | w :: ws => (c :: w) :: ws

/-- The lines of a text. A last line needs no newline; a text that ends in one has no line after
it. -/
def lines : List Char → List (List Char)
  | [] => []
  | '\n' :: r => [] :: lines r
  | '\r' :: '\n' :: r => [] :: lines r
  | c :: r => grow c (lines r)

/-- The maximal runs of characters that are not blank. -/
def words : List Char → List (List Char)
  | [] => []
  | c :: r =>
    if isBlank c then words r
    else match r with
      | [] => [[c]]
      | d :: _ => if isBlank d then [c] :: words r else grow c (words r)

/-- The text before and after the first `p`. -/
def cut (p : Char) : List Char → Option (List Char × List Char)
  | [] => none
  | c :: r =>
    if c = p then some ([], r)
    else match cut p r with
      | none => none
      | some (a, b) => some (c :: a, b)

/-- Pieces between the occurrences of `p`; always at least one. -/
def pieces (p : Char) : List Char → List (List Char)
  | [] => [[]]
  | c :: r => if c = p then [] :: pieces p r else grow c (pieces p r)

def wordStrings (s : String) : List String := (words s.toList).map String.ofList

end Shortcuts.Text
