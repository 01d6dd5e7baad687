import Shortcuts.Invocation.Basic
import Shortcuts.Text.Split

/-!
# Reading a command line

The quoting rules of a POSIX shell: words are parted by unquoted spaces, text between single
quotes is literal, and outside them a backslash takes the next character literally.
-/

namespace Shortcuts

open Text

inductive Place
  | gap
  | word
  | quotes
  deriving DecidableEq, Repr

/-- Split from a place on; `none` when a quote or a backslash is left open. -/
def splitWords : Place → List Char → Option (List (List Char))
  | .gap, [] => some []
  | .word, [] => some [[]]
  | .quotes, [] => none
  | .quotes, c :: r =>
    if c = '\'' then splitWords .word r else (splitWords .quotes r).map (grow c)
  | _, '\\' :: r =>
    match r with
    | [] => none
    | c :: r => (splitWords .word r).map (grow c)
  | place, c :: r =>
    if c = '\'' then splitWords .quotes r
    else if c = ' ' then
      match place with
      | .gap => splitWords .gap r
      | _ => (splitWords .gap r).map ([] :: ·)
    else (splitWords .word r).map (grow c)

def readWords (line : String) : Option (List String) :=
  (splitWords .gap line.toList).map fun ws => ws.map String.ofList

/-- The text outside quotes holds only separators, escaped quotes and plain characters. -/
def nothingToExpand : Place → List Char → Bool
  | _, [] => true
  | .quotes, c :: r => nothingToExpand (if c = '\'' then .word else .quotes) r
  | _, '\\' :: r =>
    match r with
    | [] => false
    | c :: r => c = '\'' && nothingToExpand .word r
  | _, c :: r =>
    if c = '\'' then nothingToExpand .quotes r
    else (c = ' ' || isPlain c) && nothingToExpand .word r

end Shortcuts
