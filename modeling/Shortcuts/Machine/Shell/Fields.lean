import Shortcuts.Machine.Files
import Shortcuts.Machine.Shell.Pattern

/-!
# Fields

An expanded word is a list of items. It falls into fields where separators stand in what
expansions gave, and a field that is a pattern stands for the file names that fit.
-/

namespace Shortcuts.Machine.Shell

open Text

inductive Item
  | letter (c : Char) (quoted splits : Bool)
  /-- Nothing, in quotes: a field of its own even if nothing else is in it. -/
  | void
  /-- The arguments, in quotes, where there are none: not even an empty field. -/
  | lacking
  /-- The place between two arguments. -/
  | boundary
  deriving DecidableEq, Repr

namespace Item

def ofText (quoted splits : Bool) (s : Octets) : List Item :=
  s.map fun c => .letter c quoted splits

def letter? : Item → Option Letter
  | .letter c quoted _ => some ⟨c, quoted⟩
  | _ => none

/-- The letters of a word that stays one field. -/
def letters (items : List Item) : List Letter := items.filterMap letter?

def text (items : List Item) : Octets := (letters items).map Letter.char

end Item

/-- Quotes around no arguments leave nothing behind. -/
def cancelled : List Item → List Item
  | .void :: .lacking :: rest => cancelled rest
  | i :: rest => i :: cancelled rest
  | [] => []

/-- Fields under way. The letters of the open field come last one first. -/
structure Splitting where
  done : List (List Letter) := []
  opened : Option (List Letter) := none
  /-- A blank ended a field, and a separator that follows belongs to it. -/
  ended : Bool := false

namespace Splitting

def finish (s : Splitting) : Splitting :=
  match s.opened with
  | none => s
  | some f => { s with done := f.reverse :: s.done, opened := none }

def step (separators : Octets) (s : Splitting) (i : Item) : Splitting :=
  match i with
  | .letter c quoted splits =>
    if splits ∧ c ∈ separators then
      if c = ' ' ∨ c = '\t' ∨ c = '\n' then
        if s.opened.isSome then { s.finish with ended := true } else s
      else if s.opened.isSome then { s.finish with ended := false }
      else if s.ended then { s with ended := false }
      else { s with done := [] :: s.done }
    else { s with opened := some (⟨c, quoted⟩ :: s.opened.getD []), ended := false }
  | .void => { s with opened := some (s.opened.getD []), ended := false }
  | .boundary => { s.finish with ended := false }
  | .lacking => s

end Splitting

/-- The fields of a word. -/
def fieldsOf (separators : Octets) (items : List Item) : List (List Letter) :=
  ((cancelled items).foldl (Splitting.step separators) {}).finish.done.reverse

/-- A field with the separators that stand between it and the next one. -/
def textOf (field : List Letter) : Octets := field.map Letter.char

/-! ## File names -/

/-- The parts of a pattern between slashes. -/
def parts : List Letter → List (List Letter)
  | [] => [[]]
  | l :: rest =>
    if l.char = '/' then [] :: parts rest
    else
      match parts rest with
      | [] => [[l]]
      | p :: ps => (l :: p) :: ps

def startsWithDot (s : List Char) : Bool := s.head? == some '.'

/-- The paths that fit a pattern, part by part, after what fits so far. -/
def pathsBelow (f : Files) (cwd : Location) (before : Octets) : List (List Letter) → List Octets
  | [] => []
  | part :: rest =>
    let names : List Octets :=
      if Pattern.hasWildcard part then
        let found :=
          match f.locate cwd (if before = [] then ['.'] else before) true with
          | .ok l => if f.isDirectory l then f.children l else []
          | .error _ => []
        let es := Pattern.elements part
        let hidden := startsWithDot (textOf part)
        ([['.'], ['.', '.']] ++ found).filter fun name =>
          (hidden || !startsWithDot name) && Pattern.fits es name
      else [textOf part]
    names.flatMap fun name =>
      let path := before ++ name
      match rest with
      | [] =>
        match f.locate cwd path false with
        | .ok _ => [path]
        | .error _ => []
      | _ => pathsBelow f cwd (path ++ ['/']) rest

/-- The words that a field stands for. -/
def wordsOf (f : Files) (cwd : Location) (field : List Letter) : List Octets :=
  if !Pattern.hasWildcard field then [textOf field]
  else
    match pathsBelow f cwd [] (parts field) with
    | [] => [textOf field]
    | found => found.mergeSort Octets.upTo

end Shortcuts.Machine.Shell
