import Shortcuts.Configuration.Basic
import Shortcuts.Selection.Input

/-!
# Choosing configurations

A choice is a key or a number counted from one; it picks the first configuration it fits. The word
`all` on its own picks every configuration.
-/

namespace Shortcuts

open Text

inductive SelectionError
  | unknownChoice (choice : String)
  | unreadable (reason : String)
  deriving DecidableEq, Repr

namespace SelectionError

def message : SelectionError → String
  | .unknownChoice choice => "can't find entry with key or number '" ++ choice ++ "'"
  | .unreadable reason => "reading selection: " ++ reason

def causes : SelectionError → List String
  | .unknownChoice _ => []
  | .unreadable reason => [reason]

def toFailure (e : SelectionError) : Failure := ⟨e.message, e.causes⟩

end SelectionError

/-- A configuration with its position, counted from zero. -/
abbrev Positioned := Configuration × Nat

def Positioned.number (c : Positioned) : String := toString (c.2 + 1)

def Positioned.fits (choice : String) (c : Positioned) : Bool :=
  c.1.key == choice || c.number == choice

def find? (configs : List Configuration) (choice : String) : Option Positioned :=
  configs.zipIdx.find? (Positioned.fits choice)

/-- Resolve the choices in order. The first that fits nothing refuses them all. -/
def resolve (configs : List Configuration) : List String → Except SelectionError (List Positioned)
  | [] => .ok []
  | choice :: rest =>
    match find? configs choice with
    | none => .error (.unknownChoice choice)
    | some c => (resolve configs rest).map (c :: ·)

def select (configs : List Configuration) (choices : List String) :
    Except SelectionError (List Positioned) :=
  if choices = ["all"] then .ok configs.zipIdx else resolve configs choices

/-- One line a configuration, with its number. -/
def numberedLines (configs : List Configuration) : List String :=
  configs.zipIdx.map fun c => Failure.padLeft 2 (Positioned.number c) ++ " " ++ c.1.key

/-- The words of one line. The end of the input gives none. -/
def readChoices (input : Input) : Except SelectionError (List String) × Input :=
  let (line, rest) := input.readLine
  ((line.mapError SelectionError.unreadable).map wordStrings, rest)

end Shortcuts
