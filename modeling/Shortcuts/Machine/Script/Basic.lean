import Shortcuts.Machine.Files

/-!
# Scripts

Commands of the shell language as trees. Words are kept as pieces, to be expanded when a command
is carried out.
-/

namespace Shortcuts.Machine.Script

open Text

/-- What a parameter expansion does when its parameter has no value. -/
inductive Fallback
  | substitute
  | assign
  | complain
  /-- The other way round: a word for a parameter that has a value. -/
  | replace
  deriving DecidableEq, Repr

mutual

/-- A part of a word. Quoted parts are neither split into fields nor matched against names. -/
inductive Piece
  | text (quoted : Bool) (held : Octets)
  | parameter (quoted : Bool) (name : Octets) (change : Change)
  | output (quoted : Bool) (command : Command)
  | sum (quoted : Bool) (pieces : List Piece)

/-- What an expansion makes of the value of its parameter. -/
inductive Change
  | plain
  | length
  /-- With a colon, an empty value counts as none. -/
  | fallback (f : Fallback) (colon : Bool) (word : List Piece)
  | trim (fromEnd longest : Bool) (pattern : List Piece)
  | malformed

inductive Redirection
  /-- A guarded one does not write over what is there, if the shell is told so. -/
  | file (fd : Nat) (access : Access) (guarded : Bool) (path : List Piece)
  /-- Make `fd` what the target is; a dash closes it. -/
  | copy (fd : Nat) (target : List Piece)
  | here (fd : Nat) (text : List Piece)

inductive Command
  | nothing
  | simple (line : Nat) (assignments : List (Octets × List Piece)) (words : List (List Piece))
      (redirections : List Redirection)
  | pipeline (negated : Bool) (parts : List Command)
  | sequence (first second : Command)
  | both (first second : Command)
  | either (first second : Command)
  | background (command : Command)
  | subshell (command : Command)
  | redirected (line : Nat) (command : Command) (redirections : List Redirection)
  | cond (test yes no : Command)
  /-- Goes on while the test succeeds; negated, while it fails. -/
  | loop (negated : Bool) (test body : Command)
  /-- Without words, goes through the arguments. -/
  | forEach (line : Nat) (name : Octets) (words : Option (List (List Piece))) (body : Command)
  | choose (line : Nat) (word : List Piece) (branches : List (List (List Piece) × Command))
  | define (name : Octets) (body : Command)

end

abbrev ShellWord := List Piece

instance : Inhabited Command := ⟨.nothing⟩

/-- The text of a word without quoting and expansions. -/
def literal? : ShellWord → Option Octets
  | [.text false held] => some held
  | _ => none

def isNameStart (c : Char) : Bool := c.isAlpha || c == '_'

def isNameChar (c : Char) : Bool := c.isAlphanum || c == '_'

/-- Whether a variable can have this name. -/
def isName : Octets → Bool
  | [] => false
  | c :: r => isNameStart c && r.all isNameChar

/-- `name=value`, split at the first equals sign. -/
def assignment? (s : Octets) : Option (Octets × Octets) :=
  match cut '=' s with
  | some (name, value) => if isName name then some (name, value) else none
  | none => none

/-- A word that assigns: its name and the pieces of the value. -/
def assigning? : ShellWord → Option (Octets × ShellWord)
  | .text false held :: rest =>
    (assignment? held).map fun (name, value) =>
      (name, if value = [] then rest else .text false value :: rest)
  | _ => none

end Shortcuts.Machine.Script
