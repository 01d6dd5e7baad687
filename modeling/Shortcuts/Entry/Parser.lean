import Shortcuts.Entry.Basic
import Shortcuts.Text.Split

/-!
# Reading entries

Each line is a header, a parameter, a line to ignore or malformed, by its trimmed text alone. A
header opens an entry and a parameter goes to the entry that is open. The first line that fits
nowhere ends the reading.
-/

namespace Shortcuts

open Text

/-- What is wrong with a line. -/
inductive LineFault
  | missingKey (header : String)
  | keyContainsSpace (key : String)
  | missingKind
  | noEntryOpen
  | unrecognized
  deriving DecidableEq, Repr

/-- A fault, the number of its line from one, and the line as it stands in the file. -/
structure ParseError where
  fault : LineFault
  line : Nat
  text : String
  deriving DecidableEq, Repr

def ParseError.message (e : ParseError) : String :=
  let place := toString e.line ++ ": " ++ e.text
  match e.fault with
  | .missingKey header => "key is missing after '" ++ header ++ "' on line " ++ place
  | .keyContainsSpace key => "key '" ++ key ++ "' must not contain spaces on line " ++ place
  | .missingKind => "can't parse entry kind on line " ++ place
  | .noEntryOpen => "no entry started with [kind key] before line " ++ place
  | .unrecognized => "can't parse line " ++ place

inductive LineForm
  | header (inner : List Char)
  | ignored
  | parameter (name value : List Char)
  | malformed
  deriving DecidableEq, Repr

/-- The text between an opening bracket at the start and a closing one at the end. -/
def bracketed : List Char → Option (List Char)
  | '[' :: r => if r.getLast? = some ']' then some r.dropLast else none
  | _ => none

def LineForm.ofTrimmed (t : List Char) : LineForm :=
  match bracketed t with
  | some inner => .header (trim inner)
  | none =>
    if t = [] ∨ t.head? = some '#' then .ignored
    else match cut '=' t with
      | some (name, value) => .parameter (trim name) (trim value)
      | none => .malformed

def LineForm.ofLine (line : List Char) : LineForm := .ofTrimmed (trim line)

/-- The entry that a header opens: kind and key are parted by the first space. -/
def Entry.ofHeader (inner : List Char) : Except LineFault Entry :=
  match cut ' ' inner with
  | none => .error (.missingKey (String.ofList inner))
  | some (kind, key) =>
    if ' ' ∈ trim key then .error (.keyContainsSpace (String.ofList (trim key)))
    else if trim kind = [] then .error .missingKind
    else .ok { kind := String.ofList (trim kind), key := String.ofList (trim key) }

/-- Read the lines from number `n` on, with `current` open. -/
def readLines (n : Nat) (current : Option Entry) :
    List (List Char) → Except ParseError (List Entry)
  | [] => .ok current.toList
  | line :: rest =>
    match LineForm.ofLine line with
    | .header inner =>
      match Entry.ofHeader inner with
      | .error fault => .error ⟨fault, n, String.ofList line⟩
      | .ok entry =>
        match readLines (n + 1) (some entry) rest with
        | .error e => .error e
        | .ok entries => .ok (current.toList ++ entries)
    | .ignored => readLines (n + 1) current rest
    | .parameter name value =>
      match current with
      | none => .error ⟨.noEntryOpen, n, String.ofList line⟩
      | some entry =>
        readLines (n + 1) (some (entry.add ⟨String.ofList name, String.ofList value⟩)) rest
    | .malformed => .error ⟨.unrecognized, n, String.ofList line⟩

/-- The entries of a configuration text. -/
def parse (text : String) : Except ParseError (List Entry) :=
  readLines 1 none (lines text.toList)

end Shortcuts
