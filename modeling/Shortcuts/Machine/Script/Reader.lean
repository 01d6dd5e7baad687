import Shortcuts.Machine.Script.Basic

/-!
# Reading scripts

The reader of a script keeps what it has not read yet and the line it is on. It gives characters
and signs; words are put together by the parser, because they may hold commands.
-/

namespace Shortcuts.Machine.Script

open Text

/-- Why a script cannot be read, and on which line. -/
structure Fault where
  line : Nat
  what : String
  deriving Repr

inductive Token
  | word (w : ShellWord)
  /-- An operator or a newline. -/
  | sign (s : String)
  | redirect (fd : Option Nat) (s : String)
  | finish

def Token.name : Token → String
  | .word _ => "word"
  | .sign "\n" => "newline"
  | .sign s => "\"" ++ s ++ "\""
  | .redirect _ _ => "redirection"
  | .finish => "end of file"

structure Source where
  rest : Octets
  line : Nat := 1
  /-- Lines of here-documents, taken out of `rest` ahead of the newline before them. -/
  skipped : Nat := 0
  /-- A token that was read and given back. -/
  returned : Option Token := none

abbrev Read := StateT Source (Except Fault)

namespace Read

def fail {α : Type} (what : String) : Read α := do
  throw ⟨(← get).line, "Syntax error: " ++ what⟩

def unexpected {α : Type} (t : Token) (expected : Option Token := none) : Read α :=
  fail (t.name ++ " unexpected" ++
    match expected with
    | none => ""
    | some e => " (expecting " ++ e.name ++ ")")

def peek : Read (Option Char) := return (← get).rest.head?

/-- The character after the next one. -/
def peekSecond : Read (Option Char) := return (← get).rest.tail.head?

def advance : Read Unit := modify fun s =>
  match s.rest with
  | [] => s
  | '\n' :: rest => { s with rest, line := s.line + 1 + s.skipped, skipped := 0 }
  | _ :: rest => { s with rest }

/-- Take the characters up to the first that does not fit. -/
def takeWhile (fits : Char → Bool) : Read Octets := do
  let s ← get
  let run := s.rest.takeWhile fits
  let newlines := run.count '\n'
  set { s with rest := s.rest.drop run.length,
               line := s.line + newlines + (if newlines = 0 then 0 else s.skipped),
               skipped := if newlines = 0 then s.skipped else 0 }
  return run

def takeIf (c : Char) : Read Bool := do
  if (← peek) = some c then
    advance
    return true
  else return false

def isBlankChar (c : Char) : Bool := c == ' ' || c == '\t'

/-- Skip blanks, continued lines and a comment. -/
def skipBlanks : Nat → Read Unit
  | 0 => return
  | n + 1 => do
    let _ ← takeWhile isBlankChar
    match ← peek, ← peekSecond with
    | some '\\', some '\n' => do
      advance
      advance
      skipBlanks n
    | some '#', _ => do
      let _ ← takeWhile (· != '\n')
    | _, _ => return

def giveBack (t : Token) : Read Unit := modify fun s => { s with returned := some t }

/-- The sign that begins with `c`, which was read. -/
def sign (c : Char) : Read Token := do
  let both (d : Char) (two one : String) : Read Token := do
    return .sign (if ← takeIf d then two else one)
  match c with
  | '&' => both '&' "&&" "&"
  | '|' => both '|' "||" "|"
  | ';' => both ';' ";;" ";"
  | '<' =>
    if ← takeIf '<' then return .redirect none (if ← takeIf '-' then "<<-" else "<<")
    else if ← takeIf '&' then return .redirect none "<&"
    else if ← takeIf '>' then return .redirect none "<>"
    else return .redirect none "<"
  | '>' =>
    if ← takeIf '>' then return .redirect none ">>"
    else if ← takeIf '&' then return .redirect none ">&"
    else if ← takeIf '|' then return .redirect none ">|"
    else return .redirect none ">"
  | c => return .sign (String.singleton c)

/-- Whether a character ends a word and stands for itself. -/
def isSign (c : Char) : Bool := "\n&|;()<>".toList.contains c

/-- Take the lines of a here-document out of what follows the current line. -/
def takeDocument (stop : Octets) (dropTabs : Bool) : Read Octets := do
  let s ← get
  let line := s.rest.takeWhile (· != '\n')
  let (body, taken, rest) := gather (s.rest.drop (line.length + 1))
  set { s with rest := if taken = 0 then s.rest else line ++ '\n' :: rest,
               skipped := s.skipped + taken }
  return body
where
  gather (text : Octets) : Octets × Nat × Octets :=
    collect text.length text [] 0
  /-- Goes line by line; the text gets shorter with each. -/
  collect : Nat → Octets → Octets → Nat → Octets × Nat × Octets
    | 0, text, body, taken => (body, taken, text)
    | n + 1, text, body, taken =>
      let line := text.takeWhile (· != '\n')
      let rest := text.drop (line.length + 1)
      let shown := if dropTabs then line.dropWhile (· == '\t') else line
      if text = [] then (body, taken, [])
      else if shown = stop then (body, taken + 1, rest)
      else
        let ending := if line.length < text.length then ['\n'] else []
        collect n rest (body ++ shown ++ ending) (taken + 1)

end Read

end Shortcuts.Machine.Script
