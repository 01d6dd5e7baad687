import Shortcuts.Machine.Utility.Options

/-!
# Lines

The lines of a text, and the inputs that a filter reads.
-/

namespace Shortcuts.Machine.Filters

open Text

/-- Lines with their newlines; the last one may have none. -/
def linesOf (text : Octets) : List Octets := go text.length text
where
  /-- Every step takes a line. -/
  go : Nat → Octets → List Octets
    | 0, _ => []
    | n + 1, text =>
      if text = [] then []
      else
        let size := (text.takeWhile (· != '\n')).length + 1
        text.take size :: go n (text.drop size)

/-- A line without its newline. -/
def bare (line : Octets) : Octets := if line.getLast? = some '\n' then line.dropLast else line

def unlines (lines : List Octets) : Octets := lines.flatMap fun l => l ++ ['\n']

def countLines (text : Octets) : Nat := text.count '\n'

def isSpace (c : Char) : Bool := c == ' ' || ('\t' ≤ c && c ≤ '\r')

def countWords (text : Octets) : Nat :=
  (text.foldl (fun (n, inWord) c =>
    if isSpace c then (n, false) else if inWord then (n, true) else (n + 1, true))
    (0, false)).1

def padLeft (width : Nat) (s : Octets) : Octets := List.replicate (width - s.length) ' ' ++ s

def inputs (g : Given) : List Octets := if g.operands = [] then [['-']] else g.operands

/-- Read every input in turn, and complain of those that cannot be read. -/
def eachInput (p : Process) (g : Given) (wording : Octets → Errno → Octets)
    (act : Octets → Octets → Task Unit) : Task Nat :=
  forWords (inputs g) fun name => do
    match ← p.readNamed name with
    | .ok text => do
      act name text
      return 0
    | .error e => do
      p.complain (wording name e)
      return 1

def plainWording (name : Octets) (e : Errno) : Octets := name ++ octets ": " ++ e.octets

/-- All inputs as one text. -/
def gathered (p : Process) (g : Given) (wording : Octets → Errno → Octets) :
    Task (Octets × Nat) := do
  (inputs g).foldlM (fun (text, status) name => do
    match ← p.readNamed name with
    | .ok more => return (text ++ more, status)
    | .error e => do
      p.complain (wording name e)
      return (text, 1)) ([], 0)

end Shortcuts.Machine.Filters
