import Shortcuts.Machine.Utility.Tree

/-!
# Programs on path names

They take names apart, or find out where a name leads.
-/

namespace Shortcuts.Machine.PathNames

open Text

/-- Drop an end from a name that is longer. -/
def withoutEnd (ending name : Octets) : Octets :=
  if ending ≠ name ∧ ending.isSuffixOf name then name.take (name.length - ending.length) else name

def basename (p : Process) : Task Nat :=
  let rule : OptionRule :=
    { flags := "az", valued := "s", ordered := true,
      long := [("multiple", 'a'), ("suffix", 's'), ("zero", 'z')] }
  p.withOptions rule 1 fun g => do
    let line (name ending : Octets) : Octets :=
      withoutEnd ending (Tree.baseName name) ++ [if g.has 'z' then '\x00' else '\n']
    if g.operands = [] then
      p.misuse (octets "missing operand")
      return 1
    if g.has 'a' ∨ g.has 's' then
      p.out (g.operands.flatMap fun name => line name ((g.value? 's').getD []))
      return 0
    match g.operands with
    | _ :: _ :: extra :: _ => do
      p.misuse (octets "extra operand " ++ ticked extra)
      return 1
    | name :: ending => do
      p.out (line name ending.flatten)
      return 0
    | [] => return 1

/-- A path without its last name. -/
def directoryName (path : Octets) : Octets :=
  let dropSlashes (s : Octets) : Octets := (s.reverse.dropWhile (· == '/')).reverse
  let whole := dropSlashes path
  let above := (whole.reverse.dropWhile (· != '/')).reverse
  if whole = [] then (if path = [] then ['.'] else ['/'])
  else if above = [] then ['.']
  else if dropSlashes above = [] then ['/']
  else dropSlashes above

def dirname (p : Process) : Task Nat :=
  p.withOptions { flags := "z", long := [("zero", 'z')] } 1 fun g => do
    if g.operands = [] then
      p.misuse (octets "missing operand")
      return 1
    p.out (g.operands.flatMap fun path => directoryName path ++ ['\n'])
    return 0

def pathText (l : Location) : Octets :=
  if l = [] then ['/'] else l.flatMap fun name => '/' :: name

def workingDirectory (p : Process) : Task Nat := do
  p.out (pathText p.directory ++ ['\n'])
  return 0

/-- The location of a path, of which the last name need not be there. -/
def locateOrPlace (f : Files) (cwd : Location) (path : Octets) : Except Errno Location :=
  match f.locate cwd path true with
  | .ok l => .ok l
  | .error .noEntry => f.place cwd path
  | .error e => .error e

def realpath (p : Process) : Task Nat :=
  p.withOptions { flags := "eq", long := [("canonicalize-existing", 'e'), ("quiet", 'q')] } 1
    fun g => do
    if g.operands = [] then
      p.misuse (octets "missing operand")
      return 1
    forWords g.operands fun path => do
      let f := (← get).files
      let found :=
        if g.has 'e' then f.locate p.directory path true else locateOrPlace f p.directory path
      match found with
      | .ok l => do
        p.out (pathText l ++ ['\n'])
        return 0
      | .error e => do
        if !g.has 'q' then p.complain (path ++ octets ": " ++ e.octets)
        return 1

/-- Where a program would be started from. -/
def which (p : Process) : Task Nat :=
  p.withOptions { flags := "a" } 2 fun g => do
    let f := (← get).files
    if g.operands = [] then return 1
    forWords g.operands fun name => do
      let found := (candidates p.searchPath name).filter fun path =>
        match f.locate p.directory path true with
        | .ok l => (f.fileAt? l).any File.isProgram
        | .error _ => false
      let found := if g.has 'a' then found else found.take 1
      p.out (found.flatMap fun path => path ++ ['\n'])
      return if found = [] then 1 else 0

end Shortcuts.Machine.PathNames
