import Shortcuts.Machine.Programs

/-!
# Starting programs

A file with permission to be executed is a utility, or a script that names its interpreter in the
first line. An interpreter may be a script itself.
-/

namespace Shortcuts.Machine

open Text

/-- How much of a file is looked at for the name of an interpreter. -/
def headSize : Nat := 256

/-- How many interpreters may follow one another. -/
def interpreterLimit : Nat := 5

/-- The interpreter that the first line of a script asks for, and its argument. A file that ends
early goes on with zeros; a zero ends a name, and a name that the head cuts off is none. -/
def interpreter? (held : Octets) : Option (Octets × Option Octets) :=
  match (held ++ List.replicate headSize '\x00').take headSize with
  | '#' :: '!' :: rest =>
    let whole := rest.contains '\n' || (rest.dropWhile isSpace).any isEnd
    let line :=
      if rest.contains '\n' then rest.takeWhile (· != '\n')
      else if whole then rest.dropLast
      else []
    let line := (line.reverse.dropWhile isSpace).reverse.dropWhile isSpace
    let name := line.takeWhile fun c => !isEnd c
    if line = [] then none
    else
      match line.drop name.length with
      | ' ' :: more | '\t' :: more =>
        some (name, some ((more.dropWhile isSpace).takeWhile (· != '\x00')))
      | _ => some (name, none)
  | _ => none
where
  isSpace (c : Char) : Bool := c == ' ' || c == '\t'
  isEnd (c : Char) : Bool := isSpace c || c == '\x00'

/-- The utility that a path leads to through its interpreters, with the name and the arguments
that it gets. -/
def resolve (f : Files) (p : Process) : Nat → Octets → Octets → List Octets →
    Except Errno (Utility × Process)
  | left, path, name, args =>
    match programAt f p.directory path with
    | .error e => .error e
    | .ok (.program u) => .ok (u, { p with name, args })
    | .ok (.device _) => .error .accessDenied
    | .ok (.data held) =>
      match interpreter? held with
      | none => .error .execFormat
      | some (program, arg) =>
        let args := arg.toList ++ path :: args
        match left with
        | 0 => .error .linkLoop
        | left + 1 =>
          if program = [] then .error .accessDenied
          else resolve f p left program program args

/-- Start the program at a path. Programs may start others, `depth` deep. -/
def exec : Nat → Starter
  | 0 => fun _ _ _ => .error .busy
  | depth + 1 => fun path p s =>
    match resolve s.files p interpreterLimit path p.name p.args with
    | .error e => .error e
    | .ok (u, p) =>
      let id := s.started + 1
      let (exit, s) := (u.run (exec depth) { p with id }).run { s with started := id }
      .ok (exit, { s with signals := s.signals.filter fun g => g.1 != id })

/-- How deep programs may start others. -/
def depthLimit : Nat := 64

def execute : Starter := exec depthLimit

end Shortcuts.Machine
