import Shortcuts.Machine.Shell.Evaluator

/-!
# The shell as a program

The command line of a shell names a script: a text, a file, or what comes on standard input.
-/

namespace Shortcuts.Machine.Shell

open Text

/-- A bound on the depth of calls that no script of a sensible length comes near. -/
def patience : Nat := 1000000

def importVariable (s : State) (b : Octets × Octets) : State :=
  if Script.isName b.1 then
    s.putVariable b.1 (some { value := some b.2, exported := true })
  else s

/-- Variables that a shell sets for itself. -/
def ownVariables : List (String × String) :=
  [("IFS", " \t\n"), ("OPTIND", "1"), ("PS1", "# "), ("PS2", "> "), ("PS4", "+ ")]

def defaultPath : Octets :=
  octets "/usr/local/sbin:/usr/local/bin:/usr/sbin:/usr/bin:/sbin:/bin"

def initial (p : Process) (system : System) : State :=
  let s : State := { system, process := { p with args := [] }, main := p.id, line := 0,
                     traps := p.ignored.map fun n => (n, []),
                     place := pathText p.directory }
  let s := p.environment.foldl importVariable s
  let s := ownVariables.foldl (fun (s : State) v =>
    s.putVariable (octets v.1) (some { value := some (octets v.2) })) s
  let parent := decimalText (p.ancestors.headD 0)
  let s := s.putVariable (octets "PPID") (some { value := some parent })
  let s := s.putVariable (octets "PWD")
    (some { value := some (pathText p.directory), exported := true })
  if (s.value? (octets "PATH")).isSome then s
  else s.putVariable (octets "PATH") (some { value := some defaultPath })

/-- What a command line asks for. -/
structure Invocation where
  fromText : Bool := false
  fromInput : Bool := false
  operands : List Octets := []

/-- Read the options. Every step takes a word. -/
def invocation : Nat → Invocation → List Octets → Work Invocation
  | n + 1, i, a :: rest => do
    match a with
    | ['-'] | ['-', '-'] => return { i with operands := rest }
    | sign :: c :: letters =>
      if sign = '-' ∨ sign = '+' then do
        let letters := c :: letters
        (letters.filter fun c => c != 'o' && c != 'c' && c != 'l').forM (switchLetter (sign = '-'))
        let i := { i with
          fromText := i.fromText || letters.contains 'c'
          fromInput := i.fromInput || (letters.contains 's' && sign = '-') }
        if 'o' ∈ letters then
          match rest with
          | name :: rest => do
            switchName (sign = '-') name
            invocation n i rest
          | [] => return i
        else invocation n i rest
      else return { i with operands := a :: rest }
    | _ => return { i with operands := a :: rest }
  | _, i, args => return { i with operands := args }

def scriptFile (path : Octets) : Work Octets := do
  match ← readWhole path with
  | .ok held => return held
  | .error .isDirectory => return []
  | .error e =>
    fail (octets "cannot open " ++ path ++ octets ": " ++ reasonText "No such file" e)

def nameAs (name : Octets) (args : List Octets) : Work Unit := modify fun s =>
  { s with line := 1, process := { s.process with name, args } }

/-- Run the script that the command line names. -/
def interpret (start : Starter) (p : Process) : Work Unit := do
  let i ← invocation p.args.length {} p.args
  if i.fromText then
    match i.operands with
    | [] => fail (octets "-c requires an argument")
    | text :: [] => do
      nameAs p.name []
      runText start patience {} text
    | text :: name :: args => do
      nameAs name args
      runText start patience {} text
  else
    match i.operands with
    | file :: args =>
      if i.fromInput then readInput i.operands
      else do
        let text ← scriptFile file
        nameAs file args
        run text
    | [] => readInput []
where
  run (text : Octets) : Work Unit := runText start patience {} (text.filter (· != '\x00'))
  readInput (args : List Octets) : Work Unit := do
    setOption 's' true
    nameAs p.name args
    match ← onSystem (p.input none) with
    | .ok text => run text
    | .error _ => return

def program (start : Starter) (p : Process) : Task Exit := do
  let (departure, after) := ((interpret start p).run (initial p (← get))).run
  let departure := match departure with
    | .ok _ => none
    | .error d => some d
  let (exit, after) := ((leave start patience departure).run after).run
  set after.system
  match exit with
  | .ok e => return e
  | .error _ => return .code 2

end Shortcuts.Machine.Shell
