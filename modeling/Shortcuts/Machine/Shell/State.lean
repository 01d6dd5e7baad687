import Shortcuts.Machine.Process
import Shortcuts.Machine.Script.Basic
import Shortcuts.Machine.Signal

/-!
# The state of a shell

What a shell remembers from command to command, and how it leaves the usual order of commands.
-/

namespace Shortcuts.Machine.Shell

open Text

structure Variable where
  value : Option Octets := none
  exported : Bool := false
  fixed : Bool := false
  deriving DecidableEq, Repr

/-- Why the next command in order is not carried out. -/
inductive Departure
  /-- Leave so many loops, or go on with the next turn of the last of them. -/
  | loop (count : Nat) (again : Bool)
  | returned
  | exited
  /-- An error was reported. -/
  | failed
  | killed (signal : Nat)

/-- A process in the background: it is carried out when the shell waits for something, or at the
end. -/
structure Job where
  id : Nat
  waiting : Option (System → Exit × System) := none
  status : Nat := 0

structure State where
  system : System
  process : Process
  bindings : List (Octets × Variable) := []
  functions : List (Octets × Script.Command) := []
  /-- Letters of the options that are on. -/
  options : List Char := []
  status : Nat := 0
  /-- The status of the last command whose output was taken, for this command. -/
  taken : Nat := 0
  line : Nat := 1
  /-- The command of the shell that complaints are laid to. -/
  builtin : Option Octets := none
  /-- What to do at a signal; zero stands for the end. -/
  traps : List (Nat × Octets) := []
  background : List Job := []
  /-- The process that was last put in the background. -/
  latest : Option Nat := none
  /-- What `$$` says. -/
  main : Nat := 0
  /-- Loops, and functions and files, that are being carried out. -/
  loops : Nat := 0
  calls : Nat := 0
  /-- Variables to put back at the end of a function, for every function. -/
  saved : List (List (Octets × Option Variable)) := []
  mask : Nat := 0o022
  /-- Names whose programs were found. -/
  found : List Octets := []
  /-- The working directory by the names that led to it. -/
  place : Octets := ['/']
  /-- The word of options that was read last, and the next letter in it. -/
  letter : Nat × Nat := (1, 0)

/-- The work of a shell. -/
abbrev Work := ExceptT Departure (StateM State)

def onSystem {α : Type} (t : Task α) : Work α := do
  let s ← get
  let (a, system) := t.run s.system
  set { s with system }
  return a

def setStatus (n : Nat) : Work Unit := modify fun s => { s with status := n }

def has (option : Char) : Work Bool := return (← get).options.contains option

/-! ## Complaints -/

def write (fd : Nat) (text : Octets) : Work Bool := do onSystem ((← get).process.write fd text)

def complain (what : Octets) : Work Unit := do
  let s ← get
  let builtin := match s.builtin with
    | none => []
    | some name => name ++ octets ": "
  let _ ← write 2 (s.process.name ++ octets (": " ++ toString s.line ++ ": ") ++ builtin ++ what ++
    ['\n'])

/-- Complain and give up. -/
def fail {α : Type} (what : Octets) (status : Nat := 2) : Work α := do
  complain what
  setStatus status
  throw .failed

/-- Write the output of a command of the shell. -/
def show_ (text : Octets) : Work Unit := do
  if ← write 1 text then return
  let name := ((← get).builtin).getD []
  complain (name ++ octets ": I/O error")
  setStatus 1

/-! ## Variables -/

def State.binding? (s : State) (name : Octets) : Option Variable :=
  (s.bindings.find? fun v => v.1 == name).map Prod.snd

def State.value? (s : State) (name : Octets) : Option Octets :=
  (s.binding? name).bind Variable.value

def State.putVariable (s : State) (name : Octets) (v : Option Variable) : State :=
  let others := s.bindings.filter fun b => b.1 != name
  { s with bindings := match v with
      | none => others
      | some v => others ++ [(name, v)] }

def value? (name : Octets) : Work (Option Octets) := return (← get).value? name

def setVariable (name value : Octets) : Work Unit := do
  let s ← get
  let v := (s.binding? name).getD {}
  if v.fixed then fail (name ++ octets ": is read only")
  set (s.putVariable name
    (some { v with value := some value, exported := v.exported || s.options.contains 'a' }))

/-- Mark a variable, whether or not it has a value. -/
def markVariable (name : Octets) (mark : Variable → Variable) : Work Unit :=
  modify fun s => s.putVariable name (some (mark ((s.binding? name).getD {})))

def unsetVariable (name : Octets) : Work Unit := do
  let s ← get
  if (s.binding? name).any Variable.fixed then fail (name ++ octets ": is read only")
  set (s.putVariable name none)

/-- The bindings that programs get to see. -/
def State.environment (s : State) : Variables :=
  s.bindings.filterMap fun (name, v) =>
    if v.exported then v.value.map fun value => (name, value) else none

def blanks : Octets := [' ', '\t', '\n']

def separators : Work Octets := return ((← value? (octets "IFS")).getD blanks)

def function? (name : Octets) : Work (Option Script.Command) :=
  return ((← get).functions.find? fun f => f.1 == name).map Prod.snd

/-! ## Directories and files -/

def pathText (l : Location) : Octets :=
  if l = [] then ['/'] else l.flatMap fun name => '/' :: name

/-- A path seen from a place, by names alone: each `..` takes back the name before it. -/
def placeFrom (place path : Octets) : Octets :=
  let start := if isRooted path then [] else names place
  pathText ((names path).foldl (fun ns name =>
    if reads name "." then ns
    else if reads name ".." then ns.dropLast
    else ns ++ [name]) start)

/-- All that a file holds. -/
def readWhole (path : Octets) : Work (Except Errno Octets) := do
  let s ← get
  match s.system.openPath s.process.descriptors s.process.directory path .read with
  | .error e => return .error e
  | .ok (k, system) => do
    let (held, system) := system.read k none
    set { s with system }
    return .ok held

def locate (path : Octets) : Work (Except Errno Location) := do
  let s ← get
  return s.system.files.locate s.process.directory path true

def openFile (path : Octets) (a : Access) : Work (Except Errno Nat) := do
  let s ← get
  match s.system.openPath s.process.descriptors s.process.directory path a with
  | .error e => return .error e
  | .ok (k, system) => do
    set { s with system }
    return .ok k

def descriptor? (fd : Nat) : Work (Option Nat) := return (← get).process.descriptors.get? fd

def setDescriptors (d : Descriptors) : Work Unit :=
  modify fun s => { s with process := { s.process with descriptors := d } }

def connect (fd opening : Nat) : Work Unit := do
  setDescriptors ((← get).process.descriptors.set fd opening)

/-- The names whose programs were found, after a program was found by a name. -/
def State.remembered (s : State) (name : Octets) : List Octets :=
  if '/' ∉ name ∧ name ∉ s.found then name :: s.found else s.found

/-- The program file that a name leads to on the search path. -/
def findProgram? (name : Octets) : Work (Except Errno Octets) := do
  let s ← get
  let path := (s.value? (octets "PATH")).getD []
  let attempt (path : Octets) : Except Errno Octets :=
    (programAt s.system.files s.process.directory path).map fun _ => path
  let result := firstOf attempt (candidates path name)
  match result with
  | .ok _ => set { s with found := s.remembered name }
  | .error _ => pure ()
  return result

/-- What a shell says of a file that it cannot use. -/
def reasonText (missing : String) (e : Errno) : Octets :=
  if isMissing e then octets missing else e.octets

end Shortcuts.Machine.Shell
