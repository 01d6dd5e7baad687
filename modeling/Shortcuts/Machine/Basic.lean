import Shortcuts.Machine.Execution
import Shortcuts.Running.Executor
import Shortcuts.Selection.Input

/-!
# Machines

A machine has files, a working directory, an environment, a standard input and perhaps a log file.
It can start the programs among its files, and what they do to it is there for the next one.
-/

namespace Shortcuts

open Text

/-- The log file of a session, open for appending, and the time that its lines are stamped with. -/
structure Machine.Log where
  opening : Nat
  time : String
  deriving DecidableEq, Repr

structure Machine where
  system : Machine.System
  directory : Machine.Location := []
  environment : Machine.Variables := []
  /-- What is open as standard input. -/
  input : Nat := 0
  log : Option Machine.Log := none

namespace Machine

/-! ## Finding programs -/

/-- The names of a path without those that change nothing. A leading `.` stays. -/
def components (path : Octets) : List Octets :=
  let kept (ns : List Octets) : List Octets := ns.filter fun n => !reads n "."
  match names path with
  | ['.'] :: rest => if isRooted path then kept rest else ['.'] :: kept rest
  | ns => kept ns

/-- Where a program is looked for: at its path if it has one, else on the search path. -/
def places (m : Machine) (program : Octets) : List Octets :=
  let parts := components program
  if isRooted program then [program]
  else if 1 < parts.length then [['/'].intercalate parts]
  else (pieces ':' ((m.environment.get? (octets "PATH")).getD [])).map fun dir =>
    dir ++ '/' :: program

def finds (m : Machine) (program : String) : Bool :=
  (m.places (octets program)).any fun path =>
    match programAt m.system.files m.directory path with
    | .ok _ => true
    | .error _ => false

/-! ## Starting programs -/

/-- What a program that was started wrote, and how it ended. -/
structure Ran where
  exit : Exit
  out : Bytes
  err : Bytes

/-- All that was written to an opening. -/
def System.written (s : System) (k : Nat) : Bytes :=
  Octets.toBytes ((s.seek k fun _ => 0).remaining k)

/-- Start a program and wait for its end. -/
def spawn (m : Machine) (program : String) (args : List String) : Except Errno (Ran × Machine) :=
  let (out, system) := m.system.openNew [] true
  let (err, system) := system.openNew [] true
  let p : Process :=
    { name := octets program, args := args.map octets, environment := m.environment,
      directory := m.directory, descriptors := [(0, m.input), (1, out), (2, err)] }
  match p.startNamed Machine.execute system with
  | .error e => .error e
  | .ok (exit, system) =>
    .ok (⟨exit, system.written out, system.written err⟩, { m with system })

def hasNul (words : List String) : Bool := words.any fun w => '\x00' ∈ w.toList

/-- The answer to a start, and the machine after it. -/
def start (m : Machine) (program : String) (args : List String) : Reply × Machine :=
  let fault := fun reason : String =>
    { result := .error { message := "failed to execute: " ++ program, causes := [reason] } }
  if hasNul (program :: args) then (fault "nul byte found in provided data", m)
  else
    match m.spawn program args with
    | .error e => (fault e.message, m)
    | .ok (r, m) =>
      ({ result := .ok (.ofWaitStatus r.exit.waitStatus),
         written := [(.out, r.out), (.err, r.err)] }, m)

/-! ## The machine in a session -/

def writeLog (m : Machine) (text : String) : Machine :=
  match m.log with
  | none => m
  | some log => { m with system := (m.system.write log.opening (octets text)).2 }

/-- What an act of a session leaves on the machine. -/
def afterAct (m : Machine) : Act → Machine
  | .call (.start program args) => (m.start program args).2
  | .event e =>
    match m.log with
    | none => m
    | some log => m.writeLog ((Act.event e).logged log.time)
  | .took count => { m with system := m.system.seek m.input (· + count) }
  | _ => m

def after (m : Machine) (past : Trace) : Machine := past.foldl afterAct m

def executor (m : Machine) : Executor where
  which past program := (m.after past).finds program
  start past program args := ((m.after past).start program args).1

/-- What a session has open. -/
def descriptors (m : Machine) : Descriptors := [(0, m.input)]

/-- The text of a file, or the reason why it cannot be read as text, and the machine after that:
what is read from a pipe is gone. -/
def readText (m : Machine) (path : String) : Except String String × Machine :=
  if '\x00' ∈ path.toList then (.error "file name contained an unexpected NUL byte", m)
  else
    match m.system.openPath m.descriptors m.directory (octets path) .read with
    | .error e => (.error e.message, m)
    | .ok (k, system) =>
      let (held, system) := system.read k none
      let text :=
        match decode? (Octets.toBytes held) with
        | none => .error notText
        | some text => .ok (String.ofList text)
      (text, { m with system })

end Machine

end Shortcuts
