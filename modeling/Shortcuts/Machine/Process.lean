import Shortcuts.Machine.Opening

/-!
# Processes

A process has a name, arguments, an environment, a directory and descriptors. It works on the
system that all processes share.
-/

namespace Shortcuts.Machine

open Text

/-- How a process ended. -/
inductive Exit
  | code (n : Nat)
  | signal (n : Nat)
  deriving DecidableEq, Repr

def Exit.success (e : Exit) : Bool := e == .code 0

/-- The status that a shell sees. -/
def Exit.status : Exit → Nat
  | .code n => n
  | .signal n => 128 + n

/-- The wait status of the process. -/
def Exit.waitStatus : Exit → Int
  | .code n => 256 * n
  | .signal n => n

def Errno.octets (e : Errno) : Octets := Text.octets e.description

abbrev Variables := List (Octets × Octets)

structure Process where
  name : Octets
  args : List Octets := []
  environment : Variables := []
  directory : Location := []
  descriptors : Descriptors := []
  /-- The number of the process, and those of the ones that led to it, the nearest first. -/
  id : Nat := 0
  ancestors : List Nat := []
  /-- Signals that do nothing to it. -/
  ignored : List Nat := []
  deriving Repr

/-- Starts the program at a path as a process. -/
abbrev Starter := Octets → Process → System → Except Errno (Exit × System)

/-- The work of a process on the system. -/
abbrev Task := StateM System

namespace Variables

def get? (v : Variables) (name : Octets) : Option Octets :=
  (v.find? fun b => b.1 == name).map Prod.snd

def unset (v : Variables) (name : Octets) : Variables := v.filter fun b => b.1 != name

def set (v : Variables) (name value : Octets) : Variables := v.unset name ++ [(name, value)]

end Variables

/-- The program file at a path. -/
def programAt (f : Files) (cwd : Location) (path : Octets) : Except Errno Content :=
  match f.locate cwd path true with
  | .error e => .error e
  | .ok l =>
    match f.fileAt? l with
    | some file => if file.isProgram then .ok file.content else .error .accessDenied
    | none => .error .accessDenied

/-- Where a program of some name may be: itself if it has a directory, else in each directory of
the search path. -/
def candidates (searchPath : Octets) (program : Octets) : List Octets :=
  if '/' ∈ program then [program]
  else (pieces ':' searchPath).map fun dir =>
    if dir = [] then program
    else if endsInSlash dir then dir ++ program
    else dir ++ '/' :: program

/-- Whether a failed attempt is followed by one in the next directory. -/
def isMissing (e : Errno) : Bool := e == .noEntry || e == .notDirectory

/-- Try one place after another. A program that may not be executed is passed over, and is the
error if nothing else turns up. -/
def firstOf {α : Type} (attempt : Octets → Except Errno α) : List Octets → Except Errno α
  | [] => .error .noEntry
  | [path] => attempt path
  | path :: rest =>
    match attempt path with
    | .ok r => .ok r
    | .error e =>
      if isMissing e then firstOf attempt rest
      else if e = .accessDenied then
        match firstOf attempt rest with
        | .error later => if isMissing later then .error e else .error later
        | .ok r => .ok r
      else .error e

namespace Process

def searchPath (p : Process) : Octets :=
  (p.environment.get? (octets "PATH")).getD (octets "/bin:/usr/bin")

/-- Start the first program of a name that can be started. -/
def startNamed (start : Starter) (p : Process) (s : System) : Except Errno (Exit × System) :=
  if p.name = [] then .error .noEntry
  else firstOf (fun path => start path p s) (candidates p.searchPath p.name)

/-- Write to a descriptor. A closed one, like a full device, takes nothing. -/
def write (p : Process) (fd : Nat) (text : Octets) : Task Bool := do
  match p.descriptors.get? fd with
  | none => return text = []
  | some k =>
    let (room, s) := (← get).write k text
    set s
    return room

def out (p : Process) (text : Octets) : Task Unit := do let _ ← p.write 1 text

/-- Write a line about something that went wrong. -/
def complain (p : Process) (what : Octets) : Task Unit := do
  let _ ← p.write 2 (p.name ++ octets ": " ++ what ++ ['\n'])

/-- Read from standard input, all of it unless there is a limit. -/
def input (p : Process) (limit : Option Nat) : Task (Except Errno Octets) := do
  match p.descriptors.get? 0 with
  | none => return .error .badDescriptor
  | some k =>
    let (text, s) := (← get).read k limit
    set s
    return .ok text

/-- Give back what was read from standard input and not used: all of it to a file, but a pipe was
read in whole blocks. -/
def giveBack (p : Process) (block used unused : Nat) : Task Unit := do
  match p.descriptors.get? 0 with
  | none => return
  | some k => do
    let s ← get
    let kept := if s.isPipe k then (block - used % block) % block else 0
    set (s.seek k fun offset => offset - (unused - kept))

def readFile (p : Process) (path : Octets) (limit : Option Nat := none) :
    Task (Except Errno Octets) := do
  match (← get).openPath p.descriptors p.directory path .read with
  | .error e => return .error e
  | .ok (k, s) =>
    let (text, s) := s.read k limit
    set s
    return .ok text

/-- Read a named file, or standard input for a dash. -/
def readNamed (p : Process) (path : Octets) (limit : Option Nat := none) :
    Task (Except Errno Octets) :=
  if reads path "-" then p.input limit else p.readFile path limit

end Process

end Shortcuts.Machine
