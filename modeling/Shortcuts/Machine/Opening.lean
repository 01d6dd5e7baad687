import Shortcuts.Machine.Files

/-!
# Open files

A system holds the files and what is open among them. What is open has a place where reading and
writing go on, and may be shared: by the descriptors of one process, and by several processes.
Standard input, the two output streams, pipes and here-documents are files without an entry. What
was read from a pipe is gone for everyone who has it open.
-/

namespace Shortcuts.Machine

open Text

structure Opening where
  file : Nat
  offset : Nat := 0
  appending : Bool := false
  pipe : Bool := false
  deriving DecidableEq, Repr

structure System where
  files : Files
  openings : Array Opening := #[]
  /-- How many processes were started. -/
  started : Nat := 0
  /-- Signals on their way, by process and number. -/
  signals : List (Nat × Nat) := []
  deriving Repr

/-- What a process has open: numbers of openings by descriptor. -/
abbrev Descriptors := List (Nat × Nat)

namespace Descriptors

def get? (t : Descriptors) (fd : Nat) : Option Nat := (t.find? fun d => d.1 == fd).map Prod.snd

def close (t : Descriptors) (fd : Nat) : Descriptors := t.filter fun d => d.1 != fd

def set (t : Descriptors) (fd opening : Nat) : Descriptors := (fd, opening) :: close t fd

end Descriptors

namespace System

def openFile (s : System) (o : Opening) : Nat × System :=
  (s.openings.size, { s with openings := s.openings.push o })

/-- Open a new file that has no entry. -/
def openNew (s : System) (held : Octets) (pipe : Bool) : Nat × System :=
  let (number, files) := s.files.add { content := .data held }
  { s with files }.openFile { file := number, pipe }

/-- Open a file anew under its number. -/
def openNumber (s : System) (number : Nat) (a : Access) : Nat × System :=
  let files := if a = .overwrite then s.files.truncate number else s.files
  { s with files }.openFile { file := number, appending := decide (a = Access.append) }

/-- Open what a path leads to. A path that stands for a descriptor opens its file anew, or shares
its pipe. -/
def openPath (s : System) (t : Descriptors) (cwd : Location) (path : Octets) (a : Access) :
    Except Errno (Nat × System) :=
  match s.files.openFile cwd path a with
  | .error e => .error e
  | .ok (number, files) =>
    match files.file? number with
    | some { content := .device .terminal, .. } => .error .noDevice
    | some { content := .device .unreadable, .. } => .error .inputOutput
    | some { content := .device (.descriptor fd), .. } =>
      match t.get? fd with
      | some k =>
        match s.openings[k]? with
        | some o => if o.pipe then .ok (k, s) else .ok (s.openNumber o.file a)
        | none => .error .noEntry
      | none => .error .noEntry
    | _ => .ok ({ s with files }.openNumber number a)

def content? (s : System) (k : Nat) : Option Content :=
  s.openings[k]?.bind fun o => (s.files.file? o.file).map File.content

/-- How the file of a program begins. -/
def programHead : Octets := Octets.ofBytes [0x7F, 0x45, 0x4C, 0x46, 0x80]

/-- What is left to read. -/
def remaining (s : System) (k : Nat) : Octets :=
  match s.openings[k]?, s.content? k with
  | some o, some (.data held) => held.drop o.offset
  | some o, some (.program _) => programHead.drop o.offset
  | _, _ => []

def isPipe (s : System) (k : Nat) : Bool := s.openings[k]?.any Opening.pipe

def seek (s : System) (k : Nat) (move : Nat → Nat) : System :=
  { s with openings := s.openings.modify k fun o => { o with offset := move o.offset } }

/-- Read as much as there is, up to a limit. -/
def read (s : System) (k : Nat) (limit : Option Nat) : Octets × System :=
  match s.content? k, limit with
  | some (.device .zeros), some n | some (.device .full), some n => (List.replicate n '\x00', s)
  | _, _ =>
    let rest := s.remaining k
    let taken := match limit with
      | none => rest
      | some n => rest.take n
    (taken, s.seek k (· + taken.length))

/-- Write at the place of an opening, or at the end if it appends. Whether there was room. -/
def write (s : System) (k : Nat) (text : Octets) : Bool × System :=
  match s.openings[k]?, s.content? k with
  | some o, some (.data held) =>
    let offset := if o.appending then held.length else o.offset
    let before := held.take offset
    let gap := List.replicate (offset - before.length) '\x00'
    let after := held.drop (offset + text.length)
    let files := s.files.setContent o.file (before ++ gap ++ text ++ after)
    (true, { s with files }.seek k fun _ => offset + text.length)
  | _, some (.device .full) => (text = [], s)
  | _, _ => (true, s)

end System

end Shortcuts.Machine
