import Shortcuts.Machine.Errno
import Shortcuts.Machine.Utility.Basic
import Shortcuts.Text.Octets
import Shortcuts.Text.Split

/-!
# Files

An in-memory file tree. A path is walked name by name: every name on the way must be there, and
all but the last must be directories. Entries of files name their contents by number, so that
several entries can share one file, and a file that is open stays when its entry goes.
-/

namespace Shortcuts.Machine

open Text

inductive Device
  /-- Swallows what is written and has nothing to read. -/
  | sink
  /-- An endless supply of zero bytes. -/
  | zeros
  /-- Zero bytes to read, no room to write. -/
  | full
  /-- The terminal of a process, which none has here. -/
  | terminal
  /-- Something of which nothing can be read. -/
  | unreadable
  /-- What the process that opens it has open under a number. -/
  | descriptor (fd : Nat)
  deriving DecidableEq, Repr

inductive Content
  | data (held : Octets)
  | program (u : Utility)
  | device (d : Device)
  deriving DecidableEq, Repr

structure File where
  content : Content
  mode : Nat := 0o644
  deriving DecidableEq, Repr

def File.isProgram (f : File) : Bool := f.mode &&& 0o111 != 0

/-- Names from the root. -/
abbrev Location := List Octets

inductive Entry
  | directory
  | file (number : Nat)
  | link (target : Octets)
  /-- Leads to the working directory of whoever asks. -/
  | workingDirectory
  deriving DecidableEq, Repr

structure Files where
  entries : List (Location × Entry) := []
  files : Array File := #[]
  deriving Repr

/-- What a file is opened for. -/
inductive Access
  | read
  | overwrite
  | append
  | update
  deriving DecidableEq, Repr

/-- The names of a path. -/
def names (path : Octets) : List Octets := (pieces '/' path).filter fun s => !s.isEmpty

def isRooted (path : Octets) : Bool := path.head? == some '/'

def endsInSlash (path : Octets) : Bool := path.getLast? == some '/'

/-- A name that every directory has. -/
def isDots (name : Octets) : Bool := reads name "." || reads name ".."

/-- The longest path is one byte shorter. -/
def pathLimit : Nat := 4096

def nameLimit : Nat := 255

def linkLimit : Nat := 40

namespace Files

def entry? (f : Files) (l : Location) : Option Entry :=
  if l = [] then some .directory else (f.entries.find? fun e => e.1 == l).map Prod.snd

def isDirectory (f : Files) (l : Location) : Bool := f.entry? l == some .directory

def set (f : Files) (l : Location) (e : Entry) : Files :=
  { f with entries := (l, e) :: f.entries.filter fun m => m.1 != l }

/-- Drop the entries for which `gone` holds. -/
def drop (f : Files) (gone : Location → Bool) : Files :=
  { f with entries := f.entries.filter fun m => !gone m.1 }

/-- The names in a directory, in order. -/
def children (f : Files) (l : Location) : List Octets :=
  let found := f.entries.filterMap fun e =>
    match e.1.getLast? with
    | some name => if e.1.dropLast = l then some name else none
    | none => none
  found.mergeSort Octets.upTo

/-- Walk from a directory. A link is followed unless it comes last and is asked for itself. -/
def walk (f : Files) (cwd : Location) (follow : Bool) (links : Nat) (here : Location) :
    List Octets → Except Errno Location
  | [] => .ok here
  | name :: rest =>
    if !f.isDirectory here then .error .notDirectory
    else if reads name "." then f.walk cwd follow links here rest
    else if reads name ".." then f.walk cwd follow links here.dropLast rest
    else if nameLimit < name.length then .error .nameTooLong
    else
      match f.entry? (here ++ [name]) with
      | none => .error .noEntry
      | some (.link target) =>
        if rest = [] ∧ !follow then .ok (here ++ [name])
        else
          match links with
          | 0 => .error .linkLoop
          | links + 1 =>
            f.walk cwd follow links (if isRooted target then [] else here) (names target ++ rest)
      | some .workingDirectory =>
        if rest = [] ∧ !follow then .ok (here ++ [name]) else f.walk cwd follow links cwd rest
      | some _ => f.walk cwd follow links (here ++ [name]) rest
  termination_by todo => (links, todo.length)

def start (cwd : Location) (path : Octets) : Location := if isRooted path then [] else cwd

def refusal? (path : Octets) : Option Errno :=
  if path = [] then some .noEntry
  else if pathLimit ≤ path.length then some .nameTooLong
  else none

/-- Where a path leads. A slash at the end asks for a directory. -/
def locate (f : Files) (cwd : Location) (path : Octets) (follow : Bool) : Except Errno Location :=
  match refusal? path with
  | some e => .error e
  | none =>
    let todo := if endsInSlash path then names path ++ [['.']] else names path
    f.walk cwd follow linkLimit (start cwd path) todo

/-- The location that a path names, whether or not something is there. -/
def place (f : Files) (cwd : Location) (path : Octets) : Except Errno Location :=
  match refusal? path, (names path).getLast? with
  | some e, _ => .error e
  | none, none => .ok []
  | none, some last =>
    if isDots last then f.walk cwd true linkLimit (start cwd path) (names path)
    else
      match f.walk cwd true linkLimit (start cwd path) (names path).dropLast with
      | .error e => .error e
      | .ok here =>
        if !f.isDirectory here then .error .notDirectory
        else if nameLimit < last.length then .error .nameTooLong
        else .ok (here ++ [last])

/-- Directories in which the system itself makes the entries. -/
def barred? (l : Location) : Option Errno :=
  match l with
  | top :: _ =>
    if reads top "proc" then some .noEntry
    else if reads top "sys" then some .notPermitted
    else none
  | [] => none

def file? (f : Files) (number : Nat) : Option File := f.files[number]?

def fileAt? (f : Files) (l : Location) : Option File :=
  match f.entry? l with
  | some (.file number) => f.file? number
  | _ => none

/-- A new file that no entry names yet. -/
def add (f : Files) (file : File) : Nat × Files :=
  (f.files.size, { f with files := f.files.push file })

def setContent (f : Files) (number : Nat) (held : Octets) : Files :=
  { f with files := f.files.modify number fun file => { file with content := .data held } }

def setMode (f : Files) (number : Nat) (mode : Nat) : Files :=
  { f with files := f.files.modify number fun file => { file with mode } }

/-- Put a file in place of what is at a location. -/
def putFile (f : Files) (l : Location) (file : File) : Files :=
  let (number, f) := f.add file
  f.set l (.file number)

def create (f : Files) (cwd : Location) (path : Octets) : Except Errno (Nat × Files) :=
  match f.place cwd path with
  | .error e => .error e
  | .ok l =>
    if endsInSlash path then .error .isDirectory
    else
      match barred? l with
      | some e => .error e
      | none =>
        let (number, f) := f.add { content := .data [] }
        .ok (number, f.set l (.file number))

def truncate (f : Files) (number : Nat) : Files :=
  match f.file? number with
  | some { content := .device _, .. } => f
  | _ => f.setContent number []

/-- The number of a file that is opened. Writing makes it if it is not there. -/
def openFile (f : Files) (cwd : Location) (path : Octets) (a : Access) :
    Except Errno (Nat × Files) :=
  match f.locate cwd path true with
  | .ok l =>
    match f.entry? l with
    | some (.file number) => .ok (number, if a = .overwrite then f.truncate number else f)
    | _ => .error .isDirectory
  | .error e => if e = .noEntry ∧ a ≠ .read then f.create cwd path else .error e

def read (f : Files) (cwd : Location) (path : Octets) : Except Errno Octets :=
  match f.openFile cwd path .read with
  | .error e => .error e
  | .ok (number, f) =>
    match f.file? number with
    | some { content := .data held, .. } => .ok held
    | _ => .ok []

def makeDirectory (f : Files) (cwd : Location) (path : Octets) : Except Errno Files :=
  match f.place cwd path with
  | .error e => .error e
  | .ok l =>
    if (f.entry? l).isSome then .error .taken
    else
      match barred? l with
      | some e => .error e
      | none => .ok (f.set l .directory)

def leadsToDirectory (f : Files) (cwd : Location) (path : Octets) : Bool :=
  match f.locate cwd path true with
  | .ok l => f.isDirectory l
  | .error _ => false

def joined (rooted : Bool) (names : List Octets) : Octets :=
  (if rooted then ['/'] else []) ++ ['/'].intercalate names

/-- Make a directory, and those above it where they are missing. The names come last one first.
What was made stays when a later step fails. -/
def makeAll (f : Files) (cwd : Location) (rooted : Bool) : List Octets → Bool × Files
  | [] => (true, f)
  | name :: above =>
    let path := joined rooted (name :: above).reverse
    match f.makeDirectory cwd path with
    | .ok f => (true, f)
    | .error e =>
      if e ≠ .noEntry then (f.leadsToDirectory cwd path, f)
      else
        match f.makeAll cwd rooted above with
        | (false, f) => (false, f)
        | (true, f) =>
          match f.makeDirectory cwd path with
          | .ok f => (true, f)
          | .error _ => (f.leadsToDirectory cwd path, f)

/-- Make a directory with all above it. -/
def makeDirectories (f : Files) (cwd : Location) (path : Octets) : Bool × Files :=
  if pathLimit ≤ path.length then (false, f)
  else f.makeAll cwd (isRooted path) ((names path).filter fun n => !reads n ".").reverse

def removeFile (f : Files) (cwd : Location) (path : Octets) : Except Errno Files :=
  match f.locate cwd path false with
  | .error e => .error e
  | .ok l =>
    if f.isDirectory l then .error .isDirectory else .ok (f.drop fun m => m == l)

def removeDirectory (f : Files) (cwd : Location) (path : Octets) : Except Errno Files :=
  match f.locate cwd path false with
  | .error e => .error e
  | .ok l =>
    if !f.isDirectory l then .error .notDirectory
    else if (names path).getLast? = some ['.'] then .error .invalid
    else if (names path).getLast? = some ['.', '.'] ∨ f.children l ≠ [] then .error .notEmpty
    else if l = [] then .error .busy
    else .ok (f.drop fun m => m == l)

/-- Drop a location and all below it. -/
def removeTree (f : Files) (l : Location) : Files := f.drop fun m => l.isPrefixOf m

/-- Move a location and all below it. -/
def moveTree (f : Files) (source target : Location) : Files :=
  let moved := f.entries.filterMap fun e =>
    if source.isPrefixOf e.1 then some (target ++ e.1.drop source.length, e.2) else none
  let f := (f.removeTree source).drop fun m => m == target
  { f with entries := moved ++ f.entries }

end Files

end Shortcuts.Machine
