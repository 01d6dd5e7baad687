import Shortcuts.Host.MountTable
import Shortcuts.Launch.Basic
import Shortcuts.Machine.Basic

/-!
# Launching on a machine

The machine answers for the programs, the files and the mount table. The log file is one of its
files: programs that are started can read in it what was logged before.
-/

namespace Shortcuts.Machine

open Text

/-- The mount table of a machine whose file systems are those every system has. -/
def mountTable : String :=
  "/dev/root / ext4 rw 0 0\n" ++ "proc /proc proc rw 0 0\n" ++ "sysfs /sys sysfs rw 0 0\n"
    ++ "tmpfs /dev tmpfs rw 0 0\n"

/-- A host without a name is none that an entry can be bound to. -/
def host : Host := .ofTable (.ok "") (.ok mountTable)

def withFiles (m : Machine) (files : Files) : Machine :=
  { m with system := { m.system with files } }

/-- Put a directory in place with all above it. -/
def makeDirectory (m : Machine) (path : Option String) : Bool × Machine :=
  match path with
  | none => (false, m)
  | some path =>
    let (made, files) := m.system.files.makeDirectories m.directory (octets path)
    (made, m.withFiles files)

/-- Open a file. -/
def openFile (m : Machine) (path : Option String) (a : Access) : Option (Nat × Machine) :=
  match path with
  | none => none
  | some path =>
    match m.system.openPath m.descriptors m.directory (octets path) a with
    | .error _ => none
    | .ok (k, system) => some (k, { m with system })

/-- Put a text in place of what a file holds. -/
def writeText (m : Machine) (path : Option String) (text : String) : Bool × Machine :=
  match m.openFile path .overwrite with
  | none => (false, m)
  | some (k, m) =>
    let (room, system) := m.system.write k (octets text)
    (room, { m with system })

/-- Start a log file for a command and keep it open. -/
def openLog (m : Machine) (env : Environment) (command header time : String) :
    LogOpening × Machine :=
  let (made, m) := m.makeDirectory env.logDirectory?
  if made then
    let (written, m) := m.writeText (env.logPath? command) header
    let (appending, m) :=
      match if written then m.openFile (env.logPath? command) .append else none with
      | some (opening, m) => (true, { m with log := some { opening, time } })
      | none => (false, m)
    let (again, m) := m.makeDirectory env.logDirectory?
    (⟨true, written, appending, again⟩, m)
  else (⟨false, false, false, false⟩, m)

/-- The place of a command's log file, its directory made. -/
def nameLog (m : Machine) (env : Environment) (command : String) : Option String × Machine :=
  let (made, m) := m.makeDirectory env.logDirectory?
  (if made then env.logPath? command else none, m)

/-- What is left of standard input. -/
def inputBytes (m : Machine) : Bytes := Octets.toBytes (m.system.remaining m.input)

/-- The machine as it is when a configuration file has been read. -/
def afterReading (m : Machine) (path : Except SessionError String) : Machine :=
  match path with
  | .error _ => m
  | .ok path => (m.readText path).2

/-- The world of a launch with some options. The configuration file is read after the first act,
and before anything else of standard input. -/
def world (m : Machine) (env : Environment) (o : Options) (opening : LogOpening) : World :=
  let next := m.afterReading (env.resolveFile o.file)
  { environment := env
    host := host
    executor := next.executor
    input := .bytes next.inputBytes
    readText := fun path => ((m.after [Session.greeting]).readText path).1
    opening := opening }

/-- Launch, and go on with the machine that the launch leaves. -/
def launch (m : Machine) (env : Environment) (stamp time : String) (args : List String) :
    Launch × Machine :=
  match Options.parse args with
  | .error r => (.answered r r.diagnosis, m)
  | .ok o =>
    let (opening, m) := m.openLog env command (logHeader stamp) time
    let done := (m.world env o opening).launchWith o
    (done, m.after done.acts)

/-- The text of the log file that a machine holds for a command. -/
def logText? (m : Machine) (env : Environment) (command : String) : Option String :=
  (env.logPath? command).bind fun path =>
    match m.system.files.read m.directory (octets path) with
    | .error _ => none
    | .ok held => some (spelled held)

end Shortcuts.Machine
