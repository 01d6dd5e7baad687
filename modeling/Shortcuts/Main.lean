import Std.Time.Format
import Shortcuts.Host.MountTable
import Shortcuts.Launch.Basic
import Shortcuts.Machine.Standard

/-!
# The command line

Reads the environment, the files and the prompt, shows the acts of a session as they come, and
keeps the log file. Scripts are run by the shell of the standard machine.
-/

namespace Shortcuts.Console

open Text

/-- Some system calls report their error number negated. -/
def errnoOf (code : UInt32) : Machine.Errno := ⟨code.toInt32.toInt.natAbs⟩

/-- The text of an input or output error. -/
def reason : IO.Error → String
  | .noFileOrDirectory _ code _ => (errnoOf code).message
  | .permissionDenied _ code _ => (errnoOf code).message
  | .inappropriateType _ code _ => (errnoOf code).message
  | .invalidArgument _ code _ => (errnoOf code).message
  | e => toString e

def readText (path : String) : IO (Except String String) := do
  try
    let bytes ← IO.FS.readBinFile path
    match decode? bytes.toList with
    | none => return .error notText
    | some text => return .ok (String.ofList text)
  catch e => return .error (reason e)

/-- The mount table of the running system. -/
def mountsPath : String := "/proc/self/mounts"

def readHost : IO Host := do
  let name ← readText "/proc/sys/kernel/hostname"
  let table ← readText mountsPath
  return .ofTable
    ((name.map fun n => String.ofList (trim n.toList)).mapError
      fun r => ⟨"querying host name", [r]⟩)
    (table.mapError fun r => ⟨"reading " ++ mountsPath, [r]⟩)

def readEnvironment : IO Environment := do
  return { home := ← IO.getEnv "HOME", cacheHome := ← IO.getEnv "XDG_CACHE_HOME",
           file := ← IO.getEnv "QUICKLINKS_FILE" }

/-- The bytes up to the first newline. -/
partial def readLineBytes (stream : IO.FS.Stream) : IO Bytes := do
  let read ← stream.read 1
  match read.toList with
  | [] => return []
  | b :: _ => if b = 10 then return [b] else return b :: (← readLineBytes stream)

def readLine : IO Input := do
  try
    return .bytes (← readLineBytes (← IO.getStdin))
  catch e => return .broken (reason e)

def clock (pattern : String) : IO String := do
  let now ← Std.Time.Timestamp.now
  return (Std.Time.DateTime.ofTimestampWithZone now .UTC).format pattern

def succeeds (act : IO Unit) : IO Bool := do
  try
    act
    return true
  catch _ => return false

/-- The log file of this run, if it can be opened. -/
def openLog (env : Environment) : IO (LogOpening × Option IO.FS.Handle) := do
  match env.logDirectory?, env.logPath? command with
  | some dir, some path =>
    let made ← succeeds (IO.FS.createDirAll dir)
    if !made then return (⟨false, false, false, false⟩, none)
    let header := logHeader (← clock "uuuu-MM-dd HH:mm:ss")
    let written ← succeeds (IO.FS.writeFile path header)
    let handle ← if written then some <$> IO.FS.Handle.mk path .append else pure none
    return (⟨true, written, handle.isSome, ← succeeds (IO.FS.createDirAll dir)⟩, handle)
  | _, _ => return (⟨false, false, false, false⟩, none)

def showAct (verbose : Bool) (log : Option IO.FS.Handle) (act : Act) : IO Unit := do
  let out ← IO.getStdout
  out.write ⟨(act.shown verbose .out).toArray⟩
  out.flush
  (← IO.getStderr).write ⟨(act.shown verbose .err).toArray⟩
  match log with
  | none => return
  | some h =>
    h.putStr (act.logged (← clock "HH:mm:ss"))
    h.flush

/-- The standard machine with the programs of some configurations that can be read. -/
def readMachine (configs : List Configuration) : IO Machine := do
  let mut m := Machine.standard
  for c in configs do
    let program := c.invocation.program
    if '/' ∈ program.toList ∧ !m.finds program then
      try
        let bytes ← IO.FS.readBinFile program
        m := m.withFile program { content := .data (.ofBytes bytes.toList), mode := 0o755 }
      catch _ => m := m
  return m

/-- The configurations that a plan may run. -/
def planned : Session.Plan → List Configuration
  | .finished _ => []
  | .chosen _ configs _ => configs
  | .ask _ configs => configs

def session (o : Options) : IO UInt32 := do
  let env ← readEnvironment
  let (opening, log) ← openLog env
  let journal : Journal := { location := opening.location? env command }
  let finish (o : Outcome) : IO UInt32 := do
    (← IO.getStderr).putStr (Launch.closing o.result)
    return (Launch.ended false none o).status.toUInt32
  match env.resolveFile o.file with
  | .error e => finish ⟨[], .error e, journal⟩
  | .ok path =>
    let plan := Session.plan (← readHost) o path (← readText path) journal
    let machine ← readMachine (planned plan)
    match plan with
    | .ask acts _ =>
      acts.forM (showAct o.verbose log)
      let done := plan.complete machine.executor (← readLine) o.dryRun journal
      (done.acts.drop acts.length).forM (showAct o.verbose log)
      finish done
    | plan =>
      let done := plan.complete machine.executor (.bytes []) o.dryRun journal
      done.acts.forM (showAct o.verbose log)
      finish done

def refused (r : Refusal) : IO UInt32 := do
  let done := Launch.answered r r.diagnosis
  (← IO.getStdout).putStr done.out
  (← IO.getStderr).putStr done.err
  return done.status.toUInt32

end Shortcuts.Console

def main (args : List String) : IO UInt32 :=
  match Shortcuts.Options.parse args with
  | .error r => Shortcuts.Console.refused r
  | .ok o => Shortcuts.Console.session o
