import Shortcuts.Launch.Environment

/-!
# Launching

A launch reads the command line, opens the log file and carries out a session. The file operations
at the start may fail one by one: then nothing is logged, or the summary names no log file, and
the session goes on.
-/

namespace Shortcuts

/-- Whether each file operation at the start succeeds. The directory is asked for twice: for the
log file itself, and for the place that the summary names. -/
structure LogOpening where
  directory : Bool
  header : Bool
  appending : Bool
  directoryAgain : Bool
  deriving DecidableEq, Repr

namespace LogOpening

/-- The file that events are appended to. -/
def file? (o : LogOpening) (env : Environment) (command : String) : Option String :=
  if o.directory && o.header && o.appending then env.logPath? command else none

/-- The file that the summary names. -/
def location? (o : LogOpening) (env : Environment) (command : String) : Option String :=
  if o.directoryAgain then env.logPath? command else none

end LogOpening

/-- All that a launch depends on apart from the command line. -/
structure World where
  environment : Environment
  host : Host
  executor : Executor
  input : Input
  /-- The text of a file, or the reason why it cannot be read. -/
  readText : String → Except String String
  opening : LogOpening
  /-- What standard error says of a command line that is refused. It may quote any of its words. -/
  diagnosis : List String → Refusal → String := fun _ r => r.diagnosis

/-- The name that the launcher gives its log file. -/
def command : String := "quicklinks"

/-- The first line of a log file. -/
def logHeader (stamp : String) : String :=
  "# " ++ command ++ " " ++ version ++ " started " ++ stamp ++ " UTC\n"

/-- A finished launch: the command line was not carried out, or it led to a session. -/
inductive Launch
  | answered (r : Refusal) (diagnosis : String)
  | ended (verbose : Bool) (logFile : Option String) (o : Outcome)

/-- The session that the options ask for. -/
def World.session (w : World) (o : Options) (j : Journal) : Outcome :=
  match w.environment.resolveFile o.file with
  | .error e => ⟨[], .error e, j⟩
  | .ok path => Session.run w.host w.executor w.input o path (w.readText path) j

def World.journal (w : World) : Journal :=
  { location := w.opening.location? w.environment command }

def World.launchWith (w : World) (o : Options) : Launch :=
  .ended o.verbose (w.opening.file? w.environment command) (w.session o w.journal)

def World.launch (w : World) (args : List String) : Launch :=
  match Options.parse args with
  | .error r => .answered r (w.diagnosis args r)
  | .ok o => w.launchWith o

namespace Launch

/-- The exit status. -/
def status : Launch → Nat
  | .answered .help _ | .answered .version _ => 0
  | .answered _ _ => 2
  | .ended _ _ o =>
    match o.result with
    | .ok _ => 0
    | .error _ => 1

def out : Launch → String
  | .answered .help _ => helpText
  | .answered .version _ => versionText
  | .answered _ _ => ""
  | .ended verbose _ o => o.acts.terminal verbose .out

/-- What was done in the session, if there was one. -/
def acts : Launch → Trace
  | .answered _ _ => []
  | .ended _ _ o => o.acts

def closing : Except SessionError Unit → String
  | .ok _ => ""
  | .error e => "Error: " ++ e.toFailure.report ++ "\n"

def err : Launch → String
  | .answered .help _ | .answered .version _ => ""
  | .answered _ diagnosis => diagnosis
  | .ended verbose _ o => o.acts.terminal verbose .err ++ closing o.result

/-- The log file with all that it holds at the end. -/
def log? (stamp time : String) : Launch → Option (String × String)
  | .ended _ (some path) o => some (path, logHeader stamp ++ o.acts.log time)
  | _ => none

end Launch

end Shortcuts
