import Shortcuts.Configuration.Loading
import Shortcuts.Running.Executor
import Shortcuts.Running.Journal
import Shortcuts.Selection.Basic
import Shortcuts.Session.Options

/-!
# Sessions

A session loads a file, settles what was chosen and runs it. One chosen configuration is run on
its own; several are recorded and summed up, and a failure among them does not stop the others.
-/

namespace Shortcuts

inductive SessionError
  | noFile
  | load (path : String) (e : LoadError)
  | selection (e : SelectionError)
  | run (e : RunError)
  | runsFailed (count : Nat)
  deriving DecidableEq, Repr

def SessionError.toFailure : SessionError → Failure
  | .noFile => { message := "missing configuration file. Pass --file or set QUICKLINKS_FILE" }
  | .load path e => e.toFailure.context ("loading " ++ path)
  | .selection e => e.toFailure
  | .run e => e.toFailure
  | .runsFailed count => { message := toString count ++ " run(s) failed" }

/-- The end of a session: its acts, its result, and the journal it leaves. -/
structure Outcome where
  acts : Trace
  result : Except SessionError Unit
  journal : Journal

namespace Session

def duplicateWarning (key : String) : Act :=
  .event (.warn ("key '" ++ key ++
    "' is used more than once; the later entries are only reachable by number"))

/-- The first act of a session. -/
def greeting : Act := .event (.debug ("quicklinks " ++ version))

/-- Load the file, and warn of every duplicate key. -/
def opening (h : Host) (path : String) (content : Except String String) :
    Traced SessionError (List Configuration) := do
  .act greeting
  let configs ← (load h path content).mapError (SessionError.load path)
  .act (.event (.debug
    ("loaded " ++ toString configs.length ++ " entries from " ++ path)))
  ⟨(duplicateKeys configs).map duplicateWarning, .ok configs⟩

def listing (configs : List Configuration) : Trace :=
  (numberedLines configs).map fun line => .print (line ++ "\n")

def prompt : Act := .print "Please enter at least one number or key: "

/-- Announce a configuration, and run it unless this is a dry run. -/
def runOne (x : Executor) (dryRun : Bool) (past : Trace) (c : Configuration) :
    Traced RunError Status :=
  let line := c.invocation.display
  if dryRun then ⟨[.event (.dryRun c.key line)], .ok .dryRun⟩
  else
    let started := Act.event (.runStarted c.key line)
    let run := c.run x (past ++ [started])
    ⟨started :: run.acts, run.result.map fun _ => .ok⟩

/-- The record of a run. A failure is recorded with its full text. -/
def recordOf (key : String) : Except RunError Status → Record
  | .ok status => { key, status }
  | .error e => { key, status := .failed, message := some e.toFailure.full }

def failureNote : Except RunError Status → Trace
  | .ok _ => []
  | .error e => [.event (.error e.toFailure.full)]

/-- Run the configurations in order, whatever becomes of each. -/
def runEach (x : Executor) (dryRun : Bool) (past : Trace) :
    List Configuration → Trace × List Record
  | [] => ([], [])
  | c :: rest =>
    let one := runOne x dryRun past c
    let acts := one.acts ++ failureNote one.result
    let others := runEach x dryRun (past ++ acts) rest
    (acts ++ others.1, recordOf c.key one.result :: others.2)

def verdict (j : Journal) : Except SessionError Unit :=
  if 0 < j.failures then .error (.runsFailed j.failures) else .ok ()

/-- Run what was selected, after the acts in `past`. -/
def perform (x : Executor) (dryRun : Bool) (j : Journal) (past : Trace) :
    List Configuration → Outcome
  | [] => ⟨[.event (.warn "nothing chosen")], .ok (), j⟩
  | [c] =>
    let one := runOne x dryRun past c
    ⟨one.acts, (one.result.mapError SessionError.run).map fun _ => (), j⟩
  | configs =>
    let (acts, records) := runEach x dryRun past configs
    let j := { j with records := j.records ++ records }
    ⟨acts ++ j.summary, verdict j, j⟩

/-- Select by the words and run. What went before is part of the outcome. -/
def carryOut (x : Executor) (dryRun : Bool) (j : Journal) (past : Trace)
    (configs : List Configuration) (words : Except SelectionError (List String)) : Outcome :=
  match words.bind (select configs) with
  | .error e => ⟨past, .error (.selection e), j⟩
  | .ok selected =>
    let rest := perform x dryRun j past (selected.map Prod.fst)
    { rest with acts := past ++ rest.acts }

/-- What a session shows before it runs anything, and what it does then. -/
inductive Plan
  | finished (o : Outcome)
  | chosen (acts : Trace) (configs : List Configuration) (words : List String)
  | ask (acts : Trace) (configs : List Configuration)

def plan (h : Host) (o : Options) (path : String) (content : Except String String)
    (j : Journal) : Plan :=
  let start := opening h path content
  match start.result with
  | .error e => .finished ⟨start.acts, .error e, j⟩
  | .ok configs =>
    if o.list then .finished ⟨start.acts ++ listing configs, .ok (), j⟩
    else if o.choices = [] then .ask (start.acts ++ listing configs ++ [prompt]) configs
    else .chosen start.acts configs o.choices

def Plan.complete (x : Executor) (input : Input) (dryRun : Bool) (j : Journal) : Plan → Outcome
  | .finished o => o
  | .chosen acts configs words => carryOut x dryRun j acts configs (.ok words)
  | .ask acts configs =>
    carryOut x dryRun j (acts ++ [.took input.readAhead]) configs (readChoices input).1

/-- A whole session on one file. -/
def run (h : Host) (x : Executor) (input : Input) (o : Options) (path : String)
    (content : Except String String) (j : Journal) : Outcome :=
  (plan h o path content j).complete x input o.dryRun j

end Session

end Shortcuts
