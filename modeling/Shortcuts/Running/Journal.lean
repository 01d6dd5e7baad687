import Shortcuts.Trace

/-!
# The journal

The journal reports what happens and keeps a record of every run for the summary. Only recording a
run changes what it reports later.
-/

namespace Shortcuts

inductive Status
  | ok
  | dryRun
  | failed
  deriving DecidableEq, Repr

def Status.label : Status → String
  | .ok => "ok"
  | .dryRun => "dry-run"
  | .failed => "failed"

structure Record where
  key : String
  status : Status
  message : Option String := none
  deriving DecidableEq, Repr

structure Journal where
  records : List Record := []
  /-- The log file that the summary names. -/
  location : Option String := none
  deriving DecidableEq, Repr

namespace Journal

def count (j : Journal) (s : Status) : Nat := j.records.countP fun r => r.status == s

def failures (j : Journal) : Nat := j.count .failed

def add (j : Journal) (r : Record) : Journal := { j with records := j.records ++ [r] }

def outcome (r : Record) : Act := .event (.outcome r.key r.status.label (r.message.getD ""))

def totals (j : Journal) : Act :=
  .event (.totals (j.count .ok) (j.count .dryRun) (j.count .failed))

def locationNote (j : Journal) : Trace :=
  match j.location with
  | none => []
  | some path => [.event (.info ("log: " ++ path))]

/-- The summary of all recorded runs; nothing when there are none. -/
def summary (j : Journal) : Trace :=
  if j.records = [] then []
  else
    [.print "\n", .event (.stage "Summary")] ++ j.records.map outcome
      ++ [.print "\n", j.totals] ++ j.locationNote

/-- The operations of a journal. -/
inductive Operation
  | error (message : String)
  | warn (message : String)
  | stage (message : String)
  | info (message : String)
  | debug (message : String)
  | runStarted (key invocation : String)
  | dryRun (key invocation : String)
  | record (r : Record)
  | failures
  | summary
  deriving DecidableEq, Repr

def acts (j : Journal) : Operation → Trace
  | .error m => [.event (.error m)]
  | .warn m => [.event (.warn m)]
  | .stage m => [.event (.stage m)]
  | .info m => [.event (.info m)]
  | .debug m => [.event (.debug m)]
  | .runStarted key invocation => [.event (.runStarted key invocation)]
  | .dryRun key invocation => [.event (.dryRun key invocation)]
  | .record _ => []
  | .failures => []
  | .summary => j.summary

def after (j : Journal) : Operation → Journal
  | .record r => j.add r
  | _ => j

end Journal

end Shortcuts
