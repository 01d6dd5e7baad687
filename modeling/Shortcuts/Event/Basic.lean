/-!
# Events

What the launcher reports while it works. The topic says how an event is shown; an event without
one is shown by its level.
-/

namespace Shortcuts

inductive Level
  | error
  | warn
  | info
  | debug
  | trace
  deriving DecidableEq, Repr

inductive Topic
  | general
  | stage
  | run
  | dryRun
  | outcome
  | totals
  deriving DecidableEq, Repr

structure Fields where
  message : String := ""
  key : String := ""
  invocation : String := ""
  status : String := ""
  detail : String := ""
  ok : Nat := 0
  dryRun : Nat := 0
  failed : Nat := 0
  deriving DecidableEq, Repr

structure Event where
  level : Level
  topic : Topic := .general
  fields : Fields
  deriving DecidableEq, Repr

namespace Event

def plain (level : Level) (message : String) : Event := { level, fields := { message } }

def error (message : String) : Event := plain .error message
def warn (message : String) : Event := plain .warn message
def info (message : String) : Event := plain .info message
def debug (message : String) : Event := plain .debug message

def stage (message : String) : Event := { level := .info, topic := .stage, fields := { message } }

def runStarted (key invocation : String) : Event :=
  { level := .info, topic := .run, fields := { message := key, key, invocation } }

def dryRun (key invocation : String) : Event :=
  { level := .info, topic := .dryRun, fields := { message := key, key, invocation } }

def outcome (key status detail : String) : Event :=
  { level := .info, topic := .outcome, fields := { message := key, key, status, detail } }

def totals (ok dryRun failed : Nat) : Event :=
  { level := .info, topic := .totals,
    fields := { message := toString (ok + dryRun + failed) ++ " runs", ok, dryRun, failed } }

end Event

end Shortcuts
