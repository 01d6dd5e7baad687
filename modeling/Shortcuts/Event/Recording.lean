import Shortcuts.Event.Basic
import Shortcuts.Text.Quoted

/-!
# Recording field values

Any part of a program may emit events, with values of several types. A text field takes every
value in its text form; a counter takes counts alone.
-/

namespace Shortcuts

inductive FieldName
  | message
  | key
  | invocation
  | status
  | detail
  | ok
  | dryRun
  | failed
  deriving DecidableEq, Repr

inductive FieldValue
  | text (s : String)
  | count (n : Nat)
  | integer (i : Int)
  | flag (b : Bool)
  | quoted (s : String)
  deriving DecidableEq, Repr

def FieldValue.toText : FieldValue → String
  | .text s => s
  | .count n => toString n
  | .integer i => toString i
  | .flag b => if b then "true" else "false"
  | .quoted s => String.ofList (Text.quoted s.toList)

namespace Fields

def setText (f : Fields) (name : FieldName) (s : String) : Fields :=
  match name with
  | .message => { f with message := s }
  | .key => { f with key := s }
  | .invocation => { f with invocation := s }
  | .status => { f with status := s }
  | .detail => { f with detail := s }
  | .ok | .dryRun | .failed => f

def record (f : Fields) (name : FieldName) (value : FieldValue) : Fields :=
  match name, value with
  | .ok, .count n => { f with ok := n }
  | .dryRun, .count n => { f with dryRun := n }
  | .failed, .count n => { f with failed := n }
  | name, value => f.setText name value.toText

def ofValues (values : List (FieldName × FieldValue)) : Fields :=
  values.foldl (fun f (name, value) => f.record name value) {}

end Fields

namespace Event

/-- The event that is reported with these values. -/
def recorded (level : Level) (topic : Topic) (values : List (FieldName × FieldValue)) : Event where
  level := level
  topic := topic
  fields := .ofValues values

theorem plain_eq_recorded (level : Level) (message : String) :
    plain level message = recorded level .general [(.message, .text message)] := rfl

theorem stage_eq_recorded (message : String) :
    stage message = recorded .info .stage [(.message, .text message)] := rfl

theorem runStarted_eq_recorded (key invocation : String) :
    runStarted key invocation =
      recorded .info .run
        [(.message, .text key), (.key, .text key), (.invocation, .text invocation)] := rfl

theorem dryRun_eq_recorded (key invocation : String) :
    dryRun key invocation =
      recorded .info .dryRun
        [(.message, .text key), (.key, .text key), (.invocation, .text invocation)] := rfl

theorem outcome_eq_recorded (key status detail : String) :
    outcome key status detail =
      recorded .info .outcome
        [(.message, .text key), (.key, .text key), (.status, .text status),
          (.detail, .text detail)] := rfl

theorem totals_eq_recorded (ok dryRun failed : Nat) :
    totals ok dryRun failed =
      recorded .info .totals
        [(.message, .text (toString (ok + dryRun + failed) ++ " runs")), (.ok, .count ok),
          (.dryRun, .count dryRun), (.failed, .count failed)] := rfl

end Event

end Shortcuts
