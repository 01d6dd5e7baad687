import Shortcuts.Configuration.Basic
import Shortcuts.Trace

/-!
# Running a configuration

An executor finds programs and starts them. Its answers may depend on all that went before: on
earlier calls, and on what they and the session left in files. A run looks the program up and
starts it only if it was found.
-/

namespace Shortcuts

/-- How a started program ended. There is no code when a signal ended it. -/
structure Completion where
  success : Bool
  code : Option Int
  deriving DecidableEq, Repr

/-- The completion that a Unix wait status reports. -/
def Completion.ofWaitStatus (raw : Int) : Completion where
  success := raw == 0
  code := if raw % 128 = 0 then some (raw / 256 % 256) else none

/-- The answer to a start: the end of the program or why it did not start, and what it wrote. -/
structure Reply where
  result : Except Failure Completion
  written : List (Stream × Text.Bytes) := []

structure Executor where
  which : Trace → String → Bool
  start : Trace → String → List String → Reply

/-- An executor whose answers depend on the earlier calls alone. -/
def Executor.ofCalls (which : List Call → String → Bool)
    (start : List Call → String → List String → Reply) : Executor where
  which past := which past.calls
  start past := start past.calls

inductive RunError
  | programNotFound (program : String)
  | failed (key : String) (code : Int)
  | notStarted (failure : Failure)
  deriving DecidableEq, Repr

namespace RunError

def toFailure : RunError → Failure
  | .programNotFound program => { message := "program '" ++ program ++ "' not found" }
  | .failed key code => { message := "'" ++ key ++ "' failed (exit " ++ toString code ++ ")" }
  | .notStarted failure => failure

end RunError

/-- A program that ended without success failed with its code, or with -1 when it has none. -/
def Completion.judge (key : String) (c : Completion) : Except RunError Completion :=
  if c.success then .ok c else .error (.failed key (c.code.getD (-1)))

def Reply.acts (r : Reply) : Trace := r.written.map fun w => Act.output w.1 w.2

def Reply.judge (key : String) (r : Reply) : Except RunError Completion :=
  match r.result with
  | .error failure => .error (.notStarted failure)
  | .ok c => c.judge key

/-- Run a configuration after the acts in `past`. -/
def Configuration.run (x : Executor) (past : Trace) (c : Configuration) :
    Traced RunError Completion :=
  let program := c.invocation.program
  let args := c.invocation.args
  let lookup := Act.call (.which program)
  if x.which past program then
    let reply := x.start (past ++ [lookup]) program args
    ⟨lookup :: .call (.start program args) :: reply.acts, reply.judge c.key⟩
  else
    ⟨[lookup], .error (.programNotFound program)⟩

end Shortcuts
