import Shortcuts.Event.Rendering
import Shortcuts.Text.Bytes

/-!
# Traces

A session is known by its acts, in order: questions to the host, calls on the executor, events,
text printed straight to the terminal, output of the programs it started and what it took from
standard input. What a terminal and a log file show of a session are views of this list.
-/

namespace Shortcuts

inductive Query
  | hostname
  | mounted (point : String)
  deriving DecidableEq, Repr

inductive Call
  | which (program : String)
  | start (program : String) (args : List String)
  deriving DecidableEq, Repr

inductive Act
  | query (q : Query)
  | call (c : Call)
  | event (e : Event)
  | print (text : String)
  | output (stream : Stream) (written : Text.Bytes)
  /-- So many bytes were taken from standard input. -/
  | took (count : Nat)
  deriving DecidableEq, Repr

namespace Act

def query? : Act → Option Query
  | .query q => some q
  | _ => none

def call? : Act → Option Call
  | .call c => some c
  | _ => none

def event? : Act → Option Event
  | .event e => some e
  | _ => none

/-- What one stream of the terminal shows of an act. -/
def shown (verbose : Bool) (stream : Stream) : Act → Text.Bytes
  | .event e =>
    if e.level.onConsole verbose ∧ e.level.stream = stream then
      Text.encode (e.consoleText ++ "\n").toList
    else []
  | .print text => if stream = .out then Text.encode text.toList else []
  | .output s written => if s = stream then written else []
  | .query _ | .call _ | .took _ => []

/-- What the log file gets of an act, at a time of day. -/
def logged (time : String) : Act → String
  | .event e => if e.level.inLog then "[" ++ time ++ "] " ++ e.logLine ++ "\n" else ""
  | _ => ""

end Act

abbrev Trace := List Act

namespace Trace

def queries (t : Trace) : List Query := t.filterMap Act.query?

def calls (t : Trace) : List Call := t.filterMap Act.call?

def events (t : Trace) : List Event := t.filterMap Act.event?

/-- What one stream of the terminal gets. -/
def shown (verbose : Bool) (stream : Stream) (t : Trace) : Text.Bytes :=
  t.flatMap (Act.shown verbose stream)

def terminal (verbose : Bool) (stream : Stream) (t : Trace) : String :=
  String.ofList (Text.decodeLossy (t.shown verbose stream))

def log (time : String) (t : Trace) : String := String.join (t.map (Act.logged time))

end Trace

/-- A computation that may fail, with the acts it made on the way. -/
structure Traced (ε α : Type) where
  acts : Trace := []
  result : Except ε α

namespace Traced

variable {ε δ α β : Type}

def ok (a : α) : Traced ε α := ⟨[], .ok a⟩

def fail (e : ε) : Traced ε α := ⟨[], .error e⟩

def act (a : Act) : Traced ε Unit := ⟨[a], .ok ()⟩

/-- A failure ends the computation; the acts made before it stay. -/
def andThen (x : Traced ε α) (f : α → Traced ε β) : Traced ε β :=
  match x.result with
  | .error e => ⟨x.acts, .error e⟩
  | .ok a => ⟨x.acts ++ (f a).acts, (f a).result⟩

instance : Monad (Traced ε) where
  pure := ok
  bind := andThen

def mapError (f : ε → δ) (x : Traced ε α) : Traced δ α := ⟨x.acts, x.result.mapError f⟩

end Traced

end Shortcuts
