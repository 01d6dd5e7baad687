import Shortcuts.Event.Basic

/-!
# Showing events

An event has a plain line for the log file and a coloured one for the terminal. Warnings and
errors go to standard error, the rest to standard output.
-/

namespace Shortcuts

namespace Style

def reset : String := "\x1b[0m"
def bold : String := "\x1b[1m"
def dim : String := "\x1b[2m"
def red : String := "\x1b[31m"
def green : String := "\x1b[32m"
def yellow : String := "\x1b[33m"
def arrow : String := "\x1b[1;34m==>\x1b[0m"

def inStyle (style text : String) : String := style ++ text ++ reset

end Style

inductive Stream
  | out
  | err
  deriving DecidableEq, Repr

def Level.stream : Level → Stream
  | .error | .warn => .err
  | _ => .out

def Level.inLog : Level → Bool
  | .trace => false
  | _ => true

def Level.onConsole (verbose : Bool) : Level → Bool
  | .error | .warn | .info => true
  | .debug => verbose
  | .trace => false

def Fields.detailSuffix (f : Fields) : String :=
  if f.detail = "" then "" else " (" ++ f.detail ++ ")"

namespace Event

/-- The line of the log file, without its time. -/
def logLine (e : Event) : String :=
  let f := e.fields
  match e.topic with
  | .stage => "==> " ++ f.message
  | .run => "==> " ++ f.key ++ ": " ++ f.invocation
  | .dryRun => "==> " ++ f.key ++ ": [dry run] " ++ f.invocation
  | .outcome => "    " ++ f.status ++ " " ++ f.key ++ f.detailSuffix
  | .totals =>
    "    " ++ f.message ++ ": " ++ toString f.ok ++ " ok, " ++ toString f.dryRun ++ " dry-run, "
      ++ toString f.failed ++ " failed"
  | .general =>
    match e.level with
    | .error => "    [error] " ++ f.message
    | .warn => "    [warn] " ++ f.message
    | .info => "    " ++ f.message
    | .debug | .trace => "    [debug] " ++ f.message

open Style in
/-- The text for the terminal, without its last newline. -/
def consoleText (e : Event) : String :=
  let f := e.fields
  match e.topic with
  | .stage => arrow ++ " " ++ inStyle bold f.message
  | .run => arrow ++ " " ++ inStyle bold f.key ++ " " ++ inStyle dim f.invocation
  | .dryRun =>
    arrow ++ " " ++ inStyle bold f.key ++ "\n  " ++ inStyle yellow "[DRY RUN]" ++ " "
      ++ f.invocation
  | .outcome =>
    let (icon, colour) :=
      if f.status = "ok" then ("✓", green)
      else if f.status = "failed" then ("✗", red)
      else ("~", dim)
    "  " ++ inStyle colour (icon ++ " " ++ f.key ++ f.detailSuffix)
  | .totals =>
    "  " ++ f.message ++ ": " ++ inStyle green (toString f.ok ++ " ok") ++ ", "
      ++ toString f.dryRun ++ " dry-run, "
      ++ inStyle (if 0 < f.failed then red else dim) (toString f.failed ++ " failed")
  | .general =>
    match e.level with
    | .error => inStyle red "ERROR" ++ " " ++ f.message
    | .warn => inStyle yellow "WARN" ++ "  " ++ f.message
    | .info => "  " ++ f.message
    | .debug | .trace => "  " ++ inStyle dim f.message

end Event

end Shortcuts
