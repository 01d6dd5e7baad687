import Shortcuts.Text.Split

/-!
# Failures

A failure is a message and the chain of its causes, nearest first. It is told on one line, or as a
report with one cause a line.
-/

namespace Shortcuts

structure Failure where
  message : String
  causes : List String := []
  deriving DecidableEq, Repr

namespace Failure

/-- The failure seen from outside: `text` becomes the message and the old one its first cause. -/
def context (text : String) (f : Failure) : Failure := ⟨text, f.message :: f.causes⟩

/-- Message and causes on one line. -/
def full (f : Failure) : String :=
  f.causes.foldl (fun line cause => line ++ ": " ++ cause) f.message

def padLeft (width : Nat) (s : String) : String :=
  String.ofList (List.replicate (width - s.length) ' ') ++ s

/-- Later lines of a cause are set in by `margin`. -/
def indent (margin : String) (cause : String) : String :=
  String.intercalate ("\n" ++ margin) ((Text.pieces '\n' cause.toList).map String.ofList)

def numberedCauses (n : Nat) : List String → String
  | [] => ""
  | c :: cs =>
    "\n" ++ padLeft 5 (toString n) ++ ": " ++ indent "       " c ++ numberedCauses (n + 1) cs

/-- A single cause stands alone; several are numbered from zero. -/
def report (f : Failure) : String :=
  match f.causes with
  | [] => f.message
  | [cause] => f.message ++ "\n\nCaused by:\n    " ++ indent "    " cause
  | causes => f.message ++ "\n\nCaused by:" ++ numberedCauses 0 causes

end Failure

end Shortcuts
