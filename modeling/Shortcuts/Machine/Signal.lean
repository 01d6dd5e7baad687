import Shortcuts.Text.Octets

/-!
# Signals

Signals by number, with their names and descriptions, and what they do to a process that has made
no arrangements.
-/

namespace Shortcuts.Machine.Signal

open Text

/-- Names and descriptions by number, from one. -/
def table : List (String × String) := [
  ("HUP", "Hangup"), ("INT", "Interrupt"), ("QUIT", "Quit"), ("ILL", "Illegal instruction"),
  ("TRAP", "Trace/breakpoint trap"), ("ABRT", "Aborted"), ("BUS", "Bus error"),
  ("FPE", "Floating point exception"), ("KILL", "Killed"), ("USR1", "User defined signal 1"),
  ("SEGV", "Segmentation fault"), ("USR2", "User defined signal 2"), ("PIPE", "Broken pipe"),
  ("ALRM", "Alarm clock"), ("TERM", "Terminated"), ("STKFLT", "Stack fault"),
  ("CHLD", "Child exited"), ("CONT", "Continued"), ("STOP", "Stopped (signal)"),
  ("TSTP", "Stopped"), ("TTIN", "Stopped (tty input)"), ("TTOU", "Stopped (tty output)"),
  ("URG", "Urgent I/O condition"), ("XCPU", "CPU time limit exceeded"),
  ("XFSZ", "File size limit exceeded"), ("VTALRM", "Virtual timer expired"),
  ("PROF", "Profiling timer expired"), ("WINCH", "Window changed"), ("IO", "I/O possible"),
  ("PWR", "Power failure"), ("SYS", "Bad system call")]

/-- The highest number of a signal. -/
def last : Nat := 64

/-- The first of the signals that have no meaning of their own. -/
def firstFree : Nat := 34

/-- The name that a shell has for a signal: its number where there is none. -/
def name (n : Nat) : String :=
  if n = 0 then "EXIT"
  else if n = 16 ∨ n = 32 ∨ n = 33 then toString n
  else if n < 32 then ((table[n - 1]?).map Prod.fst).getD (toString n)
  else if n = firstFree then "RTMIN"
  else if n = last then "RTMAX"
  else if n < 50 then "RTMIN+" ++ toString (n - firstFree)
  else "RTMAX-" ++ toString (last - n)

def description (n : Nat) : String :=
  match n with
  | 0 => "Unknown signal 0"
  | m + 1 =>
    match table[m]? with
    | some (_, text) => text
    | none =>
      if n < firstFree then "Unknown signal " ++ toString n
      else "Real-time signal " ++ toString (n - firstFree)

/-- The number of a signal by its name, in any case of letters. -/
def named? (s : Octets) : Option Nat :=
  (List.range (last + 1)).find? fun n => (name n).toList == s.map Char.toUpper

/-- Signals that leave a process alone, or only stop it until it goes on. -/
def isHarmless (n : Nat) : Bool := n == 0 || n == 28 || n == 23 || (17 ≤ n && n ≤ 22)

/-- Whether a process can see to a signal itself. -/
def canBeTrapped (n : Nat) : Bool := n != 9 && n != 19

end Shortcuts.Machine.Signal
