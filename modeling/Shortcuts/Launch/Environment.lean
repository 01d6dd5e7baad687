import Shortcuts.Session.Basic
import Shortcuts.Text.Path

/-!
# The environment

Three variables matter: one names the configuration file, two say where log files are kept. An
empty variable counts as one that is not set.
-/

namespace Shortcuts

open Text

structure Environment where
  home : Option String := none
  cacheHome : Option String := none
  file : Option String := none
  deriving DecidableEq, Repr

namespace Environment

def setting (value : Option String) : Option String := value.filter fun v => v != ""

/-- The configuration file. One named on the command line comes before that of the environment. -/
def resolveFile (env : Environment) (explicit : Option String) : Except SessionError String :=
  match explicit with
  | some path => .ok path
  | none =>
    match setting env.file with
    | some path => .ok path
    | none => .error .noFile

def cache? (env : Environment) : Option String :=
  match setting env.cacheHome with
  | some dir => some dir
  | none => (setting env.home).map fun dir => join dir ".cache"

/-- The directory of the log files. -/
def logDirectory? (env : Environment) : Option String :=
  env.cache?.map fun dir => join dir "quicklinks"

/-- The log file of a command. -/
def logPath? (env : Environment) (command : String) : Option String :=
  env.logDirectory?.map fun dir => join dir (command ++ ".log")

end Environment

end Shortcuts
