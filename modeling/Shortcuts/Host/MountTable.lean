import Shortcuts.Host.Basic
import Shortcuts.Text.Octal
import Shortcuts.Text.Split

/-!
# Mount tables

A mount table has a line per mount, whose second field is the mount point with some characters
written as octal escapes. Slashes at the end of a path make no difference.
-/

namespace Shortcuts

namespace MountTable

open Text

/-- A path of slashes alone is the root. -/
def normalize (path : List Char) : List Char :=
  match dropEndWhile (· == '/') path with
  | [] => if path.head? = some '/' then ['/'] else []
  | c :: r => c :: r

def target? (line : List Char) : Option (List Char) :=
  (words line)[1]?.map Octal.decode

def targets (table : List Char) : List (List Char) := (lines table).filterMap target?

/-- Whether some line of the table has this mount point. -/
def lists (table point : List Char) : Bool :=
  (targets table).any fun t => normalize t == normalize point

/-- A mount as the kernel knows it; `options` is the rest of its line. -/
structure Mount where
  device : List Char
  target : List Char
  options : List Char
  deriving DecidableEq, Repr

/-- The characters that the kernel escapes in a path. -/
def kernelEscapes (c : Char) : Bool := c == ' ' || c == '\t' || c == '\n' || c == '\\'

def Mount.line (m : Mount) : List Char :=
  m.device ++ ' ' :: Octal.encode kernelEscapes m.target ++ ' ' :: m.options ++ ['\n']

def render (mounts : List Mount) : List Char := mounts.flatMap Mount.line

end MountTable

/-- A host that answers from the text of a mount table. -/
def Host.ofTable (name : Except Failure String) (table : Except Failure String) : Host where
  hostname := name
  mounted point := table.map fun t => MountTable.lists t.toList point.toList

end Shortcuts
