import Shortcuts.Text.Split

/-!
# Paths

A path is a text of names parted by slashes.
-/

namespace Shortcuts.Text

def isAbsolute (path : String) : Bool := path.toList.head? == some '/'

/-- The names of a path. A slash at the end asks for a directory, as a last `.` does. -/
def names (path : String) : List String :=
  let parts := ((pieces '/' path.toList).filter fun s => !s.isEmpty).map String.ofList
  if path.toList.getLast? = some '/' then parts ++ ["."] else parts

/-- `name` seen from `dir`; an absolute name stands for itself. -/
def join (dir name : String) : String :=
  if isAbsolute name then name
  else if dir = "" ∨ dir.toList.getLast? = some '/' then dir ++ name
  else dir ++ "/" ++ name

end Shortcuts.Text
