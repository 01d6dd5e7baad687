import Shortcuts.Machine.Basic
import Shortcuts.Release.Stamp

/-!
# Describing a working copy

The describing command is looked for on the search path; its output counts if it succeeds.
-/

namespace Shortcuts.Machine

open Release

def described? (m : Machine) : Option Text.Bytes :=
  match m.spawn describeProgram describeArgs with
  | .ok (r, _) => if r.exit.success then some r.out else none
  | .error _ => none

/-- The directives of a build on this machine. -/
def directives (m : Machine) (given : Option Text.Bytes) : String :=
  Release.directives given m.described?

end Shortcuts.Machine
