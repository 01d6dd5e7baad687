import Shortcuts.Failure
import Shortcuts.Trace

/-!
# Hosts

The facts about a machine that decide whether an entry can be built on it.
-/

namespace Shortcuts

structure Host where
  hostname : Except Failure String
  mounted : String → Except Failure Bool

namespace Host

def askName {ε : Type} (h : Host) (onFailure : Failure → ε) : Traced ε String :=
  ⟨[.query .hostname], h.hostname.mapError onFailure⟩

def askMounted {ε : Type} (h : Host) (point : String) (onFailure : Failure → ε) :
    Traced ε Bool :=
  ⟨[.query (.mounted point)], (h.mounted point).mapError onFailure⟩

end Host

end Shortcuts
