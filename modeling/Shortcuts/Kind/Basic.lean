import Shortcuts.Entry.Schema
import Shortcuts.Host.Basic
import Shortcuts.Invocation.Basic

/-!
# Kinds of entry

A kind has a name, a schema, and a plan that makes an invocation of an entry. A plan may ask the
host, and the host may stand in its way.
-/

namespace Shortcuts

/-- Why an entry that fits its schema cannot be built on this host. -/
inductive PreconditionError
  | wrongHost (expected : String)
  | hostnameUnavailable (reason : String)
  | mountCheckFailed (point reason : String)
  | notMounted (point : String)
  | emptySource
  | emptyDestination
  deriving DecidableEq, Repr

def PreconditionError.message : PreconditionError → String
  | .wrongHost expected => "this rsync execution must be executed on " ++ expected
  | .hostnameUnavailable reason => "can't determine the host name: " ++ reason
  | .mountCheckFailed point reason =>
    "error while checking mount point " ++ point ++ " state: " ++ reason
  | .notMounted point => "mount point " ++ point ++ " is not mounted"
  | .emptySource => "'src' must be provided at least once"
  | .emptyDestination => "'dst' can't be empty"

structure Kind where
  name : String
  schema : Schema
  plan : Host → Entry → Traced PreconditionError Invocation

end Shortcuts
