import Shortcuts.Kind.Basic

/-!
# Programs and profiles

Two kinds ask nothing of the host: any program with fixed arguments, and a Unison profile, which
is passed on as it is.
-/

namespace Shortcuts.Kind

def unison : Kind where
  name := "unison"
  schema := { mandatory := ["profile"] }
  plan _ e := .ok { program := "/usr/bin/unison", args := [e.value "profile"] }

def program : Kind where
  name := "prog"
  schema := { mandatory := ["exe"], optional := ["arg"] }
  plan _ e := .ok { program := e.value "exe", args := e.values "arg" }

end Shortcuts.Kind
