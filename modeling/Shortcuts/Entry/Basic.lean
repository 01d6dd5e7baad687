/-!
# Entries

An entry is a `[kind key]` section with its parameters in file order. Names may repeat and values
may be empty.
-/

namespace Shortcuts

structure Parameter where
  name : String
  value : String
  deriving DecidableEq, Repr

structure Entry where
  kind : String
  key : String
  parameters : List Parameter := []
  deriving DecidableEq, Repr

namespace Entry

def names (e : Entry) : List String := e.parameters.map Parameter.name

def hasParameter (e : Entry) (name : String) : Bool := e.names.contains name

/-- Every value given under a name, empty ones included. -/
def given (e : Entry) (name : String) : List String :=
  (e.parameters.filter fun p => p.name == name).map Parameter.value

/-- The first value given under a name; empty when there is none. -/
def value (e : Entry) (name : String) : String := (e.given name).headD ""

/-- The values given under a name that are not empty. -/
def values (e : Entry) (name : String) : List String :=
  (e.given name).filter fun v => !v.isEmpty

def add (e : Entry) (p : Parameter) : Entry := { e with parameters := e.parameters ++ [p] }

end Entry

end Shortcuts
