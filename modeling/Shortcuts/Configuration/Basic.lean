import Shortcuts.Entry.Parser
import Shortcuts.Failure
import Shortcuts.Kind.Basic

/-!
# Configurations

A configuration is a named invocation that can be run. Loading a file gives all of its
configurations or the first error.
-/

namespace Shortcuts

structure Configuration where
  key : String
  kind : String
  invocation : Invocation
  deriving DecidableEq, Repr

inductive LoadError
  | unreadable (path reason : String)
  | parse (e : ParseError)
  | schema (e : SchemaError)
  | unknownKind (kind : String)
  | precondition (key : String) (e : PreconditionError)
  deriving DecidableEq, Repr

namespace LoadError

def message : LoadError → String
  | .unreadable path reason => "can't read file " ++ path ++ ": " ++ reason
  | .parse e => e.message
  | .schema e => e.message
  | .unknownKind kind => "don't know how to build entry with kind '" ++ kind ++ "'"
  | .precondition key e => "entry '" ++ key ++ "': " ++ e.message

def causes : LoadError → List String
  | .unreadable _ reason => [reason]
  | .precondition _ e => [e.message]
  | .parse _ | .schema _ | .unknownKind _ => []

def toFailure (e : LoadError) : Failure := ⟨e.message, e.causes⟩

end LoadError

/-- Keys on more than one configuration, each once, ordered by where they are first repeated. -/
def repeated (seen found : List String) : List String → List String
  | [] => found
  | key :: rest =>
    if key ∈ seen then repeated seen (if key ∈ found then found else found ++ [key]) rest
    else repeated (key :: seen) found rest

def duplicateKeys (configs : List Configuration) : List String :=
  repeated [] [] (configs.map Configuration.key)

end Shortcuts
