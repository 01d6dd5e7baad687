import Shortcuts.Entry.Basic

/-!
# Parameter schemas

A schema names the parameters an entry must have and those it may have. A missing parameter is
reported before an unexpected one.
-/

namespace Shortcuts

structure Schema where
  mandatory : List String
  optional : List String := []
  deriving DecidableEq, Repr

inductive SchemaError
  | missingParameter (kind name : String)
  | unexpectedParameter (kind name : String)
  deriving DecidableEq, Repr

def SchemaError.message : SchemaError → String
  | .missingParameter kind name => kind ++ " entry is missing parameter " ++ name
  | .unexpectedParameter kind name => kind ++ " entry has unexpected parameter " ++ name

namespace Schema

def allows (s : Schema) (name : String) : Bool :=
  s.mandatory.contains name || s.optional.contains name

/-- The first mandatory name that the entry lacks, in the order of the schema. -/
def missing? (s : Schema) (e : Entry) : Option String :=
  s.mandatory.find? fun name => !e.hasParameter name

/-- The first name of the entry that the schema does not allow, in the order of the file. -/
def unexpected? (s : Schema) (e : Entry) : Option String :=
  e.names.find? fun name => !s.allows name

def check (s : Schema) (e : Entry) : Except SchemaError Unit :=
  match s.missing? e with
  | some name => .error (.missingParameter e.kind name)
  | none =>
    match s.unexpected? e with
    | some name => .error (.unexpectedParameter e.kind name)
    | none => .ok ()

end Schema

end Shortcuts
