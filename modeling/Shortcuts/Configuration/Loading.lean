import Shortcuts.Configuration.Basic
import Shortcuts.Kind.Registry

/-!
# Loading configurations

The text is parsed as a whole before any entry is built. Entries are built in order: the kind is
looked up, the schema checked, and only then the plan is made.
-/

namespace Shortcuts

def Kind.assemble (k : Kind) (h : Host) (e : Entry) : Traced LoadError Invocation :=
  (k.plan h e).mapError (LoadError.precondition e.key)

def Kind.build (k : Kind) (h : Host) (e : Entry) : Traced LoadError Configuration :=
  match k.schema.check e with
  | .error err => .fail (.schema err)
  | .ok () => do
    let invocation ← k.assemble h e
    return { key := e.key, kind := k.name, invocation }

def Configuration.built (c : Configuration) : Event :=
  .debug ("built " ++ c.kind ++ " entry '" ++ c.key ++ "': " ++ c.invocation.display)

/-- Build one entry with the kind of its name. -/
def Entry.build (h : Host) (e : Entry) : Traced LoadError Configuration :=
  match Kind.find? e.kind with
  | none => .fail (.unknownKind e.kind)
  | some k => do
    let c ← k.build h e
    .act (.event c.built)
    return c

def buildAll (h : Host) : List Entry → Traced LoadError (List Configuration)
  | [] => .ok []
  | e :: rest => do
    let c ← e.build h
    let cs ← buildAll h rest
    return c :: cs

/-- The configurations of a text. -/
def configurations (h : Host) (text : String) : Traced LoadError (List Configuration) :=
  match parse text with
  | .error e => .fail (.parse e)
  | .ok entries => do
    .act (.event (.debug ("parsed " ++ toString entries.length ++ " entries")))
    buildAll h entries

/-- The configurations of a file, given its text or the reason why it cannot be read. -/
def load (h : Host) (path : String) (content : Except String String) :
    Traced LoadError (List Configuration) :=
  match content with
  | .error reason => .fail (.unreadable path reason)
  | .ok text => configurations h text

end Shortcuts
