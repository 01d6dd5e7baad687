import Shortcuts.Kind.Basic

/-!
# One-way transfers

An entry for rsync may be bound to a host and to mount points that must be mounted. The checks are
made in this order: host, mount points, sources, destination. Then come the flags, the excluded
patterns, the sources and the destination.
-/

namespace Shortcuts

structure Transfer where
  host : String
  mounts : List String
  base : String
  sources : List String
  destination : String
  flags : List String
  excludes : List String
  deriving DecidableEq, Repr

/-- Drop one slash at the start. -/
def dropSlash : List Char → List Char
  | '/' :: r => r
  | s => s

/-- Drop one slash at the end. -/
def dropEndSlash (s : List Char) : List Char := if s.getLast? = some '/' then s.dropLast else s

/-- The path of `source` under `base`. An empty base leaves the source as it is. -/
def under (base source : List Char) : List Char :=
  if base = [] then source else dropEndSlash base ++ '/' :: dropSlash source

def rebase (base source : String) : String := String.ofList (under base.toList source.toList)

namespace Transfer

def ofEntry (e : Entry) : Transfer where
  host := e.value "host"
  mounts := e.values "cmp"
  base := e.value "srcPrefix"
  sources := e.values "src"
  destination := e.value "dst"
  flags := e.values "flag"
  excludes := e.values "exclude"

def checkHost (m : Transfer) (h : Host) : Traced PreconditionError Unit :=
  if m.host = "" then .ok ()
  else do
    let name ← h.askName fun f => .hostnameUnavailable f.full
    if name = m.host then .ok () else .fail (.wrongHost m.host)

def checkMounts (h : Host) : List String → Traced PreconditionError Unit
  | [] => .ok ()
  | point :: rest => do
    let mounted ← h.askMounted point fun f => .mountCheckFailed point f.full
    if mounted then checkMounts h rest else .fail (.notMounted point)

def checkPaths (m : Transfer) : Traced PreconditionError Unit :=
  if m.sources = [] then .fail .emptySource
  else if m.destination = "" then .fail .emptyDestination
  else .ok ()

def arguments (m : Transfer) : List String :=
  m.flags ++ m.excludes.flatMap (fun pattern => ["--exclude", pattern])
    ++ m.sources.map (rebase m.base) ++ [m.destination]

end Transfer

def Kind.transfer : Kind where
  name := "rsync"
  schema :=
    { mandatory := ["src", "dst"], optional := ["host", "cmp", "flag", "exclude", "srcPrefix"] }
  plan h e := do
    let m := Transfer.ofEntry e
    m.checkHost h
    Transfer.checkMounts h m.mounts
    m.checkPaths
    return { program := "/usr/bin/rsync", args := m.arguments }

end Shortcuts
