import Shortcuts.Machine.Mode
import Shortcuts.Machine.Utility.Filters.Lines

/-!
# Programs on the file tree

Making, moving, copying, listing and removing files and directories.
-/

namespace Shortcuts.Machine.Tree

open Text

/-- Change the files, or complain of what stands against it. -/
def change (p : Process) (act : Files → Except Errno Files) (wording : Errno → Octets) :
    Task Nat := do
  let s ← get
  match act s.files with
  | .ok files => do
    set { s with files }
    return 0
  | .error e => do
    p.complain (wording e)
    return 1

def lookUp (p : Process) (path : Octets) (follow : Bool) : Task (Except Errno Location) := do
  return (← get).files.locate p.directory path follow

def isDirectoryAt (p : Process) (path : Octets) : Task Bool := do
  return (← get).files.leadsToDirectory p.directory path

def baseName (path : Octets) : Octets :=
  match (names path).getLast? with
  | some name => name
  | none => if path = [] then [] else ['/']

def inside (dir name : Octets) : Octets :=
  if endsInSlash dir then dir ++ name else dir ++ '/' :: name

/-! ## Directories -/

/-- The paths that lead to a path, from the top. -/
def ancestors (path : Octets) : List Octets :=
  let ns := names path
  (List.range ns.length).map fun i => Files.joined (isRooted path) (ns.take (i + 1))

def makeParents (p : Process) (path : Octets) : Task Nat :=
  (ancestors path).foldlM (fun status dir => do
    if status ≠ 0 ∨ (← isDirectoryAt p dir) then return status
    else
      change p (fun f => f.makeDirectory p.directory dir) fun e =>
        let e := if e = .taken ∧ dir.length < path.length then .notDirectory else e
        blame "cannot create directory " dir "" e) 0

def mkdir (p : Process) : Task Nat :=
  let rule : OptionRule :=
    { flags := "pv", valued := "m", long := [("parents", 'p'), ("mode", 'm'), ("verbose", 'v')] }
  p.withOptions rule 1 fun g => do
    if g.operands = [] then
      p.misuse (octets "missing operand")
      return 1
    forWords g.operands fun path => do
      if g.has 'p' then makeParents p path
      else do
        let status ← change p (fun f => f.makeDirectory p.directory path)
          (blame "cannot create directory " path "")
        if g.has 'v' ∧ status = 0 then
          p.out (p.name ++ phrase ": created directory " (ticked path) "\n")
        return status

def rmdir (p : Process) : Task Nat :=
  p.withOptions { flags := "pv", long := [("parents", 'p')] } 1 fun g => do
    if g.operands = [] then
      p.misuse (octets "missing operand")
      return 1
    forWords g.operands fun path =>
      let paths := if g.has 'p' then (ancestors path).reverse else [path]
      paths.foldlM (fun status path => do
        if status ≠ 0 then return status
        else
          change p (fun f => f.removeDirectory p.directory path)
            (blame "failed to remove " path "")) 0

/-! ## Removing -/

def rm (p : Process) : Task Nat :=
  let rule : OptionRule :=
    { flags := "rRfdiv", long := [("recursive", 'r'), ("force", 'f'), ("dir", 'd'),
        ("verbose", 'v')] }
  p.withOptions rule 1 fun g => do
    if g.operands = [] ∧ !g.has 'f' then
      p.misuse (octets "missing operand")
      return 1
    forWords g.operands fun path => do
      let all := g.has 'r' || g.has 'R'
      match ← lookUp p path false with
      | .error e =>
        if g.has 'f' ∧ isMissing e then return 0
        else do
          p.complain (blame "cannot remove " path "" e)
          return 1
      | .ok l => do
        let f := (← get).files
        if !f.isDirectory l then
          change p (fun f => f.removeFile p.directory path) (blame "cannot remove " path "")
        else if !all ∧ !g.has 'd' then do
          p.complain (blame "cannot remove " path "" .isDirectory)
          return 1
        else if isDots (baseName path) then do
          p.complain (octets "refusing to remove '.' or '..' directory: skipping " ++ ticked path)
          return 1
        else if l = [] then do
          p.complain (octets "it is dangerous to operate recursively on '/'\n" ++ p.name ++
            octets ": use --no-preserve-root to override this failsafe")
          return 1
        else if all then change p (fun f => .ok (f.removeTree l)) fun _ => []
        else
          change p (fun f => f.removeDirectory p.directory path) (blame "cannot remove " path "")

/-! ## Copying and moving -/

/-- Sources and target, or the complaint that there are too few. -/
def sourcesAndTarget (p : Process) (g : Given) : Task (Option (List Octets × Octets)) := do
  match g.operands.reverse with
  | [] => do
    p.misuse (octets "missing file operand")
    return none
  | [only] => do
    p.misuse (phrase "missing destination file operand after " (ticked only) "")
    return none
  | target :: sources => return some (sources.reverse, target)

/-- Where each source goes: into a directory under its own name, or to the target itself. -/
def withTargets (p : Process) (g : Given) (act : Octets → Octets → Task Nat) : Task Nat := do
  match ← sourcesAndTarget p g with
  | none => return 1
  | some (sources, target) =>
    if (← isDirectoryAt p target) ∧ !g.has 'T' then
      forWords sources fun source => act source (inside target (baseName source))
    else
      match sources with
      | [source] => act source target
      | _ => do
        let e := match ← lookUp p target true with
          | .error e => e
          | .ok _ => .notDirectory
        p.complain (blame "target " target "" e)
        return 1

/-- Copy a file's content and mode onto a path. -/
def copyFile (p : Process) (source : File) (target : Octets) : Task Nat := do
  let s ← get
  let old := match s.files.locate p.directory target true with
    | .ok l => (s.files.fileAt? l).isSome
    | .error _ => false
  match s.files.openFile p.directory target .overwrite with
  | .error e => do
    let e := if endsInSlash target ∧ e = .isDirectory then .notDirectory else e
    p.complain (blame "cannot create regular file " target "" e)
    return 1
  | .ok (number, files) => do
    match source.content, files.file? number with
    | .data held, some { content := .data _, .. } =>
      let files := files.setContent number held
      set { s with files := if old then files else files.setMode number source.mode }
    | .program u, some { content := .data _, .. } =>
      set { s with files := { files with files := files.files.modify number fun f =>
        { f with content := .program u, mode := source.mode } } }
    | _, _ => set { s with files }
    return 0

/-- Copy all below a location to another one. -/
def copyTree (f : Files) (source target : Location) : Files :=
  let below := f.entries.filter fun e => source.isPrefixOf e.1
  below.foldr (fun (l, e) f =>
    let there := target ++ l.drop source.length
    match e with
    | .file number =>
      match f.file? number with
      | some file => f.putFile there file
      | none => f
    | e => f.set there e) f

def cp (p : Process) : Task Nat :=
  let rule : OptionRule :=
    { flags := "rRapfTvndP", long := [("recursive", 'r'), ("archive", 'a'), ("force", 'f'),
        ("no-clobber", 'n'), ("verbose", 'v')] }
  p.withOptions rule 1 fun g =>
    withTargets p g fun source target => do
      let s ← get
      match s.files.locate p.directory source true with
      | .error e => do
        p.complain (blame "cannot stat " source "" e)
        return 1
      | .ok l =>
        let place := s.files.place p.directory target
        let there := s.files.locate p.directory target true
        if g.has 'n' ∧ (there matches .ok _) then return 0
        else if s.files.isDirectory l then
          if !(g.has 'r' || g.has 'R' || g.has 'a') then do
            p.complain (octets "-r not specified; omitting directory " ++ ticked source)
            return 1
          else
            match place with
            | .error e => do
              p.complain (blame "cannot create directory " target "" e)
              return 1
            | .ok m =>
              if l.isPrefixOf m then do
                p.complain (octets "cannot copy a directory, " ++ ticked source ++
                  octets ", into itself, " ++ ticked target)
                return 1
              else if (s.files.fileAt? m).isSome then do
                p.complain (octets "cannot overwrite non-directory " ++ ticked target ++
                  octets " with directory " ++ ticked source)
                return 1
              else do
                set { s with files := copyTree s.files l m }
                return 0
        else
          match s.files.fileAt? l with
          | none => return 1
          | some file =>
            let sameFile := match there with
              | .ok m => s.files.entry? m == s.files.entry? l
              | .error _ => false
            if sameFile then do
              p.complain (ticked source ++ octets " and " ++ ticked target ++
                octets " are the same file")
              return 1
            else if s.files.leadsToDirectory p.directory target then do
              p.complain (octets "cannot overwrite directory " ++ ticked target ++
                octets " with non-directory")
              return 1
            else copyFile p file target

def mv (p : Process) : Task Nat :=
  let rule : OptionRule :=
    { flags := "fnvTi", long := [("force", 'f'), ("no-clobber", 'n'), ("verbose", 'v')] }
  p.withOptions rule 1 fun g =>
    withTargets p g fun source target => do
      let s ← get
      let failed (e : Errno) : Task Nat := do
        p.complain (octets "cannot move " ++ ticked source ++ octets " to " ++ ticked target ++
          octets ": " ++ e.octets)
        return 1
      match s.files.locate p.directory source false with
      | .error e => do
        p.complain (blame "cannot stat " source "" e)
        return 1
      | .ok l =>
        match s.files.place p.directory target with
        | .error e => failed e
        | .ok m =>
          let isDir := s.files.isDirectory l
          if endsInSlash target ∧ !isDir then failed .notDirectory
          else if l = m then do
            p.complain (ticked source ++ octets " and " ++ ticked target ++
              octets " are the same file")
            return 1
          else if l.isPrefixOf m then do
            p.complain (octets "cannot move " ++ ticked source ++
              octets " to a subdirectory of itself, " ++ ticked target)
            return 1
          else if s.files.isDirectory m ∧ !isDir then do
            p.complain (octets "cannot overwrite directory " ++ ticked target ++
              octets " with non-directory")
            return 1
          else if s.files.isDirectory m ∧ s.files.children m ≠ [] then failed .notEmpty
          else if (s.files.fileAt? m).isSome ∧ isDir then do
            p.complain (octets "cannot overwrite non-directory " ++ ticked target ++
              octets " with directory " ++ ticked source)
            return 1
          else if g.has 'n' ∧ (s.files.entry? m).isSome then return 0
          else
            match Files.barred? m with
            | some e => failed e
            | none => do
              set { s with files := s.files.moveTree l m }
              return 0

def ln (p : Process) : Task Nat :=
  let rule : OptionRule :=
    { flags := "sfnTv", long := [("symbolic", 's'), ("force", 'f')] }
  p.withOptions rule 1 fun g => do
    let soft := g.has 's'
    let link (source target : Octets) : Task Nat := do
      let s ← get
      let kind := if soft then "symbolic" else "hard"
      let failed (e : Errno) : Task Nat := do
        p.complain (blame ("failed to create " ++ kind ++ " link ") target "" e)
        return 1
      let entry : Except Octets Entry :=
        if soft then .ok (.link source)
        else
          match s.files.locate p.directory source false with
          | .error e => .error (blame "failed to access " source "" e)
          | .ok l =>
            if s.files.isDirectory l then
              .error (source ++ octets ": hard link not allowed for directory")
            else .ok ((s.files.entry? l).getD .directory)
      match entry with
      | .error what => do
        p.complain what
        return 1
      | .ok entry =>
        match s.files.place p.directory target with
        | .error e => failed e
        | .ok m =>
          if (s.files.entry? m).isSome ∧ !g.has 'f' then failed .taken
          else do
            set { s with files := s.files.set m entry }
            return 0
    match g.operands with
    | [] => do
      p.misuse (octets "missing file operand")
      return 1
    | [source] => link source (baseName source)
    | _ => withTargets p g link

/-! ## Modes and times -/

/-- A word that begins with a dash may be a mode that takes permissions away. -/
def isMode (word : Octets) : Bool :=
  match word with
  | '-' :: c :: _ => "rwxXst".toList.contains c && (Mode.ofText? word 0).isSome
  | _ => false

def chmod (p : Process) : Task Nat := do
  let modes := p.args.filter isMode
  let q := { p with args := p.args.filter fun a => !isMode a }
  q.withOptions { flags := "Rvfc", long := [("recursive", 'R')] } 1 fun g => do
    match modes.take 1 ++ g.operands with
    | [] => do
      p.misuse (octets "missing operand")
      return 1
    | [word] => do
      p.misuse (phrase "missing operand after " (ticked word) "")
      return 1
    | word :: paths =>
      if (Mode.ofText? word 0).isNone then
        p.misuse (phrase "invalid mode: " (ticked word) "")
        return 1
      else
        forWords paths fun path => do
          match ← lookUp p path true with
          | .error e => do
            p.complain (blame "cannot access " path "" e)
            return 1
          | .ok l => do
            modify fun s =>
              let below := s.files.entries.filterMap fun (m, e) =>
                match e with
                | .file number =>
                  if l = m ∨ (g.has 'R' ∧ l.isPrefixOf m) then some number else none
                | _ => none
              { s with files := below.foldl (fun f number =>
                  match f.file? number with
                  | some file => f.setMode number ((Mode.ofText? word file.mode).getD file.mode)
                  | none => f) s.files }
            return 0

def touch (p : Process) : Task Nat :=
  p.withOptions { flags := "camfh", valued := "trd", long := [("no-create", 'c')] } 1 fun g => do
    if g.operands = [] then
      p.misuse (octets "missing file operand")
      return 1
    forWords g.operands fun path => do
      match ← lookUp p path true with
      | .ok _ => return 0
      | .error e =>
        if g.has 'c' ∧ e = .noEntry then return 0
        else if e = .noEntry ∧ !g.has 'c' then
          change p (fun f => (f.create p.directory path).map Prod.snd) fun e =>
            let e := if endsInSlash path ∧ e = .isDirectory then .noEntry else e
            if endsInSlash path then blame "setting times of " path "" e
            else blame "cannot touch " path "" e
        else do
          p.complain (if e = .notDirectory ∧ endsInSlash path then
            blame "setting times of " path "" e else blame "cannot touch " path "" e)
          return 1

/-! ## Listing -/

/-- A mark behind a name that tells what it is. -/
def mark (g : Given) (s : System) (l : Location) : Octets :=
  if s.files.isDirectory l then (if g.has 'p' ∨ g.has 'F' then ['/'] else [])
  else if g.has 'F' then
    match s.files.entry? l with
    | some (.link _) => ['@']
    | _ => if (s.files.fileAt? l).any File.isProgram then ['*'] else []
  else []

def listing (g : Given) (s : System) (l : Location) : Octets :=
  let found := (s.files.children l).filter fun n =>
    g.has 'a' || g.has 'A' || n.head? != some '.'
  let found := if g.has 'a' then [['.'], ['.', '.']] ++ found else found
  let found := if g.has 'r' then found.reverse else found
  Filters.unlines (found.map fun n =>
    n ++ if isDots n then (if g.has 'F' ∨ g.has 'p' then ['/'] else []) else mark g s (l ++ [n]))

/-- A directory and those below it, `depth` deep. -/
def listingsBelow (g : Given) (s : System) : Nat → Octets → Location → List (Octets × Octets)
  | 0, _, _ => []
  | depth + 1, path, l =>
    let below := (s.files.children l).filter fun n =>
      s.files.entry? (l ++ [n]) == some .directory && (g.has 'a' || n.head? != some '.')
    (path, listing g s l) :: below.flatMap fun n =>
      listingsBelow g s depth (inside path n) (l ++ [n])

def ls (p : Process) : Task Nat :=
  p.withOptions { flags := "1aAdrRpFC", long := [("all", 'a'), ("almost-all", 'A'),
      ("directory", 'd'), ("recursive", 'R'), ("reverse", 'r')] } 2 fun g => do
    let s ← get
    let order (ws : List Octets) : List Octets :=
      let ws := ws.mergeSort Octets.upTo
      if g.has 'r' then ws.reverse else ws
    let paths := if g.operands = [] then [['.']] else order g.operands
    let located := paths.map fun path => (path, s.files.locate p.directory path true)
    located.forM fun (path, l) => do
      match l with
      | .error e => p.complain (blame "cannot access " path "" e)
      | .ok _ => return
    let found := located.filterMap fun (path, l) =>
      match l with
      | .ok l => some (path, l)
      | .error _ => none
    let plain := found.filter fun x => g.has 'd' || !s.files.isDirectory x.2
    let dirs := found.filter fun x => !g.has 'd' && s.files.isDirectory x.2
    p.out (Filters.unlines (plain.map fun (path, l) => path ++ mark g s l))
    let listings := dirs.flatMap fun (path, l) =>
      if g.has 'R' then listingsBelow g s (s.files.entries.length + 1) path l
      else [(path, listing g s l)]
    let headed := g.has 'R' || 1 < paths.length
    let shown := listings.map fun (path, text) =>
      if headed then path ++ [':', '\n'] ++ text else text
    p.out ((if plain = [] ∨ shown = [] then [] else ['\n']) ++ ['\n'].intercalate shown)
    return if found.length < located.length then 2 else 0

def readlink (p : Process) : Task Nat :=
  p.withOptions { flags := "nfem" } 1 fun g => do
    if g.operands = [] then
      p.misuse (octets "missing operand")
      return 1
    forWords g.operands fun path => do
      let s ← get
      if g.has 'f' ∨ g.has 'e' ∨ g.has 'm' then
        match s.files.locate p.directory path true with
        | .ok l => do
          p.out (Files.joined true l ++ ['\n'])
          return 0
        | .error _ => return 1
      else
        match s.files.locate p.directory path false with
        | .ok l =>
          match s.files.entry? l with
          | some (.link target) => do
            p.out (target ++ (if g.has 'n' then [] else ['\n']))
            return 0
          | _ => return 1
        | .error _ => return 1

end Shortcuts.Machine.Tree
