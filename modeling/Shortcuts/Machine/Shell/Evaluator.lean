import Shortcuts.Machine.Script.Parser
import Shortcuts.Machine.Shell.Arithmetic
import Shortcuts.Machine.Shell.Builtin

/-!
# Carrying out scripts

Words are expanded and commands carried out. Every function takes a bound on the depth of its
calls, of which each turn of a loop uses one.
-/

namespace Shortcuts.Machine.Shell

open Text Script

/-- Circumstances of a command. -/
structure Setting where
  /-- Its failure decides something and does not end a shell that stops at failures. -/
  tested : Bool := false

/-- How a word is expanded. -/
structure Manner where
  /-- It stays one field. -/
  single : Bool := false
  /-- Its plain text is split like what expansions give. -/
  splits : Bool := false

def exhausted {α : Type} : Work α := do
  complain (octets "too deep")
  setStatus 2
  throw .failed

/-! ## Parameters -/

/-- The value of a parameter other than the list of arguments. -/
def parameter? (name : Octets) : Work (Option Octets) := do
  let s ← get
  match name with
  | ['#'] => return some (decimalText s.process.args.length)
  | ['?'] => return some (decimalText s.status)
  | ['-'] => return some s.optionLetters
  | ['$'] => return some (decimalText s.main)
  | ['!'] => return s.latest.map decimalText
  | ['0'] => return some s.process.name
  | _ =>
    match decimalNat? name with
    | some 0 => return some s.process.name
    | some (n + 1) => return s.process.args[n]?
    | none => return s.value? name

def isArguments (name : Octets) : Bool := reads name "@" || reads name "*"

def itemsOfValue (quoted : Bool) (value : Octets) : List Item :=
  if quoted then .void :: Item.ofText true false value else Item.ofText false true value

/-- The items of the list of arguments. -/
def itemsOfArguments (m : Manner) (quoted : Bool) (name : Octets) : Work (List Item) := do
  let args := (← get).process.args
  let apart := (args.map (itemsOfValue quoted)).intersperse [.boundary]
  if m.single ∨ (quoted ∧ reads name "*") then
    let separator := (← separators).head?.toList
    return itemsOfValue quoted (separator.intercalate args)
  else if quoted ∧ args = [] then return [.lacking]
  else return apart.flatten

def unsetMessage (colon : Bool) : Octets :=
  octets (if colon then "parameter not set or null" else "parameter not set")

/-- A tilde at the start of a text stands for a home directory. -/
def homeOf (text : Octets) : Work (Option (Octets × Octets)) := do
  match text with
  | '~' :: rest =>
    let user := rest.takeWhile (· != '/')
    if user = [] then return (← value? (octets "HOME")).map fun home => (home, rest)
    else if reads user "root" then return some (octets "/root", rest.drop user.length)
    else return none
  | _ => return none

/-- Expand the tilde that a word starts with. -/
def withHome (w : ShellWord) : Work ShellWord := do
  match w with
  | .text false held :: more =>
    if '/' ∉ held ∧ more ≠ [] then return w
    match ← homeOf held with
    | some (home, rest) =>
      return .text true home :: (if rest = [] then more else .text false rest :: more)
    | none => return w
  | _ => return w

/-- In a value, tildes count after colons too. -/
def withHomes (w : ShellWord) : Work ShellWord := do
  let parts ← w.mapM fun p => do
    match p with
    | .text false held => do
      let words ← (Text.pieces ':' held).mapM fun part => withHome [.text false part]
      return (words.intersperse [.text false [':']]).flatten
    | p => return [p]
  return parts.flatten

/-! ## Processes -/

def exitOf (status : Nat) : Option Departure → Exit
  | some (.killed n) => .signal n
  | _ => .code (status % 256)

/-- See to the signals that have arrived; the actions that they call for. -/
def arrivals : Work (List Octets) := do
  let s ← get
  let (mine, others) := s.system.signals.partition fun g => g.1 == s.process.id
  set { s with system := { s.system with signals := others } }
  let actions ← mine.mapM fun (_, n) => do
    match s.traps.find? fun t => t.1 == n && Signal.canBeTrapped n with
    | some (_, action) => return [action]
    | none => if Signal.isHarmless n then return [] else throw (.killed n)
  return actions.flatten

/-- Tell how a program ended that something else is to follow. -/
def reportEnd (e : Exit) : Work Unit := do
  match e with
  | .signal n => if n ≠ 2 ∧ n ≠ 13 then writeError (octets (Signal.description n))
  | .code _ => return

/-- Whether a file begins like a text: the first line has no control characters to speak of. -/
def beginsAsText (held : Octets) : Bool :=
  ((held.take 128).takeWhile (· != '\n')).all fun c =>
    (' ' ≤ c && c != '\x7f') || ('\t' ≤ c && c ≤ '\x0f') || c == '\x1b'

/-- Start a program from a file. A text without an interpreter is taken for a script. -/
def startFile (start : Starter) (name path : Octets) (args : List Octets) :
    Work (Except Errno Exit) := do
  let s ← get
  let p := { s.process with name, args, environment := s.environment,
                            ancestors := s.process.id :: s.process.ancestors,
                            ignored := (s.traps.filter fun t => t.2 == []).map Prod.fst }
  let shell := octets "/bin/sh"
  let result :=
    match start path p s.system with
    | .error e =>
      let held := (s.system.files.read s.process.directory path).toOption.getD []
      if e = Errno.execFormat ∧ beginsAsText held then
        start shell { p with name := shell, args := path :: args } s.system
      else .error e
    | ok => ok
  match result with
  | .ok (exit, system) => do
    set { s with system }
    return .ok exit
  | .error e => return .error e

def statusOfErrno (e : Errno) : Nat :=
  if isMissing e ∨ e = .linkLoop ∨ e = .nameTooLong then 127 else 126

/-- Start a program by its name. -/
def startProgram (start : Starter) (name : Octets) (args : List Octets) :
    Work (Except Errno Exit) := do
  match ← findProgram? name with
  | .error e => if '/' ∈ name then startFile start name name args else return .error e
  | .ok path => startFile start name path args

/-- The status of a command whose program cannot be started. A program that was only looked for is
not found, whatever the reason. -/
def statusOfRefusal (name : Octets) (e : Errno) : Nat :=
  if '/' ∉ name ∧ e = .accessDenied then 127 else statusOfErrno e

/-- Run a program as a command. -/
def external (start : Starter) (name : Octets) (args : List Octets) : Work Unit := do
  if reads name "sleep" then settle
  match ← startProgram start name args with
  | .error e => do
    complain (name ++ octets ": " ++ reasonText "not found" e)
    setStatus (statusOfRefusal name e)
  | .ok exit => do
    setStatus exit.status
    reportEnd exit

/-- A process that goes on where this one stands, with arrangements of its own. -/
def State.offspring (s : State) : State :=
  let id := s.system.started + 1
  { s with
    system := { s.system with started := id }
    process := { s.process with id, ancestors := s.process.id :: s.process.ancestors }
    traps := s.traps.filter fun t => t.2 == []
    background := [] }

/-! ## Redirections -/

def openOrFail (path : Octets) (a : Access) (guarded : Bool) : Work Nat := do
  let s ← get
  if guarded ∧ s.options.contains 'C' then
    match s.system.files.locate s.process.directory path true with
    | .ok l =>
      if (s.system.files.fileAt? l).any fun f => f.content matches .data _ then
        fail (octets "cannot create " ++ path ++ octets ": File exists")
    | .error _ => pure ()
  match ← openFile path a with
  | .ok k => return k
  | .error e =>
    if a = .read then
      fail (octets "cannot open " ++ path ++ octets ": " ++ reasonText "No such file" e)
    else
      fail (octets "cannot create " ++ path ++ octets ": " ++ reasonText "Directory nonexistent" e)

/-- A redirection with its words expanded. -/
inductive Attachment
  | file (fd : Nat) (access : Access) (guarded : Bool) (path : Octets)
  /-- Without a source, the descriptor is closed. -/
  | copy (fd : Nat) (source : Option Nat)
  | here (fd : Nat) (text : Octets)

def Attachment.make : Attachment → Work Unit
  | .file fd a guarded path => do connect fd (← openOrFail path a guarded)
  | .copy fd none => do setDescriptors ((← get).process.descriptors.close fd)
  | .copy fd (some source) => do
    match ← descriptor? source with
    | some k => connect fd k
    | none => fail (decimalText source ++ octets ": Bad file descriptor")
  | .here fd text => do
    let s ← get
    let (k, system) := s.system.openNew text true
    set { s with system }
    connect fd k

/-- Make attachments; if one fails, none of them stays. -/
def attach (as : List Attachment) : Work Bool := do
  let before := (← get).process.descriptors
  try
    as.forM Attachment.make
    return true
  catch _ => do
    setDescriptors before
    return false

/-- Give the shell's descriptors back after something. -/
def keepingDescriptors (act : Work Unit) : Work Unit := do
  let held := (← get).process.descriptors
  try
    act
    setDescriptors held
  catch d => do
    setDescriptors held
    throw d

/-- Lay complaints to a command of the shell. -/
def asBuiltin (name : Octets) (act : Work Unit) : Work Unit := do
  let before := (← get).builtin
  modify fun s => { s with builtin := some name }
  try
    act
    modify fun s => { s with builtin := before }
  catch d => do
    modify fun s => { s with builtin := before }
    throw d

/-- Put variables back as they were. -/
def putBack (held : List (Octets × Option Variable)) : Work Unit :=
  held.forM fun (name, v) => modify fun s => s.putVariable name v

/-- Stop after a failure if the shell is to do so. -/
def checkStatus (m : Setting) : Work Unit := do
  let s ← get
  if !m.tested ∧ s.status ≠ 0 ∧ s.options.contains 'e' then throw .exited

/-! ## Commands -/

/-- Do one turn; whether another one may follow. -/
def inTurn (act : Work Bool) : Work Bool := do
  try act
  catch
    | .loop (count + 2) again => do
      modify fun s => { s with loops := s.loops - 1 }
      throw (.loop (count + 1) again)
    | .loop _ again => return again
    | d => throw d


mutual

/-- The items of the pieces of a word. -/
def itemsOfPieces (start : Starter) : Nat → Manner → List Piece → Work (List Item)
  | 0, _, _ => exhausted
  | _ + 1, _, [] => return []
  | n + 1, m, p :: rest => do
    let items ← itemsOfPiece start n m p
    return items ++ (← itemsOfPieces start n m rest)

def itemsOfPiece (start : Starter) : Nat → Manner → Piece → Work (List Item)
  | 0, _, _ => exhausted
  | n + 1, m, p => do
    match p with
    | .text quoted held =>
      return if quoted then .void :: Item.ofText true false held
        else Item.ofText false m.splits held
    | .parameter quoted name change => itemsOfParameter start n m quoted name change
    | .output quoted command => return itemsOfValue quoted (← outputOf start n command)
    | .sum quoted inner => do
      let text := Item.text (← itemsOfPieces start n { single := true } inner)
      let s ← get
      match Arithmetic.evaluate s.value? text with
      | .error what => fail what
      | .ok (result, assigned) => do
        assigned.reverse.forM fun (name, value) => setVariable name value
        return itemsOfValue quoted (octets (toString result))

def itemsOfParameter (start : Starter) : Nat → Manner → Bool → Octets → Change →
    Work (List Item)
  | 0, _, _, _, _ => exhausted
  | n + 1, m, quoted, name, change => do
    let s ← get
    let list := isArguments name
    let value ← if list then pure (if s.process.args = [] then none else some []) else
      parameter? name
    let itself : Work (List Item) := do
      if list then itemsOfArguments m quoted name else
        return itemsOfValue quoted (((← parameter? name)).getD [])
    let insist : Work Unit := do
      if value.isNone ∧ !list ∧ s.options.contains 'u' then
        fail (name ++ octets ": parameter not set")
    match change with
    | .plain => do
      insist
      itself
    | .length => do
      insist
      let whole := if list then [' '].intercalate s.process.args else value.getD []
      return itemsOfValue quoted (decimalText whole.length)
    | .malformed => fail (octets "Bad substitution")
    | .trim fromEnd longest pattern => do
      insist
      let pattern := Item.letters (← itemsOfPieces start n { single := true } pattern)
      let whole := Item.text (← itemsOfValue quoted <$> pure (value.getD []))
      let whole := if list then [' '].intercalate s.process.args else whole
      return itemsOfValue quoted (Pattern.trimmed fromEnd longest pattern whole)
    | .fallback f colon word => do
      let given :=
        match value with
        | none => false
        | some v => !colon || list || v != []
      let fallen : Work (List Item) := do
        let items ← itemsOfPieces start n { single := m.single, splits := !quoted } word
        return if quoted then .void :: items else items
      match f with
      | .substitute => if given then itself else fallen
      | .replace => if given then fallen else return if quoted then [.void] else []
      | .assign =>
        if given then itself
        else if !Script.isName name then fail (name ++ octets ": bad variable name")
        else do
          setVariable name (Item.text (← itemsOfPieces start n { single := true } word))
          itself
      | .complain =>
        if given then itself
        else do
          let what := Item.text (← itemsOfPieces start n { single := true } word)
          fail (name ++ octets ": " ++ if word = [] then unsetMessage colon else what)

/-- What a command writes, without the newlines at the end. -/
def outputOf (start : Starter) : Nat → Command → Work Octets
  | 0, _ => exhausted
  | n + 1, c => do
    let s ← get
    let (k, system) := s.system.openNew [] true
    set { s with system }
    let exit ← inSubshell start n (do
      connect 1 k
      execute start n {} c)
    let s ← get
    set { s with taken := exit.status }
    let written := (s.system.seek k fun _ => 0).remaining k
    return ((written.filter (· != '\x00')).reverse.dropWhile (· == '\n')).reverse

/-- Do something in a process of its own. -/
def inSubshell (start : Starter) : Nat → Work Unit → Work Exit
  | 0, _ => exhausted
  | n + 1, act => do
    let s ← get
    let (departure, after) := (act.run s.offspring).run
    let (exit, after) := (leave start n (match departure with
      | .ok _ => none
      | .error d => some d)).run after
    set { s with system := after.system }
    match exit with
    | .ok e => return e
    | .error _ => return .code 2

/-- End a process: what was arranged for the end is done. -/
def leave (start : Starter) : Nat → Option Departure → Work Exit
  | 0, _ => exhausted
  | n + 1, d => do
    let s ← get
    if let some (.killed k) := d then
      settle
      return .signal k
    match s.traps.find? fun t => t.1 == 0 with
    | none => do
      settle
      return exitOf s.status d
    | some (_, action) => do
      modify fun s => { s with traps := s.traps.filter fun t => t.1 != 0 }
      let exit ← try
          runText start n {} action
          pure (exitOf s.status d)
        catch d => pure (exitOf (← get).status (some d))
      settle
      return exit

/-- The text of a word that stays one field. -/
def textOfWord (start : Starter) : Nat → ShellWord → Work Octets
  | 0, _ => exhausted
  | n + 1, w => return Item.text (← itemsOfPieces start n { single := true } (← withHome w))

/-- The words that a word stands for. -/
def wordsOfWord (start : Starter) : Nat → ShellWord → Work (List Octets)
  | 0, _ => exhausted
  | n + 1, w => do
    let items ← itemsOfPieces start n {} (← withHome w)
    let fields := fieldsOf (← separators) items
    let s ← get
    if s.options.contains 'f' then return fields.map textOf
    else return fields.flatMap (wordsOf s.system.files s.process.directory)

/-- The words of a command. Those that look like assignments stay whole where it declares. -/
def wordsOfCommand (start : Starter) : Nat → Bool → List ShellWord → Work (List Octets)
  | 0, _, _ => exhausted
  | _ + 1, _, [] => return []
  | n + 1, declares, w :: rest => do
    let ws ← match if declares then assigning? w else none with
      | some (name, value) => do
        let text := Item.text (← itemsOfPieces start n { single := true } (← withHomes value))
        pure [name ++ '=' :: text]
      | none => wordsOfWord start n w
    return ws ++ (← wordsOfCommand start n declares rest)

/-- Expand what a redirection is to. -/
def prepare (start : Starter) : Nat → Redirection → Work Attachment
  | 0, _ => exhausted
  | n + 1, r => do
    match r with
    | .file fd a guarded path => return .file fd a guarded (← textOfWord start n path)
    | .copy fd target => do
      let target ← textOfWord start n target
      if target = ['-'] then return .copy fd none
      match decimalNat? target with
      | some source => return .copy fd (some source)
      | none => fail (octets "Syntax error: Bad fd number")
    | .here fd text => return .here fd (Item.text (← itemsOfPieces start n { single := true } text))

def assign (start : Starter) : Nat → List (Octets × ShellWord) → Work (List Octets)
  | 0, _ => exhausted
  | _ + 1, [] => return []
  | n + 1, (name, w) :: rest => do
    let value := Item.text (← itemsOfPieces start n { single := true } (← withHomes w))
    setVariable name value
    return (name ++ '=' :: value) :: (← assign start n rest)

def execute (start : Starter) : Nat → Setting → Command → Work Unit
  | 0, _, _ => exhausted
  | n + 1, m, c => do
    if ← has 'n' then return
    match c with
    | .nothing => setStatus 0
    | .simple line assignments given redirections => do
      modify fun s => { s with line, taken := 0 }
      simple start n m assignments given redirections
      checkStatus m
    | .pipeline negated parts => do
      if negated then
        match parts with
        | [c] => execute start n { tested := true } c
        | _ => setStatus (← stages start n none parts).status
        modify fun s => { s with status := if s.status = 0 then 1 else 0 }
      else
        let exit ← stages start n none parts
        setStatus exit.status
        reportEnd exit
        checkStatus m
    | .sequence a b => do
      execute start n m a
      execute start n m b
    | .both a b => do
      execute start n { tested := true } a
      if (← get).status = 0 then execute start n m b
    | .either a b => do
      execute start n { tested := true } a
      if (← get).status ≠ 0 then execute start n m b
    | .background c => do
      let s ← get
      let id := s.system.started + 1
      let detached : Work Unit := do
        match ← openFile (octets "/dev/null") .read with
        | .ok k => connect 0 k
        | .error _ => pure ()
        execute start n {} c
      let run (system : System) : Exit × System :=
        let parent : State := { s with system }
        match ((inSubshell start n detached).run parent).run with
        | (.ok exit, after) => (exit, after.system)
        | (.error _, after) => (.code 2, after.system)
      let job : Job := { id, waiting := some run }
      modify fun s => { s with
        system := { s.system with started := id }
        background := s.background ++ [job]
        latest := some id }
      setStatus 0
    | .subshell c => do
      let exit ← inSubshell start n (execute start n m c)
      setStatus exit.status
      reportEnd exit
      attend start n
      checkStatus m
    | .redirected line c redirections => do
      modify fun s => { s with line }
      let prepared ← redirections.mapM (prepare start n)
      keepingDescriptors do
        if ← attach prepared then execute start n m c
      checkStatus m
    | .cond test yes no => do
      execute start n { tested := true } test
      if (← get).status = 0 then execute start n m yes else execute start n m no
    | .loop negated test body => do
      modify fun s => { s with loops := s.loops + 1 }
      turns start n m negated test body 0
      modify fun s => { s with loops := s.loops - 1 }
    | .forEach line name list body => do
      modify fun s => { s with line }
      let values ← match list with
        | some ws => wordsOfCommand start n false ws
        | none => pure (← get).process.args
      setStatus 0
      modify fun s => { s with loops := s.loops + 1 }
      turnsWith start n m name body values
      modify fun s => { s with loops := s.loops - 1 }
    | .choose line word branches => do
      modify fun s => { s with line }
      let subject ← textOfWord start n word
      choose start n m subject branches
    | .define name body => do
      modify fun s =>
        { s with functions := (name, body) :: s.functions.filter fun f => f.1 != name }
      setStatus 0

/-- Run the parts of a pipeline one after the other, each on the output of the one before. -/
def stages (start : Starter) : Nat → Option Nat → List Command → Work Exit
  | 0, _, _ => exhausted
  | _ + 1, _, [] => return .code 0
  | n + 1, input, c :: rest => do
    let takeInput : Work Unit := do
      match input with
      | some k => connect 0 k
      | none => pure ()
    if rest.isEmpty then
      inSubshell start n (do
        takeInput
        execute start n {} c)
    else
      let s ← get
      let (k, system) := s.system.openNew [] true
      let file := (system.openings[k]?.map Opening.file).getD 0
      let (source, system) := system.openFile { file, pipe := true }
      set { s with system }
      let exit ← inSubshell start n (do
        takeInput
        connect 1 k
        execute start n {} c)
      reportEnd exit
      stages start n (some source) rest

/-- One turn of a loop after another. The status is that of the last one. -/
def turns (start : Starter) : Nat → Setting → Bool → Command → Command → Nat → Work Unit
  | 0, _, _, _, _, _ => exhausted
  | n + 1, m, negated, test, body, status => do
    let more ← inTurn (do
      execute start n { tested := true } test
      if ((← get).status = 0) = !negated then
        execute start n m body
        return true
      else
        setStatus status
        return false)
    if more then turns start n m negated test body (← get).status

def turnsWith (start : Starter) : Nat → Setting → Octets → Command → List Octets → Work Unit
  | 0, _, _, _, _ => exhausted
  | _ + 1, _, _, _, [] => return
  | n + 1, m, name, body, value :: rest => do
    setVariable name value
    let more ← inTurn (do
      execute start n m body
      return true)
    if more then turnsWith start n m name body rest

def choose (start : Starter) : Nat → Setting → Octets →
    List (List ShellWord × Command) → Work Unit
  | 0, _, _, _ => exhausted
  | _ + 1, _, _, [] => setStatus 0
  | n + 1, m, subject, (patterns, body) :: rest => do
    if ← fitsAny start n subject patterns then execute start n m body
    else choose start n m subject rest

def fitsAny (start : Starter) : Nat → Octets → List ShellWord → Work Bool
  | 0, _, _ => exhausted
  | _ + 1, _, [] => return false
  | n + 1, subject, w :: rest => do
    let pattern := Item.letters (← itemsOfPieces start n { single := true } (← withHome w))
    if Pattern.fits (Pattern.elements pattern) subject then return true
    else fitsAny start n subject rest

/-- A simple command: its words, then its redirections, then its assignments. -/
def simple (start : Starter) : Nat → Setting → List (Octets × ShellWord) → List ShellWord →
    List Redirection → Work Unit
  | 0, _, _, _, _ => exhausted
  | n + 1, m, assignments, given, redirections => do
    let declares := (given.head?.bind literal?).any isDeclaringName
    let ws ← wordsOfCommand start n declares given
    let before := (← get).process.descriptors
    let special := ws.head?.any isSpecialName
    let prepared ← redirections.mapM (prepare start n)
    if !(← attach prepared) then
      if special then throw .failed
      return
    let attached := (← get).process.descriptors
    let trace (assigned : List Octets) : Work Unit := do
      if (← has 'x') ∧ (assigned ≠ [] ∨ ws ≠ []) then
        setDescriptors before
        let _ ← write 2 (((← value? (octets "PS4")).getD (octets "+ ")) ++
          [' '].intercalate (assigned ++ ws) ++ ['\n'])
        setDescriptors attached
    match ws with
    | [] => do
      let assigned ← assign start n assignments
      trace assigned
      setDescriptors before
      modify fun s => { s with status := s.taken }
    | name :: args =>
      if special then do
        let assigned ← assign start n assignments
        trace assigned
        if reads name "exec" ∧ args = [] then setStatus 0
        else
          keepingDescriptors (asBuiltin name (builtin start n m name args))
          setDescriptors before
      else do
        let held := (← get).bindings
        let olds := assignments.map fun a => (a.1, (held.find? fun v => v.1 == a.1).map Prod.snd)
        let assigned ← assign start n assignments
        assignments.forM fun a => markVariable a.1 fun v => { v with exported := true }
        trace assigned
        keepingDescriptors do
          match ← function? name with
          | some body => call start n m body args
          | none =>
            if isRegularName name then regular start n m name args
            else external start name args
        setDescriptors before
        putBack olds.reverse
      attend start n

/-- An error in a command of this kind does not end the shell. -/
def regular (start : Starter) : Nat → Setting → Octets → List Octets → Work Unit
  | 0, _, _, _ => exhausted
  | n + 1, m, name, args => do
    try
      asBuiltin name (builtin start n m name args)
    catch
      | .failed => pure ()
      | d => throw d

def call (start : Starter) : Nat → Setting → Command → List Octets → Work Unit
  | 0, _, _, _ => exhausted
  | n + 1, m, body, args => do
    let s ← get
    set { s with
      process := { s.process with args }, loops := 0, calls := s.calls + 1,
      saved := [] :: s.saved }
    try
      execute start n { tested := m.tested } body
    catch
      | .returned => pure ()
      | d => throw d
    let after ← get
    putBack (after.saved.headD [])
    modify fun after =>
      { after with
        process := { after.process with args := s.process.args }
        loops := s.loops, calls := s.calls, saved := s.saved }

/-- See to what signals call for. -/
def attend (start : Starter) : Nat → Work Unit
  | 0 => exhausted
  | n + 1 => do
    let actions ← arrivals
    let status := (← get).status
    for action in actions do
      runText start n {} action
    if actions ≠ [] then setStatus status

/-- Read a text as a script and carry it out. -/
def runText (start : Starter) : Nat → Setting → Octets → Work Unit
  | 0, _, _ => exhausted
  | n + 1, m, text => do
    runSource start n m { rest := text }

/-- Carry out a script line by line. -/
def runSource (start : Starter) : Nat → Setting → Source → Work Unit
  | 0, _, _ => exhausted
  | n + 1, m, source => do
    match source.nextLine with
    | .error f => do
      modify fun s => { s with line := f.line }
      fail (octets f.what)
    | .ok none => return
    | .ok (some (c, rest)) => do
      if ← has 'v' then
        let _ ← write 2 (source.rest.take (source.rest.length - rest.rest.length))
      execute start n m c
      runSource start n m rest

/-- Carry out a command of the shell. -/
def builtin (start : Starter) : Nat → Setting → Octets → List Octets → Work Unit
  | 0, _, _, _ => exhausted
  | n + 1, m, name, args => do
    match String.ofList name with
    | "eval" => do
      let text := [' '].intercalate args
      if text.all fun c => c == ' ' then setStatus 0
      else runText start n m text
    | "." => readScript start n args
    | "exec" => do
      match args with
      | [] => setStatus 0
      | program :: args =>
        match ← startProgram start program args with
        | .error e => fail (program ++ octets ": " ++ reasonText "not found" e) (statusOfErrno e)
        | .ok exit => do
          setStatus exit.status
          match exit with
          | .signal k => throw (.killed k)
          | .code _ => do
            modify fun s => { s with traps := [] }
            throw .exited
    | "command" => do
      let g ← takeOptions "pvV" "" args
      match g.operands with
      | [] => setStatus 0
      | name :: args =>
        if g.has 'v' ∨ g.has 'V' then
          setStatus 0
          describe (g.has 'v') name
        else if isSpecialName name ∨ isRegularName name then regular start n m name args
        else do
          modify fun s => { s with builtin := none }
          external start name args
    | name => carryOut name args

/-- Carry out the commands of a file. -/
def readScript (start : Starter) : Nat → List Octets → Work Unit
  | 0, _ => exhausted
  | n + 1, args => do
    match args with
    | [] => setStatus 0
    | file :: _ => do
      let s ← get
      let attempt (path : Octets) : Except Errno (Nat × System) :=
        s.system.openPath s.process.descriptors s.process.directory path .read
      let searched := (s.value? (octets "PATH")).getD []
      let found ← match firstOf attempt (candidates searched file) with
        | .ok (k, system) => do
          let (held, system) := system.read k none
          set { s with system }
          pure held
        | .error e =>
          if '/' ∈ file ∧ e = .isDirectory then pure []
          else if '/' ∈ file then
            fail (octets "cannot open " ++ file ++ octets ": " ++ reasonText "No such file" e)
          else fail (file ++ octets ": not found")
      modify fun s => { s with calls := s.calls + 1 }
      setStatus 0
      try
        asBuiltin file (runText start n {} found)
      catch
        | .returned => pure ()
        | d => throw d
      modify fun after => { after with calls := s.calls }

end

end Shortcuts.Machine.Shell
