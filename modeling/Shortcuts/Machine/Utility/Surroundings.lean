import Shortcuts.Machine.Utility.Options

/-!
# Programs about their surroundings

They show or change what a program is started with, or start programs themselves.
-/

namespace Shortcuts.Machine.Surroundings

open Text

def lineOf (b : Octets × Octets) : Octets := b.1 ++ '=' :: b.2 ++ ['\n']

def printenv (p : Process) : Task Nat :=
  p.withOptions { flags := "0", ordered := true } 2 fun g => do
    match g.operands with
    | [] => do
      p.out (p.environment.flatMap lineOf)
      return 0
    | names => forWords names fun name => do
      match p.environment.get? name with
      | none => return 1
      | some value => do
        p.out (value ++ ['\n'])
        return 0

/-- Start a file as a program, or hand it to the shell when it names no interpreter. -/
def orInterpreted (start : Starter) : Starter := fun path p s =>
  match start path p s with
  | .error e =>
    if e = .execFormat then
      let shell := octets "/bin/sh"
      start shell { p with name := shell, args := path :: p.args } s
    else .error e
  | started => started

/-- Start a program in place of this one. -/
def become (start : Starter) (p : Process) (complaint : Octets → Errno → Octets)
    (words : List Octets) : Task Exit := do
  match words with
  | [] => return .code 0
  | name :: args => do
    match { p with name, args }.startNamed (orInterpreted start) (← get) with
    | .ok (exit, s) => do
      set s
      return exit
    | .error e => do
      p.complain (complaint name e)
      return .code (if e = .noEntry then 127 else 126)

def tickedReason (name : Octets) (e : Errno) : Octets := ticked name ++ octets ": " ++ e.octets

def env (start : Starter) (p : Process) : Task Exit := do
  let rule : OptionRule :=
    { flags := "i0v", valued := "uCS", ordered := true,
      long := [("ignore-environment", 'i'), ("unset", 'u'), ("chdir", 'C'), ("split-string", 'S'),
        ("null", '0')] }
  match rule.read p.args with
  | .error what => do
    p.misuse what
    return .code 125
  | .ok g => do
    let (dash, rest) :=
      match g.operands with
      | ['-'] :: rest => (true, rest)
      | rest => (false, rest)
    let given := if g.has 'i' ∨ dash then [] else p.environment
    let kept := g.options.foldl (fun e (o : Char × Octets) =>
      if o.1 = 'u' then Variables.unset e o.2 else e) given
    let split := (g.options.filter fun o => o.1 == 'S').flatMap fun o =>
      (pieces ' ' o.2).filter (· != [])
    let words := split ++ rest
    let assigned := words.takeWhile fun w => '=' ∈ w
    let environment := assigned.foldl (fun e w =>
      match cut '=' w with
      | some (name, value) => Variables.set e name value
      | none => e) kept
    match words.drop assigned.length with
    | [] => do
      p.out (environment.flatMap lineOf)
      return .code 0
    | command => do
      let at_ ← match g.value? 'C' with
        | none => pure p.directory
        | some path =>
          match (← get).files.locate p.directory path true with
          | .ok l => pure l
          | .error e => do
            p.complain (octets "cannot change directory to " ++ tickedReason path e)
            return .code 125
      become start { p with environment, directory := at_ } tickedReason command

/-- Programs that start another one and change nothing that shows. -/
def wrapper (start : Starter) (p : Process) (rule : OptionRule) (own : Nat)
    (complaint : String) : Task Exit := do
  match rule.read p.args with
  | .error what => do
    p.misuse what
    return .code 125
  | .ok g =>
    match g.operands.drop own with
    | [] => do
      p.misuse (octets "missing operand")
      return .code 125
    | command => do
      let exit ← become start p (fun name e => octets complaint ++ tickedReason name e) command
      return .code exit.status

def isInterval (s : Octets) : Bool :=
  let body := match s.getLast? with
    | some c => if "smhd".toList.contains c then s.dropLast else s
    | none => []
  let (whole, part) := (cut '.' body).getD (body, [])
  whole ++ part != [] && (whole ++ part).all Char.isDigit

def sleep (p : Process) : Task Nat :=
  p.withOptions {} 1 fun g => do
    if g.operands = [] then
      p.misuse (octets "missing operand")
      return 1
    match g.operands.filter fun w => !isInterval w with
    | [] => return 0
    | bad => do
      bad.dropLast.forM fun w => p.complain (octets "invalid time interval " ++ ticked w)
      p.misuse (octets "invalid time interval " ++ ticked (bad.getLast?.getD []))
      return 1

def id (p : Process) : Task Nat :=
  p.withOptions { flags := "ugGnr" } 1 fun g => do
    let whole := "uid=0(root) gid=0(root) groups=0(root)\n"
    let one := if g.has 'n' then "root\n" else "0\n"
    p.out (octets (if g.options = [] then whole else one))
    return 0

/-- Say one line. -/
def say (p : Process) (line : String) (status : Nat) : Task Nat := do
  p.out (octets (line ++ "\n"))
  return status

/-- How many lines are written where a reader may stop at any time. -/
def plenty : Nat := 20000

def yes (p : Process) : Task Nat := do
  let line := (if p.args = [] then ['y'] else [' '].intercalate p.args) ++ ['\n']
  p.out (List.replicate plenty line).flatten
  return 0

/-! ## xargs -/

inductive Quoting
  | plain
  | quotes (c : Char)
  | backslash

/-- A word under way, last character first. -/
structure Wording where
  done : List Octets := []
  opened : Option Octets := none
  quoting : Quoting := .plain

def Wording.step (w : Wording) (c : Char) : Wording :=
  let put (c : Char) : Wording := { w with opened := some (c :: w.opened.getD []) }
  match w.quoting with
  | .backslash => { put c with quoting := .plain }
  | .quotes q => if c = q then { w with quoting := .plain } else put c
  | .plain =>
    if c = ' ' ∨ c = '\t' ∨ c = '\n' then
      match w.opened with
      | none => w
      | some s => { w with done := s.reverse :: w.done, opened := none }
    else if c = '\\' then { w with quoting := .backslash }
    else if c = '\'' ∨ c = '"' then
      { w with quoting := .quotes c, opened := some (w.opened.getD []) }
    else put c

/-- The words of a text, with quotes as in a shell, and a complaint of a quote that is open at
the end. -/
def quotedWords (s : Octets) : List Octets × Option String :=
  let w := s.foldl Wording.step {}
  match w.quoting with
  | .quotes c =>
    (w.done.reverse, some ("unmatched " ++ (if c = '\'' then "single" else "double") ++
      " quote; by default quotes are special to xargs unless you use the -0 option"))
  | _ => (((w.opened.map List.reverse).toList ++ w.done).reverse, none)

def groupsOf (size : Nat) (ws : List Octets) : List (List Octets) :=
  (List.range ((ws.length + size - 1) / size)).map fun i => (ws.drop (i * size)).take size

def replaced (mark value : Octets) (s : Octets) : Octets := go s.length s
where
  /-- Every step takes a character. -/
  go : Nat → Octets → Octets
    | n + 1, c :: rest =>
      if mark ≠ [] ∧ mark.isPrefixOf (c :: rest) then
        value ++ go n ((c :: rest).drop mark.length)
      else c :: go n rest
    | _, _ => []

/-- The status of all runs together; `none` when no more are to follow. -/
def worse (p : Process) (name : Octets) (status : Nat) (exit : Exit) : Task (Nat × Bool) := do
  match exit with
  | .code 0 => return (status, true)
  | .code 255 => do
    p.complain (name ++ octets ": exited with status 255; aborting")
    return (124, false)
  | .code 127 => return (127, false)
  | .code 126 => return (126, false)
  | .code _ => return (123, true)
  | .signal n => do
    p.complain (name ++ octets (": terminated by signal " ++ toString n))
    return (125, false)

def xargs (start : Starter) (p : Process) : Task Nat := do
  let rule : OptionRule :=
    { flags := "0rtx", valued := "nILdPsE", ordered := true,
      long := [("null", '0'), ("no-run-if-empty", 'r'), ("max-args", 'n'), ("verbose", 't')] }
  p.withOptions rule 1 fun g => do
    let text := match ← p.input none with
      | .ok text => text
      | .error _ => []
    let cutAt (c : Char) : List Octets :=
      let parts := pieces c text
      if parts.getLast? = some [] then parts.dropLast else parts
    let lines := (cutAt '\n').filter (· != [])
    let found : List (List Octets) × Option String :=
      let grouped (ws : List Octets) : List (List Octets) :=
        match (g.value? 'n').bind decimalNat? with
        | some size => groupsOf (max size 1) ws
        | none => if ws = [] then [] else [ws]
      if g.has '0' then (grouped (cutAt '\x00'), none)
      else
        match (g.value? 'd').bind List.head? with
        | some c => (grouped (cutAt c), none)
        | none =>
          if g.has 'I' then (lines.map fun l => [l.dropWhile (· == ' ')], none)
          else if g.has 'L' then (lines.map fun l => (quotedWords l).1, none)
          else
            let (ws, fault) := quotedWords text
            (grouped ws, fault)
    let command := if g.operands = [] then [octets "echo"] else g.operands
    let (runs, fault) := found
    let runs := if runs = [] ∧ fault = none ∧ !g.has 'r' ∧ !g.has 'I' then [[]] else runs
    let sink ← modifyGet fun s => s.openNew [] false
    let inner := { p with descriptors := p.descriptors.set 0 sink }
    let (status, _) ← runs.foldlM (fun ((status, goOn) : Nat × Bool) ws => do
      if !goOn then return (status, false)
      let words := match g.value? 'I' with
        | some mark => command.map (replaced mark ws.flatten)
        | none => command ++ ws
      if g.has 't' then
        let _ ← p.write 2 ([' '].intercalate words ++ ['\n'])
      let exit ← become start inner (fun name e => name ++ octets ": " ++ e.octets) words
      worse p (words.headD []) status exit) (0, true)
    match fault with
    | some what => do
      p.complain (octets what)
      return 1
    | none => return status

end Shortcuts.Machine.Surroundings
