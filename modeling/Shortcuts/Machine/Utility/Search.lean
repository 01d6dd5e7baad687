import Shortcuts.Machine.Utility.Regex

/-!
# Searching and editing

Lines that match, and lines changed where they match.
-/

namespace Shortcuts.Machine.Search

open Text Filters

/-! ## grep -/

/-- Every match in a line, from left to right; empty ones are passed over. -/
def everyMatch (r : Regex) (line : Octets) : List Octets := go line.length true line
where
  /-- Every step takes a character at least. -/
  go : Nat → Bool → Octets → List Octets
    | 0, _, _ => []
    | n + 1, start, line =>
      match r.search start line with
      | none => []
      | some (before, p) =>
        if p.taken = [] then go n false (line.drop (before.length + 1))
        else p.taken :: go n false p.rest

def isWordChar (c : Char) : Bool := c.isAlphanum || c == '_'

/-- Whether a line is selected: the match is the whole line, or a whole word, if that is asked. -/
def selects (rs : List Regex) (whole word : Bool) (line : Octets) : Bool :=
  rs.any fun r =>
    if whole then
      (r.advance true (line.length + 1) { rest := line }).any fun p => p.rest.isEmpty
    else
      match r.search true line with
      | none => false
      | some (before, p) =>
        !word || (!(before.getLast?.any isWordChar) && !(p.rest.head?.any isWordChar))

/-- How much `grep` reads at a time. -/
def grepBlock : Nat := 98304

def grep (p : Process) : Task Nat :=
  let rule : OptionRule :=
    { flags := "qcvinxwFEGlLoshHr", valued := "em",
      long := [("quiet", 'q'), ("silent", 'q'), ("count", 'c'), ("invert-match", 'v'),
        ("ignore-case", 'i'), ("line-number", 'n'), ("line-regexp", 'x'), ("word-regexp", 'w'),
        ("fixed-strings", 'F'), ("extended-regexp", 'E'), ("files-with-matches", 'l'),
        ("only-matching", 'o'), ("no-messages", 's'), ("regexp", 'e'), ("max-count", 'm')] }
  p.withOptions rule 2 fun g => do
    let given := (g.options.filter fun o => o.1 == 'e').map Prod.snd
    let (spec, operands) :=
      match given, g.operands with
      | [], w :: rest => (some w, rest)
      | [], [] => (none, [])
      | ws, rest => (some (['\n'].intercalate ws), rest)
    match spec with
    | none => do
      let _ ← p.write 2 (octets "Usage: grep [OPTION]... PATTERNS [FILE]...\n" ++
        octets "Try 'grep --help' for more information.\n")
      return 2
    | some spec =>
      let read := fun w =>
        if g.has 'F' then some (Regex.ofPlain (g.has 'i') w)
        else Regex.ofText? (g.has 'E') (g.has 'i') w
      match (pieces '\n' spec).mapM read with
      | none => do
        p.complain (octets "Invalid regular expression")
        return 2
      | some rs => do
        let names := if operands = [] then [['-']] else operands
        let labelled := (1 < names.length || g.has 'H') && !g.has 'h'
        let most := (g.value? 'm').bind decimalNat?
        let (found, failed) ← names.foldlM (fun (found, failed) name => do
          match ← p.readNamed name with
          | .error e => do
            if !g.has 's' then p.complain (plainWording name e)
            return (found, true)
          | .ok text => do
            let lines := ((linesOf text).map bare).zipIdx
            let hits := lines.filter fun l => selects rs (g.has 'x') (g.has 'w') l.1 != g.has 'v'
            let hits := match most with
              | some m => hits.take m
              | none => hits
            if reads name "-" ∧ most.any (· ≤ hits.length) ∧ !g.has 'q' then
              let last := (hits.getLast?.map Prod.snd).getD 0
              let used := ((linesOf text).take (last + 1)).flatten.length
              p.giveBack grepBlock used (text.length - used)
            let shown := if reads name "-" then octets "(standard input)" else name
            let label := if labelled then shown ++ [':'] else []
            if g.has 'q' then pure ()
            else if g.has 'l' then p.out (if hits = [] then [] else shown ++ ['\n'])
            else if g.has 'L' then p.out (if hits = [] then shown ++ ['\n'] else [])
            else if g.has 'c' then p.out (label ++ decimalText hits.length ++ ['\n'])
            else
              p.out (unlines (hits.flatMap fun (line, i) =>
                let number := if g.has 'n' then decimalText (i + 1) ++ [':'] else []
                if g.has 'o' then (rs.flatMap fun r => everyMatch r line).map (label ++ number ++ ·)
                else [label ++ number ++ line]))
            return (found || !hits.isEmpty, failed)) (false, false)
        return if found ∧ (!failed ∨ g.has 'q') then 0 else if failed then 2 else 1

/-! ## sed -/

inductive Address
  | line (n : Nat)
  | last
  | matching (r : Regex)

inductive Edit
  | replace (r : Regex) (text : Octets) (every : Bool) (nth : Nat) (shown : Bool)
  | show
  | delete
  | quit
  | number
  | exchange (source target : Octets)
  | append (text : Octets)
  | insert (text : Octets)
  | change (text : Octets)

structure Instruction where
  start : Option Address := none
  stop : Option Address := none
  negated : Bool := false
  edit : Edit

/-- The text up to a delimiter that no backslash stands before. -/
def upTo (delimiter : Char) : Octets → Option (Octets × Octets)
  | [] => none
  | '\\' :: c :: rest =>
    (upTo delimiter rest).map fun (s, r) =>
      (if c = delimiter then (c :: s, r) else ('\\' :: c :: s, r))
  | c :: rest =>
    if c = delimiter then some ([], rest)
    else (upTo delimiter rest).map fun (s, r) => (c :: s, r)

def address? (extended : Bool) (s : Octets) : Option (Option Address × Octets) :=
  match s with
  | '$' :: rest => some (some .last, rest)
  | '/' :: rest => do
    let (r, rest) ← upTo '/' rest
    return (some (.matching (← Regex.ofText? extended false r)), rest)
  | s =>
    let digits := s.takeWhile Char.isDigit
    some ((decimalNat? digits).map .line, s.drop digits.length)

/-- The text of an insertion: what follows on the line, or on the next line after a backslash. -/
def insertion (s : Octets) : Octets × Octets :=
  let s := s.dropWhile fun c => c == ' ' || c == '\t'
  let s := match s with
    | '\\' :: '\n' :: r => r
    | '\\' :: r => r
    | r => r
  let text := s.takeWhile (· != '\n')
  (text ++ ['\n'], s.drop text.length)

def edit? (extended : Bool) (s : Octets) : Option (Edit × Octets) :=
  match s with
  | 's' :: d :: rest => do
    let (r, rest) ← upTo d rest
    let (text, rest) ← upTo d rest
    let flags := rest.takeWhile fun c => c.isDigit || "gpiI".toList.contains c
    let regex ← Regex.ofText? extended ('i' ∈ flags || 'I' ∈ flags) r
    let nth := (decimalNat? (flags.filter Char.isDigit)).getD 1
    return (.replace regex text ('g' ∈ flags) nth ('p' ∈ flags), rest.drop flags.length)
  | 'y' :: d :: rest => do
    let (a, rest) ← upTo d rest
    let (b, rest) ← upTo d rest
    return (.exchange a b, rest)
  | 'p' :: rest => some (.show, rest)
  | 'd' :: rest => some (.delete, rest)
  | 'q' :: rest => some (.quit, rest)
  | '=' :: rest => some (.number, rest)
  | 'a' :: rest => let (t, r) := insertion rest; some (.append t, r)
  | 'i' :: rest => let (t, r) := insertion rest; some (.insert t, r)
  | 'c' :: rest => let (t, r) := insertion rest; some (.change t, r)
  | _ => none

def instructions? (extended : Bool) (s : Octets) : Option (List Instruction) := go s.length s
where
  /-- Every step takes a character. -/
  go : Nat → Octets → Option (List Instruction)
    | 0, s => if s.all isBreak then some [] else none
    | n + 1, s => do
      let s := s.dropWhile isBreak
      if s = [] then return []
      let (start, s) ← address? extended s
      let (stop, s) ←
        match s with
        | ',' :: rest => address? extended rest
        | s => some (none, s)
      let (negated, s) :=
        match s.dropWhile (· == ' ') with
        | '!' :: rest => (true, rest)
        | s => (false, s)
      let (edit, s) ← edit? extended (s.dropWhile (· == ' '))
      return { start, stop, negated, edit } :: (← go n s)
  isBreak (c : Char) : Bool := c == ';' || c == '\n' || c == ' ' || c == '\t'

/-- The replacement of a match, with `&` and group numbers filled in. -/
def filled (p : Regex.Progress) : Octets → Octets
  | [] => []
  | '&' :: rest => p.taken ++ filled p rest
  | '\\' :: c :: rest =>
    (if c.isDigit then
      (if c = '0' then p.taken else Regex.groupText p.groups (c.toNat - '0'.toNat))
    else if c = 'n' then ['\n']
    else if c = 't' then ['\t']
    else [c]) ++ filled p rest
  | c :: rest => c :: filled p rest

/-- Replace the matches from the `nth` on, only that one unless all are meant. -/
def replaced (r : Regex) (text : Octets) (every : Bool) (nth : Nat) (line : Octets) :
    Octets × Bool :=
  go (line.length + 1) nth true line
where
  /-- Every step takes a character or is the last. -/
  go : Nat → Nat → Bool → Octets → Octets × Bool
    | 0, _, _, line => (line, false)
    | n + 1, left, start, line =>
      match r.search start line with
      | none => (line, false)
      | some (before, p) =>
        let shown := if left ≤ 1 then filled p text else p.taken
        let changed := left ≤ 1
        if changed ∧ !every then (before ++ shown ++ p.rest, true)
        else
          match p.taken, p.rest with
          | [], [] => (before ++ shown, changed)
          | [], c :: rest =>
            let (more, again) := go n (left - 1) false rest
            (before ++ shown ++ c :: more, changed || again)
          | _, rest =>
            if rest = [] then (before ++ shown, changed)
            else
              let (more, again) := go n (left - 1) false rest
              (before ++ shown ++ more, changed || again)

/-- A line in work. -/
structure Editing where
  line : Octets
  shown : Octets := []
  after : Octets := []
  deleted : Bool := false
  quitting : Bool := false

def Address.fits (a : Address) (n count : Nat) (line : Octets) : Bool :=
  match a with
  | .line m => n == m
  | .last => n == count
  | .matching r => (r.search true line).isSome

/-- Whether an instruction concerns a line, and whether its range is open after it. -/
def Instruction.concerns (i : Instruction) (opened : Bool) (n count : Nat) (line : Octets) :
    Bool × Bool :=
  match i.start, i.stop with
  | none, _ => (true, false)
  | some a, none => (a.fits n count line, false)
  | some a, some b =>
    if opened then (true, !b.fits n count line)
    else if a.fits n count line then
      (true, match b with
        | .line m => n < m
        | b => !(b matches .last) || n < count)
    else (false, false)

def Edit.apply (n : Nat) (e : Editing) : Edit → Editing
  | .replace r text every nth shown =>
    let (line, changed) := replaced r text every nth e.line
    { e with line, shown := e.shown ++ if changed ∧ shown then line ++ ['\n'] else [] }
  | .show => { e with shown := e.shown ++ e.line ++ ['\n'] }
  | .delete => { e with deleted := true }
  | .quit => { e with quitting := true }
  | .number => { e with shown := e.shown ++ decimalText n ++ ['\n'] }
  | .exchange source target =>
    { e with line := e.line.map fun c =>
      match source.idxOf? c with
      | some i => (target[i]?).getD c
      | none => c }
  | .append text => { e with after := e.after ++ text }
  | .insert text => { e with shown := e.shown ++ text }
  | .change text => { e with deleted := true, shown := e.shown ++ text }

/-- Go through the lines; `opened` tells which ranges are open. What comes out, and the lines after
the one on which it stopped. -/
def edited (is : List Instruction) (quiet : Bool) (count : Nat) :
    Nat → List Bool → List Octets → Octets × List Octets
  | _, _, [] => ([], [])
  | n, opened, line :: rest =>
    let (e, opened) := (is.zip opened).foldl (fun (e, next) (i, o) =>
      if e.deleted ∨ e.quitting then (e, next ++ [o])
      else
        let (hit, o) := i.concerns o n count e.line
        (if hit != i.negated then i.edit.apply n e else e, next ++ [o]))
      (({ line := bare line } : Editing), [])
    let ending := if line.getLast? = some '\n' then ['\n'] else []
    let shown := e.shown ++ (if e.deleted ∨ quiet then [] else e.line ++ ending) ++ e.after
    if e.quitting then (shown, rest)
    else
      let (more, left) := edited is quiet count (n + 1) opened rest
      (shown ++ more, left)

/-- How much `sed` reads at a time. -/
def sedBlock : Nat := 4096

def sed (p : Process) : Task Nat :=
  let rule : OptionRule :=
    { flags := "nErsi", valued := "e",
      long := [("quiet", 'n'), ("silent", 'n'), ("expression", 'e'), ("regexp-extended", 'E'),
        ("in-place", 'i')] }
  p.withOptions rule 1 fun g => do
    let given := (g.options.filter fun o => o.1 == 'e').map Prod.snd
    let (script, operands) :=
      match given, g.operands with
      | [], w :: rest => (w, rest)
      | ws, rest => (['\n'].intercalate ws, rest)
    match instructions? (g.has 'E' || g.has 'r') script with
    | none => do
      p.complain (octets "-e expression #1, char " ++ decimalText script.length ++
        octets ": unknown command")
      return 1
    | some is => do
      let work (text : Octets) : Octets × List Octets :=
        let lines := linesOf text
        edited is (g.has 'n') lines.length 1 (is.map fun _ => false) lines
      let wording (name : Octets) (e : Errno) : Octets :=
        phrase "can't read " name ": " ++ e.octets
      if g.has 'i' then
        forWords operands fun name => do
          let s ← get
          match s.files.openFile p.directory name .read with
          | .error e => do
            p.complain (wording name e)
            return 2
          | .ok (number, files) => do
            match files.file? number with
            | some { content := .data held, .. } =>
              set { s with files := files.setContent number (work held).1 }
            | _ => pure ()
            return 0
      else do
        let (text, status) ← gathered p { g with operands } wording
        let (shown, left) := work text
        p.out shown
        if operands = [] ∨ operands = [['-']] then
          let unused := left.flatten.length
          p.giveBack sedBlock (text.length - unused) unused
        return 2 * status

end Shortcuts.Machine.Search
