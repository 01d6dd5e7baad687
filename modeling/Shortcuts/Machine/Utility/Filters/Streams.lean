import Shortcuts.Machine.Utility.Filters.Lines

/-!
# Streams

Programs that pass text on, whole or in part, and one that measures it.
-/

namespace Shortcuts.Machine.Filters

open Text

/-! ## cat, tac, rev -/

/-- Control characters as `^X`, bytes above 127 as `M-x`. -/
def visible (c : Char) : Octets :=
  let low (n : Nat) : Octets :=
    if n < 32 then ['^', Char.ofNat (n + 64)] else if n = 127 then ['^', '?'] else [Char.ofNat n]
  if c = '\n' ∨ c = '\t' then [c]
  else if c.toNat < 128 then low c.toNat
  else octets "M-" ++ low (c.toNat - 128)

structure Numbering where
  next : Nat := 1
  blankBefore : Bool := false
  shown : Octets := []

def cat (p : Process) : Task Nat :=
  p.withOptions { flags := "nbsETvAetu", long := [("number", 'n'), ("show-ends", 'E')] } 1 fun g =>
  do
    let has (s : String) : Bool := s.toList.any g.has
    let step (m : Numbering) (line : Octets) : Numbering :=
      let blank := bare line = []
      if g.has 's' ∧ blank ∧ m.blankBefore then m
      else
        let body := (bare line).flatMap fun c =>
          if c = '\t' ∧ has "TAt" then ['^', 'I'] else if has "vAet" then visible c else [c]
        let ending := if line.getLast? = some '\n' then
            (if has "EAe" then ['$', '\n'] else ['\n'])
          else []
        let counts := if g.has 'b' then !blank else g.has 'n'
        let number := if counts then padLeft 6 (decimalText m.next) ++ ['\t'] else []
        { next := if counts then m.next + 1 else m.next, blankBefore := blank,
          shown := m.shown ++ number ++ body ++ ending }
    if g.options = [] then do
      let status ← eachInput p g plainWording fun _ text => p.out text
      if (inputs g).contains ['-'] ∧ (p.descriptors.get? 0).isNone then
        p.complain (octets "closing standard input: " ++ Errno.badDescriptor.octets)
      return status
    else do
      let (text, status) ← gathered p g plainWording
      p.out ((linesOf text).foldl step {}).shown
      return status

def tac (p : Process) : Task Nat :=
  p.withOptions {} 1 fun g =>
    eachInput p g (fun name e => blame "failed to open " name " for reading" e) fun _ text =>
      p.out (linesOf text).reverse.flatten

def rev (p : Process) : Task Nat :=
  p.withOptions {} 1 fun g =>
    eachInput p g (fun name e => phrase "cannot open " name ": " ++ e.octets) fun _ text =>
      p.out ((linesOf text).flatMap fun line =>
        (bare line).reverse ++ if line.getLast? = some '\n' then ['\n'] else [])

/-! ## head and tail -/

/-- A number with an optional sign before it. -/
def signed? (s : Octets) : Option (Option Char × Nat) :=
  match s with
  | '-' :: r => (decimalNat? r).map fun n => (some '-', n)
  | '+' :: r => (decimalNat? r).map fun n => (some '+', n)
  | r => (decimalNat? r).map fun n => (none, n)

/-- The parts that are counted: lines, or bytes. -/
def units (bytes : Bool) (text : Octets) : List Octets :=
  if bytes then text.map fun c => [c] else linesOf text

/-- Old spelling: a dash and a number stand for a number of lines. -/
def modernCount (args : List Octets) : List Octets :=
  match args with
  | ('-' :: digits) :: rest =>
    if (decimalNat? digits).isSome then ['-', 'n'] :: digits :: rest else args
  | _ => args

/-- How much is read at a time. -/
def blockSize : Nat := 8192

/-- What is common to both: options, headings over several inputs, and the choice of a part. When
the part comes `first`, nothing that follows it is read. -/
def ends (p : Process) (first : Bool)
    (part : Option Char → Nat → List Octets → List Octets) : Task Nat :=
  let p := { p with args := modernCount p.args }
  let rule : OptionRule :=
    { flags := "qvf", valued := "nc", long := [("lines", 'n'), ("bytes", 'c'), ("quiet", 'q')] }
  p.withOptions rule 1 fun g => do
    let bytes := g.has 'c'
    let word := (if bytes then g.value? 'c' else g.value? 'n').getD (octets "10")
    match signed? word with
    | none => do
      p.complain (octets (if bytes then "invalid number of bytes: " else
        "invalid number of lines: ") ++ ticked word)
      return 1
    | some (sign, n) => do
      let headed := (1 < (inputs g).length || g.has 'v') && !g.has 'q'
      let partial_ := first && sign != some '-'
      let limit := if partial_ && bytes then some n else none
      let (_, status) ← (inputs g).foldlM (fun (fresh, status) name => do
        match ← p.readNamed name limit with
        | .ok text => do
          if headed then
            let shown := if reads name "-" then octets "standard input" else name
            p.out ((if fresh then [] else ['\n']) ++ phrase "==> " shown " <==\n")
          let chosen := (part sign n (units bytes text)).flatten
          p.out chosen
          if partial_ ∧ reads name "-" then
            p.giveBack blockSize chosen.length (text.length - chosen.length)
          return (false, status)
        | .error e => do
          if e = .isDirectory then p.complain (blame "error reading " name "" e)
          else p.complain (blame "cannot open " name " for reading" e)
          return (fresh, 1)) (true, 0)
      return status

def head (p : Process) : Task Nat :=
  ends p true fun sign n parts =>
    if sign = some '-' then parts.take (parts.length - n) else parts.take n

def tail (p : Process) : Task Nat :=
  ends p false fun sign n parts =>
    if sign = some '+' then parts.drop (n - 1) else parts.drop (parts.length - n)

/-! ## wc -/

structure Count where
  lines : Nat := 0
  words : Nat := 0
  bytes : Nat := 0
  widest : Nat := 0

def Count.ofText (text : Octets) : Count where
  lines := countLines text
  words := countWords text
  bytes := text.length
  widest := ((linesOf text).map fun l => (bare l).length).foldl max 0

def Count.add (a b : Count) : Count :=
  ⟨a.lines + b.lines, a.words + b.words, a.bytes + b.bytes, max a.widest b.widest⟩

/-- The size of a file that stores data, which is known before it is read. -/
def knownSize (s : System) (p : Process) (name : Octets) : Option Nat :=
  let number : Option Nat :=
    if reads name "-" then none
    else
      match s.files.locate p.directory name true with
      | .ok l =>
        match s.files.entry? l with
        | some (.file number) => some number
        | _ => none
      | .error _ => none
  match number.bind s.files.file? with
  | some { content := .data held, .. } => some held.length
  | _ => none

/-- Whether standard input is a file that stores data. -/
def inputIsFile (s : System) (p : Process) : Bool :=
  match p.descriptors.get? 0 with
  | some k => !s.isPipe k && (s.content? k matches some (.data _))
  | none => false

def wc (p : Process) : Task Nat :=
  let rule : OptionRule :=
    { flags := "lwcmL",
      long := [("lines", 'l'), ("words", 'w'), ("bytes", 'c'), ("chars", 'm'),
        ("max-line-length", 'L')] }
  p.withOptions rule 1 fun g => do
    let s ← get
    let columns := if g.options = [] then "lwc".toList else "lwmcL".toList.filter g.has
    let names := inputs g
    let sizes := names.map fun n =>
      if reads n "-" then (if inputIsFile s p then some (s.remaining
        ((p.descriptors.get? 0).getD 0)).length else none)
      else knownSize s p n
    let unknown := (names.zip sizes).any fun (n, size) =>
      size.isNone && (reads n "-" || (s.files.locate p.directory n true matches .ok _))
    let total := (sizes.map fun size => size.getD 0).foldl (· + ·) 0
    let width :=
      if names.length = 1 ∧ columns.length = 1 then 1
      else max (decimalText total).length (if unknown then 7 else 1)
    let row (c : Count) (name : Octets) : Octets :=
      let cells := columns.map fun column =>
        let n :=
          match column with
          | 'l' => c.lines
          | 'w' => c.words
          | 'L' => c.widest
          | _ => c.bytes
        padLeft width (decimalText n)
      [' '].intercalate cells ++ (if name = [] then [] else ' ' :: name) ++ ['\n']
    let (sum, status) ← names.foldlM (fun (sum, status) name => do
      match ← p.readNamed name with
      | .ok text => do
        let c := Count.ofText text
        p.out (row c (if g.operands = [] then [] else name))
        return (Count.add sum c, status)
      | .error e => do
        p.complain (plainWording name e)
        if e = .isDirectory then p.out (row {} name)
        return (sum, 1)) (({} : Count), 0)
    if 1 < names.length then p.out (row sum (octets "total"))
    return status

/-! ## tee -/

def tee (p : Process) : Task Nat :=
  p.withOptions { flags := "ai", long := [("append", 'a')] } 1 fun g => do
    let opened ← g.operands.foldlM (fun (ks, status) name => do
      let access : Access := if g.has 'a' then .append else .overwrite
      match (← get).openPath p.descriptors p.directory name access with
      | .ok (k, s) => do
        set s
        return (ks ++ [k], status)
      | .error e => do
        p.complain (plainWording name e)
        return (ks, 1)) (([] : List Nat), 0)
    let text := match ← p.input none with
      | .ok text => text
      | .error _ => []
    p.out text
    opened.1.forM fun k => modify fun s => (s.write k text).2
    return opened.2

end Shortcuts.Machine.Filters
