import Shortcuts.Machine.Utility.Filters.Lines

/-!
# Programs that look into files

`cmp` compares two files byte by byte, `od` shows bytes as numbers or characters, and `stat` tells
what is known of a file.
-/

namespace Shortcuts.Machine.Inspection

open Text

/-! ## cmp -/

/-- The bytes in which two texts differ: place, and both bytes. -/
def differences (place : Nat) : Octets → Octets → List (Nat × Char × Char)
  | a :: s, b :: t =>
    if a = b then differences (place + 1) s t else (place, a, b) :: differences (place + 1) s t
  | _, _ => []

def octal3 (c : Char) : Octets :=
  let digits := Nat.toDigits 8 c.toNat
  List.replicate (3 - digits.length) ' ' ++ digits

def compareTexts (p : Process) (g : Given) (a b : Octets) (s t : Octets) : Task Nat := do
  let limited (s : Octets) : Octets :=
    match (g.value? 'n').bind decimalNat? with
    | some n => s.take n
    | none => s
  let (s, t) := (limited s, limited t)
  let found := differences 1 s t
  let short : Option (Octets × Octets) :=
    if s.length < t.length then some (a, s) else if t.length < s.length then some (b, t) else none
  if found = [] ∧ short = none then return 0
  if g.has 's' then return 1
  if g.has 'l' then
    let width := (decimalText (max s.length t.length)).length
    p.out (found.flatMap fun (n, x, y) =>
      Filters.padLeft width (decimalText n) ++ [' '] ++ octal3 x ++ [' '] ++ octal3 y ++ ['\n'])
  match found.head? with
  | some (n, x, y) => do
    if !g.has 'l' then
      let line := decimalText (1 + Filters.countLines (s.take (n - 1)))
      let bytes := if g.has 'b' then
          octets " is " ++ octal3 x ++ [' ', x, ' '] ++ octal3 y ++ [' ', y]
        else []
      let unit := if g.has 'b' then ": byte " else ": char "
      let unit := " differ" ++ unit
      p.out (a ++ [' '] ++ b ++ octets unit ++ decimalText n ++ octets ", line " ++ line ++ bytes
        ++ ['\n'])
  | none => pure ()
  match short with
  | some (name, held) => do
    if found = [] ∨ g.has 'l' then
      if held = [] then p.complain (octets "EOF on " ++ name ++ octets " which is empty")
      else
        let lines := Filters.countLines held
        let place := if g.has 'l' then [] else
          if held.getLast? = some '\n' then octets (", line " ++ toString lines)
          else octets (", in line " ++ toString (lines + 1))
        p.complain (octets "EOF on " ++ name ++ octets (" after byte " ++ toString held.length) ++
          place)
  | none => pure ()
  return 1

def cmp (p : Process) : Task Nat :=
  let rule : OptionRule :=
    { flags := "slb", valued := "ni",
      long := [("silent", 's'), ("quiet", 's'), ("verbose", 'l'), ("bytes", 'n')] }
  p.withOptions rule 2 fun g => do
    let misuse (what : Octets) : Task Nat := do
      p.complain what
      p.complain p.hint
      return 2
    match g.operands with
    | [] => misuse (octets "missing operand after " ++ ticked p.name)
    | a :: rest => do
      let b := rest.headD ['-']
      let first ← p.readNamed a
      let second ← if a = b then pure first else p.readNamed b
      match first, second with
      | .ok s, .ok t => compareTexts p g a b s t
      | first, second => do
        for (name, r) in [(a, first), (b, second)] do
          match r with
          | .error e => if !g.has 's' then p.complain (Filters.plainWording name e)
          | .ok _ => pure ()
        return 2

/-! ## od -/

/-- How bytes are shown: as characters, or as numbers of some size in some base. -/
inductive Display
  | characters
  | numbers (base : Char) (size : Nat)

def nameOf (c : Char) : Octets :=
  match c with
  | '\x00' => ['\\', '0']
  | '\x07' => ['\\', 'a']
  | '\x08' => ['\\', 'b']
  | '\t' => ['\\', 't']
  | '\n' => ['\\', 'n']
  | '\x0b' => ['\\', 'v']
  | '\x0c' => ['\\', 'f']
  | '\r' => ['\\', 'r']
  | c =>
    if ' ' ≤ c ∧ c ≤ '~' then [c]
    else
      let digits := Nat.toDigits 8 c.toNat
      List.replicate (3 - digits.length) '0' ++ digits

namespace Display

def size : Display → Nat
  | .characters => 1
  | .numbers _ n => n

/-- The width of a cell with the blank before it. -/
def width : Display → Nat
  | .characters => 4
  | .numbers 'x' n => 2 * n + 1
  | .numbers 'o' n => [0, 4, 7, 0, 12, 0, 0, 0, 23][n]?.getD 4
  | .numbers 'u' n => [0, 4, 6, 0, 11, 0, 0, 0, 21][n]?.getD 4
  | .numbers _ n => [0, 5, 7, 0, 12, 0, 0, 0, 21][n]?.getD 5

/-- The value of bytes, the lowest first. -/
def value (bytes : Octets) : Nat := bytes.foldr (fun c n => c.toNat + 256 * n) 0

def cell (d : Display) (bytes : Octets) : Octets :=
  let body :=
    match d with
    | .characters => bytes.flatMap nameOf
    | .numbers base n =>
      let v := value bytes
      let padded (width : Nat) (s : Octets) : Octets :=
        List.replicate (width - s.length) '0' ++ s
      match base with
      | 'x' => padded (d.width - 1) (Nat.toDigits 16 v)
      | 'o' => padded (d.width - 1) (Nat.toDigits 8 v)
      | 'u' => decimalText v
      | _ =>
        if v < Nat.pow 2 (8 * n - 1) then decimalText v
        else '-' :: decimalText (Nat.pow 2 (8 * n) - v)
  Filters.padLeft d.width body

def row (d : Display) (bytes : Octets) : Octets :=
  let count := (bytes.length + d.size - 1) / d.size
  (List.range count).flatMap fun i => d.cell ((bytes.drop (i * d.size)).take d.size)

/-- The display that a letter and a size ask for. -/
def ofText? : Octets → Option Display
  | ['c'] => some .characters
  | [base] => if "xodu".toList.contains base then some (.numbers base 4) else none
  | [base, n] =>
    if "xodu".toList.contains base ∧ "1248".toList.contains n then
      some (.numbers base (n.toNat - '0'.toNat))
    else none
  | _ => none

end Display

def addressText (base : Char) (n : Nat) : Octets :=
  let padded (width : Nat) (s : Octets) : Octets := List.replicate (width - s.length) '0' ++ s
  match base with
  | 'n' => []
  | 'd' => padded 7 (decimalText n)
  | 'x' => padded 6 (Nat.toDigits 16 n)
  | _ => padded 7 (Nat.toDigits 8 n)

/-- The rows of a text. A full row like the one before shows as a star, and only once. -/
def rows (address : Char) (d : Display) (full : Bool) (at_ : Nat) (text : Octets) : Octets :=
  let count := (text.length + 15) / 16
  let row (i : Nat) : Octets := (text.drop (16 * i)).take 16
  (List.range count).flatMap fun i =>
    let again := !full && 0 < i && i + 1 < count && row i == row (i - 1)
    if again then (if 1 < i ∧ row (i - 1) = row (i - 2) then [] else ['*', '\n'])
    else addressText address (at_ + 16 * i) ++ d.row (row i) ++ ['\n']

def od (p : Process) : Task Nat :=
  p.withOptions { flags := "cbxdov", valued := "AtNj" } 1 fun g => do
    let chosen : Option Display :=
      match g.value? 't' with
      | some s => Display.ofText? s
      | none =>
        some (if g.has 'c' then .characters
          else if g.has 'b' then .numbers 'o' 1
          else if g.has 'x' then .numbers 'x' 2
          else if g.has 'd' then .numbers 'u' 2
          else .numbers 'o' 2)
    match chosen with
    | none => do
      p.complain (octets "invalid type string " ++ ticked ((g.value? 't').getD []))
      return 1
    | some d => do
      let (text, status) ← Filters.gathered p g Filters.plainWording
      let skipped := ((g.value? 'j').bind decimalNat?).getD 0
      let text := text.drop skipped
      let text := match (g.value? 'N').bind decimalNat? with
        | some n => text.take n
        | none => text
      let address := ((g.value? 'A').bind List.head?).getD 'o'
      let last := addressText address (skipped + text.length)
      if status = 0 ∨ text ≠ [] then
        p.out (rows address d (g.has 'v') skipped text ++ if last = [] then [] else last ++ ['\n'])
      return status

/-! ## stat -/

def kindOf (file? : Option File) : String :=
  match file? with
  | none => "directory"
  | some { content := .device _, .. } => "character special file"
  | some { content := .data [], .. } => "regular empty file"
  | some _ => "regular file"

/-- Fill in a format. -/
def described (name : Octets) (file? : Option File) : Octets → Octets
  | '%' :: c :: rest =>
    let shown :=
      match c with
      | 'n' => name
      | 's' => match file? with
        | some { content := .data held, .. } => decimalText held.length
        | _ => decimalText 4096
      | 'a' => Nat.toDigits 8 (match file? with
        | some f => f.mode
        | none => 0o755)
      | 'F' => octets (kindOf file?)
      | 'U' | 'G' => octets "root"
      | 'u' | 'g' => ['0']
      | '%' => ['%']
      | c => ['%', c]
    shown ++ described name file? rest
  | c :: rest => c :: described name file? rest
  | [] => []

def stat (p : Process) : Task Nat :=
  p.withOptions { flags := "L", valued := "c", long := [("format", 'c')] } 1 fun g => do
    if g.operands = [] then
      p.misuse (octets "missing operand")
      return 1
    forWords g.operands fun name => do
      let f := (← get).files
      match f.locate p.directory name (g.has 'L') with
      | .error e => do
        p.complain (blame "cannot statx " name "" e)
        return 1
      | .ok l => do
        p.out (described name (f.fileAt? l) ((g.value? 'c').getD (octets "%n")) ++ ['\n'])
        return 0

end Shortcuts.Machine.Inspection
