import Shortcuts.Machine.Utility.Filters.Lines

/-!
# Sorting

Programs that bring lines into order and drop repeated ones.
-/

namespace Shortcuts.Machine.Filters

open Text

/-- The fields of a line for keys: runs of blanks belong to the field after them. -/
def blankFields (line : Octets) : List Octets := go line.length line
where
  /-- Every step takes a field. -/
  go : Nat → Octets → List Octets
    | 0, _ => []
    | n + 1, line =>
      if line = [] then []
      else
        let blanks := line.takeWhile fun c => c == ' ' || c == '\t'
        let rest := line.drop blanks.length
        let field := rest.takeWhile fun c => c != ' ' && c != '\t'
        (blanks ++ field) :: go n (rest.drop field.length)

/-- The value of the number that a text begins with, in units of its sixth decimal place. -/
def leadingNumber (s : Octets) : Int :=
  let s := s.dropWhile fun c => c == ' ' || c == '\t'
  let (negative, s) :=
    match s with
    | '-' :: r => (true, r)
    | r => (false, r)
  let whole := s.takeWhile Char.isDigit
  let part :=
    match s.drop whole.length with
    | '.' :: r => (r.takeWhile Char.isDigit).take 6
    | _ => []
  let digits := whole ++ part ++ List.replicate (6 - part.length) '0'
  let n : Int := Nat.ofDigitChars 10 digits 0
  if negative then -n else n

structure SortKey where
  first : Nat := 1
  last : Option Nat := none
  numeric : Bool := false
  reverse : Bool := false
  folding : Bool := false
  blanks : Bool := false

def SortKey.ofText? (s : Octets) : Option SortKey :=
  let field (s : Octets) : Option (Nat × Octets) :=
    let digits := s.takeWhile Char.isDigit
    let rest := s.drop digits.length
    let rest := match rest with
      | '.' :: r => r.dropWhile Char.isDigit
      | r => r
    (decimalNat? digits).map fun n => (n, rest)
  let parts := pieces ',' s
  match parts with
  | [a] => (field a).map fun (n, flags) => flagged { first := n } flags
  | [a, b] => do
    let (n, flags) ← field a
    let (m, more) ← field b
    return flagged { first := n, last := some m } (flags ++ more)
  | _ => none
where
  flagged (k : SortKey) (flags : Octets) : SortKey :=
    { k with numeric := 'n' ∈ flags, reverse := 'r' ∈ flags, folding := 'f' ∈ flags,
             blanks := 'b' ∈ flags }

def SortKey.part (k : SortKey) (separator : Option Char) (line : Octets) : Octets :=
  let fields :=
    match separator with
    | some c => pieces c line
    | none => blankFields line
  let chosen := (fields.drop (k.first - 1)).take
    (match k.last with
      | some m => m + 1 - k.first
      | none => fields.length)
  let glue := match separator with
    | some c => [c]
    | none => []
  let text := glue.intercalate chosen
  if k.blanks then text.dropWhile fun c => c == ' ' || c == '\t' else text

/-- How two texts compare under a key. -/
def SortKey.order (k : SortKey) (a b : Octets) : Ordering :=
  let o :=
    if k.numeric then compareOfLessAndEq (leadingNumber a) (leadingNumber b)
    else
      let fold (s : Octets) : Octets := if k.folding then s.map Char.toUpper else s
      compareOfLessAndEq (fold a) (fold b)
  if k.reverse then o.swap else o

/-- How lines are to be put in order. -/
structure Sorting where
  /-- The key that a whole line is without others. -/
  whole : SortKey := {}
  separator : Option Char := none
  keys : List SortKey := []
  /-- Lines with equal keys keep their order. -/
  stable : Bool := false

namespace Sorting

def ofOptions (g : Given) : Sorting :=
  let whole : SortKey :=
    { numeric := g.has 'n', reverse := g.has 'r', folding := g.has 'f', blanks := g.has 'b' }
  { whole
    separator := (g.value? 't').bind List.head?
    keys := (g.options.filter fun o => o.1 == 'k').filterMap fun o =>
      (SortKey.ofText? o.2).map fun k =>
        { k with numeric := k.numeric || whole.numeric, reverse := k.reverse || whole.reverse,
                 folding := k.folding || whole.folding, blanks := k.blanks || whole.blanks }
    stable := g.has 's' || g.has 'u' }

def byKeys (s : Sorting) (a b : Octets) : Ordering :=
  match s.keys with
  | [] => s.whole.order (s.whole.part none a) (s.whole.part none b)
  | keys => keys.foldr (fun k o => (k.order (k.part s.separator a) (k.part s.separator b)).then o) .eq

/-- Whole lines decide what the keys leave open. -/
def order (s : Sorting) (a b : Octets) : Ordering :=
  (s.byKeys a b).then
    (if s.stable then .eq else ({ reverse := s.whole.reverse } : SortKey).order a b)

def sorted (s : Sorting) (lines : List Octets) : List Octets :=
  lines.mergeSort fun a b => (s.order a b).isLE

/-- The first of each run of lines with equal keys. -/
def firsts (s : Sorting) : List Octets → List Octets
  | [] => []
  | a :: rest =>
    match firsts s rest with
    | b :: more => if s.byKeys a b = .eq then a :: more else a :: b :: more
    | [] => [a]

end Sorting

def sort (p : Process) : Task Nat :=
  let rule : OptionRule :=
    { flags := "nrufbsc", valued := "kto",
      long := [("numeric-sort", 'n'), ("reverse", 'r'), ("unique", 'u'), ("ignore-case", 'f'),
        ("key", 'k'), ("field-separator", 't'), ("output", 'o')] }
  p.withOptions rule 2 fun g => do
    let (text, status) ← gathered p g fun name e =>
      phrase (if e = .isDirectory then "read failed: " else "cannot read: ") name ": " ++ e.octets
    if status ≠ 0 then return 2
    let sorting := Sorting.ofOptions g
    let sorted := sorting.sorted ((linesOf text).map bare)
    let kept := if g.has 'u' then sorting.firsts sorted else sorted
    match g.value? 'o' with
    | none => p.out (unlines kept)
    | some path => do
      match (← get).openPath p.descriptors p.directory path .overwrite with
      | .error e => p.complain (phrase "open failed: " path ": " ++ e.octets)
      | .ok (k, s) => set (s.write k (unlines kept)).2
    return 0

/-- Runs of equal lines. -/
def runs (same : Octets → Octets → Bool) : List Octets → List (Octets × Nat)
  | [] => []
  | a :: rest =>
    match runs same rest with
    | (b, n) :: more => if same a b then (a, n + 1) :: more else (a, 1) :: (b, n) :: more
    | [] => [(a, 1)]

def uniq (p : Process) : Task Nat :=
  let rule : OptionRule :=
    { flags := "cdui", long := [("count", 'c'), ("repeated", 'd'), ("unique", 'u'),
        ("ignore-case", 'i')] }
  p.withOptions rule 1 fun g =>
    let source : Given := { g with operands := g.operands.take 1 }
    eachInput p source plainWording fun _ text => do
      let same (a b : Octets) : Bool :=
        if g.has 'i' then a.map Char.toLower == b.map Char.toLower else a == b
      let found := (runs same ((linesOf text).map bare)).filter fun r =>
        (!g.has 'd' || 1 < r.2) && (!g.has 'u' || r.2 == 1)
      p.out (unlines (found.map fun (line, n) =>
        if g.has 'c' then padLeft 7 (decimalText n) ++ ' ' :: line else line))

end Shortcuts.Machine.Filters
