import Shortcuts.Machine.Utility.Options
import Shortcuts.Machine.Utility.Printing
import Shortcuts.Machine.Utility.Regex

/-!
# Programs that calculate

`seq` counts in decimal numbers, and `expr` evaluates an expression whose parts are words.
-/

namespace Shortcuts.Machine.Numbers

open Text

/-! ## seq -/

/-- A decimal number: its digits as an integer, and how many of them are after the point. -/
structure Decimal where
  digits : Int
  places : Nat := 0

namespace Decimal

def ofText? (s : Octets) : Option Decimal :=
  let (negative, body) :=
    match s with
    | '-' :: r => (true, r)
    | '+' :: r => (false, r)
    | r => (false, r)
  let (body, exponent) :=
    match cut 'e' body with
    | some (body, e) => (body, decimalNat? e)
    | none => (body, some 0)
  let (whole, part) := (cut '.' body).getD (body, [])
  match decimalNat? (whole ++ part), exponent with
  | some n, some e =>
    let n := n * Nat.pow 10 (min e 300)
    let n := if part.length < e then n / Nat.pow 10 part.length else n / Nat.pow 10 (min e 300)
    some { digits := if negative then -n else n, places := part.length - e }
  | _, _ => none

/-- The digits of a number with more places. -/
def scaled (d : Decimal) (places : Nat) : Int := d.digits * (Nat.pow 10 (places - d.places) : Nat)

end Decimal

def textOf (places : Nat) (n : Int) : Octets :=
  let digits := Nat.toDigits 10 n.natAbs
  let digits := List.replicate (places + 1 - digits.length) '0' ++ digits
  let cut := digits.length - places
  (if n < 0 then ['-'] else []) ++ digits.take cut ++
    (if places = 0 then [] else '.' :: digits.drop cut)

/-- Zeros after the sign, up to a width. -/
def widened (width : Nat) (s : Octets) : Octets :=
  let zeros := List.replicate (width - s.length) '0'
  match s with
  | '-' :: r => '-' :: zeros ++ r
  | r => zeros ++ r

def isNumberWord (s : Octets) : Bool :=
  match s with
  | '-' :: c :: _ => c.isDigit || c == '.'
  | _ => false

/-- Put two dashes before a negative number where options could still follow. -/
def guarded : List Octets → List Octets
  | ['-', '-'] :: rest => ['-', '-'] :: rest
  | ['-', c] :: value :: rest =>
    if c = 's' ∨ c = 'f' then ['-', c] :: value :: guarded rest
    else if isNumberWord ['-', c] then ['-', '-'] :: ['-', c] :: value :: rest
    else ['-', c] :: guarded (value :: rest)
  | a :: rest =>
    if isNumberWord a then ['-', '-'] :: a :: rest
    else if a.head? = some '-' then a :: guarded rest
    else a :: rest
  | [] => []

/-- A format with one conversion: what stands before it and after it. -/
def formatParts (s : Octets) : Except Octets (Octets × Octets × Octets) :=
  match cut '%' s with
  | none => .error (octets "format " ++ ticked s ++ octets " has no % directive")
  | some (before, rest) =>
    let body := rest.takeWhile fun c => "-+ #0.123456789".toList.contains c
    match rest.drop body.length with
    | letter :: after =>
      if "fFeEgG".toList.contains letter then .ok (before, '%' :: body ++ [letter], after)
      else .error (octets "format " ++ ticked s ++ octets " has unknown %" ++ [letter] ++
        octets " directive")
    | [] => .error (octets "format " ++ ticked s ++ octets " ends in %")

def seq (p : Process) : Task Nat := do
  let rule : OptionRule :=
    { flags := "w", valued := "sf", ordered := true,
      long := [("separator", 's'), ("equal-width", 'w'), ("format", 'f')] }
  { p with args := guarded p.args }.withOptions rule 1 fun g => do
    match g.operands with
    | [] => do
      p.misuse (octets "missing operand")
      return 1
    | _ :: _ :: _ :: extra :: _ => do
      p.misuse (octets "extra operand " ++ ticked extra)
      return 1
    | words =>
      match words.find? fun w => (Decimal.ofText? w).isNone with
      | some bad => do
        p.misuse (octets "invalid floating point argument: " ++ ticked bad)
        return 1
      | none =>
        let one : Decimal := ⟨1, 0⟩
        let (first, step, last) :=
          match words.filterMap Decimal.ofText? with
          | [last] => (one, one, last)
          | [first, last] => (first, one, last)
          | [first, step, last] => (first, step, last)
          | _ => (one, one, ⟨0, 0⟩)
        if step.digits = 0 then
          p.misuse (octets "invalid Zero increment value: " ++ ticked (words[1]?.getD []))
          return 1
        let places := max first.places step.places
        let finest := max places last.places
        let (low, by_, high) := (first.scaled finest, step.scaled finest, last.scaled finest)
        let count := if 0 < by_ then (high - low) / by_ + 1 else (low - high) / -by_ + 1
        let unit : Int := (Nat.pow 10 (finest - places) : Nat)
        let shown := (List.range count.toNat).map fun (i : Nat) =>
          textOf places ((low + by_ * i) / unit)
        let parts? := (g.value? 'f').map formatParts
        if let some (.error what) := parts? then
          p.complain what
          return 1
        let shown :=
          match parts? with
          | some (.ok (before, directive, after)) => shown.map fun n =>
            before ++ (Printing.format (.program []) [directive, n]).written ++ after
          | _ => shown
        let width := (shown.map List.length).foldl max 0
        let shown := if g.has 'w' then shown.map (widened width) else shown
        let separator := (g.value? 's').getD ['\n']
        p.out (separator.intercalate shown ++ if shown = [] then [] else ['\n'])
        return 0

/-! ## expr -/

def integer? (s : Octets) : Option Int :=
  match s with
  | '-' :: r => (decimalNat? r).map fun n => -n
  | r => (decimalNat? r).map fun n => n

/-- Neither empty nor zero. -/
def holds (s : Octets) : Bool := s != [] && integer? s != some 0

/-- What is left to read, and the word before it. -/
structure Words where
  rest : List Octets
  before : Octets := []

abbrev Eval := StateT Words (Except Octets)

def takeWord : Eval (Option Octets) := do
  match (← get).rest with
  | [] => return none
  | w :: rest => do
    set { rest, before := w : Words }
    return some w

def takeOneOf (words : List String) : Eval (Option Octets) := do
  match (← get).rest with
  | w :: _ => if words.any (reads w) then takeWord else return none
  | [] => return none

def syntaxFault {α : Type} (what : String) (word : Octets) : Eval α :=
  throw (octets ("syntax error: " ++ what ++ " ") ++ ticked word)

def numberOf (s : Octets) : Eval Int :=
  match integer? s with
  | some n => return n
  | none => throw (octets "non-integer argument")

def calculate (op a b : Octets) : Eval Octets := do
  let m ← numberOf a
  let n ← numberOf b
  let shown (n : Int) : Eval Octets := return octets (toString n)
  match op with
  | ['+'] => shown (m + n)
  | ['-'] => shown (m - n)
  | ['*'] => shown (m * n)
  | ['/'] => if n = 0 then throw (octets "division by zero") else shown (Int.tdiv m n)
  | _ => if n = 0 then throw (octets "division by zero") else shown (Int.tmod m n)

def compare (op a b : Octets) : Bool :=
  let order :=
    match integer? a, integer? b with
    | some m, some n => if m < n then Ordering.lt else if m = n then .eq else .gt
    | _, _ => if a < b then .lt else if a = b then .eq else .gt
  match String.ofList op with
  | "<" => order == .lt
  | "<=" => order != .gt
  | "=" | "==" => order == .eq
  | "!=" => order != .eq
  | ">=" => order != .lt
  | _ => order == .gt

/-- What a pattern finds at the start of a text: its first group, or how much it takes. -/
def matched (s pattern : Octets) : Eval Octets :=
  match Regex.ofText? false false pattern with
  | none => throw (octets "Invalid regular expression")
  | some r =>
    let grouped := pattern.zip pattern.tail |>.any fun (a, b) => a == '\\' && b == '('
    match r.matchHere true s with
    | none => return if grouped then [] else ['0']
    | some m => return if grouped then Regex.groupText m.groups 1 else decimalText m.taken.length

/-- The levels of operators, from the loosest. -/
def levels : List (List String) :=
  [["|"], ["&"], ["<", "<=", "=", "==", "!=", ">=", ">"], ["+", "-"], ["*", "/", "%"], [":"]]

def combine (op a b : Octets) : Eval Octets :=
  match String.ofList op with
  | "|" => return if holds a then a else if holds b then b else ['0']
  | "&" => return if holds a && holds b then a else ['0']
  | ":" => matched a b
  | "+" | "-" | "*" | "/" | "%" => calculate op a b
  | _ => return if compare op a b then ['1'] else ['0']

mutual

/-- An expression of the levels that are left. -/
def level : Nat → List (List String) → Eval Octets
  | 0, _ => throw (octets "too deep")
  | n + 1, [] => part n
  | n + 1, ops :: tighter => do
    let a ← level n tighter
    more n ops tighter a

def more : Nat → List String → List (List String) → Octets → Eval Octets
  | 0, _, _, _ => throw (octets "too deep")
  | n + 1, ops, tighter, a => do
    match ← takeOneOf ops with
    | none => return a
    | some op => do
      let b ← level n tighter
      more n ops tighter (← combine op a b)

def part : Nat → Eval Octets
  | 0 => throw (octets "too deep")
  | n + 1 => do
    let before := (← get).before
    match ← takeWord with
    | none => syntaxFault "missing argument after" before
    | some w =>
      match String.ofList w with
      | "(" => do
        let a ← level n levels
        let before := (← get).before
        match ← takeWord with
        | some [')'] => return a
        | some other => syntaxFault "expecting ')' instead of" other
        | none => syntaxFault "expecting ')' after" before
      | ")" => throw (octets "syntax error: unexpected ')'")
      | "+" => do
        match ← takeWord with
        | some w => return w
        | none => syntaxFault "missing argument after" w
      | "length" => return decimalText (← part n).length
      | "match" => do
        let s ← part n
        matched s (← part n)
      | "index" => do
        let s ← part n
        let set ← part n
        return decimalText (((s.findIdx? set.contains).map (· + 1)).getD 0)
      | "substr" => do
        let s ← part n
        let start ← part n
        let size ← part n
        match integer? start, integer? size with
        | some i, some k =>
          return if 0 < i ∧ 0 < k then (s.drop (i.toNat - 1)).take k.toNat else []
        | _, _ => return []
      | _ => return w

end

def expr (p : Process) : Task Nat := do
  let words := if p.args.head? = some ['-', '-'] then p.args.tail else p.args
  if words = [] then
    p.misuse (octets "missing operand")
    return 2
  let whole : Eval Octets := do
    let a ← level (16 * words.length + 16) levels
    match ← takeWord with
    | some extra => syntaxFault "unexpected argument" extra
    | none => return a
  match whole.run { rest := words } with
  | .error what => do
    p.complain what
    return 2
  | .ok (a, _) => do
    p.out (a ++ ['\n'])
    return if holds a then 0 else 1

end Shortcuts.Machine.Numbers
