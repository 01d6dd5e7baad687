import Shortcuts.Machine.Utility.Filters.Characters

/-!
# Regular expressions

Basic and extended regular expressions over octets. A match begins as far left as it can, and is
the longest of those that begin there.
-/

namespace Shortcuts.Machine

open Text

inductive Regex
  | empty
  | char (c : Char)
  | any
  | oneOf (negated : Bool) (members : Octets)
  | first
  | last
  | sequence (a b : Regex)
  | either (a b : Regex)
  | repeated (least : Nat) (most : Option Nat) (r : Regex)
  | group (number : Nat) (r : Regex)
  | again (number : Nat)
  deriving Repr

namespace Regex

/-- A match under way: what is left, what was taken, and what the groups took. -/
structure Progress where
  taken : Octets := []
  rest : Octets
  groups : List (Nat × Octets) := []

def Progress.step (p : Progress) (fits : Char → Bool) : List Progress :=
  match p.rest with
  | c :: rest => if fits c then [{ p with taken := p.taken ++ [c], rest }] else []
  | [] => []

def groupText (gs : List (Nat × Octets)) (n : Nat) : Octets :=
  ((gs.find? fun g => g.1 == n).map Prod.snd).getD []

/-- All ways to go on. `start` tells whether the text begins where the match does; the bound only
limits how often a part is repeated more than it must be. -/
def advance (start : Bool) (bound : Nat) : Regex → Progress → List Progress
  | .empty, p => [p]
  | .char c, p => p.step (· == c)
  | .any, p => p.step fun _ => true
  | .oneOf negated members, p => p.step fun c => members.contains c != negated
  | .first, p => if start && p.taken.isEmpty then [p] else []
  | .last, p => if p.rest.isEmpty then [p] else []
  | .sequence a b, p => (advance start bound a p).flatMap (advance start bound b)
  | .either a b, p => advance start bound a p ++ advance start bound b p
  | .repeated least most r, p => rounds (advance start bound r) least most (least + bound) p
  | .group n r, p =>
    (advance start bound r p).map fun q =>
      { q with groups := (n, q.taken.drop p.taken.length) :: q.groups }
  | .again n, p =>
    let text := groupText p.groups n
    if text.isPrefixOf p.rest then
      [{ p with taken := p.taken ++ text, rest := p.rest.drop text.length }]
    else []
where
  /-- Go round a part; a round that takes nothing is the last. -/
  rounds (once : Progress → List Progress) (least : Nat) (most : Option Nat) :
      Nat → Progress → List Progress
    | 0, p => if least = 0 then [p] else []
    | n + 1, p =>
      let stay := if least = 0 then [p] else []
      if most = some 0 then stay
      else
        let next := (once p).filter fun q => p.taken.length < q.taken.length || 0 < least
        next.flatMap (rounds once (least - 1) (most.map (· - 1)) n) ++ stay

/-- The first of the longest matches, one after the other. -/
def longer (best : Option Progress) (p : Progress) : Option Progress :=
  match best with
  | some b => if b.taken.length < p.taken.length then some p else some b
  | none => some p

/-- The longest match at the beginning of a text. -/
def matchHere (r : Regex) (start : Bool) (text : Octets) : Option Progress :=
  (advance start (text.length + 1) r { rest := text }).foldl longer none

/-- The leftmost match: what is before it, and the match itself. -/
def search (r : Regex) (start : Bool) : Octets → Option (Octets × Progress)
  | [] => (r.matchHere start []).map fun p => ([], p)
  | c :: rest =>
    match r.matchHere start (c :: rest) with
    | some p => some ([], p)
    | none => (search r false rest).map fun (before, p) => (c :: before, p)

/-! ## Reading -/

/-- The state of a reader: the number of groups so far. -/
structure Reading where
  rest : Octets
  groups : Nat := 0
  folding : Bool := false

def folded (folding : Bool) (c : Char) : Regex :=
  if folding ∧ c.isAlpha then .oneOf false [c.toLower, c.toUpper] else .char c

/-- The members of a bracket expression, up to its end. -/
def bracket (s : Octets) : Option (Regex × Octets) :=
  let (negated, s) :=
    match s with
    | '^' :: r => (true, r)
    | r => (false, r)
  let (held, s) :=
    match s with
    | ']' :: r => ([']'], r)
    | r => ([], r)
  (go s.length s).map fun (members, rest) => (.oneOf negated (held ++ members), rest)
where
  /-- Every step takes a character. -/
  go : Nat → Octets → Option (Octets × Octets)
    | 0, _ => none
    | n + 1, s =>
      match s with
      | ']' :: rest => some ([], rest)
      | '[' :: ':' :: rest =>
        let name := rest.takeWhile (· != ':')
        match Filters.classOf (String.ofList name), rest.drop name.length with
        | some fits, ':' :: ']' :: rest =>
          (go n rest).map fun (ms, r) => (Filters.allOctets.filter fits ++ ms, r)
        | _, _ => none
      | c :: '-' :: d :: rest =>
        if d = ']' then (go n ('-' :: d :: rest)).map fun (ms, r) => (c :: ms, r)
        else
          (go n rest).map fun (ms, r) =>
            ((Filters.allOctets.filter fun x => c ≤ x && x ≤ d) ++ ms, r)
      | c :: rest => (go n rest).map fun (ms, r) => (c :: ms, r)
      | [] => none

/-- The bounds between braces: `m`, `m,` or `m,n`. -/
def bounds? (s : Octets) : Option (Nat × Option Nat) :=
  match pieces ',' s with
  | [m] => (decimalNat? m).map fun m => (m, some m)
  | [m, []] => (decimalNat? m).map fun m => (m, none)
  | [m, n] => do return ((decimalNat? m).getD 0, some (← decimalNat? n))
  | _ => none

/-- The repetition that a text begins with, if it does. -/
def repetition (extended : Bool) (s : Octets) : Option ((Regex → Regex) × Octets) :=
  let braces (body : Octets) (close : Nat) : Option ((Regex → Regex) × Octets) :=
    let inner := body.takeWhile fun c => c.isDigit || c == ','
    (bounds? inner).map fun (least, most) =>
      (.repeated least most, (body.drop inner.length).drop close)
  match s, extended with
  | '*' :: r, _ => some (.repeated 0 none, r)
  | '+' :: r, true => some (.repeated 1 none, r)
  | '?' :: r, true => some (.repeated 0 (some 1), r)
  | '\x7b' :: r, true => braces r 1
  | '\\' :: '+' :: r, false => some (.repeated 1 none, r)
  | '\\' :: '?' :: r, false => some (.repeated 0 (some 1), r)
  | '\\' :: '\x7b' :: r, false => braces r 2
  | _, _ => none

mutual

/-- Branches with bars between them. -/
def branches (extended : Bool) : Nat → Reading → Option (Regex × Reading)
  | 0, _ => none
  | n + 1, s => do
    let (a, s) ← branch extended n true s
    match s.rest, extended with
    | '|' :: rest, true | '\\' :: '|' :: rest, false => do
      let (b, s) ← branches extended n { s with rest }
      return (.either a b, s)
    | _, _ => return (a, s)

/-- Parts one after the other. `opening` tells whether the branch has just begun. -/
def branch (extended : Bool) : Nat → Bool → Reading → Option (Regex × Reading)
  | 0, _, _ => none
  | n + 1, opening, s =>
    let stop :=
      match s.rest with
      | [] => true
      | '|' :: _ | ')' :: _ => extended
      | '\\' :: '|' :: _ | '\\' :: ')' :: _ => !extended
      | _ => false
    if stop then some (.empty, s)
    else do
      let (a, s) ← part extended n opening s
      let (a, s) := repeats extended n (!(a matches .first)) a s
      let (b, s) ← branch extended n (a matches .first) s
      return (.sequence a b, s)

/-- The repetitions after a part. -/
def repeats (extended : Bool) : Nat → Bool → Regex → Reading → Regex × Reading
  | 0, _, r, s => (r, s)
  | n + 1, allowed, r, s =>
    if !allowed ∧ !extended then (r, s)
    else
      match repetition extended s.rest with
      | some (wrap, rest) => repeats extended n true (wrap r) { s with rest }
      | none => (r, s)

def part (extended : Bool) : Nat → Bool → Reading → Option (Regex × Reading)
  | 0, _, _ => none
  | n + 1, opening, s =>
    let plain (c : Char) (rest : Octets) : Option (Regex × Reading) :=
      some (folded s.folding c, { s with rest })
    let grouped (rest : Octets) (close : Octets) : Option (Regex × Reading) := do
      let number := s.groups + 1
      let (r, s) ← branches extended n { s with rest, groups := number }
      if close.isPrefixOf s.rest then
        return (.group number r, { s with rest := s.rest.drop close.length })
      else none
    match s.rest with
    | [] => none
    | '.' :: rest => some (.any, { s with rest })
    | '[' :: rest => (bracket rest).map fun (r, rest) => (r, { s with rest })
    | '^' :: rest => if extended ∨ opening then some (.first, { s with rest }) else plain '^' rest
    | '$' :: rest =>
      let closes :=
        match rest with
        | [] => true
        | '\\' :: c :: _ => !extended && (c == ')' || c == '|')
        | _ => false
      if extended || closes then some (.last, { s with rest }) else plain '$' rest
    | '\\' :: c :: rest =>
      if c = '(' ∧ !extended then grouped rest ['\\', ')']
      else if '1' ≤ c ∧ c ≤ '9' then some (.again (c.toNat - '0'.toNat), { s with rest })
      else if c = 'n' then plain '\n' rest
      else if c = 't' then plain '\t' rest
      else if c = 'w' then
        some (.oneOf false (Filters.allOctets.filter fun x => x.isAlphanum || x == '_'),
          { s with rest })
      else if c = 's' then
        some (.oneOf false (Filters.allOctets.filter Filters.isSpace), { s with rest })
      else plain c rest
    | '(' :: rest => if extended then grouped rest [')'] else plain '(' rest
    | c :: rest => plain c rest

end

/-- The regular expression that a text spells. -/
def ofText? (extended folding : Bool) (s : Octets) : Option Regex :=
  match branches extended (4 * s.length + 8) { rest := s, folding } with
  | some (r, { rest := [], .. }) => some r
  | _ => none

/-- A text that stands for itself. -/
def ofPlain (folding : Bool) (s : Octets) : Regex :=
  s.foldr (fun c r => .sequence (folded folding c) r) .empty

end Regex

end Shortcuts.Machine
