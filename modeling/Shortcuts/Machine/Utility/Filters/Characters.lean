import Shortcuts.Machine.Utility.Filters.Lines

/-!
# Characters

A program that replaces, deletes and squeezes characters.
-/

namespace Shortcuts.Machine.Filters

open Text

def classOf (name : String) : Option (Char → Bool) :=
  match name with
  | "alpha" => some Char.isAlpha
  | "digit" => some Char.isDigit
  | "alnum" => some Char.isAlphanum
  | "upper" => some Char.isUpper
  | "lower" => some Char.isLower
  | "space" => some isSpace
  | "blank" => some fun c => c == ' ' || c == '\t'
  | "punct" => some fun c => '!' ≤ c && c ≤ '~' && !c.isAlphanum
  | "print" => some fun c => ' ' ≤ c && c ≤ '~'
  | "graph" => some fun c => '!' ≤ c && c ≤ '~'
  | "cntrl" => some fun c => c < ' ' || c == '\x7f'
  | "xdigit" => some fun c => c.isDigit || ('a' ≤ c && c ≤ 'f') || ('A' ≤ c && c ≤ 'F')
  | _ => none

def allOctets : Octets := (List.range 256).map Char.ofNat

/-- One escaped or plain character of a set. -/
def setChar : Octets → Option (Char × Octets)
  | [] => none
  | '\\' :: c :: rest =>
    let digits := ((c :: rest).take 3).takeWhile fun c => '0' ≤ c && c ≤ '7'
    if digits ≠ [] then
      some (Char.ofNat (Nat.ofDigitChars 8 digits 0 % 256), (c :: rest).drop digits.length)
    else
      let code := match c with
        | 'n' => '\n'
        | 't' => '\t'
        | 'r' => '\r'
        | 'a' => '\x07'
        | 'b' => '\x08'
        | 'f' => '\x0c'
        | 'v' => '\x0b'
        | c => c
      some (code, rest)
  | c :: rest => some (c, rest)

/-- The characters of a set: ranges and classes are written out. -/
def setOf (s : Octets) : Octets := go s.length s
where
  /-- Every step takes a character. -/
  go : Nat → Octets → Octets
    | 0, _ => []
    | n + 1, s =>
      match s with
      | '[' :: ':' :: rest =>
        let name := rest.takeWhile (· != ':')
        match classOf (String.ofList name), rest.drop name.length with
        | some fits, ':' :: ']' :: rest => allOctets.filter fits ++ go n rest
        | _, _ => '[' :: go n (':' :: rest)
      | s =>
        match setChar s with
        | none => []
        | some (c, '-' :: rest) =>
          match setChar rest with
          | some (d, rest) =>
            (allOctets.filter fun x => c ≤ x && x ≤ d) ++ go n rest
          | none => [c, '-']
        | some (c, rest) => c :: go n rest

def squeezed (set : Octets) : Option Char → Octets → Octets
  | _, [] => []
  | before, c :: rest =>
    if before = some c ∧ c ∈ set then squeezed set before rest
    else c :: squeezed set (some c) rest

/-- The place of a character in a set, the last one for a character named twice. -/
def placeIn (set : Octets) (c : Char) : Option Nat :=
  ((set.zipIdx.filter fun x => x.1 == c).getLast?).map Prod.snd

def translated (source target : Octets) (c : Char) : Char :=
  match placeIn source c, target.getLast? with
  | some i, some last => (target[i]?).getD last
  | _, _ => c

def tr (p : Process) : Task Nat :=
  let rule : OptionRule :=
    { flags := "cCdst", ordered := true,
      long := [("complement", 'c'), ("delete", 'd'), ("squeeze-repeats", 's'),
        ("truncate-set1", 't')] }
  p.withOptions rule 1 fun g => do
    let complement := g.has 'c' || g.has 'C'
    let delete := g.has 'd'
    let squeeze := g.has 's'
    let most := if delete ∧ !squeeze then 1 else 2
    let least := if delete = squeeze ∧ !delete then 2 else if delete ∧ squeeze then 2 else 1
    match g.operands with
    | [] => do
      p.misuse (octets "missing operand")
      return 1
    | first :: more =>
      if more.length + 1 < least then
        let why := "Two strings must be given when " ++
          if delete then "both deleting and squeezing repeats." else "translating."
        p.misuse (phrase "missing operand after " (ticked first) "\n" ++ octets why)
        return 1
      else if most < more.length + 1 then
        let extra := (more[most - 1]?).getD []
        let why := if most = 1 then
            "\nOnly one string may be given when deleting without squeezing repeats." else ""
        p.misuse (phrase "extra operand " (ticked extra) why)
        return 1
      else do
        let set := setOf first
        let set := if complement then allOctets.filter (!set.contains ·) else set
        let second := more.head?.map setOf
        let text := match ← p.input none with
          | .ok text => text
          | .error _ => []
        let shown :=
          match delete, second with
          | true, none => text.filter (!set.contains ·)
          | true, some second => squeezed second none (text.filter (!set.contains ·))
          | false, none => squeezed set none text
          | false, some second =>
            let set := if g.has 't' then set.take second.length else set
            let text := text.map (translated set second)
            if squeeze then squeezed second none text else text
        p.out shown
        return 0

end Shortcuts.Machine.Filters
