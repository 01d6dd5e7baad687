import Shortcuts.Machine.Script.Basic

/-!
# Patterns

A pattern is a text in which a star stands for any characters, a question mark for one, and
brackets for one of a set. Quoted characters stand for themselves.
-/

namespace Shortcuts.Machine.Shell

open Text

/-- A character of a word that was expanded. -/
structure Letter where
  char : Char
  quoted : Bool
  deriving DecidableEq, Repr

namespace Pattern

inductive Member
  | range (low high : Char)
  | named (name : Octets)
  deriving Repr

inductive Element
  | letter (c : Char)
  | one
  | many
  | set (negated : Bool) (members : List Member)
  deriving Repr

def isIn (name : Octets) (c : Char) : Bool :=
  match String.ofList name with
  | "alpha" => c.isAlpha
  | "digit" => c.isDigit
  | "alnum" => c.isAlphanum
  | "upper" => c.isUpper
  | "lower" => c.isLower
  | "space" => c == ' ' || ('\t' ≤ c && c ≤ '\r')
  | "blank" => c == ' ' || c == '\t'
  | "punct" => '!' ≤ c && c ≤ '~' && !c.isAlphanum
  | "print" => ' ' ≤ c && c ≤ '~'
  | "graph" => '!' ≤ c && c ≤ '~'
  | "cntrl" => c < ' ' || c == '\x7f'
  | "xdigit" => c.isDigit || ('a' ≤ c && c ≤ 'f') || ('A' ≤ c && c ≤ 'F')
  | _ => false

def Member.holds (c : Char) : Member → Bool
  | .range low high => low ≤ c && c ≤ high
  | .named name => isIn name c

/-- A class name such as `[:alpha:]`, after its first bracket. -/
def className? (s : List Letter) : Option (Octets × List Letter) :=
  match s with
  | ⟨':', false⟩ :: rest =>
    let name := (rest.takeWhile fun l => l.char.isAlpha).map Letter.char
    match rest.drop name.length with
    | ⟨':', _⟩ :: ⟨']', _⟩ :: rest => some (name, rest)
    | _ => none
  | _ => none

/-- The members of a set up to its closing bracket. Every step takes a letter. -/
def members : Nat → Bool → List Letter → Option (List Member × List Letter)
  | n + 1, first, l :: rest =>
    if l = ⟨']', false⟩ ∧ !first then some ([], rest)
    else
      match (if l = ⟨'[', false⟩ then className? rest else none) with
      | some (name, rest) => (members n false rest).map fun (ms, r) => (.named name :: ms, r)
      | none =>
        match rest with
        | ⟨'-', false⟩ :: high :: more =>
          if high = ⟨']', false⟩ then
            (members n false rest).map fun (ms, r) => (.range l.char l.char :: ms, r)
          else (members n false more).map fun (ms, r) => (.range l.char high.char :: ms, r)
        | _ => (members n false rest).map fun (ms, r) => (.range l.char l.char :: ms, r)
  | _, _, _ => none

/-- A set, after its opening bracket. -/
def set? (s : List Letter) : Option (Element × List Letter) :=
  match s with
  | ⟨'!', false⟩ :: rest =>
    (members rest.length true rest).map fun (ms, r) => (.set true ms, r)
  | _ => (members s.length true s).map fun (ms, r) => (.set false ms, r)

/-- The elements of a pattern. Every step takes a letter. -/
def elements (s : List Letter) : List Element := go s.length s
where
  go : Nat → List Letter → List Element
    | n + 1, l :: rest =>
      if l = ⟨'*', false⟩ then .many :: go n rest
      else if l = ⟨'?', false⟩ then .one :: go n rest
      else
        match (if l = ⟨'[', false⟩ then set? rest else none) with
        | some (e, rest) => e :: go n rest
        | none => .letter l.char :: go n rest
    | _, _ => []

/-- Whether some end of a text fits. -/
def anyEnd (fits : Octets → Bool) : Octets → Bool
  | [] => fits []
  | c :: r => fits (c :: r) || anyEnd fits r

/-- Whether a whole text fits. -/
def fits : List Element → Octets → Bool
  | [], s => s.isEmpty
  | .letter c :: es, s =>
    match s with
    | d :: r => c == d && fits es r
    | [] => false
  | .one :: es, s =>
    match s with
    | _ :: r => fits es r
    | [] => false
  | .set negated ms :: es, s =>
    match s with
    | c :: r => ms.any (Member.holds c) != negated && fits es r
    | [] => false
  | .many :: es, s => anyEnd (fits es) s

def hasWildcard (s : List Letter) : Bool :=
  (elements s).any fun
    | .letter _ => false
    | _ => true

/-- What is left of a text when the shortest or longest start or end that fits is cut off. -/
def trimmed (fromEnd longest : Bool) (pattern : List Letter) (s : Octets) : Octets :=
  let es := elements pattern
  let sizes := List.range (s.length + 1)
  let sizes := if longest then sizes.reverse else sizes
  let part (n : Nat) : Octets × Octets :=
    if fromEnd then (s.drop (s.length - n), s.take (s.length - n)) else (s.take n, s.drop n)
  match sizes.find? fun n => fits es (part n).1 with
  | some n => (part n).2
  | none => s

end Pattern

end Shortcuts.Machine.Shell
