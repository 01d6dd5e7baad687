import Shortcuts.Machine.Script.Basic
import Shortcuts.Machine.Utility.Printing

/-!
# Arithmetic

Expressions on integers of 64 bits with the operators of the C language, assignments included.
-/

namespace Shortcuts.Machine.Shell.Arithmetic

open Text

/-- Numbers wrap around at 64 bits. -/
def wrap (n : Int) : Int := Int.bmod n 18446744073709551616

def biggest : Int := 9223372036854775807

/-- A number that starts a text, its base known by its first digits, and the rest. -/
def leadingNumber (s : Octets) : Option (Int × Octets) :=
  let take (base : Nat) (digit? : Char → Option Nat) (s : Octets) : Option (Int × Octets) :=
    let found := Printing.leadingDigits digit? s.length s
    if found = [] then none
    else some (min (Printing.value base found : Int) biggest, s.drop found.length)
  let decimal? (c : Char) : Option Nat := if c.isDigit then some (c.toNat - '0'.toNat) else none
  match s with
  | '0' :: x :: rest =>
    let hex := if x = 'x' ∨ x = 'X' then take 16 Printing.hexDigit? rest else none
    hex.orElse fun _ => take 8 Printing.octalDigit? s
  | _ => take 10 decimal? s

def isBlank (c : Char) : Bool := c == ' ' || ('\t' ≤ c && c ≤ '\r')

/-- The number that a variable holds. -/
def valueOf (s : Octets) : Except Octets Int :=
  let body := s.dropWhile isBlank
  let (negative, body) :=
    match body with
    | '-' :: r => (true, r)
    | '+' :: r => (false, r)
    | r => (false, r)
  match leadingNumber body with
  | some (n, rest) =>
    if rest.all isBlank then .ok (if negative then -n else n)
    else .error (octets "Illegal number: " ++ s)
  | none =>
    if s.all isBlank then .ok 0 else .error (octets "Illegal number: " ++ s)

inductive Token
  | number (n : Int)
  | name (s : Octets)
  | op (s : String)
  | junk
  | finish
  deriving DecidableEq, Repr

/-- Operators, longer ones before their beginnings. -/
def operators : List String :=
  ["<<=", ">>=", "<<", ">>", "<=", ">=", "==", "!=", "&&", "||", "*=", "/=", "%=", "+=", "-=",
   "&=", "^=", "|=", "<", ">", "=", "!", "&", "|", "*", "/", "%", "+", "-", "^", "~", "(", ")",
   "?", ":"]

def assigningOperators : List String :=
  ["=", "*=", "/=", "%=", "+=", "-=", "<<=", ">>=", "&=", "^=", "|="]

/-- The next token and what follows it. -/
def token (s : Octets) : Token × Octets :=
  let s := s.dropWhile isBlank
  match s with
  | [] => (.finish, [])
  | c :: rest =>
    match leadingNumber s with
    | some (n, rest) => (.number n, rest)
    | none =>
      if Script.isNameStart c then
        let name := s.takeWhile Script.isNameChar
        (.name name, s.drop name.length)
      else
        match operators.find? fun o => o.toList.isPrefixOf s with
        | some o => (.op o, s.drop o.length)
        | none => (.junk, rest)

/-- An evaluation under way: what is left to read, and the variables. -/
structure Evaluation where
  rest : Octets
  lookUp : Octets → Option Octets
  assigned : List (Octets × Octets) := []

abbrev Eval := StateT Evaluation (Except Octets)

def fault {α : Type} (what : String) : Eval α :=
  throw (octets ("arithmetic expression: " ++ what))

def peek : Eval Token := return (token (← get).rest).1

def advance : Eval Unit := modify fun e => { e with rest := (token e.rest).2 }

def takeOp (s : String) : Eval Bool := do
  if (← peek) = .op s then
    advance
    return true
  else return false

def held (name : Octets) : Eval Int := do
  let e ← get
  match ((e.assigned.find? fun a => a.1 == name).map Prod.snd).orElse fun _ => e.lookUp name with
  | none => return 0
  | some s => valueOf s

def assign (name : Octets) (n : Int) : Eval Unit :=
  modify fun e => { e with assigned := (name, octets (toString n)) :: e.assigned }

def ofBool (b : Bool) : Int := if b then 1 else 0

/-- The bits of a number as a natural number. -/
def bits (n : Int) : Nat := Printing.unsigned n

def onBits (f : Nat → Nat → Nat) (a b : Int) : Int := wrap (f (bits a) (bits b))

/-- A shift goes by the amount modulo 64. -/
def amount (n : Int) : Nat := (n % 64).toNat

def apply (op : String) (a b : Int) : Eval Int :=
  match op with
  | "*" => return wrap (a * b)
  | "/" => if b = 0 then fault "division by zero" else return wrap (Int.tdiv a b)
  | "%" => if b = 0 then fault "division by zero" else return Int.tmod a b
  | "+" => return wrap (a + b)
  | "-" => return wrap (a - b)
  | "<<" => return wrap (a * (Nat.pow 2 (amount b) : Nat))
  | ">>" => return Int.fdiv a (Nat.pow 2 (amount b) : Nat)
  | "<" => return ofBool (a < b)
  | ">" => return ofBool (b < a)
  | "<=" => return ofBool (a ≤ b)
  | ">=" => return ofBool (b ≤ a)
  | "==" => return ofBool (a = b)
  | "!=" => return ofBool (a ≠ b)
  | "&" => return onBits Nat.land a b
  | "^" => return onBits Nat.xor a b
  | "|" => return onBits Nat.lor a b
  | _ => return b

/-- Binary operators by how tightly they bind. -/
def level? : String → Option Nat
  | "*" | "/" | "%" => some 8
  | "+" | "-" => some 7
  | "<<" | ">>" => some 6
  | "<" | ">" | "<=" | ">=" => some 5
  | "==" | "!=" => some 4
  | "&" => some 3
  | "^" => some 2
  | "|" => some 1
  | _ => none

mutual

/-- Parts that are not reached are read without being evaluated: `live` is false for them. -/
def primary : Nat → Bool → Eval Int
  | 0, _ => fault "too deep"
  | n + 1, live => do
    match ← peek with
    | .number m => do
      advance
      return m
    | .name s => do
      advance
      if live then held s else return 0
    | .op "(" => do
      advance
      let m ← assignment n live
      if ← takeOp ")" then return m else fault "expecting ')'"
    | .op "!" => do
      advance
      let m ← primary n live
      return ofBool (m = 0)
    | .op "~" => do
      advance
      let m ← primary n live
      return -m - 1
    | .op "-" => do
      advance
      let m ← primary n live
      return wrap (-m)
    | .op "+" => do
      advance
      primary n live
    | _ => fault "expecting primary"

/-- Operators that bind at least as tightly as a level, after a left side. -/
def binary : Nat → Bool → Nat → Int → Eval Int
  | 0, _, _, _ => fault "too deep"
  | n + 1, live, lowest, a => do
    match ← peek with
    | .op s =>
      match level? s with
      | some l =>
        if l < lowest then return a
        else do
          advance
          let b ← primary n live
          let b ← binary n live (l + 1) b
          let c ← if live then apply s a b else pure 0
          binary n live lowest c
      | none => return a
    | _ => return a

def conjunction : Nat → Bool → Eval Int
  | 0, _ => fault "too deep"
  | n + 1, live => do
    let a ← primary n live
    let a ← binary n live 0 a
    if ← takeOp "&&" then
      let b ← conjunction n (live && a != 0)
      return ofBool (a ≠ 0 ∧ b ≠ 0)
    else return a

def disjunction : Nat → Bool → Eval Int
  | 0, _ => fault "too deep"
  | n + 1, live => do
    let a ← conjunction n live
    if ← takeOp "||" then
      let b ← disjunction n (live && a == 0)
      return ofBool (a ≠ 0 ∨ b ≠ 0)
    else return a

def choice : Nat → Bool → Eval Int
  | 0, _ => fault "too deep"
  | n + 1, live => do
    let a ← disjunction n live
    if ← takeOp "?" then
      let b ← assignment n (live && a != 0)
      if !(← takeOp ":") then fault "expecting ':'"
      let c ← choice n (live && a == 0)
      return if a ≠ 0 then b else c
    else return a

def assignment : Nat → Bool → Eval Int
  | 0, _ => fault "too deep"
  | n + 1, live => do
    let e ← get
    match token e.rest with
    | (.name s, after) =>
      match token after with
      | (.op o, after) =>
        if assigningOperators.contains o then do
          set { e with rest := after }
          let b ← assignment n live
          if live then
            let m ← if o = "=" then pure b else do
              let a ← held s
              apply (String.ofList o.toList.dropLast) a b
            assign s m
            return m
          else return b
        else choice n live
      | _ => choice n live
    | _ => choice n live

end

/-- The value of an expression and the assignments it makes, the last one first. -/
def evaluate (lookUp : Octets → Option Octets) (text : Octets) :
    Except Octets (Int × List (Octets × Octets)) :=
  let whole : Eval Int := do
    let n ← assignment (16 * text.length + 32) true
    if (← peek) ≠ .finish then fault "expecting EOF"
    return n
  match whole.run { rest := text, lookUp } with
  | .ok (n, e) => .ok (n, e.assigned)
  | .error what =>
    if (octets "arithmetic").isPrefixOf what then
      .error (what ++ octets ": \"" ++ text ++ ['"'])
    else .error what

end Shortcuts.Machine.Shell.Arithmetic
