import Shortcuts.Machine.Process
import Shortcuts.Machine.Utility.Printing

/-!
# Conditions

The conditions of `test` and `[`: comparisons of texts and numbers, questions about files, and
combinations of them. A word that could be an operator is an operand where its place asks for one.
-/

namespace Shortcuts.Machine.Condition

open Text

inductive Fault
  | missingBracket
  /-- Words are left over: the last one taken, the next one, and how many there were. -/
  | unexpected (last next : Octets) (count : Nat)
  | missingArgument (operator : Octets)
  | badNumber (word : Octets)
  | unclosed
  deriving DecidableEq, Repr

def Fault.message (program : Bool) : Fault → Octets
  | .missingBracket => octets (if program then "missing ']'" else "missing ]")
  | .unexpected last next count =>
    if !program then last ++ octets ": unexpected operator"
    else if count = 2 ∧ last.length = 2 ∧ last.head? = some '-' then
      ['\''] ++ last ++ octets "': unary operator expected"
    else if count = 2 then octets "missing argument after '" ++ next ++ ['\'']
    else if count = 3 then ['\''] ++ next ++ octets "': binary operator expected"
    else octets "extra argument '" ++ next ++ ['\'']
  | .missingArgument operator =>
    if program then octets "missing argument after '" ++ operator ++ ['\'']
    else operator ++ octets ": argument expected"
  | .badNumber word =>
    if program then octets "invalid integer '" ++ word ++ ['\'']
    else octets "Illegal number: " ++ word
  | .unclosed => octets (if program then "')' expected" else "closing paren expected")

def isUnary (s : Octets) : Bool :=
  match s with
  | ['-', c] => "rwxefdcbpugkshLStznOG".toList.contains c
  | _ => false

def isBinary (s : Octets) : Bool :=
  ["=", "==", "!=", "<", ">", "-eq", "-ne", "-gt", "-ge", "-lt", "-le", "-nt", "-ot", "-ef"].any
    (reads s)

inductive Lexeme
  | finish
  | unary
  | binary
  | bang
  | both
  | either
  | opening
  | closing
  | operand
  deriving DecidableEq

/-- What the first of the words is. -/
def lexeme : List Octets → Lexeme
  | [] => .finish
  | w :: rest =>
    let operandHere :=
      match rest with
      | [] => true
      | [_] => false
      | second :: _ => isBinary second
    if isUnary w then (if operandHere then .operand else .unary)
    else if isBinary w then .binary
    else if reads w "!" then .bang
    else if reads w "-a" then .both
    else if reads w "-o" then .either
    else if reads w "(" then (if rest = [] then .operand else .opening)
    else if reads w ")" then .closing
    else .operand

/-- Questions about a path, by the letter of the operator. -/
structure Probe where
  file : Char → Octets → Bool
  same : Octets → Octets → Bool

/-- A decimal number, with blanks around it. -/
def number (w : Octets) : Except Fault Int :=
  let body := w.dropWhile isBlank
  let (negative, body) :=
    match body with
    | '-' :: r => (true, r)
    | '+' :: r => (false, r)
    | r => (false, r)
  let digits := body.takeWhile Char.isDigit
  let n := Printing.value 10 (digits.map fun d => d.toNat - '0'.toNat)
  if digits = [] ∨ !(body.drop digits.length).all isBlank then .error (.badNumber w)
  else .ok (if negative then -n else n)
where
  isBlank (c : Char) : Bool := c == ' ' || c == '\t' || c == '\n'

def compare (p : Probe) (op a b : Octets) : Except Fault Bool := do
  let numbers (holds : Int → Int → Bool) : Except Fault Bool := do
    return holds (← number a) (← number b)
  match String.ofList op with
  | "=" | "==" => return a == b
  | "!=" => return a != b
  | "<" => return decide (a < b)
  | ">" => return decide (b < a)
  | "-eq" => numbers fun m n => m == n
  | "-ne" => numbers fun m n => m != n
  | "-gt" => numbers fun m n => decide (n < m)
  | "-ge" => numbers fun m n => decide (n ≤ m)
  | "-lt" => numbers fun m n => decide (m < n)
  | "-le" => numbers fun m n => decide (m ≤ n)
  | "-ef" => return p.same a b
  | _ => return false

/-- A question about one word. No descriptor is a terminal. -/
def unary (p : Probe) (op a : Octets) : Except Fault Bool :=
  match op with
  | ['-', 'n'] => .ok (a != [])
  | ['-', 'z'] => .ok (a == [])
  | ['-', 't'] => (number a).map fun _ => false
  | ['-', c] => .ok (p.file c a)
  | _ => .ok false

/-- The value of a part of the condition, and the words from its last one on. -/
abbrev Part := Except Fault (Bool × List Octets)

mutual

def anyOf (p : Probe) : Nat → List Octets → Part
  | 0, ws => .ok (false, ws)
  | n + 1, ws => do
    let (a, ws) ← allOf p n ws
    if lexeme ws.tail = .either then
      let (b, ws) ← anyOf p n (ws.drop 2)
      return (a || b, ws)
    else return (a, ws)

def allOf (p : Probe) : Nat → List Octets → Part
  | 0, ws => .ok (false, ws)
  | n + 1, ws => do
    let (a, ws) ← negation p n ws
    if lexeme ws.tail = .both then
      let (b, ws) ← allOf p n (ws.drop 2)
      return (a && b, ws)
    else return (a, ws)

def negation (p : Probe) : Nat → List Octets → Part
  | 0, ws => .ok (false, ws)
  | n + 1, ws => do
    if lexeme ws = .bang then
      if ws.tail = [] then return (true, ws)
      let (a, ws) ← negation p n ws.tail
      return (!a, ws)
    else primary p n ws

def primary (p : Probe) : Nat → List Octets → Part
  | 0, ws => .ok (false, ws)
  | n + 1, ws => do
    match lexeme ws, ws with
    | .finish, _ | _, [] => return (false, ws)
    | .opening, _ :: rest => do
      if lexeme rest = .closing then return (false, rest)
      let (a, ws) ← anyOf p n rest
      if lexeme ws.tail = .closing then return (a, ws.tail) else throw .unclosed
    | .unary, op :: rest =>
      match rest with
      | [] => throw (.missingArgument op)
      | a :: _ => return (← unary p op a, rest)
    | _, a :: rest =>
      if lexeme rest = .binary then
        match rest with
        | op :: b :: more => return (← compare p op a b, b :: more)
        | op :: [] => throw (.missingArgument op)
        | [] => return (a != [], ws)
      else return (a != [], ws)

end

/-- Whether a list of words, taken as one expression, holds. -/
def expression (p : Probe) (ws : List Octets) : Except Fault Bool := do
  let (a, rest) ← anyOf p (8 * ws.length + 8) ws
  match rest with
  | last :: next :: _ => throw (.unexpected last next ws.length)
  | _ => return a

/-- Few words are read by their number before they are read as an expression. -/
def holds (p : Probe) (ws : List Octets) : Except Fault Bool :=
  match ws with
  | [] => .ok false
  | [a, op, b] =>
    if isBinary op then compare p op a b
    else if reads a "(" ∧ reads b ")" then expression p [op]
    else if reads a "!" then (expression p [op, b]).map not
    else expression p ws
  | [a, b, c, d] =>
    if reads a "(" ∧ reads d ")" then expression p [b, c]
    else if reads a "!" then
      (if isBinary c then compare p c b d else expression p [b, c, d]).map not
    else expression p ws
  | _ => expression p ws

/-- The words between brackets. -/
def bracketed (ws : List Octets) : Except Fault (List Octets) :=
  if ws.getLast? = some [']'] then .ok ws.dropLast else .error .missingBracket

/-- What a system answers a process. Everyone may read and write everything. -/
def Probe.ofSystem (s : System) (t : Descriptors) (cwd : Location) : Probe where
  file letter path :=
    let follow := !("hL".toList.contains letter)
    match s.files.locate cwd path follow with
    | .error _ => false
    | .ok l =>
      match s.files.fileAt? l with
      | some { content := .device (.descriptor fd), .. } =>
        match (t.get? fd).bind fun k => s.openings[k]? with
        | none => false
        | some o => !follow || ofFile letter o.pipe (s.files.file? o.file)
      | some file => ofFile letter false (some file)
      | none =>
        match letter with
        | 'd' | 's' | 'x' => s.files.isDirectory l
        | 'h' | 'L' => isLink (s.files.entry? l)
        | 'e' | 'r' | 'w' | 'O' | 'G' => true
        | _ => false
  same a b :=
    match s.files.locate cwd a true, s.files.locate cwd b true with
    | .ok l, .ok m => l == m || (s.files.entry? l == s.files.entry? m && !s.files.isDirectory l)
    | _, _ => false
where
  ofFile (letter : Char) (pipe : Bool) (file : Option File) : Bool :=
    match letter with
    | 'p' => pipe
    | 'f' => !pipe && file.any fun f => !isDevice f.content
    | 'x' => !pipe && file.any File.isProgram
    | 's' => !pipe && file.any fun f => !isDevice f.content && f.content != .data []
    | 'c' => file.any fun f => isDevice f.content
    | 'e' | 'r' | 'w' | 'O' | 'G' => true
    | _ => false
  isDevice : Content → Bool
    | .device _ => true
    | _ => false
  isLink : Option Entry → Bool
    | some (.link _) => true
    | _ => false

/-- The exit status of a condition, and a complaint if it is none. -/
def run (p : Probe) (program bracket : Bool) (args : List Octets) : Nat × Option Octets :=
  let result := do
    let ws ← if bracket then bracketed args else .ok args
    holds p ws
  match result with
  | .ok true => (0, none)
  | .ok false => (1, none)
  | .error e => (2, some (e.message program))

end Shortcuts.Machine.Condition
