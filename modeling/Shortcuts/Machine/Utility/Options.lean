import Shortcuts.Machine.Process

/-!
# Options of programs

Options are letters after a dash, some of them with a value, or long names after two dashes. They
may stand between operands; two dashes alone end them.
-/

namespace Shortcuts.Machine

open Text

/-- The options that a program knows: letters that stand alone, letters with a value, and long
names for some of both. -/
structure OptionRule where
  flags : String := ""
  valued : String := ""
  long : List (String × Char) := []
  /-- Options end at the first operand. -/
  ordered : Bool := false

structure Given where
  options : List (Char × Octets) := []
  operands : List Octets := []

namespace Given

def has (g : Given) (c : Char) : Bool := g.options.any fun o => o.1 == c

/-- The last value of an option. -/
def value? (g : Given) (c : Char) : Option Octets :=
  (g.options.reverse.find? fun o => o.1 == c).map Prod.snd

def add (g : Given) (c : Char) (value : Octets) : Given :=
  { g with options := g.options ++ [(c, value)] }

end Given

namespace OptionRule

def isFlag (r : OptionRule) (c : Char) : Bool := r.flags.toList.contains c

def isValued (r : OptionRule) (c : Char) : Bool := r.valued.toList.contains c

/-- Letters after one dash, where the rest of the word or the next word is a value. -/
def letters (r : OptionRule) (g : Given) : Octets → List Octets →
    Except Octets (Given × List Octets)
  | [], args => .ok (g, args)
  | c :: rest, args =>
    if r.isFlag c then letters r (g.add c []) rest args
    else if r.isValued c then
      match rest, args with
      | [], [] => .error (octets "option requires an argument -- '" ++ [c, '\''])
      | [], a :: args => .ok (g.add c a, args)
      | value, args => .ok (g.add c value, args)
    else .error (octets "invalid option -- '" ++ [c, '\''])

/-- A name after two dashes, with its value after an equals sign or in the next word. -/
def longName (r : OptionRule) (g : Given) (word : Octets) (args : List Octets) :
    Except Octets (Given × List Octets) :=
  let (name, value) :=
    match cut '=' word with
    | some (name, value) => (name, some value)
    | none => (word, none)
  match r.long.find? fun l => reads name l.1, value with
  | none, _ => .error (octets "unrecognized option '--" ++ word ++ ['\''])
  | some (_, c), some value =>
    if r.isValued c then .ok (g.add c value, args)
    else .error (octets "option '--" ++ name ++ octets "' doesn't allow an argument")
  | some (_, c), none =>
    if !r.isValued c then .ok (g.add c [], args)
    else
      match args with
      | a :: args => .ok (g.add c a, args)
      | [] => .error (octets "option '--" ++ name ++ octets "' requires an argument")

/-- Every step takes a word. -/
def collect (r : OptionRule) : Nat → Given → List Octets → Except Octets Given
  | n + 1, g, a :: args =>
    match a with
    | ['-', '-'] => .ok { g with operands := g.operands ++ args }
    | '-' :: '-' :: name => do
      let (g, args) ← r.longName g name args
      collect r n g args
    | '-' :: c :: rest => do
      let (g, args) ← r.letters g (c :: rest) args
      collect r n g args
    | operand =>
      if r.ordered then .ok { g with operands := g.operands ++ operand :: args }
      else collect r n { g with operands := g.operands ++ [operand] } args
  | _, g, _ => .ok g

def read (r : OptionRule) (args : List Octets) : Except Octets Given :=
  r.collect args.length {} args

end OptionRule

namespace Process

def hint (p : Process) : Octets :=
  octets "Try '" ++ p.name ++ octets " --help' for more information."

/-- Complain about the command line. -/
def misuse (p : Process) (what : Octets) : Task Unit := p.complain (what ++ ['\n'] ++ p.hint)

/-- Read the options and go on with them, or complain and give up with a status. -/
def withOptions (p : Process) (r : OptionRule) (failure : Nat) (act : Given → Task Nat) :
    Task Nat := do
  match r.read p.args with
  | .error what => do
    p.misuse what
    return failure
  | .ok g => act g

end Process

def ticked (s : Octets) : Octets := ['\''] ++ s ++ ['\'']

/-- Words one after the other, with the texts between them. -/
def phrase (before : String) (s : Octets) (after : String) : Octets :=
  octets before ++ s ++ octets after

/-- `before 'name' after: reason`. -/
def blame (before : String) (name : Octets) (after : String) (e : Errno) : Octets :=
  phrase before (ticked name) after ++ Text.octets ": " ++ e.octets

/-- Do something with each word; the highest status counts. -/
def forWords {α : Type} (ws : List α) (act : α → Task Nat) : Task Nat :=
  ws.foldlM (fun status w => return max status (← act w)) 0

def decimalNat? (s : Octets) : Option Nat :=
  if s ≠ [] ∧ s.all Char.isDigit then some (Nat.ofDigitChars 10 s 0) else none

def decimalText (n : Nat) : Octets := Nat.toDigits 10 n

end Shortcuts.Machine
