import Shortcuts.Text.Octets
import Shortcuts.Text.Split

/-!
# Modes

The permissions of a file are twelve bits. A mode is written in octal digits, or as clauses such as
`u+x,go=r` that change the bits that were there.
-/

namespace Shortcuts.Machine.Mode

open Text

/-- The bits that a letter stands for, for everyone. -/
def permissionBits (current : Nat) : Char → Nat
  | 'r' => 0o444
  | 'w' => 0o222
  | 'x' => 0o111
  | 'X' => if current &&& 0o111 = 0 then 0 else 0o111
  | _ => 0

def whoBits : Char → Nat
  | 'u' => 0o4700
  | 'g' => 0o2070
  | 'o' => 0o1007
  | _ => 0o7777

/-- Carry out a clause, such as `u+x`. A clause for nobody in particular is for those that `most`
has. -/
def applyClause (most : Nat) (clause : Octets) (mode : Nat) : Option Nat :=
  let who := clause.takeWhile fun c => "ugoa".toList.contains c
  match clause.drop who.length with
  | op :: letters =>
    if !"+-=".toList.contains op ∨ !letters.all fun c => "rwxXst".toList.contains c then none
    else
      let scope := if who = [] then 0o7777 else who.foldl (fun n c => n ||| whoBits c) 0
      let mask := if who = [] then most else scope
      let bits := letters.foldl (fun n c => n ||| permissionBits mode c) 0 &&& mask
      if op = '+' then some (mode ||| bits)
      else if op = '-' then some (mode &&& (0o7777 ^^^ bits))
      else some ((mode &&& (0o7777 ^^^ (scope &&& 0o777))) ||| bits)
  | [] => none

def applyClauses (most : Nat) (word : Octets) (mode : Nat) : Option Nat :=
  (pieces ',' word).foldlM (fun mode clause => applyClause most clause mode) mode

/-- The mode that a word asks for: octal digits or clauses. -/
def ofText? (word : Octets) (mode : Nat) : Option Nat :=
  if word ≠ [] ∧ word.all fun c => '0' ≤ c && c ≤ '7' then
    let n := Nat.ofDigitChars 8 word 0
    if n ≤ 0o7777 then some n else none
  else applyClauses 0o7755 word mode

/-- What a mask leaves to the owner, the group and others. -/
def symbolic (mask : Nat) : Octets :=
  let part (who : Char) (shift : Nat) : Octets :=
    let bits := (mask >>> shift) % 8
    [who, '='] ++ (if bits < 4 then ['r'] else []) ++ (if bits % 4 < 2 then ['w'] else []) ++
      (if bits % 2 = 0 then ['x'] else [])
  [','].intercalate [part 'u' 6, part 'g' 3, part 'o' 0]

/-- The mask that takes away what clauses do not give. -/
def maskOfClauses? (word : Octets) (mask : Nat) : Option Nat :=
  (applyClauses 0o7777 word (0o777 ^^^ mask)).map fun mode => 0o777 ^^^ (mode &&& 0o777)

end Shortcuts.Machine.Mode
