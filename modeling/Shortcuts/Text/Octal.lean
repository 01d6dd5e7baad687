/-!
# Octal escapes

A character is written as a backslash and the three octal digits of its code.
-/

namespace Shortcuts.Text.Octal

def digit? (c : Char) : Option Nat :=
  if '0' ≤ c ∧ c ≤ '7' then some (c.toNat - '0'.toNat) else none

/-- The character that three octal digits stand for. Codes above 255 stand for none. -/
def char? (a b c : Char) : Option Char :=
  match digit? a, digit? b, digit? c with
  | some x, some y, some z =>
    let code := 64 * x + 8 * y + z
    if code < 256 then some (Char.ofNat code) else none
  | _, _, _ => none

/-- Decode every escape. A backslash without three octal digits after it stands for itself, and
what was decoded is not read again. -/
def decode : List Char → List Char
  | '\\' :: a :: b :: c :: r =>
    match char? a b c with
    | some x => x :: decode r
    | none => '\\' :: decode (a :: b :: c :: r)
  | c :: r => c :: decode r
  | [] => []

def digitChar (n : Nat) : Char := Char.ofNat ('0'.toNat + n % 8)

def escape (c : Char) : List Char :=
  ['\\', digitChar (c.toNat / 64), digitChar (c.toNat / 8), digitChar c.toNat]

/-- Write the characters in `special` as escapes and the others as they are. -/
def encode (special : Char → Bool) : List Char → List Char
  | [] => []
  | c :: r => if special c then escape c ++ encode special r else c :: encode special r

end Shortcuts.Text.Octal
