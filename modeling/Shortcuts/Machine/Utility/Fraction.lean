import Shortcuts.Text.Octets

/-!
# Fractions

Numbers with a point or an exponent are read exactly, rounded to the nearest value with so many
binary digits, and written with so many decimal ones. A half goes to the even neighbour.
-/

namespace Shortcuts.Machine

open Text

/-- A fraction that is not negative. -/
structure Fraction where
  num : Nat
  den : Nat := 1

namespace Fraction

/-- The nearest whole number. -/
def round (f : Fraction) : Nat :=
  let down := f.num / f.den
  let twice := 2 * (f.num % f.den)
  if f.den < twice ∨ (twice = f.den ∧ down % 2 = 1) then down + 1 else down

/-- Multiply by a power. -/
def scale (f : Fraction) (base : Nat) (exponent : Int) : Fraction :=
  if 0 ≤ exponent then { f with num := f.num * Nat.pow base exponent.toNat }
  else { f with den := f.den * Nat.pow base exponent.natAbs }

/-- The nearest fraction with so many binary digits. -/
def toBits (bits : Nat) (f : Fraction) : Fraction :=
  if f.num = 0 then f
  else
    let guess : Int := (Nat.log2 f.num : Int) - Nat.log2 f.den
    let low := f.scale 2 (-guess)
    let exponent := (if low.num < low.den then guess - 1 else guess) - (bits - 1 : Nat)
    ({ num := (f.scale 2 (-exponent)).round } : Fraction).scale 2 exponent

/-- The power of ten at the first digit. -/
def magnitude (f : Fraction) : Int :=
  let guess : Int := (Nat.toDigits 10 f.num).length - (Nat.toDigits 10 f.den).length
  let low := f.scale 10 (-guess)
  if low.num < low.den then guess - 1 else guess

def digitsOf (n : Nat) : Octets := Nat.toDigits 10 n

/-- Put a point before the last digits. -/
def pointed (places : Nat) (n : Nat) : Octets :=
  let digits := digitsOf n
  let digits := List.replicate (places + 1 - digits.length) '0' ++ digits
  let cut := digits.length - places
  digits.take cut ++ if places = 0 then [] else '.' :: digits.drop cut

/-- Written with so many places after the point. -/
def plain (f : Fraction) (places : Nat) : Octets := pointed places (f.scale 10 places).round

/-- The digits of a number with one of them before the point, and the power of ten. -/
def significant (f : Fraction) (places : Nat) : Nat × Int :=
  if f.num = 0 then (0, 0)
  else
    let m := f.magnitude
    let n := (f.scale 10 (places - m)).round
    if Nat.pow 10 (places + 1) ≤ n then (n / 10, m + 1) else (n, m)

def exponentText (mark : Char) (m : Int) : Octets :=
  let digits := digitsOf m.natAbs
  [mark, if m < 0 then '-' else '+'] ++ List.replicate (2 - digits.length) '0' ++ digits

/-- Written with a power of ten. -/
def scientific (f : Fraction) (mark : Char) (places : Nat) : Octets :=
  let (n, m) := f.significant places
  pointed places n ++ exponentText mark m

/-- Without the zeros after the point that say nothing. -/
def stripped (s : Octets) : Octets :=
  if '.' ∈ s then
    let s := (s.reverse.dropWhile (· == '0')).reverse
    if s.getLast? = some '.' then s.dropLast else s
  else s

/-- Written with so many digits, with a power of ten where the number is very large or small. -/
def shortest (f : Fraction) (mark : Char) (digits : Nat) : Octets :=
  let digits := max digits 1
  let (n, m) := f.significant (digits - 1)
  if -4 ≤ m ∧ m < digits then stripped (f.plain (digits - 1 - m).toNat)
  else stripped (pointed (digits - 1) n) ++ exponentText mark m

/-! ## Reading -/

def digitRun (isDigit : Char → Bool) (s : Octets) : Octets := s.takeWhile isDigit

def hexValue (c : Char) : Nat :=
  if c.isDigit then c.toNat - '0'.toNat else c.toLower.toNat - 'a'.toNat + 10

def valueOf (base : Nat) (digits : Octets) : Nat :=
  digits.foldl (fun n c => base * n + hexValue c) 0

/-- Digits with a point among them: their value, and what follows. -/
def leadingDigits (base : Nat) (isDigit : Char → Bool) (s : Octets) : Option (Fraction × Octets) :=
  let whole := digitRun isDigit s
  let rest := s.drop whole.length
  let (part, rest) :=
    match rest with
    | '.' :: r => (digitRun isDigit r, r.drop (digitRun isDigit r).length)
    | r => ([], r)
  if whole ++ part = [] then none
  else some ({ num := valueOf base (whole ++ part), den := Nat.pow base part.length }, rest)

/-- An exponent after its mark. -/
def exponent? (s : Octets) : Option (Int × Octets) :=
  let (negative, body) :=
    match s with
    | '-' :: r => (true, r)
    | '+' :: r => (false, r)
    | r => (false, r)
  let digits := digitRun Char.isDigit body
  if digits = [] then none
  else
    let n : Int := valueOf 10 digits
    some (if negative then -n else n, body.drop digits.length)

def isHexDigit (c : Char) : Bool :=
  c.isDigit || ('a' ≤ c.toLower && c.toLower ≤ 'f')

/-- The number that a text without a sign begins with. -/
def leading? (s : Octets) : Option (Fraction × Octets) :=
  let hex :=
    match s with
    | '0' :: x :: r => if x = 'x' ∨ x = 'X' then leadingDigits 16 isHexDigit r else none
    | _ => none
  match hex with
  | some (f, rest) => some (f, rest)
  | none =>
    match leadingDigits 10 Char.isDigit s with
    | none => none
    | some (f, rest) =>
      match rest with
      | e :: r =>
        match (if e = 'e' ∨ e = 'E' then exponent? r else none) with
        | some (n, rest) => some (if n.natAbs < 5000 then f.scale 10 n else f, rest)
        | none => some (f, rest)
      | [] => some (f, [])

end Fraction

/-- A number with a sign. -/
structure SignedFraction where
  negative : Bool := false
  size : Fraction

/-- The number that a text begins with, after blanks, and what follows it. -/
def SignedFraction.leading? (s : Octets) : Option (SignedFraction × Octets) :=
  let body := s.dropWhile fun c => c == ' ' || ('\t' ≤ c && c ≤ '\r')
  let (negative, body) :=
    match body with
    | '-' :: r => (true, r)
    | '+' :: r => (false, r)
    | r => (false, r)
  (Fraction.leading? body).map fun (size, rest) => ({ negative, size }, rest)

end Shortcuts.Machine
