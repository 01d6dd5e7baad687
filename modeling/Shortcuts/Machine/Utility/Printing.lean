import Shortcuts.Machine.Utility.Fraction

/-!
# Printing commands

What `echo` and `printf` write. Both come twice, as programs and as commands of the shell, with
dialects of their own for backslash escapes and complaints.
-/

namespace Shortcuts.Machine.Printing

open Text

def octalDigit? (c : Char) : Option Nat :=
  if '0' ≤ c ∧ c ≤ '7' then some (c.toNat - '0'.toNat) else none

def hexDigit? (c : Char) : Option Nat :=
  if c.isDigit then some (c.toNat - '0'.toNat)
  else if 'a' ≤ c ∧ c ≤ 'f' then some (c.toNat - 'a'.toNat + 10)
  else if 'A' ≤ c ∧ c ≤ 'F' then some (c.toNat - 'A'.toNat + 10)
  else none

/-- The value of digits, and whether there were any. -/
def value (base : Nat) (digits : List Nat) : Nat := digits.foldl (fun n d => base * n + d) 0

/-- The longest start of at most `most` digits. -/
def leadingDigits (digit? : Char → Option Nat) (most : Nat) (s : Octets) : List Nat :=
  ((s.take most).takeWhile fun c => (digit? c).isSome).filterMap digit?

/-- The code of a one-letter escape. -/
def letterEscape? : Char → Option Nat
  | 'a' => some 7
  | 'b' => some 8
  | 't' => some 9
  | 'n' => some 10
  | 'v' => some 11
  | 'f' => some 12
  | 'r' => some 13
  | 'e' => some 27
  | '\\' => some 92
  | _ => none

/-- How backslashes are read. -/
structure EscapeRule where
  /-- Three digits may follow a leading zero, instead of two after the first digit. -/
  zeroLeads : Bool
  /-- A `\c` ends all output. -/
  stops : Bool
  /-- A `\x` takes hexadecimal digits. -/
  hexadecimal : Bool
  /-- A quote may be escaped. -/
  quote : Bool

inductive Escape
  | shown (s rest : Octets)
  | stop
  | missingDigits

/-- What follows a backslash. -/
def escape (r : EscapeRule) : Octets → Escape
  | [] => .shown ['\\'] []
  | c :: rest =>
    if r.stops ∧ c = 'c' then .stop
    else if r.zeroLeads ∧ c = '0' then
      let digits := leadingDigits octalDigit? 3 rest
      .shown [byte (value 8 digits)] (rest.drop digits.length)
    else if (octalDigit? c).isSome then
      let digits := leadingDigits octalDigit? 3 (c :: rest)
      .shown [byte (value 8 digits)] ((c :: rest).drop digits.length)
    else if r.hexadecimal ∧ c = 'x' then
      let digits := leadingDigits hexDigit? 2 rest
      if digits = [] then .missingDigits
      else .shown [byte (value 16 digits)] (rest.drop digits.length)
    else if r.quote ∧ c = '"' then .shown [c] rest
    else
      match letterEscape? c with
      | some code => .shown [Char.ofNat code] rest
      | none => .shown ['\\', c] rest
where
  byte (n : Nat) : Char := Char.ofNat (n % 256)

/-- Expand the escapes of a text; whether the output ends with it. Missing digits leave the
backslash as it is. -/
def expand (r : EscapeRule) (s : Octets) : Octets × Bool := go s.length s
where
  /-- Every step takes a character. -/
  go : Nat → Octets → Octets × Bool
    | n + 1, '\\' :: rest =>
      match escape r rest with
      | .stop => ([], true)
      | .shown shown rest => let (more, stop) := go n rest; (shown ++ more, stop)
      | .missingDigits => let (more, stop) := go n rest; ('\\' :: more, stop)
    | n + 1, c :: rest => let (more, stop) := go n rest; (c :: more, stop)
    | _, _ => ([], false)

/-- A command of the shell, or a program with a name of its own. -/
inductive Dialect
  | command
  | program (name : Octets)

namespace Dialect

def echoRule : Dialect → EscapeRule
  | .command => ⟨true, true, false, false⟩
  | .program _ => ⟨true, true, true, false⟩

def formatRule : Dialect → EscapeRule
  | .command => ⟨false, false, false, true⟩
  | .program _ => ⟨false, true, true, true⟩

def argumentRule : Dialect → EscapeRule
  | .command => ⟨true, true, false, true⟩
  | .program _ => ⟨true, true, true, true⟩

end Dialect

def spaced (args : List Octets) : Octets := [' '].intercalate args

def shellEcho (args : List Octets) : Octets :=
  let (newline, args) :=
    match args with
    | ['-', 'n'] :: rest => (false, rest)
    | args => (true, args)
  let (text, stop) := expand Dialect.command.echoRule (spaced args)
  if newline ∧ !stop then text ++ ['\n'] else text

/-- The options of the `echo` program: leading words of a dash and the letters `n`, `e`, `E`. -/
def isEchoOption : Octets → Bool
  | '-' :: c :: r => (c :: r).all fun c => "neE".toList.contains c
  | _ => false

def programEcho (args : List Octets) : Octets :=
  let options := (args.takeWhile isEchoOption).flatten
  let args := args.dropWhile isEchoOption
  let expands := (options.filter fun c => c == 'e' || c == 'E').getLast? == some 'e'
  let (text, stop) :=
    if expands then expand (Dialect.program []).echoRule (spaced args) else (spaced args, false)
  if 'n' ∈ options ∨ stop then text else text ++ ['\n']

/-! ## Formats -/

/-- A conversion of a format. -/
structure Conversion where
  left : Bool := false
  sign : Bool := false
  blank : Bool := false
  zero : Bool := false
  alternate : Bool := false
  width : Nat := 0
  precision : Option Nat := none
  letter : Option Char := none

/-- A formatting command under way. -/
structure Formatting where
  written : Octets := []
  args : List Octets := []
  /-- Whether the format took an argument. -/
  took : Bool := false
  complaints : List Octets := []
  status : Nat := 0
  stopped : Bool := false

namespace Formatting

def write (f : Formatting) (s : Octets) : Formatting := { f with written := f.written ++ s }

def complain (f : Formatting) (what : Octets) : Formatting :=
  { f with complaints := f.complaints ++ [what], status := max f.status 1 }

/-- Stop with a complaint. -/
def abandon (f : Formatting) (what : Octets) (status : Nat) : Formatting :=
  { f with complaints := f.complaints ++ [what], status, stopped := true }

def takeArg (f : Formatting) : Octets × Formatting :=
  match f.args with
  | [] => ([], { f with took := true })
  | a :: rest => (a, { f with took := true, args := rest })

end Formatting

def padded (c : Conversion) (s : Octets) : Octets :=
  let fill := List.replicate (c.width - s.length) ' '
  if c.left then s ++ fill else fill ++ s

/-- A number with its sign and its digits. -/
def paddedNumber (c : Conversion) (sign digits : Octets) : Octets :=
  let digits := List.replicate (c.precision.getD 1 - digits.length) '0' ++ digits
  if c.zero ∧ !c.left ∧ c.precision = none then
    sign ++ List.replicate (c.width - sign.length - digits.length) '0' ++ digits
  else padded c (sign ++ digits)

/-- How a word fails to be a number. -/
inductive NumberFault
  | notNumeric
  | incomplete
  | excess (rest : Octets)

/-- An integer as it is written in programs: decimal, with a leading zero octal, after `0x`
hexadecimal; after a quote, the code of a character. -/
def integer (s : Octets) : Int × Option NumberFault :=
  match s with
  | '\'' :: c :: rest | '"' :: c :: rest =>
    (c.toNat, if rest = [] then none else some (.excess rest))
  | _ =>
    let body := s.dropWhile fun c => c == ' ' || c == '\t' || c == '\n'
    let (negative, body) :=
      match body with
      | '-' :: r => (true, r)
      | '+' :: r => (false, r)
      | r => (false, r)
    let (digits, rest) :=
      match body with
      | '0' :: x :: r =>
        let found := leadingDigits hexDigit? r.length r
        if (x = 'x' ∨ x = 'X') ∧ found ≠ [] then (value 16 found, some (r.drop found.length))
        else
          let found := leadingDigits octalDigit? body.length body
          (value 8 found, some (body.drop found.length))
      | _ =>
        let found := leadingDigits decimal? body.length body
        (value 10 found, if found = [] then none else some (body.drop found.length))
    let n : Int := if negative then -digits else digits
    match rest with
    | none => (0, if s = [] then none else some .notNumeric)
    | some rest => (n, if rest = [] then none else some .incomplete)
where
  decimal? (c : Char) : Option Nat := if c.isDigit then some (c.toNat - '0'.toNat) else none

def takeInteger (d : Dialect) (f : Formatting) : Int × Formatting :=
  let (a, f) := f.takeArg
  let (n, fault) := integer a
  let f :=
    match fault, d with
    | none, _ => f
    | some .notNumeric, .command => f.complain (a ++ octets ": expected numeric value")
    | some _, .command => f.complain (a ++ octets ": not completely converted")
    | some .notNumeric, .program _ =>
      f.complain (octets "'" ++ a ++ octets "': expected a numeric value")
    | some .incomplete, .program _ =>
      f.complain (octets "'" ++ a ++ octets "': value not completely converted")
    | some (.excess rest), .program _ =>
      { f with complaints := f.complaints ++ [octets "warning: " ++ rest ++
        octets ": character(s) following character constant have been ignored"] }
  (n, f)

def digitsIn (base : Nat) (n : Nat) : Octets := Nat.toDigits base n

/-- How many numbers have 64 bits. -/
def wordCount : Int := 18446744073709551616

/-- A number as an unsigned one of 64 bits. -/
def unsigned (n : Int) : Nat := (n % wordCount).toNat

def signOf (c : Conversion) (n : Int) : Octets :=
  if n < 0 then ['-'] else if c.sign then ['+'] else if c.blank then [' '] else []

/-- The binary digits that a fraction has. -/
def Dialect.precision : Dialect → Nat
  | .command => 53
  | .program _ => 64

def complainOfNumber (d : Dialect) (a : Octets) (numeric : Bool) (f : Formatting) : Formatting :=
  match d, numeric with
  | .command, false => f.complain (a ++ octets ": expected numeric value")
  | .command, true => f.complain (a ++ octets ": not completely converted")
  | .program _, false => f.complain (octets "'" ++ a ++ octets "': expected a numeric value")
  | .program _, true =>
    f.complain (octets "'" ++ a ++ octets "': value not completely converted")

def takeFraction (d : Dialect) (f : Formatting) : SignedFraction × Formatting :=
  let (a, f) := f.takeArg
  match SignedFraction.leading? a with
  | some (n, rest) =>
    ({ n with size := n.size.toBits d.precision },
      if rest = [] then f else complainOfNumber d a true f)
  | none => ({ size := ⟨0, 1⟩ }, if a = [] then f else complainOfNumber d a false f)

/-- A fraction in one of its notations. -/
def fraction (c : Conversion) (letter : Char) (n : SignedFraction) : Octets :=
  let places := c.precision.getD 6
  let shown :=
    match letter with
    | 'e' => n.size.scientific 'e' places
    | 'E' => n.size.scientific 'E' places
    | 'g' => n.size.shortest 'e' places
    | 'G' => n.size.shortest 'E' places
    | _ => n.size.plain places
  paddedNumber { c with precision := none } (signOf c (if n.negative then -1 else 0)) shown

/-- Carry out a conversion. -/
def convert (d : Dialect) (c : Conversion) (text : Octets) (f : Formatting) : Formatting :=
  match c.letter with
  | some 's' =>
    let (a, f) := f.takeArg
    f.write (padded c (match c.precision with
      | none => a
      | some n => a.take n))
  | some 'b' =>
    let (a, f) := f.takeArg
    let (shown, stop) := expand d.argumentRule a
    { f.write (padded c shown) with stopped := stop }
  | some 'c' =>
    let (a, f) := f.takeArg
    f.write (padded c [a.headD '\x00'])
  | some 'd' | some 'i' =>
    let (n, f) := takeInteger d f
    f.write (paddedNumber c (signOf c n) (digitsIn 10 n.natAbs))
  | some 'u' =>
    let (n, f) := takeInteger d f
    f.write (paddedNumber c [] (digitsIn 10 (unsigned n)))
  | some 'o' =>
    let (n, f) := takeInteger d f
    f.write (paddedNumber c (if c.alternate then ['0'] else []) (digitsIn 8 (unsigned n)))
  | some 'x' =>
    let (n, f) := takeInteger d f
    f.write (paddedNumber c (if c.alternate then octets "0x" else []) (digitsIn 16 (unsigned n)))
  | some 'X' =>
    let (n, f) := takeInteger d f
    f.write (paddedNumber c (if c.alternate then octets "0X" else [])
      ((digitsIn 16 (unsigned n)).map Char.toUpper))
  | letter =>
    match letter.filter fun l => "fFeEgG".toList.contains l with
    | some l =>
      let (n, f) := takeFraction d f
      f.write (fraction c l n)
    | none =>
    match d, letter with
    | .command, none => f.abandon (octets "missing format character") 2
    | .command, _ => f.abandon (text ++ octets ": invalid directive") 2
    | .program _, _ => f.abandon (text ++ octets ": invalid conversion specification") 1

/-- A width or a precision: digits, or a star for an argument. -/
def takeSize (d : Dialect) (s : Octets) (f : Formatting) : Option Int × Octets × Formatting :=
  match s with
  | '*' :: rest =>
    let (n, f) := takeInteger d f
    (some n, rest, f)
  | _ =>
    let digits := s.takeWhile Char.isDigit
    let n := value 10 (digits.map fun c => c.toNat - '0'.toNat)
    (if digits = [] then none else some n, s.drop digits.length, f)

/-- Read the conversion after a percent sign and carry it out. -/
def conversion (d : Dialect) (s : Octets) (f : Formatting) : Octets × Formatting :=
  let flags := s.takeWhile fun c => "-+ #0".toList.contains c
  let (width, rest, f) := takeSize d (s.drop flags.length) f
  let (precision, rest, f) :=
    match rest with
    | '.' :: rest =>
      let (n, rest, f) := takeSize d rest f
      (some ((n.getD 0).toNat), rest, f)
    | rest => (none, rest, f)
  let rest :=
    match d with
    | .command => rest
    | .program _ => rest.dropWhile fun c => "hlLjzt".toList.contains c
  let width := width.getD 0
  let c : Conversion :=
    { left := '-' ∈ flags ∨ width < 0, sign := '+' ∈ flags, blank := ' ' ∈ flags,
      zero := '0' ∈ flags, alternate := '#' ∈ flags, width := width.natAbs, precision,
      letter := rest.head? }
  let text := '%' :: s.take (s.length - rest.length + 1)
  (rest.drop 1, convert d c text f)

/-- Go through a format once. -/
def pass (d : Dialect) (s : Octets) (f : Formatting) : Formatting := go s.length s f
where
  /-- Every step takes a character. -/
  go : Nat → Octets → Formatting → Formatting
    | n + 1, c :: rest, f =>
      if f.stopped then f
      else if c = '\\' then
        match escape d.formatRule rest with
        | .stop => { f with stopped := true }
        | .shown shown rest => go n rest (f.write shown)
        | .missingDigits => f.abandon (octets "missing hexadecimal number in escape") 1
      else if c = '%' then
        match rest with
        | '%' :: rest => go n rest (f.write ['%'])
        | _ => let (rest, f) := conversion d rest f; go n rest f
      else go n rest (f.write [c])
    | _, _, f => f

/-- Go through the format until the arguments are used up, at most `passes` times. -/
def passes (d : Dialect) (s : Octets) : Nat → Formatting → Formatting
  | 0, f => f
  | n + 1, f =>
    let f := pass d s { f with took := false }
    if f.stopped ∨ f.args = [] then f
    else if f.took then passes d s n f
    else
      match d with
      | .command => f
      | .program _ =>
        { f with complaints := f.complaints ++ [octets "warning: ignoring excess arguments," ++
          octets " starting with '" ++ f.args.headD [] ++ ['\'']] }

/-- What `printf` does with its arguments. -/
def format (d : Dialect) (args : List Octets) : Formatting :=
  let (args, ended) :=
    match args with
    | ['-', '-'] :: rest => (rest, true)
    | args => (args, false)
  match args, d with
  | [], .command => ({} : Formatting).abandon (octets "usage: printf format [arg ...]") 2
  | [], .program name =>
    ({} : Formatting).abandon
      (octets "missing operand\nTry '" ++ name ++ octets " --help' for more information.") 1
  | s :: rest, .command =>
    match s, ended with
    | '-' :: c :: _, false => ({} : Formatting).abandon (octets "Illegal option -" ++ [c]) 2
    | _, _ => passes d s (rest.length + 1) { args := rest }
  | s :: rest, .program _ => passes d s (rest.length + 1) { args := rest }

end Shortcuts.Machine.Printing
