/-!
# Text as bytes

Decoding follows the well-formed sequences of UTF-8. A malformed stretch is the longest start of
a well-formed sequence that the bytes do not finish, or else one byte.
-/

namespace Shortcuts.Text

abbrev Bytes := List UInt8

def encode (s : List Char) : Bytes := s.flatMap String.utf8EncodeChar

/-- A sequence that has begun: the bits so far, the bytes still to come, and the bounds of the
next one. -/
structure Unfinished where
  bits : Nat
  left : Nat
  low : UInt8
  high : UInt8

inductive Lead
  | char (c : Char)
  | more (p : Unfinished)
  | malformed

/-- What a byte begins. The bounds leave out overlong forms, surrogates and codes above
U+10FFFF. -/
def lead (b : UInt8) : Lead :=
  if b < 0x80 then .char (Char.ofNat b.toNat)
  else if b < 0xC2 then .malformed
  else if b < 0xE0 then .more ⟨b.toNat - 0xC0, 1, 0x80, 0xBF⟩
  else if b = 0xE0 then .more ⟨0, 2, 0xA0, 0xBF⟩
  else if b = 0xED then .more ⟨0xD, 2, 0x80, 0x9F⟩
  else if b < 0xF0 then .more ⟨b.toNat - 0xE0, 2, 0x80, 0xBF⟩
  else if b = 0xF0 then .more ⟨0, 3, 0x90, 0xBF⟩
  else if b < 0xF4 then .more ⟨b.toNat - 0xF0, 3, 0x80, 0xBF⟩
  else if b = 0xF4 then .more ⟨4, 3, 0x80, 0x8F⟩
  else .malformed

/-- Read the bytes as characters; `none` marks a malformed stretch. -/
def scan : Option Unfinished → Bytes → List (Option Char)
  | none, [] => []
  | some _, [] => [none]
  | none, b :: r =>
    match lead b with
    | .char c => some c :: scan none r
    | .more p => scan (some p) r
    | .malformed => none :: scan none r
  | some p, b :: r =>
    if p.low ≤ b ∧ b ≤ p.high then
      let bits := 64 * p.bits + (b.toNat - 0x80)
      if p.left = 1 then some (Char.ofNat bits) :: scan none r
      else scan (some ⟨bits, p.left - 1, 0x80, 0xBF⟩) r
    else
      match lead b with
      | .char c => none :: some c :: scan none r
      | .more q => none :: scan (some q) r
      | .malformed => none :: none :: scan none r

def everyChar : List (Option Char) → Option (List Char)
  | [] => some []
  | none :: _ => none
  | some c :: r =>
    match everyChar r with
    | none => none
    | some s => some (c :: s)

/-- The text of well-formed bytes. -/
def decode? (bytes : Bytes) : Option (List Char) := everyChar (scan none bytes)

/-- The text of any bytes, with U+FFFD for each malformed stretch. -/
def decodeLossy (bytes : Bytes) : List Char :=
  (scan none bytes).map fun c => c.getD '\uFFFD'

end Shortcuts.Text
