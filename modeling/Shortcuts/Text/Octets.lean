import Shortcuts.Text.Bytes

/-!
# Octets

Programs that know no encoding read text byte by byte: every byte is a character of its own.
Octets are bytes read in this way.
-/

namespace Shortcuts.Text

/-- Characters with codes below 256, each of them one byte. -/
abbrev Octets := List Char

def Octets.ofBytes (bytes : Bytes) : Octets := bytes.map fun b => Char.ofNat b.toNat

def Octets.toBytes (s : Octets) : Bytes := s.map fun c => UInt8.ofNat c.toNat

/-- The octets of a text. -/
def octets (s : String) : Octets := Octets.ofBytes (encode s.toList)

/-- The text that octets spell. -/
def spelled (s : Octets) : String := String.ofList (decodeLossy (Octets.toBytes s))

/-- Whether one text comes no later than another in the order of the bytes. -/
def Octets.upTo : Octets → Octets → Bool
  | [], _ => true
  | _ :: _, [] => false
  | a :: s, b :: t => a.toNat < b.toNat || (a == b && upTo s t)

/-- Octets that are compared with a plain word. -/
def reads (s : Octets) (word : String) : Bool := s == word.toList

end Shortcuts.Text
