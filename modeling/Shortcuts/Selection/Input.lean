import Shortcuts.Text.Bytes
import Shortcuts.Text.Split

/-!
# Prompt input

Input is read by lines. A line that is not text is read all the same, and the error is its answer.
-/

namespace Shortcuts

open Text

inductive Input
  | bytes (rest : Bytes)
  | broken (reason : String)
  deriving DecidableEq, Repr

/-- The first line, its newline included, and what follows it. -/
def takeLine : Bytes → Bytes × Bytes
  | [] => ([], [])
  | b :: r => if b = 0x0A then ([b], r) else (b :: (takeLine r).1, (takeLine r).2)

def notText : String := "stream did not contain valid UTF-8"

def Input.readLine : Input → Except String String × Input
  | .broken reason => (.error reason, .broken reason)
  | .bytes rest =>
    let (line, rest) := takeLine rest
    match decode? line with
    | none => (.error notText, .bytes rest)
    | some text => (.ok (String.ofList text), .bytes rest)

/-- Input comes in blocks of this many bytes. -/
def blockSize : Nat := 8192

/-- How many bytes are taken to read a line: whole blocks, until there is a newline or no more. -/
def Input.readAhead : Input → Nat
  | .broken _ => 0
  | .bytes rest =>
    let line := (takeLine rest).1.length
    min (blockSize * ((line + blockSize - 1) / blockSize)) rest.length

end Shortcuts
