/-!
# Invocations

A program with its arguments, and the command line that shows it. A word that a shell could take
for something else is shown between single quotes.
-/

namespace Shortcuts

structure Invocation where
  program : String
  args : List String := []
  deriving DecidableEq, Repr

/-- Characters that need no quotes. -/
def isPlain (c : Char) : Bool := c.isAlphanum || "-_./:=@%+,".toList.contains c

/-- A quote inside quotes: close them, write it escaped, open them again. -/
def quoteChar (c : Char) : List Char := if c = '\'' then ['\'', '\\', '\'', '\''] else [c]

def quote (word : List Char) : List Char :=
  if word ≠ [] ∧ word.all isPlain then word
  else '\'' :: word.flatMap quoteChar ++ ['\'']

namespace Invocation

def words (i : Invocation) : List String := i.program :: i.args

def line (i : Invocation) : List Char :=
  quote i.program.toList ++ i.args.flatMap fun arg => ' ' :: quote arg.toList

def display (i : Invocation) : String := String.ofList i.line

end Invocation

end Shortcuts
