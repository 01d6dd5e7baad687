import Shortcuts.Text.Blank
import Shortcuts.Text.Bytes

/-!
# The version stamp

A build is stamped with the version it is given, or else with what the working copy is described
as. The stamp and what it depends on are handed to the build tool as directives, one a line.
-/

namespace Shortcuts.Release

open Text

/-- The command that describes a working copy. -/
def describeProgram : String := "git"

def describeArgs : List String := ["describe", "--tags", "--always", "--dirty"]

/-- A given version must be text. A description is trimmed; `described` is what the command wrote
if it succeeded. -/
def stamp? (given described : Option Bytes) : Option (List Char) :=
  match given.bind decode? with
  | some version => some version
  | none => described.map fun written => trim (decodeLossy written)

def directive (name : String) (value : List Char) : String :=
  "cargo:" ++ name ++ "=" ++ String.ofList value ++ "\n"

/-- What calls for a new stamp. -/
def dependencies : String :=
  directive "rerun-if-changed" ".git/HEAD".toList
    ++ directive "rerun-if-changed" ".git/refs/".toList
    ++ directive "rerun-if-env-changed" "QUICKLINKS_VERSION".toList

def directives (given described : Option Bytes) : String :=
  match stamp? given described with
  | none => dependencies
  | some version =>
    directive "rustc-env" ("QUICKLINKS_VERSION=".toList ++ version) ++ dependencies

end Shortcuts.Release
