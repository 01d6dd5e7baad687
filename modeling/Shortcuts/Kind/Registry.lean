import Shortcuts.Kind.Program
import Shortcuts.Kind.Transfer

/-!
# The registered kinds
-/

namespace Shortcuts.Kind

def all : List Kind := [unison, program, transfer]

def find? (name : String) : Option Kind := all.find? fun k => k.name == name

end Shortcuts.Kind
