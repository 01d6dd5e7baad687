import Shortcuts.Entry.Basic
import Shortcuts.Text.Blank

/-!
# Writing entries

An entry is written as its header and one line a parameter. `WellFormed` says which entries can be
written so that reading gives them back.
-/

namespace Shortcuts

open Text

def Parameter.render (p : Parameter) : String := p.name ++ " = " ++ p.value ++ "\n"

def Entry.header (e : Entry) : String := "[" ++ e.kind ++ " " ++ e.key ++ "]\n"

def Entry.render (e : Entry) : String := e.header ++ String.join (e.parameters.map Parameter.render)

def render (entries : List Entry) : String := String.join (entries.map Entry.render)

/-- No blank at either end. -/
def Trimmed (s : String) : Prop := trim s.toList = s.toList

def OneLine (s : String) : Prop := '\n' ∉ s.toList

/-- A kind or a key that a header can hold. -/
def Word (s : String) : Prop := s ≠ "" ∧ ' ' ∉ s.toList ∧ OneLine s ∧ Trimmed s

structure Parameter.WellFormed (p : Parameter) : Prop where
  name_line : OneLine p.name
  name_trimmed : Trimmed p.name
  value_line : OneLine p.value
  value_trimmed : Trimmed p.value
  no_equals : '=' ∉ p.name.toList
  no_comment : p.name.toList.head? ≠ some '#'
  no_header : ¬(p.name.toList.head? = some '[' ∧ p.value.toList.getLast? = some ']')

structure Entry.WellFormed (e : Entry) : Prop where
  kind_word : Word e.kind
  key_word : Word e.key
  parameters : ∀ p ∈ e.parameters, p.WellFormed

end Shortcuts
