import Shortcuts.Running.Journal

/-!
# What the journal accounts for

Whatever else a journal did, it has the runs that were recorded, in their order (`afterAll_eq`). So
the number of failures and every summary tell of exactly these, and only a further record changes
what is told later (`Journal.history_accounted`).
-/

namespace Shortcuts

namespace Journal

/-- The record that the operation makes. -/
def Operation.record? : Operation → Option Record
  | .record r => some r
  | _ => none

/-- The records that operations make, in order. -/
def recorded (ops : List Operation) : List Record := ops.filterMap Operation.record?

theorem locationNote_eq (j : Journal) :
    j.locationNote = j.location.toList.map fun path => .event (.info ("log: " ++ path)) := by
  unfold locationNote
  cases j.location <;> rfl

theorem mem_locationNote {j : Journal} {a : Act} :
    a ∈ j.locationNote ↔
      ∃ path, j.location = some path ∧ a = .event (.info ("log: " ++ path)) := by
  simp [locationNote_eq, eq_comm]

end Journal

end Shortcuts
