import Shortcuts.Selection.Basic

/-!
# Refused selections

One choice that fits nothing refuses all the choices, unless they are the lone word for everything.
The error names the first such choice (`resolve_eq_error_iff`).
-/

namespace Shortcuts

/-- Some choice fits no configuration. -/
def Unmet (configs : List Configuration) (choices : List String) : Prop :=
  choices ≠ ["all"] ∧ ∃ choice ∈ choices, find? configs choice = none

/-- The error is about the first choice that fits nothing. -/
theorem resolve_eq_error_iff {configs : List Configuration} {choices : List String}
    {e : SelectionError} :
    resolve configs choices = .error e ↔
      ∃ choice, choices.find? (fun c => (find? configs c).isNone) = some choice ∧
        e = .unknownChoice choice := by
  induction choices with
  | nil => simp [resolve]
  | cons choice rest ih =>
    rw [resolve, List.find?_cons]
    cases fits : find? configs choice with
    | none => simp [eq_comm]
    | some c =>
      have tail : (resolve configs rest).map (c :: ·) = .error e ↔
          resolve configs rest = .error e := by
        cases resolve configs rest <;> simp [Except.map]
      simpa using tail.trans ih

theorem resolve_refused_iff {configs : List Configuration} {choices : List String} :
    (∃ e, resolve configs choices = .error e) ↔
      ∃ choice ∈ choices, find? configs choice = none := by
  have unmet : (∃ e, resolve configs choices = .error e) ↔
      (choices.find? fun c => (find? configs c).isNone).isSome = true := by
    simp only [resolve_eq_error_iff, Option.isSome_iff_exists]
    constructor
    · rintro ⟨-, choice, first, -⟩
      exact ⟨choice, first⟩
    · rintro ⟨choice, first⟩
      exact ⟨_, choice, first, rfl⟩
  simp [unmet]

theorem select_refused_iff {configs : List Configuration} {choices : List String} :
    (∃ e, select configs choices = .error e) ↔ Unmet configs choices := by
  unfold select Unmet
  split
  · rename_i everything
    simp [everything]
  · rename_i listed
    rw [resolve_refused_iff]
    exact ⟨fun unmet => ⟨listed, unmet⟩, fun unmet => unmet.2⟩

end Shortcuts
