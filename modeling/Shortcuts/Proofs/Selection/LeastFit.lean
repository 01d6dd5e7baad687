import Mathlib.Order.Bounds.Basic
import Shortcuts.Proofs.Selection.FirstFit
import Shortcuts.Proofs.Selection.Refusal

/-!
# The least position that fits

A choice fits the positions that have it for their key or for their number, and it picks the least
of them (`find?_eq_some_iff_picks`). A list of choices is resolved one by one, and the first that
fits no position refuses them all (`select_least_fits`).
-/

namespace Shortcuts

/-- The configuration at this position has the choice for its key or for its number. -/
def FitsAt (configs : List Configuration) (choice : String) (i : Nat) : Prop :=
  ∃ c, configs[i]? = some c ∧ (c.key = choice ∨ toString (i + 1) = choice)

/-- The configuration at the least position that the choice fits. -/
def Picks (configs : List Configuration) (choice : String) (p : Positioned) : Prop :=
  configs[p.2]? = some p.1 ∧ IsLeast {i | FitsAt configs choice i} p.2

variable {configs : List Configuration} {choice : String} {p : Positioned} {e : SelectionError}

theorem find?_eq_some_iff_picks : find? configs choice = some p ↔ Picks configs choice p := by
  obtain ⟨c, i⟩ := p
  rw [find?_eq_some_iff]
  constructor
  · rintro ⟨here, fits, keys, numbers⟩
    refine ⟨here, ⟨c, here, fits⟩, ?_⟩
    rintro j ⟨d, there, fits⟩
    -- An earlier position would have the key or the number that the search passed by.
    by_contra before
    have earlier : j < i := Nat.lt_of_not_le before
    rcases fits with key | number
    · obtain ⟨hj, rfl⟩ := List.getElem?_eq_some_iff.mp there
      exact keys _ (List.mem_take_iff_getElem.mpr ⟨j, by omega, rfl⟩) key
    · exact numbers j earlier number
  · rintro ⟨here, ⟨d, there, fits⟩, least⟩
    obtain rfl : c = d := Option.some.inj (here.symm.trans there)
    have unfit (j : Nat) (before : j < i) : ¬FitsAt configs choice j :=
      fun fits => absurd (least fits) (Nat.not_le.mpr before)
    refine ⟨here, fits, ?_, fun j before number => ?_⟩
    · intro d hd key
      obtain ⟨j, hj, rfl⟩ := List.mem_take_iff_getElem.mp hd
      exact unfit j (by omega) ⟨_, List.getElem?_eq_getElem (by omega), .inl key⟩
    · have inside : j < configs.length := before.trans (List.getElem?_eq_some_iff.mp here).1
      exact unfit j before ⟨_, List.getElem?_eq_getElem inside, .inr number⟩

theorem find?_eq_none_iff_unfit :
    find? configs choice = none ↔ ∀ i, ¬FitsAt configs choice i := by
  rw [find?, List.find?_eq_none]
  constructor
  · rintro unfit i ⟨c, here, fits⟩
    exact unfit (c, i) (List.mem_zipIdx_iff_getElem?.mpr here) (Positioned.fits_iff.mpr fits)
  · rintro unfit ⟨c, i⟩ mem fits
    exact unfit i ⟨c, List.mem_zipIdx_iff_getElem?.mp mem, Positioned.fits_iff.mp fits⟩

theorem find?_ne_none_iff : find? configs choice ≠ none ↔ ∃ i, FitsAt configs choice i := by
  rw [Ne, find?_eq_none_iff_unfit, not_forall_not]

theorem resolve_eq_error_iff_unfit {choices : List String} :
    resolve configs choices = .error e ↔
      ∃ before choice after, choices = before ++ choice :: after ∧
        (∀ d ∈ before, ∃ i, FitsAt configs d i) ∧ (∀ i, ¬FitsAt configs choice i) ∧
        e = .unknownChoice choice := by
  simp only [resolve_eq_error_iff, List.find?_eq_some_iff_append, Option.isNone_iff_eq_none,
    find?_eq_none_iff_unfit, Bool.not_eq_true', Option.isNone_eq_false_iff,
    Option.isSome_iff_ne_none, find?_ne_none_iff]
  constructor
  · rintro ⟨choice, ⟨unfit, before, after, shape, met⟩, rfl⟩
    exact ⟨before, choice, after, shape, met, unfit, rfl⟩
  · rintro ⟨before, choice, after, shape, met, unfit, rfl⟩
    exact ⟨choice, ⟨unfit, before, after, shape, met⟩, rfl⟩

/-- Some selection is made exactly if no choice is refused. -/
theorem select_succeeds_iff {choices : List String} (listed : choices ≠ ["all"]) :
    (∃ selected, select configs choices = .ok selected) ↔
      ∀ choice ∈ choices, ∃ i, FitsAt configs choice i := by
  have refused : (∃ e, select configs choices = .error e) ↔
      ∃ choice ∈ choices, find? configs choice = none := by
    rw [select_refused_iff, Unmet, and_iff_right listed]
  constructor
  · rintro ⟨selected, chosen⟩ choice mem
    rw [← find?_ne_none_iff]
    intro unmet
    obtain ⟨e, failed⟩ := refused.mpr ⟨choice, mem, unmet⟩
    rw [chosen] at failed
    cases failed
  · intro met
    cases result : select configs choices with
    | ok selected => exact ⟨selected, rfl⟩
    | error e =>
      obtain ⟨choice, mem, unmet⟩ := refused.mp ⟨e, result⟩
      exact absurd unmet (find?_ne_none_iff.mpr (met choice mem))

/-- The lone word for everything selects all configurations in order. Any other list of choices is
accepted if each of them fits some position, and then each picks the least one; otherwise the first
that fits none is the error. So a position's number picks it unless an earlier key is that number,
and its key does unless it is an earlier key or number. -/
theorem select_least_fits (configs : List Configuration) (choices : List String) :
    (choices = ["all"] → ∃ selected, select configs choices = .ok selected ∧
      selected.map Prod.fst = configs ∧ selected.map Prod.snd = List.range configs.length) ∧
    (choices ≠ ["all"] →
      ((∃ selected, select configs choices = .ok selected) ↔
        ∀ choice ∈ choices, ∃ i, FitsAt configs choice i) ∧
      (∀ selected, select configs choices = .ok selected ↔
        List.Forall₂ (Picks configs) choices selected) ∧
      ∀ e, select configs choices = .error e ↔
        ∃ before choice after, choices = before ++ choice :: after ∧
          (∀ d ∈ before, ∃ i, FitsAt configs d i) ∧ (∀ i, ¬FitsAt configs choice i) ∧
          e = .unknownChoice choice) ∧
    ∀ i c, configs[i]? = some c →
      (find? configs (toString (i + 1)) = some (c, i) ↔
        ∀ d ∈ configs.take i, d.key ≠ toString (i + 1)) ∧
      (find? configs c.key = some (c, i) ↔
        (∀ d ∈ configs.take i, d.key ≠ c.key) ∧ ∀ j < i, toString (j + 1) ≠ c.key) := by
  refine ⟨?_, fun listed => ⟨select_succeeds_iff listed, fun selected => ?_, fun e => ?_⟩,
    fun i c here => ⟨find?_number_iff here, find?_key_iff here⟩⟩
  · rintro rfl
    exact ⟨configs.zipIdx, if_pos rfl, List.zipIdx_map_fst 0 configs, by
      rw [List.zipIdx_map_snd, List.range_eq_range']⟩
  · rw [select, if_neg listed, resolve_eq_ok_iff]
    simp only [find?_eq_some_iff_picks]
  · rw [select, if_neg listed, resolve_eq_error_iff_unfit]

/-- A key that is another position's number, a key that is repeated, and a choice made twice. -/
theorem select_least_fits_among_numerals :
    let a : Configuration := ⟨"2", "prog", ⟨"/bin/a", []⟩⟩
    let b : Configuration := ⟨"docs", "unison", ⟨"/usr/bin/unison", ["home"]⟩⟩
    let c : Configuration := ⟨"docs", "prog", ⟨"/bin/c", []⟩⟩
    let configs := [a, b, c]
    let choices := ["docs", "2", "3", "2"]
    let selected : List Positioned := [(b, 1), (a, 0), (c, 2), (a, 0)]
    choices ≠ ["all"] ∧ List.Forall₂ (Picks configs) choices selected ∧
      configs[1]? = some b ∧ find? configs (toString (1 + 1)) ≠ some (b, 1) := by
  intro a b c configs choices selected
  have listed : choices ≠ ["all"] := by decide
  have chosen : select configs choices = .ok selected := by decide
  have here : configs[1]? = some b := rfl
  obtain ⟨-, others, positions⟩ := select_least_fits configs choices
  refine ⟨listed, ((others listed).2.1 selected).mp chosen, here, ?_⟩
  rw [Ne, (positions 1 b here).1]
  decide

end Shortcuts
