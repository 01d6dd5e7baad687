import Mathlib.Data.List.Basic
import Shortcuts.Configuration.Loading
import Shortcuts.Proofs.Configuration.Duplicates
import Shortcuts.Proofs.Selection.FirstFit

/-!
# Hidden configurations

A configuration whose key an earlier one has is not picked by its key. The session warns that only
its number reaches it, and the number does, unless that is itself the key of an earlier
configuration: then nothing picks the hidden one alone (`hidden_reached_iff`).
-/

namespace Shortcuts

variable {configs : List Configuration} {c : Configuration} {i : Nat}

theorem eq_take_append_cons (here : configs[i]? = some c) :
    configs = configs.take i ++ c :: configs.drop (i + 1) := by
  obtain ⟨hi, rfl⟩ := List.getElem?_eq_some_iff.mp here
  rw [← List.drop_eq_getElem_cons hi, List.take_append_drop]

/-- The session warns of every key that hides a configuration. -/
theorem mem_duplicateKeys_of_hidden (here : configs[i]? = some c)
    (hidden : ∃ d ∈ configs.take i, d.key = c.key) : c.key ∈ duplicateKeys configs := by
  have earlier : 0 < ((configs.take i).map Configuration.key).count c.key := by
    rw [List.count_pos_iff, List.mem_map]
    exact hidden
  rw [mem_duplicateKeys_iff, eq_take_append_cons here, List.map_append, List.map_cons,
    List.count_append, List.count_cons_self]
  omega

theorem getElem?_numberedLines (here : configs[i]? = some c) :
    (numberedLines configs)[i]? =
      some (Failure.padLeft 2 (toString (i + 1)) ++ " " ++ c.key) := by
  simp [numberedLines, here, Positioned.number]

/-- Only its number can pick a hidden configuration alone. -/
theorem number_of_select_hidden {choice : String} (hidden : ∃ d ∈ configs.take i, d.key = c.key)
    (picked : select configs [choice] = .ok [(c, i)]) : choice = toString (i + 1) := by
  by_cases everything : choice = "all"
  · rw [everything, select, if_pos rfl, Except.ok.injEq] at picked
    obtain ⟨d, hd, -⟩ := hidden
    cases configs with
    | nil => cases picked
    | cons first configs =>
      obtain rfl : 0 = i := congrArg Prod.snd (List.cons.inj picked).1
      cases hd
  · rw [select_one everything, find?_eq_some_iff] at picked
    obtain ⟨-, fits, keys, -⟩ := picked
    rcases fits with key | number
    · obtain ⟨d, hd, same⟩ := hidden
      exact absurd (same.trans key) (keys d hd)
    · exact number.symm

/-- A hidden configuration is listed with its number, and the session warns that its key is used
more than once. The number picks it exactly if no earlier configuration has that number for its key,
and so does any choice at all; otherwise the number picks such an earlier one. -/
theorem hidden_reached_iff (here : configs[i]? = some c)
    (hidden : ∃ d ∈ configs.take i, d.key = c.key) :
    c.key ∈ duplicateKeys configs ∧
    (numberedLines configs)[i]? =
      some (Failure.padLeft 2 (toString (i + 1)) ++ " " ++ c.key) ∧
    (select configs [toString (i + 1)] = .ok [(c, i)] ↔
      ∀ d ∈ configs.take i, d.key ≠ toString (i + 1)) ∧
    ((∃ choice, select configs [choice] = .ok [(c, i)]) ↔
      ∀ d ∈ configs.take i, d.key ≠ toString (i + 1)) ∧
    ((∃ d ∈ configs.take i, d.key = toString (i + 1)) →
      ∃ d j, j < i ∧ d.key = toString (i + 1) ∧
        select configs [toString (i + 1)] = .ok [(d, j)]) := by
  have number {p : Positioned} : select configs [toString (i + 1)] = .ok [p] ↔
      find? configs (toString (i + 1)) = some p := select_one (toString_ne_all (i + 1))
  have direct := number.trans (find?_number_iff here)
  refine ⟨mem_duplicateKeys_of_hidden here hidden, getElem?_numberedLines here, direct, ?_, ?_⟩
  · constructor
    · rintro ⟨choice, picked⟩
      obtain rfl := number_of_select_hidden hidden picked
      exact direct.mp picked
    · exact fun free => ⟨_, direct.mpr free⟩
  · intro taken
    obtain ⟨d, j, before, key, found⟩ := find?_number_of_taken here taken
    exact ⟨d, j, before, key, number.mpr found⟩

/-- Keys that are other positions' numbers take nothing away from this one. -/
theorem hidden_reached_among_numerals :
    let early : Configuration := ⟨"2", "prog", ⟨"/bin/early", []⟩⟩
    let one : Configuration := ⟨"1", "unison", ⟨"/usr/bin/unison", ["one"]⟩⟩
    let late : Configuration := ⟨"2", "prog", ⟨"/bin/late", []⟩⟩
    let configs := [early, one, late]
    configs[2]? = some late ∧ (∃ d ∈ configs.take 2, d.key = late.key) ∧
      select configs [toString (2 + 1)] = .ok [(late, 2)] := by
  intro early one late configs
  have here : configs[2]? = some late := rfl
  have hidden : ∃ d ∈ configs.take 2, d.key = late.key := by decide
  have free : ∀ d ∈ configs.take 2, d.key ≠ toString (2 + 1) := by decide
  exact ⟨here, hidden, (hidden_reached_iff here hidden).2.2.1.mpr free⟩

/-- The number of a hidden configuration may be the key of another one, which is then run. -/
theorem hidden_not_reached :
    let text := "[prog 3]\nexe = /bin/x\n[prog a]\nexe = /bin/y\n[prog a]\nexe = /bin/z\n"
    let h : Host := { hostname := .ok "box", mounted := fun _ => .ok false }
    let x : Configuration := ⟨"3", "prog", ⟨"/bin/x", []⟩⟩
    let y : Configuration := ⟨"a", "prog", ⟨"/bin/y", []⟩⟩
    let z : Configuration := ⟨"a", "prog", ⟨"/bin/z", []⟩⟩
    (configurations h text).result = .ok [x, y, z] ∧ [x, y, z][2]? = some z ∧
      (∃ d ∈ [x, y, z].take 2, d.key = z.key) ∧
      select [x, y, z] [toString (2 + 1)] = .ok [(x, 0)] ∧
      select [x, y, z] [toString (2 + 1)] ≠ .ok [(z, 2)] := by
  decide +kernel

end Shortcuts
