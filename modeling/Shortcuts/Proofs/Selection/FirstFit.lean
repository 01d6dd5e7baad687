import Mathlib.Data.List.Forall2
import Shortcuts.Selection.Basic

/-!
# The first configuration that fits

Keys and numbers are matched in one search, so what a choice picks depends on all earlier
configurations (`find?_eq_some_iff`). No two positions have the same number, and no number is the
word for everything, so only an earlier key can take a number away (`find?_number_iff`).
-/

namespace Shortcuts

theorem toString_inj {m n : Nat} : toString m = toString n ↔ m = n := by
  constructor
  · intro same
    rw [Nat.toString_eq_ofList_toDigits, Nat.toString_eq_ofList_toDigits, String.ofList_inj] at same
    rw [← Nat.ofDigitChars_ten_toDigits (n := m), same, Nat.ofDigitChars_ten_toDigits]
  · exact congrArg toString

theorem toString_ne_all (n : Nat) : toString n ≠ "all" := by
  intro same
  have spelled : Nat.toDigits 10 n = "all".toList := by
    rw [← same, Nat.toString_eq_ofList_toDigits, String.toList_ofList]
  have letter : 'a' ∈ Nat.toDigits 10 n := by
    rw [spelled]
    decide
  exact absurd (Nat.isDigit_of_mem_toDigits (by decide) (Nat.le_refl 10) letter) (by decide)

variable {configs : List Configuration} {choice : String} {c : Configuration} {i : Nat}

theorem Positioned.fits_iff :
    Positioned.fits choice (c, i) = true ↔ c.key = choice ∨ toString (i + 1) = choice := by
  simp [Positioned.fits, Positioned.number]

/-- A choice picks what it fits when it fits nothing before that. -/
theorem find?_eq_some_iff :
    find? configs choice = some (c, i) ↔
      configs[i]? = some c ∧ (c.key = choice ∨ toString (i + 1) = choice) ∧
      (∀ d ∈ configs.take i, d.key ≠ choice) ∧ ∀ j < i, toString (j + 1) ≠ choice := by
  rw [find?, List.find?_eq_some_iff_getElem, Positioned.fits_iff]
  constructor
  · rintro ⟨fits, k, hk, here, first⟩
    rw [List.getElem_zipIdx, Prod.mk.injEq, Nat.zero_add] at here
    obtain ⟨rfl, rfl⟩ := here
    rw [List.length_zipIdx] at hk
    have unfit (j : Nat) (hj : j < k) :
        ¬(configs[j].key = choice ∨ toString (j + 1) = choice) := by
      rw [← Positioned.fits_iff]
      simpa using first j hj
    refine ⟨List.getElem?_eq_getElem hk, fits, ?_, fun j hj number => unfit j hj (.inr number)⟩
    intro d hd key
    obtain ⟨j, hj, rfl⟩ := List.mem_take_iff_getElem.mp hd
    exact unfit j (by omega) (.inl key)
  · rintro ⟨here, fits, keys, numbers⟩
    obtain ⟨hi, rfl⟩ := List.getElem?_eq_some_iff.mp here
    refine ⟨fits, i, by rwa [List.length_zipIdx], by simp, ?_⟩
    intro j hj
    have earlier : configs[j] ∈ configs.take i := List.mem_take_iff_getElem.mpr ⟨j, by omega, rfl⟩
    have unfit : ¬Positioned.fits choice (configs[j], j) = true := by
      rw [Positioned.fits_iff]
      exact fun either => either.elim (keys _ earlier) (numbers j hj)
    simpa using unfit

theorem find?_key_iff (here : configs[i]? = some c) :
    find? configs c.key = some (c, i) ↔
      (∀ d ∈ configs.take i, d.key ≠ c.key) ∧ ∀ j < i, toString (j + 1) ≠ c.key := by
  rw [find?_eq_some_iff]
  exact ⟨fun picked => picked.2.2, fun first => ⟨here, .inl rfl, first⟩⟩

/-- A number is taken by an earlier key or by nothing. -/
theorem find?_number_iff (here : configs[i]? = some c) :
    find? configs (toString (i + 1)) = some (c, i) ↔
      ∀ d ∈ configs.take i, d.key ≠ toString (i + 1) := by
  rw [find?_eq_some_iff]
  constructor
  · exact fun picked => picked.2.2.1
  · intro keys
    refine ⟨here, .inr rfl, keys, ?_⟩
    intro j hj same
    have := toString_inj.mp same
    omega

/-- A number that is an earlier key picks an earlier configuration with that key. -/
theorem find?_number_of_taken (here : configs[i]? = some c)
    (taken : ∃ d ∈ configs.take i, d.key = toString (i + 1)) :
    ∃ d j, j < i ∧ d.key = toString (i + 1) ∧ find? configs (toString (i + 1)) = some (d, j) := by
  cases found : find? configs (toString (i + 1)) with
  | none =>
    have mem : (c, i) ∈ configs.zipIdx := List.mem_zipIdx_iff_getElem?.mpr here
    have unfit := List.find?_eq_none.mp found _ mem
    exact absurd (Positioned.fits_iff.mpr (.inr rfl)) unfit
  | some p =>
    obtain ⟨d, j⟩ := p
    obtain ⟨-, fits, keys, numbers⟩ := find?_eq_some_iff.mp found
    have before : j < i := by
      apply Nat.lt_of_not_le
      intro late
      obtain ⟨e, he, key⟩ := taken
      exact keys e ((List.take_prefix_take_left late).subset he) key
    have apart : toString (j + 1) ≠ toString (i + 1) := by
      intro same
      have := toString_inj.mp same
      omega
    exact ⟨d, j, before, fits.resolve_right apart, rfl⟩

/-! ## One choice alone -/

theorem select_of_ne {choices : List String} (listed : choices ≠ ["all"]) :
    select configs choices = resolve configs choices :=
  if_neg listed

theorem resolve_cons_of_none (unfit : find? configs choice = none) (rest : List String) :
    resolve configs (choice :: rest) = .error (.unknownChoice choice) := by
  rw [resolve, unfit]

theorem resolve_cons_of_some {p : Positioned} (fit : find? configs choice = some p)
    (rest : List String) :
    resolve configs (choice :: rest) = (resolve configs rest).map (p :: ·) := by
  rw [resolve, fit]

theorem select_one {p : Positioned} (named : choice ≠ "all") :
    select configs [choice] = .ok [p] ↔ find? configs choice = some p := by
  have listed : [choice] ≠ ["all"] := fun same => named (List.cons.inj same).1
  rw [select_of_ne listed]
  cases found : find? configs choice with
  | none => simp [resolve_cons_of_none found]
  | some q =>
    have alone : resolve configs [choice] = .ok [q] := resolve_cons_of_some found []
    simp [alone]

/-! ## All choices -/

/-- The choices are resolved one by one. -/
theorem resolve_eq_ok_iff {choices : List String} {selected : List Positioned} :
    resolve configs choices = .ok selected ↔
      List.Forall₂ (fun choice p => find? configs choice = some p) choices selected := by
  induction choices generalizing selected with
  | nil =>
    rw [List.forall₂_nil_left_iff]
    change Except.ok [] = Except.ok selected ↔ _
    rw [Except.ok.injEq]
    exact eq_comm
  | cons choice rest ih =>
    rw [List.forall₂_cons_left_iff]
    cases found : find? configs choice with
    | none => simp [resolve_cons_of_none found]
    | some p =>
      rw [resolve_cons_of_some found]
      have tail : (resolve configs rest).map (p :: ·) = .ok selected ↔
          ∃ others, resolve configs rest = .ok others ∧ selected = p :: others := by
        cases resolve configs rest <;> simp [Except.map, eq_comm]
      rw [tail]
      simp only [ih, Option.some.injEq]
      constructor
      · rintro ⟨others, picked, rfl⟩
        exact ⟨p, others, rfl, picked, rfl⟩
      · rintro ⟨_, others, rfl, picked, rfl⟩
        exact ⟨others, picked, rfl⟩

theorem length_resolve {choices : List String} {selected : List Positioned}
    (h : resolve configs choices = .ok selected) : selected.length = choices.length :=
  (resolve_eq_ok_iff.mp h).length_eq.symm

theorem mem_of_find? {p : Positioned} (found : find? configs choice = some p) : p.1 ∈ configs :=
  List.mem_of_getElem? (find?_eq_some_iff.mp found).1

theorem mem_of_resolve {choices : List String} {selected : List Positioned}
    (h : resolve configs choices = .ok selected) {p : Positioned} (hp : p ∈ selected) :
    p.1 ∈ configs := by
  have picked := resolve_eq_ok_iff.mp h
  clear h
  induction picked with
  | nil => cases hp
  | cons first _ ih =>
    rcases List.mem_cons.mp hp with rfl | later
    · exact mem_of_find? first
    · exact ih later

theorem mem_of_select {choices : List String} {selected : List Positioned}
    (chosen : select configs choices = .ok selected) {p : Positioned} (hp : p ∈ selected) :
    p.1 ∈ configs := by
  unfold select at chosen
  split at chosen
  · rw [Except.ok.injEq] at chosen
    subst chosen
    exact List.fst_mem_of_mem_zipIdx hp
  · exact mem_of_resolve chosen hp

/-- Every choice picks one configuration, but for the word for everything. -/
theorem length_select {choices : List String} {selected : List Positioned}
    (chosen : select configs choices = .ok selected) (listed : choices ≠ ["all"]) :
    selected.length = choices.length := by
  rw [select_of_ne listed] at chosen
  exact length_resolve chosen

end Shortcuts
