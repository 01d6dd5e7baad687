import Shortcuts.Proofs.Kind.ParameterOrder

/-!
# The verdict of a schema

An entry fits a schema when it has every mandatory name and no unknown one. Otherwise the first
mandatory name that it lacks is reported, and if there is none, its own first unknown name. Apart
from which unknown name comes first, the verdict depends on the set of its names alone
(`Schema.check_verdict`).
-/

namespace Shortcuts

/-- The same kind and the same parameter names, in any order, any number of times and with any
values. -/
structure Entry.SameNames (e f : Entry) : Prop where
  kind : e.kind = f.kind
  names : ∀ name, name ∈ e.names ↔ name ∈ f.names

namespace Schema

variable {s : Schema} {e f : Entry} {kind name : String}

/-- The schema has the name, as one that must be given or as one that may be. -/
def Knows (s : Schema) (name : String) : Prop := name ∈ s.mandatory ∨ name ∈ s.optional

/-- The first mandatory name that the entry lacks. -/
def FirstMissing (s : Schema) (e : Entry) (name : String) : Prop :=
  ∃ before after, s.mandatory = before ++ name :: after ∧ name ∉ e.names ∧
    ∀ n ∈ before, n ∈ e.names

/-- The first name of the entry that the schema does not have. -/
def FirstUnknown (s : Schema) (e : Entry) (name : String) : Prop :=
  ∃ before after, e.names = before ++ name :: after ∧ ¬s.Knows name ∧ ∀ n ∈ before, s.Knows n

theorem allows_iff : s.allows name = true ↔ s.Knows name := by
  rw [allows, Bool.or_eq_true, List.contains_iff_mem, List.contains_iff_mem, Knows]

theorem firstUnexpected_iff : s.FirstUnexpected e name ↔ s.FirstUnknown e name := by
  simp only [FirstUnexpected, FirstUnknown, ← Bool.not_eq_true, allows_iff]

/-! ## The two searches -/

theorem missing?_eq_some_iff : s.missing? e = some name ↔ s.FirstMissing e name := by
  simp only [missing?, List.find?_eq_some_iff_append, FirstMissing, Entry.hasParameter,
    Bool.not_eq_true', Bool.not_not, List.contains_iff_mem, ← Bool.not_eq_true]
  constructor
  · rintro ⟨absent, before, after, mandatory, earlier⟩
    exact ⟨before, after, mandatory, absent, earlier⟩
  · rintro ⟨before, after, mandatory, absent, earlier⟩
    exact ⟨absent, before, after, mandatory, earlier⟩

theorem missing?_eq_none_iff : s.missing? e = none ↔ ∀ n ∈ s.mandatory, n ∈ e.names := by
  simp [missing?, Entry.hasParameter]

theorem missing?_of_same_names (same : e.SameNames f) : s.missing? e = s.missing? f := by
  apply missing?_congr
  intro name
  rw [Entry.hasParameter, Entry.hasParameter, Bool.eq_iff_iff, List.contains_iff_mem,
    List.contains_iff_mem, same.names]

theorem unexpected?_of_same_names (same : e.SameNames f) :
    s.unexpected? e = none ↔ s.unexpected? f = none := by
  simp only [unexpected?_eq_none_iff, same.names]

/-! ## The verdict -/

theorem check_eq_ok_iff : s.check e = .ok () ↔ s.missing? e = none ∧ s.unexpected? e = none := by
  unfold check
  cases s.missing? e <;> cases s.unexpected? e <;> simp

theorem check_eq_missing_iff :
    s.check e = .error (.missingParameter kind name) ↔
      kind = e.kind ∧ s.missing? e = some name := by
  unfold check
  cases s.missing? e with
  | some found => simp [eq_comm]
  | none => cases s.unexpected? e <;> simp

theorem check_eq_unexpected_iff :
    s.check e = .error (.unexpectedParameter kind name) ↔
      kind = e.kind ∧ s.missing? e = none ∧ s.unexpected? e = some name := by
  unfold check
  cases s.missing? e with
  | some found => simp
  | none => cases s.unexpected? e <;> simp [eq_comm]

/-- The verdict on an entry, and what an entry with the same names shares of it. -/
theorem check_verdict (s : Schema) (e : Entry) :
    (s.check e = .ok () ↔ (∀ n ∈ s.mandatory, n ∈ e.names) ∧ ∀ n ∈ e.names, s.Knows n) ∧
    (∀ kind name, s.check e = .error (.missingParameter kind name) ↔
      kind = e.kind ∧ s.FirstMissing e name) ∧
    (∀ kind name, s.check e = .error (.unexpectedParameter kind name) ↔
      kind = e.kind ∧ (∀ n ∈ s.mandatory, n ∈ e.names) ∧ s.FirstUnknown e name) ∧
    ∀ f, e.SameNames f →
      (s.check e = .ok () ↔ s.check f = .ok ()) ∧
      ∀ kind name, s.check e = .error (.missingParameter kind name) ↔
        s.check f = .error (.missingParameter kind name) := by
  refine ⟨?_, fun kind name => ?_, fun kind name => ?_, fun f same => ⟨?_, fun kind name => ?_⟩⟩
  · simp only [check_eq_ok_iff, missing?_eq_none_iff, unexpected?_eq_none_iff, allows_iff]
  · rw [check_eq_missing_iff, missing?_eq_some_iff]
  · rw [check_eq_unexpected_iff, missing?_eq_none_iff, unexpected?_eq_some_iff, firstUnexpected_iff]
  · rw [check_eq_ok_iff, check_eq_ok_iff, missing?_of_same_names same,
      unexpected?_of_same_names same]
  · rw [check_eq_missing_iff, check_eq_missing_iff, missing?_of_same_names same, same.kind]

/-- A name that must and may be given, and an unknown one beside a missing one. -/
theorem check_verdict_of_overlap :
    let s : Schema := ⟨["dst", "src", "cmp"], ["flag", "dst"]⟩
    let e : Entry := ⟨"rsync", "home", [⟨"size", "1"⟩, ⟨"dst", "/b"⟩, ⟨"flag", "-a"⟩]⟩
    let f : Entry := ⟨"rsync", "away", [⟨"flag", ""⟩, ⟨"dst", ""⟩, ⟨"size", "2"⟩, ⟨"dst", "/c"⟩]⟩
    e.SameNames f ∧ s.FirstMissing e "src" ∧ s.FirstUnknown e "size" ∧
      s.check f = .error (.missingParameter "rsync" "src") := by
  intro s e f
  have same : e.SameNames f := by
    refine ⟨rfl, fun name => ?_⟩
    simp only [e, f, Entry.names, List.map_cons, List.map_nil, List.mem_cons, List.not_mem_nil]
    tauto
  have missing : s.FirstMissing e "src" := ⟨["dst"], ["cmp"], rfl, by decide, by decide⟩
  have unknown : s.FirstUnknown e "size" :=
    ⟨[], ["dst", "flag"], rfl, by simp [Knows, s], List.forall_mem_nil _⟩
  obtain ⟨-, lacks, -, kept⟩ := check_verdict s e
  exact ⟨same, missing, unknown,
    ((kept f same).2 "rsync" "src").mp ((lacks "rsync" "src").mpr ⟨rfl, missing⟩)⟩

end Schema

end Shortcuts
