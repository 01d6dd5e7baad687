import Shortcuts.Proofs.Configuration.FirstFailure

/-!
# The order of parameters

A kind reads the first value of some names and all values of others that are not empty, and it sees
an entry through these alone (`Kind.plan_congr`). So parameters of different names may stand in any
order, and what is given in excess of a name's values changes nothing (`Kind.build_same_values`).
Only which unexpected parameter is the first one depends on the order.
-/

namespace Shortcuts

/-! ## What an entry gives -/

namespace Entry

variable {e f : Entry} {p : Parameter} {name : String}

theorem hasParameter_iff : e.hasParameter name = true ↔ e.given name ≠ [] := by
  simp [hasParameter, names, given, List.filter_eq_nil_iff]

theorem mem_names_iff : name ∈ e.names ↔ e.given name ≠ [] := by
  rw [← hasParameter_iff, hasParameter, List.contains_iff_mem]

/-- Only the names that stand in an entry can tell it from another one. -/
theorem same_given_iff :
    (∀ name, e.given name = f.given name) ↔
      ∀ name ∈ e.names ++ f.names, e.given name = f.given name := by
  refine ⟨fun same name _ => same name, fun same name => ?_⟩
  by_cases mem : name ∈ e.names ++ f.names
  · exact same name mem
  · rw [List.mem_append, not_or, mem_names_iff, mem_names_iff, not_not, not_not] at mem
    rw [mem.1, mem.2]

theorem given_add (e : Entry) (p : Parameter) (name : String) :
    (e.add p).given name = e.given name ++ if p.name = name then [p.value] else [] := by
  rw [given, add, List.filter_append, List.map_append, ← given]
  by_cases same : p.name = name <;> simp [same]

/-- A value after the first is not the first one. -/
theorem value_add (given : e.hasParameter p.name = true) (name : String) :
    (e.add p).value name = e.value name := by
  rw [value, given_add, value]
  by_cases same : p.name = name
  · obtain ⟨v, vs, shape⟩ := List.exists_cons_of_ne_nil (hasParameter_iff.mp given)
    rw [if_pos same, ← same, shape]
    rfl
  · rw [if_neg same, List.append_nil]

theorem values_add (inert : p.name = name → p.value = "") :
    (e.add p).values name = e.values name := by
  rw [values, given_add, List.filter_append, values]
  by_cases same : p.name = name
  · simp [same, inert same]
  · simp [same]

theorem hasParameter_add (given : e.hasParameter p.name = true) (name : String) :
    (e.add p).hasParameter name = e.hasParameter name := by
  rw [Bool.eq_iff_iff, hasParameter_iff, hasParameter_iff, given_add]
  by_cases same : p.name = name
  · simp [← same, hasParameter_iff.mp given]
  · simp [same]

end Entry

/-! ## What a schema sees -/

namespace Schema

variable {s : Schema} {e f : Entry}

/-- The first name of the entry that the schema does not allow. -/
def FirstUnexpected (s : Schema) (e : Entry) (name : String) : Prop :=
  ∃ before after, e.names = before ++ name :: after ∧ s.allows name = false ∧
    ∀ n ∈ before, s.allows n = true

theorem unexpected?_eq_some_iff {name : String} :
    s.unexpected? e = some name ↔ s.FirstUnexpected e name := by
  simp only [unexpected?, List.find?_eq_some_iff_append, FirstUnexpected, Bool.not_eq_true',
    Bool.not_not]
  constructor
  · rintro ⟨other, before, after, shape, allowed⟩
    exact ⟨before, after, shape, other, allowed⟩
  · rintro ⟨before, after, shape, other, allowed⟩
    exact ⟨other, before, after, shape, allowed⟩

theorem unexpected?_eq_none_iff : s.unexpected? e = none ↔ ∀ n ∈ e.names, s.allows n = true := by
  simp [unexpected?]

theorem missing?_congr (same : ∀ name, e.hasParameter name = f.hasParameter name) :
    s.missing? e = s.missing? f := by
  simp only [missing?, same]

/-- The same names are given, in whatever order. -/
theorem unexpected?_eq_none_congr (same : ∀ name, e.given name = f.given name) :
    s.unexpected? e = none ↔ s.unexpected? f = none := by
  simp only [unexpected?_eq_none_iff, Entry.mem_names_iff, same]

/-- Each entry has an unexpected parameter, or both checks come out the same without one. -/
theorem check_of_same_given (kind : e.kind = f.kind) (same : ∀ name, e.given name = f.given name) :
    (∃ a b, s.check e = .error (.unexpectedParameter e.kind a) ∧ s.FirstUnexpected e a ∧
      s.check f = .error (.unexpectedParameter f.kind b) ∧ s.FirstUnexpected f b) ∨
    (s.check e = s.check f ∧ ∀ kind name, s.check e ≠ .error (.unexpectedParameter kind name)) := by
  have has (name : String) : e.hasParameter name = f.hasParameter name := by
    rw [Bool.eq_iff_iff, Entry.hasParameter_iff, Entry.hasParameter_iff, same]
  have names := unexpected?_eq_none_congr (s := s) same
  rw [check, check, ← missing?_congr has, ← kind]
  cases s.missing? e with
  | some name => exact .inr ⟨rfl, nofun⟩
  | none =>
    cases found : s.unexpected? e with
    | none =>
      rw [names.mp found]
      exact .inr ⟨rfl, nofun⟩
    | some a =>
      cases found' : s.unexpected? f with
      | none => exact absurd (found.symm.trans (names.mpr found')) (Option.some_ne_none a)
      | some b =>
        exact .inl ⟨a, b, rfl, unexpected?_eq_some_iff.mp found, rfl,
          unexpected?_eq_some_iff.mp found'⟩

theorem unexpected?_add {p : Parameter} (given : e.hasParameter p.name = true) :
    s.unexpected? (e.add p) = s.unexpected? e := by
  have mem : p.name ∈ e.names := by simpa [Entry.hasParameter] using given
  have names : (e.add p).names = e.names ++ [p.name] := List.map_append
  rw [unexpected?, names, List.find?_append, ← unexpected?]
  cases found : s.unexpected? e with
  | some name => rfl
  | none => simp [unexpected?_eq_none_iff.mp found p.name mem]

theorem check_add {p : Parameter} (given : e.hasParameter p.name = true) :
    s.check (e.add p) = s.check e := by
  rw [check, missing?_congr (Entry.hasParameter_add given), unexpected?_add given]
  rfl

end Schema

/-! ## What a kind reads -/

namespace Kind

/-- The names of which a kind reads the first value. -/
def single (k : Kind) : List String :=
  match k.name with
  | "unison" => ["profile"]
  | "prog" => ["exe"]
  | "rsync" => ["host", "dst", "srcPrefix"]
  | _ => []

/-- The names of which a kind reads all values that are not empty. -/
def repeatable (k : Kind) : List String :=
  match k.name with
  | "prog" => ["arg"]
  | "rsync" => ["cmp", "src", "flag", "exclude"]
  | _ => []

/-- The entries are the same to the kind. -/
structure Agrees (k : Kind) (e f : Entry) : Prop where
  single : ∀ name ∈ k.single, e.value name = f.value name
  repeatable : ∀ name ∈ k.repeatable, e.values name = f.values name

variable {k : Kind} {e f : Entry}

theorem not_mem_repeatable (known : k ∈ all) {name : String} (single : name ∈ k.single) :
    name ∉ k.repeatable := by
  simp only [all, List.mem_cons, List.not_mem_nil, or_false] at known
  obtain rfl | rfl | rfl := known <;> revert name <;> decide

theorem ofEntry_congr (agree : transfer.Agrees e f) : Transfer.ofEntry e = Transfer.ofEntry f := by
  obtain ⟨single, repeatable⟩ := agree
  rw [Transfer.ofEntry, Transfer.ofEntry, single "host" (by decide), single "srcPrefix" (by decide),
    single "dst" (by decide), repeatable "cmp" (by decide), repeatable "src" (by decide),
    repeatable "flag" (by decide), repeatable "exclude" (by decide)]

theorem plan_congr (known : k ∈ all) (agree : k.Agrees e f) (h : Host) :
    k.plan h e = k.plan h f := by
  simp only [all, List.mem_cons, List.not_mem_nil, or_false] at known
  obtain rfl | rfl | rfl := known
  · simp only [unison, agree.single "profile" (by decide)]
  · simp only [program, agree.single "exe" (by decide), agree.repeatable "arg" (by decide)]
  · simp only [transfer, ofEntry_congr agree]

theorem build_congr (known : k ∈ all) (agree : k.Agrees e f) (key : e.key = f.key)
    (check : k.schema.check e = k.schema.check f) (h : Host) : k.build h e = k.build h f := by
  simp only [build, check, assemble, plan_congr known agree h, key]

/-- Two entries come out alike: each has an unexpected parameter and names its own first one, or
both have the same result for another reason. -/
inductive Alike (s : Schema) (e f : Entry) :
    Except LoadError Configuration → Except LoadError Configuration → Prop
  | unexpected (a b : String) (first : s.FirstUnexpected e a) (other : s.FirstUnexpected f b) :
      Alike s e f (.error (.schema (.unexpectedParameter e.kind a)))
        (.error (.schema (.unexpectedParameter f.kind b)))
  | same (r : Except LoadError Configuration)
      (expected : ∀ kind name, r ≠ .error (.schema (.unexpectedParameter kind name))) :
      Alike s e f r r

theorem build_ne_schema {err : SchemaError} (fits : k.schema.check e = .ok ()) (h : Host) :
    (k.build h e).result ≠ .error (.schema err) := by
  cases planned : (k.plan h e).result with
  | error e =>
    rw [build_of_refused fits planned]
    nofun
  | ok i =>
    rw [build_of_assembled fits planned]
    nofun

theorem build_of_same_given (known : k ∈ all) (kind : e.kind = f.kind) (key : e.key = f.key)
    (same : ∀ name, e.given name = f.given name) (h : Host) :
    (k.build h e).acts = (k.build h f).acts ∧
      Alike k.schema e f (k.build h e).result (k.build h f).result := by
  obtain ⟨a, b, misfit, first, misfit', other⟩ | ⟨check, expected⟩ :=
    Schema.check_of_same_given (s := k.schema) kind same
  · rw [build_of_misfit misfit, build_of_misfit misfit']
    exact ⟨rfl, .unexpected a b first other⟩
  · -- Past the schema nothing but values is read, so the order is gone.
    have agree : k.Agrees e f := by
      constructor
      · intro name _
        rw [Entry.value, Entry.value, same]
      · intro name _
        rw [Entry.values, Entry.values, same]
    rw [← build_congr known agree key check]
    refine ⟨rfl, .same _ fun kind name => ?_⟩
    cases found : k.schema.check e with
    | ok => exact build_ne_schema found h
    | error err =>
      rw [build_of_misfit found]
      rintro ⟨⟩
      exact expected kind name found

theorem build_add (known : k ∈ all) {p : Parameter} (given : e.hasParameter p.name = true)
    (inert : p.name ∈ k.single ∨ p.name ∈ k.repeatable ∧ p.value = "") (h : Host) :
    k.build h (e.add p) = k.build h e := by
  have agree : k.Agrees (e.add p) e := by
    constructor
    · exact fun name _ => Entry.value_add given name
    · intro name mem
      apply Entry.values_add
      rintro rfl
      obtain single | ⟨-, empty⟩ := inert
      · exact absurd mem (not_mem_repeatable known single)
      · exact empty
  exact build_congr known agree rfl (Schema.check_add given) h

/-- Two entries with the same values under every name, in the same order, ask the host the same and
come out alike. A further value of a name that has one already is inert if the kind reads the first
value alone, or if it is empty and the kind reads all of them. -/
theorem build_same_values (known : k ∈ all) (h : Host) (e : Entry) :
    (∀ f : Entry, e.kind = f.kind → e.key = f.key → (∀ name, e.given name = f.given name) →
      (k.build h e).acts = (k.build h f).acts ∧
        Alike k.schema e f (k.build h e).result (k.build h f).result) ∧
    ∀ p : Parameter, e.hasParameter p.name = true →
      p.name ∈ k.single ∨ p.name ∈ k.repeatable ∧ p.value = "" →
      k.build h (e.add p) = k.build h e :=
  ⟨fun _ kind key same => build_of_same_given known kind key same h,
    fun _ given inert => build_add known given inert h⟩

/-- Names of one transfer may mix, and a second host or an empty flag is not seen. -/
theorem build_same_values_of_mixed_transfer :
    let h : Host := { hostname := .ok "box", mounted := fun _ => .ok true }
    let e : Entry := ⟨"rsync", "home", [⟨"src", "/a"⟩, ⟨"host", "box"⟩, ⟨"flag", "-a"⟩,
      ⟨"src", "/b"⟩, ⟨"cmp", "/mnt"⟩, ⟨"dst", "/mnt/home"⟩]⟩
    let f : Entry := ⟨"rsync", "home", [⟨"cmp", "/mnt"⟩, ⟨"dst", "/mnt/home"⟩, ⟨"flag", "-a"⟩,
      ⟨"src", "/a"⟩, ⟨"src", "/b"⟩, ⟨"host", "box"⟩]⟩
    let other : Parameter := ⟨"host", "nas"⟩
    let empty : Parameter := ⟨"flag", ""⟩
    transfer ∈ all ∧ (∀ name, e.given name = f.given name) ∧
      Alike transfer.schema e f (transfer.build h e).result (transfer.build h f).result ∧
      transfer.build h (e.add other) = transfer.build h e ∧
      transfer.build h (e.add empty) = transfer.build h e := by
  intro h e f other empty
  have known : transfer ∈ all := by simp [all]
  have same : ∀ name, e.given name = f.given name := Entry.same_given_iff.mpr (by decide)
  obtain ⟨alike, inert⟩ := build_same_values known h e
  exact ⟨known, same, (alike f rfl rfl same).2, inert other (by decide) (.inl (by decide)),
    inert empty (by decide) (.inr (by decide))⟩

end Kind

end Shortcuts
