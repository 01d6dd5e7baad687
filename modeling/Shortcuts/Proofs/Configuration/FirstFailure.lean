import Mathlib.Data.List.Forall2
import Shortcuts.Configuration.Loading
import Shortcuts.Proofs.Traced

/-!
# Loading ends at the first failure

An entry is built or fails for one reason. A file loads when all its entries are built; else its
error is that of the first entry that fails, and no entry after it asks the host anything
(`configurations_first_failure`).
-/

namespace Shortcuts

namespace Kind

theorem find?_eq_some_iff {name : String} {k : Kind} :
    find? name = some k ↔ k ∈ all ∧ k.name = name := by
  constructor
  · intro found
    exact ⟨List.mem_of_find?_eq_some found, by simpa using List.find?_some found⟩
  · rintro ⟨known, rfl⟩
    simp only [all, List.mem_cons, List.not_mem_nil, or_false] at known
    obtain rfl | rfl | rfl := known <;> rfl

theorem find?_eq_none_iff {name : String} : find? name = none ↔ ∀ k ∈ all, k.name ≠ name := by
  simp [find?]

theorem build_of_misfit {k : Kind} {h : Host} {e : Entry} {err : SchemaError}
    (misfit : k.schema.check e = .error err) : k.build h e = .fail (.schema err) := by
  rw [build, misfit]

theorem build_of_refused {k : Kind} {h : Host} {e : Entry} {err : PreconditionError}
    (fits : k.schema.check e = .ok ()) (refused : (k.plan h e).result = .error err) :
    k.build h e = ⟨(k.plan h e).acts, .error (.precondition e.key err)⟩ := by
  have assembled : (k.assemble h e).result = .error (.precondition e.key err) := by
    rw [assemble, Traced.mapError, refused]
    rfl
  simp only [build, fits]
  rw [Traced.bind_of_error assembled]
  rfl

theorem build_of_assembled {k : Kind} {h : Host} {e : Entry} {i : Invocation}
    (fits : k.schema.check e = .ok ()) (planned : (k.plan h e).result = .ok i) :
    k.build h e = ⟨(k.plan h e).acts, .ok { key := e.key, kind := k.name, invocation := i }⟩ := by
  have assembled : (k.assemble h e).result = .ok i := by
    rw [assemble, Traced.mapError, planned]
    rfl
  simp only [build, fits]
  rw [Traced.bind_of_ok assembled]
  simp [assemble, Traced.mapError, Traced.pure_eq, Traced.ok]

end Kind

namespace Entry

/-- The entry has a registered kind, fits its schema and is assembled as this configuration. -/
inductive Builds (h : Host) (e : Entry) : Configuration → Prop
  | intro (k : Kind) (i : Invocation) (known : k ∈ Kind.all) (named : k.name = e.kind)
      (fits : k.schema.check e = .ok ()) (planned : (k.plan h e).result = .ok i) :
      Builds h e { key := e.key, kind := e.kind, invocation := i }

/-- The first of three reasons why the entry cannot be built. -/
inductive Fails (h : Host) (e : Entry) : LoadError → Prop
  | unknownKind (unknown : ∀ k ∈ Kind.all, k.name ≠ e.kind) : Fails h e (.unknownKind e.kind)
  | schema (k : Kind) (err : SchemaError) (known : k ∈ Kind.all) (named : k.name = e.kind)
      (misfit : k.schema.check e = .error err) : Fails h e (.schema err)
  | precondition (k : Kind) (err : PreconditionError) (known : k ∈ Kind.all)
      (named : k.name = e.kind) (fits : k.schema.check e = .ok ())
      (refused : (k.plan h e).result = .error err) : Fails h e (.precondition e.key err)

/-- Only a transfer that fits its schema asks the host. -/
def questions (h : Host) (e : Entry) : List Query :=
  if e.kind = Kind.transfer.name then
    match Kind.transfer.schema.check e with
    | .ok () => (Kind.transfer.plan h e).acts.queries
    | .error _ => []
  else []

theorem questions_of_unknown {h : Host} {e : Entry} (unknown : ∀ k ∈ Kind.all, k.name ≠ e.kind) :
    e.questions h = [] :=
  if_neg fun named => unknown Kind.transfer (by simp [Kind.all]) named.symm

/-- The kinds that run a program ask nothing, so this needs no case for them. -/
theorem questions_of_known {h : Host} {e : Entry} {k : Kind} (known : k ∈ Kind.all)
    (named : k.name = e.kind) :
    e.questions h =
      match k.schema.check e with
      | .ok () => (k.plan h e).acts.queries
      | .error _ => [] := by
  have other {l : Kind} (apart : l.name ≠ Kind.transfer.name) (named : l.name = e.kind) :
      e.questions h = [] := if_neg (named ▸ apart)
  simp only [Kind.all, List.mem_cons, List.not_mem_nil, or_false] at known
  obtain rfl | rfl | rfl := known
  · rw [other (by decide) named]
    split <;> rfl
  · rw [other (by decide) named]
    split <;> rfl
  · rw [questions, if_pos named.symm]

theorem questions_of_misfit {h : Host} {e : Entry} {k : Kind} {err : SchemaError}
    (known : k ∈ Kind.all) (named : k.name = e.kind) (misfit : k.schema.check e = .error err) :
    e.questions h = [] := by
  rw [questions_of_known known named, misfit]

theorem questions_of_fits {h : Host} {e : Entry} {k : Kind} (known : k ∈ Kind.all)
    (named : k.name = e.kind) (fits : k.schema.check e = .ok ()) :
    e.questions h = (k.plan h e).acts.queries := by
  rw [questions_of_known known named, fits]

theorem build_of_builds {h : Host} {e : Entry} {c : Configuration} (hb : e.Builds h c) :
    (e.build h).result = .ok c ∧ (e.build h).acts.queries = e.questions h := by
  obtain ⟨k, i, known, named, fits, planned⟩ := hb
  have found := Kind.find?_eq_some_iff.mpr ⟨known, named⟩
  have built := Kind.build_of_assembled fits planned
  simp only [build, found, questions_of_fits known named fits]
  rw [Traced.bind_of_ok (congrArg Traced.result built), built, Traced.act_bind, ← named]
  exact ⟨rfl, by simp [Traced.pure_eq, Traced.ok, Trace.queries, Act.query?]⟩

theorem build_of_fails {h : Host} {e : Entry} {err : LoadError} (hf : e.Fails h err) :
    (e.build h).result = .error err ∧ (e.build h).acts.queries = e.questions h := by
  cases hf with
  | unknownKind unknown =>
    rw [questions_of_unknown unknown, build, Kind.find?_eq_none_iff.mpr unknown]
    exact ⟨rfl, rfl⟩
  | schema k err known named misfit =>
    have found := Kind.find?_eq_some_iff.mpr ⟨known, named⟩
    have failed := Kind.build_of_misfit (h := h) misfit
    simp only [build, found, questions_of_misfit known named misfit]
    rw [Traced.bind_of_error (congrArg Traced.result failed), failed]
    exact ⟨rfl, rfl⟩
  | precondition k err known named fits refused =>
    have found := Kind.find?_eq_some_iff.mpr ⟨known, named⟩
    have failed := Kind.build_of_refused fits refused
    simp only [build, found, questions_of_fits known named fits]
    rw [Traced.bind_of_error (congrArg Traced.result failed), failed]
    exact ⟨rfl, rfl⟩

theorem builds_or_fails (h : Host) (e : Entry) :
    (∃ c, e.Builds h c) ∨ ∃ err, e.Fails h err := by
  cases found : Kind.find? e.kind with
  | none => exact .inr ⟨_, .unknownKind (Kind.find?_eq_none_iff.mp found)⟩
  | some k =>
    obtain ⟨known, named⟩ := Kind.find?_eq_some_iff.mp found
    cases fits : k.schema.check e with
    | error err => exact .inr ⟨_, .schema k err known named fits⟩
    | ok _ =>
      cases planned : (k.plan h e).result with
      | error err => exact .inr ⟨_, .precondition k err known named fits planned⟩
      | ok i => exact .inl ⟨_, .intro k i known named fits planned⟩

theorem builds_iff {h : Host} {e : Entry} {c : Configuration} :
    e.Builds h c ↔ (e.build h).result = .ok c := by
  constructor
  · exact fun hb => (build_of_builds hb).1
  · intro built
    obtain ⟨d, hd⟩ | ⟨err, hf⟩ := builds_or_fails h e
    · rw [(build_of_builds hd).1, Except.ok.injEq] at built
      exact built ▸ hd
    · rw [(build_of_fails hf).1] at built
      cases built

end Entry

/-- A built entry goes in front of what is loaded after it. -/
theorem buildAll_cons {h : Host} {e : Entry} {c : Configuration} (built : e.Builds h c)
    (rest : List Entry) :
    (buildAll h (e :: rest)).result = (buildAll h rest).result.map (c :: ·) ∧
    (buildAll h (e :: rest)).acts.queries = e.questions h ++ (buildAll h rest).acts.queries := by
  obtain ⟨result, queries⟩ := Entry.build_of_builds built
  rw [buildAll, Traced.bind_of_ok result]
  cases others : (buildAll h rest).result with
  | error err =>
    rw [Traced.bind_of_error others]
    exact ⟨rfl, by rw [Trace.queries_append, queries]⟩
  | ok cs =>
    rw [Traced.bind_of_ok others]
    exact ⟨rfl, by simp [queries, Traced.pure_eq, Traced.ok]⟩

theorem buildAll_of_fails {h : Host} {before after : List Entry} {e : Entry} {err : LoadError}
    (earlier : ∀ b ∈ before, ∃ c, b.Builds h c) (failed : e.Fails h err) :
    (buildAll h (before ++ e :: after)).result = .error err ∧
    (buildAll h (before ++ e :: after)).acts.queries =
      (before ++ [e]).flatMap (Entry.questions h) := by
  induction before with
  | nil =>
    obtain ⟨result, queries⟩ := Entry.build_of_fails failed
    rw [List.nil_append, buildAll, Traced.bind_of_error result]
    exact ⟨rfl, by simp [queries]⟩
  | cons b before ih =>
    obtain ⟨c, built⟩ := earlier b List.mem_cons_self
    obtain ⟨result, queries⟩ := ih fun d hd => earlier d (List.mem_cons_of_mem _ hd)
    obtain ⟨first, asked⟩ := buildAll_cons built (before ++ e :: after)
    rw [List.cons_append, first, asked, result, queries]
    exact ⟨rfl, rfl⟩

theorem buildAll_of_builds {h : Host} {entries : List Entry} {cs : List Configuration}
    (built : List.Forall₂ (Entry.Builds h) entries cs) :
    (buildAll h entries).result = .ok cs ∧
    (buildAll h entries).acts.queries = entries.flatMap (Entry.questions h) := by
  induction built with
  | nil => exact ⟨rfl, rfl⟩
  | @cons e c entries cs first _ ih =>
    obtain ⟨result, asked⟩ := buildAll_cons first entries
    rw [result, asked, ih.1, ih.2]
    exact ⟨rfl, rfl⟩

/-- Either every entry is built, or there is a first one that fails. -/
theorem builds_or_first_fails (h : Host) (entries : List Entry) :
    (∃ cs, List.Forall₂ (Entry.Builds h) entries cs) ∨
    ∃ before e after err, entries = before ++ e :: after ∧
      (∀ b ∈ before, ∃ c, b.Builds h c) ∧ e.Fails h err := by
  induction entries with
  | nil => exact .inl ⟨[], .nil⟩
  | cons e entries ih =>
    obtain ⟨c, built⟩ | ⟨err, failed⟩ := e.builds_or_fails h
    · obtain ⟨cs, others⟩ | ⟨before, f, after, err, rfl, earlier, failed⟩ := ih
      · exact .inl ⟨c :: cs, .cons built others⟩
      · refine .inr ⟨e :: before, f, after, err, rfl, ?_, failed⟩
        exact List.forall_mem_cons.mpr ⟨⟨c, built⟩, earlier⟩
    · exact .inr ⟨[], e, entries, err, rfl, by simp, failed⟩

theorem buildAll_eq_ok_iff {h : Host} {entries : List Entry} {cs : List Configuration} :
    (buildAll h entries).result = .ok cs ↔ List.Forall₂ (Entry.Builds h) entries cs := by
  constructor
  · intro loaded
    obtain ⟨ds, built⟩ | ⟨before, e, after, err, rfl, earlier, failed⟩ :=
      builds_or_first_fails h entries
    · rw [(buildAll_of_builds built).1, Except.ok.injEq] at loaded
      exact loaded ▸ built
    · rw [(buildAll_of_fails earlier failed).1] at loaded
      cases loaded
  · exact fun built => (buildAll_of_builds built).1

/-- Every configuration is built from some entry. -/
theorem exists_builds_of_mem {h : Host} {entries : List Entry} {configs : List Configuration}
    (built : List.Forall₂ (Entry.Builds h) entries configs) {c : Configuration}
    (hc : c ∈ configs) : ∃ e ∈ entries, e.Builds h c := by
  induction built with
  | nil => cases hc
  | @cons e d entries configs first _ ih =>
    rcases List.mem_cons.mp hc with rfl | later
    · exact ⟨e, List.mem_cons_self, first⟩
    · obtain ⟨f, hf, other⟩ := ih later
      exact ⟨f, List.mem_cons_of_mem _ hf, other⟩

theorem configurations_of_parse_error {h : Host} {text : String} {e : ParseError}
    (unread : parse text = .error e) : configurations h text = .fail (.parse e) := by
  rw [configurations, unread]

theorem configurations_of_parse {h : Host} {text : String} {entries : List Entry}
    (read : parse text = .ok entries) :
    (configurations h text).result = (buildAll h entries).result ∧
    (configurations h text).acts.queries = (buildAll h entries).acts.queries := by
  rw [configurations, read]
  exact ⟨rfl, rfl⟩

/-- A text loads as what its entries are built as. -/
theorem configurations_eq_ok_iff {h : Host} {text : String} {cs : List Configuration} :
    (configurations h text).result = .ok cs ↔
      ∃ entries, parse text = .ok entries ∧ List.Forall₂ (Entry.Builds h) entries cs := by
  cases read : parse text with
  | error e => simp [configurations_of_parse_error read, Traced.fail]
  | ok entries => simp [(configurations_of_parse read).1, buildAll_eq_ok_iff]

/-- A text that cannot be read as a whole asks the host nothing. Otherwise its entries are built in
order: all of them, or up to the first that fails, whose error is the result and whose questions are
the last. -/
theorem configurations_first_failure (h : Host) (text : String) :
    match parse text with
    | .error e =>
      (configurations h text).result = .error (.parse e) ∧
      (configurations h text).acts.queries = []
    | .ok entries =>
      (∀ cs, (configurations h text).result = .ok cs ↔
        List.Forall₂ (Entry.Builds h) entries cs) ∧
      ((∃ cs, (configurations h text).result = .ok cs ∧
          (configurations h text).acts.queries = entries.flatMap (Entry.questions h)) ∨
        ∃ before e after err, entries = before ++ e :: after ∧
          (∀ b ∈ before, ∃ c, b.Builds h c) ∧ e.Fails h err ∧
          (configurations h text).result = .error err ∧
          (configurations h text).acts.queries =
            (before ++ [e]).flatMap (Entry.questions h)) := by
  cases read : parse text with
  | error e =>
    rw [configurations_of_parse_error read]
    exact ⟨rfl, rfl⟩
  | ok entries =>
    obtain ⟨result, queries⟩ := configurations_of_parse (h := h) read
    simp only [result, queries]
    refine ⟨fun cs => buildAll_eq_ok_iff, ?_⟩
    obtain ⟨cs, built⟩ | ⟨before, e, after, err, rfl, earlier, failed⟩ :=
      builds_or_first_fails h entries
    · exact .inl ⟨cs, buildAll_of_builds built⟩
    · exact .inr ⟨before, e, after, err, rfl, earlier, failed, buildAll_of_fails earlier failed⟩

end Shortcuts
