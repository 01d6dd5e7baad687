import Shortcuts.Proofs.Configuration.Acts
import Shortcuts.Proofs.Configuration.Duplicates
import Shortcuts.Proofs.Configuration.FirstFailure
import Shortcuts.Proofs.Selection.FirstFit
import Shortcuts.Proofs.Session.Chronicle

/-!
# The events of a session

`Emits` lists the events that a session may emit, each with the configuration of the file or the
part of the summary that it is about. A session emits no other, and the records that it adds to its
journal are of runs of such configurations (`run_accounted`). So what holds of every event in the
list holds of every event of every session.
-/

namespace Shortcuts

/-- Some run of the configuration may fail with this error. -/
inductive RunError.Arises (x : Executor) (c : Configuration) : RunError → Prop
  | notFound : Arises x c (.programNotFound c.invocation.program)
  | failed (code : Int) : Arises x c (.failed c.key code)
  | notStarted (past : Trace) (failure : Failure)
      (answer : (x.start past c.invocation.program c.invocation.args).result = .error failure) :
      Arises x c (.notStarted failure)

/-- A record of some run of the configuration. -/
structure Record.Reports (x : Executor) (c : Configuration) (r : Record) : Prop where
  key : r.key = c.key
  message : ∀ m, r.message = some m → ∃ e, RunError.Arises x c e ∧ m = e.toFailure.full

namespace Session

/-- The configuration is built from an entry of the file. -/
inductive Given (h : Host) (content : Except String String) (c : Configuration) : Prop
  | intro (text : String) (entries : List Entry) (e : Entry) (held : content = .ok text)
      (read : parse text = .ok entries) (mem : e ∈ entries) (built : e.Builds h c)

/-- The events of a session with these configurations and with this journal at its end. -/
inductive Emits (given : Configuration → Prop) (x : Executor) (path : String) (j : Journal) :
    Event → Prop
  | greeting : Emits given x path j (.debug ("quicklinks " ++ version))
  | parsed (n : Nat) : Emits given x path j (.debug ("parsed " ++ toString n ++ " entries"))
  | built (c : Configuration) (hc : given c) : Emits given x path j c.built
  | loaded (n : Nat) :
      Emits given x path j (.debug ("loaded " ++ toString n ++ " entries from " ++ path))
  | duplicate (c : Configuration) (hc : given c) :
      Emits given x path j (.warn ("key '" ++ c.key ++
        "' is used more than once; the later entries are only reachable by number"))
  | nothing : Emits given x path j (.warn "nothing chosen")
  | notice (c : Configuration) (hc : given c) (dryRun : Bool) :
      Emits given x path j (c.notice dryRun)
  | failure (c : Configuration) (hc : given c) (e : RunError) (arises : e.Arises x c) :
      Emits given x path j (.error e.toFailure.full)
  | summary (e : Event) (mem : .event e ∈ j.summary) : Emits given x path j e

end Session

/-- The act is no event, or one with this property. -/
def Act.Within (P : Event → Prop) (a : Act) : Prop := ∀ e, a = .event e → P e

theorem Act.within_event {P : Event → Prop} {e : Event} (h : P e) : (Act.event e).Within P := by
  rintro _ ⟨⟩
  exact h

theorem Act.within_of_silent {P : Event → Prop} {a : Act} (silent : a.event? = none) :
    a.Within P := by
  rintro e rfl
  cases silent

theorem Act.Asks.within {a : Act} (asks : a.Asks) (P : Event → Prop) : a.Within P := by
  obtain ⟨q, rfl⟩ := asks
  exact within_of_silent rfl

/-- The summary tells of the records, then of their numbers, then of the log file. -/
theorem Journal.cases_of_mem_summary {j : Journal} {e : Event} (mem : .event e ∈ j.summary) :
    e = .stage "Summary" ∨
    (∃ r ∈ j.records, e = .outcome r.key r.status.label (r.message.getD "")) ∨
    e = .totals (j.count .ok) (j.count .dryRun) (j.count .failed) ∨
    ∃ path, j.location = some path ∧ e = .info ("log: " ++ path) := by
  unfold summary at mem
  split at mem
  · cases mem
  · simp only [List.mem_append, List.mem_cons, List.not_mem_nil, or_false, List.mem_map,
      reduceCtorEq, Act.event.injEq, false_or] at mem
    obtain ((title | ⟨r, hr, shown⟩) | shown) | noted := mem
    · exact .inl title
    · exact .inr (.inl ⟨r, hr, (Act.event.inj shown).symm⟩)
    · exact .inr (.inr (.inl (Act.event.inj shown)))
    · obtain ⟨path, named, shown⟩ := mem_locationNote.mp noted
      exact .inr (.inr (.inr ⟨path, named, Act.event.inj shown⟩))

/-! ## Loading -/

section Loading

variable {P : Event → Prop} {h : Host}

theorem Entry.build_within {e : Entry} (hP : ∀ c, e.Builds h c → P c.built) :
    (e.build h).Every (Act.Within P) := by
  unfold build
  split
  · exact Traced.every_fail _ _
  · rename_i k found
    have asks := Kind.build_asks (List.mem_of_find?_eq_some found) h e
    apply Traced.Every.bind_of_ok fun a ha => (asks a ha).within P
    intro c built
    have builds : e.Builds h c := by
      rw [Entry.builds_iff, Entry.build, found]
      simp only [Traced.bind_of_ok built]
      rfl
    apply (Traced.every_act (Act.within_event (hP c builds))).bind
    intro _
    exact Traced.every_ok _ _

theorem buildAll_within {entries : List Entry} (hP : ∀ e ∈ entries, ∀ c, e.Builds h c → P c.built) :
    (buildAll h entries).Every (Act.Within P) := by
  induction entries with
  | nil => exact Traced.every_ok _ _
  | cons e entries ih =>
    apply (Entry.build_within (hP e List.mem_cons_self)).bind
    intro c
    apply (ih fun f hf => hP f (List.mem_cons_of_mem _ hf)).bind
    intro cs
    exact Traced.every_ok _ _

end Loading

namespace Session

variable {h : Host} {x : Executor} {path : String} {content : Except String String} {j : Journal}
  {configs : List Configuration}

theorem load_emits (h : Host) (x : Executor) (path : String) (content : Except String String)
    (j : Journal) :
    (load h path content).Every (Act.Within (Emits (Given h content) x path j)) := by
  cases held : content with
  | error reason => exact Traced.every_fail _ _
  | ok text =>
    rw [load, configurations]
    split
    · exact Traced.every_fail _ _
    · rename_i entries read
      apply (Traced.every_act (Act.within_event (Emits.parsed entries.length))).bind
      intro _
      apply buildAll_within
      intro e he c built
      exact .built c ⟨text, entries, e, rfl, read, he, built⟩

theorem given_of_loaded (loaded : (load h path content).result = .ok configs) :
    ∀ c ∈ configs, Given h content c := by
  intro c hc
  cases content with
  | error reason => cases loaded
  | ok text =>
    obtain ⟨entries, read, built⟩ := configurations_eq_ok_iff.mp loaded
    obtain ⟨e, he, builds⟩ := exists_builds_of_mem built hc
    exact ⟨text, entries, e, rfl, read, he, builds⟩

theorem opening_emits (h : Host) (x : Executor) (path : String) (content : Except String String)
    (j : Journal) :
    (opening h path content).Every (Act.Within (Emits (Given h content) x path j)) := by
  apply (Traced.every_act (Act.within_event Emits.greeting)).bind
  intro _
  apply ((load_emits h x path content j).mapError _).bind_of_ok
  intro configs loaded
  have given := given_of_loaded (Traced.mapError_eq_ok_iff.mp loaded)
  apply (Traced.every_act (Act.within_event (Emits.loaded configs.length))).bind
  intro _ a ha
  obtain ⟨key, repeated, rfl⟩ := List.mem_map.mp ha
  have several := mem_duplicateKeys_iff.mp repeated
  have mem : key ∈ configs.map Configuration.key := List.count_pos_iff.mp (by omega)
  obtain ⟨c, hc, rfl⟩ := List.mem_map.mp mem
  exact Act.within_event (.duplicate c (given c hc))

theorem preface_emits (h : Host) (x : Executor) (path : String) (content : Except String String)
    (j : Journal) (choices : List String) (input : Input) (configs : List Configuration) :
    ∀ a ∈ preface h path content choices input configs,
      a.Within (Emits (Given h content) x path j) := by
  have opened := opening_emits h x path content j
  unfold preface
  split
  · intro a ha
    simp only [List.mem_append, List.mem_singleton, listing, List.mem_map] at ha
    obtain ((mem | ⟨line, -, rfl⟩) | rfl) | rfl := ha
    · exact opened a mem
    · exact Act.within_of_silent rfl
    · exact Act.within_of_silent rfl
    · exact Act.within_of_silent rfl
  · exact opened

end Session

/-! ## Runs -/

namespace Configuration

variable {x : Executor} {dryRun : Bool} {past acts : Trace} {c : Configuration} {fate : Fate}

theorem Meets.within (meets : c.Meets x dryRun past acts fate) {P : Event → Prop}
    (notice : P (c.notice dryRun)) : ∀ a ∈ acts, a.Within P := by
  have calls (cs : List Call) : ∀ a ∈ cs.map Act.call, a.Within P := by
    intro a ha
    obtain ⟨call, -, rfl⟩ := List.mem_map.mp ha
    exact Act.within_of_silent rfl
  cases meets with
  | previewed dry =>
    subst dry
    exact List.forall_mem_singleton.mpr (Act.within_event notice)
  | notFound real =>
    subst real
    exact List.forall_mem_cons.mpr ⟨Act.within_event notice, calls _⟩
  | started real reply =>
    subst real
    apply List.forall_mem_cons.mpr ⟨Act.within_event notice, ?_⟩
    apply List.forall_mem_append.mpr ⟨calls _, ?_⟩
    intro a ha
    obtain ⟨w, -, rfl⟩ := List.mem_map.mp ha
    exact Act.within_of_silent rfl

theorem Meets.arises (meets : c.Meets x dryRun past acts fate) {e : RunError}
    (failed : fate.error? c = some e) : e.Arises x c := by
  cases meets with
  | previewed => cases failed
  | notFound =>
    obtain rfl := Option.some.inj failed
    exact .notFound
  | started _ reply _ answer =>
    unfold Fate.ofReply at failed
    split at failed
    · rename_i failure unstarted
      obtain rfl := Option.some.inj failed
      exact .notStarted _ failure (by rw [answer, unstarted])
    · rename_i completion ended
      simp only [Fate.error?] at failed
      split at failed
      · cases failed
      · obtain rfl := Option.some.inj failed
        exact .failed _

end Configuration

theorem Fate.error?_of_result {c : Configuration} {fate : Fate} {e : RunError}
    (failed : fate.result c = .error e) : fate.error? c = some e := by
  unfold result at failed
  split at failed
  · cases failed
  · rename_i found
    rw [found, Except.error.inj failed]

namespace Session

variable {x : Executor} {dryRun : Bool} {configs : List Configuration}

theorem runOne_arises {past : Trace} {c : Configuration} {e : RunError}
    (failed : (runOne x dryRun past c).result = .error e) : e.Arises x c := by
  obtain ⟨fate, meets, result⟩ := runOne_meets x dryRun past c
  exact meets.arises (Fate.error?_of_result (result ▸ failed))

theorem runOne_within (x : Executor) (past : Trace) {c : Configuration} {P : Event → Prop}
    (notice : P (c.notice dryRun)) : ∀ a ∈ (runOne x dryRun past c).acts, a.Within P := by
  obtain ⟨fate, meets, -⟩ := runOne_meets x dryRun past c
  exact meets.within notice

theorem reports_recordOf {past : Trace} {c : Configuration} :
    (recordOf c.key (runOne x dryRun past c).result).Reports x c := by
  cases result : (runOne x dryRun past c).result with
  | ok status => exact ⟨rfl, nofun⟩
  | error e =>
    refine ⟨rfl, ?_⟩
    rintro _ ⟨⟩
    exact ⟨e, runOne_arises result, rfl⟩

theorem failureNote_within (dryRun : Bool) (past : Trace) {c : Configuration} {P : Event → Prop}
    (failure : ∀ e : RunError, e.Arises x c → P (.error e.toFailure.full)) :
    ∀ a ∈ failureNote (runOne x dryRun past c).result, a.Within P := by
  cases result : (runOne x dryRun past c).result with
  | ok status => exact List.forall_mem_nil _
  | error e =>
    exact List.forall_mem_singleton.mpr (Act.within_event (failure e (runOne_arises result)))

theorem runEach_within (x : Executor) {P : Event → Prop}
    (notice : ∀ c ∈ configs, P (c.notice dryRun))
    (failure : ∀ c ∈ configs, ∀ e : RunError, e.Arises x c → P (.error e.toFailure.full))
    (past : Trace) : ∀ a ∈ (runEach x dryRun past configs).1, a.Within P := by
  induction configs generalizing past with
  | nil => exact List.forall_mem_nil _
  | cons c configs ih =>
    obtain ⟨first, others⟩ := List.forall_mem_cons.mp notice
    obtain ⟨fails, later⟩ := List.forall_mem_cons.mp failure
    have acts := List.forall_mem_append.mpr
      ⟨runOne_within x past first, failureNote_within dryRun past fails⟩
    exact List.forall_mem_append.mpr ⟨acts, ih others later _⟩

theorem runEach_reports (x : Executor) (dryRun : Bool) (past : Trace)
    (configs : List Configuration) :
    ∀ r ∈ (runEach x dryRun past configs).2, ∃ c ∈ configs, r.Reports x c := by
  induction configs generalizing past with
  | nil => exact List.forall_mem_nil _
  | cons c configs ih =>
    intro r hr
    rcases List.mem_cons.mp hr with rfl | later
    · exact ⟨c, List.mem_cons_self, reports_recordOf⟩
    · obtain ⟨d, hd, reports⟩ := ih _ r later
      exact ⟨d, List.mem_cons_of_mem _ hd, reports⟩

/-! ## Sessions -/

/-- The acts and the journal at the end of a session that had the journal `j` at its start. -/
structure Accounted (given : Configuration → Prop) (x : Executor) (path : String) (j : Journal)
    (o : Outcome) : Prop where
  emits : ∀ a ∈ o.acts, a.Within (Emits given x path o.journal)
  location : o.journal.location = j.location
  records : ∀ r ∈ o.journal.records, r ∈ j.records ∨ ∃ c, given c ∧ r.Reports x c

/-- Acts before the end change nothing in the journal. -/
theorem accounted_of_acts {given : Configuration → Prop} {path : String} {j : Journal}
    {acts : Trace} (emits : ∀ a ∈ acts, a.Within (Emits given x path j))
    (result : Except SessionError Unit) : Accounted given x path j ⟨acts, result, j⟩ where
  emits := emits
  location := rfl
  records _ hr := .inl hr

theorem perform_accounted {given : Configuration → Prop} (hc : ∀ c ∈ configs, given c)
    (x : Executor) (dryRun : Bool) (path : String) (j : Journal) (past : Trace) :
    Accounted given x path j (perform x dryRun j past configs) := by
  rcases Nat.lt_or_ge configs.length 2 with few | several
  · match configs, few with
    | [], _ =>
      have empty : Emits given x path j (.warn "nothing chosen") := .nothing
      exact accounted_of_acts (List.forall_mem_singleton.mpr (Act.within_event empty)) _
    | [c], _ =>
      have notice : Emits given x path j (c.notice dryRun) :=
        .notice c (hc c List.mem_cons_self) dryRun
      exact accounted_of_acts (runOne_within x past notice) _
  · have told (j' : Journal) :
        ∀ a ∈ (runEach x dryRun past configs).1, a.Within (Emits given x path j') :=
      runEach_within x (fun c mem => .notice c (hc c mem) dryRun)
        (fun c mem e arises => .failure c (hc c mem) e arises) past
    rw [perform_several x dryRun j past several]
    constructor
    case emits =>
      refine List.forall_mem_append.mpr ⟨told _, ?_⟩
      rintro a mem e rfl
      exact .summary e mem
    case location => rfl
    case records =>
      intro r hr
      rcases List.mem_append.mp hr with kept | added
      · exact .inl kept
      · obtain ⟨c, mem, reports⟩ := runEach_reports x dryRun past configs r added
        exact .inr ⟨c, hc c mem, reports⟩

theorem carryOut_accounted {given : Configuration → Prop} (hc : ∀ c ∈ configs, given c)
    {x : Executor} {path : String} {past : Trace}
    (before : ∀ j, ∀ a ∈ past, a.Within (Emits given x path j)) (dryRun : Bool) (j : Journal)
    (words : Except SelectionError (List String)) :
    Accounted given x path j (carryOut x dryRun j past configs words) := by
  cases chosen : words.bind (select configs) with
  | error e =>
    rw [carryOut_of_refused chosen]
    exact accounted_of_acts (before j) _
  | ok selected =>
    obtain ⟨read, rfl, taken⟩ := words_of_chosen chosen
    rw [carryOut_of_chosen taken]
    have given_selected : ∀ c ∈ selected.map Prod.fst, given c := by
      intro c mem
      obtain ⟨p, hp, rfl⟩ := List.mem_map.mp mem
      exact hc p.1 (mem_of_select taken hp)
    obtain ⟨emits, location, records⟩ := perform_accounted given_selected x dryRun path j past
    exact ⟨List.forall_mem_append.mpr ⟨before _, emits⟩, location, records⟩

theorem run_accounted (h : Host) (x : Executor) (input : Input) (o : Options) (path : String)
    (content : Except String String) (j : Journal) :
    Accounted (Given h content) x path j (run h x input o path content j) := by
  have opened := opening_emits h x path content j
  cases loaded : (load h path content).result with
  | error e =>
    rw [run_of_not_loaded loaded]
    exact accounted_of_acts opened _
  | ok configs =>
    cases list : o.list with
    | true =>
      rw [run_of_list loaded list]
      apply accounted_of_acts
      apply List.forall_mem_append.mpr ⟨opened, ?_⟩
      intro a ha
      obtain ⟨line, -, rfl⟩ := List.mem_map.mp ha
      exact Act.within_of_silent rfl
    | false =>
      rw [run_eq_carryOut loaded list]
      apply carryOut_accounted (given_of_loaded loaded)
      exact fun j => preface_emits h x path content j o.choices input configs

end Session

end Shortcuts
