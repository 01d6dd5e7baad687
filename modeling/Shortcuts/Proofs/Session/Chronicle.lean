import Shortcuts.Proofs.Running.Accounting
import Shortcuts.Proofs.Running.Announcements
import Shortcuts.Proofs.Session.Stages

/-!
# The chronicle of a session

A session that has selected something tells the fates of its selection, one after the other, and
then at most a summary (`run_chronicle`). What becomes of one configuration, the record of it and
the result of its run all follow from its fate.
-/

namespace Shortcuts

namespace Fate

/-- The result of a run with this fate. -/
def result (c : Configuration) (fate : Fate) : Except RunError Status :=
  match fate.error? c with
  | none => .ok fate.status
  | some e => .error e

/-- The record of a run with this fate. -/
def record (c : Configuration) (fate : Fate) : Record where
  key := c.key
  status := fate.status
  message := (fate.error? c).map fun e => e.toFailure.full

theorem error?_eq_none_iff {c : Configuration} {fate : Fate} :
    fate.error? c = none ↔ fate.failed = false := by
  cases fate with
  | previewed => exact ⟨fun _ => rfl, fun _ => rfl⟩
  | notFound | notStarted _ => simp [error?, failed]
  | ended completion => cases success : completion.success <;> simp [error?, failed, success]

theorem recordOf_result (c : Configuration) (fate : Fate) :
    Session.recordOf c.key (fate.result c) = fate.record c := by
  unfold result record
  cases found : fate.error? c with
  | none => rfl
  | some e =>
    have failed : fate.failed = true := by
      rw [← Bool.not_eq_false, ← error?_eq_none_iff (c := c), found]
      exact Option.some_ne_none e
    have status : fate.status = .failed := by simpa [failed_eq_status] using failed
    rw [status]
    rfl

theorem result_ofReply (c : Configuration) (r : Reply) :
    (ofReply r).result c = (r.judge c.key).map fun _ => .ok := by
  unfold ofReply Reply.judge
  cases r.result with
  | error failure => rfl
  | ok completion =>
    cases success : completion.success <;>
      simp [result, error?, status, Completion.judge, success, Except.map]

end Fate

namespace Configuration

variable {x : Executor} {past : Trace} {c : Configuration}

theorem run_of_absent (absent : x.which past c.invocation.program = false) :
    c.run x past =
      ⟨(c.attempt false).map .call, .error (.programNotFound c.invocation.program)⟩ := by
  simp [run, absent, attempt]

theorem run_of_present (present : x.which past c.invocation.program = true) {reply : Reply}
    (answer : x.start (past ++ [.call (.which c.invocation.program)]) c.invocation.program
      c.invocation.args = reply) :
    c.run x past = ⟨(c.attempt true).map .call ++ reply.acts, reply.judge c.key⟩ := by
  simp [run, present, answer, attempt]

end Configuration

/-! ## After the last run -/

/-- An act of a summary. -/
def Act.Concludes : Act → Prop
  | .print _ => True
  | .event e => e.topic ∈ [.stage, .outcome, .totals, .general]
  | .query _ | .call _ | .output _ _ | .took _ => False

theorem Journal.concludes_summary (j : Journal) : ∀ a ∈ j.summary, a.Concludes := by
  have title : ∀ a ∈ [Act.print "\n", .event (.stage "Summary")], a.Concludes := by
    simp [Act.Concludes, Event.stage]
  have outcomes : ∀ a ∈ j.records.map outcome, a.Concludes := by
    intro a ha
    obtain ⟨r, -, rfl⟩ := List.mem_map.mp ha
    simp [outcome, Act.Concludes, Event.outcome]
  have totals : ∀ a ∈ [Act.print "\n", j.totals], a.Concludes := by
    simp [Journal.totals, Act.Concludes, Event.totals]
  have note : ∀ a ∈ j.locationNote, a.Concludes := by
    intro a ha
    obtain ⟨path, -, rfl⟩ := mem_locationNote.mp ha
    simp [Act.Concludes, Event.info, Event.plain]
  unfold summary
  split
  · exact List.forall_mem_nil _
  · exact List.forall_mem_append.mpr
      ⟨List.forall_mem_append.mpr ⟨List.forall_mem_append.mpr ⟨title, outcomes⟩, totals⟩, note⟩

section Epilogue

variable {t : Trace}

theorem Trace.quiet_of_concludes (h : ∀ a ∈ t, a.Concludes) : t.Quiet := by
  apply quiet_of_forall
  intro a ha
  cases a with
  | call c => exact (h _ ha).elim
  | query | event | print | output | took => rfl

theorem Trace.about_notice_of_concludes (h : ∀ a ∈ t, a.Concludes) (dryRun : Bool) :
    t.about (noticeTopic dryRun) = [] := by
  apply about_eq_nil
  rintro e he same
  have concludes : e.topic ∈ [.stage, .outcome, .totals, .general] := h _ he
  rw [same] at concludes
  cases dryRun <;> exact absurd concludes (by decide)

theorem Trace.foldr_gather_of_concludes (h : ∀ a ∈ t, a.Concludes)
    (later : List Call × List Handover) : t.foldr Act.gather later = later := by
  apply foldr_gather_of_forall
  intro a ha later
  cases a with
  | call c => exact (h _ ha).elim
  | event e =>
    have concludes : e.topic ∈ [.stage, .outcome, .totals, .general] := h _ ha
    have other : e.topic ≠ .run := by
      intro run
      rw [run] at concludes
      exact absurd concludes (by decide)
    exact if_neg other
  | query | print | output | took => rfl

end Epilogue

/-- After `past`, a chronicle of these fates, and then at most a summary. -/
def Tells (x : Executor) (dryRun : Bool) (past acts : Trace) (configs : List Configuration)
    (fates : List Fate) : Prop :=
  ∃ runs epilogue, acts = runs ++ epilogue ∧ Chronicle x dryRun past runs configs fates ∧
    ∀ a ∈ epilogue, a.Concludes

namespace Tells

variable {x : Executor} {dryRun : Bool} {past acts : Trace} {configs : List Configuration}
  {fates : List Fate}

theorem prepend {plain : Trace} (hp : plain.Plain)
    (h : Tells x dryRun (past ++ plain) acts configs fates) :
    Tells x dryRun past (plain ++ acts) configs fates := by
  obtain ⟨runs, epilogue, rfl, told, concludes⟩ := h
  exact ⟨plain ++ runs, epilogue, (List.append_assoc ..).symm, told.prepend hp, concludes⟩

theorem runs (h : Tells x false past acts configs fates) : Runs x past acts configs := by
  obtain ⟨runs, epilogue, rfl, told, concludes⟩ := h
  exact told.runs.append (Trace.quiet_of_concludes concludes)

theorem calls_of_dryRun (h : Tells x true past acts configs fates) : acts.calls = [] := by
  obtain ⟨runs, epilogue, rfl, told, concludes⟩ := h
  exact Trace.Quiet.append told.calls_of_dryRun (Trace.quiet_of_concludes concludes)

theorem announced (h : Tells x dryRun past acts configs fates) :
    acts.announced (noticeTopic dryRun) = configs.map fun c => (c.key, c.invocation.display) := by
  obtain ⟨runs, epilogue, rfl, told, concludes⟩ := h
  rw [Trace.announced_append, told.announced, Trace.announced,
    Trace.about_notice_of_concludes concludes, List.map_nil, List.append_nil]

/-- Before its first announcement a session calls nothing, and after each it tries exactly what it
has announced. -/
theorem handovers (h : Tells x false past acts configs fates) :
    acts.handovers = ([], List.zipWith (fun c fate => c.handover fate.found) configs fates) := by
  obtain ⟨runs, epilogue, rfl, told, concludes⟩ := h
  rw [Trace.handovers, List.foldr_append, Trace.foldr_gather_of_concludes concludes,
    told.foldr_gather, List.append_nil]

end Tells

namespace Session

/-! ## Runs -/

theorem runOne_real (x : Executor) (past : Trace) (c : Configuration) :
    runOne x false past c =
      let run := c.run x (past ++ [c.announcement])
      ⟨c.announcement :: run.acts, run.result.map fun _ => .ok⟩ :=
  rfl

theorem runOne_meets (x : Executor) (dryRun : Bool) (past : Trace) (c : Configuration) :
    ∃ fate : Fate, c.Meets x dryRun past (runOne x dryRun past c).acts fate ∧
      (runOne x dryRun past c).result = fate.result c := by
  cases dryRun with
  | true => exact ⟨.previewed, .previewed rfl, rfl⟩
  | false =>
    cases found : x.which (past ++ [c.announcement]) c.invocation.program with
    | false =>
      rw [runOne_real, Configuration.run_of_absent found]
      exact ⟨.notFound, .notFound rfl found, rfl⟩
    | true =>
      generalize answer : x.start (past ++ [c.announcement, .call (.which c.invocation.program)])
        c.invocation.program c.invocation.args = reply
      rw [runOne_real, Configuration.run_of_present found (by simpa using answer)]
      exact ⟨.ofReply reply, .started rfl reply found answer, (Fate.result_ofReply c reply).symm⟩

theorem plain_failureNote (r : Except RunError Status) : Trace.Plain (failureNote r) := by
  cases r with
  | ok status => exact List.forall_mem_nil _
  | error e => exact List.forall_mem_singleton.mpr (Act.plain_event rfl)

/-- What becomes of a run neither skips, repeats nor reorders the later ones. -/
theorem runEach_chronicle (x : Executor) (dryRun : Bool) (past : Trace)
    (configs : List Configuration) :
    ∃ fates, Chronicle x dryRun past (runEach x dryRun past configs).1 configs fates ∧
      (runEach x dryRun past configs).2 = List.zipWith Fate.record configs fates := by
  induction configs generalizing past with
  | nil => exact ⟨[], .done _ _ (List.forall_mem_nil _), rfl⟩
  | cons c configs ih =>
    obtain ⟨fate, meets, result⟩ := runOne_meets x dryRun past c
    obtain ⟨fates, later, records⟩ :=
      ih (past ++ ((runOne x dryRun past c).acts ++ failureNote (runOne x dryRun past c).result))
    refine ⟨fate :: fates, ?_, ?_⟩
    · rw [← List.append_assoc] at later
      have told := Chronicle.next past [] _ _ c configs fate fates (List.forall_mem_nil _)
        (by rwa [List.append_nil]) (by simpa using later.prepend (plain_failureNote _))
      simpa only [runEach, List.nil_append, List.append_assoc] using told
    · rw [runEach, records, result, Fate.recordOf_result]
      rfl

theorem perform_several (x : Executor) (dryRun : Bool) (j : Journal) (past : Trace)
    {configs : List Configuration} (several : 2 ≤ configs.length) :
    perform x dryRun j past configs =
      let told := runEach x dryRun past configs
      let j' : Journal := { j with records := j.records ++ told.2 }
      ⟨told.1 ++ j'.summary, verdict j', j'⟩ := by
  match configs, several with
  | _ :: _ :: _, _ => rfl

theorem runOne_chronicle (x : Executor) (dryRun : Bool) (past : Trace) (c : Configuration) :
    ∃ fate : Fate, Chronicle x dryRun past (runOne x dryRun past c).acts [c] [fate] ∧
      (runOne x dryRun past c).result = fate.result c := by
  obtain ⟨fate, meets, result⟩ := runOne_meets x dryRun past c
  have told := Chronicle.next past [] _ [] c [] fate [] (List.forall_mem_nil _)
    (by rwa [List.append_nil]) (.done _ _ (List.forall_mem_nil _))
  rw [List.nil_append, List.append_nil] at told
  exact ⟨fate, told, result⟩

theorem perform_tells (x : Executor) (dryRun : Bool) (j : Journal) (past : Trace)
    (configs : List Configuration) :
    ∃ fates, Tells x dryRun past (perform x dryRun j past configs).acts configs fates := by
  rcases Nat.lt_or_ge configs.length 2 with few | several
  · match configs, few with
    | [], _ =>
      have warning : Trace.Plain [.event (.warn "nothing chosen")] :=
        List.forall_mem_singleton.mpr (Act.plain_event rfl)
      exact ⟨[], _, [], (List.append_nil _).symm, .done _ _ warning, List.forall_mem_nil _⟩
    | [c], _ =>
      obtain ⟨fate, told, -⟩ := runOne_chronicle x dryRun past c
      exact ⟨[fate], _, [], (List.append_nil _).symm, told, List.forall_mem_nil _⟩
  · obtain ⟨fates, told, -⟩ := runEach_chronicle x dryRun past configs
    rw [perform_several x dryRun j past several]
    exact ⟨fates, _, _, rfl, told, Journal.concludes_summary _⟩

/-- A session that has selected tells what became of its selection, and nothing else. -/
theorem run_tells {h : Host} {x : Executor} {input : Input} {o : Options} {path : String}
    {content : Except String String} {j : Journal} {configs : List Configuration}
    {words : List String} {selected : List Positioned}
    (loaded : (load h path content).result = .ok configs) (list : o.list = false)
    (read : wordsOf o input = .ok words) (chosen : select configs words = .ok selected) :
    ∃ fates, Tells x o.dryRun [] (run h x input o path content j).acts (selected.map Prod.fst)
      fates := by
  rw [run_eq_carryOut loaded list, read, carryOut_of_chosen chosen]
  obtain ⟨fates, told⟩ := perform_tells x o.dryRun j
    (preface h path content o.choices input configs) (selected.map Prod.fst)
  exact ⟨fates, told.prepend (preface_plain h path content o.choices input configs)⟩

end Session

end Shortcuts
