import Shortcuts.Proofs.Running.Calls
import Shortcuts.Running.Journal

/-!
# Fates of configurations

A selected configuration is only shown, or its program is not found, does not start, or ends.
`Configuration.Meets` says which acts go with each fate, by what the executor answers at that point,
and `Chronicle x dryRun past acts configs fates` says that the acts tell these fates of the
configurations, in order and with nothing between them but plain acts.
-/

namespace Shortcuts

/-- What becomes of a configuration that was selected. -/
inductive Fate
  /-- It is only shown, in a dry run. -/
  | previewed
  | notFound
  | notStarted (failure : Failure)
  | ended (completion : Completion)
  deriving DecidableEq, Repr

namespace Fate

def ofReply (r : Reply) : Fate :=
  match r.result with
  | .error failure => .notStarted failure
  | .ok completion => .ended completion

def failed : Fate → Bool
  | .previewed => false
  | .notFound | .notStarted _ => true
  | .ended completion => !completion.success

def found : Fate → Bool
  | .notFound => false
  | _ => true

def status : Fate → Status
  | .previewed => .dryRun
  | .notFound | .notStarted _ => .failed
  | .ended completion => if completion.success then .ok else .failed

/-- The word that the summary has for a fate. -/
def label : Fate → String
  | .previewed => "dry-run"
  | .notFound | .notStarted _ => "failed"
  | .ended completion => if completion.success then "ok" else "failed"

/-- The error of a run that failed. A program that a signal ended has no exit code. -/
def error? (c : Configuration) : Fate → Option RunError
  | .previewed => none
  | .notFound => some (.programNotFound c.invocation.program)
  | .notStarted failure => some (.notStarted failure)
  | .ended completion =>
    if completion.success then none else some (.failed c.key (completion.code.getD (-1)))

/-- The text of that error with all its causes, and nothing for a run that did not fail. -/
def detail (c : Configuration) (fate : Fate) : String :=
  match fate.error? c with
  | none => ""
  | some e => e.toFailure.full

theorem failed_eq_status (fate : Fate) : fate.failed = (fate.status == .failed) := by
  cases fate with
  | previewed | notFound | notStarted _ => rfl
  | ended completion => cases success : completion.success <;> simp [failed, status, success]

theorem found_ofReply (r : Reply) : (ofReply r).found = true := by
  unfold ofReply
  split <;> rfl

end Fate

namespace Configuration

/-- The act that announces a run. -/
def announcement (c : Configuration) : Act := .event (.runStarted c.key c.invocation.display)

/-- The act that shows a run in its stead. -/
def preview (c : Configuration) : Act := .event (.dryRun c.key c.invocation.display)

/-- After `past`, these acts bring the configuration this fate. A real run is announced before the
executor is called, and what the program writes follows its start. -/
inductive Meets (x : Executor) (dryRun : Bool) (past : Trace) (c : Configuration) :
    Trace → Fate → Prop
  | previewed (dry : dryRun = true) : Meets x dryRun past c [c.preview] .previewed
  | notFound (real : dryRun = false)
      (absent : x.which (past ++ [c.announcement]) c.invocation.program = false) :
      Meets x dryRun past c (c.announcement :: (c.attempt false).map .call) .notFound
  | started (real : dryRun = false) (reply : Reply)
      (present : x.which (past ++ [c.announcement]) c.invocation.program = true)
      (answer : x.start (past ++ [c.announcement, .call (.which c.invocation.program)])
        c.invocation.program c.invocation.args = reply) :
      Meets x dryRun past c
        (c.announcement :: (c.attempt true).map .call ++ reply.acts) (.ofReply reply)

/-- A real run is announced, tried, and writes. -/
theorem Meets.shape {x : Executor} {past acts : Trace} {c : Configuration} {fate : Fate}
    (h : c.Meets x false past acts fate) :
    ∃ written : Trace,
      acts = c.announcement :: ((c.attempt fate.found).map .call ++ written) ∧ written.Plain ∧
      x.which (past ++ [c.announcement]) c.invocation.program = fate.found := by
  cases h with
  | previewed dry => cases dry
  | notFound _ absent => exact ⟨[], by rw [List.append_nil]; rfl, List.forall_mem_nil _, absent⟩
  | started _ reply present _ =>
    rw [Fate.found_ofReply]
    exact ⟨reply.acts, rfl, reply.plain_acts, present⟩

end Configuration

/-- After `past`, the acts tell these fates of the configurations. -/
inductive Chronicle (x : Executor) (dryRun : Bool) :
    Trace → Trace → List Configuration → List Fate → Prop
  | done (past acts : Trace) (plain : acts.Plain) : Chronicle x dryRun past acts [] []
  | next (past before acts after : Trace) (c : Configuration) (configs : List Configuration)
      (fate : Fate) (fates : List Fate) (plain : before.Plain)
      (meets : c.Meets x dryRun (past ++ before) acts fate)
      (rest : Chronicle x dryRun (past ++ before ++ acts) after configs fates) :
      Chronicle x dryRun past (before ++ acts ++ after) (c :: configs) (fate :: fates)

namespace Chronicle

variable {x : Executor} {dryRun : Bool} {past acts : Trace} {configs : List Configuration}
  {fates : List Fate}

theorem prepend {plain : Trace} (hp : plain.Plain)
    (h : Chronicle x dryRun (past ++ plain) acts configs fates) :
    Chronicle x dryRun past (plain ++ acts) configs fates := by
  generalize start : past ++ plain = p at h
  cases h with
  | done _ _ ha => exact .done _ _ (hp.append ha)
  | next _ before one after c configs fate fates hb meets rest =>
    subst start
    rw [List.append_assoc past plain before] at meets rest
    have told := Chronicle.next past (plain ++ before) one after c configs fate fates (hp.append hb)
      meets rest
    simpa only [List.append_assoc] using told

theorem length_eq (h : Chronicle x dryRun past acts configs fates) :
    fates.length = configs.length := by
  induction h with
  | done => rfl
  | next _ _ _ _ _ _ _ _ _ _ _ ih => rw [List.length_cons, List.length_cons, ih]

/-- A chronicle of real runs looks every configuration up and starts what is found. -/
theorem runs (h : Chronicle x false past acts configs fates) : Runs x past acts configs := by
  induction h with
  | done past acts plain => exact .done _ _ plain.quiet
  | next past before one after c configs fate fates plain meets _ ih =>
    obtain ⟨written, rfl, writes, answer⟩ := meets.shape
    have silent : Trace.Quiet (before ++ [c.announcement]) := plain.quiet.append rfl
    rw [List.append_assoc] at answer
    simp only [List.append_assoc, List.cons_append] at ih ⊢
    rw [List.append_cons, ← List.append_assoc]
    apply Runs.next past _ _ c configs fate.found silent answer
    apply Runs.prepend writes.quiet
    simpa only [List.append_assoc, List.cons_append, List.nil_append] using ih

end Chronicle

end Shortcuts
