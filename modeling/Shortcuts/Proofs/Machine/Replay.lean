import Shortcuts.Machine.Basic
import Shortcuts.Proofs.Session.Calls

/-!
# Programs that follow one another

The executor of a machine is asked with all that went before, and does it once more on the machine.
So it goes on from where the acts have left it (`executor_after`), and a program that is run starts
once, on what the ones before it have left (`after_run`). Without a log file, a whole session comes
to the programs of its selection, one after the other (`after_session`).
-/

namespace Shortcuts

/-- The executor once these acts are done. -/
def Executor.after (x : Executor) (past : Trace) : Executor where
  which later := x.which (past ++ later)
  start later := x.start (past ++ later)

namespace Machine

variable {m : Machine}

theorem after_append (m : Machine) (s t : Trace) : m.after (s ++ t) = (m.after s).after t :=
  List.foldl_append

theorem executor_after (m : Machine) (past : Trace) :
    (m.after past).executor = m.executor.after past := by
  simp only [executor, Executor.after, after_append]

theorem after_outputs (m : Machine) (r : Reply) : m.after r.acts = m := by
  unfold Reply.acts
  induction r.written with
  | nil => rfl
  | cons w ws ih => exact ih

/-! ## Runs -/

/-- Start the program of a configuration if it is there. -/
def attempt (m : Machine) (c : Configuration) : Machine :=
  if m.finds c.invocation.program then (m.start c.invocation.program c.invocation.args).2 else m

theorem which_executor (m : Machine) (past : Trace) (program : String) :
    m.executor.which past program = (m.after past).finds program := rfl

/-- A look-up leaves the machine alone, so the program starts on what was there before it. -/
theorem start_executor (m : Machine) (past : Trace) (program : String) (args : List String) :
    m.executor.start (past ++ [.call (.which program)]) program args =
      ((m.after past).start program args).1 := by
  simp only [executor, after_append]
  rfl

theorem after_run (m : Machine) (past : Trace) (c : Configuration) :
    m.after (past ++ (c.run m.executor past).acts) = (m.after past).attempt c := by
  rw [after_append]
  cases found : (m.after past).finds c.invocation.program with
  | false =>
    rw [Configuration.run_of_absent found, attempt, found]
    rfl
  | true =>
    have answer := start_executor m past c.invocation.program c.invocation.args
    rw [Configuration.run_of_present found answer, after_append, after_outputs, attempt, found]
    rfl

theorem result_run (m : Machine) (past : Trace) (c : Configuration) :
    (c.run m.executor past).result =
      if (m.after past).finds c.invocation.program then
        ((m.after past).start c.invocation.program c.invocation.args).1.judge c.key
      else .error (.programNotFound c.invocation.program) := by
  cases found : (m.after past).finds c.invocation.program with
  | false => rw [Configuration.run_of_absent found, if_neg Bool.false_ne_true]
  | true =>
    have answer := start_executor m past c.invocation.program c.invocation.args
    rw [Configuration.run_of_present found answer, if_pos rfl]

/-! ## What stays -/

/-- A program works on the system alone. What the session itself has stays: its directory, its
environment, its standard input and its log file. -/
theorem start_leaves (m : Machine) (program : String) (args : List String) :
    ∃ system, (m.start program args).2 = { m with system } := by
  have spawned {r : Ran} {m' : Machine} (ran : m.spawn program args = .ok (r, m')) :
      ∃ system, m' = { m with system } := by
    unfold spawn at ran
    dsimp only at ran
    split at ran
    · cases ran
    · rename_i exit system _
      exact ⟨system, (congrArg Prod.snd (Except.ok.inj ran)).symm⟩
  unfold start
  split
  · exact ⟨m.system, rfl⟩
  · split
    · exact ⟨m.system, rfl⟩
    · rename_i r m' ran
      exact spawned ran

theorem log_afterAct (m : Machine) (a : Act) : (m.afterAct a).log = m.log := by
  cases a with
  | call c =>
    cases c with
    | which => rfl
    | start program args =>
      obtain ⟨system, left⟩ := start_leaves m program args
      change (m.start program args).2.log = m.log
      rw [left]
  | event e =>
    simp only [afterAct]
    split
    · rfl
    · unfold writeLog
      split <;> rfl
  | query | print | output | took => rfl

theorem log_after (m : Machine) (past : Trace) : (m.after past).log = m.log := by
  induction past generalizing m with
  | nil => rfl
  | cons a past ih => exact (ih (m.afterAct a)).trans (log_afterAct m a)

/-! ## Without a log file -/

/-- An act that a machine without a log file does not notice. -/
def Unnoticed (a : Act) : Prop := ∀ m : Machine, m.log = none → m.afterAct a = m

theorem unnoticed_event (e : Event) : Unnoticed (.event e) := by
  intro m unlogged
  simp only [afterAct, unlogged]

theorem after_of_unnoticed {t : Trace} (unlogged : m.log = none) (h : ∀ a ∈ t, Unnoticed a) :
    m.after t = m := by
  induction t with
  | nil => rfl
  | cons a t ih =>
    obtain ⟨first, others⟩ := List.forall_mem_cons.mp h
    exact (congrArg (after · t) (first m unlogged)).trans (ih others)

theorem unnoticed_of_loads {a : Act} (loads : a.Loads) : Unnoticed a := by
  obtain ⟨q, rfl⟩ | ⟨text, rfl⟩ := loads
  · exact fun _ _ => rfl
  · exact unnoticed_event _

theorem unnoticed_of_concludes {a : Act} (concludes : a.Concludes) : Unnoticed a := by
  cases a with
  | print => exact fun _ _ => rfl
  | event e => exact unnoticed_event e
  | query | call | output | took => exact concludes.elim

/-- What a session without choices takes from standard input before it runs anything. -/
def asked (m : Machine) (choices : List String) (input : Input) : Machine :=
  if choices = [] then m.afterAct (.took input.readAhead) else m

section Sessions

open Session

variable {past : Trace} {h : Host} {input : Input} {o : Options} {path : String}
  {content : Except String String} {j : Journal} {configs : List Configuration}

theorem unnoticed_opening (h : Host) (path : String) (content : Except String String) :
    (opening h path content).Every Unnoticed := by
  apply (Traced.every_act (unnoticed_event _)).bind
  intro _
  have loads : (load h path content).Every Unnoticed := fun a ha =>
    unnoticed_of_loads (load_loads h path content a ha)
  apply (loads.mapError _).bind
  intro configs
  apply (Traced.every_act (unnoticed_event _)).bind
  intro _ a ha
  obtain ⟨key, -, rfl⟩ := List.mem_map.mp ha
  exact unnoticed_event _

theorem unnoticed_listing (configs : List Configuration) : ∀ a ∈ listing configs, Unnoticed a := by
  intro a ha
  obtain ⟨line, -, rfl⟩ := List.mem_map.mp ha
  exact fun _ _ => rfl

theorem after_preface (unlogged : m.log = none) (configs : List Configuration) :
    m.after (preface h path content o.choices input configs) = m.asked o.choices input := by
  have opened := after_of_unnoticed unlogged (unnoticed_opening h path content)
  have listed := after_of_unnoticed unlogged (unnoticed_listing configs)
  have prompted : m.after [prompt] = m := rfl
  unfold preface asked
  split
  · rw [after_append, after_append, after_append, opened, listed, prompted]
    rfl
  · exact opened

theorem after_runOne (unlogged : m.log = none) (past : Trace) (c : Configuration) :
    m.after (past ++ (runOne m.executor false past c).acts) = (m.after past).attempt c := by
  have announced : m.after (past ++ [c.announcement]) = m.after past := by
    rw [after_append]
    exact unnoticed_event _ _ ((log_after m past).trans unlogged)
  rw [runOne_real, List.append_cons, after_run, announced]

theorem unnoticed_failureNote (r : Except RunError Status) : ∀ a ∈ failureNote r, Unnoticed a := by
  cases r with
  | ok status => exact List.forall_mem_nil _
  | error e => exact List.forall_mem_singleton.mpr (unnoticed_event _)

theorem after_append_unnoticed (unlogged : m.log = none) (past : Trace) {t : Trace}
    (h : ∀ a ∈ t, Unnoticed a) : m.after (past ++ t) = m.after past := by
  rw [after_append]
  exact after_of_unnoticed ((log_after m past).trans unlogged) h

/-- Each program finds what the ones before it have left. -/
theorem after_runEach (unlogged : m.log = none) (past : Trace) (configs : List Configuration) :
    m.after (past ++ (runEach m.executor false past configs).1) =
      configs.foldl attempt (m.after past) := by
  induction configs generalizing past with
  | nil => exact congrArg m.after (List.append_nil past)
  | cons c configs ih =>
    have one := after_runOne unlogged past c
    generalize run : runOne m.executor false past c = r at one
    have noted : m.after (past ++ (r.acts ++ failureNote r.result)) = (m.after past).attempt c := by
      rw [← List.append_assoc, after_append_unnoticed unlogged _ (unnoticed_failureNote _), one]
    have later := ih (past ++ (r.acts ++ failureNote r.result))
    rw [noted, List.append_assoc] at later
    rw [List.foldl_cons, ← later, ← run]
    rfl

theorem after_perform (unlogged : m.log = none) (past : Trace) (configs : List Configuration) :
    m.after (past ++ (perform m.executor false j past configs).acts) =
      configs.foldl attempt (m.after past) := by
  rcases Nat.lt_or_ge configs.length 2 with few | several
  · match configs, few with
    | [], _ =>
      apply after_append_unnoticed unlogged
      exact List.forall_mem_singleton.mpr (unnoticed_event _)
    | [c], _ => exact after_runOne unlogged past c
  · have summary (j : Journal) : ∀ a ∈ j.summary, Unnoticed a := fun a ha =>
      unnoticed_of_concludes (j.concludes_summary a ha)
    rw [perform_several _ _ _ _ several]
    dsimp only
    rw [← List.append_assoc, after_append_unnoticed unlogged _ (summary _), after_runEach unlogged]

/-- A machine without a log file comes out of a session as if the selected programs had been
started on it one after the other, where they are found. -/
theorem after_session (unlogged : m.log = none) (list : o.list = false) (dryRun : o.dryRun = false)
    {words : List String} {selected : List Positioned}
    (loaded : (load h path content).result = .ok configs) (read : wordsOf o input = .ok words)
    (chosen : select configs words = .ok selected) :
    m.after (run h m.executor input o path content j).acts =
      (selected.map Prod.fst).foldl attempt (m.asked o.choices input) := by
  rw [run_eq_carryOut loaded list, read, carryOut_of_chosen chosen, dryRun]
  dsimp only
  rw [after_perform unlogged, after_preface unlogged]

end Sessions

end Machine

end Shortcuts
