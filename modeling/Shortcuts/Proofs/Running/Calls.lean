import Shortcuts.Proofs.Traced
import Shortcuts.Running.Executor

/-!
# Calls of a run

`Runs x past acts configs` says that the acts run the configurations in order: one look-up each,
followed at once by one start if the executor finds the program there, and no other call. The
look-ups are fixed by the configurations alone (`Runs.lookups`), and where the executor goes by
earlier calls alone, so are all calls (`Runs.calls_ofCalls`).
-/

namespace Shortcuts

/-- The calls for one configuration whose program was found or not. -/
def Configuration.attempt (c : Configuration) (found : Bool) : List Call :=
  .which c.invocation.program ::
    if found then [.start c.invocation.program c.invocation.args] else []

def Call.lookup? : Call → Option String
  | .which program => some program
  | .start _ _ => none

theorem Configuration.lookup?_attempt (c : Configuration) (found : Bool) :
    (c.attempt found).filterMap Call.lookup? = [c.invocation.program] := by
  cases found <;> rfl

/-- The calls for the configurations in order, after earlier calls that decide what is found. -/
def callsFor (which : List Call → String → Bool) (past : List Call) :
    List Configuration → List Call
  | [] => []
  | c :: rest =>
    let calls := c.attempt (which past c.invocation.program)
    calls ++ callsFor which (past ++ calls) rest

def Act.Silent (a : Act) : Prop := a.call? = none

/-- No act is a call. -/
def Trace.Quiet (t : Trace) : Prop := t.calls = []

/-- An act that neither calls nor tells of a run: no call, and no event with a topic. -/
def Act.Plain : Act → Prop
  | .call _ => False
  | .event e => e.topic = .general
  | .query _ | .print _ | .output _ _ | .took _ => True

theorem Act.plain_event {e : Event} (general : e.topic = .general) : (Act.event e).Plain := general

def Trace.Plain (t : Trace) : Prop := ∀ a ∈ t, a.Plain

/-- After `past`, the acts run these configurations. -/
inductive Runs (x : Executor) : Trace → Trace → List Configuration → Prop
  | done (past acts : Trace) (quiet : acts.Quiet) : Runs x past acts []
  | next (past before after : Trace) (c : Configuration) (configs : List Configuration)
      (found : Bool) (quiet : before.Quiet)
      (answer : x.which (past ++ before) c.invocation.program = found)
      (rest : Runs x (past ++ before ++ (c.attempt found).map .call) after configs) :
      Runs x past (before ++ (c.attempt found).map .call ++ after) (c :: configs)

namespace Trace

theorem Quiet.append {s t : Trace} (hs : s.Quiet) (ht : t.Quiet) : (s ++ t).Quiet := by
  rw [Quiet, calls_append, hs, ht, List.append_nil]

theorem quiet_of_forall {t : Trace} (h : ∀ a ∈ t, a.Silent) : t.Quiet :=
  List.filterMap_eq_nil_iff.mpr h

theorem Plain.append {s t : Trace} (hs : s.Plain) (ht : t.Plain) : (s ++ t).Plain :=
  List.forall_mem_append.mpr ⟨hs, ht⟩

theorem Plain.quiet {t : Trace} (h : t.Plain) : t.Quiet := by
  apply quiet_of_forall
  intro a ha
  cases a with
  | call c => exact (h _ ha).elim
  | query | event | print | output | took => rfl

theorem calls_map_call (cs : List Call) : calls (cs.map .call) = cs := by
  rw [calls, List.filterMap_map]
  exact List.filterMap_some

end Trace

namespace Runs

variable {x : Executor} {past acts : Trace} {configs : List Configuration}

theorem prepend {quiet : Trace} (hq : quiet.Quiet) (h : Runs x (past ++ quiet) acts configs) :
    Runs x past (quiet ++ acts) configs := by
  generalize start : past ++ quiet = p at h
  cases h with
  | done _ _ ha => exact .done _ _ (hq.append ha)
  | next _ before after c configs found hb answer rest =>
    subst start
    rw [List.append_assoc past quiet before] at answer rest
    have runs := Runs.next past (quiet ++ before) after c configs found (hq.append hb) answer rest
    simpa only [List.append_assoc] using runs

theorem append {tail : Trace} (h : Runs x past acts configs) (ht : tail.Quiet) :
    Runs x past (acts ++ tail) configs := by
  induction h with
  | done past acts ha => exact .done _ _ (ha.append ht)
  | next past before after c configs found hb answer _ ih =>
    rw [List.append_assoc]
    exact .next past before (after ++ tail) c configs found hb answer ih

/-- Every configuration is looked up once, in order, whatever the executor answers. -/
theorem lookups (h : Runs x past acts configs) :
    acts.calls.filterMap Call.lookup? = configs.map fun c => c.invocation.program := by
  induction h with
  | done past acts quiet =>
    rw [quiet]
    rfl
  | next past before after c configs found quiet _ _ ih =>
    rw [Trace.calls_append, Trace.calls_append, quiet, Trace.calls_map_call, List.nil_append,
      List.filterMap_append, ih, c.lookup?_attempt]
    rfl

theorem calls_ofCalls {which : List Call → String → Bool}
    {start : List Call → String → List String → Reply}
    (h : Runs (.ofCalls which start) past acts configs) :
    acts.calls = callsFor which past.calls configs := by
  generalize executor : Executor.ofCalls which start = x at h
  induction h with
  | done past acts quiet => rw [quiet, callsFor]
  | next past before after c configs found quiet answer _ ih =>
    subst executor
    have silent : before.calls = [] := quiet
    have asked : which past.calls c.invocation.program = found := by
      rw [← answer]
      simp only [Executor.ofCalls, Trace.calls_append, silent, List.append_nil]
    rw [callsFor, asked, Trace.calls_append, Trace.calls_append, silent, Trace.calls_map_call,
      List.nil_append, ih]
    simp only [Trace.calls_append, silent, Trace.calls_map_call, List.append_nil]

end Runs

theorem Reply.plain_acts (r : Reply) : Trace.Plain r.acts := by
  intro a ha
  obtain ⟨w, -, rfl⟩ := List.mem_map.mp ha
  trivial

end Shortcuts
