import Shortcuts.Proofs.Running.Fates

/-!
# Announcements

What the events of a session announce, and which calls follow each announcement. A chronicle of
previews announces what a chronicle of real runs of the same configurations does, and in the latter
the calls after an announcement are for the program and the arguments that it shows
(`Chronicle.foldr_gather`).
-/

namespace Shortcuts

/-- What is handed over for an announced run: it is the calls made before the next announcement. -/
structure Handover where
  key : String
  line : String
  calls : List Call
  deriving DecidableEq, Repr

/-- The handover of a configuration whose program was found or not. -/
def Configuration.handover (c : Configuration) (found : Bool) : Handover where
  key := c.key
  line := c.invocation.display
  calls := c.attempt found

/-- The event that announces a configuration, or only shows it. -/
def Configuration.notice (c : Configuration) (dryRun : Bool) : Event :=
  if dryRun then .dryRun c.key c.invocation.display else .runStarted c.key c.invocation.display

def noticeTopic (dryRun : Bool) : Topic := if dryRun then .dryRun else .run

/-- Put an act before calls that no announcement precedes yet and the handovers after them. -/
def Act.gather (a : Act) (later : List Call × List Handover) : List Call × List Handover :=
  match a with
  | .call c => (c :: later.1, later.2)
  | .event e =>
    if e.topic = .run then ([], ⟨e.fields.key, e.fields.invocation, later.1⟩ :: later.2) else later
  | _ => later

namespace Trace

/-- The events of a topic. -/
def about (topic : Topic) (t : Trace) : List Event := t.events.filter fun e => e.topic == topic

/-- Keys and command lines of the events of a topic. -/
def announced (topic : Topic) (t : Trace) : List (String × String) :=
  (t.about topic).map fun e => (e.fields.key, e.fields.invocation)

/-- The calls before the first announcement, and the handovers. -/
def handovers (t : Trace) : List Call × List Handover := t.foldr Act.gather ([], [])

theorem about_append (topic : Topic) (s t : Trace) :
    about topic (s ++ t) = about topic s ++ about topic t := by
  rw [about, events, List.filterMap_append, List.filter_append]
  rfl

theorem announced_append (topic : Topic) (s t : Trace) :
    announced topic (s ++ t) = announced topic s ++ announced topic t := by
  rw [announced, about_append, List.map_append]
  rfl

theorem about_cons_event (topic : Topic) (e : Event) (t : Trace) :
    about topic (.event e :: t) =
      if e.topic = topic then e :: about topic t else about topic t := by
  simp [about, events, Act.event?, List.filter_cons]

theorem about_map_call (topic : Topic) (cs : List Call) : about topic (cs.map .call) = [] := by
  have silent : events (cs.map .call) = [] := by
    rw [events, List.filterMap_map]
    exact List.filterMap_eq_nil_iff.mpr fun _ _ => rfl
  rw [about, silent, List.filter_nil]

theorem about_eq_nil {t : Trace} {topic : Topic} (h : ∀ e, .event e ∈ t → e.topic ≠ topic) :
    t.about topic = [] := by
  apply List.filter_eq_nil_iff.mpr
  intro e he
  simpa using h e (mem_events_iff.mp he)

theorem Plain.about {t : Trace} (h : t.Plain) {topic : Topic} (topical : topic ≠ .general) :
    t.about topic = [] := by
  apply about_eq_nil
  intro e he same
  exact topical (same.symm.trans (h _ he))

theorem foldr_gather_of_forall {t : Trace} (h : ∀ a ∈ t, ∀ later, a.gather later = later)
    (later : List Call × List Handover) : t.foldr Act.gather later = later := by
  induction t with
  | nil => rfl
  | cons a t ih =>
    rw [List.foldr_cons, ih fun b hb => h b (List.mem_cons_of_mem _ hb)]
    exact h a List.mem_cons_self later

theorem Plain.foldr_gather {t : Trace} (h : t.Plain) (later : List Call × List Handover) :
    t.foldr Act.gather later = later := by
  apply foldr_gather_of_forall
  intro a ha later
  have plain := h a ha
  cases a with
  | call c => exact plain.elim
  | event e =>
    have general : e.topic = .general := plain
    simp [Act.gather, general]
  | query | print | output | took => rfl

theorem foldr_gather_calls (cs : List Call) (later : List Call × List Handover) :
    (cs.map .call).foldr Act.gather later = (cs ++ later.1, later.2) := by
  induction cs with
  | nil => rfl
  | cons c cs ih => rw [List.map_cons, List.foldr_cons, ih, Act.gather, List.cons_append]

end Trace

open Trace

namespace Configuration

variable {x : Executor} {dryRun : Bool} {past acts : Trace} {c : Configuration} {fate : Fate}

theorem Meets.acts_of_dryRun (h : c.Meets x true past acts fate) : acts = [c.preview] := by
  cases h with
  | previewed => rfl
  | notFound real | started real => cases real

theorem Meets.about (h : c.Meets x dryRun past acts fate) {topic : Topic}
    (topical : topic ≠ .general) :
    acts.about topic = if noticeTopic dryRun = topic then [c.notice dryRun] else [] := by
  cases dryRun with
  | true =>
    rw [h.acts_of_dryRun]
    exact about_cons_event topic _ []
  | false =>
    obtain ⟨written, rfl, plain, -⟩ := h.shape
    rw [announcement, about_cons_event, about_append, about_map_call, plain.about topical]
    rfl

theorem Meets.foldr_gather (h : c.Meets x false past acts fate) (later : List Handover) :
    acts.foldr Act.gather ([], later) = ([], c.handover fate.found :: later) := by
  obtain ⟨written, rfl, plain, -⟩ := h.shape
  rw [List.foldr_cons, List.foldr_append, plain.foldr_gather, foldr_gather_calls, List.append_nil]
  rfl

end Configuration

namespace Chronicle

variable {x : Executor} {dryRun : Bool} {past acts : Trace} {configs : List Configuration}
  {fates : List Fate}

/-- A dry run calls nothing. -/
theorem calls_of_dryRun (h : Chronicle x true past acts configs fates) : acts.calls = [] := by
  induction h with
  | done _ _ plain => exact plain.quiet
  | next past before acts after c configs fate fates plain meets _ ih =>
    rw [meets.acts_of_dryRun, calls_append, calls_append, plain.quiet, ih]
    rfl

/-- A chronicle tells of its configurations in order, and of nothing else. -/
theorem about (h : Chronicle x dryRun past acts configs fates) {topic : Topic}
    (topical : topic ≠ .general) :
    acts.about topic =
      if noticeTopic dryRun = topic then configs.map (·.notice dryRun) else [] := by
  induction h with
  | done _ _ plain =>
    rw [plain.about topical]
    exact (ite_self []).symm
  | next past before acts after c configs fate fates plain meets _ ih =>
    rw [about_append, about_append, plain.about topical, meets.about topical, ih]
    split <;> rfl

theorem announced (h : Chronicle x dryRun past acts configs fates) :
    acts.announced (noticeTopic dryRun) = configs.map fun c => (c.key, c.invocation.display) := by
  have topical : noticeTopic dryRun ≠ .general := by cases dryRun <;> decide
  rw [Trace.announced, h.about topical, if_pos rfl, List.map_map]
  cases dryRun <;> rfl

theorem foldr_gather (h : Chronicle x false past acts configs fates) (later : List Handover) :
    acts.foldr Act.gather ([], later) =
      ([], List.zipWith (fun c fate => c.handover fate.found) configs fates ++ later) := by
  induction h generalizing later with
  | done _ _ plain => exact plain.foldr_gather _
  | next past before acts after c configs fate fates plain meets _ ih =>
    rw [List.foldr_append, List.foldr_append, ih, meets.foldr_gather, plain.foldr_gather]
    rfl

end Chronicle

end Shortcuts
