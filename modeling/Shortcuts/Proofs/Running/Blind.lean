import Shortcuts.Proofs.Traced
import Shortcuts.Running.Executor

/-!
# Executors that do not see the terminal

What a session prints and what it takes from standard input is between it and its user. An executor
is blind if its answers do not depend on that, as when they depend on its earlier calls alone
(`Executor.blind_ofCalls`).
-/

namespace Shortcuts

/-- An act between the session and its user: a text is printed, or input is taken. -/
def Act.isDialogue : Act → Bool
  | .print _ | .took _ => true
  | .query _ | .call _ | .event _ | .output _ _ => false

namespace Trace

/-- Two traces that are the same but for the dialogue with the user. -/
def Alike (s t : Trace) : Prop :=
  s.filter (fun a => !a.isDialogue) = t.filter fun a => !a.isDialogue

variable {s t : Trace}

theorem Alike.append (alike : s.Alike t) (after : Trace) : Alike (s ++ after) (t ++ after) := by
  unfold Alike at alike ⊢
  rw [List.filter_append, List.filter_append, alike]

theorem alike_append_dialogue (s : Trace) {talk : Trace}
    (dialogue : ∀ a ∈ talk, a.isDialogue = true) : Alike (s ++ talk) s := by
  have silent : talk.filter (fun a => !a.isDialogue) = [] := by
    simpa [List.filter_eq_nil_iff] using dialogue
  rw [Alike, List.filter_append, silent, List.append_nil]

/-- A view that leaves out the dialogue is the same for both. -/
theorem Alike.filterMap {β : Type} {view : Act → Option β}
    (hidden : ∀ a, a.isDialogue = true → view a = none) (alike : s.Alike t) :
    s.filterMap view = t.filterMap view := by
  have through (u : Trace) :
      u.filterMap view = (u.filter fun a => !a.isDialogue).filterMap view := by
    rw [List.filterMap_filter]
    congr 1
    funext a
    cases dialogue : a.isDialogue with
    | true => simpa using hidden a dialogue
    | false => rfl
  rw [through s, through t, alike]

theorem Alike.calls (alike : s.Alike t) : s.calls = t.calls :=
  alike.filterMap fun a dialogue => by cases a <;> first | rfl | cases dialogue

theorem Alike.queries (alike : s.Alike t) : s.queries = t.queries :=
  alike.filterMap fun a dialogue => by cases a <;> first | rfl | cases dialogue

theorem Alike.events (alike : s.Alike t) : s.events = t.events :=
  alike.filterMap fun a dialogue => by cases a <;> first | rfl | cases dialogue

end Trace

/-- The executor answers as if the session and its user had not talked. -/
structure Executor.Blind (x : Executor) : Prop where
  which : ∀ past past' : Trace, past.Alike past' → x.which past = x.which past'
  start : ∀ past past' : Trace, past.Alike past' → x.start past = x.start past'

theorem Executor.blind_ofCalls (which : List Call → String → Bool)
    (start : List Call → String → List String → Reply) : (ofCalls which start).Blind where
  which _ _ alike := congrArg which alike.calls
  start _ _ alike := congrArg start alike.calls

theorem Executor.Blind.run {x : Executor} (blind : x.Blind) {past past' : Trace}
    (alike : past.Alike past') (c : Configuration) : c.run x past = c.run x past' := by
  have looked := alike.append [.call (.which c.invocation.program)]
  simp only [Configuration.run, blind.which _ _ alike, blind.start _ _ looked]

end Shortcuts
