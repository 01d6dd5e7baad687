import Shortcuts.Configuration.Loading
import Shortcuts.Proofs.Traced

/-!
# What loading does

Plans only ask the host, and loading only asks and reports at debug level: nothing is called,
printed or read.
-/

namespace Shortcuts

/-- An act of a plan. -/
def Act.Asks (a : Act) : Prop := ∃ q, a = .query q

/-- An act of loading. -/
def Act.Loads (a : Act) : Prop := a.Asks ∨ ∃ m, a = .event (.debug m)

theorem Act.Asks.loads {a : Act} (h : a.Asks) : a.Loads := .inl h

theorem Act.loads_debug (m : String) : (Act.event (.debug m)).Loads := .inr ⟨m, rfl⟩

namespace Traced

theorem askName_asks {ε : Type} (h : Host) (f : Failure → ε) : (h.askName f).Every Act.Asks := by
  intro a ha
  rw [Host.askName, List.mem_singleton] at ha
  exact ⟨_, ha⟩

theorem askMounted_asks {ε : Type} (h : Host) (point : String) (f : Failure → ε) :
    (h.askMounted point f).Every Act.Asks := by
  intro a ha
  rw [Host.askMounted, List.mem_singleton] at ha
  exact ⟨_, ha⟩

end Traced

namespace Transfer

theorem checkHost_asks (m : Transfer) (h : Host) : (m.checkHost h).Every Act.Asks := by
  unfold checkHost
  split
  · exact Traced.every_ok _ _
  · apply (Traced.askName_asks h _).bind
    intro name
    split
    · exact Traced.every_ok _ _
    · exact Traced.every_fail _ _

theorem checkMounts_asks (h : Host) (points : List String) :
    (checkMounts h points).Every Act.Asks := by
  induction points with
  | nil => exact Traced.every_ok _ _
  | cons point points ih =>
    apply (Traced.askMounted_asks h point _).bind
    intro mounted
    cases mounted with
    | true => exact ih
    | false => exact Traced.every_fail _ _

theorem checkPaths_asks (m : Transfer) : m.checkPaths.Every Act.Asks := by
  unfold checkPaths
  split
  · exact Traced.every_fail _ _
  · split
    · exact Traced.every_fail _ _
    · exact Traced.every_ok _ _

end Transfer

theorem Kind.plan_asks {k : Kind} (known : k ∈ Kind.all) (h : Host) (e : Entry) :
    (k.plan h e).Every Act.Asks := by
  simp only [Kind.all, List.mem_cons, List.not_mem_nil, or_false] at known
  obtain rfl | rfl | rfl := known
  · exact Traced.every_ok _ _
  · exact Traced.every_ok _ _
  · apply ((Transfer.ofEntry e).checkHost_asks h).bind
    intro _
    apply (Transfer.checkMounts_asks h _).bind
    intro _
    apply (Transfer.ofEntry e).checkPaths_asks.bind
    intro _
    exact Traced.every_ok _ _

theorem Kind.build_asks {k : Kind} (known : k ∈ Kind.all) (h : Host) (e : Entry) :
    (k.build h e).Every Act.Asks := by
  unfold build
  split
  · exact Traced.every_fail _ _
  · apply ((Kind.plan_asks known h e).mapError _).bind
    intro i
    exact Traced.every_ok _ _

theorem Entry.build_loads (h : Host) (e : Entry) : (e.build h).Every Act.Loads := by
  unfold build
  split
  · exact Traced.every_fail _ _
  · rename_i k found
    have asks := Kind.build_asks (List.mem_of_find?_eq_some found) h e
    apply Traced.Every.bind fun a ha => (asks a ha).loads
    intro c
    apply (Traced.every_act (Act.loads_debug _)).bind
    intro _
    exact Traced.every_ok _ _

theorem buildAll_loads (h : Host) (entries : List Entry) :
    (buildAll h entries).Every Act.Loads := by
  induction entries with
  | nil => exact Traced.every_ok _ _
  | cons e entries ih =>
    apply (e.build_loads h).bind
    intro c
    apply ih.bind
    intro cs
    exact Traced.every_ok _ _

theorem configurations_loads (h : Host) (text : String) :
    (configurations h text).Every Act.Loads := by
  unfold configurations
  split
  · exact Traced.every_fail _ _
  · apply (Traced.every_act (Act.loads_debug _)).bind
    intro _
    exact buildAll_loads h _

theorem load_loads (h : Host) (path : String) (content : Except String String) :
    (load h path content).Every Act.Loads := by
  cases content with
  | error reason => exact Traced.every_fail _ _
  | ok text => exact configurations_loads h text

end Shortcuts
