import Shortcuts.Trace

/-!
# Traced computations

A step after another adds its acts to the first one's, and the first failure ends them all. What
holds of the acts of every step holds of the acts of the whole.
-/

namespace Shortcuts

namespace Trace

@[simp] theorem queries_append (s t : Trace) : queries (s ++ t) = queries s ++ queries t :=
  List.filterMap_append

@[simp] theorem calls_append (s t : Trace) : calls (s ++ t) = calls s ++ calls t :=
  List.filterMap_append

theorem mem_events_iff {t : Trace} {e : Event} : e ∈ t.events ↔ .event e ∈ t := by
  constructor
  · intro mem
    obtain ⟨a, ha, shape⟩ := List.mem_filterMap.mp mem
    cases a with
    | event f => exact Option.some.inj shape ▸ ha
    | query | call | print | output | took => cases shape
  · intro mem
    exact List.mem_filterMap.mpr ⟨.event e, mem, rfl⟩

end Trace

namespace Traced

variable {ε δ α β : Type}

theorem pure_eq (a : α) : (pure a : Traced ε α) = ok a := rfl

theorem bind_of_ok {x : Traced ε α} {a : α} (h : x.result = .ok a) (f : α → Traced ε β) :
    x >>= f = ⟨x.acts ++ (f a).acts, (f a).result⟩ := by
  change x.andThen f = _
  simp only [andThen, h]

theorem bind_of_error {x : Traced ε α} {e : ε} (h : x.result = .error e) (f : α → Traced ε β) :
    x >>= f = ⟨x.acts, .error e⟩ := by
  change x.andThen f = _
  simp only [andThen, h]

theorem bind_eq_ok_iff {x : Traced ε α} {f : α → Traced ε β} {b : β} :
    (x >>= f).result = .ok b ↔ ∃ a, x.result = .ok a ∧ (f a).result = .ok b := by
  cases h : x.result with
  | error e => simp [bind_of_error h]
  | ok a => simp [bind_of_ok h]

theorem bind_eq_error_iff {x : Traced ε α} {f : α → Traced ε β} {e : ε} :
    (x >>= f).result = .error e ↔
      x.result = .error e ∨ ∃ a, x.result = .ok a ∧ (f a).result = .error e := by
  cases h : x.result with
  | error d => simp [bind_of_error h]
  | ok a => simp [bind_of_ok h]

theorem acts_bind_of_silent {x : Traced ε α} {f : α → Traced ε β} (silent : ∀ a, (f a).acts = []) :
    (x >>= f).acts = x.acts := by
  cases h : x.result with
  | error e => rw [bind_of_error h]
  | ok a => rw [bind_of_ok h, silent, List.append_nil]

theorem mapError_eq_error_iff {x : Except ε α} {f : ε → δ} {d : δ} :
    x.mapError f = .error d ↔ ∃ e, x = .error e ∧ f e = d := by
  cases x with
  | error e =>
    constructor
    · intro mapped
      exact ⟨e, rfl, Except.error.inj mapped⟩
    · rintro ⟨_, ⟨⟩, rfl⟩
      rfl
  | ok a =>
    refine iff_of_false nofun ?_
    rintro ⟨_, ⟨⟩, -⟩

theorem mapError_eq_ok_iff {x : Except ε α} {f : ε → δ} {a : α} :
    x.mapError f = .ok a ↔ x = .ok a := by
  cases x with
  | error e => exact iff_of_false nofun nofun
  | ok b => exact iff_of_eq ((Except.ok.injEq b a).trans (Except.ok.injEq b a).symm)

theorem act_bind (a : Act) (f : Unit → Traced ε β) :
    act a >>= f = ⟨a :: (f ()).acts, (f ()).result⟩ :=
  rfl

/-- Every act of the computation has this property. -/
def Every (P : Act → Prop) (x : Traced ε α) : Prop := ∀ a ∈ x.acts, P a

theorem every_ok (P : Act → Prop) (a : α) : (ok a : Traced ε α).Every P := by
  intro b hb
  cases hb

theorem every_fail (P : Act → Prop) (e : ε) : (fail e : Traced ε α).Every P := by
  intro b hb
  cases hb

theorem every_act {P : Act → Prop} {a : Act} (h : P a) : (act a : Traced ε Unit).Every P := by
  intro b hb
  rw [act, List.mem_singleton] at hb
  exact hb ▸ h

/-- What comes after a step may use how that step came out. -/
theorem Every.bind_of_ok {P : Act → Prop} {x : Traced ε α} {f : α → Traced ε β} (hx : x.Every P)
    (hf : ∀ a, x.result = .ok a → (f a).Every P) : (x >>= f).Every P := by
  cases h : x.result with
  | error e =>
    rw [bind_of_error h]
    exact hx
  | ok a =>
    rw [Traced.bind_of_ok h]
    intro b hb
    rcases List.mem_append.mp hb with first | next
    · exact hx b first
    · exact hf a h b next

theorem Every.bind {P : Act → Prop} {x : Traced ε α} {f : α → Traced ε β} (hx : x.Every P)
    (hf : ∀ a, (f a).Every P) : (x >>= f).Every P :=
  hx.bind_of_ok fun a _ => hf a

theorem Every.mapError {P : Act → Prop} {x : Traced ε α} (hx : x.Every P) (f : ε → δ) :
    (x.mapError f).Every P :=
  hx

end Traced

end Shortcuts
