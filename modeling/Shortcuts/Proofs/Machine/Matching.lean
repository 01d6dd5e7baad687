import Shortcuts.Machine.Utility.Regex

/-!
# What a search finds

The ways to go on through an expression are the ways to read it (`exact_advance`), as long as it does
not look back at a group. So a search finds the leftmost match, and the longest of those that begin
there; where it finds none, there is none (`search_spec`). A plain text is found iff it is part of
the text that is searched (`search_ofPlain_isSome_iff`).

A part that may be empty could be gone round for ever. Rounds that need not be made and take
nothing change no reading, so those that are tried are enough.
-/

namespace Shortcuts.Machine.Regex

open Text

/-! ## Readings -/

/-- `k` readings one after the other. -/
inductive Times (reads : Octets → Octets → Octets → Prop) : Nat → Octets → Octets → Octets → Prop
  | none (before after : Octets) : Times reads 0 before [] after
  | next {k : Nat} {before s t after : Octets} (first : reads before s (t ++ after))
      (others : Times reads k (before ++ s) t after) : Times reads (k + 1) before (s ++ t) after

/-- `s` is a reading of the expression, after what the match has taken `before` and in front of
what comes `after`. -/
def Reads (start : Bool) : Regex → Octets → Octets → Octets → Prop
  | .empty, _, s, _ => s = []
  | .char c, _, s, _ => s = [c]
  | .any, _, s, _ => ∃ c, s = [c]
  | .oneOf negated members, _, s, _ => ∃ c, s = [c] ∧ members.contains c ≠ negated
  | .first, before, s, _ => s = [] ∧ start = true ∧ before = []
  | .last, _, s, after => s = [] ∧ after = []
  | .sequence a b, before, s, after =>
    ∃ t u, s = t ++ u ∧ a.Reads start before t (u ++ after) ∧ b.Reads start (before ++ t) u after
  | .either a b, before, s, after => a.Reads start before s after ∨ b.Reads start before s after
  | .repeated least most r, before, s, after =>
    ∃ k, least ≤ k ∧ (∀ m ∈ most, k ≤ m) ∧ Times (r.Reads start) k before s after
  | .group _ r, before, s, after => r.Reads start before s after
  | .again _, _, _, _ => False

/-- An expression that does not look back at what a group took. -/
def Forward : Regex → Prop
  | .sequence a b | .either a b => a.Forward ∧ b.Forward
  | .repeated _ _ r | .group _ r => r.Forward
  | .again _ => False
  | _ => True

/-- `q` is `p` once `s` was taken. -/
structure Progress.Takes (p : Progress) (s : Octets) (q : Progress) : Prop where
  taken : q.taken = p.taken ++ s
  rest : p.rest = s ++ q.rest

variable {start : Bool} {bound n : Nat} {p q q' : Progress} {s t : Octets} {r : Regex}

namespace Progress

theorem Takes.refl (p : Progress) : p.Takes [] p := ⟨(List.append_nil _).symm, rfl⟩

theorem Takes.trans (first : p.Takes s q) (second : q.Takes t q') : p.Takes (s ++ t) q' where
  taken := by rw [second.taken, first.taken, List.append_assoc]
  rest := by rw [first.rest, second.rest, List.append_assoc]

theorem Takes.rest_le (takes : p.Takes s q) : q.rest.length ≤ p.rest.length := by
  rw [takes.rest, List.length_append]
  exact Nat.le_add_left ..

end Progress

theorem mem_step_iff {fits : Char → Bool} :
    q ∈ p.step fits ↔ ∃ c rest, p.rest = c :: rest ∧ fits c = true ∧
      q = { p with taken := p.taken ++ [c], rest } := by
  unfold Progress.step
  split
  · rename_i c rest shape
    constructor
    · intro mem
      split at mem
      · rename_i fit
        exact ⟨c, rest, shape, fit, List.mem_singleton.mp mem⟩
      · cases mem
    · rintro ⟨d, more, same, fit, rfl⟩
      obtain ⟨rfl, rfl⟩ := List.cons.inj (shape.symm.trans same)
      rw [if_pos fit]
      exact List.mem_singleton_self _
  · rename_i shape
    simp [shape]

/-! ## Rounds -/

section Rounds

variable {once : Progress → List Progress} {reads : Octets → Octets → Octets → Prop} {least : Nat}
  {most : Option Nat}

/-- What the ways to go on are worth: each takes a reading, and each reading is taken. -/
structure Exact (bound : Nat) (once : Progress → List Progress)
    (reads : Octets → Octets → Octets → Prop) : Prop where
  sound : ∀ p, ∀ q ∈ once p, ∃ s, p.Takes s q ∧ reads p.taken s q.rest
  complete : ∀ p s after, p.rest.length ≤ bound → p.rest = s ++ after → reads p.taken s after →
    ∃ q ∈ once p, p.Takes s q

theorem rounds_succ : advance.rounds once least most (n + 1) p =
    (if most = some 0 then []
      else ((once p).filter fun q => p.taken.length < q.taken.length || 0 < least).flatMap
        (advance.rounds once (least - 1) (most.map (· - 1)) n)) ++
      if least = 0 then [p] else [] := by
  rw [advance.rounds]
  split <;> rfl

theorem mem_rounds_self (n : Nat) : p ∈ advance.rounds once 0 most n p := by
  cases n with
  | zero => exact List.mem_singleton_self p
  | succ n =>
    rw [rounds_succ]
    exact List.mem_append_right _ (List.mem_singleton_self p)

theorem sound_rounds (sound : ∀ p, ∀ q ∈ once p, ∃ s, p.Takes s q ∧ reads p.taken s q.rest)
    (mem : q ∈ advance.rounds once least most n p) :
    ∃ s, p.Takes s q ∧ ∃ k, least ≤ k ∧ (∀ m ∈ most, k ≤ m) ∧ Times reads k p.taken s q.rest := by
  have stay (none : least = 0) : ∃ s, p.Takes s p ∧
      ∃ k, least ≤ k ∧ (∀ m ∈ most, k ≤ m) ∧ Times reads k p.taken s p.rest :=
    ⟨[], .refl p, 0, Nat.le_of_eq none, fun _ _ => Nat.zero_le _, .none ..⟩
  induction n generalizing least most p with
  | zero =>
    rw [advance.rounds] at mem
    split at mem
    · rename_i none
      obtain rfl := List.mem_singleton.mp mem
      exact stay none
    · cases mem
  | succ n ih =>
    rw [rounds_succ, List.mem_append] at mem
    obtain mem | mem := mem
    · split at mem
      · cases mem
      · rename_i more
        obtain ⟨q', found, later⟩ := List.mem_flatMap.mp mem
        obtain ⟨s, first, read⟩ := sound p q' (List.mem_filter.mp found).1
        obtain ⟨t, others, k, enough, few, times⟩ := ih later fun none =>
          ⟨[], .refl q', 0, Nat.le_of_eq none, fun _ _ => Nat.zero_le _, .none ..⟩
        refine ⟨s ++ t, first.trans others, k + 1, by omega, fun m hm => ?_, ?_⟩
        · subst hm
          have fewer := few (m - 1) rfl
          have positive : m ≠ 0 := fun zero => more (congrArg some zero)
          omega
        · rw [first.taken] at times
          rw [others.rest] at read
          exact .next read times
    · split at mem
      · rename_i none
        obtain rfl := List.mem_singleton.mp mem
        exact stay none
      · cases mem

theorem complete_rounds (exact : Exact bound once reads) {k : Nat} {before after : Octets}
    (times : Times reads k before s after) (enough : least ≤ k) (few : ∀ m ∈ most, k ≤ m)
    (fuel : least + s.length ≤ n) {p : Progress} (small : p.rest.length ≤ bound)
    (taken : p.taken = before) (rest : p.rest = s ++ after) :
    ∃ q ∈ advance.rounds once least most n p, p.Takes s q := by
  induction times generalizing least most n p with
  | none before after =>
    obtain rfl := Nat.le_zero.mp enough
    exact ⟨p, mem_rounds_self n, .refl p⟩
  | @next k before s t after first others ih =>
    rw [List.append_assoc] at rest
    rw [List.length_append] at fuel
    obtain ⟨q, found, takes⟩ := exact.complete p s (t ++ after) small rest (taken ▸ first)
    have rest' : q.rest = t ++ after := List.append_cancel_left (takes.rest.symm.trans rest)
    by_cases idle : s = [] ∧ least = 0
    · -- A round that need not be made and takes nothing is left out.
      obtain ⟨rfl, rfl⟩ := idle
      rw [List.append_nil] at ih
      exact ih (Nat.zero_le k) (fun m hm => Nat.le_of_succ_le (few m hm)) (by simpa using fuel) small
        taken rest
    · have more : most ≠ some 0 := by
        rintro rfl
        exact absurd (few 0 rfl) (Nat.not_succ_le_zero k)
      have busy : 0 < s.length ∨ 0 < least := by
        by_cases none : least = 0
        · exact .inl (List.length_pos_iff.mpr fun empty => idle ⟨empty, none⟩)
        · exact .inr (Nat.pos_of_ne_zero none)
      obtain ⟨j, rfl⟩ : ∃ j, n = j + 1 := ⟨n - 1, by omega⟩
      have fewer : ∀ m ∈ most.map (· - 1), k ≤ m := by
        intro m hm
        obtain ⟨m', given, rfl⟩ := Option.map_eq_some_iff.mp hm
        exact Nat.le_sub_of_add_le (few m' given)
      have fuel' : least - 1 + t.length ≤ j := by omega
      have small' := Nat.le_trans takes.rest_le small
      have taken' : q.taken = before ++ s := takes.taken.trans (congrArg (· ++ s) taken)
      obtain ⟨q', later, takes'⟩ :=
        ih (Nat.sub_le_of_le_add enough) fewer fuel' small' taken' rest'
      refine ⟨q', ?_, takes.trans takes'⟩
      rw [rounds_succ, if_neg more]
      refine List.mem_append_left _ (List.mem_flatMap.mpr ⟨q, ?_, later⟩)
      rw [List.mem_filter, takes.taken, List.length_append]
      simpa using ⟨found, busy⟩

end Rounds

/-! ## Ways to go on -/

section Exact

variable {once again : Progress → List Progress} {reads later : Octets → Octets → Octets → Prop}

/-- Nothing is taken, and all depends on the place. -/
theorem exact_stay (holds : Octets → Octets → Bool)
    (here : ∀ before s after, reads before s after ↔ s = [] ∧ holds before after = true) :
    Exact bound (fun p => if holds p.taken p.rest then [p] else []) reads where
  sound p q mem := by
    split at mem
    · rename_i held
      obtain rfl := List.mem_singleton.mp mem
      exact ⟨[], .refl q, (here ..).mpr ⟨rfl, held⟩⟩
    · cases mem
  complete p s after _ rest read := by
    obtain ⟨rfl, held⟩ := (here ..).mp read
    obtain rfl : p.rest = after := rest
    refine ⟨p, ?_, .refl p⟩
    rw [if_pos held]
    exact List.mem_singleton_self p

theorem exact_step {fits : Char → Bool}
    (one : ∀ before s after, reads before s after ↔ ∃ c, s = [c] ∧ fits c = true) :
    Exact bound (fun p => p.step fits) reads where
  sound p q mem := by
    obtain ⟨c, rest, shape, fit, rfl⟩ := mem_step_iff.mp mem
    exact ⟨[c], ⟨rfl, shape⟩, (one ..).mpr ⟨c, rfl, fit⟩⟩
  complete p s after _ rest read := by
    obtain ⟨c, rfl, fit⟩ := (one ..).mp read
    exact ⟨_, mem_step_iff.mpr ⟨c, after, rest, fit, rfl⟩, rfl, rest⟩

theorem Exact.sequence (first : Exact bound once reads) (second : Exact bound again later) :
    Exact bound (fun p => (once p).flatMap again) fun before s after =>
      ∃ t u, s = t ++ u ∧ reads before t (u ++ after) ∧ later (before ++ t) u after where
  sound p q mem := by
    obtain ⟨q', found, mem⟩ := List.mem_flatMap.mp mem
    obtain ⟨s, takes, read⟩ := first.sound p q' found
    obtain ⟨t, takes', read'⟩ := second.sound q' q mem
    exact ⟨s ++ t, takes.trans takes', s, t, rfl, takes'.rest ▸ read, takes.taken ▸ read'⟩
  complete p s after small rest read := by
    obtain ⟨t, u, rfl, read, read'⟩ := read
    rw [List.append_assoc] at rest
    obtain ⟨q', found, takes⟩ := first.complete p t (u ++ after) small rest read
    have rest' : q'.rest = u ++ after := List.append_cancel_left (takes.rest.symm.trans rest)
    have small' := Nat.le_trans takes.rest_le small
    obtain ⟨q, mem, takes'⟩ := second.complete q' u after small' rest' (takes.taken ▸ read')
    exact ⟨q, List.mem_flatMap.mpr ⟨q', found, mem⟩, takes.trans takes'⟩

theorem Exact.either (first : Exact bound once reads) (second : Exact bound again later) :
    Exact bound (fun p => once p ++ again p) fun before s after =>
      reads before s after ∨ later before s after where
  sound p q mem := by
    obtain mem | mem := List.mem_append.mp mem
    · obtain ⟨s, takes, read⟩ := first.sound p q mem
      exact ⟨s, takes, .inl read⟩
    · obtain ⟨s, takes, read⟩ := second.sound p q mem
      exact ⟨s, takes, .inr read⟩
  complete p s after small rest read := by
    obtain read | read := read
    · obtain ⟨q, found, takes⟩ := first.complete p s after small rest read
      exact ⟨q, List.mem_append_left _ found, takes⟩
    · obtain ⟨q, found, takes⟩ := second.complete p s after small rest read
      exact ⟨q, List.mem_append_right _ found, takes⟩

theorem Exact.repeated (exact : Exact bound once reads) (least : Nat) (most : Option Nat) :
    Exact bound (advance.rounds once least most (least + bound)) fun before s after =>
      ∃ k, least ≤ k ∧ (∀ m ∈ most, k ≤ m) ∧ Times reads k before s after where
  sound p q mem := sound_rounds exact.sound mem
  complete p s after small rest read := by
    obtain ⟨k, enough, few, times⟩ := read
    have fuel : least + s.length ≤ least + bound := by
      rw [rest, List.length_append] at small
      omega
    exact complete_rounds exact times enough few fuel small rfl rest

/-- A note of what was taken changes neither what is left nor what was taken. -/
theorem Exact.noted (exact : Exact bound once reads)
    (note : Progress → Progress → List (Nat × Octets)) :
    Exact bound (fun p => (once p).map fun q => { q with groups := note p q }) reads where
  sound p q mem := by
    obtain ⟨q', found, rfl⟩ := List.mem_map.mp mem
    obtain ⟨s, takes, read⟩ := exact.sound p q' found
    exact ⟨s, ⟨takes.taken, takes.rest⟩, read⟩
  complete p s after small rest read := by
    obtain ⟨q', found, takes⟩ := exact.complete p s after small rest read
    exact ⟨_, List.mem_map.mpr ⟨q', found, rfl⟩, takes.taken, takes.rest⟩

end Exact

/-- The ways to go on through an expression are its readings. -/
theorem exact_advance (forward : r.Forward) (start : Bool) (bound : Nat) :
    Exact bound (advance start bound r) (r.Reads start) := by
  induction r with
  | empty => exact exact_stay (fun _ _ => true) fun _ s _ => by simp [Reads]
  | char c => exact exact_step fun _ s _ => by simp [Reads]
  | any => exact exact_step fun _ s _ => by simp [Reads]
  | oneOf negated members => exact exact_step fun _ s _ => by simp [Reads]
  | first =>
    exact exact_stay (fun before _ => start && before.isEmpty) fun _ s _ => by simp [Reads]
  | last => exact exact_stay (fun _ after => after.isEmpty) fun _ s _ => by simp [Reads]
  | sequence a b iha ihb => exact (iha forward.1).sequence (ihb forward.2)
  | either a b iha ihb => exact (iha forward.1).either (ihb forward.2)
  | repeated least most r ih => exact (ih forward).repeated least most
  | group number r ih =>
    exact (ih forward).noted fun p q => (number, q.taken.drop p.taken.length) :: q.groups
  | again number => exact forward.elim

/-! ## Searches -/

/-- What is picked is one of the matches, and none is longer. -/
theorem foldl_longer (ps : List Progress) (b : Progress) :
    ∃ p, ps.foldl longer (some b) = some p ∧ (p = b ∨ p ∈ ps) ∧
      b.taken.length ≤ p.taken.length ∧ ∀ q ∈ ps, q.taken.length ≤ p.taken.length := by
  induction ps generalizing b with
  | nil => exact ⟨b, rfl, .inl rfl, Nat.le_refl _, List.forall_mem_nil _⟩
  | cons q ps ih =>
    rw [List.foldl_cons]
    by_cases longer_q : b.taken.length < q.taken.length
    · rw [longer, if_pos longer_q]
      obtain ⟨p, picked, mem, atLeast, others⟩ := ih q
      refine ⟨p, picked, .inr ?_, by omega, List.forall_mem_cons.mpr ⟨atLeast, others⟩⟩
      exact List.mem_cons.mpr mem
    · rw [longer, if_neg longer_q]
      obtain ⟨p, picked, mem, atLeast, others⟩ := ih b
      refine ⟨p, picked, mem.imp_right (List.mem_cons_of_mem q), atLeast, ?_⟩
      exact List.forall_mem_cons.mpr ⟨by omega, others⟩

theorem matchHere_cases (r : Regex) (start : Bool) (text : Octets) :
    (r.matchHere start text = none ∧ advance start (text.length + 1) r { rest := text } = []) ∨
    ∃ p, r.matchHere start text = some p ∧
      p ∈ advance start (text.length + 1) r { rest := text } ∧
      ∀ q ∈ advance start (text.length + 1) r { rest := text }, q.taken.length ≤ p.taken.length := by
  unfold matchHere
  cases advance start (text.length + 1) r { rest := text } with
  | nil => exact .inl ⟨rfl, rfl⟩
  | cons q ps =>
    obtain ⟨p, picked, mem, atLeast, others⟩ := foldl_longer ps q
    exact .inr ⟨p, picked, List.mem_cons.mpr mem, List.forall_mem_cons.mpr ⟨atLeast, others⟩⟩

/-- A reading of the text from its beginning, with what follows it. -/
def ReadsHere (r : Regex) (start : Bool) (text s after : Octets) : Prop :=
  text = s ++ after ∧ r.Reads start [] s after

theorem matchHere_spec (forward : r.Forward) (start : Bool) (text : Octets) :
    match r.matchHere start text with
    | none => ∀ s after, ¬r.ReadsHere start text s after
    | some p => r.ReadsHere start text p.taken p.rest ∧
        ∀ s after, r.ReadsHere start text s after → s.length ≤ p.taken.length := by
  have exact := exact_advance forward start (text.length + 1)
  have found (s after : Octets) (reads : r.ReadsHere start text s after) :=
    exact.complete { rest := text } s after (Nat.le_succ _) reads.1 reads.2
  obtain ⟨none, empty⟩ | ⟨p, some_p, mem, longest⟩ := matchHere_cases r start text
  · rw [none]
    intro s after reads
    obtain ⟨q, mem, -⟩ := found s after reads
    rw [empty] at mem
    cases mem
  · rw [some_p]
    obtain ⟨s, takes, read⟩ := exact.sound _ p mem
    obtain rfl : p.taken = s := takes.taken
    refine ⟨⟨takes.rest, read⟩, fun s after reads => ?_⟩
    obtain ⟨q, mem', takes'⟩ := found s after reads
    have shorter := longest q mem'
    rwa [takes'.taken] at shorter

/-- A match in a text, after what is before it and in front of what comes after. -/
def Occurs (r : Regex) (start : Bool) (text before s after : Octets) : Prop :=
  text = before ++ (s ++ after) ∧ r.Reads (start && before.isEmpty) [] s after

theorem occurs_nil {text after : Octets} :
    r.Occurs start text [] s after ↔ r.ReadsHere start text s after := by
  simp [Occurs, ReadsHere]

theorem occurs_cons {c d : Char} {rest before after : Octets} :
    r.Occurs start (c :: rest) (d :: before) s after ↔
      c = d ∧ r.Occurs false rest before s after := by
  simp [Occurs, and_assoc]

/-- A search finds the leftmost match, and the longest of those that begin there. Where it finds
none, there is none. -/
theorem search_spec (forward : r.Forward) (start : Bool) (text : Octets) :
    match r.search start text with
    | none => ∀ before s after, ¬r.Occurs start text before s after
    | some (before, p) => r.Occurs start text before p.taken p.rest ∧
        ∀ before' s after, r.Occurs start text before' s after →
          before.length < before'.length ∨ before = before' ∧ s.length ≤ p.taken.length := by
  induction text generalizing start with
  | nil =>
    have here := matchHere_spec forward start []
    have nowhere {before s after : Octets} (occurs : r.Occurs start [] before s after) :
        before = [] := (List.append_eq_nil_iff.mp occurs.1.symm).1
    rw [search]
    cases matched : r.matchHere start [] with
    | none =>
      rw [matched] at here
      intro before s after occurs
      obtain rfl := nowhere occurs
      exact here s after (occurs_nil.mp occurs)
    | some p =>
      rw [matched] at here
      refine ⟨occurs_nil.mpr here.1, fun before s after occurs => .inr ?_⟩
      obtain rfl := nowhere occurs
      exact ⟨rfl, here.2 s after (occurs_nil.mp occurs)⟩
  | cons c rest ih =>
    have here := matchHere_spec forward start (c :: rest)
    rw [search]
    cases matched : r.matchHere start (c :: rest) with
    | some p =>
      rw [matched] at here
      refine ⟨occurs_nil.mpr here.1, fun before s after occurs => ?_⟩
      cases before with
      | nil => exact .inr ⟨rfl, here.2 s after (occurs_nil.mp occurs)⟩
      | cons d before => exact .inl (Nat.zero_lt_succ _)
    | none =>
      rw [matched] at here
      have later := ih false
      cases found : r.search false rest with
      | none =>
        rw [found] at later
        intro before s after occurs
        cases before with
        | nil => exact here s after (occurs_nil.mp occurs)
        | cons d before => exact later before s after (occurs_cons.mp occurs).2
      | some place =>
        rw [found] at later
        refine ⟨occurs_cons.mpr ⟨rfl, later.1⟩, fun before s after occurs => ?_⟩
        cases before with
        | nil => exact absurd (occurs_nil.mp occurs) (here s after)
        | cons d before =>
          obtain ⟨rfl, deeper⟩ := occurs_cons.mp occurs
          obtain further | ⟨same, shorter⟩ := later.2 before s after deeper
          · exact .inl (Nat.succ_lt_succ further)
          · exact .inr ⟨congrArg (c :: ·) same, shorter⟩

/-! ## Plain texts -/

theorem forward_ofPlain (w : Octets) : (ofPlain false w).Forward := by
  induction w with
  | nil => exact trivial
  | cons c w ih => exact ⟨trivial, ih⟩

theorem reads_ofPlain {w before after : Octets} :
    (ofPlain false w).Reads start before s after ↔ s = w := by
  induction w generalizing before s with
  | nil => exact Iff.rfl
  | cons c w ih =>
    constructor
    · rintro ⟨t, u, rfl, one, others⟩
      obtain rfl : t = [c] := one
      rw [ih.mp others]
      rfl
    · rintro rfl
      exact ⟨[c], w, rfl, rfl, ih.mpr rfl⟩

/-- A plain text is found where it stands, and nowhere else. -/
theorem search_ofPlain_isSome_iff {w text : Octets} :
    ((ofPlain false w).search start text).isSome = true ↔ w <:+: text := by
  have found := search_spec (forward_ofPlain w) start text
  cases searched : (ofPlain false w).search start text with
  | none =>
    rw [searched] at found
    refine iff_of_false Bool.false_ne_true ?_
    rintro ⟨before, after, whole⟩
    rw [List.append_assoc] at whole
    exact found before w after ⟨whole.symm, reads_ofPlain.mpr rfl⟩
  | some place =>
    rw [searched] at found
    obtain ⟨⟨whole, read⟩, -⟩ := found
    refine iff_of_true rfl ⟨place.1, place.2.rest, ?_⟩
    rw [← reads_ofPlain.mp read, List.append_assoc]
    exact whole.symm

end Shortcuts.Machine.Regex
