import Shortcuts.Proofs.Configuration.FirstFailure
import Shortcuts.Proofs.Entry.WellFormed
import Shortcuts.Proofs.Kind.Transfer

/-!
# Texts on one line

No part of a well-formed entry has a newline. Neither building nor quoting brings one in, so a
configuration of a file has none in its key or in its command line (`Builds.onOneLine`).
-/

namespace Shortcuts

open Text

instance (s : String) : Decidable (OneLine s) := inferInstanceAs (Decidable ('\n' ∉ s.toList))

@[simp] theorem oneLine_append {s t : String} : OneLine (s ++ t) ↔ OneLine s ∧ OneLine t := by
  simp [OneLine, not_or]

@[simp] theorem oneLine_ofList {s : List Char} : OneLine (String.ofList s) ↔ '\n' ∉ s := by
  rw [OneLine, String.toList_ofList]

theorem oneLine_repr (n : Nat) : OneLine n.repr := by
  rw [OneLine, Nat.toList_repr]
  intro mem
  exact absurd (Nat.isDigit_of_mem_toDigits (by decide) (by decide) mem) (by decide)

@[simp] theorem oneLine_toString (n : Nat) : OneLine (toString n) := oneLine_repr n

@[simp] theorem oneLine_toString_int (i : Int) : OneLine (toString i) := by
  cases i with
  | ofNat n => exact oneLine_repr n
  | negSucc n => exact oneLine_append.mpr ⟨by decide, oneLine_repr (n + 1)⟩

/-! ## Command lines -/

theorem newline_not_mem_quote {w : List Char} (h : '\n' ∉ w) : '\n' ∉ quote w := by
  unfold quote
  split
  · exact h
  · have inside : '\n' ∉ w.flatMap quoteChar := by
      intro mem
      obtain ⟨c, hc, shown⟩ := List.mem_flatMap.mp mem
      unfold quoteChar at shown
      split at shown
      · exact absurd shown (by decide)
      · exact h (List.mem_singleton.mp shown ▸ hc)
    simp [inside]

/-- No newline stands in the program or in an argument. -/
def Invocation.OnOneLine (i : Invocation) : Prop := ∀ w ∈ i.words, OneLine w

theorem Invocation.OnOneLine.display {i : Invocation} (h : i.OnOneLine) : OneLine i.display := by
  obtain ⟨program, args⟩ := List.forall_mem_cons.mp h
  rw [Invocation.display, Invocation.line, oneLine_ofList, List.mem_append, List.mem_flatMap]
  rintro (mem | ⟨arg, ha, mem⟩)
  · exact newline_not_mem_quote program mem
  · exact newline_not_mem_quote (args arg ha) ((List.mem_cons.mp mem).resolve_left (by decide))

/-! ## Entries -/

namespace Entry.WellFormed

variable {e : Entry}

theorem oneLine_of_mem_given (formed : e.WellFormed) (name : String) :
    ∀ v ∈ e.given name, OneLine v := by
  intro v hv
  obtain ⟨p, hp, rfl⟩ := List.mem_map.mp hv
  exact (formed.parameters p (List.mem_of_mem_filter hp)).value_line

theorem oneLine_value (formed : e.WellFormed) (name : String) : OneLine (e.value name) := by
  have given := formed.oneLine_of_mem_given name
  unfold value
  cases values : e.given name with
  | nil => decide
  | cons v vs => exact given v (values ▸ List.mem_cons_self)

theorem oneLine_of_mem_values (formed : e.WellFormed) (name : String) :
    ∀ v ∈ e.values name, OneLine v :=
  fun v hv => formed.oneLine_of_mem_given name v (List.mem_of_mem_filter hv)

end Entry.WellFormed

/-! ## Plans -/

theorem dropSlash_sublist (s : List Char) : (dropSlash s).Sublist s := by
  unfold dropSlash
  split
  · exact List.sublist_cons_self _ _
  · exact List.Sublist.refl _

theorem dropEndSlash_sublist (s : List Char) : (dropEndSlash s).Sublist s := by
  unfold dropEndSlash
  split
  · exact List.dropLast_sublist s
  · exact List.Sublist.refl s

theorem oneLine_rebase {base source : String} (hb : OneLine base) (hs : OneLine source) :
    OneLine (rebase base source) := by
  rw [rebase, oneLine_ofList, under]
  split
  · exact hs
  · rw [List.mem_append, List.mem_cons]
    rintro (mem | sep | mem)
    · exact hb ((dropEndSlash_sublist _).subset mem)
    · exact absurd sep (by decide)
    · exact hs ((dropSlash_sublist _).subset mem)

theorem Transfer.oneLine_of_mem_arguments {e : Entry} (formed : e.WellFormed) :
    ∀ arg ∈ (ofEntry e).arguments, OneLine arg := by
  intro arg mem
  simp only [arguments, List.mem_append, List.mem_flatMap, List.mem_map, List.mem_singleton] at mem
  obtain ((flag | ⟨pattern, excluded, mem⟩) | ⟨source, hs, rfl⟩) | rfl := mem
  · exact formed.oneLine_of_mem_values _ arg flag
  · rcases List.mem_cons.mp mem with rfl | shown
    · decide
    · exact List.mem_singleton.mp shown ▸ formed.oneLine_of_mem_values _ pattern excluded
  · exact oneLine_rebase (formed.oneLine_value _) (formed.oneLine_of_mem_values _ source hs)
  · exact formed.oneLine_value _

theorem Kind.plan_onOneLine {k : Kind} (known : k ∈ Kind.all) {h : Host} {e : Entry}
    (formed : e.WellFormed) {i : Invocation} (planned : (k.plan h e).result = .ok i) :
    i.OnOneLine := by
  simp only [Kind.all, List.mem_cons, List.not_mem_nil, or_false] at known
  obtain rfl | rfl | rfl := known
  · have program : OneLine "/usr/bin/unison" := by decide
    obtain rfl := Except.ok.inj planned
    exact List.forall_mem_cons.mpr
      ⟨program, List.forall_mem_singleton.mpr (formed.oneLine_value _)⟩
  · obtain rfl := Except.ok.inj planned
    exact List.forall_mem_cons.mpr ⟨formed.oneLine_value _, formed.oneLine_of_mem_values _⟩
  · have program : OneLine "/usr/bin/rsync" := by decide
    obtain ⟨-, -, rfl⟩ := Kind.transfer_plan_eq_ok_iff.mp planned
    exact List.forall_mem_cons.mpr ⟨program, Transfer.oneLine_of_mem_arguments formed⟩

/-! ## Configurations -/

structure Configuration.OnOneLine (c : Configuration) : Prop where
  key : OneLine c.key
  kind : OneLine c.kind
  invocation : c.invocation.OnOneLine

theorem Entry.Builds.onOneLine {h : Host} {e : Entry} {c : Configuration} (built : e.Builds h c)
    (formed : e.WellFormed) : c.OnOneLine := by
  obtain ⟨k, i, known, named, fits, planned⟩ := built
  exact ⟨formed.key_word.2.2.1, formed.kind_word.2.2.1, Kind.plan_onOneLine known formed planned⟩

end Shortcuts
