import Shortcuts.Machine.Utility.Filters.Sorting

/-!
# Sorted lines

Keys put lines in a linear preorder, whatever they look at (`transCmp_order`). So sorting gives the
lines again, each as often as before, none after one that it precedes, and lines that are alike in
their old order (`sorted_spec`). Of lines with equal keys the first is kept, and nothing else is lost
(`firsts_spec`).
-/

namespace Shortcuts.Machine.Filters

open Text Std

/-! ## Orders -/

theorem transCmp_octets : TransCmp fun a b : Octets => compareOfLessAndEq a b := by
  refine TransOrd.compareOfLessAndEq_of_lt_trans_of_lt_iff List.lt_trans fun a b => ?_
  constructor
  · intro less
    refine ⟨List.lt_asymm less, ?_⟩
    rintro rfl
    exact List.lt_irrefl a less
  · rintro ⟨atMost, other⟩
    refine Decidable.byContradiction fun atLeast => other ?_
    exact List.le_antisymm (List.not_lt.mp atMost) (List.not_lt.mp atLeast)

theorem transCmp_swap {α : Type} {cmp : α → α → Ordering} (trans : TransCmp cmp) :
    TransCmp fun a b => (cmp a b).swap := by
  have opposite : (fun a b => (cmp a b).swap) = fun a b => cmp b a := by
    funext a b
    exact OrientedCmp.eq_swap.symm
  rw [opposite]
  exact TransCmp.opposite

/-- What is seen of the lines may be compared in their place. -/
theorem transCmp_on {α β : Type} {cmp : β → β → Ordering} (trans : TransCmp cmp) (f : α → β) :
    TransCmp fun a b => cmp (f a) (f b) where
  eq_swap := OrientedCmp.eq_swap
  isLE_trans := TransCmp.isLE_trans

theorem transCmp_then {α : Type} {cmp cmp' : α → α → Ordering} (trans : TransCmp cmp)
    (trans' : TransCmp cmp') : TransCmp fun a b => (cmp a b).then (cmp' a b) :=
  inferInstanceAs (TransCmp (compareLex cmp cmp'))

theorem transCmp_eq {α : Type} : TransCmp fun _ _ : α => Ordering.eq where
  eq_swap := rfl
  isLE_trans := fun _ _ => rfl

theorem SortKey.transCmp (k : SortKey) : TransCmp k.order := by
  have numbers : TransCmp fun a b : Int => compareOfLessAndEq a b := inferInstanceAs (TransOrd Int)
  have upward : TransCmp fun a b : Octets =>
      if k.numeric then compareOfLessAndEq (leadingNumber a) (leadingNumber b)
      else compareOfLessAndEq (if k.folding then a.map Char.toUpper else a)
        (if k.folding then b.map Char.toUpper else b) := by
    cases k.numeric with
    | true => exact transCmp_on numbers leadingNumber
    | false => exact transCmp_on transCmp_octets fun a => if k.folding then a.map Char.toUpper else a
  unfold SortKey.order
  cases k.reverse with
  | true => exact transCmp_swap upward
  | false => exact upward

namespace Sorting

variable (s : Sorting)

theorem transCmp_byKeys : TransCmp s.byKeys := by
  have key (k : SortKey) (separator : Option Char) :
      TransCmp fun a b => k.order (k.part separator a) (k.part separator b) :=
    transCmp_on k.transCmp (k.part separator)
  have all (keys : List SortKey) : TransCmp fun a b => keys.foldr (fun k o =>
      (k.order (k.part s.separator a) (k.part s.separator b)).then o) .eq := by
    induction keys with
    | nil => exact transCmp_eq
    | cons k keys ih => exact transCmp_then (key k s.separator) ih
  unfold byKeys
  split
  · exact key s.whole none
  · exact all _

theorem transCmp_order : TransCmp s.order := by
  unfold order
  cases s.stable with
  | true => exact transCmp_then s.transCmp_byKeys transCmp_eq
  | false => exact transCmp_then s.transCmp_byKeys (SortKey.transCmp _)

/-! ## Lines -/

variable {s} {lines : List Octets}

theorem sorted_perm (s : Sorting) (lines : List Octets) : (s.sorted lines).Perm lines :=
  List.mergeSort_perm lines _

/-- No line comes after one that it precedes, and lines in order stay in their order. -/
theorem sorted_spec (s : Sorting) (lines : List Octets) :
    (s.sorted lines).Pairwise (fun a b => (s.order a b).isLE = true) ∧
    ∀ run, List.Sublist run lines → run.Pairwise (fun a b => (s.order a b).isLE = true) →
      List.Sublist run (s.sorted lines) := by
  have order := s.transCmp_order
  have trans (a b c : Octets) (ab : (s.order a b).isLE = true) (bc : (s.order b c).isLE = true) :
      (s.order a c).isLE = true := TransCmp.isLE_trans ab bc
  have total (a b : Octets) : ((s.order a b).isLE || (s.order b a).isLE) = true := by
    have swapped : s.order b a = (s.order a b).swap := OrientedCmp.eq_swap
    rw [swapped]
    cases s.order a b <;> rfl
  exact ⟨List.pairwise_mergeSort trans total lines,
    fun run part inOrder => List.sublist_mergeSort trans total inOrder part⟩

theorem head?_firsts (s : Sorting) (lines : List Octets) :
    (s.firsts lines).head? = lines.head? := by
  cases lines with
  | nil => rfl
  | cons a rest =>
    unfold firsts
    split
    · split <;> rfl
    · rfl

/-- Of lines in order, one is kept for all that have the same keys. -/
theorem firsts_spec (ordered : lines.Pairwise fun a b => (s.byKeys a b).isLE = true) :
    (s.firsts lines).Sublist lines ∧
    (s.firsts lines).Pairwise (fun a b => s.byKeys a b = .lt) ∧
    ∀ a ∈ lines, ∃ b ∈ s.firsts lines, s.byKeys b a = .eq := by
  have keys := s.transCmp_byKeys
  induction lines with
  | nil => exact ⟨List.Sublist.slnil, List.Pairwise.nil, List.forall_mem_nil _⟩
  | cons a rest ih =>
    obtain ⟨first, ordered⟩ := List.pairwise_cons.mp ordered
    obtain ⟨part, apart, kept⟩ := ih ordered
    have self : s.byKeys a a = .eq := ReflCmp.compare_self
    have head := s.head?_firsts rest
    unfold firsts
    cases shape : s.firsts rest with
    | nil =>
      rw [shape] at head
      obtain rfl := List.head?_eq_none_iff.mp head.symm
      refine ⟨List.Sublist.refl _, List.pairwise_singleton _ _, ?_⟩
      intro b hb
      obtain rfl := List.mem_singleton.mp hb
      exact ⟨b, List.mem_cons_self, self⟩
    | cons b more =>
      rw [shape] at head part apart kept
      have mem : b ∈ rest := List.mem_of_mem_head? head.symm
      obtain ⟨later, apart'⟩ := List.pairwise_cons.mp apart
      dsimp only
      by_cases same : s.byKeys a b = .eq
      · rw [if_pos same]
        refine ⟨(List.sublist_of_cons_sublist part).cons_cons a, ?_, ?_⟩
        · refine List.pairwise_cons.mpr ⟨fun x hx => ?_, apart'⟩
          exact TransCmp.lt_of_eq_of_lt same (later x hx)
        · refine List.forall_mem_cons.mpr ⟨⟨a, List.mem_cons_self, self⟩, fun x hx => ?_⟩
          obtain ⟨y, hy, equal⟩ := kept x hx
          obtain rfl | hy := List.mem_cons.mp hy
          · exact ⟨a, List.mem_cons_self, TransCmp.eq_trans same equal⟩
          · exact ⟨y, List.mem_cons_of_mem a hy, equal⟩
      · rw [if_neg same]
        have less : s.byKeys a b = .lt := by
          have le := first b mem
          cases found : s.byKeys a b with
          | lt => rfl
          | eq => exact absurd found same
          | gt => simp [found] at le
        refine ⟨part.cons_cons a, ?_, ?_⟩
        · refine List.pairwise_cons.mpr ⟨List.forall_mem_cons.mpr ⟨less, fun x hx => ?_⟩, apart⟩
          exact TransCmp.lt_trans less (later x hx)
        · refine List.forall_mem_cons.mpr ⟨⟨a, List.mem_cons_self, self⟩, fun x hx => ?_⟩
          obtain ⟨y, hy, equal⟩ := kept x hx
          exact ⟨y, List.mem_cons_of_mem a hy, equal⟩

/-- Sorting without repeats keeps one line for all that have the same keys, in order. -/
theorem firsts_sorted_spec (stable : s.stable = true) (lines : List Octets) :
    (s.firsts (s.sorted lines)).Pairwise (fun a b => s.byKeys a b = .lt) ∧
    (∀ a ∈ s.firsts (s.sorted lines), a ∈ lines) ∧
    ∀ a ∈ lines, ∃ b ∈ s.firsts (s.sorted lines), s.byKeys b a = .eq := by
  have keys_alone : s.order = s.byKeys := by
    funext a b
    unfold order
    rw [if_pos stable]
    exact Ordering.then_eq
  have ordered := (s.sorted_spec lines).1
  rw [keys_alone] at ordered
  obtain ⟨part, apart, kept⟩ := firsts_spec ordered
  have same (a : Octets) : a ∈ s.sorted lines ↔ a ∈ lines := (s.sorted_perm lines).mem_iff
  refine ⟨apart, fun a ha => (same a).mp (part.mem ha), fun a ha => kept a ((same a).mpr ha)⟩

end Sorting

end Shortcuts.Machine.Filters
