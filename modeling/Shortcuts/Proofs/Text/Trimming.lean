import Mathlib.Data.List.DropRight
import Shortcuts.Text.Blank

/-!
# Trimming

A character that is not blank keeps its place, so trimming works on each side of it alone
(`trim_around`). The two ends can be trimmed in either order and any number of times.
-/

namespace Shortcuts.Text

theorem dropWhile_around {p : Char → Bool} {c : Char} (hc : p c = false) (a b : List Char) :
    (a ++ c :: b).dropWhile p = a.dropWhile p ++ c :: b := by
  rw [List.dropWhile_append]
  split
  · rename_i empty
    rw [List.isEmpty_iff.mp empty, List.dropWhile_cons_of_neg (by simp [hc]), List.nil_append]
  · rfl

theorem dropEndWhile_eq_rdropWhile (p : Char → Bool) (s : List Char) :
    dropEndWhile p s = s.rdropWhile p := by
  induction s using List.reverseRecOn with
  | nil => rfl
  | append_singleton s c ih =>
    rw [List.rdropWhile_concat, ← ih]
    clear ih
    induction s with
    | nil => rfl
    | cons d s ih =>
      simp only [List.cons_append, dropEndWhile, ih]
      by_cases hc : p c
      · simp only [hc, if_true]
      · simp only [hc]
        cases s <;> rfl

theorem dropEndWhile_around {p : Char → Bool} {c : Char} (hc : p c = false) (a b : List Char) :
    dropEndWhile p (a ++ c :: b) = a ++ c :: dropEndWhile p b := by
  simp only [dropEndWhile_eq_rdropWhile, List.rdropWhile, List.reverse_append, List.reverse_cons,
    List.append_assoc, List.singleton_append, dropWhile_around hc, List.reverse_reverse]

theorem trimStart_of_blank {s : List Char} (h : ∀ c ∈ s, isBlank c = true) : trimStart s = [] :=
  List.dropWhile_eq_nil_iff.mpr h

theorem trimEnd_of_blank {s : List Char} (h : ∀ c ∈ s, isBlank c = true) : trimEnd s = [] := by
  rw [trimEnd, dropEndWhile_eq_rdropWhile]
  exact List.rdropWhile_eq_nil_iff.mpr h

/-- A text is blank throughout, or some character of it stands in the way of trimming. -/
theorem blank_or_around (s : List Char) :
    (∀ c ∈ s, isBlank c = true) ∨ ∃ a c b, s = a ++ c :: b ∧ isBlank c = false := by
  by_cases h : ∀ c ∈ s, isBlank c = true
  · exact .inl h
  · push Not at h
    obtain ⟨c, hc, hb⟩ := h
    obtain ⟨a, b, rfl⟩ := List.append_of_mem hc
    exact .inr ⟨a, c, b, rfl, by simpa using hb⟩

theorem trimStart_around {c : Char} (hc : isBlank c = false) (a b : List Char) :
    trimStart (a ++ c :: b) = trimStart a ++ c :: b :=
  dropWhile_around hc a b

theorem trimEnd_around {c : Char} (hc : isBlank c = false) (a b : List Char) :
    trimEnd (a ++ c :: b) = a ++ c :: trimEnd b :=
  dropEndWhile_around hc a b

theorem trim_around {c : Char} (hc : isBlank c = false) (a b : List Char) :
    trim (a ++ c :: b) = trimStart a ++ c :: trimEnd b := by
  rw [trim, trimStart_around hc, trimEnd_around hc]

theorem trim_eq_trimStart_trimEnd (s : List Char) : trim s = trimStart (trimEnd s) := by
  obtain h | ⟨a, c, b, rfl, hc⟩ := blank_or_around s
  · rw [trim, trimStart_of_blank h, trimEnd_of_blank h]
    rfl
  · rw [trim_around hc, trimEnd_around hc, trimStart_around hc]

@[simp] theorem trim_trimStart (s : List Char) : trim (trimStart s) = trim s := by
  simp only [trim, trimStart, List.dropWhile_idempotent]

@[simp] theorem trim_trimEnd (s : List Char) : trim (trimEnd s) = trim s := by
  simp only [trim_eq_trimStart_trimEnd, trimEnd, dropEndWhile_eq_rdropWhile,
    List.rdropWhile_idempotent]

theorem trim_trim (s : List Char) : trim (trim s) = trim s := by
  change trim (trimEnd (trimStart s)) = trim s
  rw [trim_trimEnd, trim_trimStart]

theorem trim_sublist (s : List Char) : (trim s).Sublist s := by
  rw [trim, trimEnd, dropEndWhile_eq_rdropWhile]
  exact (List.rdropWhile_prefix _ _).sublist.trans (List.dropWhile_sublist _)

theorem trim_cons_blank {c : Char} (hc : isBlank c = true) (s : List Char) :
    trim (c :: s) = trim s := by
  simp only [trim, trimStart, List.dropWhile_cons_of_pos hc]

theorem trim_append_blank {c : Char} (hc : isBlank c = true) (s : List Char) :
    trim (s ++ [c]) = trim s := by
  simp only [trim_eq_trimStart_trimEnd, trimEnd, dropEndWhile_eq_rdropWhile,
    List.rdropWhile_concat_pos _ _ _ hc]

theorem trim_append_gap {gap : List Char} (h : ∀ c ∈ gap, isBlank c = true) (s : List Char) :
    trim (s ++ gap) = trim s := by
  induction gap using List.reverseRecOn with
  | nil => rw [List.append_nil]
  | append_singleton gap c ih =>
    obtain ⟨others, hc⟩ := List.forall_mem_append.mp h
    rw [← List.append_assoc, trim_append_blank (hc c (List.mem_singleton_self c)), ih others]

theorem not_blank_of_head?_trim {s : List Char} {c : Char} (h : (trim s).head? = some c) :
    isBlank c = false := by
  have kept := List.head?_dropWhile_not isBlank (trimEnd s)
  rw [trim_eq_trimStart_trimEnd, trimStart] at h
  simpa only [h] using kept

theorem not_blank_of_getLast?_trim {s : List Char} {c : Char} (h : (trim s).getLast? = some c) :
    isBlank c = false := by
  obtain ⟨hne, rfl⟩ := List.mem_getLast?_eq_getLast h
  simp only [trim, trimEnd, dropEndWhile_eq_rdropWhile] at hne ⊢
  simpa using List.rdropWhile_last_not _ _ hne

theorem trim_eq_self {s : List Char} (first : ∀ c, s.head? = some c → isBlank c = false)
    (last : ∀ c, s.getLast? = some c → isBlank c = false) : trim s = s := by
  have start : trimStart s = s := by
    cases s with
    | nil => rfl
    | cons c s => exact List.dropWhile_cons_of_neg (by simp [first c rfl])
  rw [trim, start, trimEnd, dropEndWhile_eq_rdropWhile, List.rdropWhile_eq_self_iff]
  intro hne
  simp [last _ (List.getLast?_eq_some_getLast hne)]

/-- Between two trimmed texts anything may stand. -/
theorem trim_between {a b : List Char} (ha : a ≠ []) (hb : b ≠ []) (startTrimmed : trim a = a)
    (endTrimmed : trim b = b) (s : List Char) : trim (a ++ s ++ b) = a ++ s ++ b := by
  apply trim_eq_self
  · intro c hc
    rw [List.append_assoc, List.head?_append_of_ne_nil _ ha] at hc
    exact not_blank_of_head?_trim (s := a) (by rw [startTrimmed, hc])
  · intro c hc
    rw [List.getLast?_append_of_ne_nil _ hb] at hc
    exact not_blank_of_getLast?_trim (s := b) (by rw [endTrimmed, hc])

/-- A blank put at the other end does not change where a trimmed text starts. -/
theorem head?_trimStart_append {s : List Char} (hs : trim s = s) {c : Char}
    (hc : isBlank c = true) : (trimStart (s ++ [c])).head? = s.head? := by
  cases s with
  | nil => simp [trimStart, hc]
  | cons d s =>
    have hd : isBlank d = false := not_blank_of_head?_trim (s := d :: s) (by simp [hs])
    simp [trimStart, hd]

theorem getLast?_trimEnd_cons {s : List Char} (hs : trim s = s) {c : Char}
    (hc : isBlank c = true) : (trimEnd (c :: s)).getLast? = s.getLast? := by
  cases s using List.reverseRecOn with
  | nil => simp [trimEnd, dropEndWhile, hc]
  | append_singleton s d =>
    have hd : isBlank d = false := not_blank_of_getLast?_trim (s := s ++ [d]) (by simp [hs])
    rw [← List.cons_append, trimEnd_around hd]
    change (c :: s ++ [d]).getLast? = (s ++ [d]).getLast?
    rw [List.getLast?_concat, List.getLast?_concat]

end Shortcuts.Text
