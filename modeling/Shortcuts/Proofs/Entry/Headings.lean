import Shortcuts.Entry.Printer
import Shortcuts.Proofs.Entry.Segments

/-!
# Headings

The kind and the key of an entry that was read are words: not empty, on one line, without a space
and without a blank at either end (`word_of_parse`). A key may still hold any other blank inside.
-/

namespace Shortcuts.Grammar

open Text

/-! ## Parts of a line -/

theorem before_sublist (p : Char) (s : List Char) : (before p s).Sublist s :=
  (trim_sublist _).trans (List.takeWhile_sublist _)

theorem after_sublist (p : Char) (s : List Char) : (after p s).Sublist s :=
  (trim_sublist _).trans ((List.tail_sublist _).trans (List.dropWhile_sublist _))

theorem inner_sublist (line : List Char) : (inner line).Sublist line :=
  (trim_sublist _).trans ((List.dropLast_sublist _).trans
    ((List.tail_sublist _).trans (trim_sublist _)))

theorem not_mem_before (p : Char) (s : List Char) : p ∉ before p s := by
  intro mem
  have other := List.mem_takeWhile_imp ((trim_sublist _).subset mem)
  simp at other

variable {line : List Char}

theorem after_concat {p c : Char} {front : List Char} (visible : isBlank c = false)
    (mem : p ∈ front) :
    after p (front ++ [c]) = trimStart (front.dropWhile (· != p)).tail ++ [c] := by
  have parted : front.dropWhile (· != p) ≠ [] := by
    intro gone
    have other := List.dropWhile_eq_nil_iff.mp gone _ mem
    simp at other
  obtain ⟨d, rest, found⟩ := List.exists_cons_of_ne_nil parted
  rw [after, List.dropWhile_append, found, List.isEmpty_cons, if_neg Bool.false_ne_true,
    List.cons_append, List.tail_cons, trim_around visible]
  rfl

/-- A trimmed text does not end with a space, so there is always a key after the first one. -/
theorem after_space_ne_nil (space : ' ' ∈ inner line) : after ' ' (inner line) ≠ [] := by
  cases shape : inner line using List.reverseRecOn with
  | nil =>
    rw [shape] at space
    cases space
  | append_singleton front c =>
    have visible : isBlank c = false :=
      not_blank_of_getLast?_trim (by rw [← inner, shape, List.getLast?_concat])
    have earlier : ' ' ∈ front := by
      rw [shape, List.mem_append, List.mem_singleton] at space
      apply space.resolve_right
      rintro rfl
      exact absurd visible (by decide)
    rw [after_concat visible earlier]
    exact List.append_ne_nil_of_right_ne_nil _ (List.cons_ne_nil _ _)

/-! ## Words -/

theorem word_ofList {s : List Char} (named : s ≠ []) (space : ' ' ∉ s) (newline : '\n' ∉ s)
    (trimmed : trim s = s) : Word (String.ofList s) := by
  have same := String.toList_ofList (l := s)
  refine ⟨?_, ?_, ?_, ?_⟩
  · intro empty
    rw [← same, empty] at named
    exact named rfl
  · rwa [same]
  · rwa [OneLine, same]
  · rwa [Trimmed, same]

theorem word_heading (good : IsGood line) (oneLine : '\n' ∉ line) :
    Word (heading line).kind ∧ Word (heading line).key := by
  obtain ⟨space, single⟩ := good
  have newline : '\n' ∉ inner line := fun mem => oneLine ((inner_sublist line).subset mem)
  constructor
  · exact word_ofList (before_space_ne_nil space) (not_mem_before ' ' _)
      (fun mem => newline ((before_sublist ' ' _).subset mem)) (trim_trim _)
  · exact word_ofList (after_space_ne_nil space) single
      (fun mem => newline ((after_sublist ' ' _).subset mem)) (trim_trim _)

theorem exists_header_of_mem_entries {ls : List (List Char)} {e : Entry} (h : e ∈ entries ls) :
    ∃ line ∈ ls, IsHeader line ∧ e.kind = (heading line).kind ∧ e.key = (heading line).key := by
  induction ls with
  | nil => simp [entries, entryAt?] at h
  | cons line rest ih =>
    by_cases header : IsHeader line
    · rw [entries_of_header header] at h
      rcases List.mem_cons.mp h with rfl | later
      · exact ⟨line, List.mem_cons_self, header, rfl, rfl⟩
      · obtain ⟨l, hl, found⟩ := ih later
        exact ⟨l, List.mem_cons_of_mem _ hl, found⟩
    · rw [entries_of_not_header header] at h
      obtain ⟨l, hl, found⟩ := ih h
      exact ⟨l, List.mem_cons_of_mem _ hl, found⟩

theorem word_of_parse {text : String} {es : List Entry} (read : parse text = .ok es) {e : Entry}
    (he : e ∈ es) : Word e.kind ∧ Word e.key := by
  obtain ⟨sound, rfl⟩ := readLines_eq_ok_iff.mp read
  obtain ⟨line, hl, header, kind, key⟩ := exists_header_of_mem_entries he
  have good := ((sound_iff_accepts _).mp sound).good line hl header
  rw [kind, key]
  exact word_heading good (newline_not_mem_of_mem_lines hl)

end Shortcuts.Grammar
