import Shortcuts.Proofs.Entry.Headings
import Shortcuts.Proofs.Entry.RoundTrip

/-!
# What files give

No check states that an entry is well-formed; it follows from the order in which a line is trimmed,
tested and cut. The entries that files give are exactly the well-formed ones, and what is written of
them gives them too (`given_iff_wellFormed`).
-/

namespace Shortcuts.Grammar

open Text

/-! ## The two sides of a cut -/

theorem head?_before {p c : Char} {s : List Char} (trimmed : trim s = s)
    (first : (before p s).head? = some c) : s.head? = some c := by
  cases s with
  | nil => cases first
  | cons d r =>
    have visible : isBlank d = false := not_blank_of_head?_trim (s := d :: r) (by rw [trimmed]; rfl)
    by_cases here : d = p
    · rw [before, List.takeWhile_cons_of_neg (by simp [here])] at first
      cases first
    · have around := trim_around visible [] (r.takeWhile (· != p))
      rw [List.nil_append] at around
      rw [before, List.takeWhile_cons_of_pos (by simpa using here), around] at first
      exact first

theorem getLast?_after {p c : Char} {s : List Char} (trimmed : trim s = s)
    (last : (after p s).getLast? = some c) : s.getLast? = some c := by
  cases s using List.reverseRecOn with
  | nil => cases last
  | append_singleton front d =>
    have visible : isBlank d = false :=
      not_blank_of_getLast?_trim (s := front ++ [d]) (by rw [trimmed, List.getLast?_concat])
    rw [List.getLast?_concat]
    by_cases mem : p ∈ front
    · rw [after_concat visible mem, List.getLast?_concat] at last
      exact last
    · have gone : front.dropWhile (· != p) = [] := by
        rw [List.dropWhile_eq_nil_iff]
        intro e he
        have other : e ≠ p := fun same => mem (same ▸ he)
        simpa using other
      have nothing : after p (front ++ [d]) = [] := by
        rw [after, List.dropWhile_append, gone, List.isEmpty_nil, if_pos rfl]
        by_cases here : d = p <;> simp [here, trim, trimStart, trimEnd, dropEndWhile]
      rw [nothing] at last
      cases last

/-! ## Parameters -/

variable {line : List Char}

/-- The name opens the trimmed line and the value closes it, so together they cannot look like a
header where the line does not. -/
theorem wellFormed_parameter (given : IsParameter line) (oneLine : '\n' ∉ line) :
    (parameter line).WellFormed := by
  obtain ⟨header, ignored, equals⟩ := given
  have trimmed := trim_trim line
  have name : (parameter line).name.toList = before '=' (trim line) := String.toList_ofList
  have value : (parameter line).value.toList = after '=' (trim line) := String.toList_ofList
  have newline : '\n' ∉ trim line := fun mem => oneLine ((trim_sublist line).subset mem)
  constructor
  case name_line =>
    rw [OneLine, name]
    exact fun mem => newline ((before_sublist '=' _).subset mem)
  case name_trimmed =>
    rw [Trimmed, name]
    exact trim_trim _
  case value_line =>
    rw [OneLine, value]
    exact fun mem => newline ((after_sublist '=' _).subset mem)
  case value_trimmed =>
    rw [Trimmed, value]
    exact trim_trim _
  case no_equals =>
    rw [name]
    exact not_mem_before '=' _
  case no_comment =>
    rw [name]
    exact fun first => ignored ⟨header, .inr (head?_before trimmed first)⟩
  case no_header =>
    rw [name, value]
    rintro ⟨first, last⟩
    have opens := head?_before trimmed first
    have closes := getLast?_after trimmed last
    apply header
    refine ⟨opens, ?_⟩
    cases shape : trim line with
    | nil =>
      rw [shape] at opens
      cases opens
    | cons c r =>
      rw [shape, List.head?_cons, Option.some.injEq] at opens
      rw [shape, opens, List.mem_cons] at equals
      have more := List.ne_nil_of_mem (equals.resolve_left (by decide))
      rw [shape, List.getLast?_cons_of_ne_nil more] at closes
      exact closes

/-! ## Entries -/

theorem wellFormed_of_parse {text : String} {es : List Entry} (read : parse text = .ok es) :
    ∀ e ∈ es, e.WellFormed := by
  intro e he
  obtain ⟨kind, key⟩ := word_of_parse read he
  refine ⟨kind, key, fun p hp => ?_⟩
  have mem : p ∈ es.flatMap Entry.parameters := List.mem_flatMap.mpr ⟨e, he, hp⟩
  rw [parameters_of_parse read] at mem
  obtain ⟨line, kept, rfl⟩ := List.mem_map.mp mem
  obtain ⟨hl, given⟩ := List.mem_filter.mp kept
  exact wellFormed_parameter (of_decide_eq_true given) (newline_not_mem_of_mem_lines hl)

/-- Some file gives these entries exactly if all of them are well-formed, and exactly if the file
that is written of them does. -/
theorem given_iff_wellFormed (es : List Entry) :
    ((∃ text, parse text = .ok es) ↔ ∀ e ∈ es, e.WellFormed) ∧
    ((∃ text, parse text = .ok es) ↔ parse (render es) = .ok es) := by
  have back (formed : ∀ e ∈ es, e.WellFormed) : parse (render es) = .ok es :=
    readLines_render formed
  constructor
  · constructor
    · rintro ⟨text, read⟩
      exact wellFormed_of_parse read
    · exact fun formed => ⟨render es, back formed⟩
  · constructor
    · rintro ⟨text, read⟩
      exact back (wellFormed_of_parse read)
    · exact fun read => ⟨render es, read⟩

end Shortcuts.Grammar
