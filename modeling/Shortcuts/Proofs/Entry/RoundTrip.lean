import Shortcuts.Entry.Printer
import Shortcuts.Proofs.Entry.Forms

/-!
# Reading what was written

A written file has a line for each header and each parameter. Reading gives each line its form back
and hands every parameter to its own entry, so well-formed entries come back as they were
(`parse_render`).
-/

namespace Shortcuts

open Text

theorem trimmed_iff {s : String} :
    Trimmed s ↔ (∀ c, s.toList.head? = some c → isBlank c = false) ∧
      ∀ c, s.toList.getLast? = some c → isBlank c = false := by
  constructor
  · intro (trimmed : trim s.toList = s.toList)
    rw [← trimmed]
    exact ⟨fun _ => not_blank_of_head?_trim, fun _ => not_blank_of_getLast?_trim⟩
  · rintro ⟨first, last⟩
    exact trim_eq_self first last

instance : DecidablePred Trimmed :=
  fun s => inferInstanceAs (Decidable (trim s.toList = s.toList))

instance : DecidablePred OneLine := fun s => inferInstanceAs (Decidable ('\n' ∉ s.toList))

instance : DecidablePred Word :=
  fun s => inferInstanceAs (Decidable (s ≠ "" ∧ ' ' ∉ s.toList ∧ OneLine s ∧ Trimmed s))

instance (p : Parameter) : Decidable p.WellFormed :=
  decidable_of_iff (OneLine p.name ∧ Trimmed p.name ∧ OneLine p.value ∧ Trimmed p.value ∧
      '=' ∉ p.name.toList ∧ p.name.toList.head? ≠ some '#' ∧
      ¬(p.name.toList.head? = some '[' ∧ p.value.toList.getLast? = some ']'))
    ⟨fun ⟨a, b, c, d, e, f, g⟩ => ⟨a, b, c, d, e, f, g⟩,
      fun ⟨a, b, c, d, e, f, g⟩ => ⟨a, b, c, d, e, f, g⟩⟩

instance (e : Entry) : Decidable e.WellFormed :=
  decidable_of_iff (Word e.kind ∧ Word e.key ∧ ∀ p ∈ e.parameters, p.WellFormed)
    ⟨fun ⟨a, b, c⟩ => ⟨a, b, c⟩, fun ⟨a, b, c⟩ => ⟨a, b, c⟩⟩

def Parameter.line (p : Parameter) : List Char :=
  p.name.toList ++ [' '] ++ '=' :: ' ' :: p.value.toList

def Entry.headerInner (e : Entry) : List Char := e.kind.toList ++ ' ' :: e.key.toList

def Entry.lines (e : Entry) : List (List Char) :=
  ('[' :: (e.headerInner ++ [']'])) :: e.parameters.map Parameter.line

theorem toList_render_parameter (p : Parameter) : p.render.toList = p.line ++ ['\n'] := by
  simp [Parameter.render, Parameter.line]

theorem toList_header (e : Entry) :
    e.header.toList = '[' :: (e.headerInner ++ [']']) ++ ['\n'] := by
  simp [Entry.header, Entry.headerInner]

theorem toList_render_entry (e : Entry) : e.render.toList = unlines e.lines := by
  simp only [Entry.render, String.toList_append, toList_header, String.toList_join,
    List.flatMap_map, toList_render_parameter, unlines, Entry.lines, List.flatMap_cons]

theorem toList_render (entries : List Entry) :
    (render entries).toList = unlines (entries.flatMap Entry.lines) := by
  simp only [render, String.toList_join, List.flatMap_map, toList_render_entry, unlines,
    List.flatMap_assoc]

theorem Word.toList_ne_nil {s : String} (h : Word s) : s.toList ≠ [] := by
  simpa using h.1

theorem Parameter.WellFormed.newline_not_mem {p : Parameter} (h : p.WellFormed) :
    '\n' ∉ p.line := by
  have name := h.name_line
  have value := h.value_line
  unfold OneLine at name value
  simp [Parameter.line, name, value]

theorem Parameter.getLast?_line (p : Parameter) :
    p.line.getLast? = some (p.value.toList.getLast?.getD ' ') := by
  simp [Parameter.line, List.getLast?_append, List.getLast?_cons]

/-- A line ends in its value, whose last character is no blank, or in the space before it. -/
theorem Parameter.WellFormed.dropReturn_line {p : Parameter} (h : p.WellFormed) :
    dropReturn p.line = p.line := by
  apply dropReturn_of_ne
  rw [p.getLast?_line]
  intro last
  cases hv : p.value.toList.getLast? with
  | none => simp [hv] at last
  | some c =>
    have kept := (trimmed_iff.mp h.value_trimmed).2 c hv
    rw [hv, Option.getD_some, Option.some.injEq] at last
    subst last
    exact absurd kept (by decide)

theorem Parameter.WellFormed.ofLine_line {p : Parameter} (h : p.WellFormed) :
    LineForm.ofLine p.line = .parameter p.name.toList p.value.toList := by
  have blank : isBlank ' ' = true := by decide
  have name : trim p.name.toList = p.name.toList := h.name_trimmed
  have value : trim p.value.toList = p.value.toList := h.value_trimmed
  have start := head?_trimStart_append name blank
  have finish := getLast?_trimEnd_cons value blank
  have equals : '=' ∉ p.name.toList ++ [' '] := by simpa using h.no_equals
  rw [Parameter.line, LineForm.ofLine_parameter equals (start ▸ h.no_comment)
    (start ▸ finish ▸ h.no_header), trim_append_blank blank, trim_cons_blank blank, name, value]

theorem Entry.WellFormed.newline_not_mem {e : Entry} (h : e.WellFormed) :
    ∀ l ∈ e.lines, '\n' ∉ l := by
  intro l hl
  rw [Entry.lines, List.mem_cons, List.mem_map] at hl
  obtain rfl | ⟨p, hp, rfl⟩ := hl
  · have kind := h.kind_word.2.2.1
    have key := h.key_word.2.2.1
    unfold OneLine at kind key
    simp [Entry.headerInner, kind, key]
  · exact (h.parameters p hp).newline_not_mem

theorem Entry.WellFormed.dropReturn_lines {e : Entry} (h : e.WellFormed) :
    ∀ l ∈ e.lines, dropReturn l = l := by
  intro l hl
  rw [Entry.lines, List.mem_cons, List.mem_map] at hl
  obtain rfl | ⟨p, hp, rfl⟩ := hl
  · exact dropReturn_of_ne (by simp [getLast?_bracketed])
  · exact (h.parameters p hp).dropReturn_line

theorem Entry.WellFormed.ofLine_header {e : Entry} (h : e.WellFormed) :
    LineForm.ofLine ('[' :: (e.headerInner ++ [']'])) = .header e.headerInner := by
  have around := trim_between h.kind_word.toList_ne_nil h.key_word.toList_ne_nil
    h.kind_word.2.2.2 h.key_word.2.2.2 [' ']
  rw [List.append_assoc, List.singleton_append] at around
  rw [LineForm.ofLine_header, Entry.headerInner, around]

theorem Entry.WellFormed.ofHeader_inner {e : Entry} (h : e.WellFormed) :
    Entry.ofHeader e.headerInner = .ok { kind := e.kind, key := e.key } := by
  rw [Entry.headerInner, Entry.ofHeader_words h.kind_word.toList_ne_nil h.kind_word.2.1
    h.kind_word.2.2.2 h.key_word.2.1 h.key_word.2.2.2, String.ofList_toList, String.ofList_toList]

/-- The lines of its parameters all go to the entry that is open. -/
theorem readLines_parameters {ps : List Parameter} (h : ∀ p ∈ ps, p.WellFormed) (n : Nat)
    (e : Entry) (rest : List (List Char)) :
    readLines n (some e) (ps.map Parameter.line ++ rest) =
      readLines (n + ps.length) (some { e with parameters := e.parameters ++ ps }) rest := by
  induction ps generalizing n e with
  | nil => simp
  | cons p ps ih =>
    have tail := ih (fun q hq => h q (List.mem_cons_of_mem _ hq)) (n + 1) (e.add p)
    simp only [List.map_cons, List.cons_append, readLines,
      (h p List.mem_cons_self).ofLine_line, String.ofList_toList]
    rw [tail, List.length_cons, Nat.add_right_comm, Nat.add_assoc]
    simp [Entry.add]

/-- Whatever entry was open is finished, and every entry read after it follows. -/
theorem readLines_entries {entries : List Entry} (h : ∀ e ∈ entries, e.WellFormed) (n : Nat)
    (current : Option Entry) :
    readLines n current (entries.flatMap Entry.lines) = .ok (current.toList ++ entries) := by
  induction entries generalizing n current with
  | nil => simp [readLines]
  | cons e entries ih =>
    have he := h e List.mem_cons_self
    have tail := ih (fun f hf => h f (List.mem_cons_of_mem _ hf))
    simp only [List.flatMap_cons, Entry.lines, List.cons_append, readLines, he.ofLine_header,
      he.ofHeader_inner]
    rw [readLines_parameters he.parameters, tail]
    simp

theorem lines_render {entries : List Entry} (h : ∀ e ∈ entries, e.WellFormed) :
    lines (render entries).toList = entries.flatMap Entry.lines := by
  have oneLine : ∀ l ∈ entries.flatMap Entry.lines, '\n' ∉ l := by
    intro l hl
    obtain ⟨e, he, hl⟩ := List.mem_flatMap.mp hl
    exact (h e he).newline_not_mem l hl
  have kept : ∀ l ∈ entries.flatMap Entry.lines, dropReturn l = id l := by
    intro l hl
    obtain ⟨e, he, hl⟩ := List.mem_flatMap.mp hl
    exact (h e he).dropReturn_lines l hl
  rw [toList_render, lines_unlines oneLine, List.map_congr_left kept, List.map_id]

theorem readLines_render {entries : List Entry} (h : ∀ e ∈ entries, e.WellFormed) :
    readLines 1 none (lines (render entries).toList) = .ok entries := by
  rw [lines_render h, readLines_entries h]
  rfl

/-- Reading gives back every list of well-formed entries that was written. -/
theorem parse_render (entries : List Entry) (h : ∀ e ∈ entries, e.WellFormed) :
    parse (render entries) = .ok entries := by
  rw [parse, lines_render h, readLines_entries h]
  rfl

/-- Names and values may be empty, repeat, and hold what else opens a comment or a header. -/
theorem parse_render_brackets_and_signs :
    let entries : List Entry :=
      [⟨"prog", "a\u00a0]b", [⟨"", ""⟩, ⟨"[x\ry", "= # ["⟩, ⟨"", "]"⟩, ⟨"", ""⟩]⟩, ⟨"]", "#", []⟩]
    (∀ e ∈ entries, e.WellFormed) ∧ parse (render entries) = .ok entries := by
  intro entries
  have h : ∀ e ∈ entries, e.WellFormed := by decide
  exact ⟨h, parse_render entries h⟩

end Shortcuts
