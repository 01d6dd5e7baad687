import Shortcuts.Proofs.Entry.Forms

/-!
# The grammar of a configuration text

A line is a header, ignored, a parameter or malformed, by its trimmed text alone. `fault?` says what
is wrong with a line, given whether a header stands before it, and the reader goes by it: it stops
at a line with a fault (`readLines_of_fault`) and goes on after any other (`readLines_of_sound`).
-/

namespace Shortcuts.Grammar

open Text

/-! ## Forms -/

/-- The trimmed text opens with a bracket and, after that, ends with one. -/
def IsHeader (line : List Char) : Prop :=
  (trim line).head? = some '[' ∧ (trim line).tail.getLast? = some ']'

instance : DecidablePred IsHeader :=
  fun line => inferInstanceAs
    (Decidable ((trim line).head? = some '[' ∧ (trim line).tail.getLast? = some ']'))

def IsIgnored (line : List Char) : Prop :=
  ¬IsHeader line ∧ (trim line = [] ∨ (trim line).head? = some '#')

instance : DecidablePred IsIgnored :=
  fun line => inferInstanceAs
    (Decidable (¬IsHeader line ∧ (trim line = [] ∨ (trim line).head? = some '#')))

def IsParameter (line : List Char) : Prop :=
  ¬IsHeader line ∧ ¬IsIgnored line ∧ '=' ∈ trim line

instance : DecidablePred IsParameter :=
  fun line => inferInstanceAs (Decidable (¬IsHeader line ∧ ¬IsIgnored line ∧ '=' ∈ trim line))

def IsMalformed (line : List Char) : Prop :=
  ¬IsHeader line ∧ ¬IsIgnored line ∧ '=' ∉ trim line

/-- The trimmed text before the first `p`. -/
def before (p : Char) (s : List Char) : List Char := trim (s.takeWhile (· != p))

/-- The trimmed text after the first `p`. -/
def after (p : Char) (s : List Char) : List Char := trim (s.dropWhile (· != p)).tail

/-- The trimmed text between the brackets of a header. -/
def inner (line : List Char) : List Char := trim (trim line).tail.dropLast

/-- A space parts the kind from a key that has none. -/
def IsGood (line : List Char) : Prop := ' ' ∈ inner line ∧ ' ' ∉ after ' ' (inner line)

/-- The entry that a header opens. -/
def heading (line : List Char) : Entry where
  kind := String.ofList (before ' ' (inner line))
  key := String.ofList (after ' ' (inner line))

def parameter (line : List Char) : Parameter where
  name := String.ofList (before '=' (trim line))
  value := String.ofList (after '=' (trim line))

theorem bracketed_eq_some {t : List Char} (opens : t.head? = some '[')
    (closes : t.tail.getLast? = some ']') : bracketed t = some t.tail.dropLast := by
  cases t with
  | nil => cases opens
  | cons c r =>
    obtain rfl : c = '[' := Option.some.inj opens
    exact if_pos closes

theorem bracketed_eq_none {t : List Char}
    (h : ¬(t.head? = some '[' ∧ t.tail.getLast? = some ']')) : bracketed t = none := by
  rw [Option.eq_none_iff_forall_ne_some]
  intro inner found
  rw [bracketed_eq_some_iff] at found
  subst found
  exact h ⟨rfl, by rw [List.tail_cons, List.getLast?_concat]⟩

section Forms

variable {line : List Char}

theorem ofLine_of_header (header : IsHeader line) :
    LineForm.ofLine line = .header (inner line) := by
  simp only [LineForm.ofLine, LineForm.ofTrimmed, bracketed_eq_some header.1 header.2, inner]

theorem ofLine_of_ignored (ignored : IsIgnored line) : LineForm.ofLine line = .ignored := by
  simp only [LineForm.ofLine, LineForm.ofTrimmed, bracketed_eq_none ignored.1, if_pos ignored.2]

theorem ofLine_of_parameter (h : IsParameter line) :
    LineForm.ofLine line = .parameter (before '=' (trim line)) (after '=' (trim line)) := by
  obtain ⟨header, ignored, equals⟩ := h
  have kept : ¬(trim line = [] ∨ (trim line).head? = some '#') := fun e => ignored ⟨header, e⟩
  simp only [LineForm.ofLine, LineForm.ofTrimmed, bracketed_eq_none header, if_neg kept,
    cut_of_mem equals, before, after]

theorem ofLine_of_malformed (h : IsMalformed line) : LineForm.ofLine line = .malformed := by
  obtain ⟨header, ignored, equals⟩ := h
  have kept : ¬(trim line = [] ∨ (trim line).head? = some '#') := fun e => ignored ⟨header, e⟩
  simp only [LineForm.ofLine, LineForm.ofTrimmed, bracketed_eq_none header, if_neg kept,
    cut_of_not_mem equals]

/-- A trimmed text does not start with a space, so there is always a kind before the first one. -/
theorem before_space_ne_nil (space : ' ' ∈ inner line) : before ' ' (inner line) ≠ [] := by
  cases shape : inner line with
  | nil =>
    rw [shape] at space
    cases space
  | cons c r =>
    have visible : isBlank c = false := not_blank_of_head?_trim (by rw [← inner, shape]; rfl)
    have hc : c ≠ ' ' := by
      rintro rfl
      exact absurd visible (by decide)
    have around := trim_around visible [] (r.takeWhile (· != ' '))
    rw [before, List.takeWhile_cons_of_pos (by simpa using hc)]
    rw [List.nil_append] at around
    simp [around]

theorem ofHeader_of_good (good : IsGood line) :
    Entry.ofHeader (inner line) = .ok (heading line) := by
  obtain ⟨space, single⟩ := good
  have named := before_space_ne_nil space
  rw [before] at named
  rw [after] at single
  simp only [Entry.ofHeader, cut_of_mem space, if_neg single, if_neg named, heading, before, after]

end Forms

/-! ## Faults -/

/-- What is wrong with a line, where `opened` says whether a header stands before it. -/
def fault? (opened : Bool) (line : List Char) : Option LineFault :=
  if IsHeader line then
    if ' ' ∈ inner line then
      if ' ' ∈ after ' ' (inner line) then
        some (.keyContainsSpace (String.ofList (after ' ' (inner line))))
      else none
    else some (.missingKey (String.ofList (inner line)))
  else if IsIgnored line then none
  else if '=' ∈ trim line then
    if opened then none else some .noEntryOpen
  else some .unrecognized

/-- The entry that is open after a line. -/
def next (current : Option Entry) (line : List Char) : Option Entry :=
  if IsHeader line then some (heading line)
  else if IsParameter line then current.map (·.add (parameter line))
  else current

/-- The entry that a line finishes. -/
def finished (current : Option Entry) (line : List Char) : List Entry :=
  if IsHeader line then current.toList else []

section Faults

variable {line : List Char}

theorem form_cases (line : List Char) :
    IsHeader line ∨ IsIgnored line ∨ IsParameter line ∨ IsMalformed line := by
  by_cases header : IsHeader line
  · exact .inl header
  by_cases ignored : IsIgnored line
  · exact .inr (.inl ignored)
  by_cases equals : '=' ∈ trim line
  · exact .inr (.inr (.inl ⟨header, ignored, equals⟩))
  · exact .inr (.inr (.inr ⟨header, ignored, equals⟩))

theorem fault?_of_header (opened : Bool) (header : IsHeader line) :
    fault? opened line =
      if ' ' ∈ inner line then
        if ' ' ∈ after ' ' (inner line) then
          some (.keyContainsSpace (String.ofList (after ' ' (inner line))))
        else none
      else some (.missingKey (String.ofList (inner line))) :=
  if_pos header

theorem fault?_of_ignored (opened : Bool) (ignored : IsIgnored line) :
    fault? opened line = none := by
  rw [fault?, if_neg ignored.1, if_pos ignored]

theorem fault?_of_parameter (opened : Bool) (h : IsParameter line) :
    fault? opened line = if opened then none else some .noEntryOpen := by
  rw [fault?, if_neg h.1, if_neg h.2.1, if_pos h.2.2]

theorem fault?_of_malformed (opened : Bool) (h : IsMalformed line) :
    fault? opened line = some .unrecognized := by
  rw [fault?, if_neg h.1, if_neg h.2.1, if_neg h.2.2]

theorem ofHeader_of_fault {opened : Bool} {fault : LineFault} (header : IsHeader line)
    (h : fault? opened line = some fault) : Entry.ofHeader (inner line) = .error fault := by
  rw [fault?_of_header opened header] at h
  split_ifs at h with space spaced
  · rw [after] at spaced h
    simp only [Entry.ofHeader, cut_of_mem space, if_pos spaced, ← Option.some.inj h]
  · rw [Entry.ofHeader, cut_of_not_mem space, ← Option.some.inj h]

theorem isGood_of_sound {opened : Bool} (header : IsHeader line) (h : fault? opened line = none) :
    IsGood line := by
  rw [fault?_of_header opened header] at h
  split_ifs at h with space single
  exact ⟨space, single⟩

end Faults

/-! ## Lines with one trimmed text -/

section Alike

variable {l line : List Char}

theorem isHeader_congr (same : trim l = trim line) : IsHeader l ↔ IsHeader line := by
  simp only [IsHeader, same]

theorem isIgnored_congr (same : trim l = trim line) : IsIgnored l ↔ IsIgnored line := by
  simp only [IsIgnored, isHeader_congr same, same]

theorem isParameter_congr (same : trim l = trim line) : IsParameter l ↔ IsParameter line := by
  simp only [IsParameter, isHeader_congr same, isIgnored_congr same, same]

theorem inner_congr (same : trim l = trim line) : inner l = inner line := by
  rw [inner, inner, same]

theorem fault?_congr (same : trim l = trim line) (opened : Bool) :
    fault? opened l = fault? opened line := by
  unfold fault?
  rw [inner_congr same, same]
  exact if_congr (isHeader_congr same) rfl (if_congr (isIgnored_congr same) rfl rfl)

theorem finished_congr (same : trim l = trim line) (current : Option Entry) :
    finished current l = finished current line :=
  if_congr (isHeader_congr same) rfl rfl

theorem next_congr (same : trim l = trim line) (current : Option Entry) :
    next current l = next current line := by
  unfold next
  rw [heading, inner_congr same, parameter, same]
  exact if_congr (isHeader_congr same) rfl (if_congr (isParameter_congr same) rfl rfl)

end Alike

/-! ## Reading a line -/

variable {current : Option Entry} {line : List Char}

theorem readLines_of_fault {fault : LineFault} (h : fault? current.isSome line = some fault)
    (n : Nat) (rest : List (List Char)) :
    readLines n current (line :: rest) = .error ⟨fault, n, String.ofList line⟩ := by
  obtain header | ignored | given | malformed := form_cases line
  · simp only [readLines, ofLine_of_header header, ofHeader_of_fault header h]
  · rw [fault?_of_ignored _ ignored] at h
    cases h
  · rw [fault?_of_parameter _ given] at h
    cases current with
    | none => simp only [readLines, ofLine_of_parameter given, ← Option.some.inj h]
    | some entry => cases h
  · rw [fault?_of_malformed _ malformed] at h
    simp only [readLines, ofLine_of_malformed malformed, ← Option.some.inj h]

/-- A line without a fault may finish an entry, and leaves one open for the lines after it. -/
theorem readLines_of_sound (h : fault? current.isSome line = none) (n : Nat)
    (rest : List (List Char)) :
    readLines n current (line :: rest) =
      (readLines (n + 1) (next current line) rest).map (finished current line ++ ·) := by
  obtain header | ignored | given | malformed := form_cases line
  · have good := isGood_of_sound header h
    simp only [readLines, ofLine_of_header header, ofHeader_of_good good, next, finished,
      if_pos header]
    cases readLines (n + 1) (some (heading line)) rest <;> rfl
  · have parameter : ¬IsParameter line := fun h => h.2.1 ignored
    simp only [readLines, ofLine_of_ignored ignored, next, finished, if_neg ignored.1,
      if_neg parameter, List.nil_append]
    cases readLines (n + 1) current rest <;> rfl
  · rw [fault?_of_parameter _ given] at h
    cases current with
    | none => cases h
    | some entry =>
      simp only [readLines, ofLine_of_parameter given, next, finished, if_neg given.1, if_pos given,
        List.nil_append, Option.map_some]
      rw [← parameter]
      cases readLines (n + 1) (some (entry.add (parameter line))) rest <;> rfl
  · rw [fault?_of_malformed _ malformed] at h
    cases h

theorem isSome_next (current : Option Entry) (line : List Char) :
    (next current line).isSome = (current.isSome || decide (IsHeader line)) := by
  unfold next
  split
  · rename_i header
    simp [header]
  · rename_i header
    split <;> simp [header]

end Shortcuts.Grammar
