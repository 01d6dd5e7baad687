import Shortcuts.Proofs.Entry.Grammar

/-!
# Segments of a configuration text

A text is accepted when no line of it is malformed, every header is good and no parameter stands
before the first header. Its entries are then its headers, each with the parameters up to the next
one (`parse_eq_ok_iff`). Between the lines only one thing matters: whether an entry is open.
-/

namespace Shortcuts.Grammar

open Text

/-- The lines before the first header. -/
def upToHeader (ls : List (List Char)) : List (List Char) :=
  ls.takeWhile fun line => decide (¬IsHeader line)

def parameters (ls : List (List Char)) : List Parameter :=
  ((upToHeader ls).filter fun line => decide (IsParameter line)).map parameter

/-- The entry of the first line, if that is a header, with the parameters up to the next one. -/
def entryAt? : List (List Char) → Option Entry
  | [] => none
  | line :: rest =>
    if IsHeader line then some { heading line with parameters := parameters rest } else none

/-- An entry for every header, in order. -/
def entries (ls : List (List Char)) : List Entry := ls.tails.filterMap entryAt?

structure Accepts (ls : List (List Char)) : Prop where
  formed : ∀ line ∈ ls, ¬IsMalformed line
  good : ∀ line ∈ ls, IsHeader line → IsGood line
  led : ∀ line ∈ upToHeader ls, ¬IsParameter line

/-- No line has a fault, where `opened` says whether a header stands before the first. -/
def Sound (opened : Bool) : List (List Char) → Prop
  | [] => True
  | line :: rest => fault? opened line = none ∧ Sound (opened || decide (IsHeader line)) rest

/-- The entries that come of the lines when an entry may be open before them. -/
def resumed (current : Option Entry) (ls : List (List Char)) : List Entry :=
  (current.map fun e => { e with parameters := e.parameters ++ parameters ls }).toList ++ entries ls

section Lines

variable {line : List Char}

theorem upToHeader_of_header (header : IsHeader line) (rest : List (List Char)) :
    upToHeader (line :: rest) = [] :=
  List.takeWhile_cons_of_neg (by simp [header])

theorem upToHeader_of_not_header (header : ¬IsHeader line) (rest : List (List Char)) :
    upToHeader (line :: rest) = line :: upToHeader rest :=
  List.takeWhile_cons_of_pos (by simp [header])

theorem parameters_of_header (header : IsHeader line) (rest : List (List Char)) :
    parameters (line :: rest) = [] := by
  rw [parameters, upToHeader_of_header header]
  rfl

theorem parameters_of_parameter (given : IsParameter line) (rest : List (List Char)) :
    parameters (line :: rest) = parameter line :: parameters rest := by
  simp only [parameters, upToHeader_of_not_header given.1]
  rw [List.filter_cons_of_pos (by simp [given]), List.map_cons]

theorem parameters_of_neither (header : ¬IsHeader line) (given : ¬IsParameter line)
    (rest : List (List Char)) : parameters (line :: rest) = parameters rest := by
  simp only [parameters, upToHeader_of_not_header header]
  rw [List.filter_cons_of_neg (by simp [given])]

theorem entries_of_header (header : IsHeader line) (rest : List (List Char)) :
    entries (line :: rest) =
      { heading line with parameters := parameters rest } :: entries rest := by
  rw [entries, List.tails, List.filterMap_cons_some (by rw [entryAt?, if_pos header]), entries]

theorem entries_of_not_header (header : ¬IsHeader line) (rest : List (List Char)) :
    entries (line :: rest) = entries rest := by
  rw [entries, List.tails, List.filterMap_cons_none (by rw [entryAt?, if_neg header]), entries]

theorem fault?_eq_none_iff (opened : Bool) :
    fault? opened line = none ↔
      ¬IsMalformed line ∧ (IsHeader line → IsGood line) ∧ (opened = false → ¬IsParameter line) := by
  constructor
  · intro sound
    refine ⟨fun malformed => ?_, fun header => isGood_of_sound header sound, ?_⟩
    · rw [fault?_of_malformed opened malformed] at sound
      cases sound
    · rintro rfl given
      rw [fault?_of_parameter false given] at sound
      cases sound
  · rintro ⟨formed, good, led⟩
    obtain header | ignored | given | malformed := form_cases line
    · obtain ⟨space, single⟩ := good header
      rw [fault?_of_header opened header, if_pos space, if_neg single]
    · exact fault?_of_ignored opened ignored
    · cases opened with
      | true => exact fault?_of_parameter true given
      | false => exact absurd given (led rfl)
    · exact absurd malformed formed

end Lines

/-- What is open after a line, and what the lines after it add, make up what it adds with them. -/
theorem resumed_cons {current : Option Entry} {line : List Char}
    (sound : fault? current.isSome line = none) (rest : List (List Char)) :
    resumed current (line :: rest) = finished current line ++ resumed (next current line) rest := by
  obtain header | ignored | given | malformed := form_cases line
  · have one : parameters (line :: rest) = [] := parameters_of_header header rest
    simp only [resumed, one, entries_of_header header, finished, next, if_pos header]
    cases current <;> simp [heading]
  · have given : ¬IsParameter line := fun h => h.2.1 ignored
    have one := parameters_of_neither ignored.1 given rest
    simp only [resumed, one, entries_of_not_header ignored.1, finished, next, if_neg ignored.1,
      if_neg given, List.nil_append]
  · have one := parameters_of_parameter given rest
    simp only [resumed, one, entries_of_not_header given.1, finished, next, if_neg given.1,
      if_pos given, List.nil_append]
    cases current <;> simp [Entry.add]
  · rw [fault?_of_malformed _ malformed] at sound
    cases sound

/-- The reader succeeds when no line has a fault, and gives the entry that was open with its further
parameters and then an entry for every header. -/
theorem readLines_eq_ok_iff {n : Nat} {current : Option Entry} {ls : List (List Char)}
    {es : List Entry} :
    readLines n current ls = .ok es ↔ Sound current.isSome ls ∧ es = resumed current ls := by
  induction ls generalizing n current es with
  | nil =>
    have nothing : resumed current [] = current.toList := by
      cases current <;> simp [resumed, parameters, upToHeader, entries, entryAt?]
    simp only [readLines, Sound, true_and, nothing, Except.ok.injEq]
    exact eq_comm
  | cons line rest ih =>
    cases sound : fault? current.isSome line with
    | some fault => simp [readLines_of_fault sound, Sound, sound]
    | none =>
      rw [readLines_of_sound sound, Sound, ← isSome_next, resumed_cons sound]
      constructor
      · intro read
        cases tail : readLines (n + 1) (next current line) rest with
        | error e => simp [tail, Except.map] at read
        | ok others =>
          obtain ⟨clean, rfl⟩ := ih.mp tail
          simp only [tail, Except.map, Except.ok.injEq] at read
          exact ⟨⟨sound, clean⟩, read.symm⟩
      · rintro ⟨⟨-, clean⟩, rfl⟩
        rw [ih.mpr ⟨clean, rfl⟩]
        rfl

theorem sound_iff (opened : Bool) (ls : List (List Char)) :
    Sound opened ls ↔
      (∀ line ∈ ls, ¬IsMalformed line) ∧ (∀ line ∈ ls, IsHeader line → IsGood line) ∧
      (opened = false → ∀ line ∈ upToHeader ls, ¬IsParameter line) := by
  induction ls generalizing opened with
  | nil => simp [Sound, upToHeader]
  | cons line rest ih =>
    rw [Sound, fault?_eq_none_iff, ih]
    by_cases header : IsHeader line
    · have given : ¬IsParameter line := fun h => h.1 header
      simp only [upToHeader_of_header header, header, given, List.forall_mem_cons, decide_true,
        Bool.or_true, Bool.true_eq_false, not_false_eq_true, List.not_mem_nil]
      tauto
    · simp only [upToHeader_of_not_header header, header, List.forall_mem_cons, decide_false,
        Bool.or_false]
      tauto

theorem sound_iff_accepts (ls : List (List Char)) : Sound false ls ↔ Accepts ls := by
  rw [sound_iff]
  exact ⟨fun ⟨formed, good, led⟩ => ⟨formed, good, led rfl⟩,
    fun ⟨formed, good, led⟩ => ⟨formed, good, fun _ => led⟩⟩

theorem parameters_eq_nil {ls : List (List Char)} (accepted : Accepts ls) : parameters ls = [] := by
  rw [parameters, List.map_eq_nil_iff, List.filter_eq_nil_iff]
  intro line early
  simpa using accepted.led line early

theorem flatMap_parameters_entries (ls : List (List Char)) :
    parameters ls ++ (entries ls).flatMap Entry.parameters =
      (ls.filter fun line => decide (IsParameter line)).map parameter := by
  induction ls with
  | nil => rfl
  | cons line rest ih =>
    by_cases header : IsHeader line
    · have given : ¬IsParameter line := fun h => h.1 header
      rw [parameters_of_header header, entries_of_header header,
        List.filter_cons_of_neg (by simp [given]), ← ih]
      rfl
    · rw [entries_of_not_header header]
      by_cases given : IsParameter line
      · rw [parameters_of_parameter given, List.filter_cons_of_pos (by simp [given]), List.map_cons,
          ← ih, List.cons_append]
      · rw [parameters_of_neither header given, List.filter_cons_of_neg (by simp [given]), ih]

/-- What is read holds every parameter of the text, each once and in order. -/
theorem parameters_of_parse {text : String} {es : List Entry} (read : parse text = .ok es) :
    es.flatMap Entry.parameters =
      ((lines text.toList).filter fun line => decide (IsParameter line)).map parameter := by
  obtain ⟨sound, rfl⟩ := readLines_eq_ok_iff.mp read
  have none_before := parameters_eq_nil ((sound_iff_accepts _).mp sound)
  rw [← flatMap_parameters_entries, none_before]
  rfl

/-- Reading succeeds on exactly the texts that the grammar accepts, and gives an entry for every
header, with the parameters between that header and the next one. -/
theorem parse_eq_ok_iff (text : String) (es : List Entry) :
    parse text = .ok es ↔ Accepts (lines text.toList) ∧ es = entries (lines text.toList) := by
  rw [parse, readLines_eq_ok_iff, ← sound_iff_accepts]
  rfl

end Shortcuts.Grammar
