import Shortcuts.Proofs.Entry.Segments

/-!
# The first fault of a configuration text

Reading fails at the first line with a fault and looks at nothing after it
(`readLines_eq_error_iff`). The lines before it make a text that is accepted, and which fault is
reported is decided by that line and by whether a header stands before it (`FirstFault`).
-/

namespace Shortcuts.Grammar

open Text

/-! ## What each fault says of its line -/

section Variants

variable {opened : Bool} {line : List Char}

theorem fault?_eq_noEntryOpen_iff :
    fault? opened line = some .noEntryOpen ↔ IsParameter line ∧ opened = false := by
  constructor
  · intro h
    unfold fault? at h
    split_ifs at h with _ _ _ ignored equals open_before <;> cases h
    exact ⟨⟨‹_›, ignored, equals⟩, Bool.eq_false_iff.mpr open_before⟩
  · rintro ⟨given, rfl⟩
    exact fault?_of_parameter false given

theorem fault?_eq_unrecognized_iff :
    fault? opened line = some .unrecognized ↔ IsMalformed line := by
  constructor
  · intro h
    unfold fault? at h
    split_ifs at h with header _ _ ignored equals <;> cases h
    exact ⟨header, ignored, equals⟩
  · exact fault?_of_malformed opened

theorem fault?_eq_missingKey_iff {header : String} :
    fault? opened line = some (.missingKey header) ↔
      (IsHeader line ∧ ' ' ∉ inner line) ∧ header = String.ofList (inner line) := by
  constructor
  · intro h
    unfold fault? at h
    split_ifs at h with isHeader space <;> cases h
    exact ⟨⟨isHeader, space⟩, rfl⟩
  · rintro ⟨⟨isHeader, space⟩, rfl⟩
    rw [fault?_of_header opened isHeader, if_neg space]

theorem fault?_eq_keyContainsSpace_iff {key : String} :
    fault? opened line = some (.keyContainsSpace key) ↔
      (IsHeader line ∧ ' ' ∈ inner line ∧ ' ' ∈ after ' ' (inner line)) ∧
        key = String.ofList (after ' ' (inner line)) := by
  constructor
  · intro h
    unfold fault? at h
    split_ifs at h with isHeader space spaced <;> cases h
    exact ⟨⟨isHeader, space, spaced⟩, rfl⟩
  · rintro ⟨⟨isHeader, space, spaced⟩, rfl⟩
    rw [fault?_of_header opened isHeader, if_pos space, if_pos spaced]

/-- Before the first space of a trimmed text there is always something. -/
theorem fault?_ne_missingKind : fault? opened line ≠ some .missingKind := by
  intro h
  unfold fault? at h
  split_ifs at h <;> cases h

end Variants

/-! ## The line where reading stops -/

/-- A header stands before the line, or an entry is open from the start. -/
def Opened (opened : Bool) (earlier : List (List Char)) : Bool :=
  opened || earlier.any fun line => decide (IsHeader line)

theorem opened_cons (opened : Bool) (line : List Char) (earlier : List (List Char)) :
    Opened opened (line :: earlier) = Opened (opened || decide (IsHeader line)) earlier := by
  rw [Opened, Opened, List.any_cons, Bool.or_assoc]

theorem opened_eq_false_iff {earlier : List (List Char)} :
    Opened false earlier = false ↔ ∀ line ∈ earlier, ¬IsHeader line := by
  simp [Opened]

theorem readLines_eq_error_iff {n : Nat} {current : Option Entry} {ls : List (List Char)}
    {e : ParseError} :
    readLines n current ls = .error e ↔
      ∃ earlier line later fault, ls = earlier ++ line :: later ∧ Sound current.isSome earlier ∧
        fault? (Opened current.isSome earlier) line = some fault ∧
        e = ⟨fault, n + earlier.length, String.ofList line⟩ := by
  induction ls generalizing n current with
  | nil => simp [readLines]
  | cons line rest ih =>
    cases found : fault? current.isSome line with
    | some fault =>
      rw [readLines_of_fault found]
      constructor
      · intro failed
        exact ⟨[], line, rest, fault, rfl, trivial, by simpa [Opened] using found,
          (Except.error.inj failed).symm⟩
      · rintro ⟨earlier, line', later, fault', shape, sound, found', rfl⟩
        cases earlier with
        | nil =>
          obtain ⟨rfl, rfl⟩ := List.cons.inj shape
          simp only [Opened, List.any_nil, Bool.or_false] at found'
          obtain rfl := Option.some.inj (found.symm.trans found')
          rfl
        | cons first earlier =>
          obtain ⟨rfl, -⟩ := List.cons.inj shape
          rw [Sound, found] at sound
          cases sound.1
    | none =>
      have tail : readLines n current (line :: rest) = .error e ↔
          readLines (n + 1) (next current line) rest = .error e := by
        rw [readLines_of_sound found]
        cases readLines (n + 1) (next current line) rest <;> simp [Except.map]
      rw [tail, ih, isSome_next]
      constructor
      · rintro ⟨earlier, line', later, fault, rfl, sound, found', rfl⟩
        refine ⟨line :: earlier, line', later, fault, rfl, ⟨found, sound⟩, ?_, ?_⟩
        · rwa [opened_cons]
        · rw [List.length_cons, Nat.add_right_comm, Nat.add_assoc]
      · rintro ⟨earlier, line', later, fault, shape, sound, found', rfl⟩
        cases earlier with
        | nil =>
          obtain ⟨rfl, -⟩ := List.cons.inj shape
          simp [Opened, found] at found'
        | cons first earlier =>
          obtain ⟨rfl, rfl⟩ := List.cons.inj shape
          refine ⟨earlier, line', later, fault, rfl, sound.2, ?_, ?_⟩
          · rwa [← opened_cons]
          · rw [List.length_cons, Nat.add_right_comm, Nat.add_assoc]

/-! ## The lines before it, written anew -/

theorem trim_dropReturn (line : List Char) : trim (dropReturn line) = trim line := by
  unfold dropReturn
  split
  · rename_i ending
    obtain ⟨front, rfl⟩ := List.getLast?_eq_some_iff.mp ending
    rw [List.dropLast_concat, trim_append_blank (by decide)]
  · rfl

theorem sound_map_dropReturn {opened : Bool} {ls : List (List Char)} (sound : Sound opened ls) :
    Sound opened (ls.map dropReturn) := by
  induction ls generalizing opened with
  | nil => trivial
  | cons line rest ih =>
    have same := trim_dropReturn line
    refine ⟨(fault?_congr same opened).trans sound.1, ?_⟩
    simpa only [isHeader_congr same] using ih sound.2

/-- Lines without a fault are read again, each with a newline after it, even where that newline
takes a carriage return along. -/
theorem parse_unlines {ls : List (List Char)} (oneLine : ∀ l ∈ ls, '\n' ∉ l)
    (sound : Sound false ls) : ∃ es, parse (String.ofList (unlines ls)) = .ok es := by
  refine ⟨_, readLines_eq_ok_iff.mpr ⟨?_, rfl⟩⟩
  rw [String.toList_ofList, lines_unlines oneLine]
  exact sound_map_dropReturn sound

/-- The error `e` stems from `line`, the first one with a fault, and `earlier` are the lines before
it. -/
structure FirstFault (earlier : List (List Char)) (line : List Char) (e : ParseError) : Prop where
  number : e.line = earlier.length + 1
  raw : e.text = String.ofList line
  prior : ∃ es, parse (String.ofList (unlines earlier)) = .ok es
  /-- Whatever follows the line makes no difference. -/
  final : ∀ (other : String) (later : List (List Char)),
    lines other.toList = earlier ++ line :: later → parse other = .error e
  noEntryOpen : e.fault = .noEntryOpen ↔ IsParameter line ∧ ∀ l ∈ earlier, ¬IsHeader l
  unrecognized : e.fault = .unrecognized ↔ IsMalformed line
  missingKey : ∀ header, e.fault = .missingKey header ↔
    (IsHeader line ∧ ' ' ∉ inner line) ∧ header = String.ofList (inner line)
  keyContainsSpace : ∀ key, e.fault = .keyContainsSpace key ↔
    (IsHeader line ∧ ' ' ∈ inner line ∧ ' ' ∈ after ' ' (inner line)) ∧
      key = String.ofList (after ' ' (inner line))
  missingKind : e.fault ≠ .missingKind

theorem firstFault_of_fault? {earlier : List (List Char)} {line : List Char} {fault : LineFault}
    (oneLine : ∀ l ∈ earlier, '\n' ∉ l) (sound : Sound false earlier)
    (found : fault? (Opened false earlier) line = some fault) :
    FirstFault earlier line ⟨fault, earlier.length + 1, String.ofList line⟩ where
  number := rfl
  raw := rfl
  prior := parse_unlines oneLine sound
  final other later shape := by
    refine readLines_eq_error_iff.mpr ⟨earlier, line, later, fault, shape, sound, found, ?_⟩
    rw [Nat.add_comm]
  noEntryOpen := by
    rw [← opened_eq_false_iff, ← fault?_eq_noEntryOpen_iff, found, Option.some.injEq]
  unrecognized := by
    rw [← fault?_eq_unrecognized_iff, found, Option.some.injEq]
  missingKey header := by
    rw [← fault?_eq_missingKey_iff, found, Option.some.injEq]
  keyContainsSpace key := by
    rw [← fault?_eq_keyContainsSpace_iff, found, Option.some.injEq]
  missingKind := by
    rintro rfl
    exact fault?_ne_missingKind found

/-- An error of reading points at the first line with a fault, and at nothing after it. -/
theorem parse_first_fault {text : String} {e : ParseError} (failed : parse text = .error e) :
    1 ≤ e.line ∧ e.line ≤ (lines text.toList).length ∧
      ∃ earlier line later, lines text.toList = earlier ++ line :: later ∧
        FirstFault earlier line e := by
  obtain ⟨earlier, line, later, fault, shape, sound, found, rfl⟩ := readLines_eq_error_iff.mp failed
  have oneLine : ∀ l ∈ earlier, '\n' ∉ l := by
    intro l early
    apply newline_not_mem_of_mem_lines (s := text.toList)
    rw [shape]
    exact List.mem_append_left _ early
  have bound : 1 + earlier.length ≤ (lines text.toList).length := by
    rw [shape, List.length_append, List.length_cons]
    omega
  refine ⟨Nat.le_add_right 1 _, bound, earlier, line, later, shape, ?_⟩
  rw [Nat.add_comm]
  exact firstFault_of_fault? oneLine sound found

/-- A no-break space parts no key from a kind, and is trimmed only at the ends. -/
theorem parse_first_fault_no_break_space :
    let text := "[prog a]\r\r\n # = [\n\u00a0[ two\u00a0words ]\t\nwords"
    let e : ParseError :=
      ⟨.missingKey "two\u00a0words", 3, "\u00a0[ two\u00a0words ]\t"⟩
    parse text = .error e ∧ 1 ≤ e.line ∧ e.line ≤ (lines text.toList).length ∧
      ∃ earlier line later, lines text.toList = earlier ++ line :: later ∧
        FirstFault earlier line e := by
  intro text e
  have failed : parse text = .error e := by decide
  exact ⟨failed, parse_first_fault failed⟩

end Shortcuts.Grammar
