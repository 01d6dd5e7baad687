import Shortcuts.Proofs.Entry.FirstFault

/-!
# Texts one after the other

Lines without a fault finish some entries and leave one open, and the reader goes on from there
(`readLines_append`). The open entry only decides what becomes of parameters before the next header.
So a text that ends with its line and a text after it are read as each is alone, with the lines of
the second counted on (`parse_append`).
-/

namespace Shortcuts

/-- The error with its line counted in another way. -/
def ParseError.move (f : Nat → Nat) (e : ParseError) : ParseError := { e with line := f e.line }

namespace Grammar

open Text

/-! ## Where the reader is after some lines -/

/-- The entry that is open after some lines. -/
def opening (current : Option Entry) (ls : List (List Char)) : Option Entry := ls.foldl next current

/-- The entries that some lines finish. -/
def closed (current : Option Entry) : List (List Char) → List Entry
  | [] => []
  | line :: rest => finished current line ++ closed (next current line) rest

variable {n : Nat} {current : Option Entry} {earlier ls : List (List Char)} {e : ParseError}

theorem readLines_append (sound : Sound current.isSome earlier) (n : Nat)
    (later : List (List Char)) :
    readLines n current (earlier ++ later) =
      (readLines (n + earlier.length) (opening current earlier) later).map
        (closed current earlier ++ ·) := by
  -- On the earlier lines, with any number and any open entry, as one more line changes both.
  induction earlier generalizing n current with
  | nil =>
    change readLines n current later = (readLines n current later).map id
    cases readLines n current later <;> rfl
  | cons line rest ih =>
    obtain ⟨found, clean⟩ := sound
    rw [← isSome_next] at clean
    have count : n + (line :: rest).length = n + 1 + rest.length := by
      rw [List.length_cons]
      omega
    rw [List.cons_append, readLines_of_sound found, ih clean, count]
    change _ = (readLines _ (opening (next current line) rest) later).map _
    cases readLines (n + 1 + rest.length) (opening (next current line) rest) later with
    | error e => rfl
    | ok es => exact congrArg Except.ok (List.append_assoc _ _ _).symm

/-- A fault ends the reading, whatever follows. -/
theorem readLines_append_of_error (failed : readLines n current earlier = .error e)
    (later : List (List Char)) : readLines n current (earlier ++ later) = .error e := by
  obtain ⟨before, line, after, fault, rfl, sound, found, rfl⟩ := readLines_eq_error_iff.mp failed
  refine readLines_eq_error_iff.mpr ⟨before, line, after ++ later, fault, ?_, sound, found, rfl⟩
  rw [List.append_assoc, List.cons_append]

/-- Only the numbers in errors depend on where the counting starts. -/
theorem readLines_add (k n : Nat) (current : Option Entry) (ls : List (List Char)) :
    readLines (k + n) current ls = (readLines n current ls).mapError (.move (k + ·)) := by
  induction ls generalizing n current with
  | nil => rfl
  | cons line rest ih =>
    cases found : fault? current.isSome line with
    | some fault =>
      rw [readLines_of_fault found, readLines_of_fault found]
      rfl
    | none =>
      rw [readLines_of_sound found, readLines_of_sound found, Nat.add_assoc, ih]
      cases readLines (n + 1) (next current line) rest <;> rfl

/-! ## What an open entry changes -/

theorem Sound.opened (sound : Sound false ls) (opened : Bool) : Sound opened ls := by
  obtain ⟨formed, good, led⟩ := (sound_iff false ls).mp sound
  exact (sound_iff opened ls).mpr ⟨formed, good, fun _ => led rfl⟩

theorem fault?_of_other {opened : Bool} {line : List Char} {fault : LineFault}
    (found : fault? opened line = some fault) (other : fault ≠ .noEntryOpen) (open' : Bool) :
    fault? open' line = some fault := by
  obtain header | ignored | given | malformed := form_cases line
  · rwa [fault?_of_header open' header, ← fault?_of_header opened header]
  · rw [fault?_of_ignored opened ignored] at found
    cases found
  · rw [fault?_of_parameter opened given] at found
    cases opened with
    | true => cases found
    | false => exact absurd (Option.some.inj found).symm other
  · rwa [fault?_of_malformed open' malformed, ← fault?_of_malformed opened malformed]

/-- Lines that are read on their own leave an entry before them as it is. -/
theorem readLines_of_ok {es : List Entry} (read : readLines n none ls = .ok es)
    (current : Option Entry) : readLines n current ls = .ok (current.toList ++ es) := by
  obtain ⟨sound, rfl⟩ := readLines_eq_ok_iff.mp read
  have none_before := parameters_eq_nil ((sound_iff_accepts ls).mp sound)
  refine readLines_eq_ok_iff.mpr ⟨sound.opened _, ?_⟩
  cases current <;> simp [resumed, none_before]

/-- An open entry is only ever missing for a parameter. -/
theorem readLines_of_error (failed : readLines n none ls = .error e)
    (other : e.fault ≠ .noEntryOpen) (current : Option Entry) :
    readLines n current ls = .error e := by
  obtain ⟨before, line, after, fault, rfl, sound, found, rfl⟩ := readLines_eq_error_iff.mp failed
  exact readLines_eq_error_iff.mpr
    ⟨before, line, after, fault, rfl, sound.opened _, fault?_of_other found other _, rfl⟩

/-! ## Two texts -/

/-- What reading gives is what some lines finished, and the entry they leave open. -/
theorem sound_and_eq_closed {es : List Entry} (read : readLines n current ls = .ok es) :
    Sound current.isSome ls ∧ es = closed current ls ++ (opening current ls).toList := by
  obtain ⟨sound, -⟩ := readLines_eq_ok_iff.mp read
  have whole := readLines_append sound n []
  rw [List.append_nil, read] at whole
  exact ⟨sound, Except.ok.inj whole⟩

/-- A text after one that ends with its line: an error in the first is the error of both, and two
texts that are read give the entries of the first and then those of the second. An error in the
second is that of both, as many lines later as the first has, unless it is a parameter without an
entry and the first gives one. -/
theorem parse_append {a : String} (ended : Terminated a.toList) (b : String) :
    (∀ e, parse a = .error e → parse (a ++ b) = .error e) ∧
    (∀ es fs, parse a = .ok es → parse b = .ok fs → parse (a ++ b) = .ok (es ++ fs)) ∧
    ∀ es e, parse a = .ok es → parse b = .error e → e.fault ≠ .noEntryOpen ∨ es = [] →
      parse (a ++ b) = .error { e with line := (lines a.toList).length + e.line } := by
  have both : parse (a ++ b) = readLines 1 none (lines a.toList ++ lines b.toList) := by
    rw [parse, String.toList_append, ended.lines_append]
  refine ⟨fun e failed => ?_, fun es fs read after => ?_, fun es e read failed apart => ?_⟩
  · rw [both]
    exact readLines_append_of_error failed _
  · obtain ⟨sound, rfl⟩ := sound_and_eq_closed read
    rw [both, readLines_append sound, Nat.add_comm, readLines_add, readLines_of_ok after]
    exact congrArg Except.ok (List.append_assoc _ _ _).symm
  · obtain ⟨sound, rfl⟩ := sound_and_eq_closed read
    have resumes : readLines 1 (opening none (lines a.toList)) (lines b.toList) = .error e := by
      rcases apart with other | empty
      · exact readLines_of_error failed other _
      · have nothing := (List.append_eq_nil_iff.mp empty).2
        rwa [Option.toList_eq_nil_iff.mp nothing]
    rw [both, readLines_append sound, Nat.add_comm, readLines_add, resumes]
    rfl

/-- The entry that the first text leaves open takes nothing from the second. -/
theorem parse_append_second_header_at_fault :
    let a := "[prog a]\r\n exe = /bin/true\n\r\n"
    let b := "# [x]\n[unison b c]\narg"
    let es : List Entry := [⟨"prog", "a", [⟨"exe", "/bin/true"⟩]⟩]
    Terminated a.toList ∧ parse a = .ok es ∧
      parse b = .error ⟨.keyContainsSpace "b c", 2, "[unison b c]"⟩ ∧
      parse (a ++ b) = .error ⟨.keyContainsSpace "b c", 5, "[unison b c]"⟩ := by
  intro a b es
  have ended : Terminated a.toList := by decide
  have read : parse a = .ok es := by decide
  have failed : parse b = .error ⟨.keyContainsSpace "b c", 2, "[unison b c]"⟩ := by decide
  have joined := (parse_append ended b).2.2 es _ read failed (.inl nofun)
  have count : (lines a.toList).length = 3 := by decide
  rw [count] at joined
  exact ⟨ended, read, failed, joined⟩

end Grammar

end Shortcuts
