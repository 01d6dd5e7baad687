import Shortcuts.Proofs.Entry.Joining
import Shortcuts.Proofs.Traced

/-!
# Layout

A line is read by its trimmed text, and an ignored line changes nothing but the numbers of the lines
after it. So texts that differ in blanks around lines, in comments and blank lines, and in the way
lines end are read alike, and an error moves with its line (`parse_layout`).
-/

namespace Shortcuts

open Text

/-! ## Edits -/

/-- A blank line, or a comment after blanks. -/
def Contentless (l : List Char) : Prop :=
  (∀ c ∈ l, isBlank c = true) ∨ ∃ gap rest, l = gap ++ '#' :: rest ∧ ∀ c ∈ gap, isBlank c = true

/-- The second text has blanks more at one end of a line, or one more newline at its end. A carriage
return before a newline is such a blank, too. -/
inductive Padded : List Char → List Char → Prop
  | start (a gap b : List Char) (starts : Terminated a) (blank : ∀ c ∈ gap, isBlank c = true)
      (oneLine : '\n' ∉ gap) : Padded (a ++ b) (a ++ (gap ++ b))
  | finish (a gap b : List Char) (ends : b = [] ∨ b.head? = some '\n')
      (blank : ∀ c ∈ gap, isBlank c = true) (oneLine : '\n' ∉ gap) :
      Padded (a ++ b) (a ++ (gap ++ b))
  | carriageReturn (a b : List Char) : Padded (a ++ '\n' :: b) (a ++ '\r' :: '\n' :: b)
  | newline (a : List Char) : Padded a (a ++ ['\n'])

/-- One edit of a text, and where it moves each line. -/
inductive Edit : List Char → List Char → (Nat → Nat) → Prop
  | insert (a l b : List Char) (starts : Terminated a) (contentless : Contentless l)
      (oneLine : '\n' ∉ l) :
      Edit (a ++ b) (a ++ (l ++ '\n' :: b)) fun n => if n ≤ (lines a).length then n else n + 1
  | add {s t : List Char} (padded : Padded s t) : Edit s t id
  | remove {s t : List Char} (padded : Padded t s) : Edit s t id

inductive Edits : List Char → List Char → (Nat → Nat) → Prop
  | none (s : List Char) : Edits s s id
  | next {s t u : List Char} {f g : Nat → Nat} (edit : Edit s t f) (edits : Edits t u g) :
      Edits s u (g ∘ f)

/-- The text with a carriage return before every newline. -/
def withReturns (s : List Char) : List Char :=
  s.flatMap fun c => if c = '\n' then ['\r', '\n'] else [c]

/-- The error without the layout of its line. -/
def ParseError.trimmed (e : ParseError) : ParseError :=
  { e with text := String.ofList (trim e.text.toList) }

namespace Grammar

/-! ## Ignored lines -/

variable {n : Nat} {current : Option Entry} {ls : List (List Char)} {l : List Char} {e : ParseError}

theorem isIgnored_of_contentless (h : Contentless l) : IsIgnored l := by
  obtain blank | ⟨gap, rest, rfl, blank⟩ := h
  · have empty : trim l = [] := by
      rw [trim, trimStart_of_blank blank]
      rfl
    simp [IsIgnored, IsHeader, empty]
  · have hash : trim (gap ++ '#' :: rest) = '#' :: trimEnd rest := by
      rw [trim_around (by decide), trimStart_of_blank blank, List.nil_append]
    simp [IsIgnored, IsHeader, hash]

theorem readLines_ignored (ignored : IsIgnored l) (n : Nat) (current : Option Entry)
    (rest : List (List Char)) :
    readLines n current (l :: rest) = readLines (n + 1) current rest := by
  simp only [readLines, ofLine_of_ignored ignored]

theorem line_of_readLines_error (failed : readLines n current ls = .error e) :
    n ≤ e.line ∧ e.line < n + ls.length := by
  obtain ⟨earlier, line, later, fault, rfl, -, -, rfl⟩ := readLines_eq_error_iff.mp failed
  rw [List.length_append, List.length_cons]
  dsimp only
  omega

/-- Lines are read through to their end, or one of them stops the reader whatever follows. -/
theorem sound_or_fails (n : Nat) (current : Option Entry) (ls : List (List Char)) :
    Sound current.isSome ls ∨ ∃ e, readLines n current ls = .error e := by
  cases read : readLines n current ls with
  | ok es => exact .inl (readLines_eq_ok_iff.mp read).1
  | error e => exact .inr ⟨e, rfl⟩

theorem readLines_concat_ignored (ignored : IsIgnored l) (n : Nat) (current : Option Entry)
    (ls : List (List Char)) : readLines n current (ls ++ [l]) = readLines n current ls := by
  obtain sound | ⟨e, failed⟩ := sound_or_fails n current ls
  · have alone := readLines_append sound n []
    rw [List.append_nil] at alone
    rw [readLines_append sound, readLines_ignored ignored, alone]
    rfl
  · rw [readLines_append_of_error failed, failed]

/-- An ignored line between others moves the later ones down by one. -/
theorem readLines_insert_ignored (ignored : IsIgnored l) (n : Nat) (current : Option Entry)
    (earlier later : List (List Char)) :
    readLines n current (earlier ++ l :: later) =
      (readLines n current (earlier ++ later)).mapError
        (.move fun m => if m < n + earlier.length then m else m + 1) := by
  -- An error is at or below the new line, or it is above and the reader never gets there.
  obtain sound | ⟨e, failed⟩ := sound_or_fails n current earlier
  · rw [readLines_append sound, readLines_append sound, readLines_ignored ignored, Nat.add_comm _ 1,
      readLines_add]
    cases rest : readLines (n + earlier.length) (opening current earlier) later with
    | ok es => rfl
    | error e =>
      have after := (line_of_readLines_error rest).1
      simp [Except.map, Except.mapError, ParseError.move, Nat.not_lt.mpr after, Nat.add_comm]
  · have before := (line_of_readLines_error failed).2
    rw [readLines_append_of_error failed, readLines_append_of_error failed]
    simp [Except.mapError, ParseError.move, before]

/-! ## Outlines -/

/-- The trimmed lines of a text, with an empty one after a newline at its end. -/
def outline (s : List Char) : List (List Char) := (pieces '\n' s).map trim

theorem outline_unlines_append (oneLine : ∀ l ∈ ls, '\n' ∉ l) (rest : List Char) :
    outline (unlines ls ++ rest) = ls.map trim ++ outline rest := by
  rw [outline, pieces_unlines_append oneLine, List.map_append, outline]

theorem outline_of_newline_not_mem (oneLine : '\n' ∉ l) : outline l = [trim l] := by
  rw [outline, pieces_of_not_mem oneLine, List.map_singleton]

theorem outline_around (s r : List Char) : outline (s ++ '\n' :: r) = outline s ++ outline r := by
  rw [outline, pieces_around, List.map_append, outline, outline]

theorem outline_gap_append {gap : List Char} (blank : ∀ c ∈ gap, isBlank c = true)
    (oneLine : '\n' ∉ gap) (s : List Char) : outline (gap ++ s) = outline s := by
  induction gap with
  | nil => rfl
  | cons c gap ih =>
    obtain ⟨hc, others⟩ := List.forall_mem_cons.mp blank
    have other : c ≠ '\n' := fun e => oneLine (e ▸ List.mem_cons_self)
    rw [← ih others fun mem => oneLine (List.mem_cons_of_mem _ mem), List.cons_append, outline,
      pieces, if_neg other, outline]
    obtain ⟨first, rest, shape⟩ := List.exists_cons_of_ne_nil (pieces_ne_nil '\n' (gap ++ s))
    rw [shape, grow, List.map_cons, List.map_cons, trim_cons_blank hc]

theorem outline_append_gap {gap : List Char} (blank : ∀ c ∈ gap, isBlank c = true)
    (oneLine : '\n' ∉ gap) (s : List Char) : outline (s ++ gap) = outline s := by
  obtain ⟨ls, last, ended, rest, rfl⟩ := exists_unlines s
  have whole : '\n' ∉ last ++ gap := by simp [rest, oneLine]
  rw [List.append_assoc, outline_unlines_append ended, outline_unlines_append ended,
    outline_of_newline_not_mem whole, outline_of_newline_not_mem rest, trim_append_gap blank]

theorem isIgnored_nil : IsIgnored [] := isIgnored_of_contentless (.inl (List.forall_mem_nil _))

/-- Trimming hides the carriage returns that reading by lines takes away, and the empty line after a
last newline is no line of the text. -/
theorem outline_eq (s : List Char) :
    outline s = (lines s).map trim ∨ outline s = (lines s).map trim ++ [[]] := by
  obtain ⟨ls, last, ended, rest, rfl⟩ := exists_unlines s
  have returns : (ls.map dropReturn).map trim = ls.map trim := by
    rw [List.map_map]
    exact List.map_congr_left fun l _ => trim_dropReturn l
  rw [outline_unlines_append ended, outline_of_newline_not_mem rest, lines_unlines_append ended,
    List.map_append, returns]
  cases last with
  | nil => exact .inr (by rw [lines, List.map_nil, List.append_nil]; rfl)
  | cons c last =>
    rw [lines_of_newline_not_mem (List.cons_ne_nil c last) rest]
    exact .inl rfl

theorem readLines_map_trim (n : Nat) (current : Option Entry) (ls : List (List Char)) :
    readLines n current (ls.map trim) = (readLines n current ls).mapError .trimmed := by
  induction ls generalizing n current with
  | nil => rfl
  | cons line rest ih =>
    have same := trim_trim line
    rw [List.map_cons]
    cases found : fault? current.isSome line with
    | some fault =>
      rw [readLines_of_fault found, readLines_of_fault ((fault?_congr same _).trans found),
        Except.mapError, ParseError.trimmed, String.toList_ofList]
    | none =>
      rw [readLines_of_sound found, readLines_of_sound ((fault?_congr same _).trans found),
        next_congr same, finished_congr same, ih]
      cases readLines (n + 1) (next current line) rest <;> rfl

/-- What is read of a text, less the layout of the line at fault. -/
def gist (s : List Char) : Except ParseError (List Entry) := readLines 1 none (outline s)

theorem gist_eq (text : String) : gist text.toList = (parse text).mapError .trimmed := by
  obtain whole | more := outline_eq text.toList
  · rw [gist, whole, readLines_map_trim, parse]
  · rw [gist, more, readLines_concat_ignored isIgnored_nil, readLines_map_trim, parse]

/-! ## What an edit changes -/

variable {s t : List Char} {moved : Nat → Nat}

theorem gist_of_padded (padded : Padded s t) : gist t = gist s := by
  -- Only a newline at the end shows in the outline, as an empty line more.
  cases padded with
  | start a gap b starts blank oneLine =>
    obtain ⟨ls, ended, rfl⟩ := starts.exists_unlines
    rw [gist, gist, outline_unlines_append ended, outline_unlines_append ended,
      outline_gap_append blank oneLine]
  | finish a gap b ends blank oneLine =>
    obtain rfl | ends := ends
    · rw [gist, gist, List.append_nil, List.append_nil, outline_append_gap blank oneLine]
    · obtain ⟨b, rfl⟩ := List.head?_eq_some_iff.mp ends
      rw [gist, gist, ← List.append_assoc, outline_around, outline_around,
        outline_append_gap blank oneLine]
  | carriageReturn a b =>
    have blank : ∀ c ∈ ['\r'], isBlank c = true := List.forall_mem_singleton.mpr (by decide)
    have regroup : a ++ '\r' :: '\n' :: b = (a ++ ['\r']) ++ '\n' :: b := by simp
    rw [gist, gist, regroup, outline_around, outline_around,
      outline_append_gap blank (by decide)]
  | newline a =>
    rw [gist, gist, outline_around, outline_of_newline_not_mem List.not_mem_nil]
    exact readLines_concat_ignored isIgnored_nil 1 none _

theorem mapError_move_id (x : Except ParseError (List Entry)) : x.mapError (.move id) = x := by
  cases x <;> rfl

theorem gist_of_edit (edit : Edit s t moved) : gist t = (gist s).mapError (.move moved) := by
  cases edit with
  | insert a l b starts contentless oneLine =>
    obtain ⟨ls, ended, rfl⟩ := starts.exists_unlines
    have ignored : IsIgnored (trim l) :=
      (isIgnored_congr (trim_trim l)).mpr (isIgnored_of_contentless contentless)
    have count : (lines (unlines ls)).length = (ls.map trim).length := by
      rw [lines_unlines ended, List.length_map, List.length_map]
    rw [gist, gist, outline_unlines_append ended, outline_unlines_append ended, outline_around,
      outline_of_newline_not_mem oneLine, List.singleton_append, readLines_insert_ignored ignored,
      count]
    simp only [Nat.add_comm 1, Nat.lt_succ_iff]
  | add padded => rw [gist_of_padded padded, mapError_move_id]
  | remove padded => rw [gist_of_padded padded, mapError_move_id]

theorem gist_of_edits (edits : Edits s t moved) : gist t = (gist s).mapError (.move moved) := by
  induction edits with
  | none s => rw [mapError_move_id]
  | next edit _ ih =>
    rw [ih, gist_of_edit edit]
    cases gist _ <;> rfl

/-! ## Line ends alone -/

theorem withReturns_of_newline_not_mem (oneLine : '\n' ∉ l) : withReturns l = l := by
  induction l with
  | nil => rfl
  | cons c l ih =>
    have other : c ≠ '\n' := fun e => oneLine (e ▸ List.mem_cons_self)
    have tail := ih fun mem => oneLine (List.mem_cons_of_mem _ mem)
    rw [withReturns, List.flatMap_cons, if_neg other, ← withReturns, tail]
    rfl

theorem withReturns_unlines (oneLine : ∀ l ∈ ls, '\n' ∉ l) :
    withReturns (unlines ls) = unlines (ls.map (· ++ ['\r'])) := by
  rw [withReturns, unlines, unlines, List.flatMap_assoc, List.flatMap_map]
  apply List.flatMap_congr
  intro l mem
  rw [List.flatMap_append, ← withReturns, withReturns_of_newline_not_mem (oneLine l mem),
    List.append_assoc]
  rfl

/-- Reading by lines takes the carriage returns away again, and there were no others. -/
theorem lines_withReturns (absent : '\r' ∉ s) : lines (withReturns s) = lines s := by
  obtain ⟨ls, last, ended, rest, rfl⟩ := exists_unlines s
  have returned : ∀ l ∈ ls.map (· ++ ['\r']), '\n' ∉ l := by
    intro l mem
    obtain ⟨m, hm, rfl⟩ := List.mem_map.mp mem
    simp [ended m hm]
  have kept : ∀ l ∈ ls, dropReturn (l ++ ['\r']) = dropReturn l := by
    intro l mem
    have inside : '\r' ∉ l := fun r => absent <| List.mem_append_left _ <|
      List.mem_flatMap.mpr ⟨l, mem, List.mem_append_left _ r⟩
    rw [dropReturn_of_ne fun ending => inside (List.mem_of_getLast? ending)]
    simp [dropReturn]
  have split : withReturns (unlines ls ++ last) = withReturns (unlines ls) ++ withReturns last :=
    List.flatMap_append
  rw [split, withReturns_unlines ended, withReturns_of_newline_not_mem rest,
    lines_unlines_append returned, lines_unlines_append ended, List.map_map]
  exact congrArg (· ++ lines last) (List.map_congr_left kept)

theorem lines_concat_newline (absent : '\r' ∉ s) (unended : ¬Terminated s) :
    lines (s ++ ['\n']) = lines s := by
  obtain ⟨ls, last, ended, rest, rfl⟩ := exists_unlines s
  have given : last ≠ [] := by
    rintro rfl
    rw [List.append_nil] at unended
    exact unended (terminated_unlines ls)
  have inside : '\r' ∉ last := fun r => absent (List.mem_append_right _ r)
  rw [List.append_assoc, lines_unlines_append ended, lines_unlines_append ended,
    lines_append_newline rest, lines_of_newline_not_mem given rest,
    dropReturn_of_ne fun ending => inside (List.mem_of_getLast? ending)]
  rfl

/-! ## Layout -/

theorem getElem?_of_parse_error {text : String} (failed : parse text = .error e) :
    (lines text.toList)[e.line - 1]? = some e.text.toList := by
  obtain ⟨earlier, line, later, fault, shape, -, -, rfl⟩ := readLines_eq_error_iff.mp failed
  simp [shape]

/-- Edits of the layout leave the entries as they are. If there is an error instead, it stays the
same one and points at the same line where that is now. Line ends that are all given a carriage
return, and a last line that is ended, leave everything as it is, unless there were carriage returns
before. -/
theorem parse_layout :
    (∀ (text text' : String) (moved : Nat → Nat), Edits text.toList text'.toList moved →
      (∀ es, parse text = .ok es → parse text' = .ok es) ∧
      ∀ e, parse text = .error e → ∃ e', parse text' = .error e' ∧ e'.fault = e.fault ∧
        e'.line = moved e.line ∧ (lines text'.toList)[e'.line - 1]? = some e'.text.toList ∧
        trim e'.text.toList = trim e.text.toList) ∧
    ∀ text : String, '\r' ∉ text.toList →
      parse (String.ofList (withReturns text.toList)) = parse text ∧
      (¬Terminated text.toList → parse (text ++ "\n") = parse text) := by
  refine ⟨fun text text' moved edits => ?_, fun text absent => ⟨?_, fun unended => ?_⟩⟩
  · have told := gist_of_edits edits
    rw [gist_eq, gist_eq] at told
    refine ⟨fun es read => ?_, fun e failed => ?_⟩
    · rw [read] at told
      exact Traced.mapError_eq_ok_iff.mp told
    · rw [failed] at told
      obtain ⟨e', failed', same⟩ := Traced.mapError_eq_error_iff.mp told
      have fault := congrArg ParseError.fault same
      have number := congrArg ParseError.line same
      have line := String.ofList_inj.mp (congrArg ParseError.text same)
      exact ⟨e', failed', fault, number, getElem?_of_parse_error failed', line⟩
  · rw [parse, String.toList_ofList, lines_withReturns absent, parse]
  · rw [parse, String.toList_append]
    exact congrArg (readLines 1 none) (lines_concat_newline absent unended)

/-- A comment moves the line at fault down, however that line is laid out. -/
theorem parse_layout_below_comment :
    let text := "[prog a]\nwords \n"
    let text' := "\t# [note\n[prog a]\r\n\u00a0words \n"
    let moved : Nat → Nat := fun n => if n ≤ 0 then n else n + 1
    Edits text.toList text'.toList moved ∧
      parse text = .error ⟨.unrecognized, 2, "words "⟩ ∧
      (∃ e', parse text' = .error e' ∧ e'.fault = .unrecognized ∧ e'.line = 3 ∧
        (lines text'.toList)[e'.line - 1]? = some e'.text.toList ∧
        trim e'.text.toList = "words".toList) ∧
      parse (String.ofList (withReturns text.toList)) = parse text := by
  intro text text' moved
  have tab : ∀ c ∈ ['\t'], isBlank c = true := List.forall_mem_singleton.mpr (by decide)
  have space : ∀ c ∈ ['\u00a0'], isBlank c = true := List.forall_mem_singleton.mpr (by decide)
  have comment : Contentless "\t# [note".toList := .inr ⟨['\t'], " [note".toList, rfl, tab⟩
  have inserted : Edit "[prog a]\nwords \n".toList "\t# [note\n[prog a]\nwords \n".toList moved :=
    .insert [] "\t# [note".toList "[prog a]\nwords \n".toList (.inl rfl) comment (by decide)
  have returned : Padded "\t# [note\n[prog a]\nwords \n".toList
      "\t# [note\n[prog a]\r\nwords \n".toList :=
    .carriageReturn "\t# [note\n[prog a]".toList "words \n".toList
  have indented : Padded "\t# [note\n[prog a]\r\nwords \n".toList
      "\t# [note\n[prog a]\r\n\u00a0words \n".toList :=
    .start "\t# [note\n[prog a]\r\n".toList ['\u00a0'] "words \n".toList (by decide) space
      (by decide)
  have edits : Edits text.toList text'.toList moved :=
    .next inserted (.next (.add returned) (.next (.add indented) (.none _)))
  have failed : parse text = .error ⟨.unrecognized, 2, "words "⟩ := by decide
  obtain ⟨-, stays⟩ := parse_layout.1 text text' moved edits
  exact ⟨edits, failed, stays _ failed, (parse_layout.2 text (by decide)).1⟩

end Grammar

end Shortcuts
