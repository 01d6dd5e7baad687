import Shortcuts.Proofs.Host.MountPoints
import Shortcuts.Proofs.Text.Fields

/-!
# What a look-up reads of a table

A look-up reads the second field of every line that has one, and compares the places that these
fields name with that of the point (`lists_iff`). So it sees neither the order of the lines nor
their other fields nor slashes at the end of a path, and the empty path is nowhere
(`lists_by_second_fields`).
-/

namespace Shortcuts.MountTable

open Text

variable {table later point line place field : List Char}

/-! ## Paths and slashes at their end -/

theorem normalize_append_slashes {path : List Char} (h : path ≠ []) (n : Nat) :
    normalize (path ++ List.replicate n '/') = normalize path := by
  rw [normalize, dropEndWhile_slashes, List.head?_append_of_ne_nil _ h, normalize]

theorem normalize_ne_nil {path : List Char} (h : path ≠ []) : normalize path ≠ [] := by
  unfold normalize
  split
  · rename_i empty
    have rooted : path.head? = some '/' := by
      obtain ⟨n, slashes⟩ := eq_dropEndWhile_append path
      rw [empty, List.nil_append] at slashes
      cases n with
      | zero => exact absurd slashes h
      | succ n => rw [slashes, List.replicate_succ, List.head?_cons]
    rw [if_pos rooted]
    exact List.cons_ne_nil _ _
  · exact List.cons_ne_nil _ _

/-! ## Places -/

/-- The place that a field names. -/
def placeOf (field : List Char) : List Char := normalize (Octal.decode field)

/-- The second field of the line names this place. -/
def Names (line place : List Char) : Prop := ∃ w, (words line)[1]? = some w ∧ placeOf w = place

/-- A slash is no digit, so it finishes no escape at the end of the field. -/
theorem placeOf_append_slashes (h : field ≠ []) (n : Nat) :
    placeOf (field ++ List.replicate n '/') = placeOf field := by
  have apart : ∀ d, (List.replicate n '/').head? = some d → Octal.digit? d = none := by
    intro d hd
    rw [List.eq_of_mem_replicate (List.mem_of_mem_head? hd)]
    decide
  have slashes : '\\' ∉ List.replicate n '/' := fun mem =>
    absurd (List.eq_of_mem_replicate mem) (by decide)
  rw [placeOf, Octal.decode_append field apart, Octal.decode_of_not_mem slashes,
    normalize_append_slashes (Octal.decode_ne_nil h), placeOf]

theorem Names.place_ne_nil (h : Names line place) : place ≠ [] := by
  obtain ⟨w, found, rfl⟩ := h
  have word := isWord_of_mem_words (List.mem_of_getElem? found)
  exact normalize_ne_nil (Octal.decode_ne_nil word.given)

theorem Names.two_le_length (h : Names line place) : 2 ≤ (words line).length := by
  obtain ⟨w, found, -⟩ := h
  obtain ⟨bound, -⟩ := List.getElem?_eq_some_iff.mp found
  exact bound

theorem names_dropReturn : Names (dropReturn line) place ↔ Names line place := by
  rw [Names, words_dropReturn, Names]

/-- A point is listed when some line names its place. -/
theorem lists_iff : lists table point = true ↔ ∃ l ∈ lines table, Names l (normalize point) := by
  simp only [lists, targets, List.any_eq_true, List.mem_filterMap, target?, beq_iff_eq,
    Option.map_eq_some_iff]
  constructor
  · rintro ⟨_, ⟨l, hl, w, found, rfl⟩, same⟩
    exact ⟨l, hl, w, found, same⟩
  · rintro ⟨l, hl, w, found, same⟩
    exact ⟨_, ⟨l, hl, w, found, rfl⟩, same⟩

/-! ## Tables line by line -/

theorem lists_append (starts : Terminated table) :
    lists (table ++ later) point = true ↔
      lists table point = true ∨ lists later point = true := by
  simp only [lists_iff, starts.lines_append, List.mem_append, or_and_right, exists_or]

/-- Lines with fewer than two fields name no place, so the others decide. -/
theorem lists_of_lines {table' : List Char}
    (given : ∀ l ∈ lines table, 2 ≤ (words l).length → l ∈ lines table')
    (listed : lists table point = true) : lists table' point = true := by
  obtain ⟨l, hl, names⟩ := lists_iff.mp listed
  exact lists_iff.mpr ⟨l, given l hl names.two_le_length, names⟩

theorem lists_line_append (oneLine : '\n' ∉ line) (ends : later = [] ∨ later.head? = some '\n') :
    lists (line ++ later) point = true ↔
      Names line (normalize point) ∨ lists later.tail point = true := by
  obtain rfl | newline := ends
  · have nowhere : lists [] point = false := rfl
    rw [List.append_nil, List.tail_nil, nowhere, or_iff_left Bool.false_ne_true, lists_iff]
    by_cases empty : line = []
    · subst empty
      simp [lines, Names, words]
    · simp only [lines_of_newline_not_mem empty oneLine, List.mem_singleton, exists_eq_left]
  · obtain ⟨later, rfl⟩ := List.head?_eq_some_iff.mp newline
    rw [lists_iff, lists_iff, lines_append_newline oneLine, List.exists_mem_cons_iff,
      names_dropReturn, List.tail_cons]

theorem lists_fill (s : Slot) {w : List Char} (word : IsWord w) :
    lists (s.fill w) point = true ↔
      lists s.earlier point = true ∨ Names (s.line w) (normalize point) ∨
        lists s.later.tail point = true := by
  rw [Slot.fill, List.append_assoc, lists_append s.starts,
    lists_line_append (s.newline_not_mem_line word) s.ends]

theorem lists_fill_congr (s : Slot) {v w : List Char} (hv : IsWord v) (hw : IsWord w)
    (same : ∀ place, Names (s.line v) place ↔ Names (s.line w) place) (point : List Char) :
    lists (s.fill v) point = lists (s.fill w) point := by
  rw [Bool.eq_iff_iff, lists_fill s hv, lists_fill s hw, same]

theorem names_line_of_other (s : Slot) {v w : List Char} (hv : IsWord v) (hw : IsWord w)
    (other : s.index ≠ 1) : Names (s.line v) place ↔ Names (s.line w) place := by
  rw [Names, Names, s.words_line hv hw, List.getElem?_set_ne other]

theorem names_line_of_second (s : Slot) {w : List Char} (hw : IsWord w) (second : s.index = 1) :
    Names (s.line w) place ↔ placeOf w = place := by
  have found := s.getElem?_words_line hw
  rw [second] at found
  simp only [Names, found, Option.some.injEq, exists_eq_left']

theorem isWord_append_slashes (word : IsWord field) (n : Nat) :
    IsWord (field ++ List.replicate n '/') where
  given := List.append_ne_nil_of_left_ne_nil word.given _
  visible := by
    intro c hc
    rcases List.mem_append.mp hc with inside | slash
    · exact word.visible c inside
    · rw [List.eq_of_mem_replicate slash]
      decide

/-! ## Look-ups -/

/-- A table that is ended by a newline is looked up apart from what follows it, so more lines list
more points. Only the lines with two fields count, whatever their order, and of their fields only
the second, up to slashes at its end. A point that is not empty may have slashes added, too, and
the empty one is never listed. -/
theorem lists_by_second_fields :
    (∀ table later point, Terminated table →
      (lists (table ++ later) point = true ↔
        lists table point = true ∨ lists later point = true)) ∧
    (∀ table table' point, lines table ⊆ lines table' →
      lists table point = true → lists table' point = true) ∧
    (∀ table table' point,
      (∀ l, 2 ≤ (words l).length → (l ∈ lines table ↔ l ∈ lines table')) →
      lists table point = lists table' point) ∧
    (∀ table, ∀ l ∈ lines table, ∀ i w, (words l)[i]? = some w →
      IsWord w ∧ ∃ s : Slot, s.fill w = table ∧ s.index = i) ∧
    (∀ (s : Slot) v w point, IsWord v → IsWord w → s.index ≠ 1 →
      lists (s.fill v) point = lists (s.fill w) point) ∧
    (∀ (s : Slot) w n point, IsWord w → s.index = 1 →
      lists (s.fill (w ++ List.replicate n '/')) point = lists (s.fill w) point) ∧
    (∀ table point n, point ≠ [] →
      lists table (point ++ List.replicate n '/') = lists table point) ∧
    ∀ table, lists table [] = false := by
  refine ⟨fun _ _ _ starts => lists_append starts,
    fun _ _ _ subset => lists_of_lines fun l hl _ => subset hl, ?_, ?_, ?_, ?_, ?_, ?_⟩
  · intro table table' point same
    rw [Bool.eq_iff_iff]
    exact ⟨lists_of_lines fun l hl two => (same l two).mp hl,
      lists_of_lines fun l hl two => (same l two).mpr hl⟩
  · intro table l hl i w found
    exact ⟨isWord_of_mem_words (List.mem_of_getElem? found), exists_slot hl found⟩
  · intro s v w point hv hw other
    exact lists_fill_congr s hv hw (fun _ => names_line_of_other s hv hw other) point
  · intro s w n point hw second
    have longer := isWord_append_slashes hw n
    apply lists_fill_congr s longer hw
    intro place
    rw [names_line_of_second s longer second, names_line_of_second s hw second,
      placeOf_append_slashes hw.given]
  · intro table point n given
    rw [lists, lists, normalize_append_slashes given]
  · intro table
    rw [← Bool.not_eq_true, lists_iff]
    rintro ⟨l, -, names⟩
    exact names.place_ne_nil rfl

/-- A field may end in a part of an escape and its line in a carriage return, and any blank ends a
field. -/
theorem lists_by_second_fields_of_partial_escape :
    let table := "proc\nnas /mnt/a\\04\u00a0nfs\r\n".toList
    let point := "/mnt/a\\04".toList
    let device : Slot :=
      { earlier := "proc\n".toList, front := [], back := " /mnt/a\\04\u00a0nfs\r".toList
        later := ['\n'], starts := by decide, parted := ⟨nofun, by rintro c ⟨⟩; rfl⟩
        oneLine := by decide, ends := .inr rfl }
    let target : Slot :=
      { earlier := "proc\n".toList, front := "nas ".toList, back := "\u00a0nfs\r".toList
        later := ['\n'], starts := by decide
        parted := ⟨by rintro c ⟨⟩; rfl, by rintro c ⟨⟩; rfl⟩
        oneLine := by decide, ends := .inr rfl }
    Terminated table ∧ device.fill "nas".toList = table ∧ device.index ≠ 1 ∧
      lists (device.fill "/dev/sda1".toList) point = true ∧
      target.fill point = table ∧ target.index = 1 ∧
      (∀ n, lists (target.fill (point ++ List.replicate n '/')) point = true) ∧
      (∀ n, lists table (point ++ List.replicate n '/') = true) ∧
      lists (table ++ "x /x".toList) point = true ∧ lists table [] = false := by
  intro table point device target
  have listed : lists table point = true := by decide
  have named : device.fill "nas".toList = table := by decide
  have mounted : target.fill point = table := by decide
  obtain ⟨append, -, -, -, other, second, slashes, empty⟩ := lists_by_second_fields
  have replaced := other device "/dev/sda1".toList "nas".toList point (by decide) (by decide)
    (by decide)
  rw [named, listed] at replaced
  have extended (n : Nat) := second target point n point (by decide) (by decide)
  refine ⟨by decide, named, by decide, replaced, mounted, by decide, fun n => ?_, fun n => ?_, ?_,
    empty table⟩
  · rw [extended, mounted, listed]
  · rw [slashes table point n (by decide), listed]
  · exact (append table _ point (by decide)).mpr (.inl listed)

end Shortcuts.MountTable
