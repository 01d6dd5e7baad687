import Shortcuts.Proofs.Text.Splitting

/-!
# Fields of a line

A field is a word with a blank or an end of its line on each side. Another word in its place is the
field of the same number, and the other fields stay (`Slot.words_line`). Every word of every line
stands in such a place (`exists_slot`).
-/

namespace Shortcuts.Text

/-- Characters that make one word. -/
structure IsWord (w : List Char) : Prop where
  given : w ≠ []
  visible : ∀ c ∈ w, isBlank c = false

-- By `all`: a claim about every `c` in a list is also decided by trying every character there is.
instance : DecidablePred IsWord := fun w =>
  decidable_of_iff (w ≠ [] ∧ w.all (fun c => !isBlank c) = true)
    ⟨fun ⟨given, visible⟩ => ⟨given, by simpa using visible⟩,
      fun ⟨given, visible⟩ => ⟨given, by simpa using visible⟩⟩

/-- A word between the texts touches no other word. -/
structure Parted (front back : List Char) : Prop where
  front : ∀ c, front.getLast? = some c → isBlank c = true
  back : ∀ c, back.head? = some c → isBlank c = true

/-- A place for a field in a text: what stands before and after it in its line, and the lines around
that one. -/
structure Slot where
  earlier : List Char
  front : List Char
  back : List Char
  later : List Char
  starts : Terminated earlier
  parted : Parted front back
  oneLine : '\n' ∉ front ∧ '\n' ∉ back
  ends : later = [] ∨ later.head? = some '\n'

namespace Slot

def line (s : Slot) (w : List Char) : List Char := s.front ++ w ++ s.back

/-- The text with this word in the place. -/
def fill (s : Slot) (w : List Char) : List Char := s.earlier ++ s.line w ++ s.later

/-- How many fields of the line stand before the place. -/
def index (s : Slot) : Nat := (words s.front).length

end Slot

theorem IsWord.newline_not_mem {w : List Char} (h : IsWord w) : '\n' ∉ w := by
  intro mem
  exact absurd (h.visible _ mem) (by decide)

theorem isWord_of_mem_words {s w : List Char} (h : w ∈ words s) : IsWord w := by
  refine ⟨?_, visible_of_mem_words h⟩
  rintro rfl
  fun_induction words s with
  | case1 => cases h
  | case2 c r _ ih => exact ih h
  | case3 c => cases List.mem_singleton.mp h
  | case4 c _ d r' _ ih =>
    rcases List.mem_cons.mp h with first | later
    · cases first
    · exact ih later
  | case5 c _ d r' _ ih =>
    cases shape : words (d :: r') with
    | nil =>
      rw [shape] at h
      cases List.mem_singleton.mp h
    | cons w ws =>
      rw [shape] at h ih
      rcases List.mem_cons.mp h with first | later
      · cases first
      · exact ih (List.mem_cons_of_mem w later)

/-- A carriage return is a blank, so the words of a line do not show whether it was taken away. -/
theorem words_dropReturn (l : List Char) : words (dropReturn l) = words l := by
  cases l using List.reverseRecOn with
  | nil => rfl
  | append_singleton l c =>
    unfold dropReturn
    split
    · rename_i ends
      obtain rfl : c = '\r' := by simpa using ends
      rw [List.dropLast_concat]
      exact (words_append_gap (List.forall_mem_singleton.mpr (by decide)) l).symm
    · rfl

theorem words_between {front back w : List Char} (parted : Parted front back) (word : IsWord w) :
    words (front ++ w ++ back) = words front ++ w :: words back := by
  have after : words (w ++ back) = w :: words back := by
    cases back with
    | nil => rw [List.append_nil, words_of_visible word.given word.visible]; rfl
    | cons b back =>
      have blank := parted.back b rfl
      rw [words_append_blank word.given word.visible blank, words_of_blank blank]
  cases front using List.reverseRecOn with
  | nil => exact after
  | append_singleton front b =>
    have blank := parted.front b List.getLast?_concat
    rw [List.append_assoc, List.append_assoc, List.singleton_append, words_around blank, after,
      words_around blank]
    simp [words]

namespace Slot

/-- A word put in the place is the field there, and the other fields stay. -/
theorem words_line (s : Slot) {v w : List Char} (hv : IsWord v) (hw : IsWord w) :
    words (s.line w) = (words (s.line v)).set s.index w := by
  rw [line, line, words_between s.parted hw, words_between s.parted hv, index]
  simp

theorem getElem?_words_line (s : Slot) {w : List Char} (hw : IsWord w) :
    (words (s.line w))[s.index]? = some w := by
  rw [line, words_between s.parted hw, index]
  simp

theorem newline_not_mem_line (s : Slot) {w : List Char} (hw : IsWord w) : '\n' ∉ s.line w := by
  simp [line, s.oneLine, hw.newline_not_mem]

end Slot

/-! ## Where a word stands -/

theorem exists_first_word {c : Char} (hc : isBlank c = false) (r : List Char) :
    ∃ first rest, c :: r = first ++ rest ∧ IsWord first ∧ Parted [] rest ∧
      words (c :: r) = first :: words rest := by
  have shape := words_of_not_blank hc r
  have word := isWord_of_mem_words (shape ▸ List.mem_cons_self)
  refine ⟨_, _, List.takeWhile_append_dropWhile.symm, word, ⟨nofun, fun b hb => ?_⟩, shape⟩
  have stops := List.head?_dropWhile_not (!isBlank ·) (c :: r)
  rw [hb] at stops
  simpa using stops

/-- A word of a line stands with as many words before it as its number says. -/
theorem exists_between {s w : List Char} {i : Nat} (h : (words s)[i]? = some w) :
    ∃ front back, s = front ++ w ++ back ∧ Parted front back ∧ (words front).length = i := by
  have word := isWord_of_mem_words (List.mem_of_getElem? h)
  cases s with
  | nil => cases h
  | cons c r =>
    cases hc : isBlank c with
    | true =>
      rw [words_of_blank hc] at h
      obtain ⟨front, back, rfl, parted, index⟩ := exists_between h
      refine ⟨c :: front, back, rfl, ⟨?_, parted.back⟩, by rw [words_of_blank hc, index]⟩
      cases front with
      | nil =>
        rintro d ⟨⟩
        exact hc
      | cons d front => exact parted.front
    | false =>
      obtain ⟨first, rest, shape, firstWord, parted, cut⟩ := exists_first_word hc r
      rw [cut] at h
      cases i with
      | zero =>
        obtain rfl := Option.some.inj h
        exact ⟨[], rest, shape, parted, rfl⟩
      | succ i =>
        have shorter : rest.length < (c :: r).length := by
          have length := congrArg List.length shape
          have := List.length_pos_iff.mpr firstWord.given
          simp only [List.length_append] at length
          omega
        obtain ⟨front, back, rfl, inner, index⟩ := exists_between (List.getElem?_cons_succ ▸ h)
        -- The rest starts with the blank that ends the first word, so `front` is not empty.
        cases front with
        | nil =>
          obtain ⟨d, w, rfl⟩ := List.exists_cons_of_ne_nil word.given
          have blank := parted.back d rfl
          rw [word.visible d List.mem_cons_self] at blank
          cases blank
        | cons b front =>
          have blank := parted.back b rfl
          refine ⟨first ++ b :: front, back, by simp [shape], ⟨?_, inner.back⟩, ?_⟩
          · intro d hd
            rw [List.getLast?_append_of_ne_nil _ (List.cons_ne_nil b front)] at hd
            exact inner.front d hd
          · rw [words_append_blank firstWord.given firstWord.visible blank, List.length_cons,
              ← words_of_blank blank, index]
termination_by s.length

theorem exists_line {t l : List Char} (h : l ∈ lines t) :
    ∃ earlier line later, t = earlier ++ line ++ later ∧ Terminated earlier ∧ '\n' ∉ line ∧
      (later = [] ∨ later.head? = some '\n') ∧ words line = words l := by
  obtain ⟨ls, last, ended, rest, rfl⟩ := exists_unlines t
  rw [lines_unlines_append ended, List.mem_append, List.mem_map] at h
  obtain ⟨line, mem, rfl⟩ | final := h
  · obtain ⟨before, after, rfl⟩ := List.append_of_mem mem
    refine ⟨unlines before, line, '\n' :: (unlines after ++ last), ?_, terminated_unlines before,
      ended line mem, .inr rfl, (words_dropReturn line).symm⟩
    simp [unlines]
  · cases last with
    | nil => cases final
    | cons c last =>
      rw [lines_of_newline_not_mem (List.cons_ne_nil c last) rest, List.mem_singleton] at final
      exact ⟨unlines ls, c :: last, [], (List.append_nil _).symm, terminated_unlines ls, rest,
        .inl rfl, congrArg words final.symm⟩

/-- Every field of every line has its place. -/
theorem exists_slot {t l w : List Char} {i : Nat} (hl : l ∈ lines t)
    (hw : (words l)[i]? = some w) : ∃ s : Slot, s.fill w = t ∧ s.index = i := by
  obtain ⟨earlier, line, later, rfl, starts, oneLine, ends, same⟩ := exists_line hl
  rw [← same] at hw
  obtain ⟨front, back, rfl, parted, index⟩ := exists_between hw
  have sides : '\n' ∉ front ∧ '\n' ∉ back := by
    simp only [List.mem_append, not_or] at oneLine
    exact ⟨oneLine.1.1, oneLine.2⟩
  exact ⟨⟨earlier, front, back, later, starts, parted, sides, ends⟩, rfl, index⟩

end Shortcuts.Text
