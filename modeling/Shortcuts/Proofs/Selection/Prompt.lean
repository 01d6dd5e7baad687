import Shortcuts.Proofs.Text.Encoding
import Shortcuts.Proofs.Text.Splitting
import Shortcuts.Selection.Basic

/-!
# Choices at the prompt

One line of the input is read, up to its newline or to the end of the input, whatever follows it
(`readChoices_encode`). Words that are laid out on a line with blanks between them are read back as
they are (`TypedLine.words_text`).
-/

namespace Shortcuts

open Text

/-! ## Lines of input -/

/-- What may follow a line: a newline and anything after it, or nothing. -/
def EndsLine (rest : Bytes) : Prop := ∀ b ∈ rest.head?, b = 0x0A

theorem endsLine_newline (more : Bytes) : EndsLine (0x0A :: more) := by
  rintro b ⟨⟩
  rfl

theorem takeLine_append {line rest : Bytes} (h : 0x0A ∉ line) (ended : EndsLine rest) :
    takeLine (line ++ rest) = (line ++ rest.take 1, rest.drop 1) := by
  induction line with
  | nil =>
    cases rest with
    | nil => rfl
    | cons b rest =>
      obtain rfl := ended b rfl
      rfl
  | cons b line ih =>
    have hb : b ≠ 0x0A := fun e => h (e ▸ List.mem_cons_self)
    rw [List.cons_append, takeLine, if_neg hb, ih fun m => h (List.mem_cons_of_mem _ m)]
    rfl

theorem take_one_of_endsLine {rest : Bytes} (ended : EndsLine rest) :
    ∃ gap : List Char, (∀ c ∈ gap, isBlank c = true) ∧ rest.take 1 = encode gap := by
  cases rest with
  | nil => exact ⟨[], List.forall_mem_nil _, rfl⟩
  | cons b rest =>
    obtain rfl := ended b rfl
    exact ⟨['\n'], List.forall_mem_singleton.mpr rfl, rfl⟩

theorem readChoices_encode {line : List Char} (h : '\n' ∉ line) {rest : Bytes}
    (ended : EndsLine rest) :
    readChoices (.bytes (encode line ++ rest)) =
      (.ok ((words line).map String.ofList), .bytes (rest.drop 1)) := by
  obtain ⟨gap, blank, taken⟩ := take_one_of_endsLine ended
  have text : decode? (encode line ++ rest.take 1) = some (line ++ gap) := by
    rw [taken, ← encode_append, decode?_encode]
  simp only [readChoices, Input.readLine, takeLine_append (newline_not_mem_encode h) ended, text]
  change (Except.ok (wordStrings (String.ofList (line ++ gap))), _) = _
  rw [wordStrings, String.toList_ofList, words_append_gap blank]

/-! ## Typed words -/

/-- Blanks that stand on one line. -/
def Gap (gap : List Char) : Prop := ∀ c ∈ gap, isBlank c = true ∧ c ≠ '\n'

-- By `all`: a claim about every `c` in a list is also decided by trying every character there is.
instance : DecidablePred Gap :=
  fun gap => decidable_of_iff (gap.all (fun c => isBlank c && c != '\n') = true) (by simp [Gap])

theorem Gap.blank {gap : List Char} (h : Gap gap) : ∀ c ∈ gap, isBlank c = true :=
  fun c hc => (h c hc).1

theorem Gap.newline_not_mem {gap : List Char} (h : Gap gap) : '\n' ∉ gap :=
  fun mem => (h _ mem).2 rfl

/-- A text that can be typed as one word. -/
def Visible (s : String) : Prop := ∀ c ∈ s.toList, isBlank c = false

instance : DecidablePred Visible :=
  fun s => decidable_of_iff (s.toList.all (fun c => !isBlank c) = true) (by simp [Visible])

theorem Visible.newline_not_mem {s : String} (h : Visible s) : '\n' ∉ s.toList := by
  intro mem
  exact absurd (h _ mem) (by decide)

/-- A word and the blanks after it. -/
structure TypedWord where
  word : String
  gap : List Char
  deriving DecidableEq, Repr

/-- The blanks before the first word, and the words. -/
structure TypedLine where
  margin : List Char
  typed : List TypedWord
  deriving DecidableEq, Repr

namespace TypedLine

def text (t : TypedLine) : List Char :=
  t.margin ++ t.typed.flatMap fun w => w.word.toList ++ w.gap

def choices (t : TypedLine) : List String := t.typed.map TypedWord.word

/-- Only the last word may have no blank after it. -/
structure Valid (t : TypedLine) : Prop where
  margin : Gap t.margin
  named : ∀ w ∈ t.typed, w.word ≠ ""
  visible : ∀ w ∈ t.typed, Visible w.word
  gap : ∀ w ∈ t.typed, Gap w.gap
  parted : ∀ w ∈ t.typed.dropLast, w.gap ≠ []

instance (t : TypedLine) : Decidable t.Valid :=
  decidable_of_iff (Gap t.margin ∧ (∀ w ∈ t.typed, w.word ≠ "") ∧ (∀ w ∈ t.typed, Visible w.word) ∧
      (∀ w ∈ t.typed, Gap w.gap) ∧ ∀ w ∈ t.typed.dropLast, w.gap ≠ [])
    ⟨fun ⟨a, b, c, d, e⟩ => ⟨a, b, c, d, e⟩, fun ⟨a, b, c, d, e⟩ => ⟨a, b, c, d, e⟩⟩

variable {t : TypedLine}

theorem Valid.newline_not_mem (h : t.Valid) : '\n' ∉ t.text := by
  intro mem
  rcases List.mem_append.mp mem with margin | typed
  · exact h.margin.newline_not_mem margin
  · obtain ⟨w, hw, inside⟩ := List.mem_flatMap.mp typed
    rcases List.mem_append.mp inside with word | gap
    · exact (h.visible w hw).newline_not_mem word
    · exact (h.gap w hw).newline_not_mem gap

/-- The words of a line are those that were typed. -/
theorem words_text (h : t.Valid) : words t.text = t.choices.map String.toList := by
  obtain ⟨margin, typed⟩ := t
  obtain ⟨hm, named, visible, gaps, parted⟩ := h
  dsimp only at hm named visible gaps parted
  rw [text, choices, words_gap_append hm.blank, List.map_map]
  clear hm
  induction typed with
  | nil => rfl
  | cons w typed ih =>
    have word : w.word.toList ≠ [] := by simpa using named w List.mem_cons_self
    have seen := visible w List.mem_cons_self
    have blank := (gaps w List.mem_cons_self).blank
    cases typed with
    | nil =>
      rw [List.flatMap_singleton, words_append_gap blank, words_of_visible word seen]
      rfl
    | cons v typed =>
      have tail := ih (fun u hu => named u (List.mem_cons_of_mem _ hu))
        (fun u hu => visible u (List.mem_cons_of_mem _ hu))
        (fun u hu => gaps u (List.mem_cons_of_mem _ hu))
        (fun u hu => parted u (List.mem_cons_of_mem _ hu))
      obtain ⟨b, gap, shape⟩ := List.exists_cons_of_ne_nil (parted w List.mem_cons_self)
      rw [shape] at blank
      rw [List.flatMap_cons, shape, List.append_assoc, List.cons_append,
        words_append_blank word seen (blank b List.mem_cons_self),
        words_gap_append fun c hc => blank c (List.mem_cons_of_mem _ hc), tail]
      rfl

/-- Whatever follows the line, its words are the choices. -/
theorem readChoices_text (h : t.Valid) {rest : Bytes} (ended : EndsLine rest) :
    (readChoices (.bytes (encode t.text ++ rest))).1 = .ok t.choices := by
  rw [readChoices_encode h.newline_not_mem ended, words_text h, List.map_map]
  simp [Function.comp_def]

end TypedLine

end Shortcuts
