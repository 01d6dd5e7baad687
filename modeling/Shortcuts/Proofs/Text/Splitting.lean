import Mathlib.Data.List.Basic
import Mathlib.Data.List.Induction
import Mathlib.Data.List.TakeWhile
import Shortcuts.Text.Split

/-!
# Splitting

A text made of lines, each followed by a newline, is read back line by line (`lines_unlines`); only
a carriage return at the end of a line is lost. Every text is made of such lines and a rest without
a newline (`exists_unlines`), and a text after a newline adds its own lines
(`Terminated.lines_append`). A word ends at the first blank after it
(`words_of_not_blank`), so any blank parts the words before it from those after it
(`words_around`), and a cut is made at the first occurrence (`cut_append`). Pieces are parted by
every occurrence, also the last one (`pieces_around`).
-/

namespace Shortcuts.Text

/-- The text of some lines, each followed by a newline. -/
def unlines (ls : List (List Char)) : List Char := ls.flatMap (· ++ ['\n'])

/-- What is read of a line that a newline ends. -/
def dropReturn (line : List Char) : List Char :=
  if line.getLast? = some '\r' then line.dropLast else line

theorem dropReturn_of_ne {line : List Char} (h : line.getLast? ≠ some '\r') :
    dropReturn line = line :=
  if_neg h

theorem dropReturn_cons (c : Char) {line : List Char} (h : line ≠ []) :
    dropReturn (c :: line) = c :: dropReturn line := by
  obtain ⟨d, r, rfl⟩ := List.exists_cons_of_ne_nil h
  simp only [dropReturn, List.getLast?_cons_cons]
  split <;> rfl

theorem dropReturn_around {c : Char} (hc : c ≠ '\r') (a b : List Char) :
    dropReturn (a ++ c :: b) = a ++ c :: dropReturn b := by
  induction b using List.reverseRecOn with
  | nil => simp [dropReturn, hc]
  | append_singleton b d =>
    have regroup : a ++ c :: (b ++ [d]) = (a ++ c :: b) ++ [d] := by simp
    simp only [regroup, dropReturn, List.getLast?_concat, List.dropLast_concat]
    split
    · rfl
    · exact regroup.symm

/-- A character that ends no line belongs to the line of the text after it. -/
theorem lines_cons {c : Char} {r : List Char} (hn : c ≠ '\n')
    (hr : ∀ t, c = '\r' → r ≠ '\n' :: t) : lines (c :: r) = grow c (lines r) := by
  rw [lines]
  · exact fun e => hn e
  · exact fun t e => hr t e

theorem lines_append_newline {line : List Char} (h : '\n' ∉ line) (rest : List Char) :
    lines (line ++ '\n' :: rest) = dropReturn line :: lines rest := by
  induction line with
  | nil => rfl
  | cons c line ih =>
    have hc : c ≠ '\n' := fun e => h (e ▸ List.mem_cons_self)
    have hline : '\n' ∉ line := fun m => h (List.mem_cons_of_mem _ m)
    cases line with
    | nil =>
      by_cases hr : c = '\r'
      · subst hr
        rfl
      · rw [List.cons_append, lines_cons hc (fun _ e => absurd e hr), ih hline]
        simp [grow, dropReturn, hr]
    | cons d line =>
      have hd : d ≠ '\n' := fun e => hline (e ▸ List.mem_cons_self)
      have next : ∀ t, c = '\r' → d :: line ++ '\n' :: rest ≠ '\n' :: t :=
        fun t _ e => hd (List.cons.inj e).1
      rw [List.cons_append, lines_cons hc next, ih hline,
        dropReturn_cons c (List.cons_ne_nil d line)]
      rfl

theorem unlines_cons_append (l : List Char) (ls : List (List Char)) (rest : List Char) :
    unlines (l :: ls) ++ rest = l ++ '\n' :: (unlines ls ++ rest) := by
  simp [unlines]

theorem lines_unlines_append {ls : List (List Char)} (h : ∀ l ∈ ls, '\n' ∉ l) (rest : List Char) :
    lines (unlines ls ++ rest) = ls.map dropReturn ++ lines rest := by
  induction ls with
  | nil => rfl
  | cons l ls ih =>
    have tail := ih fun l' m => h l' (List.mem_cons_of_mem _ m)
    rw [unlines_cons_append, lines_append_newline (h l List.mem_cons_self), tail]
    rfl

theorem lines_unlines {ls : List (List Char)} (h : ∀ l ∈ ls, '\n' ∉ l) :
    lines (unlines ls) = ls.map dropReturn := by
  have alone := lines_unlines_append h []
  rwa [List.append_nil, lines, List.append_nil] at alone

/-- What no newline ends is a line as it stands, carriage return and all. -/
theorem lines_of_newline_not_mem {s : List Char} (hne : s ≠ []) (h : '\n' ∉ s) : lines s = [s] := by
  induction s with
  | nil => exact absurd rfl hne
  | cons c s ih =>
    have hc : c ≠ '\n' := fun e => h (e ▸ List.mem_cons_self)
    have hs : '\n' ∉ s := fun m => h (List.mem_cons_of_mem _ m)
    have next : ∀ t, c = '\r' → s ≠ '\n' :: t := by
      rintro t - rfl
      exact hs List.mem_cons_self
    rw [lines_cons hc next]
    cases s with
    | nil => rfl
    | cons d s => rw [ih (List.cons_ne_nil d s) hs, grow]

theorem newline_not_mem_of_mem_lines {s l : List Char} (h : l ∈ lines s) : '\n' ∉ l := by
  fun_induction lines s generalizing l with
  | case1 => cases h
  | case2 r ih | case3 r ih =>
    rcases List.mem_cons.mp h with rfl | later
    · exact List.not_mem_nil
    · exact ih later
  | case4 c r hn _ ih =>
    have hc : '\n' ≠ c := fun e => hn e.symm
    cases shape : lines r with
    | nil =>
      rw [shape, grow, List.mem_singleton] at h
      simp [h, hc]
    | cons w ws =>
      rw [shape, grow, List.mem_cons] at h
      rw [shape] at ih
      rcases h with rfl | later
      · simp [hc, ih List.mem_cons_self]
      · exact ih (List.mem_cons_of_mem _ later)

theorem cut_cons_self (p : Char) (r : List Char) : cut p (p :: r) = some ([], r) := if_pos rfl

theorem cut_cons_of_ne {c p : Char} (hc : c ≠ p) (r : List Char) :
    cut p (c :: r) = (cut p r).map fun parts => (c :: parts.1, parts.2) := by
  refine (if_neg hc).trans ?_
  cases cut p r <;> rfl

theorem cut_append {p : Char} {a : List Char} (h : p ∉ a) (b : List Char) :
    cut p (a ++ p :: b) = some (a, b) := by
  induction a with
  | nil => exact cut_cons_self p b
  | cons c a ih =>
    have hc : c ≠ p := fun e => h (e ▸ List.mem_cons_self)
    have ha : p ∉ a := fun m => h (List.mem_cons_of_mem _ m)
    rw [List.cons_append, cut_cons_of_ne hc, ih ha, Option.map_some]

theorem cut_of_mem {p : Char} {s : List Char} (h : p ∈ s) :
    cut p s = some (s.takeWhile (· != p), (s.dropWhile (· != p)).tail) := by
  induction s with
  | nil => cases h
  | cons c r ih =>
    by_cases hc : c = p
    · rw [hc, cut_cons_self]
      simp
    · have hr : p ∈ r := (List.mem_cons.mp h).resolve_left fun e => hc e.symm
      rw [cut_cons_of_ne hc, ih hr]
      simp [hc]

theorem cut_of_not_mem {p : Char} {s : List Char} (h : p ∉ s) : cut p s = none := by
  induction s with
  | nil => rfl
  | cons c r ih =>
    have hc : c ≠ p := fun e => h (e ▸ List.mem_cons_self)
    rw [cut_cons_of_ne hc, ih fun m => h (List.mem_cons_of_mem _ m), Option.map_none]

theorem pieces_cons_self (p : Char) (r : List Char) : pieces p (p :: r) = [] :: pieces p r :=
  if_pos rfl

theorem pieces_cons_of_ne {c p : Char} (hc : c ≠ p) (r : List Char) :
    pieces p (c :: r) = grow c (pieces p r) :=
  if_neg hc

theorem pieces_of_not_mem {p : Char} {s : List Char} (h : p ∉ s) : pieces p s = [s] := by
  induction s with
  | nil => rfl
  | cons c r ih =>
    have hc : c ≠ p := fun e => h (e ▸ List.mem_cons_self)
    rw [pieces_cons_of_ne hc, ih fun m => h (List.mem_cons_of_mem _ m)]
    rfl

theorem grow_ne_nil (c : Char) (ws : List (List Char)) : grow c ws ≠ [] := by
  cases ws <;> exact List.cons_ne_nil _ _

theorem pieces_ne_nil (p : Char) (s : List Char) : pieces p s ≠ [] := by
  cases s with
  | nil => exact List.cons_ne_nil _ _
  | cons c r =>
    by_cases hc : c = p
    · rw [hc, pieces_cons_self]
      exact List.cons_ne_nil _ _
    · rw [pieces_cons_of_ne hc]
      exact grow_ne_nil c _

theorem grow_append {ws : List (List Char)} (h : ws ≠ []) (c : Char) (vs : List (List Char)) :
    grow c (ws ++ vs) = grow c ws ++ vs := by
  cases ws with
  | nil => exact absurd rfl h
  | cons w ws => rfl

theorem pieces_around (p : Char) (s r : List Char) :
    pieces p (s ++ p :: r) = pieces p s ++ pieces p r := by
  induction s with
  | nil => exact pieces_cons_self p r
  | cons c s ih =>
    by_cases hc : c = p
    · rw [hc, List.cons_append, pieces_cons_self, pieces_cons_self, ih, List.cons_append]
    · rw [List.cons_append, pieces_cons_of_ne hc, pieces_cons_of_ne hc, ih,
        grow_append (pieces_ne_nil p s)]

theorem pieces_unlines_append {ls : List (List Char)} (h : ∀ l ∈ ls, '\n' ∉ l) (rest : List Char) :
    pieces '\n' (unlines ls ++ rest) = ls ++ pieces '\n' rest := by
  induction ls with
  | nil => rfl
  | cons l ls ih =>
    have tail := ih fun l' m => h l' (List.mem_cons_of_mem _ m)
    rw [unlines_cons_append, pieces_around, pieces_of_not_mem (h l List.mem_cons_self), tail]
    rfl

/-- Pieces lose no carriage return, so lines without a newline all come back as they are. -/
theorem pieces_unlines {ls : List (List Char)} (h : ∀ l ∈ ls, '\n' ∉ l) :
    pieces '\n' (unlines ls) = ls ++ [[]] := by
  have alone := pieces_unlines_append h []
  rwa [List.append_nil] at alone

/-! ## Texts as lines and a rest -/

/-- Every text is made of lines that a newline ends, and of what stands after the last of them. -/
theorem exists_unlines (s : List Char) :
    ∃ ls last, (∀ l ∈ ls, '\n' ∉ l) ∧ '\n' ∉ last ∧ s = unlines ls ++ last := by
  induction s with
  | nil => exact ⟨[], [], List.forall_mem_nil _, List.not_mem_nil, rfl⟩
  | cons c s ih =>
    obtain ⟨ls, last, oneLine, rest, rfl⟩ := ih
    by_cases hc : c = '\n'
    · subst hc
      exact ⟨[] :: ls, last, List.forall_mem_cons.mpr ⟨List.not_mem_nil, oneLine⟩, rest, rfl⟩
    · have other : '\n' ≠ c := fun e => hc e.symm
      cases ls with
      | nil => exact ⟨[], c :: last, oneLine, by simp [other, rest], rfl⟩
      | cons l ls =>
        obtain ⟨first, others⟩ := List.forall_mem_cons.mp oneLine
        refine ⟨(c :: l) :: ls, last, List.forall_mem_cons.mpr ⟨?_, others⟩, rest, rfl⟩
        simp [other, first]

/-- Empty, or ended by a newline: whatever follows starts a line of its own. -/
def Terminated (s : List Char) : Prop := s = [] ∨ s.getLast? = some '\n'

instance : DecidablePred Terminated :=
  fun s => inferInstanceAs (Decidable (s = [] ∨ s.getLast? = some '\n'))

theorem Terminated.exists_unlines {s : List Char} (h : Terminated s) :
    ∃ ls, (∀ l ∈ ls, '\n' ∉ l) ∧ s = unlines ls := by
  obtain ⟨ls, last, oneLine, rest, rfl⟩ := Text.exists_unlines s
  cases last using List.reverseRecOn with
  | nil => exact ⟨ls, oneLine, List.append_nil _⟩
  | append_singleton front c =>
    obtain empty | ended := h
    · simp at empty
    · rw [← List.append_assoc, List.getLast?_concat, Option.some.injEq] at ended
      simp [ended] at rest

theorem terminated_unlines (ls : List (List Char)) : Terminated (unlines ls) := by
  cases ls using List.reverseRecOn with
  | nil => exact .inl rfl
  | append_singleton ls l =>
    right
    rw [unlines, List.flatMap_append, List.flatMap_singleton, ← List.append_assoc,
      List.getLast?_concat]

/-- Lines of a terminated text end there, so a text after it adds its own lines. -/
theorem Terminated.lines_append {s : List Char} (h : Terminated s) (rest : List Char) :
    lines (s ++ rest) = lines s ++ lines rest := by
  obtain ⟨ls, oneLine, rfl⟩ := h.exists_unlines
  rw [lines_unlines_append oneLine, lines_unlines oneLine]

theorem words_of_blank {c : Char} (hc : isBlank c = true) (r : List Char) :
    words (c :: r) = words r :=
  if_pos hc

theorem words_singleton {c : Char} (hc : isBlank c = false) : words [c] = [[c]] :=
  if_neg (Bool.eq_false_iff.mp hc)

/-- A blank ends the word before it. -/
theorem words_cons_ended {c d : Char} (hc : isBlank c = false) (hd : isBlank d = true)
    (r : List Char) : words (c :: d :: r) = [c] :: words (d :: r) :=
  (if_neg (Bool.eq_false_iff.mp hc)).trans (if_pos hd)

/-- Two characters that are not blank stand in one word. -/
theorem words_cons_joined {c d : Char} (hc : isBlank c = false) (hd : isBlank d = false)
    (r : List Char) : words (c :: d :: r) = grow c (words (d :: r)) :=
  (if_neg (Bool.eq_false_iff.mp hc)).trans (if_neg (Bool.eq_false_iff.mp hd))

/-- What is not blank starts a word, which goes on to the next blank. -/
theorem words_of_not_blank {c : Char} (hc : isBlank c = false) (r : List Char) :
    words (c :: r) =
      (c :: r).takeWhile (!isBlank ·) :: words ((c :: r).dropWhile (!isBlank ·)) := by
  induction r generalizing c with
  | nil =>
    rw [words_singleton hc]
    simp only [List.takeWhile, List.dropWhile, hc]
    rfl
  | cons d r ih =>
    cases hd : isBlank d with
    | true => simp [words_cons_ended hc hd, hc, hd]
    | false =>
      rw [words_cons_joined hc hd, ih hd]
      simp [hc, hd, grow]

theorem takeWhile_append_blank {b : Char} (hb : isBlank b = true) (s r : List Char) :
    (s ++ b :: r).takeWhile (!isBlank ·) = s.takeWhile (!isBlank ·) := by
  rw [List.takeWhile_append]
  split
  · rename_i whole
    rw [List.takeWhile_cons_of_neg (by simp [hb]), List.append_nil]
    exact ((List.takeWhile_prefix _).eq_of_length whole).symm
  · rfl

theorem words_of_visible {w : List Char} (hne : w ≠ []) (hw : ∀ c ∈ w, isBlank c = false) :
    words w = [w] := by
  obtain ⟨c, w, rfl⟩ := List.exists_cons_of_ne_nil hne
  have visible : ∀ d ∈ c :: w, (!isBlank d) = true := by
    intro d hd
    simp [hw d hd]
  rw [words_of_not_blank (hw c List.mem_cons_self), List.takeWhile_eq_self_iff.mpr visible,
    List.dropWhile_eq_nil_iff.mpr visible]
  rfl

theorem words_ne_nil {s : List Char} {c : Char} (hc : c ∈ s) (visible : isBlank c = false) :
    words s ≠ [] := by
  induction s with
  | nil => cases hc
  | cons d s ih =>
    cases hd : isBlank d with
    | false =>
      rw [words_of_not_blank hd]
      exact List.cons_ne_nil _ _
    | true =>
      rw [words_of_blank hd]
      apply ih
      apply (List.mem_cons.mp hc).resolve_left
      rintro rfl
      rw [hd] at visible
      cases visible

/-- A blank parts the words before it from those after it. -/
theorem words_around {b : Char} (hb : isBlank b = true) (s r : List Char) :
    words (s ++ b :: r) = words s ++ words r := by
  induction s with
  | nil => exact words_of_blank hb r
  | cons c s ih =>
    cases hc : isBlank c with
    | true => rw [List.cons_append, words_of_blank hc, words_of_blank hc, ih]
    | false =>
      cases s with
      | nil =>
        change words (c :: b :: r) = words [c] ++ words r
        rw [words_cons_ended hc hb, words_singleton hc, words_of_blank hb, List.singleton_append]
      | cons d s =>
        rw [List.cons_append] at ih
        cases hd : isBlank d with
        | true =>
          rw [List.cons_append, List.cons_append, words_cons_ended hc hd, words_cons_ended hc hd, ih,
            List.cons_append]
        | false =>
          rw [List.cons_append, List.cons_append, words_cons_joined hc hd, words_cons_joined hc hd,
            ih, grow_append (words_ne_nil List.mem_cons_self hd)]

/-- Blanks end a word that has none. -/
theorem words_append_blank {w : List Char} (hne : w ≠ []) (hw : ∀ c ∈ w, isBlank c = false)
    {b : Char} (hb : isBlank b = true) (r : List Char) : words (w ++ b :: r) = w :: words r := by
  rw [words_around hb, words_of_visible hne hw]
  rfl

theorem words_gap_append {gap : List Char} (h : ∀ c ∈ gap, isBlank c = true) (s : List Char) :
    words (gap ++ s) = words s := by
  induction gap with
  | nil => rfl
  | cons b gap ih =>
    rw [List.cons_append, words_of_blank (h b List.mem_cons_self),
      ih fun c hc => h c (List.mem_cons_of_mem _ hc)]

theorem words_append_gap {gap : List Char} (h : ∀ c ∈ gap, isBlank c = true) (s : List Char) :
    words (s ++ gap) = words s := by
  cases gap with
  | nil => rw [List.append_nil]
  | cons b gap =>
    have none_after := words_gap_append (fun c hc => h c (List.mem_cons_of_mem _ hc)) []
    rw [List.append_nil] at none_after
    rw [words_around (h b List.mem_cons_self), none_after]
    exact List.append_nil _

theorem visible_of_mem_words {s w : List Char} (h : w ∈ words s) :
    ∀ c ∈ w, isBlank c = false := by
  by_cases parted : ∃ b ∈ s, isBlank b = true
  · obtain ⟨b, hb, blank⟩ := parted
    obtain ⟨before, after, rfl⟩ := List.append_of_mem hb
    rw [words_around blank] at h
    rcases List.mem_append.mp h with earlier | later
    · exact visible_of_mem_words earlier
    · exact visible_of_mem_words later
  · have visible : ∀ c ∈ s, isBlank c = false := by simpa using parted
    cases s with
    | nil => cases h
    | cons c s =>
      rw [words_of_visible (List.cons_ne_nil c s) visible, List.mem_singleton] at h
      exact h ▸ visible
termination_by s.length
decreasing_by all_goals (subst_vars; grind)

/-- A blank between visible ends parts a text into several words. -/
theorem two_le_length_words {s : List Char} (start : ∀ c, s.head? = some c → isBlank c = false)
    (finish : ∀ c, s.getLast? = some c → isBlank c = false) {b : Char} (mem : b ∈ s)
    (blank : isBlank b = true) : 2 ≤ (words s).length := by
  have apart {c : Char} (visible : isBlank c = false) : c ≠ b := by
    rintro rfl
    rw [blank] at visible
    cases visible
  obtain ⟨front, back, rfl⟩ := List.append_of_mem mem
  have before : words front ≠ [] := by
    cases front with
    | nil => exact absurd rfl (apart (start b rfl))
    | cons c front => exact words_ne_nil List.mem_cons_self (start c rfl)
  have after : words back ≠ [] := by
    rw [List.getLast?_append_of_ne_nil _ (List.cons_ne_nil b back)] at finish
    cases back with
    | nil => exact absurd rfl (apart (finish b rfl))
    | cons d back =>
      have hne := List.cons_ne_nil d back
      rw [List.getLast?_cons_cons, List.getLast?_eq_some_getLast hne] at finish
      exact words_ne_nil (List.getLast_mem hne) (finish _ rfl)
  rw [words_around blank, List.length_append]
  exact Nat.add_le_add (List.length_pos_iff.mpr before) (List.length_pos_iff.mpr after)

end Shortcuts.Text
