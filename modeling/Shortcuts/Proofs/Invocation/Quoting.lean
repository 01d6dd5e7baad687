import Shortcuts.Invocation.Reading

/-!
# Quoting

A quoted word is read back as that word, whatever stands in it and whatever follows
(`splitWords_quote`), and outside its quotes it leaves nothing to a shell (`nothingToExpand_quote`).
So a displayed command line is the command that it shows, and no other one is displayed like it
(`Invocation.display_is_command`).
-/

namespace Shortcuts

open Text

/-- Put a text in front of the first word. -/
def growAll (w : List Char) (ws : List (List Char)) : List (List Char) := w.foldr grow ws

theorem growAll_cons (w v : List Char) (vs : List (List Char)) :
    growAll w (v :: vs) = (w ++ v) :: vs := by
  induction w with
  | nil => rfl
  | cons c w ih =>
    change grow c (growAll w (v :: vs)) = _
    rw [ih]
    rfl

theorem growAll_nil : growAll [] = id := rfl

theorem map_grow_map_growAll (c : Char) (w : List Char) (read : Option (List (List Char))) :
    (read.map (growAll w)).map (grow c) = read.map (growAll (c :: w)) :=
  Option.map_map ..

/-! ## Words -/

theorem splitWords_close (rest : List Char) :
    splitWords .quotes ('\'' :: rest) = splitWords .word rest := rfl

theorem splitWords_open (rest : List Char) :
    splitWords .gap ('\'' :: rest) = splitWords .quotes rest := rfl

theorem splitWords_reopen (rest : List Char) :
    splitWords .word ('\'' :: rest) = splitWords .quotes rest := rfl

theorem splitWords_escape (c : Char) (rest : List Char) :
    splitWords .word ('\\' :: c :: rest) = (splitWords .word rest).map (grow c) := rfl

theorem splitWords_space (rest : List Char) :
    splitWords .word (' ' :: rest) = (splitWords .gap rest).map ([] :: ·) := rfl

theorem splitWords_within {c : Char} (other : c ≠ '\'') (rest : List Char) :
    splitWords .quotes (c :: rest) = (splitWords .quotes rest).map (grow c) :=
  if_neg other

/-- Outside quotes a plain character stands for itself. -/
theorem splitWords_plain {place : Place} (outside : place ≠ .quotes) {c : Char}
    (plain : isPlain c = true) (rest : List Char) :
    splitWords place (c :: rest) = (splitWords .word rest).map (grow c) := by
  have quote : c ≠ '\'' := fun e => absurd (e ▸ plain) (by decide)
  have space : c ≠ ' ' := fun e => absurd (e ▸ plain) (by decide)
  have backslash : c ≠ '\\' := fun e => absurd (e ▸ plain) (by decide)
  cases place with
  | quotes => exact absurd rfl outside
  | gap =>
    rw [splitWords]
    · rw [if_neg quote, if_neg space]
    · exact backslash
  | word =>
    rw [splitWords]
    · rw [if_neg quote, if_neg space]
    · exact backslash
    · nofun
    · nofun

theorem splitWords_word_plain {w : List Char} (plain : ∀ c ∈ w, isPlain c = true)
    (rest : List Char) :
    splitWords .word (w ++ rest) = (splitWords .word rest).map (growAll w) := by
  induction w with
  | nil => rw [growAll_nil, Option.map_id, List.nil_append, id]
  | cons c w ih =>
    rw [List.cons_append, splitWords_plain (by decide) (plain c List.mem_cons_self),
      ih fun d hd => plain d (List.mem_cons_of_mem _ hd), map_grow_map_growAll]

/-- A quote inside quotes is left, written and entered again. -/
theorem splitWords_quoteChar (c : Char) (rest : List Char) :
    splitWords .quotes (quoteChar c ++ rest) = (splitWords .quotes rest).map (grow c) := by
  unfold quoteChar
  split
  · rename_i quote
    subst quote
    exact (splitWords_close _).trans ((splitWords_escape '\'' _).trans
      (congrArg (Option.map (grow '\'')) (splitWords_reopen rest)))
  · rename_i other
    exact splitWords_within other rest

theorem splitWords_quoted (w rest : List Char) :
    splitWords .quotes (w.flatMap quoteChar ++ '\'' :: rest) =
      (splitWords .word rest).map (growAll w) := by
  induction w with
  | nil =>
    rw [growAll_nil, Option.map_id]
    exact splitWords_close rest
  | cons c w ih =>
    rw [List.flatMap_cons, List.append_assoc, splitWords_quoteChar, ih, map_grow_map_growAll]

theorem splitWords_quote (w rest : List Char) :
    splitWords .gap (quote w ++ rest) = (splitWords .word rest).map (growAll w) := by
  unfold quote
  split
  · rename_i plain
    obtain ⟨named, plain⟩ := plain
    rw [List.all_eq_true] at plain
    obtain ⟨c, w, rfl⟩ := List.exists_cons_of_ne_nil named
    rw [List.cons_append, splitWords_plain (by decide) (plain c List.mem_cons_self),
      splitWords_word_plain fun d hd => plain d (List.mem_cons_of_mem _ hd), map_grow_map_growAll]
  · rw [List.cons_append, List.cons_append, List.append_assoc, List.singleton_append,
      ← splitWords_quoted]
    exact splitWords_open _

/-! ## Outside quotes -/

theorem nothingToExpand_close (rest : List Char) :
    nothingToExpand .quotes ('\'' :: rest) = nothingToExpand .word rest := rfl

theorem nothingToExpand_open {place : Place} (outside : place ≠ .quotes) (rest : List Char) :
    nothingToExpand place ('\'' :: rest) = nothingToExpand .quotes rest := by
  cases place with
  | quotes => exact absurd rfl outside
  | gap | word => rfl

theorem nothingToExpand_escapedQuote (rest : List Char) :
    nothingToExpand .word ('\\' :: '\'' :: rest) = nothingToExpand .word rest := rfl

theorem nothingToExpand_space (rest : List Char) :
    nothingToExpand .word (' ' :: rest) = nothingToExpand .word rest := rfl

theorem nothingToExpand_within {c : Char} (other : c ≠ '\'') (rest : List Char) :
    nothingToExpand .quotes (c :: rest) = nothingToExpand .quotes rest :=
  congrArg (nothingToExpand · rest) (if_neg other)

theorem nothingToExpand_plain {place : Place} (outside : place ≠ .quotes) {c : Char}
    (plain : isPlain c = true) (rest : List Char) :
    nothingToExpand place (c :: rest) = nothingToExpand .word rest := by
  have quote : c ≠ '\'' := fun e => absurd (e ▸ plain) (by decide)
  have backslash : c ≠ '\\' := fun e => absurd (e ▸ plain) (by decide)
  cases place with
  | quotes => exact absurd rfl outside
  | gap | word =>
    rw [nothingToExpand, if_neg quote, plain, Bool.or_true, Bool.true_and]
    · exact backslash
    · nofun

theorem nothingToExpand_word_plain {w : List Char} (plain : ∀ c ∈ w, isPlain c = true)
    (rest : List Char) : nothingToExpand .word (w ++ rest) = nothingToExpand .word rest := by
  induction w with
  | nil => rfl
  | cons c w ih =>
    rw [List.cons_append, nothingToExpand_plain (by decide) (plain c List.mem_cons_self),
      ih fun d hd => plain d (List.mem_cons_of_mem _ hd)]

/-- A quote inside quotes is escaped where it stands outside them. -/
theorem nothingToExpand_quoteChar (c : Char) (rest : List Char) :
    nothingToExpand .quotes (quoteChar c ++ rest) = nothingToExpand .quotes rest := by
  unfold quoteChar
  split
  · rename_i quote
    subst quote
    exact (nothingToExpand_close _).trans ((nothingToExpand_escapedQuote _).trans
      (nothingToExpand_open (by decide) rest))
  · rename_i other
    exact nothingToExpand_within other rest

theorem nothingToExpand_quoted (w rest : List Char) :
    nothingToExpand .quotes (w.flatMap quoteChar ++ '\'' :: rest) = nothingToExpand .word rest := by
  induction w with
  | nil => exact nothingToExpand_close rest
  | cons c w ih =>
    rw [List.flatMap_cons, List.append_assoc, nothingToExpand_quoteChar, ih]

theorem nothingToExpand_quote {place : Place} (outside : place ≠ .quotes) (w rest : List Char) :
    nothingToExpand place (quote w ++ rest) = nothingToExpand .word rest := by
  unfold quote
  split
  · rename_i plain
    obtain ⟨named, plain⟩ := plain
    rw [List.all_eq_true] at plain
    obtain ⟨c, w, rfl⟩ := List.exists_cons_of_ne_nil named
    rw [List.cons_append, nothingToExpand_plain outside (plain c List.mem_cons_self),
      nothingToExpand_word_plain fun d hd => plain d (List.mem_cons_of_mem _ hd)]
  · rw [List.cons_append, List.cons_append, List.append_assoc, List.singleton_append,
      nothingToExpand_open outside, nothingToExpand_quoted]

/-! ## Command lines -/

namespace Invocation

theorem splitWords_line (program : List Char) (args : List (List Char)) :
    splitWords .gap (quote program ++ args.flatMap fun arg => ' ' :: quote arg) =
      some (program :: args) := by
  induction args generalizing program with
  | nil =>
    have ended : splitWords .word [] = some [[]] := rfl
    rw [splitWords_quote, List.flatMap_nil, ended, Option.map_some, growAll_cons, List.append_nil]
  | cons arg args ih =>
    rw [splitWords_quote, List.flatMap_cons, List.cons_append, splitWords_space, ih,
      Option.map_some, Option.map_some, growAll_cons, List.append_nil]

theorem splitWords_words (i : Invocation) :
    splitWords .gap i.line = some (i.words.map String.toList) := by
  have shown := splitWords_line i.program.toList (i.args.map String.toList)
  rw [List.flatMap_map] at shown
  exact shown

theorem readWords_display (i : Invocation) : readWords i.display = some i.words := by
  rw [readWords, display, String.toList_ofList, splitWords_words, Option.map_some, List.map_map]
  simp

theorem nothingToExpand_line (i : Invocation) : nothingToExpand .gap i.line = true := by
  have args (args : List String) :
      nothingToExpand .word (args.flatMap fun arg => ' ' :: quote arg.toList) = true := by
    induction args with
    | nil => rfl
    | cons arg args ih =>
      rw [List.flatMap_cons, List.cons_append, nothingToExpand_space,
        nothingToExpand_quote (by decide), ih]
  rw [line, nothingToExpand_quote (by decide), args]

theorem display_injective {i j : Invocation} (alike : i.display = j.display) : i = j := by
  have words := readWords_display i
  rw [alike, readWords_display, Option.some.injEq] at words
  obtain ⟨program, args⟩ := List.cons.inj words
  cases i
  cases j
  simp_all

/-- By the rules of a shell the displayed command line is the program and its arguments, with
nothing left to expand. Two commands are never displayed alike. -/
theorem display_is_command (i : Invocation) :
    readWords i.display = some (i.program :: i.args) ∧
    nothingToExpand .gap i.display.toList = true ∧
    ∀ j : Invocation, j ≠ i → j.display ≠ i.display := by
  refine ⟨readWords_display i, ?_, fun j other alike => other (display_injective alike)⟩
  rw [display, String.toList_ofList]
  exact nothingToExpand_line i

/-- Without its quotes the same word is not left alone. -/
example :
    (⟨"rm", ["*.tmp", "it's", ""]⟩ : Invocation).display = "rm '*.tmp' 'it'\\''s' ''" ∧
      nothingToExpand .gap "rm *.tmp".toList = false := by
  decide

end Invocation

end Shortcuts
