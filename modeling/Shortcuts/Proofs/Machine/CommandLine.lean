import Shortcuts.Invocation.Basic
import Shortcuts.Machine.Script.Parser
import Shortcuts.Proofs.Text.Octets

/-!
# Displayed command lines as scripts

The shell of a machine reads a displayed command line as one simple command with the words that it
shows (`nextLine_commandLine`), unless its first word means something to the shell. A plain word is
one piece of text; a quoted word is quoted pieces, one for each quote in it and one for the text
between two quotes.
-/

namespace Shortcuts.Machine.Script

open Text Read

/-- The reader reads `a` from `s` and is then at `s'`. -/
def Gives {α : Type} (p : Read α) (s : Source) (a : α) (s' : Source) : Prop := p.run s = .ok (a, s')

theorem Gives.bind {α β : Type} {p : Read α} {f : α → Read β} {s s' s'' : Source} {a : α} {b : β}
    (first : Gives p s a s') (next : Gives (f a) s' b s'') : Gives (p >>= f) s b s'' := by
  unfold Gives at first next ⊢
  rw [StateT.run_bind, first]
  exact next

theorem gives_get (s : Source) : Gives get s s s := rfl

theorem gives_pure {α : Type} (a : α) (s : Source) : Gives (pure a) s a s := rfl

/-- A source with nothing set aside. -/
abbrev Source.at (rest : Octets) (line : Nat) : Source := { rest, line }

variable {rest : Octets} {line n : Nat}

/-! ## Characters -/

theorem gives_peek (s : Source) : Gives peek s s.rest.head? s := rfl

theorem gives_takeWhile {fits : Char → Bool} {run : Octets} (all : ∀ c ∈ run, fits c = true)
    (stop : ∀ c, rest.head? = some c → fits c = false) (line : Nat) :
    Gives (Read.takeWhile fits) (.at (run ++ rest) line) run (.at rest (line + run.count '\n')) := by
  have taken : (run ++ rest).takeWhile fits = run := by
    rw [List.takeWhile_append_of_pos all]
    cases rest with
    | nil => exact List.append_nil run
    | cons c rest => rw [List.takeWhile_cons_of_neg (by simp [stop c rfl]), List.append_nil]
  unfold Gives Read.takeWhile
  simp only [StateT.run_bind, StateT.run_get, StateT.run_set, taken, List.drop_left, pure_bind,
    ite_self, StateT.run_pure, Nat.add_zero]
  rfl

theorem gives_takeWhile_none {fits : Char → Bool}
    (stop : ∀ c, rest.head? = some c → fits c = false) (line : Nat) :
    Gives (Read.takeWhile fits) (.at rest line) [] (.at rest line) :=
  gives_takeWhile (List.forall_mem_nil _) stop line

theorem gives_advance {c : Char} (other : c ≠ '\n') (rest : Octets) (line : Nat) :
    Gives advance (.at (c :: rest) line) () (.at rest line) := by
  unfold Gives advance
  rw [StateT.run_modify]
  simp
  rfl

theorem gives_takeIf {c : Char} (other : c ≠ '\n') (rest : Octets) (line : Nat) :
    Gives (takeIf c) (.at (c :: rest) line) true (.at rest line) := by
  apply (gives_peek _).bind
  rw [List.head?_cons, if_pos rfl]
  apply (gives_advance other rest line).bind
  exact gives_pure ..

/-- A place where a word ends: the end of the text or a blank. -/
def Ended (rest : Octets) : Prop := rest = [] ∨ ∃ more, rest = ' ' :: more

/-! ## Pieces -/

theorem special_ended (ended : Ended rest) (line : Nat) :
    Gives (special (n + 1) .word) (.at rest line) [] (.at rest line) := by
  unfold Gives
  rw [special]
  obtain rfl | ⟨more, rfl⟩ := ended <;> rfl

/-- At a special character there is no plain text to read. -/
theorem pieces_of_special {c : Char} (special_c : Extent.word.isSpecial c = true) {ps : List Piece}
    {s' : Source} (read : Gives (special n .word) (.at (c :: rest) line) ps s') :
    Gives (pieces (n + 1) .word) (.at (c :: rest) line) ps s' := by
  rw [pieces]
  apply (gives_takeWhile_none (by rintro _ ⟨⟩; simp [special_c]) line).bind
  apply read.bind
  exact gives_pure ..

theorem pieces_ended (ended : Ended rest) (line : Nat) :
    Gives (pieces (n + 2) .word) (.at rest line) [] (.at rest line) := by
  obtain rfl | ⟨more, rfl⟩ := ended
  · rw [pieces]
    apply (gives_takeWhile_none (by rintro _ ⟨⟩) line).bind
    exact (special_ended (.inl rfl) line).bind (gives_pure ..)
  · exact pieces_of_special (by decide) (special_ended (.inr ⟨more, rfl⟩) line)

/-- Characters that mean something to the shell outside quotes, where a word may stand. -/
def marks : Octets := "\\$\x60 \t\n&|;()<>'\"#*?[~".toList

theorem not_mark_of_plain {c : Char} (plain : isPlain c = true) : c ∉ marks := by
  have none : marks.all (!isPlain ·) = true := by decide +kernel
  intro mark
  have other := List.all_eq_true.mp none c mark
  rw [plain] at other
  cases other

theorem mark_of_special {c : Char} (h : Extent.word.isSpecial c = true) : c ∈ marks := by
  have always : "\\$\x60".toList ⊆ marks := by decide +kernel
  have signs : "\n&|;()<>".toList ⊆ marks := by decide +kernel
  simp only [Extent.isSpecial, isBlankChar, isSign, Bool.or_eq_true, beq_iff_eq,
    List.contains_iff_mem] at h
  obtain mem | (((rfl | rfl) | mem) | rfl) | rfl := h
  · exact always mem
  · decide
  · decide
  · exact signs mem
  · decide
  · decide

theorem not_special_of_plain {c : Char} (plain : isPlain c = true) :
    Extent.word.isSpecial c = false :=
  Bool.eq_false_iff.mpr fun h => not_mark_of_plain plain (mark_of_special h)

theorem pieces_plain {w : Octets} (named : w ≠ []) (plain : ∀ c ∈ w, isPlain c = true)
    (ended : Ended rest) (line : Nat) :
    Gives (pieces (n + 2) .word) (.at (w ++ rest) line) [.text false w]
      (.at rest (line + w.count '\n')) := by
  have run : Gives (Read.takeWhile (!Extent.word.isSpecial ·)) (.at (w ++ rest) line) w
      (.at rest (line + w.count '\n')) := by
    apply gives_takeWhile
    · intro c hc
      simp [not_special_of_plain (plain c hc)]
    · intro c first
      obtain rfl | ⟨more, rfl⟩ := ended
      · cases first
      · obtain rfl := Option.some.inj first
        decide
  rw [pieces]
  apply run.bind
  rw [if_neg named]
  apply (special_ended ended _).bind
  exact gives_pure ..

/-- The pieces of a quoted text after what was read of it since the last quote. -/
def quotedPieces (read : Octets) : Octets → List Piece
  | [] => [.text true read]
  | c :: rest =>
    if c = '\'' then .text true read :: .text true ['\''] :: quotedPieces [] rest
    else quotedPieces (read ++ [c]) rest

theorem special_quotes {read : Octets} (inside : '\'' ∉ read) {ps : List Piece} {s' : Source}
    (later : Gives (pieces n .word) (.at rest (line + read.count '\n')) ps s') :
    Gives (special (n + 1) .word) (.at ('\'' :: read ++ '\'' :: rest) line) (.text true read :: ps)
      s' := by
  rw [special]
  apply (gives_peek _).bind
  apply (gives_advance (by decide) _ _).bind
  have run : Gives (Read.takeWhile (· != '\'')) (.at (read ++ '\'' :: rest) line) read
      (.at ('\'' :: rest) (line + read.count '\n')) := by
    apply gives_takeWhile
    · intro c hc
      have other : c ≠ '\'' := fun e => inside (e ▸ hc)
      simpa using other
    · rintro _ ⟨⟩
      rfl
  apply run.bind
  apply (gives_takeIf (by decide) _ _).bind
  apply later.bind
  exact gives_pure ..

theorem special_escape {ps : List Piece} {s' : Source}
    (later : Gives (pieces n .word) (.at rest line) ps s') :
    Gives (special (n + 1) .word) (.at ('\\' :: '\'' :: rest) line) (.text true ['\''] :: ps) s' := by
  rw [special]
  apply (gives_peek _).bind
  apply (gives_advance (by decide) _ _).bind
  apply (gives_peek _).bind
  apply (gives_advance (by decide) _ _).bind
  apply later.bind
  exact gives_pure ..

/-- Reading goes from quote to quote. -/
theorem special_quotedPieces (w : Octets) {read : Octets} (inside : '\'' ∉ read)
    (ended : Ended rest) (line : Nat) (enough : 4 * w.length + 4 ≤ n) :
    Gives (special n .word) (.at ('\'' :: read ++ (w.flatMap quoteChar ++ '\'' :: rest)) line)
      (quotedPieces read w) (.at rest (line + (read ++ w).count '\n')) := by
  induction w generalizing read line n with
  | nil =>
    obtain ⟨k, rfl⟩ : ∃ k, n = k + 3 := ⟨n - 3, by rw [List.length_nil] at enough; omega⟩
    rw [List.append_nil]
    exact special_quotes inside (pieces_ended ended _)
  | cons c w ih =>
    obtain ⟨k, rfl⟩ : ∃ k, n = k + 4 := ⟨n - 4, by rw [List.length_cons] at enough; omega⟩
    rw [List.length_cons] at enough
    unfold quotedPieces
    split
    · rename_i quote
      subst quote
      have none : '\'' ∉ ([] : Octets) := List.not_mem_nil
      have later := ih (n := k) none (line + read.count '\n') (by omega)
      have escaped := special_escape (pieces_of_special (by decide) later)
      have whole := special_quotes inside (pieces_of_special (by decide) escaped)
      have count : line + (read ++ '\'' :: w).count '\n' =
          line + read.count '\n' + ([] ++ w).count '\n' := by
        rw [List.count_append, List.count_cons_of_ne (by decide), List.nil_append, Nat.add_assoc]
      rw [count]
      exact whole
    · rename_i other
      have longer : '\'' ∉ read ++ [c] := by
        simpa [inside] using Ne.symm other
      have later := ih longer line (n := k + 4) (by omega)
      rw [List.flatMap_cons, quoteChar, if_neg other]
      simpa using later

/-- The word that is read from a displayed one. -/
def wordOf (w : Octets) : ShellWord :=
  if w ≠ [] ∧ w.all isPlain then [.text false w] else quotedPieces [] w

theorem pieces_quote (w : Octets) (ended : Ended rest) (line : Nat)
    (enough : 4 * w.length + 5 ≤ n) :
    Gives (pieces n .word) (.at (quote w ++ rest) line) (wordOf w)
      (.at rest (line + w.count '\n')) := by
  unfold quote wordOf
  split
  · rename_i plain
    obtain ⟨k, rfl⟩ : ∃ k, n = k + 2 := ⟨n - 2, by omega⟩
    exact pieces_plain plain.1 (List.all_eq_true.mp plain.2) ended line
  · obtain ⟨k, rfl⟩ : ∃ k, n = k + 1 := ⟨n - 1, by omega⟩
    have none : '\'' ∉ ([] : Octets) := List.not_mem_nil
    have read := special_quotedPieces w (n := k) none ended line (by omega)
    have whole := pieces_of_special (by decide) read
    simpa using whole

/-! ## Words -/

theorem exists_quote_eq (w : Octets) :
    ∃ c r, quote w = c :: r ∧ (isPlain c = true ∨ c = '\'') := by
  unfold quote
  split
  · rename_i plain
    obtain ⟨c, r, rfl⟩ := List.exists_cons_of_ne_nil plain.1
    exact ⟨c, r, rfl, .inl (List.all_eq_true.mp plain.2 c List.mem_cons_self)⟩
  · exact ⟨'\'', _, rfl, .inr rfl⟩

/-- What a displayed word begins with neither ends a word nor begins a comment. -/
theorem ne_of_shown {c d : Char} (shown : isPlain c = true ∨ c = '\'') (mark : d ∈ marks)
    (other : d ≠ '\'') : c ≠ d := by
  rintro rfl
  obtain plain | quote := shown
  · exact not_mark_of_plain plain mark
  · exact other quote

theorem skipBlanks_gap {gap : Octets} (blank : ∀ c ∈ gap, c = ' ') {c : Char}
    (shown : isPlain c = true ∨ c = '\'') (line : Nat) :
    Gives (skipBlanks (n + 1)) (.at (gap ++ c :: rest) line) () (.at (c :: rest) line) := by
  have none : gap.count '\n' = 0 :=
    List.count_eq_zero.mpr fun mem => absurd (blank _ mem) (by decide)
  have run : Gives (Read.takeWhile isBlankChar) (.at (gap ++ c :: rest) line) gap
      (.at (c :: rest) line) := by
    have space : c ≠ ' ' := ne_of_shown shown (by decide) (by decide)
    have tab : c ≠ '\t' := ne_of_shown shown (by decide) (by decide)
    have taken : Gives (Read.takeWhile isBlankChar) (.at (gap ++ c :: rest) line) gap
        (.at (c :: rest) (line + gap.count '\n')) := by
      apply gives_takeWhile
      · intro d hd
        rw [blank d hd]
        rfl
      · rintro _ ⟨⟩
        simp [isBlankChar, space, tab]
    rwa [none, Nat.add_zero] at taken
  have backslash : c ≠ '\\' := ne_of_shown shown (by decide) (by decide)
  have hash : c ≠ '#' := ne_of_shown shown (by decide) (by decide)
  rw [skipBlanks]
  apply run.bind
  apply (gives_peek _).bind
  apply (show Gives peekSecond (.at (c :: rest) line) rest.head? (.at (c :: rest) line) from rfl).bind
  split
  · rename_i first _
    exact absurd (Option.some.inj first) backslash
  · rename_i first
    exact absurd (Option.some.inj first) hash
  · exact gives_pure ..

theorem isSign_of_shown {c : Char} (shown : isPlain c = true ∨ c = '\'') : isSign c = false := by
  have signs : "\n&|;()<>".toList ⊆ marks := by decide +kernel
  unfold isSign
  rw [Bool.eq_false_iff]
  intro sign
  have mem := List.contains_iff_mem.mp sign
  exact ne_of_shown shown (signs mem) (fun e => absurd (e ▸ mem) (by decide)) rfl

/-- A displayed word is read as a word, up to the blank or the end behind it. -/
theorem next_quote (gap : Octets) (blank : ∀ c ∈ gap, c = ' ') (w : Octets) (ended : Ended rest)
    (line : Nat) (enough : 4 * w.length + 6 ≤ n) :
    Gives (next n) (.at (gap ++ (quote w ++ rest)) line) (.word (wordOf w))
      (.at rest (line + w.count '\n')) := by
  obtain ⟨k, rfl⟩ : ∃ k, n = k + 2 := ⟨n - 2, by omega⟩
  obtain ⟨c, r, shown, first⟩ := exists_quote_eq w
  have read := pieces_quote w ended line (n := k + 1) (by omega)
  have skipped : Gives (skipBlanks (k + 1)) (.at (gap ++ c :: (r ++ rest)) line) ()
      (.at (c :: (r ++ rest)) line) := skipBlanks_gap blank first line
  rw [shown, List.cons_append] at read ⊢
  rw [next]
  apply (gives_get _).bind
  apply skipped.bind
  apply (gives_peek _).bind
  dsimp only [List.head?_cons]
  rw [isSign_of_shown first]
  apply read.bind
  apply (gives_peek _).bind
  split
  · rename_i d c _ follows
    split
    · rename_i redirects
      obtain rfl | ⟨more, rfl⟩ := ended
      · cases follows
      · obtain rfl := Option.some.inj follows
        exact absurd redirects.2 (by decide)
    · rename_i same _
      rw [same]
      exact gives_pure ..
  · exact gives_pure ..

theorem next_end (line : Nat) : Gives (next (n + 2)) (.at [] line) .finish (.at [] line) := by
  have none : Gives (skipBlanks (n + 1)) (.at [] line) () (.at [] line) := by
    rw [skipBlanks]
    apply (gives_takeWhile_none (by rintro _ ⟨⟩) line).bind
    exact gives_pure ..
  rw [next]
  apply (gives_get _).bind
  apply none.bind
  exact (gives_peek _).bind (gives_pure ..)

theorem next_returned (t : Token) (rest : Octets) (line : Nat) :
    Gives (next (n + 1)) { Source.at rest line with returned := some t } t (.at rest line) := by
  rw [next]
  exact gives_pure ..

theorem giveBack_at (t : Token) (rest : Octets) (line : Nat) :
    Gives (giveBack t) (.at rest line) () { Source.at rest line with returned := some t } := rfl

/-! ## Commands -/

/-- The rest of a command line, from the blank in front of the first argument. -/
def argumentsText (args : List Octets) : Octets := args.flatMap fun arg => ' ' :: quote arg

theorem argumentsText_ended (args : List Octets) : Ended (argumentsText args) := by
  cases args with
  | nil => exact .inl rfl
  | cons arg args => exact .inr ⟨_, rfl⟩

theorem length_le_quote (w : Octets) : w.length ≤ (quote w).length := by
  have inner : w.length ≤ (w.flatMap quoteChar).length := by
    induction w with
    | nil => exact Nat.le_refl 0
    | cons c w ih =>
      have one : 1 ≤ (quoteChar c).length := by
        unfold quoteChar
        split <;> simp
      rw [List.flatMap_cons, List.length_append, List.length_cons]
      omega
  unfold quote
  split
  · exact Nat.le_refl _
  · rw [List.length_append, List.length_cons]
    omega

theorem length_le_argumentsText (args : List Octets) :
    args.flatten.length + args.length ≤ (argumentsText args).length := by
  induction args with
  | nil => exact Nat.le_refl 0
  | cons arg args ih =>
    have one := length_le_quote arg
    have cons : argumentsText (arg :: args) = ' ' :: quote arg ++ argumentsText args := rfl
    rw [cons, List.flatten_cons, List.length_append, List.length_append, List.length_cons,
      List.length_cons]
    omega

theorem simple_arguments (args : List Octets) {ws : List ShellWord} (some_word : ws ≠ [])
    (first line : Nat) (enough : 5 * (argumentsText args).length + 8 ≤ n) :
    Gives (simple n first [] ws []) (.at (argumentsText args) line)
      (.simple first [] (ws ++ args.map wordOf) [])
      { Source.at [] (line + args.flatten.count '\n') with returned := some .finish } := by
  induction args generalizing ws line n with
  | nil =>
    obtain ⟨k, rfl⟩ : ∃ k, n = k + 3 := ⟨n - 3, by omega⟩
    rw [List.map_nil, List.append_nil]
    unfold simple
    apply (next_end line).bind
    apply (giveBack_at ..).bind
    exact gives_pure ..
  | cons arg args ih =>
    obtain ⟨k, rfl⟩ : ∃ k, n = k + 1 := ⟨n - 1, by omega⟩
    have length : (argumentsText (arg :: args)).length =
        (quote arg).length + 1 + (argumentsText args).length := by
      simp [argumentsText, Nat.add_assoc, Nat.add_comm]
    have longer := length_le_quote arg
    have word := next_quote [' '] (by simp) arg (argumentsText_ended args) line (n := k) (by omega)
    have some_words : ws ++ [wordOf arg] ≠ [] := by simp
    have later := ih some_words (line + arg.count '\n') (n := k) (by omega)
    have rest : ws ++ (arg :: args).map wordOf = ws ++ [wordOf arg] ++ args.map wordOf := by simp
    have count : line + (arg :: args).flatten.count '\n' =
        line + arg.count '\n' + args.flatten.count '\n' := by
      rw [List.flatten_cons, List.count_append, Nat.add_assoc]
    rw [rest, count]
    unfold simple
    apply word.bind
    dsimp only
    split
    · rw [if_neg some_word]
      exact later
    · exact later

/-- A first word that means nothing but a program: no word of the language, and no assignment. -/
structure IsProgramName (w : Octets) : Prop where
  free : String.ofList w ∉ keywords
  unassigned : assignment? w = none

theorem exists_quotedPieces_eq (read w : Octets) :
    ∃ held more, quotedPieces read w = .text true held :: more := by
  induction w generalizing read with
  | nil => exact ⟨read, [], rfl⟩
  | cons c w ih =>
    unfold quotedPieces
    split
    · exact ⟨read, _, rfl⟩
    · exact ih _

/-- A word that is one piece without quotes shows itself; any other begins with a quoted piece. -/
theorem wordOf_cases (w : Octets) :
    wordOf w = [.text false w] ∨ ∃ held more, wordOf w = .text true held :: more := by
  unfold wordOf
  split
  · exact .inl rfl
  · exact .inr (exists_quotedPieces_eq [] w)

theorem IsProgramName.keyword? {w : Octets} (named : IsProgramName w) :
    keyword? (wordOf w) = none := by
  obtain plain | ⟨held, more, quoted⟩ := wordOf_cases w
  · rw [plain]
    simp [Script.keyword?, literal?, named.free]
  · rw [quoted]
    rfl

theorem IsProgramName.assigning? {w : Octets} (named : IsProgramName w) :
    assigning? (wordOf w) = none := by
  obtain plain | ⟨held, more, quoted⟩ := wordOf_cases w
  · rw [plain, Script.assigning?, named.unassigned, Option.map_none]
  · rw [quoted]
    rfl

section CommandLines

variable {program : Octets} {args : List Octets}

/-- The source once the program was read and given back. -/
abbrev Source.before (program : Octets) (args : List Octets) (line : Nat) : Source :=
  { Source.at (argumentsText args) line with returned := some (.word (wordOf program)) }

/-- The source when nothing is left to read. -/
abbrev Source.spent (args : List Octets) (line : Nat) : Source :=
  { Source.at [] (line + args.flatten.count '\n') with returned := some .finish }

/-- The command of a command line: the program with its arguments, and nothing else. -/
def commandOf (line : Nat) (program : Octets) (args : List Octets) : Command :=
  .simple line [] (wordOf program :: args.map wordOf) []

theorem simple_before (named : IsProgramName program) (args : List Octets) (line : Nat)
    (enough : 5 * (argumentsText args).length + 9 ≤ n) :
    Gives (simple n line [] [] []) (.before program args line) (commandOf line program args)
      (.spent args line) := by
  obtain ⟨k, rfl⟩ : ∃ k, n = k + 2 := ⟨n - 2, by omega⟩
  have later := simple_arguments args (List.cons_ne_nil (wordOf program) []) line line (n := k + 1)
    (by omega)
  unfold simple
  apply (next_returned ..).bind
  dsimp only
  rw [named.assigning?]
  exact later

theorem asCommandToken_program (named : IsProgramName program) :
    asCommandToken (.word (wordOf program)) = .word (wordOf program) := by
  simp only [asCommandToken, named.keyword?]

theorem command_before (named : IsProgramName program) (args : List Octets) (line : Nat)
    (enough : 5 * (argumentsText args).length + 10 ≤ n) :
    Gives (command n) (.before program args line) (commandOf line program args)
      (.spent args line) := by
  obtain ⟨k, rfl⟩ : ∃ k, n = k + 2 := ⟨n - 2, by omega⟩
  rw [command]
  apply (next_returned ..).bind
  apply (gives_get _).bind
  dsimp only
  rw [asCommandToken_program named]
  dsimp only
  apply (giveBack_at ..).bind
  exact simple_before named args line (by omega)

theorem stages_before (named : IsProgramName program) (args : List Octets) (line : Nat)
    (enough : 5 * (argumentsText args).length + 11 ≤ n) :
    Gives (stages n) (.before program args line) [commandOf line program args]
      (.spent args line) := by
  obtain ⟨k, rfl⟩ : ∃ k, n = k + 2 := ⟨n - 2, by omega⟩
  rw [stages]
  apply (command_before named args line (by omega)).bind
  apply (next_returned ..).bind
  apply (giveBack_at ..).bind
  exact gives_pure ..

theorem pipeline_before (named : IsProgramName program) (args : List Octets) (line : Nat)
    (enough : 5 * (argumentsText args).length + 12 ≤ n) :
    Gives (pipeline n) (.before program args line) (commandOf line program args)
      (.spent args line) := by
  obtain ⟨k, rfl⟩ : ∃ k, n = k + 2 := ⟨n - 2, by omega⟩
  rw [pipeline]
  apply (next_returned ..).bind
  rw [asCommandToken_program named]
  apply (giveBack_at ..).bind
  apply (stages_before named args line (by omega)).bind
  exact gives_pure ..

theorem chain_before (named : IsProgramName program) (args : List Octets) (line : Nat)
    (enough : 5 * (argumentsText args).length + 13 ≤ n) :
    Gives (chain n) (.before program args line) (commandOf line program args)
      (.spent args line) := by
  obtain ⟨k, rfl⟩ : ∃ k, n = k + 3 := ⟨n - 3, by omega⟩
  rw [chain]
  apply (pipeline_before named args line (by omega)).bind
  rw [links]
  apply (next_returned ..).bind
  apply (giveBack_at ..).bind
  exact gives_pure ..

theorem commandLine_before (named : IsProgramName program) (args : List Octets) (line : Nat)
    (enough : 5 * (argumentsText args).length + 14 ≤ n) :
    Gives (commandLine n) (.before program args line) (commandOf line program args)
      (.spent args line) := by
  obtain ⟨k, rfl⟩ : ∃ k, n = k + 3 := ⟨n - 3, by omega⟩
  rw [commandLine]
  apply (next_returned ..).bind
  apply (giveBack_at ..).bind
  apply (chain_before named args line (by omega)).bind
  apply (next_returned ..).bind
  apply (giveBack_at ..).bind
  exact gives_pure ..

theorem skipNewlines_program (program : Octets) (args : List Octets) (line : Nat)
    (enough : 4 * program.length + 7 ≤ n) :
    Gives (skipNewlines n) (.at (quote program ++ argumentsText args) line) ()
      (.before program args (line + program.count '\n')) := by
  obtain ⟨k, rfl⟩ : ∃ k, n = k + 1 := ⟨n - 1, by omega⟩
  have read := next_quote [] (List.forall_mem_nil _) program (argumentsText_ended args) line
    (n := k) (by omega)
  rw [skipNewlines]
  exact read.bind (giveBack_at ..)

/-- The whole line is one command, and nothing is left after it. -/
theorem nextLine_commandLine (named : IsProgramName program) (args : List Octets) :
    ({ rest := quote program ++ argumentsText args } : Source).nextLine =
      .ok (some (commandOf (1 + program.count '\n') program args,
        .spent args (1 + program.count '\n'))) := by
  have longer := length_le_quote program
  have length : ({ rest := quote program ++ argumentsText args } : Source).bound =
      8 * ((quote program).length + (argumentsText args).length) + 32 := by
    rw [Source.bound, List.length_append]
  unfold Source.nextLine
  generalize ({ rest := quote program ++ argumentsText args } : Source).bound = n at length ⊢
  obtain ⟨k, rfl⟩ : ∃ k, n = k + 1 := ⟨n - 1, by omega⟩
  have skipped : Gives _ _ _ _ := skipNewlines_program (n := k + 1) program args 1 (by omega)
  have first : Gives _ _ _ _ := next_returned (n := k) (.word (wordOf program)) (argumentsText args)
    (1 + program.count '\n')
  have read : Gives _ _ _ _ := commandLine_before (n := k + 1) named args
    (1 + program.count '\n') (by omega)
  unfold Gives at skipped first read
  simp only [skipped, first, read, bind, Except.bind, pure, Except.pure]

theorem nextLine_spent (args : List Octets) (line : Nat) :
    (Source.spent args line).nextLine = .ok none := by
  have bound : (Source.spent args line).bound = 32 := rfl
  have skipped : Gives (skipNewlines 32) (.spent args line) () (.spent args line) := by
    rw [skipNewlines]
    exact (next_returned ..).bind (giveBack_at ..)
  have ended : Gives (next 32) (.spent args line) .finish _ := next_returned ..
  unfold Gives at skipped ended
  unfold Source.nextLine
  simp only [bound, skipped, ended, bind, Except.bind, pure, Except.pure]

end CommandLines

/-! ## Displayed invocations -/

theorem flatMap_quoteChar {w : Octets} (h : '\'' ∉ w) : w.flatMap quoteChar = w := by
  induction w with
  | nil => rfl
  | cons c w ih =>
    obtain ⟨first, others⟩ := not_or.mp (mt List.mem_cons.mpr h)
    rw [List.flatMap_cons, quoteChar, if_neg (Ne.symm first), ih others, List.singleton_append]

theorem quote_not_mem_octetsOf {c : Char} (other : c ≠ '\'') : '\'' ∉ octetsOf c := by
  intro mem
  by_cases low : c.toNat < 128
  · rw [octetsOf_ascii low, List.mem_singleton] at mem
    exact other mem.symm
  · exact absurd (high_of_mem_octetsOf (Nat.le_of_not_lt low) mem) (by decide)

theorem octetsOf_quoteChar (c : Char) :
    (quoteChar c).flatMap octetsOf = (octetsOf c).flatMap quoteChar := by
  by_cases quote : c = '\''
  · subst quote
    decide
  · rw [flatMap_quoteChar (quote_not_mem_octetsOf quote), quoteChar, if_neg quote,
      List.flatMap_singleton]

theorem low_of_plain {c : Char} (plain : isPlain c = true) : c.toNat < 128 := by
  have signs : "-_./:=@%+,".toList.all (·.toNat < 128) = true := by decide
  unfold isPlain at plain
  obtain letter | sign := Bool.or_eq_true_iff.mp plain
  · change (decide (c.val ≥ 65 ∧ c.val ≤ 90) || (decide (c.val ≥ 97) && decide (c.val ≤ 122)) ||
      (decide (c.val ≥ 48) && decide (c.val ≤ 57))) = true at letter
    simp only [Bool.or_eq_true, Bool.and_eq_true, decide_eq_true_eq, ge_iff_le,
      UInt32.le_iff_toNat_le, UInt32.reduceToNat] at letter
    change c.val.toNat < 128
    omega
  · exact of_decide_eq_true (List.all_eq_true.mp signs c (List.contains_iff_mem.mp sign))

theorem all_isPlain_octetsOf (c : Char) : (octetsOf c).all isPlain = isPlain c := by
  by_cases low : c.toNat < 128
  · rw [octetsOf_ascii low]
    exact Bool.and_true _
  · obtain ⟨d, mem⟩ := List.exists_mem_of_ne_nil _ (octetsOf_ne_nil c)
    have high := high_of_mem_octetsOf (Nat.le_of_not_lt low) mem
    have special : isPlain c = false := Bool.eq_false_iff.mpr fun plain => low (low_of_plain plain)
    rw [special, List.all_eq_false]
    exact ⟨d, mem, fun plain => absurd (low_of_plain plain) (Nat.not_lt.mpr high)⟩

/-- Quoting looks at plain characters alone, and each of these is an octet. -/
theorem octets_quote (w : List Char) :
    (quote w).flatMap octetsOf = quote (w.flatMap octetsOf) := by
  have plain : (w.flatMap octetsOf ≠ [] ∧ (w.flatMap octetsOf).all isPlain = true) ↔
      w ≠ [] ∧ w.all isPlain = true := by
    rw [List.all_flatMap]
    simp only [all_isPlain_octetsOf]
    cases w with
    | nil => simp
    | cons c w => simp [octetsOf_ne_nil]
  have quoted : (w.flatMap quoteChar).flatMap octetsOf = (w.flatMap octetsOf).flatMap quoteChar := by
    rw [List.flatMap_assoc, List.flatMap_assoc]
    congr 1
    funext c
    exact octetsOf_quoteChar c
  have mark : octetsOf '\'' = ['\''] := by decide
  unfold quote
  by_cases h : w ≠ [] ∧ w.all isPlain = true
  · rw [if_pos h, if_pos (plain.mpr h)]
  · rw [if_neg h, if_neg (mt plain.mp h), List.flatMap_append, List.flatMap_cons, quoted,
      List.flatMap_singleton, mark]
    rfl

theorem octets_display (i : Invocation) :
    octets i.display = quote (octets i.program) ++ argumentsText (i.args.map octets) := by
  have word (s : String) : (quote s.toList).flatMap octetsOf = quote (octets s) := by
    rw [octets_quote, octets_eq_flatMap]
  have blank : octetsOf ' ' = [' '] := by decide
  rw [Invocation.display, octets_ofList, Invocation.line, List.flatMap_append, word, argumentsText,
    List.flatMap_map, List.flatMap_assoc]
  congr 2
  funext arg
  rw [List.flatMap_cons, blank, word]
  rfl

/-- The shell reads the command line of an invocation as its program with its arguments. -/
theorem nextLine_display {i : Invocation} (named : IsProgramName (octets i.program)) :
    ∃ line s, ({ rest := octets i.display } : Source).nextLine =
      .ok (some (commandOf line (octets i.program) (i.args.map octets), s)) ∧
      s.nextLine = .ok none := by
  rw [octets_display]
  exact ⟨_, _, nextLine_commandLine named _, nextLine_spent ..⟩

end Shortcuts.Machine.Script
