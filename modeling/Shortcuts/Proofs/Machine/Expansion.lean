import Shortcuts.Machine.Execution
import Shortcuts.Proofs.Machine.CommandLine

/-!
# Displayed command lines carried out

A shell that is given a displayed command line starts the program that it names with the arguments
that it shows (`runText_display`): expansion leaves a displayed word as it is, whatever separates
fields and whatever files there are (`wordsOfWord_wordOf`).
-/

namespace Shortcuts.Machine.Shell

open Text Script

/-- `act` gives `a` in the state `s`, and leaves `s'`. -/
def Does {α : Type} (act : Work α) (s : State) (a : α) (s' : State) : Prop :=
  act.run.run s = (.ok a, s')

theorem Does.bind {α β : Type} {act : Work α} {f : α → Work β} {s s' s'' : State} {a : α} {b : β}
    (first : Does act s a s') (next : Does (f a) s' b s'') : Does (act >>= f) s b s'' := by
  unfold Does at first next ⊢
  rw [ExceptT.run_bind, StateT.run_bind, first]
  exact next

theorem does_pure {α : Type} (a : α) (s : State) : Does (pure a) s a s := rfl

theorem does_get (s : State) : Does get s s s := rfl

theorem does_modify (f : State → State) (s : State) : Does (modify f) s () (f s) := rfl

variable {start : Starter} {s : State} {n : Nat}

/-! ## Items -/

/-- A piece that is text and no expansion. -/
inductive IsText : Piece → Prop
  | text (quoted : Bool) (held : Octets) : IsText (.text quoted held)

def itemsOfText : Piece → List Item
  | .text true held => .void :: Item.ofText true false held
  | .text false held => Item.ofText false false held
  | _ => []

theorem itemsOfPieces_texts {w : ShellWord} (texts : ∀ p ∈ w, IsText p) (enough : w.length + 2 ≤ n) :
    Does (itemsOfPieces start n {} w) s (w.flatMap itemsOfText) s := by
  induction w generalizing n with
  | nil =>
    obtain ⟨k, rfl⟩ : ∃ k, n = k + 1 := ⟨n - 1, by omega⟩
    rw [itemsOfPieces]
    exact does_pure ..
  | cons p w ih =>
    rw [List.length_cons] at enough
    obtain ⟨k, rfl⟩ : ∃ k, n = k + 2 := ⟨n - 2, by omega⟩
    have one : Does (itemsOfPiece start (k + 1) {} p) s (itemsOfText p) s := by
      obtain ⟨quoted, held⟩ := texts p List.mem_cons_self
      rw [itemsOfPiece]
      cases quoted <;> exact does_pure ..
    have others := ih (n := k + 1) (fun q hq => texts q (List.mem_cons_of_mem p hq)) (by omega)
    rw [itemsOfPieces]
    apply one.bind
    apply others.bind
    exact does_pure ..

theorem quotedPieces_texts (read w : Octets) : ∀ p ∈ quotedPieces read w, IsText p := by
  induction w generalizing read with
  | nil =>
    intro p hp
    rw [List.mem_singleton.mp hp]
    exact .text ..
  | cons c w ih =>
    unfold quotedPieces
    split
    · simp only [List.mem_cons]
      rintro p (rfl | rfl | hp)
      · exact .text ..
      · exact .text ..
      · exact ih [] p hp
    · exact ih _

theorem wordOf_texts (w : Octets) : ∀ p ∈ wordOf w, IsText p := by
  unfold wordOf
  split
  · intro p hp
    rw [List.mem_singleton.mp hp]
    exact .text ..
  · exact quotedPieces_texts [] w

/-- An item that no separator splits. -/
inductive Item.Whole : Item → Prop
  | letter (c : Char) (quoted : Bool) : Whole (.letter c quoted false)
  | void : Whole .void

theorem itemsOfText_whole (p : Piece) : ∀ i ∈ itemsOfText p, i.Whole := by
  have letters (quoted : Bool) (held : Octets) :
      ∀ i ∈ Item.ofText quoted false held, i.Whole := by
    simp only [Item.ofText, List.mem_map]
    rintro _ ⟨c, -, rfl⟩
    exact .letter c quoted
  intro i hi
  unfold itemsOfText at hi
  split at hi
  · obtain rfl | hi := List.mem_cons.mp hi
    · exact .void
    · exact letters true _ i hi
  · exact letters false _ i hi
  · cases hi

/-! ## Fields -/

theorem cancelled_whole {items : List Item} (whole : ∀ i ∈ items, i.Whole) :
    cancelled items = items := by
  fun_induction cancelled items with
  | case1 rest ih =>
    have lacking := whole .lacking (List.mem_cons_of_mem _ List.mem_cons_self)
    cases lacking
  | case2 i rest _ ih => rw [ih fun j hj => whole j (List.mem_cons_of_mem i hj)]
  | case3 => rfl

theorem foldl_step_whole (separators : Octets) {items : List Item} (whole : ∀ i ∈ items, i.Whole)
    (held : List Letter) :
    items.foldl (Splitting.step separators) { opened := some held } =
      { opened := some ((Item.letters items).reverse ++ held) } := by
  induction items generalizing held with
  | nil => rfl
  | cons i items ih =>
    have others := ih fun j hj => whole j (List.mem_cons_of_mem i hj)
    rw [List.foldl_cons]
    cases whole i List.mem_cons_self with
    | letter c quoted =>
      have step : Splitting.step separators { opened := some held } (.letter c quoted false) =
          { opened := some (⟨c, quoted⟩ :: held) } := by
        simp [Splitting.step]
      rw [step, others]
      simp [Item.letters, Item.letter?]
    | void => exact others held

/-- Nothing splits a word of text. -/
theorem fieldsOf_whole (separators : Octets) {items : List Item} (some_item : items ≠ [])
    (whole : ∀ i ∈ items, i.Whole) : fieldsOf separators items = [Item.letters items] := by
  have opened : items.foldl (Splitting.step separators) {} =
      { opened := some (Item.letters items).reverse } := by
    cases items with
    | nil => exact absurd rfl some_item
    | cons i items =>
      have others := foldl_step_whole separators fun j hj => whole j (List.mem_cons_of_mem i hj)
      rw [List.foldl_cons]
      cases whole i List.mem_cons_self with
      | letter c quoted =>
        have step : Splitting.step separators {} (.letter c quoted false) =
            { opened := some [⟨c, quoted⟩] } := by
          simp [Splitting.step]
        rw [step, others]
        simp [Item.letters, Item.letter?]
      | void =>
        have step : Splitting.step separators {} .void = { opened := some [] } := rfl
        rw [step, others, List.append_nil]
        rfl
  rw [fieldsOf, cancelled_whole whole, opened]
  simp [Splitting.finish]

/-- A letter that is no wildcard. -/
def Letter.Literal (l : Letter) : Prop := l.quoted = true ∨ isPlain l.char = true

theorem hasWildcard_literal {field : List Letter} (literal : ∀ l ∈ field, l.Literal) :
    Pattern.hasWildcard field = false := by
  have elements : Pattern.elements field = field.map fun l => .letter l.char := by
    suffices go : ∀ n, field.length ≤ n →
        Pattern.elements.go n field = field.map fun l => .letter l.char from go _ (Nat.le_refl _)
    induction field with
    | nil =>
      intro n _
      cases n <;> rfl
    | cons l field ih =>
      intro n enough
      rw [List.length_cons] at enough
      obtain ⟨k, rfl⟩ : ∃ k, n = k + 1 := ⟨n - 1, by omega⟩
      have other {c : Char} (mark : c ∈ marks) : l ≠ ⟨c, false⟩ := by
        rintro rfl
        obtain quoted | plain := literal _ List.mem_cons_self
        · cases quoted
        · exact not_mark_of_plain plain mark
      have others := ih (fun m hm => literal m (List.mem_cons_of_mem l hm)) k (by omega)
      rw [Pattern.elements.go, if_neg (other (by decide)), if_neg (other (by decide)),
        if_neg (other (by decide))]
      simp only [others, List.map_cons]
  rw [Pattern.hasWildcard, elements, List.any_map]
  exact List.any_eq_false.mpr fun _ _ => Bool.false_ne_true

/-! ## Words -/

/-- The letters of a text, all in quotes or none. -/
def lettersOf (quoted : Bool) (held : Octets) : List Letter := held.map fun c => ⟨c, quoted⟩

theorem textOf_lettersOf (quoted : Bool) (held : Octets) : textOf (lettersOf quoted held) = held := by
  rw [textOf, lettersOf, List.map_map]
  exact List.map_id held

theorem letters_text (quoted : Bool) (held : Octets) (ps : List Piece) :
    Item.letters ((.text quoted held :: ps : List Piece).flatMap itemsOfText) =
      lettersOf quoted held ++ Item.letters (ps.flatMap itemsOfText) := by
  have texts : (Item.ofText quoted false held).filterMap Item.letter? = lettersOf quoted held := by
    rw [Item.ofText, List.filterMap_map, lettersOf, ← List.filterMap_eq_map]
    rfl
  rw [List.flatMap_cons, Item.letters, List.filterMap_append]
  cases quoted with
  | true => exact congrArg (· ++ _) texts
  | false => exact congrArg (· ++ _) texts

theorem letters_quotedPieces (read w : Octets) :
    Item.letters ((quotedPieces read w).flatMap itemsOfText) = lettersOf true (read ++ w) := by
  induction w generalizing read with
  | nil =>
    rw [quotedPieces, letters_text, List.append_nil]
    exact List.append_nil _
  | cons c w ih =>
    unfold quotedPieces
    split
    · rename_i quote
      rw [letters_text, letters_text, ih, quote]
      simp [lettersOf]
    · rw [ih, List.append_assoc, List.singleton_append]

/-- The items of a displayed word spell it, in quotes unless it is plain. -/
theorem letters_wordOf (w : Octets) :
    ∃ quoted, Item.letters ((wordOf w).flatMap itemsOfText) = lettersOf quoted w ∧
      ∀ l ∈ lettersOf quoted w, l.Literal := by
  unfold wordOf
  split
  · rename_i plain
    refine ⟨false, (letters_text false w []).trans (List.append_nil _), ?_⟩
    simp only [lettersOf, List.mem_map]
    rintro _ ⟨c, mem, rfl⟩
    exact .inr (List.all_eq_true.mp plain.2 c mem)
  · refine ⟨true, letters_quotedPieces [] w, ?_⟩
    simp only [lettersOf, List.mem_map]
    rintro _ ⟨c, -, rfl⟩
    exact .inl rfl

theorem items_wordOf_ne_nil (w : Octets) : (wordOf w).flatMap itemsOfText ≠ [] := by
  unfold wordOf
  split
  · rename_i plain
    simpa [itemsOfText, Item.ofText] using plain.1
  · obtain ⟨held, more, quoted⟩ := exists_quotedPieces_eq [] w
    rw [quoted]
    simp [itemsOfText]

theorem withHome_wordOf (w : Octets) (s : State) : Does (withHome (wordOf w)) s (wordOf w) s := by
  unfold wordOf
  split
  · rename_i plain
    obtain ⟨c, r, rfl⟩ := List.exists_cons_of_ne_nil plain.1
    have tilde : c ≠ '~' := by
      rintro rfl
      exact not_mark_of_plain (List.all_eq_true.mp plain.2 _ List.mem_cons_self) (by decide)
    have home : Does (homeOf (c :: r)) s none s := by
      unfold homeOf
      split
      · rename_i same
        exact absurd (List.cons.inj same).1 tilde
      · exact does_pure ..
    unfold withHome
    dsimp only
    rw [if_neg (by simp)]
    apply home.bind
    exact does_pure ..
  · obtain ⟨held, more, quoted⟩ := exists_quotedPieces_eq [] w
    rw [quoted]
    exact does_pure ..

theorem length_wordOf (w : Octets) : (wordOf w).length ≤ 2 * w.length + 1 := by
  have quoted (read w : Octets) : (quotedPieces read w).length ≤ 2 * w.length + 1 := by
    induction w generalizing read with
    | nil => exact Nat.le_refl 1
    | cons c w ih =>
      unfold quotedPieces
      rw [List.length_cons]
      split
      · have later := ih []
        rw [List.length_cons, List.length_cons]
        omega
      · have later := ih (read ++ [c])
        omega
  unfold wordOf
  split
  · rw [List.length_singleton]
    omega
  · exact quoted [] w

/-- A displayed word stands for itself. -/
theorem wordsOfWord_wordOf (w : Octets) (s : State) (enough : 2 * w.length + 4 ≤ n) :
    Does (wordsOfWord start n (wordOf w)) s [w] s := by
  obtain ⟨k, rfl⟩ : ∃ k, n = k + 1 := ⟨n - 1, by omega⟩
  have length := length_wordOf w
  obtain ⟨quoted, letters, literal⟩ := letters_wordOf w
  have whole : ∀ i ∈ (wordOf w).flatMap itemsOfText, i.Whole := by
    simp only [List.mem_flatMap]
    rintro i ⟨p, -, hi⟩
    exact itemsOfText_whole p i hi
  have fields (separators : Octets) :
      fieldsOf separators ((wordOf w).flatMap itemsOfText) = [lettersOf quoted w] := by
    rw [fieldsOf_whole separators (items_wordOf_ne_nil w) whole, letters]
  have items : Does (itemsOfPieces start k {} (wordOf w)) s _ s :=
    itemsOfPieces_texts (wordOf_texts w) (by omega)
  rw [wordsOfWord]
  apply (withHome_wordOf w s).bind
  apply items.bind
  apply (show Does separators s _ s from rfl).bind
  dsimp only
  rw [fields]
  apply (does_get s).bind
  split
  · rw [List.map_singleton, textOf_lettersOf]
    exact does_pure ..
  · rw [List.flatMap_singleton, wordsOf, hasWildcard_literal literal, textOf_lettersOf]
    exact does_pure ..

theorem wordsOfCommand_wordOf (ws : List Octets) (s : State)
    (enough : 2 * ws.flatten.length + ws.length + 5 ≤ n) :
    Does (wordsOfCommand start n false (ws.map wordOf)) s ws s := by
  induction ws generalizing n with
  | nil =>
    obtain ⟨k, rfl⟩ : ∃ k, n = k + 1 := ⟨n - 1, by omega⟩
    rw [List.map_nil, wordsOfCommand]
    exact does_pure ..
  | cons w ws ih =>
    rw [List.flatten_cons, List.length_append, List.length_cons] at enough
    obtain ⟨k, rfl⟩ : ∃ k, n = k + 1 := ⟨n - 1, by omega⟩
    have first : Does (wordsOfWord start k (wordOf w)) s [w] s := wordsOfWord_wordOf w s (by omega)
    have others := ih (n := k) (by omega)
    rw [List.map_cons, wordsOfCommand]
    dsimp only [Bool.false_eq_true, if_false]
    apply first.bind
    apply others.bind
    exact does_pure ..

/-! ## Commands -/

/-- The search path leads from a name to a program file. -/
def State.Finds (s : State) (name path : Octets) : Prop :=
  firstOf (fun path => (programAt s.system.files s.process.directory path).map fun _ => path)
    (candidates ((s.value? (octets "PATH")).getD []) name) = .ok path

/-- The state of the shell when a program has ended that was started by its name. -/
def State.afterProgram (s : State) (name : Octets) (system : System) (status : Nat) : State :=
  { s with found := s.remembered name, system, status }

/-- The process that the shell starts a program as. -/
def State.child (s : State) (name : Octets) (args : List Octets) : Process :=
  { s.process with
    name, args
    environment := s.environment
    ancestors := s.process.id :: s.process.ancestors
    ignored := (s.traps.filter fun t => t.2 == []).map Prod.fst }

theorem findProgram?_finds {name path : Octets} (found : s.Finds name path) :
    Does (findProgram? name) s (.ok path) { s with found := s.remembered name } := by
  unfold State.Finds at found
  unfold findProgram?
  apply (does_get s).bind
  simp only [found]
  exact (does_modify ..).bind (does_pure ..)

variable {name path : Octets} {args : List Octets} {k : Nat} {system : System}

theorem settle_idle (idle : s.background = []) : Does settle s () s := by
  unfold settle
  apply (does_get s).bind
  rw [idle]
  exact does_pure ..

theorem external_started (idle : s.background = []) (found : s.Finds name path)
    (started : start path (s.child name args) s.system = .ok (.code k, system)) :
    Does (external start name args) s ()
      (s.afterProgram name system k) := by
  have settled := settle_idle idle
  have file : Does (startFile start name path args) { s with found := s.remembered name }
      (.ok (.code k)) { s with found := s.remembered name, system } := by
    unfold startFile
    apply (does_get _).bind
    unfold State.child State.environment at started
    simp only [State.environment, started]
    exact (does_modify ..).bind (does_pure ..)
  have program : Does (startProgram start name args) s (.ok (.code k))
      { s with found := s.remembered name, system } := by
    unfold startProgram
    apply (findProgram?_finds found).bind
    exact file
  unfold external
  split
  · apply settled.bind
    apply program.bind
    exact (does_modify ..).bind (does_pure ..)
  · apply program.bind
    exact (does_modify ..).bind (does_pure ..)

theorem attend_quiet (quiet : ∀ g ∈ s.system.signals, g.1 ≠ s.process.id) :
    Does (attend start (n + 1)) s () s := by
  have none : s.system.signals.partition (fun g => g.1 == s.process.id) = ([], s.system.signals) := by
    have others : ∀ g ∈ s.system.signals, (g.1 == s.process.id) = false :=
      fun g hg => beq_eq_false_iff_ne.mpr (quiet g hg)
    rw [List.partition_eq_filter_filter, Prod.mk.injEq]
    constructor
    · exact List.filter_eq_nil_iff.mpr fun g hg => by simp [others g hg]
    · exact List.filter_eq_self.mpr fun g hg => by simp [others g hg]
  have arrived : Does arrivals s [] s := by
    unfold arrivals
    apply (does_get s).bind
    rw [none]
    exact (does_modify ..).bind (does_pure ..)
  rw [attend]
  apply arrived.bind
  apply (does_get s).bind
  exact does_pure ..

theorem Does.tryCatch {α : Type} {act : Work α} {s' : State} {a : α} (does : Does act s a s')
    (otherwise : Departure → Work α) : Does (tryCatch act otherwise) s a s' := by
  unfold Does at does ⊢
  change (ExceptT.tryCatch act otherwise).run.run s = _
  rw [ExceptT.tryCatch, ExceptT.run_mk, StateT.run_bind]
  rw [show StateT.run act s = (.ok a, s') from does]
  rfl

theorem keepingDescriptors_kept {act : Work Unit} {s' : State} (does : Does act s () s')
    (kept : s'.process = s.process) : Does (keepingDescriptors act) s () s' := by
  unfold keepingDescriptors
  apply (does_get s).bind
  apply Does.tryCatch
  apply does.bind
  rw [← kept]
  exact does_modify ..

/-- What may stand in the way of a program with some name: that the shell does such a command
itself, or how it carries out commands. -/
structure State.Passes (s : State) (name : Octets) : Prop where
  special : isSpecialName name = false
  regular : isRegularName name = false
  functions : ∀ f ∈ s.functions, f.1 ≠ name
  options : ∀ c ∈ "envx".toList, c ∉ s.options
  background : s.background = []

theorem State.Passes.declares (passes : s.Passes name) (args : List Octets) :
    (((name :: args).map wordOf).head?.bind literal?).any isDeclaringName = false := by
  have some_special : declaringNames ⊆ specialNames := by decide
  have special : isDeclaringName name = false := by
    refine List.any_eq_false.mpr fun word mem => ?_
    exact List.any_eq_false.mp passes.special word (some_special mem)
  obtain plain | ⟨held, more, quoted⟩ := wordOf_cases name
  · simpa [plain, literal?] using special
  · simp [quoted, literal?]

theorem State.Passes.function? (passes : s.Passes name) : Does (function? name) s none s := by
  have absent : s.functions.find? (fun f => f.1 == name) = none :=
    List.find?_eq_none.mpr fun f hf => by simpa using passes.functions f hf
  unfold Shell.function?
  apply (does_get s).bind
  rw [absent]
  exact does_pure ..

theorem has_not {c : Char} (off : c ∉ s.options) : Does (has c) s false s := by
  unfold has
  apply (does_get s).bind
  rw [Bool.eq_false_iff.mpr fun on => off (List.contains_iff_mem.mp on)]
  exact does_pure ..

theorem simple_started (passes : s.Passes name) (found : s.Finds name path)
    (started : start path (s.child name args) s.system = .ok (.code k, system))
    (quiet : ∀ g ∈ system.signals, g.1 ≠ s.process.id) (m : Setting)
    (enough : 2 * (name :: args).flatten.length + (name :: args).length + 6 ≤ n) :
    Does (simple start n m [] ((name :: args).map wordOf) []) s ()
      (s.afterProgram name system k) := by
  obtain ⟨j, rfl⟩ : ∃ j, n = j + 2 := ⟨n - 2, by omega⟩
  have words : Does (wordsOfCommand start (j + 1) false ((name :: args).map wordOf)) s
      (name :: args) s := wordsOfCommand_wordOf (name :: args) s (by omega)
  have special : (name :: args).head?.any isSpecialName = false := passes.special
  unfold simple
  rw [passes.declares]
  apply words.bind
  apply (does_get s).bind
  rw [special]
  apply (show Does (List.mapM (prepare start (j + 1)) []) s [] s from does_pure ..).bind
  apply (show Does (attach []) s true s from rfl).bind
  dsimp only [Bool.not_true, Bool.false_eq_true, if_false]
  apply (does_get s).bind
  rw [if_neg Bool.false_ne_true]
  apply (does_get s).bind
  apply (show Does (assign start (j + 1) []) s [] s by rw [assign]; exact does_pure ..).bind
  apply (show Does (List.forM [] _) s () s from does_pure ..).bind
  refine Does.bind (?_ : Does _ s () s) ?_
  · apply (has_not (passes.options 'x' (by decide))).bind
    rw [if_neg (by simp)]
    exact does_pure ..
  have kept : (s.afterProgram name system k).process = s.process := rfl
  refine (keepingDescriptors_kept ?_ kept).bind ?_
  · apply passes.function?.bind
    dsimp only
    rw [passes.regular]
    exact external_started passes.background found started
  apply (show Does (setDescriptors s.process.descriptors) _ () _ from does_modify ..).bind
  apply (show Does (putBack _) _ () _ from does_pure ..).bind
  exact attend_quiet quiet

theorem execute_started (line : Nat) (passes : s.Passes name) (found : s.Finds name path)
    (started : start path (s.child name args) s.system = .ok (.code k, system))
    (quiet : ∀ g ∈ system.signals, g.1 ≠ s.process.id) (m : Setting)
    (enough : 2 * (name :: args).flatten.length + (name :: args).length + 7 ≤ n) :
    Does (execute start n m (commandOf line name args)) s ()
      ({ s with line, taken := 0 }.afterProgram name system k) := by
  obtain ⟨j, rfl⟩ : ∃ j, n = j + 1 := ⟨n - 1, by omega⟩
  have ran := simple_started (s := { s with line, taken := 0 }) (n := j) ⟨passes.special,
    passes.regular, passes.functions, passes.options, passes.background⟩ found started quiet m
    (by omega)
  unfold commandOf
  rw [execute]
  apply (has_not (passes.options 'n' (by decide))).bind
  rw [if_neg Bool.false_ne_true]
  apply (does_modify ..).bind
  apply ran.bind
  unfold checkStatus
  apply (does_get _).bind
  rw [if_neg]
  · exact does_pure ..
  · rintro ⟨-, -, on⟩
    exact passes.options 'e' (by decide) (List.contains_iff_mem.mp on)

/-- A shell that carries out a displayed command line starts the program that it names, with the
arguments that it shows, and ends with its status. -/
theorem runText_display {i : Shortcuts.Invocation} (named : IsProgramName (octets i.program))
    (passes : s.Passes (octets i.program)) (found : s.Finds (octets i.program) path)
    (started : start path (s.child (octets i.program) (i.args.map octets)) s.system =
      .ok (.code k, system))
    (quiet : ∀ g ∈ system.signals, g.1 ≠ s.process.id) (m : Setting)
    (enough : 2 * (octets i.display).length + 10 ≤ n) :
    ∃ line, Does (runText start n m (octets i.display)) s ()
      ({ s with line, taken := 0 }.afterProgram (octets i.program) system k) := by
  obtain ⟨line, rest, first, none⟩ := nextLine_display named
  obtain ⟨j, rfl⟩ : ∃ j, n = j + 3 := ⟨n - 3, by omega⟩
  have first_word := length_le_quote (octets i.program)
  have others := length_le_argumentsText (i.args.map octets)
  rw [octets_display, List.length_append] at enough
  have ran := execute_started (n := j + 1) line passes found started quiet m (by
    rw [List.flatten_cons, List.length_append, List.length_cons]
    omega)
  refine ⟨line, ?_⟩
  rw [runText, runSource]
  simp only [first]
  apply (has_not (passes.options 'v' (by decide))).bind
  rw [if_neg Bool.false_ne_true]
  apply ran.bind
  rw [runSource]
  simp only [none]
  exact does_pure ..

end Shortcuts.Machine.Shell
