import Shortcuts.Session.Options

/-!
# Arguments, word by word

In front of `--` the words of a command line are read one after another (`Reading.words_append`).
Each of them is refused out of hand or settles the file option before anything else
(`Reading.words_settles`), and each takes over a switch that it does not ask for as it was
(`Reading.ignores_words`). So one more switch is the only difference that it makes to a command line
(`Options.parse_insert_switch`).
-/

namespace Shortcuts

/-- A refusal that answers what was asked for, and is no misuse. -/
def Refusal.isAnswer : Refusal → Bool
  | .help | .version => true
  | .unknownArgument | .invalidValue | .argumentConflict | .tooManyValues => false

namespace WordForm

theorem ofWord_eq_escape_iff {word : String} : ofWord word = .escape ↔ word = "--" := by
  constructor
  · intro escape
    unfold ofWord at escape
    apply String.toList_inj.mp
    revert escape
    fun_cases ofChars word.toList with
    | case1 => exact fun _ => rfl
    | case2 | case3 | case4 => nofun
  · rintro rfl
    rfl

theorem letters_ne_nil {word : String} {cs : List Char} (form : ofWord word = .letters cs) :
    cs ≠ [] := by
  unfold ofWord at form
  revert form
  fun_cases ofChars word.toList with
  | case1 | case2 | case4 => nofun
  | case3 c r =>
    rintro ⟨⟩
    exact List.cons_ne_nil c r

end WordForm

namespace Reading

/-- Read one word in front of `--`. -/
def read (r : Reading) (word : String) : Except Refusal Reading :=
  match WordForm.ofWord word with
  | .escape => .ok r
  | .plain => r.plain word
  | .letters cs => r.letters cs
  | .long name value => r.long name value

def readAll (r : Reading) : List String → Except Refusal Reading
  | [] => .ok r
  | word :: rest => (r.read word).bind fun r => r.readAll rest

variable {r : Reading} {word : String}

theorem words_nil (r : Reading) : r.words [] = r.settle.bind fun r => .ok r.options := by
  rw [words]
  cases r.settle <;> rfl

theorem words_escape (r : Reading) (rest : List String) :
    r.words ("--" :: rest) = r.settle.bind fun r => .ok (r.addChoices rest).options := by
  change r.settle.map _ = _
  cases r.settle <;> rfl

theorem words_cons (option : word ≠ "--") (r : Reading) (rest : List String) :
    r.words (word :: rest) = (r.read word).bind fun r => r.words rest := by
  rw [words, read]
  cases form : WordForm.ofWord word with
  | escape => exact absurd (WordForm.ofWord_eq_escape_iff.mp form) option
  | plain =>
    dsimp only
    cases r.plain word <;> rfl
  | letters cs =>
    dsimp only
    cases r.letters cs <;> rfl
  | long name value =>
    dsimp only
    cases r.long name value <;> rfl

theorem words_append {before : List String} (ongoing : "--" ∉ before) (r : Reading)
    (after : List String) :
    r.words (before ++ after) = (r.readAll before).bind fun r => r.words after := by
  induction before generalizing r with
  | nil => rfl
  | cons word before ih =>
    obtain ⟨option, ongoing⟩ := not_or.mp (mt List.mem_cons.mpr ongoing)
    rw [List.cons_append, words_cons (Ne.symm option), readAll]
    cases read : r.read word with
    | error e => rfl
    | ok r => exact ih ongoing r

/-! ## The file option -/

/-- The file option is settled before anything else is done. -/
def Settles {α : Type} (f : Reading → Except Refusal α) : Prop :=
  ∀ r : Reading, r.pending ≠ .named → f r = r.settle.bind f

theorem pending_of_settle {r' : Reading} (settled : r.settle = .ok r') : r'.pending = .absent := by
  unfold settle at settled
  split at settled
  · rename_i absent
    exact Except.ok.inj settled ▸ absent
  · cases settled
  · unfold setFile at settled
    split at settled
    · cases settled
    · split at settled
      · cases settled
      · rw [← Except.ok.inj settled]

theorem settle_of_absent (absent : r.pending = .absent) : r.settle = .ok r := by
  rw [settle, absent]

theorem misuse_of_settle {e : Refusal} (refused : r.settle = .error e) : e.isAnswer = false := by
  unfold settle at refused
  split at refused
  · cases refused
  · cases refused
    rfl
  · unfold setFile at refused
    split at refused
    · cases refused
      rfl
    · split at refused
      · cases refused
        rfl
      · cases refused

theorem Settles.of_settle {α : Type} {f : Reading → Except Refusal α} (settles : Settles f)
    (unnamed : r.pending ≠ .named) {x : Except Refusal Reading} (settled : r.settle = x) :
    f r = x.bind f :=
  settled ▸ settles r unnamed

theorem settles_bind {α : Type} (g : Reading → Except Refusal α) :
    Settles fun r => r.settle.bind g := by
  intro r _
  change r.settle.bind g = r.settle.bind fun r => r.settle.bind g
  cases settled : r.settle with
  | error e => rfl
  | ok r' =>
    change g r' = r'.settle.bind g
    rw [settle_of_absent (pending_of_settle settled)]
    rfl

theorem Settles.bind {α β : Type} {f : Reading → Except Refusal α} (settles : Settles f)
    (g : α → Except Refusal β) : Settles fun r => (f r).bind g := by
  intro r unnamed
  change (f r).bind g = _
  rw [settles r unnamed]
  cases r.settle <;> rfl

theorem Settles.congr {α : Type} {f g : Reading → Except Refusal α} (settles : Settles f)
    (same : ∀ r : Reading, r.pending ≠ .named → g r = f r) : Settles g := by
  intro r unnamed
  rw [same r unnamed, settles r unnamed]
  cases settled : r.settle with
  | error e => rfl
  | ok r' =>
    have absent : r'.pending ≠ .named := by
      rw [pending_of_settle settled]
      nofun
    exact (same r' absent).symm

theorem switch_eq (r : Reading) (s : Switch) :
    r.switch s = r.settle.bind fun r => if isOn r.options s then .error .argumentConflict
      else .ok { r with options := turnOn r.options s } := by
  unfold switch
  cases r.settle <;> rfl

theorem attach_eq (r : Reading) (path : String) :
    r.attach path = r.settle.bind fun r => r.setFile path := by
  unfold attach
  cases r.settle <;> rfl

theorem expect_eq (r : Reading) :
    r.expect = r.settle.bind fun r => .ok { r with pending := .named } := by
  unfold expect
  cases r.settle <;> rfl

theorem refuse_eq (r : Reading) (why : Refusal) :
    r.refuse why = r.settle.bind fun _ => .error why := by
  unfold refuse
  cases r.settle <;> rfl

theorem plain_eq (unnamed : r.pending ≠ .named) (word : String) :
    r.plain word = r.settle.bind fun r => .ok (r.addChoices [word]) := by
  unfold plain
  split
  · rename_i named
    exact absurd named unnamed
  · cases r.settle <;> rfl

theorem letters_cons_switch {c : Char} {s : Switch} (flag : Flag.ofLetter? c = some (.switch s))
    (r : Reading) (rest : List Char) :
    r.letters (c :: rest) = (r.switch s).bind fun r => r.letters rest := by
  rw [letters, flag]
  dsimp only
  cases r.switch s <;> rfl

theorem Settles.of_eq {α : Type} {f g : Reading → Except Refusal α}
    (settled : ∀ r : Reading, r.pending ≠ .named → f r = r.settle.bind g) : Settles f :=
  (settles_bind g).congr settled

theorem settles_switch (s : Switch) : Settles fun r => r.switch s :=
  .of_eq fun r _ => r.switch_eq s

theorem settles_attach (path : String) : Settles fun r => r.attach path :=
  .of_eq fun r _ => r.attach_eq path

theorem settles_expect : Settles expect :=
  .of_eq fun r _ => r.expect_eq

theorem settles_refuse (why : Refusal) : Settles fun r => r.refuse why :=
  .of_eq fun r _ => r.refuse_eq why

/-- Whatever has been read, this is a misuse. -/
def Misused {α : Type} (f : Reading → Except Refusal α) : Prop :=
  ∃ e : Refusal, e.isAnswer = false ∧ ∀ r : Reading, f r = .error e

theorem Misused.bind {α β : Type} {f : Reading → Except Refusal α} (misused : Misused f)
    (g : α → Except Refusal β) : Misused fun r => (f r).bind g := by
  obtain ⟨e, misuse, refused⟩ := misused
  exact ⟨e, misuse, fun r => congrArg (·.bind g) (refused r)⟩

theorem letters_settles {cs : List Char} (some : cs ≠ []) :
    (Misused fun r => r.letters cs) ∨ Settles fun r => r.letters cs := by
  obtain ⟨c, rest, rfl⟩ := List.exists_cons_of_ne_nil some
  cases flag : Flag.ofLetter? c with
  | none => exact .inl ⟨.unknownArgument, rfl, fun r => by simp only [letters, flag]⟩
  | some kind =>
    right
    cases kind with
    | help => simpa only [letters, flag] using settles_refuse .help
    | version => simpa only [letters, flag] using settles_refuse .version
    | file =>
      simp only [letters, flag]
      split
      · exact settles_expect
      · exact settles_attach _
    | switch s =>
      simp only [letters_cons_switch flag]
      exact (settles_switch s).bind _

theorem long_settles (name : String) (value : Option String) :
    (Misused fun r => r.long name value) ∨ Settles fun r => r.long name value := by
  simp only [long]
  cases Flag.ofName? name with
  | none => exact .inl ⟨.unknownArgument, rfl, fun _ => rfl⟩
  | some kind =>
    cases value with
    | none =>
      right
      cases kind with
      | file => exact settles_expect
      | help => exact settles_refuse .help
      | version => exact settles_refuse .version
      | switch s => exact settles_switch s
    | some path =>
      cases kind with
      | file => exact .inr (settles_attach path)
      | help | version | switch => exact .inl ⟨.tooManyValues, rfl, fun _ => rfl⟩

theorem read_settles {word : String} (option : word ≠ "--") :
    (Misused fun r => r.read word) ∨ Settles fun r => r.read word := by
  simp only [read]
  cases form : WordForm.ofWord word with
  | escape => exact absurd (WordForm.ofWord_eq_escape_iff.mp form) option
  | plain => exact .inr (.of_eq fun r unnamed => r.plain_eq unnamed word)
  | letters cs => exact letters_settles (WordForm.letters_ne_nil form)
  | long name value => exact long_settles name value

/-- The words at the end of a command line are refused out of hand or settle the file option. -/
theorem words_settles (args : List String) :
    (Misused fun r => r.words args) ∨ Settles fun r => r.words args := by
  cases args with
  | nil => exact .inr (.of_eq fun r _ => r.words_nil)
  | cons word rest =>
    by_cases escape : word = "--"
    · subst escape
      exact .inr (.of_eq fun r _ => r.words_escape rest)
    · simp only [words_cons escape]
      exact (read_settles escape).imp (·.bind _) (·.bind _)

theorem unnamed_of_settle {r' : Reading} (settled : r.settle = .ok r') : r.pending ≠ .named := by
  intro named
  rw [settle, named] at settled
  cases settled

/-- What was read counts by what it settles to. -/
theorem words_of_settle {r' : Reading} (settled : r.settle = .ok r') (args : List String) :
    r.words args = r'.words args := by
  obtain ⟨e, -, refused⟩ | settles := words_settles args
  · exact (refused r).trans (refused r').symm
  · exact settles.of_settle (unnamed_of_settle settled) settled

end Reading

/-! ## Switches -/

/-- Turn a switch on or off. -/
def Options.set (s : Switch) (b : Bool) (o : Options) : Options :=
  match s with
  | .verbose => { o with verbose := b }
  | .dryRun => { o with dryRun := b }
  | .list => { o with list := b }

namespace Switch

/-- The words that are one switch and nothing else. -/
def words : Switch → List String
  | .verbose => ["-v", "--verbose"]
  | .dryRun => ["-d", "--dry-run"]
  | .list => ["-l", "--list"]

/-- A group of letters asks for a switch, before the first letter that is no switch. -/
def inLetters (s : Switch) : List Char → Bool
  | [] => false
  | c :: rest =>
    match Flag.ofLetter? c with
    | some (.switch t) => t = s || s.inLetters rest
    | _ => false

def givenBy (s : Switch) (word : String) : Bool :=
  match WordForm.ofWord word with
  | .plain | .escape => false
  | .letters cs => s.inLetters cs
  | .long name _ => Flag.ofName? name = some (.switch s)

/-- A word in front of `--` asks for the switch. -/
def isGiven (s : Switch) (args : List String) : Bool :=
  (args.takeWhile (· ≠ "--")).any s.givenBy

variable {s : Switch}

theorem isGiven_cons {word : String} (option : word ≠ "--") (rest : List String) :
    s.isGiven (word :: rest) = (s.givenBy word || s.isGiven rest) := by
  simp [isGiven, option]

theorem isGiven_append {before : List String} (ongoing : "--" ∉ before) (after : List String) :
    s.isGiven (before ++ after) = (before.any s.givenBy || s.isGiven after) := by
  have options : ∀ word ∈ before, decide (word ≠ "--") = true := fun word mem =>
    decide_eq_true fun escape => ongoing (escape ▸ mem)
  rw [isGiven, List.takeWhile_append_of_pos options, List.any_append, isGiven]

end Switch

namespace Reading

def set (s : Switch) (b : Bool) (r : Reading) : Reading :=
  { r with options := r.options.set s b }

variable {α : Type} {s t : Switch} {r : Reading}

theorem isOn_set (o : Options) (s : Switch) (b : Bool) : isOn (o.set s b) s = b := by
  cases s <;> rfl

theorem isOn_set_of_ne (other : t ≠ s) (o : Options) (b : Bool) :
    isOn (o.set s b) t = isOn o t := by
  cases s <;> cases t <;> first | rfl | exact absurd rfl other

theorem turnOn_set_of_ne (other : t ≠ s) (o : Options) (b : Bool) :
    turnOn (o.set s b) t = (turnOn o t).set s b := by
  cases s <;> cases t <;> first | rfl | exact absurd rfl other

theorem file_set (o : Options) (s : Switch) (b : Bool) : (o.set s b).file = o.file := by
  cases s <;> rfl

/-- This takes a switch over as it finds it, and does the same whichever way the switch is. -/
def Ignores (s : Switch) (put : Bool → α → α) (f : Reading → Except Refusal α) : Prop :=
  ∀ (b : Bool) (r : Reading), f (r.set s b) = (f r).map (put b)

theorem Ignores.bind {put : Bool → α → α} {f : Reading → Except Refusal Reading}
    {g : Reading → Except Refusal α} (first : Ignores s (Reading.set s) f)
    (rest : Ignores s put g) : Ignores s put fun r => (f r).bind g := by
  intro b r
  change (f (r.set s b)).bind g = ((f r).bind g).map (put b)
  rw [first b r]
  cases f r with
  | error e => rfl
  | ok r => exact rest b r

theorem ignores_setFile (s : Switch) (path : String) :
    Ignores s (Reading.set s) fun r => r.setFile path := by
  intro b r
  simp only [setFile, set, file_set]
  split
  · rfl
  · split
    · rfl
    · cases s <;> rfl

theorem ignores_settle (s : Switch) : Ignores s (Reading.set s) settle := by
  intro b r
  have same : (r.set s b).pending = r.pending := rfl
  cases pending : r.pending with
  | absent =>
    rw [settle_of_absent pending, settle_of_absent (same.trans pending)]
    rfl
  | named =>
    rw [settle, settle, same, pending]
    rfl
  | valued path =>
    rw [settle, settle, same, pending]
    exact ignores_setFile s path b { r with pending := .absent }

theorem Ignores.of_eq {f g : Reading → Except Refusal Reading}
    (settled : ∀ r : Reading, f r = r.settle.bind g) (rest : Ignores s (Reading.set s) g) :
    Ignores s (Reading.set s) f := by
  intro b r
  rw [settled, settled]
  exact (ignores_settle s).bind rest b r

theorem ignores_addChoices (s : Switch) (words : List String) (b : Bool) (r : Reading) :
    (r.set s b).addChoices words = (r.addChoices words).set s b := by
  cases s <;> rfl

theorem ignores_switch (other : t ≠ s) : Ignores s (Reading.set s) fun r => r.switch t := by
  refine .of_eq (fun r => r.switch_eq t) fun b r => ?_
  change (if isOn (r.options.set s b) t then _ else Except.ok { r with options := _ }) = _
  rw [isOn_set_of_ne other]
  split
  · rfl
  · exact congrArg (fun o => Except.ok { r with options := o }) (turnOn_set_of_ne other _ b)

theorem ignores_attach (s : Switch) (path : String) :
    Ignores s (Reading.set s) fun r => r.attach path :=
  .of_eq (fun r => r.attach_eq path) (ignores_setFile s path)

theorem ignores_expect (s : Switch) : Ignores s (Reading.set s) expect :=
  .of_eq (fun r => r.expect_eq) fun _ _ => rfl

theorem ignores_refuse (s : Switch) (why : Refusal) :
    Ignores s (Reading.set s) fun r => r.refuse why :=
  .of_eq (fun r => r.refuse_eq why) fun _ _ => rfl

theorem ignores_plain (s : Switch) (word : String) :
    Ignores s (Reading.set s) fun r => r.plain word := by
  intro b r
  change (r.set s b).plain word = (r.plain word).map (Reading.set s b)
  by_cases named : r.pending = .named
  · simp only [plain, set, named]
    rfl
  · have unnamed : (r.set s b).pending ≠ .named := named
    rw [plain_eq named, plain_eq unnamed]
    refine (ignores_settle s).bind (fun b r => ?_) b r
    rw [ignores_addChoices]
    rfl

theorem ignores_letters {cs : List Char} (absent : s.inLetters cs = false) :
    Ignores s (Reading.set s) fun r => r.letters cs := by
  induction cs with
  | nil => exact fun _ _ => rfl
  | cons c rest ih =>
    cases flag : Flag.ofLetter? c with
    | none => exact fun b r => by simp only [letters, flag]; rfl
    | some kind =>
      cases kind with
      | help => simpa only [letters, flag] using ignores_refuse s .help
      | version => simpa only [letters, flag] using ignores_refuse s .version
      | file =>
        simp only [letters, flag]
        split
        · exact ignores_expect s
        · exact ignores_attach s _
      | switch t =>
        simp only [Switch.inLetters, flag, Bool.or_eq_false_iff, decide_eq_false_iff_not] at absent
        simp only [letters_cons_switch flag]
        exact (ignores_switch absent.1).bind (ih absent.2)

theorem ignores_long {name : String} (absent : Flag.ofName? name ≠ some (.switch s))
    (value : Option String) : Ignores s (Reading.set s) fun r => r.long name value := by
  simp only [long]
  cases flag : Flag.ofName? name with
  | none => exact fun _ _ => rfl
  | some kind =>
    cases value with
    | none =>
      cases kind with
      | file => exact ignores_expect s
      | help => exact ignores_refuse s .help
      | version => exact ignores_refuse s .version
      | switch t => exact ignores_switch fun same => absent (by rw [flag, same])
    | some path =>
      cases kind with
      | file => exact ignores_attach s path
      | help | version | switch => exact fun _ _ => rfl

theorem ignores_read {word : String} (absent : s.givenBy word = false) :
    Ignores s (Reading.set s) fun r => r.read word := by
  unfold Switch.givenBy at absent
  simp only [read]
  split
  · exact fun _ _ => rfl
  · exact ignores_plain s word
  · rename_i form
    rw [form] at absent
    exact ignores_letters absent
  · rename_i form
    rw [form] at absent
    exact ignores_long (of_decide_eq_false absent) _

theorem ignores_readAll {before : List String} (absent : before.any s.givenBy = false) :
    Ignores s (Reading.set s) fun r => r.readAll before := by
  induction before with
  | nil => exact fun _ _ => rfl
  | cons word before ih =>
    rw [List.any_cons, Bool.or_eq_false_iff] at absent
    exact (ignores_read absent.1).bind (ih absent.2)

/-- A command line that does not ask for a switch leaves it as it is. -/
theorem ignores_words {args : List String} (absent : s.isGiven args = false) :
    Ignores s (Options.set s) fun r => r.words args := by
  induction args with
  | nil =>
    simp only [words_nil]
    exact (ignores_settle s).bind fun _ _ => rfl
  | cons word rest ih =>
    by_cases escape : word = "--"
    · subst escape
      simp only [words_escape]
      refine (ignores_settle s).bind fun b r => ?_
      rw [ignores_addChoices]
      rfl
    · simp only [words_cons escape]
      rw [Switch.isGiven_cons escape, Bool.or_eq_false_iff] at absent
      exact (ignores_read absent.1).bind (ih absent.2)

theorem read_of_mem_words {word : String} (mem : word ∈ s.words) (r : Reading) :
    r.read word = r.switch s := by
  have letter (c : Char) (flag : Flag.ofLetter? c = some (.switch s)) :
      r.letters [c] = r.switch s := by
    rw [letters_cons_switch flag]
    cases r.switch s <;> rfl
  cases s with
  | verbose =>
    obtain rfl | rfl : word = "-v" ∨ word = "--verbose" := by simpa [Switch.words] using mem
    · exact letter 'v' rfl
    · rfl
  | dryRun =>
    obtain rfl | rfl : word = "-d" ∨ word = "--dry-run" := by simpa [Switch.words] using mem
    · exact letter 'd' rfl
    · rfl
  | list =>
    obtain rfl | rfl : word = "-l" ∨ word = "--list" := by simpa [Switch.words] using mem
    · exact letter 'l' rfl
    · rfl

end Reading

/-! ## One more switch -/

/-- An option can stand after these words: `--` has not been read, and the file option does not wait
for its value. -/
structure TakesOption (before : List String) : Prop where
  ongoing : "--" ∉ before
  complete : ∀ r : Reading, ({} : Reading).readAll before = .ok r → r.pending ≠ .named

/-- Two command lines ask for the same but for a switch, which is on in the first and off in the
second. If they are not carried out they get the same answer, or both are misuses. -/
inductive Switched (s : Switch) : Except Refusal Options → Except Refusal Options → Prop
  | carriedOut (o : Options) : Switched s (.ok (o.set s true)) (.ok (o.set s false))
  | refused (e : Refusal) : Switched s (.error e) (.error e)
  | misused {e e' : Refusal} (first : e.isAnswer = false) (second : e'.isAnswer = false) :
    Switched s (.error e) (.error e')

section Insertion

variable {s : Switch} {word : String} {before after : List String}

namespace Reading

variable {r r' : Reading}

/-- A switch is off as long as it is not given. -/
theorem set_false_of_readAll (absent : before.any s.givenBy = false)
    (read : ({} : Reading).readAll before = .ok r) : r.set s false = r := by
  have start : ({} : Reading).set s false = {} := by cases s <;> rfl
  have same := ignores_readAll absent false {}
  simp only [start, read] at same
  exact (Except.ok.inj same).symm

theorem set_false_of_settle (off : r.set s false = r) (settled : r.settle = .ok r') :
    r'.set s false = r' := by
  have same := ignores_settle s false r
  rw [off, settled] at same
  exact (Except.ok.inj same).symm

theorem switch_of_off (off : r.set s false = r) (settled : r.settle = .ok r') :
    r.switch s = .ok (r'.set s true) := by
  rw [switch_eq, settled, ← set_false_of_settle off settled]
  change (if isOn (r'.options.set s false) s then _ else _) = _
  rw [isOn_set, if_neg Bool.false_ne_true]
  cases s <;> rfl

/-- The rest of a command line after a switch, and without it. -/
theorem switched_words (off : r.set s false = r) (unnamed : r.pending ≠ .named)
    (absent : s.isGiven after = false) :
    Switched s ((r.switch s).bind fun r => r.words after) (r.words after) := by
  cases settled : r.settle with
  | error e =>
    have misuse : e.isAnswer = false := misuse_of_settle settled
    have refused : r.switch s = .error e := by
      rw [switch_eq, settled]
      rfl
    rw [refused]
    obtain ⟨e', misuse', refused'⟩ | settles := words_settles after
    · have refused' : r.words after = .error e' := refused' r
      rw [refused']
      exact .misused misuse misuse'
    · have refused' : r.words after = .error e :=
        settles.of_settle unnamed settled
      rw [refused']
      exact .refused e
  | ok r' =>
    have same : r.words after = r'.words after := words_of_settle settled after
    have loud : (r'.set s true).words after = (r'.words after).map (Options.set s true) :=
      ignores_words absent true r'
    have quiet : (r'.set s false).words after = (r'.words after).map (Options.set s false) :=
      ignores_words absent false r'
    rw [set_false_of_settle off settled] at quiet
    rw [switch_of_off off settled, same]
    change Switched s ((r'.set s true).words after) _
    rw [loud]
    cases read : r'.words after with
    | error e => exact .refused e
    | ok o =>
      rw [read] at quiet
      have off : o.set s false = o := (Except.ok.inj quiet).symm
      change Switched s (.ok (o.set s true)) (.ok o)
      simpa only [off] using Switched.carriedOut (s := s) o

end Reading

/-- One more switch is the only difference that it makes to a command line. -/
theorem Options.parse_insert_switch (place : TakesOption before) (mem : word ∈ s.words)
    (absent : s.isGiven (before ++ after) = false) :
    Switched s (parse (before ++ word :: after)) (parse (before ++ after)) := by
  rw [Switch.isGiven_append place.ongoing, Bool.or_eq_false_iff] at absent
  have option : word ≠ "--" := by
    rintro rfl
    cases s <;> simp [Switch.words] at mem
  simp only [parse, Reading.words_append place.ongoing, Reading.words_cons option,
    Reading.read_of_mem_words mem]
  cases read : ({} : Reading).readAll before with
  | error e => exact .refused e
  | ok r =>
    exact Reading.switched_words (Reading.set_false_of_readAll absent.1 read)
      (place.complete r read) absent.2

end Insertion

end Shortcuts
