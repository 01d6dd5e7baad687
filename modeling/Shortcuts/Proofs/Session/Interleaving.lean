import Mathlib.Data.List.Induction
import Shortcuts.Proofs.Session.Arguments

/-!
# Options among choices

Choices, switches and the file option may come in any order in front of `--`. Reading one of them
adds to what the words before it ask for and to nothing else (`Reading.words_argument`), so what a
command line asks for does not depend on how its parts are laid out (`parse_interleaved`).
-/

namespace Shortcuts

/-- The word is no option, nor `--`. -/
def Undashed (word : String) : Prop := word.toList.head? ≠ some '-'

instance : DecidablePred Undashed := fun _ => inferInstanceAs (Decidable (¬ _ = _))

theorem Undashed.ne_escape {word : String} (undashed : Undashed word) : word ≠ "--" := by
  rintro rfl
  exact undashed rfl

/-- A choice, a switch by one of its names, or the file option with the words that give it. -/
inductive Argument
  | choice (word : String)
  | switch (s : Switch) (name : String)
  | file (path : String) (words : List String)
  deriving DecidableEq, Repr

namespace Argument

def words : Argument → List String
  | .choice word => [word]
  | .switch _ name => [name]
  | .file _ words => words

/-- The ways to give the file option. -/
def fileForms (path : String) : List (List String) :=
  [["-f", path], ["--file", path], ["--file=" ++ path]]

def Written : Argument → Prop
  | .choice word => Undashed word
  | .switch s name => name ∈ s.words
  | .file path words => path ≠ "" ∧ Undashed path ∧ words ∈ fileForms path

instance : DecidablePred Written
  | .choice word => inferInstanceAs (Decidable (Undashed word))
  | .switch s name => inferInstanceAs (Decidable (name ∈ s.words))
  | .file path words =>
    inferInstanceAs (Decidable (path ≠ "" ∧ Undashed path ∧ words ∈ fileForms path))

def choice? : Argument → Option String
  | .choice word => some word
  | _ => none

def switch? : Argument → Option Switch
  | .switch s _ => some s
  | _ => none

def file? : Argument → Option String
  | .file path _ => some path
  | _ => none

end Argument

/-- A command line in parts: those in front of `--`, and the words after it if it is there. -/
structure CommandLine where
  arguments : List Argument
  trailing : Option (List String) := none
  deriving DecidableEq, Repr

namespace CommandLine

def words (c : CommandLine) : List String :=
  c.arguments.flatMap Argument.words ++
    match c.trailing with
    | none => []
    | some rest => "--" :: rest

def choices (c : CommandLine) : List String :=
  c.arguments.filterMap Argument.choice? ++ c.trailing.getD []

def switches (c : CommandLine) : List Switch := c.arguments.filterMap Argument.switch?

def files (c : CommandLine) : List String := c.arguments.filterMap Argument.file?

/-- No option is given twice. -/
structure Valid (c : CommandLine) : Prop where
  written : ∀ a ∈ c.arguments, a.Written
  switchOnce : c.switches.Nodup
  fileOnce : c.files.length ≤ 1

instance (c : CommandLine) : Decidable c.Valid :=
  decidable_of_iff ((∀ a ∈ c.arguments, a.Written) ∧ c.switches.Nodup ∧ c.files.length ≤ 1)
    ⟨fun ⟨a, b, c⟩ => ⟨a, b, c⟩, fun ⟨a, b, c⟩ => ⟨a, b, c⟩⟩

end CommandLine

/-! ## One argument -/

namespace WordForm

theorem ofWord_of_undashed {word : String} (undashed : Undashed word) : ofWord word = .plain := by
  unfold Undashed at undashed
  unfold ofWord
  revert undashed
  fun_cases ofChars word.toList with
  | case1 | case2 | case3 => exact fun undashed => absurd rfl undashed
  | case4 => exact fun _ => rfl

theorem ofWord_file_equals (path : String) :
    ofWord ("--file=" ++ path) = .long "file" (some path) := by
  have chars : ("--file=" ++ path).toList = '-' :: '-' :: ("file=".toList ++ path.toList) :=
    String.toList_append
  have name : String.ofList (beforeEquals ("file=".toList ++ path.toList)) = "file" := rfl
  have value : afterEquals? ("file=".toList ++ path.toList) = some path :=
    congrArg some String.ofList_toList
  calc ofWord ("--file=" ++ path)
      = ofChars ('-' :: '-' :: ("file=".toList ++ path.toList)) := by rw [ofWord, chars]
    _ = .long (String.ofList (beforeEquals ("file=".toList ++ path.toList)))
          (afterEquals? ("file=".toList ++ path.toList)) := rfl
    _ = .long "file" (some path) := by rw [name, value]

end WordForm

/-- What the options are when one more argument was read. -/
def Options.add (o : Options) : Argument → Options
  | .choice word => { o with choices := o.choices ++ [word] }
  | .switch s _ => Reading.turnOn o s
  | .file path _ => { o with file := some path }

/-- The option has not been given yet. -/
def Options.Lacks (o : Options) : Argument → Prop
  | .choice _ => True
  | .switch s _ => Reading.isOn o s = false
  | .file _ _ => o.file = none

namespace Reading

variable {o : Options} {rest : List String}

theorem words_choice {word : String} (undashed : Undashed word) :
    ({ options := o } : Reading).words (word :: rest) =
      ({ options := o.add (.choice word) } : Reading).words rest := by
  rw [words_cons undashed.ne_escape, read, WordForm.ofWord_of_undashed undashed]
  rfl

theorem words_switch {s : Switch} {name : String} (named : name ∈ s.words)
    (off : isOn o s = false) :
    ({ options := o } : Reading).words (name :: rest) =
      ({ options := o.add (.switch s name) } : Reading).words rest := by
  have option : name ≠ "--" := by
    rintro rfl
    cases s <;> simp [Switch.words] at named
  have on : ({ options := o } : Reading).switch s = .ok { options := turnOn o s } := by
    rw [switch_eq, settle_of_absent rfl]
    change (if isOn o s then _ else _) = _
    rw [off]
    rfl
  rw [words_cons option, read_of_mem_words named, on]
  rfl

variable {path : String}

theorem setFile_of_absent (absent : o.file = none) (given : path ≠ "") :
    ({ options := o } : Reading).setFile path =
      .ok { options := { o with file := some path } } := by
  rw [setFile, absent, Option.isSome_none, if_neg Bool.false_ne_true, if_neg given]

/-- The file option takes the next word, and is settled when its value is complete. -/
theorem words_value (given : path ≠ "") (undashed : Undashed path) (absent : o.file = none)
    (rest : List String) :
    ({ options := o, pending := .named } : Reading).words (path :: rest) =
      ({ options := { o with file := some path } } : Reading).words rest := by
  have settled : ({ options := o, pending := .valued path } : Reading).settle =
      .ok { options := { o with file := some path } } := setFile_of_absent absent given
  rw [words_cons undashed.ne_escape, read, WordForm.ofWord_of_undashed undashed,
    ← words_of_settle settled]
  rfl

theorem words_file_equals (given : path ≠ "") (absent : o.file = none) :
    ({ options := o } : Reading).words (("--file=" ++ path) :: rest) =
      ({ options := { o with file := some path } } : Reading).words rest := by
  have form := WordForm.ofWord_file_equals path
  have option : "--file=" ++ path ≠ "--" := by
    intro escape
    rw [escape] at form
    cases form
  have attached : ({ options := o } : Reading).read ("--file=" ++ path) =
      .ok { options := { o with file := some path } } := by
    rw [read, form]
    change ({ options := o } : Reading).attach path = _
    rw [attach_eq, settle_of_absent rfl]
    exact setFile_of_absent absent given
  rw [words_cons option, attached]
  rfl

theorem words_file {ws : List String} (given : path ≠ "") (undashed : Undashed path)
    (form : ws ∈ Argument.fileForms path) (absent : o.file = none) :
    ({ options := o } : Reading).words (ws ++ rest) =
      ({ options := o.add (.file path ws) } : Reading).words rest := by
  have value := words_value given undashed absent rest
  obtain rfl | rfl | rfl :
      ws = ["-f", path] ∨ ws = ["--file", path] ∨ ws = ["--file=" ++ path] := by
    simpa [Argument.fileForms] using form
  · exact (words_cons (by decide) _ _).trans value
  · exact (words_cons (by decide) _ _).trans value
  · exact words_file_equals given absent

/-- An argument adds what it says, whatever follows it. -/
theorem words_argument {a : Argument} (written : a.Written) (lacks : o.Lacks a) :
    ({ options := o } : Reading).words (a.words ++ rest) =
      ({ options := o.add a } : Reading).words rest := by
  cases a with
  | choice word => exact words_choice written
  | switch s name => exact words_switch written lacks
  | file path ws => exact words_file written.1 written.2.1 written.2.2 lacks

end Reading

/-! ## All arguments -/

/-- The options are what the arguments say. -/
structure Options.AskedBy (o : Options) (arguments : List Argument) : Prop where
  choices : o.choices = arguments.filterMap Argument.choice?
  switch : ∀ s, Reading.isOn o s = true ↔ s ∈ arguments.filterMap Argument.switch?
  file : ∀ path, o.file = some path ↔ path ∈ arguments.filterMap Argument.file?

namespace Options

variable {o : Options} {before : List Argument} {a : Argument}

theorem askedBy_nil : ({} : Options).AskedBy [] where
  choices := rfl
  switch s := by cases s <;> simp [Reading.isOn]
  file path := by simp

theorem choices_add (o : Options) (a : Argument) :
    (o.add a).choices = o.choices ++ [a].filterMap Argument.choice? := by
  cases a with
  | choice word => rfl
  | switch s name => cases s <;> exact (List.append_nil _).symm
  | file path ws => exact (List.append_nil _).symm

theorem isOn_add (o : Options) (a : Argument) (s : Switch) :
    Reading.isOn (o.add a) s = true ↔
      Reading.isOn o s = true ∨ s ∈ [a].filterMap Argument.switch? := by
  cases a with
  | choice word => cases s <;> simp [add, Reading.isOn, Argument.switch?]
  | switch t name =>
    cases s <;> cases t <;> simp [add, Reading.isOn, Reading.turnOn, Argument.switch?]
  | file path ws => cases s <;> simp [add, Reading.isOn, Argument.switch?]

theorem file_add (lacks : o.Lacks a) (path : String) :
    (o.add a).file = some path ↔ o.file = some path ∨ path ∈ [a].filterMap Argument.file? := by
  cases a with
  | choice word => simp [add, Argument.file?]
  | switch t name => cases t <;> simp [add, Reading.turnOn, Argument.file?]
  | file path' ws =>
    have absent : o.file = none := lacks
    simp [add, absent, Argument.file?, eq_comm]

theorem AskedBy.add (asked : o.AskedBy before) (lacks : o.Lacks a) :
    (o.add a).AskedBy (before ++ [a]) where
  choices := by rw [choices_add, asked.choices, List.filterMap_append]
  switch s := by rw [isOn_add, asked.switch, List.filterMap_append, List.mem_append]
  file path := by rw [file_add lacks, asked.file, List.filterMap_append, List.mem_append]

theorem AskedBy.lacks (asked : o.AskedBy before)
    (switchOnce : ((before ++ [a]).filterMap Argument.switch?).Nodup)
    (fileOnce : ((before ++ [a]).filterMap Argument.file?).length ≤ 1) : o.Lacks a := by
  rw [List.filterMap_append] at switchOnce fileOnce
  cases a with
  | choice word => trivial
  | switch s name =>
    have other : s ∉ before.filterMap Argument.switch? := fun mem =>
      (List.nodup_append.mp switchOnce).2.2 s mem s (List.mem_singleton_self s) rfl
    exact Bool.eq_false_iff.mpr (mt (asked.switch s).mp other)
  | file path ws =>
    have none : before.filterMap Argument.file? = [] := by
      rw [List.length_append] at fileOnce
      exact List.length_eq_zero_iff.mp (Nat.le_zero.mp (Nat.le_of_add_le_add_right fileOnce))
    refine Option.eq_none_iff_forall_ne_some.mpr fun path' named => ?_
    have mem := (asked.file path').mp named
    rw [none] at mem
    cases mem

/-- Options that say the same are the same. -/
theorem eq_of_same {o o' : Options} (choices : o.choices = o'.choices)
    (switch : ∀ s, Reading.isOn o s = Reading.isOn o' s)
    (file : ∀ path, o.file = some path ↔ o'.file = some path) : o = o' := by
  have files : o.file = o'.file := Option.ext file
  have verbose : o.verbose = o'.verbose := switch .verbose
  have dryRun : o.dryRun = o'.dryRun := switch .dryRun
  have list : o.list = o'.list := switch .list
  cases o
  cases o'
  rw [Options.mk.injEq]
  exact ⟨files, choices, verbose, dryRun, list⟩

end Options

/-- The arguments are read one by one. -/
theorem Reading.words_arguments {arguments : List Argument}
    (written : ∀ a ∈ arguments, a.Written)
    (switchOnce : (arguments.filterMap Argument.switch?).Nodup)
    (fileOnce : (arguments.filterMap Argument.file?).length ≤ 1) :
    ∃ o : Options, o.AskedBy arguments ∧ ∀ rest,
      ({} : Reading).words (arguments.flatMap Argument.words ++ rest) =
        ({ options := o } : Reading).words rest := by
  induction arguments using List.reverseRecOn with
  | nil => exact ⟨{}, Options.askedBy_nil, fun rest => rfl⟩
  | append_singleton before a ih =>
    have part : before.Sublist (before ++ [a]) := List.sublist_append_left before [a]
    obtain ⟨o, asked, reads⟩ := ih (fun b hb => written b (List.mem_append_left _ hb))
      (switchOnce.sublist (part.filterMap _))
      (Nat.le_trans (part.filterMap _).length_le fileOnce)
    have lacks : o.Lacks a := asked.lacks switchOnce fileOnce
    refine ⟨o.add a, asked.add lacks, fun rest => ?_⟩
    rw [List.flatMap_append, List.append_assoc, reads, List.flatMap_singleton]
    exact words_argument (written a (List.mem_append_right _ (List.mem_singleton_self a))) lacks

/-! ## Command lines -/

namespace CommandLine

variable {c : CommandLine}

/-- What `--` and the words after it add. -/
theorem words_trailing (o : Options) (trailing : Option (List String)) :
    (({ options := o } : Reading).words
      (match trailing with | none => [] | some rest => "--" :: rest)) =
        .ok { o with choices := o.choices ++ trailing.getD [] } := by
  cases trailing with
  | none =>
    rw [Reading.words_nil, Reading.settle_of_absent rfl, Option.getD_none, List.append_nil]
    rfl
  | some rest =>
    rw [Reading.words_escape, Reading.settle_of_absent rfl]
    rfl

theorem parse_words (valid : c.Valid) :
    ∃ o, Options.parse c.words = .ok o ∧ o.choices = c.choices ∧
      (∀ path, o.file = some path ↔ path ∈ c.files) ∧
      ∀ s, Reading.isOn o s = true ↔ s ∈ c.switches := by
  obtain ⟨o, asked, reads⟩ :=
    Reading.words_arguments valid.written valid.switchOnce valid.fileOnce
  refine ⟨{ o with choices := o.choices ++ c.trailing.getD [] }, ?_, ?_, asked.file, fun s => ?_⟩
  · rw [Options.parse, words, reads, words_trailing]
  · exact congrArg (· ++ c.trailing.getD []) asked.choices
  · rw [switches, ← asked.switch]
    cases s <;> rfl

/-- A command line is carried out wherever its options stand among its choices: its choices are
those in front of `--` and all words after it, in their order, and each option is on or has its
value exactly if it is given. So the same choices and options are the same request in any layout. -/
theorem parse_interleaved (valid : c.Valid) :
    (∃ o, Options.parse c.words = .ok o ∧ o.choices = c.choices ∧
      (∀ path, o.file = some path ↔ path ∈ c.files) ∧
      ∀ s, Reading.isOn o s = true ↔ s ∈ c.switches) ∧
    ∀ d : CommandLine, d.Valid → d.choices = c.choices → d.files = c.files →
      d.switches.Perm c.switches → Options.parse d.words = Options.parse c.words := by
  refine ⟨parse_words valid, fun d valid' choices files switches => ?_⟩
  obtain ⟨o, parsed, chosen, filed, switched⟩ := parse_words valid
  obtain ⟨o', parsed', chosen', filed', switched'⟩ := parse_words valid'
  have same : o' = o := by
    refine Options.eq_of_same (by rw [chosen', chosen, choices]) (fun s => ?_) fun path => ?_
    · rw [Bool.eq_iff_iff, switched', switched, switches.mem_iff]
    · rw [filed', filed, files]
  rw [parsed', parsed, same]

/-- A file that is named with an equals sign, an empty choice, and words after `--` that look like
options. -/
theorem parse_interleaved_around_empty_choice :
    let early : CommandLine :=
      ⟨[.switch .list "-l", .file "=a" ["-f", "=a"], .switch .dryRun "--dry-run", .choice "docs",
        .choice "", .choice "2"], some ["-v", "--", "x"]⟩
    let late : CommandLine :=
      ⟨[.choice "docs", .switch .dryRun "-d", .choice "", .choice "2", .file "=a" ["--file==a"],
        .switch .list "--list"], some ["-v", "--", "x"]⟩
    early.Valid ∧ late.Valid ∧
      early.words = ["-l", "-f", "=a", "--dry-run", "docs", "", "2", "--", "-v", "--", "x"] ∧
      late.words = ["docs", "-d", "", "2", "--file==a", "--list", "--", "-v", "--", "x"] ∧
      (∃ o, Options.parse early.words = .ok o ∧ o.choices = ["docs", "", "2", "-v", "--", "x"] ∧
        o.file = some "=a" ∧ Reading.isOn o .list = true ∧ Reading.isOn o .verbose = false) ∧
      Options.parse late.words = Options.parse early.words := by
  intro early late
  have valid : early.Valid := by decide
  have valid' : late.Valid := by decide
  obtain ⟨⟨o, parsed, chosen, filed, switched⟩, alike⟩ := parse_interleaved valid
  have file : o.file = some "=a" := (filed "=a").mpr (by decide)
  have list : Reading.isOn o .list = true := (switched .list).mpr (by decide)
  have verbose : Reading.isOn o .verbose = false :=
    Bool.eq_false_iff.mpr (mt (switched .verbose).mp (by decide))
  exact ⟨valid, valid', by decide, by decide, ⟨o, parsed, chosen, file, list, verbose⟩,
    alike late valid' rfl rfl (by decide)⟩

end CommandLine

end Shortcuts
