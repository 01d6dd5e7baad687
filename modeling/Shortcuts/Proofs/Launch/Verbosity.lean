import Shortcuts.Launch.Basic
import Shortcuts.Proofs.Session.Arguments
import Shortcuts.Proofs.Text.Encoding

/-!
# Verbosity

Asking for verbose output changes nothing but standard output, and there it only adds the debug
events as the console shows them (`verbose_adds_debug_lines`). A session does not look at the
switch, and an act that is no debug event shows the same either way. A command line that is refused
is refused with the switch as well, but its diagnosis may be another one: the switch is a word that
the file option is settled before, and words are quoted (`verbose_changes_diagnosis`).
-/

namespace Shortcuts

open Text

namespace Event

def isDebug (e : Event) : Bool := e.level = .debug

/-- The bytes of an event on the terminal. -/
def line (e : Event) : Bytes := encode (e.consoleText ++ "\n").toList

end Event

namespace Act

variable {e : Event}

theorem shown_debug (debug : e.isDebug) : (event e).shown true .out = e.line := by
  have level : e.level = .debug := of_decide_eq_true debug
  simp [shown, level, Level.onConsole, Level.stream, Event.line]

theorem shown_quiet_debug (debug : e.isDebug) : (event e).shown false .out = [] := by
  have level : e.level = .debug := of_decide_eq_true debug
  simp [shown, level, Level.onConsole]

theorem shown_event_of_not_debug (other : ¬e.isDebug) (stream : Stream) :
    (event e).shown false stream = (event e).shown true stream := by
  have level : e.level ≠ .debug := mt decide_eq_true other
  have same : e.level.onConsole false = e.level.onConsole true := by
    cases here : e.level with
    | debug => exact absurd here level
    | error | warn | info | trace => rfl
  rw [shown, shown, same]

/-- No debug event is shown on standard error. -/
theorem shown_err (a : Act) : a.shown false .err = a.shown true .err := by
  cases a with
  | event e =>
    by_cases debug : e.isDebug
    · have level : e.level = .debug := of_decide_eq_true debug
      simp [shown, level, Level.stream]
    · exact shown_event_of_not_debug debug .err
  | query | call | print | output | took => rfl

end Act

/-! ## Standard output in pieces -/

/-- A part of standard output, with the event that it shows if there is one. -/
structure Piece where
  event? : Option Event
  bytes : Bytes

namespace Piece

def isDebug (p : Piece) : Bool := p.event?.any Event.isDebug

def ofAct (verbose : Bool) (a : Act) : Piece := ⟨a.event?, a.shown verbose .out⟩

/-- Leaving out a debug event is all that is done without the switch. -/
theorem bytes_ofAct_quiet (a : Act) :
    (ofAct false a).bytes = if (ofAct true a).isDebug then [] else (ofAct true a).bytes := by
  cases a with
  | event e =>
    by_cases debug : e.isDebug
    · exact (Act.shown_quiet_debug debug).trans (if_pos debug).symm
    · exact (Act.shown_event_of_not_debug debug .out).trans (if_neg debug).symm
  | query | call | print | output | took => rfl

theorem bytes_of_debug {a : Act} {e : Event} (shows : (ofAct true a).event? = some e)
    (debug : e.isDebug) : (ofAct true a).bytes = e.line := by
  cases a with
  | event e' =>
    obtain rfl : e' = e := Option.some.inj shows
    exact Act.shown_debug debug
  | query | call | print | output | took => cases shows

end Piece

namespace Launch

/-- What the session came to, if there was one. -/
def result? : Launch → Option (Except SessionError Unit)
  | .answered _ _ => none
  | .ended _ _ o => some o.result

/-- The command line was refused, and standard error holds a diagnosis of it. -/
def isRefused : Launch → Bool
  | .answered r _ => !r.isAnswer
  | .ended _ _ _ => false

/-- What is written to standard output, in order. -/
def pieces : Launch → List Piece
  | .answered r diagnosis => [⟨none, encode (Launch.answered r diagnosis).out.toList⟩]
  | .ended verbose _ o => o.acts.map (Piece.ofAct verbose)

def outBytes (l : Launch) : Bytes := l.pieces.flatMap Piece.bytes

theorem outBytes_answered (r : Refusal) (diagnosis : String) :
    (answered r diagnosis).outBytes = encode (answered r diagnosis).out.toList := by
  rw [outBytes, pieces, List.flatMap_singleton]

/-- Standard output is read from the bytes that are written to it. -/
theorem out_eq (l : Launch) : l.out = String.ofList (decodeLossy l.outBytes) := by
  cases l with
  | answered r diagnosis => rw [outBytes_answered, decodeLossy_encode, String.ofList_toList]
  | ended verbose logFile o =>
    change o.acts.terminal verbose .out = _
    rw [outBytes, pieces, List.flatMap_map]
    rfl

/-- The first launch does what the second does, and shows its debug events as well: without the
pieces that show a debug event its standard output is that of the second. Standard error is the same
too, unless the command lines are refused. -/
structure Louder (loud quiet : Launch) : Prop where
  result : loud.result? = quiet.result?
  status : loud.status = quiet.status
  acts : loud.acts = quiet.acts
  refused : loud.isRefused = quiet.isRefused
  err : quiet.isRefused = false → loud.err = quiet.err
  log : ∀ stamp time, loud.log? stamp time = quiet.log? stamp time
  debug : ∀ p ∈ loud.pieces, ∀ e, p.event? = some e → e.isDebug → p.bytes = e.line
  out : quiet.outBytes = (loud.pieces.filter fun p => !p.isDebug).flatMap Piece.bytes

/-! ## Command lines that are not carried out -/

section Answered

variable {e e' : Refusal} {d d' : String}

theorem status_of_misuse (misuse : e.isAnswer = false) : (answered e d).status = 2 := by
  cases e with
  | help | version => cases misuse
  | unknownArgument | invalidValue | argumentConflict | tooManyValues => rfl

theorem out_of_misuse (misuse : e.isAnswer = false) : (answered e d).out = "" := by
  cases e with
  | help | version => cases misuse
  | unknownArgument | invalidValue | argumentConflict | tooManyValues => rfl

theorem err_of_misuse (misuse : e.isAnswer = false) : (answered e d).err = d := by
  cases e with
  | help | version => cases misuse
  | unknownArgument | invalidValue | argumentConflict | tooManyValues => rfl

theorem err_of_answer (answer : e.isAnswer = true) : (answered e d).err = "" := by
  cases e with
  | help | version => rfl
  | unknownArgument | invalidValue | argumentConflict | tooManyValues => cases answer

theorem louder_answered (status : (answered e d).status = (answered e' d').status)
    (out : (answered e d).out = (answered e' d').out) (same : e.isAnswer = e'.isAnswer) :
    (answered e d).Louder (answered e' d') where
  result := rfl
  status := status
  acts := rfl
  refused := congrArg not same
  err accepted := by
    have answer : e'.isAnswer = true := by simpa [isRefused] using accepted
    rw [err_of_answer answer, err_of_answer (same.trans answer)]
  log _ _ := rfl
  debug p mem _ shows := by
    obtain rfl := List.mem_singleton.mp mem
    cases shows
  out := by
    rw [outBytes_answered, ← out, ← outBytes_answered]
    rfl

/-- The same answer, or the same kind of misuse, with a diagnosis of each command line. -/
theorem louder_same (e : Refusal) (d d' : String) : (answered e d).Louder (answered e d') := by
  cases e <;> exact louder_answered rfl rfl rfl

theorem louder_misused (first : e.isAnswer = false) (second : e'.isAnswer = false) (d d' : String) :
    (answered e d).Louder (answered e' d') := by
  refine louder_answered ?_ ?_ (first.trans second.symm)
  · rw [status_of_misuse first, status_of_misuse second]
  · rw [out_of_misuse first, out_of_misuse second]

end Answered

/-! ## Sessions -/

/-- One session, with the switch and without it. -/
theorem louder_ended (logFile : Option String) (o : Outcome) :
    (ended true logFile o).Louder (ended false logFile o) where
  result := rfl
  status := rfl
  acts := rfl
  refused := rfl
  err _ := by
    have shown : Act.shown true .err = Act.shown false .err := funext fun a => a.shown_err.symm
    simp only [Launch.err, Trace.terminal, Trace.shown, shown]
  log _ _ := by cases logFile <;> rfl
  debug p mem _ shows := by
    obtain ⟨a, -, rfl⟩ := List.mem_map.mp mem
    exact Piece.bytes_of_debug shows
  out := by
    simp only [outBytes, pieces]
    induction o.acts with
    | nil => rfl
    | cons a acts ih =>
      rw [List.map_cons, List.map_cons, List.flatMap_cons, List.filter_cons, ih,
        Piece.bytes_ofAct_quiet]
      cases (Piece.ofAct true a).isDebug <;> rfl

end Launch

/-! ## Launches -/

theorem World.louder_launchWith (w : World) (o : Options) :
    (w.launchWith (o.set .verbose true)).Louder (w.launchWith (o.set .verbose false)) :=
  Launch.louder_ended (w.opening.file? w.environment command) (w.session o w.journal)

/-- Nothing but the diagnosis comes of a command line that is refused. -/
theorem World.launch_of_refused {w : World} {args : List String}
    (refused : (w.launch args).isRefused = true) :
    ∃ e, Options.parse args = .error e ∧ (w.launch args).err = w.diagnosis args e := by
  unfold launch at refused ⊢
  cases read : Options.parse args with
  | error e =>
    rw [read] at refused
    have misuse : e.isAnswer = false := by simpa [Launch.isRefused] using refused
    exact ⟨e, rfl, Launch.err_of_misuse misuse⟩
  | ok o =>
    rw [read] at refused
    cases refused

/-- One more verbose switch on a command line only adds the debug events to standard output, and the
same holds for options that were read in any other way. A command line that is refused stays refused,
and standard error gets the diagnosis of what was read. -/
theorem verbose_adds_debug_lines (w : World) {before after : List String} {word : String}
    (place : TakesOption before) (mem : word ∈ Switch.verbose.words)
    (absent : Switch.verbose.isGiven (before ++ after) = false) :
    (w.launch (before ++ word :: after)).Louder (w.launch (before ++ after)) ∧
      (∀ o : Options,
        (w.launchWith (o.set .verbose true)).Louder (w.launchWith (o.set .verbose false))) ∧
      (∀ args, (w.launch args).isRefused = true →
        ∃ e, Options.parse args = .error e ∧ (w.launch args).err = w.diagnosis args e) ∧
      ∀ l : Launch, l.out = String.ofList (decodeLossy l.outBytes) := by
  refine ⟨?_, w.louder_launchWith, fun _ => World.launch_of_refused, Launch.out_eq⟩
  have switched := Options.parse_insert_switch place mem absent
  unfold World.launch
  generalize Options.parse (before ++ word :: after) = loud at switched ⊢
  generalize Options.parse (before ++ after) = quiet at switched ⊢
  cases switched with
  | carriedOut o => exact w.louder_launchWith o
  | refused e => exact Launch.louder_same e _ _
  | misused first second => exact Launch.louder_misused first second _ _

/-- The program that was asked for is missing. Four debug events come before it is announced. -/
theorem verbose_adds_debug_lines_missing_program :
    let w : World :=
      { environment := {}
        host := { hostname := .ok "box", mounted := fun _ => .ok false }
        executor := { which := fun _ _ => false, start := fun _ _ _ => ⟨.ok ⟨true, some 0⟩, []⟩ }
        input := .bytes []
        readText := fun _ => .ok "[prog a]\nexe = x\n"
        opening := ⟨true, true, true, true⟩ }
    let loud := w.launch ["-f", "links", "-v", "a"]
    let quiet := w.launch ["-f", "links", "a"]
    TakesOption ["-f", "links"] ∧ loud.Louder quiet ∧
      loud.out = "  \x1b[2mquicklinks 0.1.0\x1b[0m\n" ++ "  \x1b[2mparsed 1 entries\x1b[0m\n" ++
        "  \x1b[2mbuilt prog entry 'a': x\x1b[0m\n" ++
        "  \x1b[2mloaded 1 entries from links\x1b[0m\n" ++ quiet.out ∧
      loud.err = "Error: program 'x' not found\n" ∧ quiet.err = loud.err := by
  intro w loud quiet
  have place : TakesOption ["-f", "links"] :=
    { ongoing := by decide
      complete := fun r read => by
        cases read
        nofun }
  have louder : loud.Louder quiet :=
    (@verbose_adds_debug_lines w ["-f", "links"] ["a"] "-v" place (by decide) (by decide)).1
  exact ⟨place, louder, by decide +kernel, by decide +kernel, (louder.err (by decide +kernel)).symm⟩

/-- The file option is given twice, and an unknown option follows. Without the switch that option is
what is wrong; with it the file option is settled before the unknown option is read. The diagnoses
are those of a usual argument reader, without the advice that follows them. -/
theorem verbose_changes_diagnosis :
    let w : World :=
      { environment := {}
        host := { hostname := .ok "box", mounted := fun _ => .ok false }
        executor := { which := fun _ _ => false, start := fun _ _ _ => ⟨.ok ⟨true, some 0⟩, []⟩ }
        input := .bytes []
        readText := fun _ => .ok "[prog a]\nexe = x\n"
        opening := ⟨true, true, true, true⟩
        diagnosis := fun _ e =>
          match e with
          | .unknownArgument => "error: unexpected argument '--bogus' found\n"
          | .argumentConflict =>
            "error: the argument '--file <FILE>' cannot be used multiple times\n"
          | _ => "" }
    let loud := w.launch ["-f", "a", "-f", "b", "-v", "--bogus"]
    let quiet := w.launch ["-f", "a", "-f", "b", "--bogus"]
    TakesOption ["-f", "a", "-f", "b"] ∧
      Options.parse ["-f", "a", "-f", "b", "-v", "--bogus"] = .error .argumentConflict ∧
      Options.parse ["-f", "a", "-f", "b", "--bogus"] = .error .unknownArgument ∧
      loud.err = "error: the argument '--file <FILE>' cannot be used multiple times\n" ∧
      quiet.err = "error: unexpected argument '--bogus' found\n" ∧ loud.err ≠ quiet.err := by
  intro w loud quiet
  have place : TakesOption ["-f", "a", "-f", "b"] :=
    { ongoing := by decide
      complete := fun r read => by
        cases read
        nofun }
  exact ⟨place, rfl, rfl, by decide +kernel, by decide +kernel, by decide +kernel⟩

end Shortcuts
