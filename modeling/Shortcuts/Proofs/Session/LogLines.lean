import Shortcuts.Proofs.Event.Recording
import Shortcuts.Proofs.Session.Emitted
import Shortcuts.Proofs.Text.Splitting

/-!
# One event, one line of the log

Whatever a file holds, no event of a session has a newline in its line of the log. So the log grows
by one line an event, in the order of the events (`session_logged_by_line`), and nothing from a file
starts a line of its own.
-/

namespace Shortcuts

open Text

/-- No error of a program that does not start has a newline in its text. -/
def Executor.FailsOnOneLine (x : Executor) : Prop :=
  ∀ past program args f, (x.start past program args).result = .error f → OneLine f.full

structure Record.OnOneLine (r : Record) : Prop where
  key : OneLine r.key
  message : ∀ m, r.message = some m → OneLine m

structure Journal.OnOneLine (j : Journal) : Prop where
  records : ∀ r ∈ j.records, r.OnOneLine
  location : ∀ path, j.location = some path → OneLine path

/-! ## Lines of events -/

section Events

variable {x : Executor} {c : Configuration}

theorem RunError.Arises.oneLine (hx : x.FailsOnOneLine) (hc : c.OnOneLine) {e : RunError}
    (arises : e.Arises x c) : OneLine e.toFailure.full := by
  cases arises with
  | notFound =>
    have program : OneLine c.invocation.program := hc.invocation _ List.mem_cons_self
    simp only [RunError.toFailure, Failure.full, List.foldl_nil, oneLine_append]
    exact ⟨⟨by decide, program⟩, by decide⟩
  | failed code =>
    simp only [RunError.toFailure, Failure.full, List.foldl_nil, oneLine_append,
      oneLine_toString_int]
    exact ⟨⟨⟨⟨by decide, hc.key⟩, by decide⟩, trivial⟩, by decide⟩
  | notStarted past failure answer => exact hx past _ _ failure answer

theorem Record.Reports.onOneLine (hx : x.FailsOnOneLine) (hc : c.OnOneLine) {r : Record}
    (reports : r.Reports x c) : r.OnOneLine where
  key := reports.key ▸ hc.key
  message m told := by
    obtain ⟨e, arises, rfl⟩ := reports.message m told
    exact arises.oneLine hx hc

/-- What the log gets of the event is one line. -/
structure Event.OnOneLine (e : Event) : Prop where
  inLog : e.level.inLog = true
  line : OneLine e.logLine

namespace Event

theorem onOneLine_recorded {level : Level} (shown : level.inLog = true) (topic : Topic)
    {values : List (FieldName × FieldValue)}
    (texts : ∀ name s, (name, FieldValue.text s) ∈ values → OneLine s) :
    (recorded level topic values).OnOneLine :=
  ⟨shown, oneLine_recorded level topic texts⟩

theorem onOneLine_plain {level : Level} (shown : level.inLog = true) {message : String}
    (h : OneLine message) : (plain level message).OnOneLine := by
  rw [plain_eq_recorded]
  apply onOneLine_recorded shown
  simpa using h

theorem onOneLine_stage {message : String} (h : OneLine message) : (stage message).OnOneLine := by
  rw [stage_eq_recorded]
  apply onOneLine_recorded rfl
  simpa using h

theorem onOneLine_outcome {key status detail : String} (hk : OneLine key) (hs : OneLine status)
    (hd : OneLine detail) : (outcome key status detail).OnOneLine := by
  rw [outcome_eq_recorded]
  apply onOneLine_recorded rfl
  simp only [List.mem_cons, Prod.mk.injEq, FieldValue.text.injEq, List.not_mem_nil, or_false]
  rintro name s (⟨-, rfl⟩ | ⟨-, rfl⟩ | ⟨-, rfl⟩ | ⟨-, rfl⟩)
  all_goals assumption

/-- The counts are no texts. -/
theorem onOneLine_totals (ok dryRun failed : Nat) : (totals ok dryRun failed).OnOneLine := by
  rw [totals_eq_recorded]
  apply onOneLine_recorded rfl
  have total : OneLine (toString (ok + dryRun + failed) ++ " runs") :=
    oneLine_append.mpr ⟨oneLine_toString _, by decide⟩
  simpa using total

end Event

theorem Configuration.OnOneLine.notice {c : Configuration} (hc : c.OnOneLine) (dryRun : Bool) :
    (c.notice dryRun).OnOneLine := by
  have line := hc.invocation.display
  have texts : ∀ name s, (name, FieldValue.text s) ∈
      [(FieldName.message, FieldValue.text c.key), (.key, .text c.key),
        (.invocation, .text c.invocation.display)] → OneLine s := by
    simp only [List.mem_cons, Prod.mk.injEq, FieldValue.text.injEq, List.not_mem_nil, or_false]
    rintro name s (⟨-, rfl⟩ | ⟨-, rfl⟩ | ⟨-, rfl⟩)
    · exact hc.key
    · exact hc.key
    · exact line
  cases dryRun with
  | true => exact Event.onOneLine_recorded rfl .dryRun texts
  | false => exact Event.onOneLine_recorded rfl .run texts

theorem Configuration.OnOneLine.built {c : Configuration} (hc : c.OnOneLine) :
    c.built.OnOneLine := by
  apply Event.onOneLine_plain rfl
  simp only [oneLine_append]
  exact ⟨⟨⟨⟨⟨by decide, hc.kind⟩, by decide⟩, hc.key⟩, by decide⟩, hc.invocation.display⟩

theorem Journal.OnOneLine.summary {j : Journal} (hj : j.OnOneLine) {e : Event}
    (mem : .event e ∈ j.summary) : e.OnOneLine := by
  obtain rfl | ⟨r, hr, rfl⟩ | rfl | ⟨path, named, rfl⟩ := Journal.cases_of_mem_summary mem
  · exact Event.onOneLine_stage (by decide)
  · obtain ⟨key, message⟩ := hj.records r hr
    apply Event.onOneLine_outcome key
    · cases r.status <;> decide
    · cases told : r.message with
      | none => decide
      | some m => exact message m told
  · exact Event.onOneLine_totals ..
  · exact Event.onOneLine_plain rfl (oneLine_append.mpr ⟨by decide, hj.location path named⟩)

end Events

/-! ## Timed acts -/

/-- What an event adds to the log at a time of day, without its newline. -/
def Event.stamped (time : String) (e : Event) : String := "[" ++ time ++ "] " ++ e.logLine

/-- Acts, each with the time of day at which it happened. -/
abbrev Timed := List (String × Act)

namespace Timed

def acts (t : Timed) : Trace := t.map Prod.snd

def log (t : Timed) : String := String.join (t.map fun p => p.2.logged p.1)

/-- One line an event, in their order. -/
def lines (t : Timed) : List String :=
  t.filterMap fun p => p.2.event?.map fun e => e.stamped p.1

theorem acts_map_mk (time : String) (t : Trace) : acts (t.map (Prod.mk time)) = t := by
  rw [acts, List.map_map]
  exact List.map_id t

/-- A log with one time of day throughout. -/
theorem log_map_mk (time : String) (t : Trace) : log (t.map (Prod.mk time)) = t.log time := by
  rw [log, Trace.log, List.map_map]
  rfl

theorem toList_log {t : Timed} (shown : ∀ e ∈ t.acts.events, e.OnOneLine) :
    t.log.toList = unlines (t.lines.map String.toList) := by
  induction t with
  | nil => rfl
  | cons p t ih =>
    obtain ⟨time, a⟩ := p
    have log_cons : (log ((time, a) :: t)).toList = (a.logged time).toList ++ (log t).toList := by
      simp only [log, String.toList_join, List.map_cons, List.flatMap_cons]
    rw [log_cons]
    cases a with
    | event e =>
      obtain ⟨first, others⟩ := List.forall_mem_cons.mp shown
      have logged : (Act.event e).logged time = e.stamped time ++ "\n" := if_pos first.inLog
      have lines_cons : lines ((time, .event e) :: t) = e.stamped time :: lines t := rfl
      rw [logged, lines_cons, ih others, String.toList_append]
      rfl
    | query | call | print | output | took => exact ih shown

theorem oneLine_of_mem_lines {t : Timed} (times : ∀ p ∈ t, OneLine p.1)
    (shown : ∀ e ∈ t.acts.events, e.OnOneLine) : ∀ line ∈ t.lines, OneLine line := by
  intro line mem
  obtain ⟨p, hp, stamped⟩ := List.mem_filterMap.mp mem
  obtain ⟨e, emitted, rfl⟩ := Option.map_eq_some_iff.mp stamped
  have he : e ∈ t.acts.events := List.mem_filterMap.mpr ⟨p.2, List.mem_map_of_mem hp, emitted⟩
  simp only [Event.stamped, oneLine_append]
  exact ⟨⟨⟨by decide, times p hp⟩, by decide⟩, (shown e he).line⟩

theorem pieces_log {t : Timed} (times : ∀ p ∈ t, OneLine p.1)
    (shown : ∀ e ∈ t.acts.events, e.OnOneLine) :
    pieces '\n' t.log.toList = t.lines.map String.toList ++ [[]] := by
  rw [toList_log shown]
  apply pieces_unlines
  exact List.forall_mem_map.mpr (oneLine_of_mem_lines times shown)

end Timed

namespace Session

variable {given : Configuration → Prop} {x : Executor} {path : String} {j : Journal}

theorem Given.onOneLine {h : Host} {content : Except String String} {c : Configuration}
    (hc : Given h content c) : c.OnOneLine := by
  obtain ⟨text, entries, e, -, read, he, built⟩ := hc
  exact built.onOneLine (Grammar.wellFormed_of_parse read e he)

theorem Emits.onOneLine (hc : ∀ c, given c → c.OnOneLine) (hx : x.FailsOnOneLine)
    (hp : OneLine path) (hj : j.OnOneLine) {e : Event} (emitted : Emits given x path j e) :
    e.OnOneLine := by
  cases emitted with
  | greeting => exact Event.onOneLine_plain rfl (by decide)
  | parsed n =>
    apply Event.onOneLine_plain rfl
    simp only [oneLine_append, oneLine_toString]
    decide
  | built c g => exact (hc c g).built
  | loaded n =>
    apply Event.onOneLine_plain rfl
    simp only [oneLine_append, oneLine_toString]
    exact ⟨⟨⟨by decide, trivial⟩, by decide⟩, hp⟩
  | duplicate c g =>
    apply Event.onOneLine_plain rfl
    simp only [oneLine_append]
    exact ⟨⟨by decide, (hc c g).key⟩, oneLine_ofList.mpr (by decide)⟩
  | nothing => exact Event.onOneLine_plain rfl (by decide)
  | notice c g dryRun => exact (hc c g).notice dryRun
  | failure c g e arises => exact Event.onOneLine_plain rfl (arises.oneLine hx (hc c g))
  | summary e mem => exact hj.summary mem

/-- A summary shows the journal at the end of the session, which has no newline either. -/
theorem run_onOneLine (h : Host) {x : Executor} (hx : x.FailsOnOneLine) (input : Input)
    (o : Options) (hp : OneLine path) (content : Except String String) (hj : j.OnOneLine) :
    (∀ e ∈ (run h x input o path content j).acts.events, e.OnOneLine) ∧
      (run h x input o path content j).journal.OnOneLine := by
  have told := run_accounted h x input o path content j
  have left : (run h x input o path content j).journal.OnOneLine := by
    constructor
    case records =>
      intro r hr
      rcases told.records r hr with kept | ⟨c, hc, reports⟩
      · exact hj.records r kept
      · exact reports.onOneLine hx hc.onOneLine
    case location =>
      rw [told.location]
      exact hj.location
  refine ⟨?_, left⟩
  intro e he
  have emitted := told.emits _ (Trace.mem_events_iff.mp he) e rfl
  exact emitted.onOneLine (fun c hc => hc.onOneLine) hx hp left

/-- Whatever the file, the host, the input and the choices are, every event of the session is put in
the log as one line. At whatever times the acts happen, a log file that held some lines before holds
them and after them one line an event, in the order of the events. -/
theorem session_logged_by_line (h : Host) {x : Executor} (hx : x.FailsOnOneLine) (input : Input)
    (o : Options) (hp : OneLine path) (content : Except String String) (hj : j.OnOneLine) :
    let s := run h x input o path content j
    (∀ e ∈ s.acts.events, e.level.inLog = true ∧ OneLine e.logLine) ∧
    (∀ (timed : Timed) (held : List Char), timed.acts = s.acts → (∀ p ∈ timed, OneLine p.1) →
      pieces '\n' (held ++ '\n' :: timed.log.toList) =
        pieces '\n' held ++ timed.lines.map String.toList ++ [[]]) ∧
    s.journal.OnOneLine := by
  intro s
  obtain ⟨shown, left⟩ := run_onOneLine h hx input o hp content hj
  refine ⟨fun e he => ⟨(shown e he).inLog, (shown e he).line⟩, ?_, left⟩
  intro timed held same times
  rw [pieces_around, Timed.pieces_log times (same ▸ shown), List.append_assoc]

/-- A program that is refused, one that is missing, and texts that look like a line of a log. -/
theorem session_logged_by_line_failed_runs :
    let text := "[prog [12:00:00]]\nexe = a b\n[rsync b]\nsrc = [dry run]\ndst = it's\n"
    let h : Host := { hostname := .ok "box", mounted := fun _ => .ok false }
    let x : Executor :=
      { which := fun _ program => program != "/usr/bin/rsync"
        start := fun _ _ _ => ⟨.error ⟨"can't start", ["refused"]⟩, []⟩ }
    let o : Options := { choices := ["1", "b"] }
    let j : Journal := { location := some "/log" }
    let s := run h x (.bytes []) o "links" (.ok text) j
    x.FailsOnOneLine ∧ OneLine "links" ∧ j.OnOneLine ∧
    pieces '\n' ("# header".toList ++ '\n' :: (s.acts.log "12:00:00").toList) =
      pieces '\n' "# header".toList ++
        ["[12:00:00]     [debug] quicklinks 0.1.0",
          "[12:00:00]     [debug] parsed 2 entries",
          "[12:00:00]     [debug] built prog entry '[12:00:00]': 'a b'",
          "[12:00:00]     [debug] built rsync entry 'b': /usr/bin/rsync '[dry run]' 'it'\\''s'",
          "[12:00:00]     [debug] loaded 2 entries from links",
          "[12:00:00] ==> [12:00:00]: 'a b'",
          "[12:00:00]     [error] can't start: refused",
          "[12:00:00] ==> b: /usr/bin/rsync '[dry run]' 'it'\\''s'",
          "[12:00:00]     [error] program '/usr/bin/rsync' not found",
          "[12:00:00] ==> Summary",
          "[12:00:00]     failed [12:00:00] (can't start: refused)",
          "[12:00:00]     failed b (program '/usr/bin/rsync' not found)",
          "[12:00:00]     2 runs: 0 ok, 0 dry-run, 2 failed",
          "[12:00:00]     log: /log"].map String.toList ++ [[]] := by
  intro text h x o j s
  have hx : x.FailsOnOneLine := by
    intro past program args f failed
    obtain rfl := Except.error.inj failed
    decide
  have links : OneLine "links" := by decide
  have journal : j.OnOneLine := by
    refine ⟨List.forall_mem_nil _, ?_⟩
    intro path named
    obtain rfl := Option.some.inj named
    decide
  have time : OneLine "12:00:00" := by decide
  let timed : Timed := s.acts.map (Prod.mk "12:00:00")
  have times : ∀ p ∈ timed, OneLine p.1 := List.forall_mem_map.mpr fun _ _ => time
  obtain ⟨-, grown, -⟩ := session_logged_by_line h hx (.bytes []) o links (.ok text) journal
  refine ⟨hx, links, journal, ?_⟩
  rw [← Timed.log_map_mk, grown timed _ (Timed.acts_map_mk _ _) times]
  apply congrArg (_ ++ List.map String.toList · ++ [[]])
  decide +kernel

end Session

end Shortcuts
