import Shortcuts.Proofs.Launch.NamedLog
import Shortcuts.Proofs.Machine.Opening
import Shortcuts.Proofs.Machine.Replay

/-!
# The log file on a machine

The log file is a file of the machine. Up to the first program that is started it grows by one line
an event, and no other file changes (`Logging.after`). What is logged does not change where a
program is found (`Kept.finds`), and a session that runs nothing leaves behind its log and nothing
else (`idle_session_logs`).
-/

namespace Shortcuts.Machine

open Text

/-! ## The log -/

/-- The log is open, and the file of this number holds what was logged after what it held. -/
structure Logging (m : Machine) (log : Log) (number : Nat) (held : Octets) : Prop where
  opened : m.log = some log
  opening : ∃ o, m.system.openings[log.opening]? = some o ∧ o.file = number ∧ o.appending = true
  file : Holds m.system.files number held

/-- Two machines with the same paths and the same files, but for what the file of one number
holds. -/
structure Kept (number : Nat) (m m' : Machine) : Prop where
  directory : m'.directory = m.directory
  environment : m'.environment = m.environment
  input : m'.input = m.input
  entries : m'.system.files.entries = m.system.files.entries
  modes : ∀ k, (m'.system.files.file? k).map File.mode = (m.system.files.file? k).map File.mode
  others : ∀ k, k ≠ number → m'.system.files.file? k = m.system.files.file? k

variable {m m' m'' : Machine} {number : Nat} {log : Log} {held : Octets}

theorem Kept.refl (number : Nat) (m : Machine) : Kept number m m :=
  ⟨rfl, rfl, rfl, rfl, fun _ => rfl, fun _ _ => rfl⟩

theorem Kept.trans (first : Kept number m m') (next : Kept number m' m'') :
    Kept number m m'' where
  directory := next.directory.trans first.directory
  environment := next.environment.trans first.environment
  input := next.input.trans first.input
  entries := next.entries.trans first.entries
  modes k := (next.modes k).trans (first.modes k)
  others k other := (next.others k other).trans (first.others k other)

/-- No act is the start of a program. -/
def Startless (t : Trace) : Prop := ∀ program args, .call (.start program args) ∉ t

theorem startless_of_quiet {t : Trace} (quiet : t.Quiet) : Startless t := by
  intro program args mem
  have called : Call.start program args ∈ t.calls := List.mem_filterMap.mpr ⟨_, mem, rfl⟩
  rw [quiet] at called
  cases called

theorem kept_seek (number : Nat) (m : Machine) (k : Nat) (move : Nat → Nat) :
    Kept number m { m with system := m.system.seek k move } :=
  ⟨rfl, rfl, rfl, rfl, fun _ => rfl, fun _ _ => rfl⟩

theorem Logging.seek (h : Logging m log number held) (k : Nat) (move : Nat → Nat) :
    Logging { m with system := m.system.seek k move } log number held where
  opened := h.opened
  opening := by
    obtain ⟨o, opened, file, appending⟩ := h.opening
    rw [System.openings_seek, opened]
    split
    · exact ⟨_, rfl, file, appending⟩
    · exact ⟨o, rfl, file, appending⟩
  file := h.file

/-- A text that is logged is put after what the file holds. -/
theorem Logging.writeLog_eq (h : Logging m log number held) (text : String) :
    m.writeLog text = { m with
      system := { m.system with
        files := m.system.files.setContent number (held ++ octets text) }.seek log.opening fun _ =>
          held.length + (octets text).length } := by
  obtain ⟨o, opened, rfl, appending⟩ := h.opening
  unfold Machine.writeLog
  split
  · rename_i none
    cases h.opened.symm.trans none
  · rename_i some
    obtain rfl := Option.some.inj (h.opened.symm.trans some)
    rw [System.write_appending opened appending h.file]

theorem kept_writeLog (h : Logging m log number held) (text : String) :
    Kept number m (m.writeLog text) := by
  rw [h.writeLog_eq]
  exact {
    directory := rfl
    environment := rfl
    input := rfl
    entries := rfl
    modes := Files.mode_setContent _ _ _
    others := fun k other => (Files.file?_setContent ..).trans (if_neg other.symm) }

theorem Logging.writeLog (h : Logging m log number held) (text : String) :
    Logging (m.writeLog text) log number (held ++ octets text) := by
  have longer : Logging
      { m with system := { m.system with
          files := m.system.files.setContent number (held ++ octets text) } }
      log number (held ++ octets text) :=
    ⟨h.opened, h.opening, h.file.setContent _⟩
  rw [h.writeLog_eq]
  exact longer.seek _ _

/-- One act that starts no program: the log grows by what is logged of it. -/
theorem Logging.afterAct (h : Logging m log number held) {a : Act}
    (startless : ∀ program args, a ≠ .call (.start program args)) :
    Logging (m.afterAct a) log number (held ++ octets (a.logged log.time)) ∧
      Kept number m (m.afterAct a) := by
  have nothing : held ++ octets "" = held := List.append_nil held
  cases a with
  | event e =>
    simp only [Machine.afterAct, h.opened]
    exact ⟨h.writeLog _, kept_writeLog h _⟩
  | took count =>
    have same : Logging (m.afterAct (.took count)) log number held := h.seek _ _
    exact ⟨nothing.symm ▸ same, kept_seek number m _ _⟩
  | call c =>
    cases c with
    | which => exact ⟨nothing.symm ▸ h, .refl number m⟩
    | start program args => exact absurd rfl (startless program args)
  | query | print | output => exact ⟨nothing.symm ▸ h, .refl number m⟩

theorem log_cons (time : String) (a : Act) (t : Trace) :
    Trace.log time (a :: t) = a.logged time ++ Trace.log time t := by
  apply String.toList_inj.mp
  simp only [Trace.log, String.toList_append, String.toList_join, List.map_cons,
    List.flatMap_cons]

/-- Acts that start no program, one after the other. -/
theorem Logging.after (h : Logging m log number held) {t : Trace} (startless : Startless t) :
    Logging (m.after t) log number (held ++ octets (t.log log.time)) ∧
      Kept number m (m.after t) := by
  induction t generalizing m held with
  | nil =>
    have nothing : held ++ octets (Trace.log log.time []) = held := List.append_nil held
    exact ⟨nothing.symm ▸ h, .refl number m⟩
  | cons a t ih =>
    have first : ∀ program args, a ≠ .call (.start program args) := by
      rintro program args rfl
      exact startless program args List.mem_cons_self
    have others : Startless t := fun program args mem =>
      startless program args (List.mem_cons_of_mem _ mem)
    obtain ⟨logged, kept⟩ := h.afterAct first
    obtain ⟨later, kept'⟩ := ih logged others
    rw [log_cons, octets_append, ← List.append_assoc]
    exact ⟨later, kept.trans kept'⟩

/-! ## Opening the log -/

theorem Logging.withFiles (h : Logging m log number held) {files : Files}
    (same : files.files = m.system.files.files) :
    Logging (m.withFiles files) log number held where
  opened := h.opened
  opening := h.opening
  file := by
    obtain ⟨file, found, data⟩ := h.file
    exact ⟨file, (congrArg (·[number]?) same).trans found, data⟩

theorem Logging.makeDirectory (h : Logging m log number held) (path : Option String) :
    Logging (m.makeDirectory path).2 log number held := by
  cases path with
  | none => exact h
  | some path => exact h.withFiles (Files.files_makeDirectories ..)

theorem logging_openFile {path : String} (leads : m.LeadsTo path number)
    (holds : Holds m.system.files number held) (time : String) :
    ∃ k m', m.openFile (some path) .append = some (k, m') ∧
      Logging { m' with log := some ⟨k, time⟩ } ⟨k, time⟩ number held := by
  have opened := leads m.system.files rfl .append (by decide)
  have place := System.openings_openNumber m.system number .append
  have result : m.openFile (some path) .append =
      some ((m.system.openNumber number .append).1,
        { m with system := (m.system.openNumber number .append).2 }) := by
    simp only [Machine.openFile, System.openPath_of_holds opened holds]
  exact ⟨_, _, result, rfl, ⟨_, place, rfl, rfl⟩, holds⟩

/-- A log that can be written is opened after its header. -/
theorem openLog_of_writable {env : Environment} {command path : String}
    (place : env.logPath? command = some path)
    (made : (m.makeDirectory env.logDirectory?).1 = true)
    (writable : (m.makeDirectory env.logDirectory?).2.Writable path number)
    (header time : String) :
    ∃ log, log.time = time ∧
      Logging (m.openLog env command header time).2 log number (octets header) ∧
      (m.openLog env command header time).1.file? env command = some path := by
  obtain ⟨system, written, holds, leads⟩ := writeText_of_writable writable header
  obtain ⟨k, m', opened, logging⟩ := logging_openFile leads holds time
  have directory := logging.makeDirectory env.logDirectory?
  refine ⟨⟨k, time⟩, rfl, ?_, ?_⟩
  · simpa only [openLog, made, place, written, opened, if_true] using directory
  · simp only [openLog, made, place, written, opened, if_true, LogOpening.file?, Bool.and_self]

/-! ## Look-ups -/

theorem isOk_programAt (f : Files) (cwd : Location) (path : Octets) :
    (programAt f cwd path).isOk =
      match f.locate cwd path true with
      | .ok l => (f.fileAt? l).any File.isProgram
      | .error _ => false := by
  unfold programAt
  cases f.locate cwd path true with
  | error e => rfl
  | ok l =>
    cases found : f.fileAt? l with
    | none => simp [found, Except.isOk, Except.toBool]
    | some file =>
      cases executable : file.isProgram <;> simp [found, executable, Except.isOk, Except.toBool]

theorem Kept.isProgram (h : Kept number m m') (l : Location) :
    (m'.system.files.fileAt? l).any File.isProgram =
      (m.system.files.fileAt? l).any File.isProgram := by
  have byMode (file : Option File) :
      file.any File.isProgram = (file.map File.mode).any fun mode => mode &&& 0o111 != 0 := by
    cases file <;> rfl
  have entry : m'.system.files.entry? l = m.system.files.entry? l := by
    simp only [ Files.entry?, h.entries]
  unfold Files.fileAt?
  rw [entry]
  split
  · rw [byMode, byMode, h.modes]
  · rfl

/-- What is logged does not change where a program is found. -/
theorem Kept.finds (h : Kept number m m') (program : String) :
    m'.finds program = m.finds program := by
  have places : m'.places (octets program) = m.places (octets program) := by
    simp only [Machine.places, h.environment]
  have found (path : Octets) :
      (programAt m'.system.files m'.directory path).isOk =
        (programAt m.system.files m.directory path).isOk := by
    simp only [isOk_programAt, h.directory, Files.locate_eq h.entries, h.isProgram]
  have asked (m : Machine) :
      m.finds program = (m.places (octets program)).any fun path =>
        (programAt m.system.files m.directory path).isOk := by
    unfold Machine.finds
    congr 1
    funext path
    cases programAt m.system.files m.directory path <;> rfl
  simp only [asked, places, found]

/-! ## Sessions -/

open Session in
/-- A session that runs nothing leaves the machine as it was but for the log, which holds a line of
every event more. -/
theorem idle_session_logs (h : Logging m log number held) {host : Host} {input : Input}
    {o : Options} {path : String} {content : Except String String} (j : Journal)
    (idle : Idle host input o path content) :
    let acts := (run host m.executor input o path content j).acts
    Logging (m.after acts) log number (held ++ octets (acts.log log.time)) ∧
      Kept number m (m.after acts) :=
  h.after (startless_of_quiet (quiet_run_of_idle idle))

/-- The log file that a launch accounts for is what the file of the machine holds, if no program was
started that could write to it too. -/
theorem launch_log {env : Environment} {stamp time path : String} {args : List String} {o : Options}
    (parsed : Options.parse args = .ok o) (place : env.logPath? command = some path)
    (made : (m.makeDirectory env.logDirectory?).1 = true)
    (writable : (m.makeDirectory env.logDirectory?).2.Writable path number)
    (startless : Startless (m.launch env stamp time args).1.acts) :
    ∃ text, (m.launch env stamp time args).1.log? stamp time = some (path, text) ∧
      Holds (m.launch env stamp time args).2.system.files number (octets text) := by
  obtain ⟨log, rfl, logging, opened⟩ := openLog_of_writable place made writable (logHeader stamp) time
  generalize atStart : m.openLog env command (logHeader stamp) log.time = start at logging opened
  have launched : m.launch env stamp log.time args =
      let done := (start.2.world env o start.1).launchWith o
      (done, start.2.after done.acts) := by
    simp only [launch, parsed, atStart]
  rw [launched] at startless ⊢
  dsimp only at startless ⊢
  refine ⟨logHeader stamp ++ ((start.2.world env o start.1).launchWith o).acts.log log.time, ?_, ?_⟩
  · rw [World.log?_launchWith]
    exact congrArg (Option.map _) opened
  · rw [octets_append]
    exact (logging.after startless).1.file

/-- A dry run starts no program. -/
theorem startless_of_dryRun (w : World) {o : Options} (dryRun : o.dryRun = true) :
    Startless (w.launchWith o).acts := by
  apply startless_of_quiet
  change (w.session o w.journal).acts.Quiet
  unfold World.session
  split
  · rfl
  · exact Session.quiet_run_of_idle (.dryRun dryRun)

/-- Up to its first start, a session looks programs up as if it had logged nothing. -/
theorem which_of_startless (h : Logging m log number held) {past : Trace}
    (startless : Startless past) (program : String) :
    m.executor.which past program = m.finds program :=
  (h.after startless).2.finds program

end Shortcuts.Machine
