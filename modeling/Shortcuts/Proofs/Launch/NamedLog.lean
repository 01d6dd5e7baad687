import Shortcuts.Launch.Basic
import Shortcuts.Proofs.Session.Emitted

/-!
# The log file that the summary names

The summary names the place where the log file belongs, and the directory of that place was made once
more for it. Nobody asks whether the file itself was written: a run that names it was logged there
exactly if its header was written and it was opened for appending (`named_log_written_iff`).
-/

namespace Shortcuts

/-- The summary of the launch names this file. -/
def Launch.Names (l : Launch) (path : String) : Prop := .event (.info ("log: " ++ path)) ∈ l.acts

/-- The directory is made, and the log file in it is headed and opened. -/
structure LogOpening.Succeeds (o : LogOpening) : Prop where
  directory : o.directory = true
  header : o.header = true
  appending : o.appending = true

theorem LogOpening.file?_of_succeeds {o : LogOpening} (opened : o.Succeeds) (env : Environment)
    (command : String) : o.file? env command = env.logPath? command := by
  obtain ⟨directory, header, appending⟩ := opened
  simp [file?, directory, header, appending]

theorem LogOpening.file?_of_not_succeeds {o : LogOpening} (failed : ¬o.Succeeds) (env : Environment)
    (command : String) : o.file? env command = none := by
  apply if_neg
  intro all
  simp only [Bool.and_eq_true] at all
  exact failed ⟨all.1.1, all.1.2, all.2⟩

theorem LogOpening.location?_eq_some_iff {o : LogOpening} {env : Environment}
    {command path : String} :
    o.location? env command = some path ↔
      o.directoryAgain = true ∧ env.logPath? command = some path := by
  unfold location?
  cases o.directoryAgain <;> simp

/-! ## What names a log file -/

theorem info_log_injective {p q : String} (same : Event.info ("log: " ++ p) = .info ("log: " ++ q)) :
    p = q := by
  have texts := congrArg (fun e => e.fields.message.toList) same
  simp only [Event.info, Event.plain, String.toList_append] at texts
  exact String.toList_inj.mp (List.append_cancel_left texts)

namespace Session

variable {given : Configuration → Prop} {x : Executor} {path : String} {j : Journal}

/-- Of the events of a session only the last one of a summary is a plain message for the user. -/
theorem Emits.mem_summary {e : Event} (emitted : Emits given x path j e) (level : e.level = .info)
    (topic : e.topic = .general) : .event e ∈ j.summary := by
  cases emitted with
  | greeting | parsed | built | loaded | duplicate | nothing | failure => cases level
  | notice c hc dryRun => cases dryRun <;> cases topic
  | summary e mem => exact mem

theorem Accounted.location_of_named {o : Outcome} (told : Accounted given x path j o)
    {named : String} (mem : .event (.info ("log: " ++ named)) ∈ o.acts) :
    j.location = some named := by
  have shown := (told.emits _ mem _ rfl).mem_summary rfl rfl
  obtain title | ⟨r, -, outcome⟩ | totals | ⟨place, here, same⟩ := Journal.cases_of_mem_summary shown
  · cases congrArg Event.topic title
  · cases congrArg Event.topic outcome
  · cases congrArg Event.topic totals
  · rw [← told.location, here, info_log_injective same]

end Session

/-! ## Launches -/

variable {w : World} {args : List String} {path : String}

theorem World.location_of_named {o : Options}
    (named : .event (.info ("log: " ++ path)) ∈ (w.session o w.journal).acts) :
    w.opening.location? w.environment command = some path := by
  unfold session at named
  split at named
  · cases named
  · exact (Session.run_accounted ..).location_of_named named

theorem World.log?_launchWith (w : World) (o : Options) (stamp time : String) :
    (w.launchWith o).log? stamp time =
      (w.opening.file? w.environment command).map fun path =>
        (path, logHeader stamp ++ (w.launchWith o).acts.log time) := by
  unfold launchWith
  cases w.opening.file? w.environment command <;> rfl

/-- The summary names a file only if the environment gives its place and the directory was made for
it once more. The log file then holds a header and this launch's events if nothing failed when it
was opened. Otherwise nothing is logged anywhere, and the summary names the file all the same. -/
theorem named_log_written_iff (named : (w.launch args).Names path) (stamp time : String) :
    w.environment.logPath? command = some path ∧ w.opening.directoryAgain = true ∧
    ((w.launch args).log? stamp time =
      some (path, logHeader stamp ++ (w.launch args).acts.log time) ↔ w.opening.Succeeds) ∧
    ((w.launch args).log? stamp time = none ↔ ¬w.opening.Succeeds) := by
  unfold World.launch at named ⊢
  split at named
  · cases named
  · rename_i o parsed
    obtain ⟨again, place⟩ := LogOpening.location?_eq_some_iff.mp (World.location_of_named named)
    simp only [World.log?_launchWith]
    by_cases opened : w.opening.Succeeds
    · simp [LogOpening.file?_of_succeeds opened, place, again, opened]
    · simp [LogOpening.file?_of_not_succeeds opened, place, again, opened]

/-- A dry run of two programs, with a log file in the home directory. -/
theorem named_log_written_at_home :
    let w : World :=
      { environment := { home := some "/root", cacheHome := some "" }
        host := { hostname := .ok "box", mounted := fun _ => .ok false }
        executor := { which := fun _ _ => false, start := fun _ _ _ => ⟨.ok ⟨true, some 0⟩, []⟩ }
        input := .bytes []
        readText := fun _ => .ok "[prog a]\nexe = x\n[prog b]\nexe = y\n"
        opening := ⟨true, true, true, true⟩ }
    let l := w.launch ["-d", "-f", "links", "all"]
    l.Names "/root/.cache/quicklinks/quicklinks.log" ∧
      l.log? "today" "now" =
        some ("/root/.cache/quicklinks/quicklinks.log", logHeader "today" ++ l.acts.log "now") := by
  intro w l
  have named : l.Names "/root/.cache/quicklinks/quicklinks.log" := by
    unfold Launch.Names
    decide +kernel
  exact ⟨named, (named_log_written_iff named "today" "now").2.2.1.mpr ⟨rfl, rfl, rfl⟩⟩

/-- Where the header cannot be written nothing is logged, and the summary still names the file. -/
theorem named_log_not_written :
    let w : World :=
      { environment := { home := some "/root", cacheHome := some "" }
        host := { hostname := .ok "box", mounted := fun _ => .ok false }
        executor := { which := fun _ _ => false, start := fun _ _ _ => ⟨.ok ⟨true, some 0⟩, []⟩ }
        input := .bytes []
        readText := fun _ => .ok "[prog a]\nexe = x\n[prog b]\nexe = y\n"
        opening := ⟨true, false, true, true⟩ }
    let l := w.launch ["-d", "-f", "links", "all"]
    l.Names "/root/.cache/quicklinks/quicklinks.log" ∧ ∀ stamp time, l.log? stamp time = none := by
  intro w l
  have named : l.Names "/root/.cache/quicklinks/quicklinks.log" := by
    unfold Launch.Names
    decide +kernel
  refine ⟨named, fun stamp time => ?_⟩
  have carriedOut : l = w.launchWith
      { dryRun := true, file := some "links", choices := ["all"] } := by
    have parsed : Options.parse ["-d", "-f", "links", "all"] =
        .ok { dryRun := true, file := some "links", choices := ["all"] } := by decide +kernel
    change w.launch _ = _
    rw [World.launch, parsed]
  rw [carriedOut, World.log?_launchWith]
  rfl

end Shortcuts
