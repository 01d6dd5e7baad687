import Shortcuts.Proofs.Session.Summary

/-!
# Dry runs

A dry run and a real run of the same session fail alike before they select, or both select the same.
Then the dry run shows what the real one announces, in the same order and whatever becomes of its
programs (`preview_shows_runs`), and does nothing else.
-/

namespace Shortcuts

open Trace

theorem Chronicle.failed_of_dryRun {x : Executor} {past acts : Trace} {configs : List Configuration}
    {fates : List Fate} (h : Chronicle x true past acts configs fates) :
    fates.countP Fate.failed = 0 := by
  induction h with
  | done => rfl
  | next _ _ _ _ _ _ _ _ _ meets _ ih =>
    cases meets with
    | previewed => simpa [Fate.failed] using ih
    | notFound real | started real => cases real

namespace Session

/-- Why a session is over before anything is run. -/
inductive Stops (h : Host) (input : Input) (o : Options) (path : String)
    (content : Except String String) : SessionError → Prop
  | unloaded (e : LoadError) (failed : (load h path content).result = .error e) :
      Stops h input o path content (.load path e)
  | unread (configs : List Configuration) (e : SelectionError)
      (loaded : (load h path content).result = .ok configs) (failed : wordsOf o input = .error e) :
      Stops h input o path content (.selection e)
  | unresolved (configs : List Configuration) (words : List String) (e : SelectionError)
      (loaded : (load h path content).result = .ok configs) (read : wordsOf o input = .ok words)
      (failed : select configs words = .error e) :
      Stops h input o path content (.selection e)

theorem stops_of_refused {h : Host} {input : Input} {o : Options} {path : String}
    {content : Except String String} {configs : List Configuration} {e : SelectionError}
    (loaded : (load h path content).result = .ok configs)
    (refused : (wordsOf o input).bind (select configs) = .error e) :
    Stops h input o path content (.selection e) := by
  cases read : wordsOf o input with
  | error e' =>
    rw [read] at refused
    cases refused
    exact .unread configs e loaded read
  | ok words =>
    rw [read] at refused
    exact .unresolved configs words e loaded read refused

theorem perform_dryRun_result (x : Executor) (location : Option String) (past : Trace)
    (configs : List Configuration) :
    (perform x true { location } past configs).result = .ok () := by
  rcases Nat.lt_or_ge configs.length 2 with few | several
  · match configs, few with
    | [], _ => rfl
    | [c], _ => rfl
  · obtain ⟨fates, told, records⟩ := runEach_chronicle x true past configs
    rw [perform_several x true _ past several]
    dsimp only
    rw [verdict_eq, failures_of_records records told.length_eq, told.failed_of_dryRun]
    rfl

/-- A dry run and a real run fail alike before anything is run, if the configurations cannot be loaded
or the choices cannot be read or resolved. Otherwise the dry run shows the keys and command lines
that the real run announces, each of which stands for the program and the arguments that are then
tried; it calls nothing itself, and succeeds. -/
theorem preview_shows_runs (h : Host) (x : Executor) (input : Input) (o : Options) (path : String)
    (content : Except String String) (location location' : Option String) :
    let dry := run h x input { o with list := false, dryRun := true } path content { location }
    let real := run h x input { o with list := false, dryRun := false } path content
      { location := location' }
    (∃ e, Stops h input o path content e ∧ dry.result = .error e ∧ real.result = .error e ∧
      dry.acts = real.acts ∧ real.acts.Plain) ∨
    ∃ configs words selected fates,
      (load h path content).result = .ok configs ∧ wordsOf o input = .ok words ∧
      select configs words = .ok selected ∧
      dry.acts.announced .dryRun = real.acts.announced .run ∧
      real.acts.announced .run = selected.map (fun c => (c.1.key, c.1.invocation.display)) ∧
      Tells x false [] real.acts (selected.map Prod.fst) fates ∧
      real.acts.handovers = ([], List.zipWith (fun c fate => c.handover fate.found)
        (selected.map Prod.fst) fates) ∧
      dry.acts.calls = [] ∧ dry.result = .ok () := by
  intro dry real
  cases loaded : (load h path content).result with
  | error e =>
    refine .inl ⟨.load path e, .unloaded e loaded, ?_⟩
    simp only [dry, real, run_of_not_loaded loaded, true_and]
    exact opening_plain h path content
  | ok configs =>
    have plain := preface_plain h path content o.choices input configs
    have dryRun : dry = carryOut x true { location } _ configs (wordsOf o input) :=
      run_eq_carryOut loaded rfl
    have realRun : real = carryOut x false { location := location' } _ configs (wordsOf o input) :=
      run_eq_carryOut loaded rfl
    cases chosen : (wordsOf o input).bind (select configs) with
    | error e =>
      refine .inl ⟨.selection e, stops_of_refused loaded chosen, ?_⟩
      simp only [dryRun, realRun, carryOut_of_refused chosen, true_and]
      exact plain
    | ok selected =>
      obtain ⟨words, read, taken⟩ := words_of_chosen chosen
      obtain ⟨_, shown⟩ : ∃ fates, Tells x true [] dry.acts (selected.map Prod.fst) fates :=
        run_tells loaded rfl read taken
      obtain ⟨fates, told⟩ : ∃ fates, Tells x false [] real.acts (selected.map Prod.fst) fates :=
        run_tells loaded rfl read taken
      have heard := told.announced
      rw [List.map_map] at heard
      refine .inr ⟨configs, words, selected, fates, rfl, read, taken,
        shown.announced.trans told.announced.symm, heard, told, told.handovers,
        shown.calls_of_dryRun, ?_⟩
      rw [dryRun, read, carryOut_of_chosen taken]
      exact perform_dryRun_result ..

end Session

end Shortcuts
