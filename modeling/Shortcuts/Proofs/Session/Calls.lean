import Shortcuts.Proofs.Selection.Refusal
import Shortcuts.Proofs.Session.Chronicle

/-!
# Calls of a session

A session calls the executor for what was selected and for nothing else. `Idle` lists why a session
may have nothing to run; a session that is not idle runs its whole selection
(`session_runs_selection`).
-/

namespace Shortcuts

open Trace

namespace Session

/-- Why a session runs nothing. -/
inductive Idle (h : Host) (input : Input) (o : Options) (path : String)
    (content : Except String String) : Prop
  | notLoaded (e : LoadError) (failed : (load h path content).result = .error e)
  | listed (list : o.list = true)
  | dryRun (dryRun : o.dryRun = true)
  | unread (e : SelectionError) (failed : wordsOf o input = .error e)
  | unmet (configs : List Configuration) (words : List String)
      (loaded : (load h path content).result = .ok configs) (read : wordsOf o input = .ok words)
      (unmet : Unmet configs words)
  | nothing (configs : List Configuration) (words : List String)
      (loaded : (load h path content).result = .ok configs) (read : wordsOf o input = .ok words)
      (chosen : select configs words = .ok [])

variable {h : Host} {x : Executor} {input : Input} {o : Options} {path : String}
  {content : Except String String} {j : Journal} {configs : List Configuration}

theorem quiet_run_of_refused {e : SelectionError}
    (loaded : (load h path content).result = .ok configs) (list : o.list = false)
    (refused : (wordsOf o input).bind (select configs) = .error e) :
    Quiet (run h x input o path content j).acts := by
  rw [run_eq_carryOut loaded list, carryOut_of_refused refused]
  exact (preface_plain h path content o.choices input configs).quiet

theorem quiet_run_of_chosen {words : List String} {selected : List Positioned}
    (loaded : (load h path content).result = .ok configs) (list : o.list = false)
    (read : wordsOf o input = .ok words) (chosen : select configs words = .ok selected)
    (idle : o.dryRun = true ∨ selected = []) : Quiet (run h x input o path content j).acts := by
  obtain ⟨fates, told⟩ := run_tells (x := x) (j := j) loaded list read chosen
  rcases idle with dryRun | rfl
  · rw [dryRun] at told
    exact told.calls_of_dryRun
  · obtain ⟨runs, epilogue, acts, told, concludes⟩ := told
    cases told with
    | done _ _ plain =>
      rw [acts]
      exact plain.quiet.append (quiet_of_concludes concludes)

theorem quiet_run_of_idle (idle : Idle h input o path content) :
    Quiet (run h x input o path content j).acts := by
  cases loaded : (load h path content).result with
  | error e =>
    rw [run_of_not_loaded loaded]
    exact (opening_plain h path content).quiet
  | ok configs =>
    cases list : o.list with
    | true =>
      rw [run_of_list loaded list]
      exact (opening_plain h path content).quiet.append (listing_plain configs).quiet
    | false =>
      cases read : wordsOf o input with
      | error e => exact quiet_run_of_refused loaded list (by rw [read]; rfl)
      | ok words =>
        cases chosen : select configs words with
        | error e => exact quiet_run_of_refused loaded list (by rw [read]; exact chosen)
        | ok selected =>
          apply quiet_run_of_chosen loaded list read chosen
          cases idle with
          | notLoaded e failed =>
            rw [loaded] at failed
            cases failed
          | listed listed =>
            rw [list] at listed
            cases listed
          | dryRun dryRun => exact .inl dryRun
          | unread e failed =>
            rw [read] at failed
            cases failed
          | unmet found words' loaded' read' unmet =>
            obtain ⟨e, refused⟩ := select_refused_iff.mpr unmet
            simp_all
          | nothing found words' loaded' read' none_chosen => simp_all

theorem runs_of_not_idle (busy : ¬Idle h input o path content) :
    ∃ configs words selected,
      (load h path content).result = .ok configs ∧ wordsOf o input = .ok words ∧
      select configs words = .ok selected ∧ selected ≠ [] ∧
      Runs x [] (run h x input o path content j).acts (selected.map Prod.fst) := by
  cases loaded : (load h path content).result with
  | error e => exact absurd (.notLoaded e loaded) busy
  | ok configs =>
    have list : o.list = false := Bool.eq_false_iff.mpr fun listed => busy (.listed listed)
    have dryRun : o.dryRun = false := Bool.eq_false_iff.mpr fun dryRun => busy (.dryRun dryRun)
    cases read : wordsOf o input with
    | error e => exact absurd (.unread e read) busy
    | ok words =>
      cases chosen : select configs words with
      | error e =>
        have unmet := select_refused_iff.mp ⟨e, chosen⟩
        exact absurd (.unmet configs words loaded read unmet) busy
      | ok selected =>
        refine ⟨configs, words, selected, rfl, rfl, chosen, ?_, ?_⟩
        · rintro rfl
          exact busy (.nothing configs words loaded read chosen)
        · obtain ⟨fates, told⟩ := run_tells (x := x) (j := j) loaded list read chosen
          rw [dryRun] at told
          exact told.runs

/-- A session that is idle calls nothing. Any other has selected something and runs exactly that,
in the order of the selection: the look-ups are the same whatever the executor answers, and an
executor that goes by earlier calls alone fixes the starts between them. -/
theorem session_runs_selection (h : Host) (x : Executor) (input : Input) (o : Options)
    (path : String) (content : Except String String) (j : Journal) :
    (Idle h input o path content ∧ (run h x input o path content j).acts.calls = []) ∨
    (¬Idle h input o path content ∧ ∃ configs words selected,
      (load h path content).result = .ok configs ∧ wordsOf o input = .ok words ∧
      select configs words = .ok selected ∧ selected ≠ [] ∧
      Runs x [] (run h x input o path content j).acts (selected.map Prod.fst) ∧
      (run h x input o path content j).acts.calls.filterMap Call.lookup? =
        (selected.map fun c => c.1.invocation.program) ∧
      ∀ which start, x = .ofCalls which start →
        (run h x input o path content j).acts.calls =
          callsFor which [] (selected.map Prod.fst)) := by
  by_cases idle : Idle h input o path content
  · exact .inl ⟨idle, quiet_run_of_idle idle⟩
  · obtain ⟨configs, words, selected, loaded, read, chosen, nonempty, runs⟩ :=
      runs_of_not_idle (x := x) (j := j) idle
    refine .inr ⟨idle, configs, words, selected, loaded, read, chosen, nonempty, runs, ?_, ?_⟩
    · rw [runs.lookups, List.map_map]
      rfl
    · rintro which start rfl
      exact runs.calls_ofCalls

end Session

end Shortcuts
