import Shortcuts.Proofs.Configuration.Acts
import Shortcuts.Proofs.Running.Calls
import Shortcuts.Session.Basic

/-!
# Stages of a session

A session loads the file, may list the configurations and ask for words, and then selects. Up to
there it does plain acts only (`preface_plain`), the same for a dry run and for a real one, and what
it does next is settled by the configurations and the words (`run_eq_carryOut`).
-/

namespace Shortcuts.Session

/-- The words to choose by: those of the command line, or else those at the prompt. -/
def wordsOf (o : Options) (input : Input) : Except SelectionError (List String) :=
  if o.choices = [] then (readChoices input).1 else .ok o.choices

/-- What a session does before it selects. -/
def preface (h : Host) (path : String) (content : Except String String) (choices : List String)
    (input : Input) (configs : List Configuration) : Trace :=
  let opened := (opening h path content).acts
  if choices = [] then opened ++ listing configs ++ [prompt] ++ [.took input.readAhead] else opened

theorem opening_result (h : Host) (path : String) (content : Except String String) :
    (opening h path content).result =
      (load h path content).result.mapError (SessionError.load path) := by
  rw [opening, Traced.act_bind]
  cases loaded : (load h path content).result with
  | error e => rw [Traced.bind_of_error (by rw [Traced.mapError, loaded]; rfl)]; rfl
  | ok configs => rw [Traced.bind_of_ok (by rw [Traced.mapError, loaded]; rfl)]; rfl

theorem opening_of_loaded {h : Host} {path : String} {content : Except String String}
    {configs : List Configuration} (loaded : (load h path content).result = .ok configs) :
    (opening h path content).result = .ok configs := by
  rw [opening_result, loaded]
  rfl

theorem load_plain (h : Host) (path : String) (content : Except String String) :
    (load h path content).Every Act.Plain := by
  intro a ha
  obtain ⟨q, rfl⟩ | ⟨m, rfl⟩ := load_loads h path content a ha
  · trivial
  · rfl

theorem opening_plain (h : Host) (path : String) (content : Except String String) :
    (opening h path content).acts.Plain := by
  suffices every : (opening h path content).Every Act.Plain from every
  apply (Traced.every_act (Act.plain_event rfl)).bind
  intro _
  apply ((load_plain h path content).mapError _).bind
  intro configs
  apply (Traced.every_act (Act.plain_event rfl)).bind
  intro _ a ha
  obtain ⟨key, -, rfl⟩ := List.mem_map.mp ha
  rfl

theorem listing_plain (configs : List Configuration) : (listing configs).Plain := by
  intro a ha
  obtain ⟨line, -, rfl⟩ := List.mem_map.mp ha
  trivial

theorem preface_plain (h : Host) (path : String) (content : Except String String)
    (choices : List String) (input : Input) (configs : List Configuration) :
    (preface h path content choices input configs).Plain := by
  have opened := opening_plain h path content
  have asked : Trace.Plain [prompt] := List.forall_mem_singleton.mpr trivial
  have took : Trace.Plain [.took input.readAhead] := List.forall_mem_singleton.mpr trivial
  unfold preface
  split
  · exact ((opened.append (listing_plain configs)).append asked).append took
  · exact opened

variable {h : Host} {x : Executor} {input : Input} {o : Options} {path : String}
  {content : Except String String} {j : Journal} {configs : List Configuration}

theorem run_of_not_loaded {e : LoadError} (failed : (load h path content).result = .error e) :
    run h x input o path content j =
      ⟨(opening h path content).acts, .error (.load path e), j⟩ := by
  have result : (opening h path content).result = .error (.load path e) := by
    rw [opening_result, failed]
    rfl
  simp only [run, plan, result, Plan.complete]

theorem run_of_list (loaded : (load h path content).result = .ok configs) (list : o.list = true) :
    run h x input o path content j =
      ⟨(opening h path content).acts ++ listing configs, .ok (), j⟩ := by
  simp only [run, plan, opening_of_loaded loaded, list, if_true, Plan.complete]

/-- Past the listing, a session is what it shows first and what it carries out. -/
theorem run_eq_carryOut (loaded : (load h path content).result = .ok configs)
    (list : o.list = false) :
    run h x input o path content j =
      carryOut x o.dryRun j (preface h path content o.choices input configs) configs
        (wordsOf o input) := by
  have result := opening_of_loaded loaded
  by_cases asked : o.choices = []
  · simp only [run, plan, result, list, Bool.false_eq_true, if_false, asked, if_true,
      Plan.complete, wordsOf, preface]
  · simp only [run, plan, result, list, Bool.false_eq_true, if_false, asked, Plan.complete,
      wordsOf, preface]

theorem words_of_chosen {words : Except SelectionError (List String)} {selected : List Positioned}
    (chosen : words.bind (select configs) = .ok selected) :
    ∃ ws, words = .ok ws ∧ select configs ws = .ok selected := by
  cases words with
  | error e => cases chosen
  | ok ws => exact ⟨ws, rfl, chosen⟩

theorem carryOut_of_refused {dryRun : Bool} {past : Trace}
    {words : Except SelectionError (List String)} {e : SelectionError}
    (refused : words.bind (select configs) = .error e) :
    carryOut x dryRun j past configs words = ⟨past, .error (.selection e), j⟩ := by
  simp only [carryOut, refused]

theorem carryOut_of_chosen {dryRun : Bool} {past : Trace} {words : List String}
    {selected : List Positioned} (chosen : select configs words = .ok selected) :
    carryOut x dryRun j past configs (.ok words) =
      let rest := perform x dryRun j past (selected.map Prod.fst)
      { rest with acts := past ++ rest.acts } := by
  simp only [carryOut, Except.bind, chosen]

end Shortcuts.Session
