import Shortcuts.Proofs.Running.Blind
import Shortcuts.Proofs.Selection.Prompt
import Shortcuts.Proofs.Session.Calls

/-!
# Typed and given choices

A session that asks for its choices lists the configurations and prompts, and goes on as if the
words that were typed had been given on the command line (`typed_as_given`). The executor must not
see the dialogue, for else it could tell the two apart.
-/

namespace Shortcuts.Session

open Text

/-! ## What a blind executor leaves alike -/

section Blind

variable {x : Executor} {past past' : Trace}

theorem runOne_of_alike (blind : x.Blind) (alike : past.Alike past') (dryRun : Bool)
    (c : Configuration) : runOne x dryRun past c = runOne x dryRun past' c := by
  have started := alike.append [.event (.runStarted c.key c.invocation.display)]
  simp only [runOne, blind.run started]

theorem runEach_of_alike (blind : x.Blind) (alike : past.Alike past') (dryRun : Bool)
    (configs : List Configuration) :
    runEach x dryRun past configs = runEach x dryRun past' configs := by
  induction configs generalizing past past' with
  | nil => rfl
  | cons c rest ih =>
    have later (acts : Trace) :
        runEach x dryRun (past ++ acts) rest = runEach x dryRun (past' ++ acts) rest :=
      ih (alike.append acts)
    simp only [runEach, runOne_of_alike blind alike dryRun c, later]

theorem perform_of_alike (blind : x.Blind) (alike : past.Alike past') (dryRun : Bool) (j : Journal)
    (configs : List Configuration) :
    perform x dryRun j past configs = perform x dryRun j past' configs := by
  match configs with
  | [] => rfl
  | [c] => simp only [perform, runOne_of_alike blind alike dryRun c]
  | _ :: _ :: _ => simp only [perform, runEach_of_alike blind alike dryRun]

/-- What is carried out after alike pasts is the same, and comes to the same end. -/
theorem carryOut_of_alike (blind : x.Blind) (alike : past.Alike past') (dryRun : Bool)
    (j : Journal) (configs : List Configuration) (words : Except SelectionError (List String)) :
    ∃ after result journal,
      carryOut x dryRun j past configs words = ⟨past ++ after, result, journal⟩ ∧
      carryOut x dryRun j past' configs words = ⟨past' ++ after, result, journal⟩ := by
  cases chosen : words.bind (select configs) with
  | error e =>
    rw [carryOut_of_refused chosen, carryOut_of_refused chosen]
    exact ⟨[], .error (.selection e), j, by simp, by simp⟩
  | ok selected =>
    obtain ⟨read, rfl, taken⟩ := words_of_chosen chosen
    rw [carryOut_of_chosen taken, carryOut_of_chosen taken, perform_of_alike blind alike]
    exact ⟨_, _, _, rfl, rfl⟩

end Blind

/-! ## The prompt -/

/-- What a session does to get its choices when none are given, if it comes to that. -/
def asking (loaded : Except LoadError (List Configuration)) (list : Bool) (input : Input) : Trace :=
  match loaded with
  | .error _ => []
  | .ok configs => if list then [] else listing configs ++ [prompt] ++ [.took input.readAhead]

theorem asking_dialogue (loaded : Except LoadError (List Configuration)) (list : Bool)
    (input : Input) : ∀ a ∈ asking loaded list input, a.isDialogue = true := by
  cases loaded with
  | error e => exact List.forall_mem_nil _
  | ok configs =>
    cases list with
    | true => exact List.forall_mem_nil _
    | false =>
      intro a ha
      simp only [asking, listing, Bool.false_eq_true, if_false, List.mem_append, List.mem_map,
        List.mem_singleton] at ha
      obtain (⟨line, -, rfl⟩ | rfl) | rfl := ha <;> rfl

theorem asking_of_list (loaded : Except LoadError (List Configuration)) (input : Input) :
    asking loaded true input = [] := by
  cases loaded <;> rfl

variable {h : Host} {x : Executor} {o : Options} {path : String} {content : Except String String}
  {j : Journal} {input other : Input} {words : List String} {configs : List Configuration}

theorem preface_of_given (given : words ≠ []) :
    preface h path content words input configs = (opening h path content).acts :=
  if_neg given

theorem preface_of_none (loaded : (load h path content).result = .ok configs) :
    preface h path content [] input configs =
      (opening h path content).acts ++ asking (load h path content).result false input := by
  rw [loaded, asking, if_neg Bool.false_ne_true, ← List.append_assoc, ← List.append_assoc]
  rfl

/-- The session that asks adds the asking to what the other one does, and ends as it does. -/
theorem run_of_read (blind : x.Blind) (read : (readChoices input).1 = .ok words)
    (given : words ≠ []) :
    ∃ before after result journal,
      run h x other { o with choices := words } path content j =
        ⟨before ++ after, result, journal⟩ ∧
      run h x input { o with choices := [] } path content j =
        ⟨before ++ asking (load h path content).result o.list input ++ after, result,
          journal⟩ := by
  let opened := (opening h path content).acts
  cases loaded : (load h path content).result with
  | error e =>
    refine ⟨opened, [], .error (.load path e), j, ?_, ?_⟩
    · rw [run_of_not_loaded loaded, List.append_nil]
    · rw [run_of_not_loaded loaded, asking, List.append_nil, List.append_nil]
  | ok configs =>
    by_cases list : o.list = true
    · have nothing : asking (.ok configs) o.list input = [] := by rw [list, asking_of_list]
      refine ⟨opened, listing configs, .ok (), j, run_of_list loaded list, ?_⟩
      rw [nothing, List.append_nil]
      exact run_of_list loaded list
    · rw [Bool.not_eq_true] at list
      have talk := Trace.alike_append_dialogue opened
        (asking_dialogue (load h path content).result false input)
      obtain ⟨after, result, journal, asked, told⟩ :=
        carryOut_of_alike blind talk o.dryRun j configs (.ok words)
      refine ⟨opened, after, result, journal, ?_, ?_⟩
      · refine (run_eq_carryOut (o := { o with choices := words }) loaded list).trans ?_
        rw [wordsOf, if_neg given, preface_of_given given, ← told]
      · refine (run_eq_carryOut (o := { o with choices := [] }) loaded list).trans ?_
        rw [wordsOf, if_pos rfl, read, preface_of_none loaded, list, ← loaded, ← asked]

/-- Where no word is read, there is nothing to run. -/
theorem run_of_none_read (loaded : (load h path content).result = .ok configs)
    (list : o.list = false) (read : (readChoices input).1 = .ok []) :
    run h x input { o with choices := [] } path content j =
      ⟨(opening h path content).acts ++ asking (load h path content).result false input ++
        [.event (.warn "nothing chosen")], .ok (), j⟩ := by
  refine (run_eq_carryOut (o := { o with choices := [] }) loaded list).trans ?_
  rw [wordsOf, if_pos rfl, read, carryOut_of_chosen rfl, preface_of_none loaded]
  rfl

/-- A session that is given no choices and reads them from a line does what it does when the words
of that line are given to it, with the same questions, calls and events, to the same end; all it
adds is to list the configurations, to prompt and to read. A line without words, or the end of the
input, comes to nothing chosen. -/
theorem typed_as_given (blind : x.Blind) {t : TypedLine} (valid : t.Valid) {rest : Bytes}
    (ended : EndsLine rest) (h : Host) (o : Options) (path : String)
    (content : Except String String) (j : Journal) (other : Input) :
    let input := Input.bytes (encode t.text ++ rest)
    let typed := run h x input { o with choices := [] } path content j
    let given := run h x other { o with choices := t.choices } path content j
    (t.choices ≠ [] →
      typed.result = given.result ∧ typed.journal = given.journal ∧
      typed.acts.queries = given.acts.queries ∧ typed.acts.calls = given.acts.calls ∧
      typed.acts.events = given.acts.events ∧
      ∃ before after, given.acts = before ++ after ∧
        typed.acts = before ++ asking (load h path content).result o.list input ++ after) ∧
    (t.choices = [] → o.list = false → ∀ configs, (load h path content).result = .ok configs →
      typed.result = .ok () ∧ typed.journal = j ∧ typed.acts.calls = [] ∧
      typed.acts = (opening h path content).acts ++
        asking (load h path content).result false input ++ [.event (.warn "nothing chosen")]) := by
  intro input typed given
  have read : (readChoices input).1 = .ok t.choices := TypedLine.readChoices_text valid ended
  constructor
  · intro words
    obtain ⟨before, after, result, journal, told, asked⟩ :
        ∃ before after result journal, given = ⟨before ++ after, result, journal⟩ ∧
          typed = ⟨before ++ asking (load h path content).result o.list input ++ after, result,
            journal⟩ := run_of_read blind read words
    have talk := asking_dialogue (load h path content).result o.list input
    have alike := (Trace.alike_append_dialogue before talk).append after
    rw [told, asked]
    exact ⟨rfl, rfl, alike.queries, alike.calls, alike.events, before, after, rfl, rfl⟩
  · intro none list configs loaded
    rw [none] at read
    have ends : typed = ⟨(opening h path content).acts ++
        asking (load h path content).result false input ++ [.event (.warn "nothing chosen")],
        .ok (), j⟩ := run_of_none_read loaded list read
    have plain := preface_plain h path content [] input configs
    rw [preface_of_none loaded] at plain
    have warned : Trace.Plain [.event (.warn "nothing chosen")] :=
      List.forall_mem_singleton.mpr (Act.plain_event rfl)
    rw [ends]
    exact ⟨rfl, rfl, (plain.append warned).quiet, rfl⟩

/-- The executor finds only the first program and fails its start, the blanks are of several kinds,
and what follows the line is not text. -/
theorem typed_as_given_between_odd_blanks :
    let text := "[prog a]\nexe = /bin/a\n[prog k]\nexe = /bin/k\n"
    let h : Host := { hostname := .ok "box", mounted := fun _ => .ok false }
    let x := Executor.ofCalls (fun past _ => past == [])
      fun past _ _ => { result := .ok ⟨false, some past.length⟩ }
    let t : TypedLine := ⟨['\u00a0'], [⟨"2", ['\t', '\u2003']⟩, ⟨"a", ['\r']⟩]⟩
    let blank : TypedLine := ⟨[' ', '\u3000'], []⟩
    let typed (line : TypedLine) :=
      run h x (.bytes (encode line.text ++ [0x0A, 0xFF])) {} "links" (.ok text) {}
    let given := run h x (.broken "closed") { choices := t.choices } "links" (.ok text) {}
    x.Blind ∧ t.Valid ∧ blank.Valid ∧ EndsLine [0x0A, 0xFF] ∧ t.choices = ["2", "a"] ∧
      (typed t).result = given.result ∧ (typed t).acts.calls = given.acts.calls ∧
      (typed blank).result = .ok () ∧ (typed blank).acts.calls = [] := by
  intro text h x t blank typed given
  have blind : x.Blind := Executor.blind_ofCalls _ _
  have valid : t.Valid := by decide
  have empty : blank.Valid := by decide
  have ended : EndsLine [0x0A, 0xFF] := endsLine_newline [0xFF]
  obtain ⟨result, -, -, calls, -⟩ :=
    (typed_as_given blind valid ended h {} "links" (.ok text) {} (.broken "closed")).1 (by decide)
  obtain ⟨configs, loaded⟩ : ∃ configs, (load h "links" (.ok text)).result = .ok configs :=
    ⟨[⟨"a", "prog", ⟨"/bin/a", []⟩⟩, ⟨"k", "prog", ⟨"/bin/k", []⟩⟩], by decide +kernel⟩
  obtain ⟨nothing, -, silent, -⟩ :=
    (typed_as_given blind empty ended h {} "links" (.ok text) {} (.broken "closed")).2 rfl rfl
      configs loaded
  exact ⟨blind, valid, empty, ended, rfl, result, calls, nothing, silent⟩

end Shortcuts.Session
