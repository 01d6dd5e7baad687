import Shortcuts.Configuration.Loading
import Shortcuts.Proofs.Kind.Transfer

/-!
# How a transfer is assembled

The checks of a transfer are made in order, and the first that fails refuses it (`Host.Refuses`). The
host is asked only what these checks need (`Host.questions`). A transfer that is not refused becomes
a command line without an empty argument (`Kind.assemble_transfer`).
-/

namespace Shortcuts

/-- The host goes by another name, or it does not say by which. -/
inductive Host.Misnamed (h : Host) (expected : String) : PreconditionError → Prop
  | unanswered (f : Failure) (answer : h.hostname = .error f) :
      Misnamed h expected (.hostnameUnavailable f.full)
  | other (name : String) (answer : h.hostname = .ok name) (apart : name ≠ expected) :
      Misnamed h expected (.wrongHost expected)

/-- Nothing is mounted there, or the host does not say whether. -/
inductive Host.Lacks (h : Host) (point : String) : PreconditionError → Prop
  | unanswered (f : Failure) (answer : h.mounted point = .error f) :
      Lacks h point (.mountCheckFailed point f.full)
  | unmounted (answer : h.mounted point = .ok false) : Lacks h point (.notMounted point)

namespace Host

/-- The host says that it goes by this name. -/
def goesBy (h : Host) (name : String) : Bool :=
  match h.hostname with
  | .ok n => n == name
  | .error _ => false

/-- The host says that something is mounted there. -/
def has (h : Host) (point : String) : Bool :=
  match h.mounted point with
  | .ok mounted => mounted
  | .error _ => false

/-- The points up to the first that the host does not have, and that one. -/
def probed (h : Host) (points : List String) : List String :=
  points.take ((points.takeWhile h.has).length + 1)

/-- The first check that fails of a transfer that asks for this name and these mount points: the name,
then the points in order, then the paths. -/
inductive Refuses (h : Host) (name : String) (points sources : List String)
    (destination : String) : PreconditionError → Prop
  | misnamed (e : PreconditionError) (bound : name ≠ "") (misnamed : h.Misnamed name e) :
      Refuses h name points sources destination e
  | mount (before : List String) (point : String) (after : List String) (e : PreconditionError)
      (named : name = "" ∨ h.hostname = .ok name) (shape : points = before ++ point :: after)
      (earlier : ∀ p ∈ before, h.mounted p = .ok true) (lacks : h.Lacks point e) :
      Refuses h name points sources destination e
  | source (named : name = "" ∨ h.hostname = .ok name)
      (mounted : ∀ p ∈ points, h.mounted p = .ok true) (missing : sources = []) :
      Refuses h name points sources destination .emptySource
  | destination (named : name = "" ∨ h.hostname = .ok name)
      (mounted : ∀ p ∈ points, h.mounted p = .ok true) (given : sources ≠ [])
      (missing : destination = "") : Refuses h name points sources destination .emptyDestination

/-- What is asked: the name of the host if one is wanted, and the mount points if it is right. -/
def questions (h : Host) (name : String) (points : List String) : List Query :=
  (if name = "" then [] else [.hostname]) ++
    if name = "" ∨ h.goesBy name then (h.probed points).map .mounted else []

theorem goesBy_iff {h : Host} {name : String} : h.goesBy name = true ↔ h.hostname = .ok name := by
  unfold goesBy
  cases h.hostname <;> simp

theorem probed_cons (h : Host) (point : String) (points : List String) :
    h.probed (point :: points) = point :: if h.has point then h.probed points else [] := by
  unfold probed
  rw [List.takeWhile_cons]
  split <;> simp

end Host

namespace Transfer

variable {h : Host} {m : Transfer} {e : PreconditionError}

theorem checkHost_eq_error_iff :
    (m.checkHost h).result = .error e ↔ m.host ≠ "" ∧ h.Misnamed m.host e := by
  unfold checkHost
  split
  · rename_i anywhere
    simp [anywhere, Traced.ok]
  · rename_i bound
    rw [Traced.bind_eq_error_iff, and_iff_right bound]
    constructor
    · rintro (unanswered | ⟨name, answer, refused⟩)
      · obtain ⟨f, answer, rfl⟩ := Traced.mapError_eq_error_iff.mp unanswered
        exact .unanswered f answer
      · split at refused
        · cases refused
        · rename_i apart
          obtain rfl := Except.error.inj refused
          exact .other name (Traced.mapError_eq_ok_iff.mp answer) apart
    · rintro (⟨f, answer⟩ | ⟨name, answer, apart⟩)
      · exact .inl (Traced.mapError_eq_error_iff.mpr ⟨f, answer, rfl⟩)
      · exact .inr ⟨name, Traced.mapError_eq_ok_iff.mpr answer, by rw [if_neg apart]; rfl⟩

theorem checkMounts_eq_error_iff {points : List String} :
    (checkMounts h points).result = .error e ↔
      ∃ before point after, points = before ++ point :: after ∧
        (∀ p ∈ before, h.mounted p = .ok true) ∧ h.Lacks point e := by
  induction points with
  | nil => simp [checkMounts, Traced.ok]
  | cons point points ih =>
    rw [checkMounts, Traced.bind_eq_error_iff]
    constructor
    · rintro (unanswered | ⟨mounted, answer, refused⟩)
      · obtain ⟨f, answer, rfl⟩ := Traced.mapError_eq_error_iff.mp unanswered
        exact ⟨[], point, points, rfl, List.forall_mem_nil _, .unanswered f answer⟩
      · rw [Host.askMounted, Traced.mapError_eq_ok_iff] at answer
        cases mounted with
        | true =>
          obtain ⟨before, q, after, rfl, earlier, lacks⟩ := ih.mp refused
          exact ⟨point :: before, q, after, rfl, List.forall_mem_cons.mpr ⟨answer, earlier⟩, lacks⟩
        | false =>
          obtain rfl := Except.error.inj refused
          exact ⟨[], point, points, rfl, List.forall_mem_nil _, .unmounted answer⟩
    · rintro ⟨before, q, after, shape, earlier, lacks⟩
      cases before with
      | nil =>
        obtain ⟨rfl, rfl⟩ := List.cons.inj shape
        cases lacks with
        | unanswered f answer => exact .inl (Traced.mapError_eq_error_iff.mpr ⟨f, answer, rfl⟩)
        | unmounted answer => exact .inr ⟨false, Traced.mapError_eq_ok_iff.mpr answer, rfl⟩
      | cons p before =>
        obtain ⟨rfl, rfl⟩ := List.cons.inj shape
        obtain ⟨answer, others⟩ := List.forall_mem_cons.mp earlier
        have refused := ih.mpr ⟨before, q, after, rfl, others, lacks⟩
        exact .inr ⟨true, Traced.mapError_eq_ok_iff.mpr answer, refused⟩

theorem checkPaths_eq_error_iff :
    m.checkPaths.result = .error e ↔
      m.sources = [] ∧ e = .emptySource ∨
      m.sources ≠ [] ∧ m.destination = "" ∧ e = .emptyDestination := by
  unfold checkPaths
  split
  · rename_i missing
    constructor
    · rintro ⟨⟩
      exact .inl ⟨missing, rfl⟩
    · rintro (⟨-, rfl⟩ | ⟨given, -⟩)
      · rfl
      · exact absurd missing given
  · rename_i given
    split
    · rename_i missing
      constructor
      · rintro ⟨⟩
        exact .inr ⟨given, missing, rfl⟩
      · rintro (⟨missing, -⟩ | ⟨-, -, rfl⟩)
        · exact absurd missing given
        · rfl
    · rename_i destination
      refine iff_of_false nofun ?_
      rintro (⟨missing, -⟩ | ⟨-, missing, -⟩)
      · exact given missing
      · exact destination missing

/-! ## What is asked -/

theorem checkHost_acts (m : Transfer) (h : Host) :
    (m.checkHost h).acts = if m.host = "" then [] else [.query .hostname] := by
  unfold checkHost
  split
  · rfl
  · cases answer : (h.askName fun f => PreconditionError.hostnameUnavailable f.full).result with
    | error _ =>
      rw [Traced.bind_of_error answer]
      rfl
    | ok name =>
      rw [Traced.bind_of_ok answer]
      split <;> rfl

theorem checkMounts_acts (h : Host) (points : List String) :
    (checkMounts h points).acts = (h.probed points).map fun p => .query (.mounted p) := by
  induction points with
  | nil => rfl
  | cons point points ih =>
    rw [checkMounts, Host.probed_cons, Host.has]
    cases answer : h.mounted point with
    | error f =>
      have unanswered : (h.askMounted point fun f =>
          PreconditionError.mountCheckFailed point f.full).result =
            .error (.mountCheckFailed point f.full) :=
        Traced.mapError_eq_error_iff.mpr ⟨f, answer, rfl⟩
      rw [Traced.bind_of_error unanswered]
      rfl
    | ok mounted =>
      rw [Traced.bind_of_ok (Traced.mapError_eq_ok_iff.mpr answer)]
      cases mounted with
      | true => exact congrArg (_ :: ·) ih
      | false => rfl

theorem checkPaths_acts (m : Transfer) : m.checkPaths.acts = [] := by
  unfold checkPaths
  split
  · rfl
  · split <;> rfl

/-! ## Arguments -/

theorem ne_empty_of_mem_values {e : Entry} {name value : String} (mem : value ∈ e.values name) :
    value ≠ "" := by
  have kept := (List.mem_filter.mp mem).2
  rintro rfl
  cases kept

theorem rebase_ne_empty {source : String} (given : source ≠ "") (base : String) :
    rebase base source ≠ "" := by
  have kept : under base.toList source.toList ≠ [] := by
    unfold under
    split
    · exact fun empty => given (String.toList_eq_nil_iff.mp empty)
    · exact List.append_ne_nil_of_right_ne_nil _ (List.cons_ne_nil _ _)
  exact fun empty => kept (String.ofList_eq_empty_iff.mp empty)

theorem empty_not_mem_arguments {e : Entry} (complete : (ofEntry e).Complete) :
    "" ∉ (ofEntry e).arguments := by
  simp only [arguments, List.mem_append, List.mem_flatMap, List.mem_map, List.mem_cons,
    List.not_mem_nil, or_false, not_or, not_exists, not_and]
  refine ⟨⟨⟨?_, ?_⟩, ?_⟩, complete.destination.symm⟩
  · exact fun flag => ne_empty_of_mem_values flag rfl
  · exact fun pattern mem => ⟨by decide, (ne_empty_of_mem_values mem).symm⟩
  · exact fun source mem => rebase_ne_empty (ne_empty_of_mem_values mem) _

end Transfer

namespace Kind

variable {h : Host} {e : Entry}

/-- The paths are looked at when the host has granted what it was asked for. -/
theorem transfer_plan_of_paths {err : PreconditionError} (grants : h.Grants (Transfer.ofEntry e))
    (paths : (Transfer.ofEntry e).checkPaths.result = .error err) :
    (Kind.transfer.plan h e).result = .error err := by
  have name := Transfer.checkHost_eq_ok_iff.mpr grants.name
  have mounts := Transfer.checkMounts_eq_ok_iff.mpr grants.mounts
  simp only [Kind.transfer, Traced.bind_eq_error_iff]
  exact .inr ⟨(), name, .inr ⟨(), mounts, .inl paths⟩⟩

/-- The checks before the one that fails have passed. -/
theorem transfer_plan_eq_error_iff {err : PreconditionError} :
    (Kind.transfer.plan h e).result = .error err ↔
      h.Refuses (e.value "host") (e.values "cmp") (e.values "src") (e.value "dst") err := by
  constructor
  · intro failed
    simp only [Kind.transfer, Traced.bind_eq_error_iff] at failed
    obtain host | ⟨⟨⟩, host, mount | ⟨⟨⟩, mounts, paths | ⟨⟨⟩, -, made⟩⟩⟩ := failed
    · obtain ⟨bound, misnamed⟩ := Transfer.checkHost_eq_error_iff.mp host
      exact .misnamed err bound misnamed
    · obtain ⟨before, point, after, shape, earlier, lacks⟩ :=
        Transfer.checkMounts_eq_error_iff.mp mount
      exact .mount before point after err (Transfer.checkHost_eq_ok_iff.mp host) shape earlier lacks
    · have named := Transfer.checkHost_eq_ok_iff.mp host
      have mounted := Transfer.checkMounts_eq_ok_iff.mp mounts
      obtain ⟨missing, rfl⟩ | ⟨given, missing, rfl⟩ := Transfer.checkPaths_eq_error_iff.mp paths
      · exact .source named mounted missing
      · exact .destination named mounted given missing
    · cases made
  · intro refuses
    cases refuses with
    | misnamed _ bound misnamed =>
      have host : ((Transfer.ofEntry e).checkHost h).result = .error err :=
        Transfer.checkHost_eq_error_iff.mpr ⟨bound, misnamed⟩
      simp only [Kind.transfer, Traced.bind_eq_error_iff]
      exact .inl host
    | mount before point after _ named shape earlier lacks =>
      have host : ((Transfer.ofEntry e).checkHost h).result = .ok () :=
        Transfer.checkHost_eq_ok_iff.mpr named
      have mount := Transfer.checkMounts_eq_error_iff.mpr
        ⟨before, point, after, shape, earlier, lacks⟩
      simp only [Kind.transfer, Traced.bind_eq_error_iff]
      exact .inr ⟨(), host, .inl mount⟩
    | source named mounted missing =>
      exact transfer_plan_of_paths ⟨named, mounted⟩
        (Transfer.checkPaths_eq_error_iff.mpr (.inl ⟨missing, rfl⟩))
    | destination named mounted given missing =>
      exact transfer_plan_of_paths ⟨named, mounted⟩
        (Transfer.checkPaths_eq_error_iff.mpr (.inr ⟨given, missing, rfl⟩))

theorem transfer_plan_acts (h : Host) (e : Entry) :
    (Kind.transfer.plan h e).acts =
      (h.questions (e.value "host") (e.values "cmp")).map Act.query := by
  let m := Transfer.ofEntry e
  have paths : (m.checkPaths >>= fun _ =>
      (pure ⟨"/usr/bin/rsync", m.arguments⟩ : Traced PreconditionError Invocation)).acts = [] := by
    rw [Traced.acts_bind_of_silent fun _ => rfl]
    exact m.checkPaths_acts
  have mounts : (Transfer.checkMounts h m.mounts >>= fun _ => m.checkPaths >>= fun _ =>
      (pure ⟨"/usr/bin/rsync", m.arguments⟩ : Traced PreconditionError Invocation)).acts =
        (h.probed m.mounts).map fun p => .query (.mounted p) := by
    rw [Traced.acts_bind_of_silent fun _ => paths, Transfer.checkMounts_acts]
  change (m.checkHost h >>= fun _ => _).acts = _
  by_cases name : m.host = "" ∨ h.goesBy m.host = true
  · have passed := Transfer.checkHost_eq_ok_iff.mpr (name.imp_right Host.goesBy_iff.mp)
    change _ = (h.questions m.host m.mounts).map Act.query
    rw [Traced.bind_of_ok passed, mounts, Transfer.checkHost_acts, Host.questions, if_pos name]
    split <;> simp [Function.comp_def]
  · obtain ⟨err, failed⟩ : ∃ err, (m.checkHost h).result = .error err := by
      cases result : (m.checkHost h).result with
      | error err => exact ⟨err, rfl⟩
      | ok _ =>
        exact absurd ((Transfer.checkHost_eq_ok_iff.mp result).imp_right Host.goesBy_iff.mpr) name
    change _ = (h.questions m.host m.mounts).map Act.query
    rw [Traced.bind_of_error failed, Transfer.checkHost_acts, Host.questions, if_neg name]
    split <;> simp

/-- A transfer is assembled if the host has the name and the mount points that it asks for and both
its paths are given: into its flags, each pattern after an option of its own, its sources under
their base, and the destination. Otherwise the error is that of the first check that fails. The host
is asked for its name if one is wanted, and then for the mount points up to the first that is not
there. -/
theorem assemble_transfer (h : Host) (e : Entry) :
    let assembled := Kind.transfer.assemble h e
    (∀ i, assembled.result = .ok i ↔
      (e.value "host" = "" ∨ h.hostname = .ok (e.value "host")) ∧
      (∀ point ∈ e.values "cmp", h.mounted point = .ok true) ∧
      e.values "src" ≠ [] ∧ e.value "dst" ≠ "" ∧
      i = ⟨"/usr/bin/rsync",
        e.values "flag" ++ (e.values "exclude").flatMap (fun x => ["--exclude", x]) ++
          (e.values "src").map (rebase (e.value "srcPrefix")) ++ [e.value "dst"]⟩ ∧
      "" ∉ i.args) ∧
    (∀ err, assembled.result = .error err ↔
      ∃ why, h.Refuses (e.value "host") (e.values "cmp") (e.values "src") (e.value "dst") why ∧
        err = .precondition e.key why) ∧
    assembled.acts = (h.questions (e.value "host") (e.values "cmp")).map Act.query := by
  intro assembled
  refine ⟨fun i => ?_, fun err => ?_, transfer_plan_acts h e⟩
  · change Except.mapError _ _ = _ ↔ _
    rw [Traced.mapError_eq_ok_iff, transfer_plan_eq_ok_iff]
    constructor
    · rintro ⟨⟨name, mounts⟩, complete, rfl⟩
      exact ⟨name, mounts, complete.sources, complete.destination, rfl,
        Transfer.empty_not_mem_arguments complete⟩
    · rintro ⟨name, mounts, sources, destination, made, -⟩
      exact ⟨⟨name, mounts⟩, ⟨sources, destination⟩, made⟩
  · change Except.mapError _ _ = _ ↔ _
    rw [Traced.mapError_eq_error_iff]
    exact exists_congr fun why => and_congr transfer_plan_eq_error_iff eq_comm

end Kind

end Shortcuts
