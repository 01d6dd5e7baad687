import Shortcuts.Proofs.Configuration.FirstFailure
import Shortcuts.Proofs.Kind.Transfer

/-!
# One file on many hosts

A host admits an entry or does not, and has no other say in what the entry is built as. So a file
that loads on one host loads as the same configurations on exactly those hosts that admit all its
entries (`configurations_same_on_hosts`).
-/

namespace Shortcuts

/-- The host has whatever the entry asks of it. Only transfers ask. -/
def Host.Admits (h : Host) (e : Entry) : Prop :=
  e.kind = Kind.transfer.name → h.Grants (Transfer.ofEntry e)

/-- The host has the name that the other one gives, and has mounted what is mounted there. Where the
other one fails or denies, it may answer anything. -/
structure Host.Extends (larger smaller : Host) : Prop where
  name : ∀ n, smaller.hostname = .ok n → larger.hostname = .ok n
  mounts : ∀ point, smaller.mounted point = .ok true → larger.mounted point = .ok true

variable {h h' : Host}

theorem Host.Grants.extend {m : Transfer} (grants : h.Grants m) (larger : h'.Extends h) :
    h'.Grants m where
  name := grants.name.imp_right (larger.name m.host)
  mounts point hp := larger.mounts point (grants.mounts point hp)

theorem Host.Admits.extend {e : Entry} (admits : h.Admits e) (larger : h'.Extends h) :
    h'.Admits e :=
  fun transfer => (admits transfer).extend larger

/-- A plan that succeeds was admitted, and every other host that admits the entry makes it too. -/
theorem Kind.plan_of_admits {k : Kind} (known : k ∈ Kind.all) {e : Entry} (named : k.name = e.kind)
    {i : Invocation} (planned : (k.plan h e).result = .ok i) :
    h.Admits e ∧ ∀ h' : Host, h'.Admits e → (k.plan h' e).result = .ok i := by
  simp only [Kind.all, List.mem_cons, List.not_mem_nil, or_false] at known
  obtain rfl | rfl | rfl := known
  · have other : e.kind ≠ Kind.transfer.name := named ▸ by decide
    exact ⟨fun transfer => absurd transfer other, fun _ _ => planned⟩
  · have other : e.kind ≠ Kind.transfer.name := named ▸ by decide
    exact ⟨fun transfer => absurd transfer other, fun _ _ => planned⟩
  · obtain ⟨grants, complete, made⟩ := Kind.transfer_plan_eq_ok_iff.mp planned
    refine ⟨fun _ => grants, fun h' admits => ?_⟩
    exact Kind.transfer_plan_eq_ok_iff.mpr ⟨admits named.symm, complete, made⟩

namespace Entry

variable {e : Entry} {c : Configuration}

theorem Builds.admits (built : e.Builds h c) : h.Admits e := by
  obtain ⟨k, i, known, named, -, planned⟩ := built
  exact (Kind.plan_of_admits known named planned).1

theorem Builds.of_admits (built : e.Builds h c) (admits : h'.Admits e) : e.Builds h' c := by
  obtain ⟨k, i, known, named, fits, planned⟩ := built
  exact .intro k i known named fits ((Kind.plan_of_admits known named planned).2 h' admits)

end Entry

theorem admits_of_forall₂_builds {entries : List Entry} {cs : List Configuration}
    (built : List.Forall₂ (Entry.Builds h) entries cs) : ∀ e ∈ entries, h.Admits e :=
  ((List.forall₂_and_left entries cs).mp (built.imp fun _ _ first => ⟨first.admits, first⟩)).1

theorem forall₂_builds_of_admits {entries : List Entry} {cs : List Configuration}
    (built : List.Forall₂ (Entry.Builds h) entries cs) (admits : ∀ e ∈ entries, h'.Admits e) :
    List.Forall₂ (Entry.Builds h') entries cs :=
  ((List.forall₂_and_left entries cs).mpr ⟨admits, built⟩).imp fun _ _ both => both.2.of_admits both.1

/-- A file that loads on some host loads as the same configurations on every host that loads it.
Those are the hosts that admit its entries, and the hosts that extend a host that loads it are among
them. -/
theorem configurations_same_on_hosts {text : String} {cs : List Configuration}
    (loaded : (configurations h text).result = .ok cs) :
    (∀ h' ds, (configurations h' text).result = .ok ds → ds = cs) ∧
    (∀ h' : Host, h'.Extends h → (configurations h' text).result = .ok cs) ∧
    ∃ entries, parse text = .ok entries ∧
      ∀ h' : Host, (configurations h' text).result = .ok cs ↔ ∀ e ∈ entries, h'.Admits e := by
  obtain ⟨entries, read, built⟩ := configurations_eq_ok_iff.mp loaded
  have loads_of_admits (h' : Host) (admits : ∀ e ∈ entries, h'.Admits e) :
      (configurations h' text).result = .ok cs :=
    configurations_eq_ok_iff.mpr ⟨entries, read, forall₂_builds_of_admits built admits⟩
  have admits_of_loads {h' : Host} {ds : List Configuration}
      (other : (configurations h' text).result = .ok ds) : ∀ e ∈ entries, h'.Admits e := by
    obtain ⟨same, again, rebuilt⟩ := configurations_eq_ok_iff.mp other
    rw [read, Except.ok.injEq] at again
    exact admits_of_forall₂_builds (again ▸ rebuilt)
  refine ⟨?_, ?_, entries, read, fun h' => ⟨admits_of_loads, loads_of_admits h'⟩⟩
  · intro h' ds other
    have both := loads_of_admits h' (admits_of_loads other)
    exact Except.ok.inj (other.symm.trans both)
  · intro h' larger
    have admits := admits_of_forall₂_builds built
    exact loads_of_admits h' fun e he => (admits e he).extend larger

/-- The larger host has more mounted, and where it is not asked its answers do not matter. -/
theorem configurations_same_on_nas_hosts :
    let text := "[rsync home]\nhost = box\ncmp = /mnt/nas\nsrc = /home\ndst = /mnt/nas/home\n" ++
      "[prog a]\nexe = /bin/true\n"
    let unreadable : Failure := ⟨"can't read /proc/mounts", []⟩
    let h : Host :=
      { hostname := .ok "box", mounted := fun p => .ok (p == "/mnt/nas") }
    let h' : Host :=
      { hostname := .ok "box", mounted := fun p => if p = "/" then .error unreadable else .ok true }
    let cs : List Configuration :=
      [⟨"home", "rsync", ⟨"/usr/bin/rsync", ["/home", "/mnt/nas/home"]⟩⟩,
        ⟨"a", "prog", ⟨"/bin/true", []⟩⟩]
    (configurations h text).result = .ok cs ∧ h'.Extends h ∧
      (configurations h' text).result = .ok cs := by
  intro text unreadable h h' cs
  have loaded : (configurations h text).result = .ok cs := by decide +kernel
  have larger : h'.Extends h := by
    refine ⟨fun n same => same, fun point mounted => ?_⟩
    have nas : point = "/mnt/nas" := by simpa [h] using mounted
    subst nas
    decide
  exact ⟨loaded, larger, (configurations_same_on_hosts loaded).2.1 h' larger⟩

end Shortcuts
