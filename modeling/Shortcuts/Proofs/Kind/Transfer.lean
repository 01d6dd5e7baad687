import Shortcuts.Kind.Transfer
import Shortcuts.Proofs.Traced

/-!
# What a transfer needs

A transfer is planned exactly when the host has the name and the mount points it asks for and its
paths are given, and the host leaves no trace in the plan (`Kind.transfer_plan_eq_ok_iff`).
-/

namespace Shortcuts

/-- The host has the name that the transfer asks for, if any, and all its mount points. -/
structure Host.Grants (h : Host) (m : Transfer) : Prop where
  name : m.host = "" ∨ h.hostname = .ok m.host
  mounts : ∀ point ∈ m.mounts, h.mounted point = .ok true

namespace Transfer

/-- The transfer has something to copy and a place to copy it to. -/
structure Complete (m : Transfer) : Prop where
  sources : m.sources ≠ []
  destination : m.destination ≠ ""

theorem checkHost_eq_ok_iff {m : Transfer} {h : Host} :
    (m.checkHost h).result = .ok () ↔ m.host = "" ∨ h.hostname = .ok m.host := by
  unfold checkHost
  split
  · rename_i anywhere
    simp [anywhere, Traced.ok]
  · rename_i bound
    rw [Traced.bind_eq_ok_iff, or_iff_right bound]
    constructor
    · rintro ⟨name, answer, passed⟩
      split at passed
      · rename_i same
        exact same ▸ Traced.mapError_eq_ok_iff.mp answer
      · cases passed
    · intro answer
      exact ⟨m.host, Traced.mapError_eq_ok_iff.mpr answer, by rw [if_pos rfl]; rfl⟩

theorem checkMounts_eq_ok_iff {h : Host} {points : List String} :
    (checkMounts h points).result = .ok () ↔ ∀ point ∈ points, h.mounted point = .ok true := by
  induction points with
  | nil => simp [checkMounts, Traced.ok]
  | cons point points ih =>
    rw [checkMounts, Traced.bind_eq_ok_iff, List.forall_mem_cons, ← ih]
    constructor
    · rintro ⟨mounted, answer, others⟩
      cases mounted with
      | true => exact ⟨Traced.mapError_eq_ok_iff.mp answer, others⟩
      | false => cases others
    · rintro ⟨answer, others⟩
      exact ⟨true, Traced.mapError_eq_ok_iff.mpr answer, others⟩

theorem checkPaths_eq_ok_iff {m : Transfer} : m.checkPaths.result = .ok () ↔ m.Complete := by
  unfold checkPaths
  split
  · rename_i empty
    exact iff_of_false nofun fun complete => complete.sources empty
  · rename_i sources
    split
    · rename_i empty
      exact iff_of_false nofun fun complete => complete.destination empty
    · rename_i destination
      exact iff_of_true rfl ⟨sources, destination⟩

end Transfer

theorem Kind.transfer_plan_eq_ok_iff {h : Host} {e : Entry} {i : Invocation} :
    (Kind.transfer.plan h e).result = .ok i ↔
      h.Grants (Transfer.ofEntry e) ∧ (Transfer.ofEntry e).Complete ∧
        i = ⟨"/usr/bin/rsync", (Transfer.ofEntry e).arguments⟩ := by
  simp only [Kind.transfer, Traced.bind_eq_ok_iff]
  constructor
  · rintro ⟨⟨⟩, host, ⟨⟩, mounts, ⟨⟩, paths, planned⟩
    exact ⟨⟨Transfer.checkHost_eq_ok_iff.mp host, Transfer.checkMounts_eq_ok_iff.mp mounts⟩,
      Transfer.checkPaths_eq_ok_iff.mp paths, (Except.ok.inj planned).symm⟩
  · rintro ⟨grants, complete, rfl⟩
    exact ⟨(), Transfer.checkHost_eq_ok_iff.mpr grants.name,
      (), Transfer.checkMounts_eq_ok_iff.mpr grants.mounts,
      (), Transfer.checkPaths_eq_ok_iff.mpr complete, rfl⟩

end Shortcuts
