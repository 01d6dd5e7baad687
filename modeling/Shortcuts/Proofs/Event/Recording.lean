import Mathlib.Data.List.Nodup
import Shortcuts.Event.Recording
import Shortcuts.Event.Rendering
import Shortcuts.Proofs.Configuration.OneLine
import Shortcuts.Proofs.Text.Quoted

/-!
# Recorded events

Values with different names may be recorded in any order (`Fields.ofValues_perm`). A value that is no
text has no newline in its text form, so an event is one line of the log unless a text in it is
broken (`Event.oneLine_recorded`).
-/

namespace Shortcuts

namespace FieldValue

/-- The count that a value is, and the old one if it is none. -/
def countOr (v : FieldValue) (old : Nat) : Nat :=
  match v with
  | .count n => n
  | .text _ | .integer _ | .flag _ | .quoted _ => old

theorem oneLine_toText {v : FieldValue} (texts : ∀ s, v = .text s → OneLine s) :
    OneLine v.toText := by
  cases v with
  | text s => exact texts s rfl
  | count n => exact oneLine_toString n
  | integer i => exact oneLine_toString_int i
  | flag b => cases b <;> decide
  | quoted s => exact oneLine_ofList.mpr (Text.newline_not_mem_quoted s.toList)

end FieldValue

namespace Fields

variable {f : Fields} {n m : FieldName} {v w : FieldValue}

/-- A value goes to its own field. -/
theorem record_eq (f : Fields) (n : FieldName) (v : FieldValue) :
    f.record n v =
      match n with
      | .message => { f with message := v.toText }
      | .key => { f with key := v.toText }
      | .invocation => { f with invocation := v.toText }
      | .status => { f with status := v.toText }
      | .detail => { f with detail := v.toText }
      | .ok => { f with ok := v.countOr f.ok }
      | .dryRun => { f with dryRun := v.countOr f.dryRun }
      | .failed => { f with failed := v.countOr f.failed } := by
  cases n <;> cases v <;> rfl

theorem record_comm (apart : n ≠ m) (f : Fields) :
    (f.record n v).record m w = (f.record m w).record n v := by
  simp only [record_eq]
  cases n <;> cases m <;> first | rfl | exact absurd rfl apart

/-- Values with different names may be recorded in any order. -/
theorem ofValues_perm {values values' : List (FieldName × FieldValue)}
    (names : (values.map Prod.fst).Nodup) (same : values.Perm values') :
    ofValues values = ofValues values' := by
  apply same.foldl_eq'
  intro a ha b hb f
  by_cases apart : a.1 = b.1
  · rw [List.inj_on_of_nodup_map names ha hb apart]
  · exact record_comm apart f

/-- No text of an event has a newline. -/
structure OnOneLine (f : Fields) : Prop where
  message : OneLine f.message
  key : OneLine f.key
  invocation : OneLine f.invocation
  status : OneLine f.status
  detail : OneLine f.detail

theorem OnOneLine.record (h : f.OnOneLine) (hv : OneLine v.toText) (n : FieldName) :
    (f.record n v).OnOneLine := by
  rw [record_eq]
  cases n with
  | message => exact { h with message := hv }
  | key => exact { h with key := hv }
  | invocation => exact { h with invocation := hv }
  | status => exact { h with status := hv }
  | detail => exact { h with detail := hv }
  | ok | dryRun | failed => exact { h with }

theorem onOneLine_ofValues {values : List (FieldName × FieldValue)}
    (h : ∀ value ∈ values, OneLine value.2.toText) : (ofValues values).OnOneLine := by
  have recorded (f : Fields) (hf : f.OnOneLine) :
      (values.foldl (fun f value => f.record value.1 value.2) f).OnOneLine := by
    induction values generalizing f with
    | nil => exact hf
    | cons value values ih =>
      obtain ⟨first, others⟩ := List.forall_mem_cons.mp h
      exact ih others _ (hf.record first value.1)
  exact recorded {} (by constructor <;> decide)

theorem OnOneLine.detailSuffix (h : f.OnOneLine) : OneLine f.detailSuffix := by
  unfold Fields.detailSuffix
  split
  · decide
  · exact oneLine_append.mpr ⟨oneLine_append.mpr ⟨by decide, h.detail⟩, by decide⟩

end Fields

namespace Event

/-- Topics and levels bring no newline into the line of the log. -/
theorem oneLine_logLine {e : Event} (h : e.fields.OnOneLine) : OneLine e.logLine := by
  unfold logLine
  cases e.topic with
  | stage => exact oneLine_append.mpr ⟨by decide, h.message⟩
  | run =>
    simp only [oneLine_append]
    exact ⟨⟨⟨by decide, h.key⟩, by decide⟩, h.invocation⟩
  | dryRun =>
    simp only [oneLine_append]
    exact ⟨⟨⟨by decide, h.key⟩, by decide⟩, h.invocation⟩
  | outcome =>
    simp only [oneLine_append]
    exact ⟨⟨⟨⟨by decide, h.status⟩, by decide⟩, h.key⟩, h.detailSuffix⟩
  | totals =>
    simp only [oneLine_append, oneLine_toString, and_true]
    exact ⟨⟨⟨⟨⟨by decide, h.message⟩, by decide⟩, by decide⟩, by decide⟩, by decide⟩
  | general => cases e.level <;> exact oneLine_append.mpr ⟨by decide, h.message⟩

/-- An event is one line of the log unless a text that was recorded for it is broken. -/
theorem oneLine_recorded (level : Level) (topic : Topic) {values : List (FieldName × FieldValue)}
    (texts : ∀ name s, (name, FieldValue.text s) ∈ values → OneLine s) :
    OneLine (recorded level topic values).logLine := by
  apply oneLine_logLine
  apply Fields.onOneLine_ofValues
  rintro ⟨name, value⟩ mem
  exact FieldValue.oneLine_toText fun s shape => texts name s (shape ▸ mem)

end Event

end Shortcuts
