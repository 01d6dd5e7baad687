import Shortcuts.Entry.Parser
import Shortcuts.Proofs.Text.Splitting
import Shortcuts.Proofs.Text.Trimming

/-!
# Forms of a line

Which form a line has is decided by its trimmed text. A header is a text between brackets
(`bracketed_eq_some_iff`), and a line cut at its first equals sign is a parameter unless its ends
make it a comment or a header (`ofLine_parameter`).
-/

namespace Shortcuts

open Text

theorem bracketed_eq_some_iff {t inner : List Char} :
    bracketed t = some inner ↔ t = '[' :: (inner ++ [']']) := by
  constructor
  · intro h
    unfold bracketed at h
    split at h
    · rename_i r
      split at h
      · rename_i closed
        obtain ⟨front, rfl⟩ := List.getLast?_eq_some_iff.mp closed
        rw [List.dropLast_concat] at h
        rw [Option.some.inj h]
      · cases h
    · cases h
  · rintro rfl
    simp [bracketed]

theorem getLast?_bracketed (inner : List Char) :
    ('[' :: (inner ++ [']'])).getLast? = some ']' := by
  rw [← List.cons_append, List.getLast?_concat]

/-- A text with an equals sign is no header when one of its ends is not a bracket. -/
theorem bracketed_around_equals {a b : List Char}
    (h : ¬(a.head? = some '[' ∧ b.getLast? = some ']')) : bracketed (a ++ '=' :: b) = none := by
  rw [Option.eq_none_iff_forall_ne_some]
  intro inner hi
  have shape := bracketed_eq_some_iff.mp hi
  apply h
  constructor
  · cases a with
    | nil => simp at shape
    | cons c a => simp at shape; simp [shape.1]
  · have last := congrArg List.getLast? shape
    rw [getLast?_bracketed] at last
    cases b using List.reverseRecOn with
    | nil => simp at last
    | append_singleton b d =>
      rw [← List.cons_append, ← List.append_assoc, List.getLast?_concat] at last
      rw [List.getLast?_concat, last]

namespace LineForm

theorem ofLine_header {inner : List Char} :
    ofLine ('[' :: (inner ++ [']'])) = .header (trim inner) := by
  have trimmed : trim ('[' :: (inner ++ [']'])) = '[' :: (inner ++ [']']) := by
    apply trim_eq_self
    · intro c hc
      simp at hc
      subst hc
      decide
    · intro c hc
      rw [getLast?_bracketed, Option.some.injEq] at hc
      subst hc
      decide
  rw [ofLine, trimmed, ofTrimmed, bracketed_eq_some_iff.mpr rfl]

theorem ofTrimmed_parameter {a b : List Char} (equals : '=' ∉ a) (comment : a.head? ≠ some '#')
    (header : ¬(a.head? = some '[' ∧ b.getLast? = some ']')) :
    ofTrimmed (a ++ '=' :: b) = .parameter (trim a) (trim b) := by
  have kept : ¬(a ++ '=' :: b = [] ∨ (a ++ '=' :: b).head? = some '#') := by
    cases a with
    | nil => simp
    | cons c a => simpa using comment
  rw [ofTrimmed, bracketed_around_equals header]
  simp only [if_neg kept, cut_append equals]

theorem ofLine_parameter {a b : List Char} (equals : '=' ∉ a)
    (comment : (trimStart a).head? ≠ some '#')
    (header : ¬((trimStart a).head? = some '[' ∧ (trimEnd b).getLast? = some ']')) :
    ofLine (a ++ '=' :: b) = .parameter (trim a) (trim b) := by
  have absent : '=' ∉ trimStart a := fun m => equals ((List.dropWhile_sublist _).subset m)
  rw [ofLine, trim_around (by decide), ofTrimmed_parameter absent comment header,
    trim_trimStart, trim_trimEnd]

end LineForm

namespace Entry

/-- Kind and key are parted by the first space. -/
theorem ofHeader_words {kind key : List Char} (named : kind ≠ []) (kindSpace : ' ' ∉ kind)
    (kindTrimmed : trim kind = kind) (keySpace : ' ' ∉ key) (keyTrimmed : trim key = key) :
    ofHeader (kind ++ ' ' :: key) =
      .ok { kind := String.ofList kind, key := String.ofList key } := by
  simp only [ofHeader, cut_append kindSpace, keyTrimmed, kindTrimmed, if_neg keySpace,
    if_neg named]

end Entry

end Shortcuts
