import Shortcuts.Event.Rendering
import Shortcuts.Proofs.Invocation.Quoting
import Shortcuts.Proofs.Running.Announcements
import Shortcuts.Proofs.Selection.TypedKeys

/-!
# Announcements in the log

The log tells of a run and of a dry run by lines that differ in a mark before the command line. Such
a line can be read back (`announcement_read_back`): a key has no space, so the first one after it
ends it, and no command line starts as the mark does, because a bracket is quoted.
-/

namespace Shortcuts

open Text

/-- A run, or a dry run, of an invocation under a key without a space. -/
structure Announcement where
  dryRun : Bool
  key : String
  invocation : Invocation
  spaceless : ' ' ∉ key.toList
  deriving DecidableEq

/-- The event announces this, whatever its level and its other fields. -/
structure Event.Tells (e : Event) (a : Announcement) : Prop where
  topic : e.topic = noticeTopic a.dryRun
  key : e.fields.key = a.key
  invocation : e.fields.invocation = a.invocation.display

/-! ## Reading a line -/

/-- What stands before the command line of a dry run. -/
def dryMark : List Char := ['[', 'd', 'r', 'y', ' ', 'r', 'u', 'n', ']', ' ']

/-- Take the mark of a dry run off. -/
def unmark (shown : List Char) : Bool × List Char :=
  if dryMark.isPrefixOf shown then (true, shown.drop dryMark.length) else (false, shown)

def Invocation.ofWords? : List (List Char) → Option Invocation
  | [] => none
  | program :: args => some ⟨String.ofList program, args.map String.ofList⟩

def Invocation.ofLine? (line : List Char) : Option Invocation :=
  (splitWords .gap line).bind ofWords?

/-- An announcement of what stands before and after the second space of a line. -/
def Announcement.ofParts? (label shown : List Char) : Option Announcement :=
  let key := String.ofList label.dropLast
  if spaceless : ' ' ∉ key.toList then
    (Invocation.ofLine? (unmark shown).2).map fun invocation =>
      { dryRun := (unmark shown).1, key, invocation, spaceless }
  else none

/-- Read a line of the log: an arrow, the key with a colon, and the command line. -/
def Announcement.ofLine? (line : String) : Option Announcement :=
  match cut ' ' line.toList with
  | none => none
  | some (_, told) =>
    match cut ' ' told with
    | none => none
    | some (label, shown) => ofParts? label shown

/-! ## Command lines -/

theorem head?_quote_ne_bracket (w rest : List Char) : (quote w ++ rest).head? ≠ some '[' := by
  unfold quote
  split
  · rename_i plain
    obtain ⟨named, plain⟩ := plain
    obtain ⟨c, w, rfl⟩ := List.exists_cons_of_ne_nil named
    intro first
    obtain rfl : c = '[' := Option.some.inj first
    exact absurd (List.all_eq_true.mp plain '[' List.mem_cons_self) (by decide)
  · rw [List.cons_append, List.cons_append, List.head?_cons]
    decide

theorem line_not_marked (i : Invocation) : dryMark.isPrefixOf i.line = false := by
  rw [← Bool.not_eq_true, List.isPrefixOf_iff_prefix]
  rintro ⟨rest, same⟩
  have first : (dryMark ++ rest).head? = some '[' := rfl
  rw [same] at first
  exact head?_quote_ne_bracket _ _ first

theorem unmark_line (i : Invocation) : unmark i.line = (false, i.line) :=
  if_neg (by rw [line_not_marked]; exact Bool.false_ne_true)

theorem unmark_dryMark (line : List Char) : unmark (dryMark ++ line) = (true, line) := by
  have marked : dryMark.isPrefixOf (dryMark ++ line) = true :=
    List.isPrefixOf_iff_prefix.mpr (List.prefix_append _ _)
  rw [unmark, if_pos marked, List.drop_left]

theorem Invocation.ofLine?_line (i : Invocation) : ofLine? i.line = some i := by
  simp [ofLine?, splitWords_words, words, ofWords?]

/-! ## Announcements -/

namespace Announcement

variable {a : Announcement} {e : Event}

/-- What follows the key and its colon. -/
def shown (a : Announcement) : List Char :=
  if a.dryRun then dryMark ++ a.invocation.line else a.invocation.line

theorem unmark_shown (a : Announcement) : unmark a.shown = (a.dryRun, a.invocation.line) := by
  unfold shown
  cases a.dryRun with
  | true => exact unmark_dryMark a.invocation.line
  | false => exact unmark_line a.invocation

theorem toList_logLine (told : e.Tells a) :
    e.logLine.toList =
      ['=', '=', '>'] ++ ' ' :: ((a.key.toList ++ [':']) ++ ' ' :: a.shown) := by
  obtain ⟨topic, key, invocation⟩ := told
  unfold shown
  cases dry : a.dryRun with
  | true =>
    have line : e.logLine = "==> " ++ a.key ++ ": [dry run] " ++ a.invocation.display := by
      simp only [Event.logLine, topic, dry, noticeTopic, if_true, key, invocation]
    rw [line]
    simp [Invocation.display, dryMark]
  | false =>
    have line : e.logLine = "==> " ++ a.key ++ ": " ++ a.invocation.display := by
      simp only [Event.logLine, topic, dry, noticeTopic, Bool.false_eq_true, if_false, key,
        invocation]
    rw [line]
    simp [Invocation.display]

theorem ofParts?_label (a : Announcement) :
    ofParts? (a.key.toList ++ [':']) a.shown = some a := by
  simp only [ofParts?, List.dropLast_concat, String.ofList_toList, unmark_shown,
    Invocation.ofLine?_line, dif_pos a.spaceless, Option.map_some]

theorem ofLine?_logLine (told : e.Tells a) : ofLine? e.logLine = some a := by
  have arrow : ' ' ∉ ['=', '=', '>'] := by decide
  have label : ' ' ∉ a.key.toList ++ [':'] := by simpa using a.spaceless
  simp only [ofLine?, toList_logLine told, cut_append arrow, cut_append label, ofParts?_label]

end Announcement

theorem Configuration.notice_tells {c : Configuration} (loadable : Loadable c.key)
    (dryRun : Bool) : ∃ a : Announcement, a.dryRun = dryRun ∧ (c.notice dryRun).Tells a := by
  have word := loadable_iff_word.mp loadable
  refine ⟨⟨dryRun, c.key, c.invocation, word.2.1⟩, rfl, ?_⟩
  cases dryRun <;> exact ⟨rfl, rfl, rfl⟩

/-- A line of the log that announces something is read back as what it announces: no other
announcement has that line, nor has the title of the summary, nor what any configuration of a file
is announced by in the other mode. -/
theorem announcement_read_back {a : Announcement} {e : Event} (told : e.Tells a) :
    Announcement.ofLine? e.logLine = some a ∧
    (∀ (b : Announcement) (f : Event), f.Tells b → e.logLine = f.logLine → a = b) ∧
    e.logLine ≠ (Event.stage "Summary").logLine ∧
    ∀ c : Configuration, Loadable c.key → e.logLine ≠ (c.notice !a.dryRun).logLine := by
  have read := Announcement.ofLine?_logLine told
  have unique (b : Announcement) (f : Event) (other : f.Tells b) (same : e.logLine = f.logLine) :
      a = b := by
    rw [same, Announcement.ofLine?_logLine other] at read
    exact (Option.some.inj read).symm
  refine ⟨read, unique, ?_, ?_⟩
  · intro same
    have summary : Announcement.ofLine? (Event.stage "Summary").logLine = none := by decide
    rw [same, summary] at read
    cases read
  · intro c loadable same
    obtain ⟨b, mode, other⟩ := c.notice_tells loadable !a.dryRun
    rw [← unique b _ other same] at mode
    simp at mode

/-- A real run of a program that is named like a dry run, under a key that ends like a label. -/
theorem announcement_read_back_marked_program :
    let a : Announcement := ⟨false, "a:", ⟨"[dry run] /bin/x", ["", "it's\n"]⟩, by decide⟩
    let e : Event :=
      { level := .debug, topic := .run
        fields := { message := "b", key := "a:", invocation := a.invocation.display, ok := 2 } }
    e.Tells a ∧ e.logLine = "==> a:: '[dry run] /bin/x' '' 'it'\\''s\n'" ∧
      Announcement.ofLine? e.logLine = some a ∧
      ∀ c : Configuration, Loadable c.key → e.logLine ≠ (c.notice true).logLine := by
  intro a e
  have told : e.Tells a := ⟨rfl, rfl, rfl⟩
  have back := announcement_read_back told
  exact ⟨told, by decide, back.1, back.2.2.2⟩

end Shortcuts
