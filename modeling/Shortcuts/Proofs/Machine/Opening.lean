import Shortcuts.Machine.Launching
import Shortcuts.Proofs.Machine.Files
import Shortcuts.Proofs.Text.Octets

/-!
# Open files

What is appended goes to the end of a file, wherever the opening stands (`write_appending`). A text
that was written to a file is read back from it (`readText_of_writeText`).
-/

namespace Shortcuts.Machine

open Text

/-- An ordinary file that holds this. -/
def Holds (f : Files) (number : Nat) (held : Octets) : Prop :=
  ∃ file, f.file? number = some file ∧ file.content = .data held

namespace Holds

variable {f : Files} {number : Nat} {held : Octets}

theorem setContent (h : Holds f number held) (held' : Octets) :
    Holds (f.setContent number held') number held' := by
  obtain ⟨file, found, -⟩ := h
  refine ⟨{ file with content := .data held' }, ?_, rfl⟩
  rw [Files.file?_setContent, if_pos rfl, found, Option.map_some]

theorem truncate (h : Holds f number held) : Holds (f.truncate number) number [] := by
  obtain ⟨file, found, data⟩ := h
  exact ⟨_, Files.file?_truncate found data, rfl⟩

end Holds

namespace System

variable {s : System} {k number : Nat} {o : Opening} {held : Octets}

theorem content?_eq (opened : s.openings[k]? = some o) (holds : Holds s.files o.file held) :
    s.content? k = some (.data held) := by
  obtain ⟨file, found, data⟩ := holds
  rw [content?, opened, Option.bind_some, found, Option.map_some, data]

theorem openings_seek (s : System) (k : Nat) (move : Nat → Nat) (i : Nat) :
    (s.seek k move).openings[i]? =
      if k = i then s.openings[i]?.map fun o => { o with offset := move o.offset }
      else s.openings[i]? :=
  Array.getElem?_modify

/-- What is appended goes to the end, wherever the place of the opening is. -/
theorem write_appending (opened : s.openings[k]? = some o) (appending : o.appending = true)
    (holds : Holds s.files o.file held) (text : Octets) :
    s.write k text =
      (true, { s with files := s.files.setContent o.file (held ++ text) }.seek k fun _ =>
        held.length + text.length) := by
  have none_left : held.drop (held.length + text.length) = [] :=
    List.drop_eq_nil_of_le (Nat.le_add_right ..)
  simp only [write, opened, content?_eq opened holds, appending, if_true, List.take_length,
    Nat.sub_self, List.replicate_zero, none_left, List.append_nil]

theorem write_empty (opened : s.openings[k]? = some o) (start : o.offset = 0)
    (holds : Holds s.files o.file []) (text : Octets) :
    s.write k text =
      (true, { s with files := s.files.setContent o.file text }.seek k fun _ => text.length) := by
  simp [write, opened, content?_eq opened holds, start]

/-- From its start an ordinary file is read whole. -/
theorem read_start (opened : s.openings[k]? = some o) (start : o.offset = 0)
    (holds : Holds s.files o.file held) :
    s.read k none = (held, s.seek k (· + held.length)) := by
  have rest : s.remaining k = held := by
    simp only [remaining, opened, content?_eq opened holds, start, List.drop_zero]
  simp only [read, content?_eq opened holds, rest]

theorem openPath_of_holds {t : Descriptors} {cwd : Location} {path : Octets} {a : Access}
    {f : Files} (opened : s.files.openFile cwd path a = .ok (number, f))
    (holds : Holds f number held) :
    s.openPath t cwd path a = .ok ({ s with files := f }.openNumber number a) := by
  obtain ⟨⟨content, mode⟩, found, data⟩ := holds
  cases data
  simp only [openPath, opened, found]

theorem openings_openNumber (s : System) (number : Nat) (a : Access) :
    (s.openNumber number a).2.openings[(s.openNumber number a).1]? =
      some { file := number, appending := decide (a = .append) } := by
  simp [openNumber, openFile]

end System

/-! ## Texts -/

/-- Under the path stands an ordinary file, or one can be made there. -/
structure Writable (m : Machine) (path : String) (number : Nat) : Prop where
  unlinked : m.system.files.Unlinked m.directory (octets path)
  opened : ∃ f held, m.system.files.openFile m.directory (octets path) .overwrite = .ok (number, f) ∧
    Holds f number held

theorem writable_of_file {m : Machine} {path : String} {number : Nat} {l : Location}
    {held : Octets} (located : m.system.files.locate m.directory (octets path) true = .ok l)
    (entry : m.system.files.entry? l = some (.file number))
    (holds : Holds m.system.files number held) : m.Writable path number where
  unlinked missing := by
    rw [located] at missing
    cases missing
  opened := ⟨_, [], by simp only [Files.openFile, located, entry, if_true], holds.truncate⟩

theorem writable_of_vacant {m : Machine} {path : String} {l : Location}
    (vacant : m.system.files.Vacant m.directory (octets path) l)
    (missing : m.system.files.locate m.directory (octets path) true = .error .noEntry)
    (absent : m.system.files.entry? l = none) (free : Files.barred? l = none)
    (slash : endsInSlash (octets path) = false) :
    m.Writable path m.system.files.files.size where
  unlinked _ k placed := by
    rw [vacant.place] at placed
    obtain rfl := Except.ok.inj placed
    exact absent
  opened := by
    have made : m.system.files.create m.directory (octets path) = .ok (m.system.files.files.size,
        (m.system.files.add { content := .data [] }).2.set l (.file m.system.files.files.size)) := by
      simp only [Files.create, vacant.place, slash, free, Bool.false_eq_true, if_false]
      rfl
    refine ⟨_, [], by simpa [Files.openFile, missing] using made, ?_⟩
    exact ⟨{ content := .data [] }, Array.getElem?_push_size, rfl⟩

/-- The path leads to the file, and does so as long as the entries stay. -/
def LeadsTo (m : Machine) (path : String) (number : Nat) : Prop :=
  ∀ files : Files, files.entries = m.system.files.entries →
    ∀ a : Access, a ≠ .overwrite →
      files.openFile m.directory (octets path) a = .ok (number, files)

variable {m : Machine} {path : String} {number : Nat}

/-- Writing a text leaves a file that holds it and nothing else. -/
theorem writeText_of_writable (writable : m.Writable path number) (text : String) :
    ∃ system, m.writeText (some path) text = (true, { m with system }) ∧
      Holds system.files number (octets text) ∧
      LeadsTo { m with system } path number := by
  obtain ⟨f, held, opened, holds⟩ := writable.opened
  generalize at_open : ({ m.system with files := f } : System).openNumber number .overwrite = o
  have empty : Holds o.2.files number [] := by
    rw [← at_open]
    exact holds.truncate
  have entries : o.2.files.entries = f.entries := by
    rw [← at_open]
    exact Files.entries_truncate ..
  have place : o.2.openings[o.1]? = some { file := number } := by
    rw [← at_open]
    exact System.openings_openNumber ..
  let written : System :=
    { o.2 with files := o.2.files.setContent number (octets text) }.seek o.1 fun _ =>
      (octets text).length
  refine ⟨written, ?_, empty.setContent (octets text), fun k same a later => ?_⟩
  · simp only [writeText, Machine.openFile, System.openPath_of_holds opened holds, at_open,
      System.write_empty place rfl empty]
    rfl
  · exact Files.openFile_again writable.unlinked opened (same.trans entries) later

/-- A text is read back from where it was written. -/
theorem readText_of_writeText (writable : m.Writable path number) (plain : '\x00' ∉ path.toList)
    (text : String) : ((m.writeText (some path) text).2.readText path).1 = .ok text := by
  obtain ⟨system, written, holds, leads⟩ := writeText_of_writable writable text
  have opened := leads system.files rfl .read (by decide)
  have taken := System.read_start (System.openings_openNumber system number .read) rfl holds
  simp only [written, readText, plain, if_false, System.openPath_of_holds opened holds, taken,
    decode?_octets, String.ofList_toList]

end Shortcuts.Machine
