import Mathlib.Data.List.Basic
import Shortcuts.Machine.Files

/-!
# Paths

A path is walked by the entries alone (`locate_eq`), and a walk that comes to an end never notices
a new entry where there was none. So a file that was made is found under the path that it was made
for (`locate_create`).
-/

namespace Shortcuts.Machine.Files

open Text

variable {f g : Files} {cwd here l r : Location} {e : Entry} {todo : List Octets} {links : Nat}
  {follow : Bool}

/-! ## Entries -/

theorem entry_set (named : l ≠ []) (f : Files) (e : Entry) (k : Location) :
    entry? (f.set l e) k = if k = l then some e else f.entry? k := by
  unfold entry? set
  split
  · rename_i root
    rw [if_neg (root ▸ named.symm)]
  · split
    · rename_i same
      rw [List.find?_cons_of_pos (by simp [same]), Option.map_some]
    · rename_i other
      have kept : (fun m : Location × Entry => decide ((m.1 != l) = true ∧ (m.1 == k) = true)) =
          fun m => m.1 == k := by
        funext m
        cases same : m.1 == k with
        | false => simp
        | true => simp [eq_of_beq same, other]
      rw [List.find?_cons_of_neg (by simpa using Ne.symm other), List.find?_filter, kept]

theorem isDirectory_iff : f.isDirectory l = true ↔ f.entry? l = some .directory := by
  simp [isDirectory]

/-- Every step of a walk asks for the same entry. -/
theorem walk_eq (entries : g.entries = f.entries) (cwd : Location) (follow : Bool) (links : Nat)
    (here : Location) (todo : List Octets) :
    g.walk cwd follow links here todo = f.walk cwd follow links here todo := by
  have entry (l : Location) : g.entry? l = f.entry? l := by simp only [ entry?, entries]
  have directory (l : Location) : g.isDirectory l = f.isDirectory l := by
    simp only [isDirectory, entry]
  fun_induction f.walk cwd follow links here todo <;> rw [walk] <;> grind

theorem locate_eq (entries : g.entries = f.entries) (cwd : Location) (path : Octets)
    (follow : Bool) : g.locate cwd path follow = f.locate cwd path follow := by
  simp only [locate, walk_eq entries]

/-- A walk that comes to its end has met entries everywhere. -/
theorem walk_set_of_ok (absent : f.entry? l = none)
    (walked : f.walk cwd follow links here todo = .ok r) (e : Entry) :
    (f.set l e).walk cwd follow links here todo = .ok r := by
  have named : l ≠ [] := by
    rintro rfl
    cases absent
  have entry {k : Location} {d : Entry} (there : f.entry? k = some d) :
      entry? (f.set l e) k = some d := by
    rw [entry_set named, if_neg, there]
    rintro rfl
    rw [absent] at there
    cases there
  have directory {k : Location} (there : f.isDirectory k = true) :
      (f.set l e).isDirectory k = true := isDirectory_iff.mpr (entry (isDirectory_iff.mp there))
  fun_induction f.walk cwd follow links here todo <;> rw [walk] <;> grind

theorem walk_concat {last : Octets} (plain : isDots last = false) (short : last.length ≤ nameLimit)
    {number : Nat} (walked : f.walk cwd true links here todo = .ok r)
    (directory : f.isDirectory r = true) (file : f.entry? (r ++ [last]) = some (.file number)) :
    f.walk cwd true links here (todo ++ [last]) = .ok (r ++ [last]) := by
  have one (links : Nat) : f.walk cwd true links r [last] = .ok (r ++ [last]) := by
    simp only [isDots, Bool.or_eq_false_iff] at plain
    rw [walk]
    simp [directory, plain.1, plain.2, file, Nat.not_lt.mpr short, walk]
  generalize shown : true = follow at walked one ⊢
  fun_induction f.walk cwd follow links here todo
  case case1 => grind
  all_goals rw [List.cons_append, walk]; grind

/-! ## Files -/

theorem file?_setContent (f : Files) (number : Nat) (held : Octets) (k : Nat) :
    (f.setContent number held).file? k =
      if number = k then (f.file? k).map fun file => { file with content := .data held }
      else f.file? k := by
  simp only [setContent, file?, Array.getElem?_modify]

theorem mode_setContent (f : Files) (number : Nat) (held : Octets) (k : Nat) :
    ((f.setContent number held).file? k).map File.mode = (f.file? k).map File.mode := by
  rw [file?_setContent]
  split
  · rw [Option.map_map]
    rfl
  · rfl

theorem entries_truncate (f : Files) (number : Nat) : (f.truncate number).entries = f.entries := by
  unfold truncate
  split <;> rfl

theorem file?_truncate {number : Nat} {file : File} {held : Octets}
    (found : f.file? number = some file) (data : file.content = .data held) :
    (f.truncate number).file? number = some { file with content := .data [] } := by
  unfold truncate
  split
  · rename_i d mode device
    cases found.symm.trans device
    cases data
  · rw [file?_setContent, if_pos rfl, found, Option.map_some]

/-- A directory is an entry and no file. -/
theorem files_makeDirectory {path : Octets} (made : f.makeDirectory cwd path = .ok g) :
    g.files = f.files := by
  unfold makeDirectory at made
  split at made
  · cases made
  · split at made
    · cases made
    · split at made
      · cases made
      · obtain rfl := Except.ok.inj made
        rfl

theorem files_makeAll (f : Files) (cwd : Location) (rooted : Bool) (todo : List Octets) :
    (f.makeAll cwd rooted todo).2.files = f.files := by
  induction todo generalizing f with
  | nil => rfl
  | cons name above ih =>
    have upper := ih f
    unfold makeAll
    dsimp only
    split
    · rename_i made
      exact files_makeDirectory made
    · split
      · rfl
      · split
        · rename_i failed
          rwa [failed] at upper
        · rename_i reached
          rw [reached] at upper
          split
          · rename_i made
            exact (files_makeDirectory made).trans upper
          · exact upper

theorem files_makeDirectories (f : Files) (cwd : Location) (path : Octets) :
    (f.makeDirectories cwd path).2.files = f.files := by
  unfold makeDirectories
  split
  · rfl
  · exact files_makeAll ..

/-! ## Opening -/

/-- A path that leads nowhere does not end in a link. -/
def Unlinked (f : Files) (cwd : Location) (path : Octets) : Prop :=
  f.locate cwd path true = .error .noEntry → ∀ l, f.place cwd path = .ok l → f.entry? l = none

variable {path : Octets} {number : Nat} {a : Access}

theorem locate_eq_walk (plain : refusal? path = none) (slash : endsInSlash path = false)
    (follow : Bool) :
    f.locate cwd path follow = f.walk cwd follow linkLimit (start cwd path) (names path) := by
  simp only [locate, plain, slash, Bool.false_eq_true, if_false]

/-- The place of what is missing: the last name of the path, in a directory that the others lead
to. -/
structure Vacant (f : Files) (cwd : Location) (path : Octets) (l : Location) : Prop where
  plain : refusal? path = none
  ending : ∃ before last here, names path = before ++ [last] ∧ l = here ++ [last] ∧
    isDots last = false ∧ last.length ≤ nameLimit ∧
    f.walk cwd true linkLimit (start cwd path) before = .ok here ∧ f.isDirectory here = true

theorem vacant_of_place (missing : f.locate cwd path true = .error .noEntry)
    (slash : endsInSlash path = false) (absent : f.entry? l = none)
    (placed : f.place cwd path = .ok l) : f.Vacant cwd path l := by
  unfold place at placed
  split at placed
  · cases placed
  · obtain rfl := Except.ok.inj placed
    cases absent
  · rename_i last plain ended
    have whole : names path = (names path).dropLast ++ [last] :=
      (List.dropLast_append_getLast? last ended).symm
    split at placed
    · rw [locate_eq_walk plain slash, placed] at missing
      cases missing
    · rename_i other
      split at placed
      · cases placed
      · rename_i here walked
        split at placed
        · cases placed
        · rename_i directory
          split at placed
          · cases placed
          · rename_i short
            obtain rfl := Except.ok.inj placed
            exact ⟨plain, _, last, here, whole, rfl, by simpa using other, Nat.not_lt.mp short,
              walked, by simpa using directory⟩

theorem Vacant.place (vacant : f.Vacant cwd path l) : f.place cwd path = .ok l := by
  obtain ⟨plain, before, last, here, whole, rfl, other, short, walked, directory⟩ := vacant
  have ended : (names path).getLast? = some last := by rw [whole, List.getLast?_concat]
  have above : (names path).dropLast = before := by rw [whole, List.dropLast_concat]
  simp [Files.place, plain, ended, above, other, walked, directory, Nat.not_lt.mpr short]

theorem Vacant.locate_set (vacant : f.Vacant cwd path l) (slash : endsInSlash path = false)
    (absent : f.entry? l = none) (number : Nat) :
    (f.set l (.file number)).locate cwd path true = .ok l := by
  obtain ⟨plain, before, last, here, whole, rfl, other, short, walked, directory⟩ := vacant
  have file : entry? (f.set (here ++ [last]) (.file number)) (here ++ [last]) =
      some (.file number) := by
    rw [entry_set (by simp), if_pos rfl]
  have kept : (f.set (here ++ [last]) (.file number)).isDirectory here = true := by
    rw [isDirectory_iff, entry_set (by simp), if_neg (by simp)]
    exact isDirectory_iff.mp directory
  rw [locate_eq_walk plain slash, whole]
  exact walk_concat other short (walk_set_of_ok absent walked _) kept file

/-- A file that was made is found under its path. -/
theorem locate_create (unlinked : f.Unlinked cwd path)
    (missing : f.locate cwd path true = .error .noEntry)
    (made : f.create cwd path = .ok (number, g)) :
    ∃ l, g.locate cwd path true = .ok l ∧ g.entry? l = some (.file number) := by
  unfold create at made
  split at made
  · cases made
  · rename_i l placed
    have absent := unlinked missing l placed
    split at made
    · cases made
    · rename_i slash
      have slash : endsInSlash path = false := by simpa using slash
      split at made
      · cases made
      · obtain ⟨rfl, rfl⟩ := Prod.mk.inj (Except.ok.inj made)
        have vacant := vacant_of_place missing slash absent placed
        have named : l ≠ [] := by
          rintro rfl
          cases absent
        refine ⟨l, ?_, ?_⟩
        · have same : ((f.add { content := .data [] }).2.set l (.file f.files.size)).entries =
              (f.set l (.file f.files.size)).entries := rfl
          exact (locate_eq same ..).trans (vacant.locate_set slash absent _)
        · exact (entry_set named ..).trans (if_pos rfl)

/-- What was opened under a path is there to be opened again, as long as the entries stay. -/
theorem openFile_again (unlinked : f.Unlinked cwd path)
    (opened : f.openFile cwd path a = .ok (number, g)) {k : Files} (entries : k.entries = g.entries)
    {b : Access} (later : b ≠ .overwrite) : k.openFile cwd path b = .ok (number, k) := by
  obtain ⟨l, located, entry⟩ : ∃ l, g.locate cwd path true = .ok l ∧
      g.entry? l = some (.file number) := by
    unfold openFile at opened
    split at opened
    · rename_i l located
      split at opened
      · rename_i n entry
        obtain ⟨rfl, rfl⟩ := Prod.mk.inj (Except.ok.inj opened)
        have same : (if a = .overwrite then f.truncate n else f).entries = f.entries := by
          split
          · exact entries_truncate ..
          · rfl
        refine ⟨l, (locate_eq same ..).trans located, ?_⟩
        simpa only [ entry?, same] using entry
      · cases opened
    · rename_i e missing
      split at opened
      · rename_i absent
        obtain ⟨rfl, -⟩ := absent
        exact locate_create unlinked missing opened
      · cases opened
  have entry' : k.entry? l = some (.file number) := by
    simpa only [ entry?, entries] using entry
  simp only [openFile, locate_eq entries, located, entry', later, if_false]

end Shortcuts.Machine.Files
