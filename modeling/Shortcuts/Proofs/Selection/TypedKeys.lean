import Shortcuts.Proofs.Configuration.FirstFailure
import Shortcuts.Proofs.Entry.Headings
import Shortcuts.Proofs.Entry.RoundTrip
import Shortcuts.Proofs.Selection.FirstFit
import Shortcuts.Proofs.Selection.Prompt

/-!
# Keys at the prompt

A file can give exactly the words for keys (`loadable_iff_word`), and a word may hold a blank that
is not a space. The prompt parts words at every blank, so such a key cannot be typed there, and
every other one can (`typed_key_iff`).
-/

namespace Shortcuts

open Text

/-- The key of a configuration that some file gives on some host. -/
def Loadable (key : String) : Prop :=
  ∃ h text configs, (configurations h text).result = .ok configs ∧ ∃ c ∈ configs, c.key = key

/-- An input of one line. -/
def Input.line (s : String) : Input := .bytes (encode (s.toList ++ ['\n']))

/-! ## Keys that load -/

theorem word_key_of_loaded {h : Host} {text : String} {configs : List Configuration}
    (loaded : (configurations h text).result = .ok configs) {c : Configuration}
    (hc : c ∈ configs) : Word c.key := by
  obtain ⟨entries, read, built⟩ := configurations_eq_ok_iff.mp loaded
  obtain ⟨e, he, from_entry⟩ := exists_builds_of_mem built hc
  cases from_entry
  exact (Grammar.word_of_parse read he).2

theorem loadable_iff_word {key : String} : Loadable key ↔ Word key := by
  constructor
  · rintro ⟨h, text, configs, loaded, c, hc, rfl⟩
    exact word_key_of_loaded loaded hc
  · intro word
    let h : Host := { hostname := .ok "", mounted := fun _ => .ok false }
    let e : Entry := { kind := "prog", key, parameters := [⟨"exe", "/bin/true"⟩] }
    have kind : Word "prog" := by decide
    have program : Parameter.WellFormed ⟨"exe", "/bin/true"⟩ := by decide
    have formed : ∀ d ∈ [e], d.WellFormed :=
      List.forall_mem_singleton.mpr ⟨kind, word, List.forall_mem_singleton.mpr program⟩
    have read : parse (render [e]) = .ok [e] := readLines_render formed
    have built : e.Builds h ⟨key, "prog", ⟨"/bin/true", []⟩⟩ :=
      .intro Kind.program ⟨"/bin/true", []⟩ (by simp [Kind.all]) rfl rfl rfl
    have loaded := configurations_eq_ok_iff.mpr ⟨[e], read, .cons built .nil⟩
    exact ⟨h, render [e], _, loaded, _, List.mem_singleton_self _, rfl⟩

/-! ## Keys that are typed -/

theorem readChoices_line {s : String} (oneLine : OneLine s) :
    (readChoices (Input.line s)).1 = .ok (wordStrings s) := by
  have newline : encode ['\n'] = [0x0A] := rfl
  rw [Input.line, encode_append, newline, readChoices_encode oneLine (endsLine_newline [])]
  rfl

theorem wordStrings_eq_singleton_iff {s : String} (named : s ≠ "") :
    wordStrings s = [s] ↔ Visible s := by
  constructor
  · intro whole
    have mem : s ∈ wordStrings s := by
      rw [whole]
      exact List.mem_singleton_self s
    obtain ⟨w, hw, same⟩ := List.mem_map.mp mem
    rw [Visible, ← same, String.toList_ofList]
    exact visible_of_mem_words hw
  · intro visible
    rw [wordStrings, words_of_visible (by simpa using named) visible, List.map_singleton,
      String.ofList_toList]

theorem two_le_length_wordStrings {s : String} (trimmed : Trimmed s) (parted : ¬Visible s) :
    2 ≤ (wordStrings s).length := by
  obtain ⟨start, finish⟩ := trimmed_iff.mp trimmed
  simp only [Visible, not_forall, Bool.not_eq_false] at parted
  obtain ⟨b, mem, blank⟩ := parted
  rw [wordStrings, List.length_map]
  exact two_le_length_words start finish mem blank

/-- The key of a configuration, where nothing before it has that key or number, picks the
configuration. Typed at the prompt it is read as that one word, and picks the configuration there
too, exactly if there is no blank in it. The keys that files give are the words, which may hold any
blank but a space between visible ends. -/
theorem typed_key_iff {h : Host} {text : String} {configs : List Configuration}
    (loaded : (configurations h text).result = .ok configs) {c : Configuration} {i : Nat}
    (here : configs[i]? = some c) (named : c.key ≠ "all")
    (keys : ∀ d ∈ configs.take i, d.key ≠ c.key) (numbers : ∀ j < i, toString (j + 1) ≠ c.key) :
    select configs [c.key] = .ok [(c, i)] ∧
    ((readChoices (Input.line c.key)).1 = .ok [c.key] ↔ Visible c.key) ∧
    ((readChoices (Input.line c.key)).1.bind (select configs) = .ok [(c, i)] ↔ Visible c.key) ∧
    ∀ key, Loadable key ↔ Word key := by
  have picked : select configs [c.key] = .ok [(c, i)] :=
    (select_one named).mpr ((find?_key_iff here).mpr ⟨keys, numbers⟩)
  obtain ⟨nonempty, -, oneLine, trimmed⟩ :=
    word_key_of_loaded loaded (List.mem_of_getElem? here)
  have alone := wordStrings_eq_singleton_iff nonempty
  rw [readChoices_line oneLine, Except.ok.injEq]
  refine ⟨picked, alone, ?_, fun key => loadable_iff_word⟩
  change select configs (wordStrings c.key) = .ok [(c, i)] ↔ Visible c.key
  constructor
  · intro chosen
    by_contra parted
    have several := two_le_length_wordStrings trimmed parted
    have some_words : wordStrings c.key ≠ ["all"] := by
      intro same
      rw [same] at several
      exact absurd several (by decide)
    have one : [(c, i)].length = (wordStrings c.key).length := length_select chosen some_words
    rw [List.length_singleton] at one
    omega
  · intro visible
    rw [alone.mpr visible]
    exact picked

/-- A key may look like a comment or a header, and a character without width is no blank. -/
theorem typed_key_without_width :
    let text := "[prog 3]\nexe = /bin/x\n[unison #[\u200b]]\nprofile = home\n"
    let h : Host := { hostname := .ok "box", mounted := fun _ => .ok false }
    let x : Configuration := ⟨"3", "prog", ⟨"/bin/x", []⟩⟩
    let c : Configuration := ⟨"#[\u200b]", "unison", ⟨"/usr/bin/unison", ["home"]⟩⟩
    (configurations h text).result = .ok [x, c] ∧ [x, c][1]? = some c ∧ c.key ≠ "all" ∧
      (∀ d ∈ [x, c].take 1, d.key ≠ c.key) ∧ (∀ j < 1, toString (j + 1) ≠ c.key) ∧
      (readChoices (Input.line c.key)).1.bind (select [x, c]) = .ok [(c, 1)] := by
  intro text h x c
  have loaded : (configurations h text).result = .ok [x, c] := by decide +kernel
  have here : [x, c][1]? = some c := rfl
  have named : c.key ≠ "all" := by decide
  have keys : ∀ d ∈ [x, c].take 1, d.key ≠ c.key := by decide
  have numbers : ∀ j < 1, toString (j + 1) ≠ c.key := by decide
  have visible : Visible c.key := by decide
  exact ⟨loaded, here, named, keys, numbers,
    (typed_key_iff loaded here named keys numbers).2.2.1.mpr visible⟩

/-- A tab is no space to the file and a blank to the prompt. -/
theorem tabbed_key_not_typed :
    let text := "[prog a\tb]\nexe = /bin/true\n"
    let h : Host := { hostname := .ok "box", mounted := fun _ => .ok false }
    let c : Configuration := ⟨"a\tb", "prog", ⟨"/bin/true", []⟩⟩
    (configurations h text).result = .ok [c] ∧ [c][0]? = some c ∧ c.key ≠ "all" ∧
      (∀ d ∈ [c].take 0, d.key ≠ c.key) ∧ (∀ j < 0, toString (j + 1) ≠ c.key) ∧
      isBlank '\t' = true ∧ '\t' ∈ c.key.toList ∧
      (readChoices (Input.line c.key)).1 = .ok ["a", "b"] ∧
      (readChoices (Input.line c.key)).1.bind (select [c]) ≠ .ok [(c, 0)] := by
  decide +kernel

end Shortcuts
