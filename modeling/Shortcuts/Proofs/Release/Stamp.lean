import Shortcuts.Proofs.Text.Encoding
import Shortcuts.Proofs.Text.Splitting
import Shortcuts.Proofs.Text.Trimming
import Shortcuts.Release.WorkingCopy

/-!
# Reading the directives

A build tool reads the directives line by line. A stamp without a newline arrives there as it is,
and with or without one the tool learns what calls for a new stamp (`readDirectives_directives`).
A version that is given goes before any description (`stamp?_given`), and a description loses the
newline that the command ends it with (`stamp?_described`). On a machine, a build is stamped with what
the describing command writes there, if it succeeds (`readDirectives_described`).
-/

namespace Shortcuts.Release

open Text

/-- The name and the value of a directive on a line. -/
def readDirective? (line : List Char) : Option (List Char × List Char) :=
  match cut ':' line with
  | some (tool, rest) => if tool = "cargo".toList then cut '=' rest else none
  | none => none

def readDirectives (text : String) : List (List Char × List Char) :=
  (pieces '\n' text.toList).filterMap readDirective?

section Reading

variable {name : String} {value : List Char}

theorem readDirective?_line (named : '=' ∉ name.toList) (value : List Char) :
    readDirective? ("cargo:".toList ++ name.toList ++ '=' :: value) = some (name.toList, value) := by
  have tool : cut ':' ("cargo:".toList ++ name.toList ++ '=' :: value) =
      some ("cargo".toList, name.toList ++ '=' :: value) := by
    rw [List.append_assoc]
    exact cut_append (a := "cargo".toList) (by decide) _
  rw [readDirective?, tool]
  exact (if_pos rfl).trans (cut_append named value)

/-- A directive is a line of its own, whatever follows. -/
theorem readDirectives_directive (named : '=' ∉ name.toList) (short : '\n' ∉ name.toList)
    (line : '\n' ∉ value) (rest : String) :
    readDirectives (directive name value ++ rest) =
      (name.toList, value) :: readDirectives rest := by
  have whole : '\n' ∉ "cargo:".toList ++ name.toList ++ '=' :: value := by
    simp only [List.mem_append, List.mem_cons, not_or]
    exact ⟨⟨by decide, short⟩, by decide, line⟩
  have text : (directive name value ++ rest).toList =
      ("cargo:".toList ++ name.toList ++ '=' :: value) ++ '\n' :: rest.toList := by
    simp [directive]
  rw [readDirectives, text, pieces_around, pieces_of_not_mem whole, List.filterMap_append]
  simp only [List.filterMap_cons, List.filterMap_nil, readDirective?_line named]
  rfl

/-- What the tool is told on every build. -/
def dependencyDirectives : List (List Char × List Char) :=
  [("rerun-if-changed", ".git/HEAD"), ("rerun-if-changed", ".git/refs/"),
    ("rerun-if-env-changed", "QUICKLINKS_VERSION")].map fun d => (d.1.toList, d.2.toList)

theorem readDirectives_dependencies : readDirectives dependencies = dependencyDirectives := by
  decide +kernel

end Reading

section Stamps

variable {given described : Option Bytes}

/-- The tool reads the stamp as it is, then what calls for a new one. -/
theorem readDirectives_directives
    (line : ∀ version, stamp? given described = some version → '\n' ∉ version) :
    readDirectives (directives given described) =
      ((stamp? given described).map fun version =>
        ("rustc-env".toList, "QUICKLINKS_VERSION=".toList ++ version)).toList ++
        dependencyDirectives := by
  unfold directives
  cases stamped : stamp? given described with
  | none => exact readDirectives_dependencies
  | some version =>
    have value : '\n' ∉ "QUICKLINKS_VERSION=".toList ++ version := by
      rw [List.mem_append, not_or]
      exact ⟨by decide, line version stamped⟩
    exact (readDirectives_directive (by decide) (by decide) value dependencies).trans
      (congrArg (_ :: ·) readDirectives_dependencies)

theorem stamp?_given (version : List Char) (described : Option Bytes) :
    stamp? (some (encode version)) described = some version := by
  simp only [stamp?, Option.bind_some, decode?_encode]

/-- A version that is no text is passed over. -/
theorem stamp?_described (unread : given.bind decode? = none) {description : List Char}
    (trimmed : trim description = description) :
    stamp? given (some (encode (description ++ ['\n']))) = some description := by
  rw [stamp?, unread, Option.map_some, decodeLossy_encode, trim_append_blank (by decide), trimmed]

/-- Without a version and a description nothing is set. -/
theorem stamp?_eq_none_iff :
    stamp? given described = none ↔ given.bind decode? = none ∧ described = none := by
  unfold stamp?
  cases given.bind decode? <;> simp

end Stamps

section Machines

variable {m m' : Machine} {r : Machine.Ran}

/-- What a command wrote counts as a description if it ended with the code 0, and only then. -/
theorem described?_eq_some_iff {written : Bytes} :
    m.described? = some written ↔
      ∃ r m', m.spawn describeProgram describeArgs = .ok (r, m') ∧ r.exit = .code 0 ∧
        r.out = written := by
  unfold Machine.described?
  cases m.spawn describeProgram describeArgs with
  | error e => simp
  | ok ran =>
    obtain ⟨r, m'⟩ := ran
    simp [Machine.Exit.success]

/-- A build that is given no version is stamped with the description of the working copy. -/
theorem readDirectives_described (ran : m.spawn describeProgram describeArgs = .ok (r, m'))
    (succeeded : r.exit = .code 0) {description : List Char}
    (wrote : r.out = encode (description ++ ['\n'])) (trimmed : trim description = description)
    (line : '\n' ∉ description) :
    readDirectives (m.directives none) =
      ("rustc-env".toList, "QUICKLINKS_VERSION=".toList ++ description) :: dependencyDirectives := by
  have described : m.described? = some (encode (description ++ ['\n'])) :=
    described?_eq_some_iff.mpr ⟨r, m', ran, succeeded, wrote⟩
  have stamped : stamp? none m.described? = some description := by
    rw [described]
    exact stamp?_described rfl trimmed
  have whole : ∀ version, stamp? none m.described? = some version → '\n' ∉ version := by
    rw [stamped]
    rintro version ⟨⟩
    exact line
  rw [Machine.directives, readDirectives_directives whole, stamped]
  rfl

end Machines

end Shortcuts.Release
