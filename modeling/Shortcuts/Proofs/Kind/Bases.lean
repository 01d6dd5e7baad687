import Mathlib.Data.List.Basic
import Shortcuts.Kind.Transfer

/-!
# Sources under bases

Where a base and a source meet, one slash of either is dropped and one is written. A slash at an end
of the text in the middle is dropped from either side alike (`dropSlash_dropEndSlash`), so a source
may be put under one base after the other, or under both of them put together (`under_under`).
-/

namespace Shortcuts

/-- The path begins with a slash. -/
def StartsWithSlash (path : String) : Prop := path.toList.head? = some '/'

/-- The path ends with a slash. -/
def EndsWithSlash (path : String) : Prop := path.toList.getLast? = some '/'

instance : DecidablePred StartsWithSlash := fun _ => decEq _ _

instance : DecidablePred EndsWithSlash := fun _ => decEq _ _

/-- The second path is the first with a slash in front, where there was none. -/
def Slashed (path path' : String) : Prop := ¬StartsWithSlash path ∧ path' = "/" ++ path

section Slashes

variable {s t base inner source source' : List Char}

/-! ## One slash at an end -/

theorem dropSlash_of_head? (bare : s.head? ≠ some '/') : dropSlash s = s := by
  unfold dropSlash
  split
  · exact absurd rfl bare
  · rfl

theorem dropSlash_append (given : s ≠ []) (t : List Char) :
    dropSlash (s ++ t) = dropSlash s ++ t := by
  obtain ⟨c, s, rfl⟩ := List.exists_cons_of_ne_nil given
  by_cases slash : c = '/'
  · subst slash
    rfl
  · have bare (r : List Char) : (c :: r).head? ≠ some '/' := fun e => slash (Option.some.inj e)
    rw [List.cons_append, dropSlash_of_head? (bare _), dropSlash_of_head? (bare _)]
    rfl

theorem dropEndSlash_of_getLast? (bare : s.getLast? ≠ some '/') : dropEndSlash s = s :=
  if_neg bare

theorem dropEndSlash_concat (s : List Char) : dropEndSlash (s ++ ['/']) = s := by
  rw [dropEndSlash, if_pos List.getLast?_concat, List.dropLast_concat]

theorem dropEndSlash_append (s : List Char) (given : t ≠ []) :
    dropEndSlash (s ++ t) = s ++ dropEndSlash t := by
  rw [dropEndSlash, dropEndSlash, List.getLast?_append_of_ne_nil s given,
    List.dropLast_append_of_ne_nil given]
  split <;> rfl

theorem dropSlash_ne_nil (given : s ≠ []) (more : s ≠ ['/']) : dropSlash s ≠ [] := by
  intro empty
  unfold dropSlash at empty
  split at empty
  · exact more (by rw [empty])
  · exact given empty

theorem dropEndSlash_ne_nil (given : s ≠ []) (more : s ≠ ['/']) : dropEndSlash s ≠ [] := by
  intro empty
  unfold dropEndSlash at empty
  split at empty
  · rename_i slash
    rw [← List.dropLast_append_getLast? '/' slash, empty] at more
    exact more rfl
  · exact given empty

/-- A text of one character has one end, and a longer one has its two ends apart. -/
theorem dropSlash_dropEndSlash (s : List Char) :
    dropSlash (dropEndSlash s) = dropEndSlash (dropSlash s) := by
  match s with
  | [] => rfl
  | [c] =>
    by_cases slash : c = '/'
    · subst slash
      rfl
    · have start : [c].head? ≠ some '/' := fun e => slash (Option.some.inj e)
      have finish : [c].getLast? ≠ some '/' := start
      rw [dropSlash_of_head? start, dropEndSlash_of_getLast? finish, dropSlash_of_head? start]
  | c :: d :: r =>
    have apart : dropEndSlash (c :: d :: r) = [c] ++ dropEndSlash (d :: r) :=
      dropEndSlash_append [c] (List.cons_ne_nil d r)
    have first : dropSlash (c :: d :: r) = dropSlash [c] ++ d :: r :=
      dropSlash_append (List.cons_ne_nil c []) (d :: r)
    rw [apart, first, dropSlash_append (List.cons_ne_nil c []),
      dropEndSlash_append _ (List.cons_ne_nil d r)]

/-- Sources that are left as one text were the same but for the slash that was dropped. -/
theorem eq_of_dropSlash_eq (same : dropSlash s = dropSlash t) :
    s = t ∨ (t.head? ≠ some '/' ∧ s = '/' :: t) ∨ (s.head? ≠ some '/' ∧ t = '/' :: s) := by
  by_cases hs : s.head? = some '/' <;> by_cases ht : t.head? = some '/'
  · obtain ⟨s, rfl⟩ := List.head?_eq_some_iff.mp hs
    obtain ⟨t, rfl⟩ := List.head?_eq_some_iff.mp ht
    exact .inl (congrArg ('/' :: ·) same)
  · obtain ⟨s, rfl⟩ := List.head?_eq_some_iff.mp hs
    rw [dropSlash_of_head? ht] at same
    exact .inr (.inl ⟨ht, congrArg ('/' :: ·) same⟩)
  · obtain ⟨t, rfl⟩ := List.head?_eq_some_iff.mp ht
    rw [dropSlash_of_head? hs] at same
    exact .inr (.inr ⟨hs, congrArg ('/' :: ·) same.symm⟩)
  · rw [dropSlash_of_head? hs, dropSlash_of_head? ht] at same
    exact .inl same

/-! ## Under a base -/

theorem under_nil (source : List Char) : under [] source = source := if_pos rfl

theorem under_of_ne_nil (given : base ≠ []) (source : List Char) :
    under base source = dropEndSlash base ++ '/' :: dropSlash source :=
  if_neg given

theorem under_ne_nil (given : base ≠ []) (source : List Char) : under base source ≠ [] := by
  rw [under_of_ne_nil given]
  exact List.append_ne_nil_of_right_ne_nil _ (List.cons_ne_nil _ _)

/-- The slash in front of the text in the middle is dropped with what follows it, and the slash at
its end with what stands before it. -/
theorem slash_dropSlash_append (given : inner ≠ []) (t : List Char) :
    '/' :: dropSlash (dropEndSlash inner ++ '/' :: t) =
      dropEndSlash ('/' :: dropSlash inner) ++ '/' :: t := by
  by_cases lone : inner = ['/']
  · subst lone
    rfl
  · have before : dropEndSlash inner ≠ [] := dropEndSlash_ne_nil given lone
    have after : dropSlash inner ≠ [] := dropSlash_ne_nil given lone
    have kept : dropEndSlash ('/' :: dropSlash inner) = ['/'] ++ dropEndSlash (dropSlash inner) :=
      dropEndSlash_append ['/'] after
    rw [dropSlash_append before, dropSlash_dropEndSlash, kept]
    rfl

theorem under_under (base inner source : List Char) :
    under base (under inner source) = under (under base inner) source := by
  by_cases noBase : base = []
  · rw [noBase, under_nil, under_nil]
  by_cases noInner : inner = []
  · have joined : dropEndSlash (under base []) = dropEndSlash base := by
      rw [under_of_ne_nil noBase]
      exact dropEndSlash_concat _
    rw [noInner, under_nil, under_of_ne_nil (under_ne_nil noBase []), joined,
      under_of_ne_nil noBase]
  · calc under base (under inner source)
        = dropEndSlash base ++
            '/' :: dropSlash (dropEndSlash inner ++ '/' :: dropSlash source) := by
          rw [under_of_ne_nil noBase, under_of_ne_nil noInner]
      _ = dropEndSlash base ++
            (dropEndSlash ('/' :: dropSlash inner) ++ '/' :: dropSlash source) := by
          rw [slash_dropSlash_append noInner]
      _ = dropEndSlash (under base inner) ++ '/' :: dropSlash source := by
          rw [under_of_ne_nil noBase, dropEndSlash_append _ (List.cons_ne_nil _ _),
            List.append_assoc]
      _ = under (under base inner) source := by
          rw [under_of_ne_nil (under_ne_nil noBase inner)]

theorem under_slash (given : base ≠ []) (bare : source.head? ≠ some '/') :
    under base ('/' :: source) = under base source := by
  rw [under_of_ne_nil given, under_of_ne_nil given, dropSlash_of_head? bare]
  rfl

theorem under_concat_slash (given : base ≠ []) (bare : base.getLast? ≠ some '/')
    (source : List Char) : under (base ++ ['/']) source = under base source := by
  have longer : base ++ ['/'] ≠ [] := List.append_ne_nil_of_left_ne_nil given _
  rw [under_of_ne_nil longer, under_of_ne_nil given, dropEndSlash_concat,
    dropEndSlash_of_getLast? bare]

theorem dropSlash_eq_of_under_eq (given : base ≠ [])
    (same : under base source = under base source') :
    dropSlash source = dropSlash source' := by
  rw [under_of_ne_nil given, under_of_ne_nil given] at same
  exact (List.cons.inj (List.append_cancel_left same)).2

end Slashes

/-! ## Paths -/

theorem toList_rebase (base source : String) :
    (rebase base source).toList = under base.toList source.toList :=
  String.toList_ofList

theorem toList_slash_append (path : String) : ("/" ++ path).toList = '/' :: path.toList := by
  rw [String.toList_append]
  rfl

theorem rebase_empty (source : String) : rebase "" source = source := by
  apply String.toList_inj.mp
  rw [toList_rebase]
  exact under_nil source.toList

theorem rebase_slash {base source : String} (given : base ≠ "") (bare : ¬StartsWithSlash source) :
    rebase base ("/" ++ source) = rebase base source := by
  rw [rebase, toList_slash_append, under_slash (mt String.toList_eq_nil_iff.mp given) bare, rebase]

theorem eq_or_slashed_of_rebase_eq {base source source' : String} (given : base ≠ "")
    (same : rebase base source = rebase base source') :
    source = source' ∨ Slashed source' source ∨ Slashed source source' := by
  have texts := congrArg String.toList same
  rw [toList_rebase, toList_rebase] at texts
  obtain equal | ⟨bare, longer⟩ | ⟨bare, longer⟩ := eq_of_dropSlash_eq
    (dropSlash_eq_of_under_eq (mt String.toList_eq_nil_iff.mp given) texts)
  · exact .inl (String.toList_inj.mp equal)
  · exact .inr (.inl ⟨bare, String.toList_inj.mp (longer.trans (toList_slash_append _).symm)⟩)
  · exact .inr (.inr ⟨bare, String.toList_inj.mp (longer.trans (toList_slash_append _).symm)⟩)

/-- Bases may be put together first, and an empty one changes nothing. Under a base, a slash in
front of a source without one makes no difference, and neither does a slash at the end of a base
without one. Sources that differ in any other way stay apart. -/
theorem bases_compose :
    (∀ base inner source, rebase base (rebase inner source) = rebase (rebase base inner) source) ∧
    (∀ source, rebase "" source = source) ∧
    (∀ base source, base ≠ "" → ¬StartsWithSlash source →
      rebase base ("/" ++ source) = rebase base source) ∧
    (∀ base source, base ≠ "" → ¬EndsWithSlash base →
      rebase (base ++ "/") source = rebase base source) ∧
    ∀ base source source', rebase base source = rebase base source' ↔
      source = source' ∨ base ≠ "" ∧ (Slashed source' source ∨ Slashed source source') := by
  refine ⟨?_, rebase_empty, fun _ _ => rebase_slash, ?_, ?_⟩
  · intro base inner source
    apply String.toList_inj.mp
    simp only [toList_rebase, under_under]
  · intro base source given bare
    apply String.toList_inj.mp
    rw [toList_rebase, toList_rebase, String.toList_append]
    exact under_concat_slash (mt String.toList_eq_nil_iff.mp given) bare source.toList
  · intro base source source'
    constructor
    · intro same
      by_cases noBase : base = ""
      · rw [noBase, rebase_empty, rebase_empty] at same
        exact .inl same
      · exact (eq_or_slashed_of_rebase_eq noBase same).imp_right fun slashed => ⟨noBase, slashed⟩
    · rintro (rfl | ⟨given, ⟨bare, rfl⟩ | ⟨bare, rfl⟩⟩)
      · rfl
      · exact rebase_slash given bare
      · exact (rebase_slash given bare).symm

/-- The base in the middle is a lone slash, or two of them. -/
theorem bases_compose_around_slashes :
    rebase "/mnt/" (rebase "/" "/a") = rebase (rebase "/mnt/" "/") "/a" ∧
    rebase "/mnt/" (rebase "//" "//a") = rebase (rebase "/mnt/" "//") "//a" ∧
    rebase "nas:" (rebase "" "a") = rebase (rebase "nas:" "") "a" ∧ rebase "" "//a" = "//a" ∧
    "//" ≠ "" ∧ ¬StartsWithSlash "a" ∧ rebase "//" ("/" ++ "a") = rebase "//" "a" ∧
    "nas:" ≠ "" ∧ ¬EndsWithSlash "nas:" ∧ rebase ("nas:" ++ "/") "/a" = rebase "nas:" "/a" ∧
    rebase "nas:" "/a" ≠ rebase "nas:" "//a" ∧ rebase "nas:" "" = rebase "nas:" "/" := by
  obtain ⟨compose, empty, start, finish, apart⟩ := bases_compose
  refine ⟨compose _ _ _, compose _ _ _, compose _ _ _, empty _, by decide, by decide,
    start _ _ (by decide) (by decide), by decide, by decide, finish _ _ (by decide) (by decide),
    fun same => ?_, (apart "nas:" "" "/").mpr (.inr ⟨by decide, .inr ⟨by decide, rfl⟩⟩)⟩
  obtain equal | ⟨-, ⟨bare, -⟩ | ⟨bare, -⟩⟩ := (apart "nas:" "/a" "//a").mp same
  · exact absurd equal (by decide)
  · exact bare (by decide)
  · exact bare (by decide)

end Shortcuts
