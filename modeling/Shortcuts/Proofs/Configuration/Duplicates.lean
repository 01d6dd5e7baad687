import Mathlib.Data.List.Basic
import Mathlib.Data.List.Induction
import Shortcuts.Configuration.Basic

/-!
# Duplicate keys

The keys that a session warns of are those that several configurations have
(`mem_duplicateKeys_iff`). They come in the order in which they are repeated, which is the order in
which they are first seen only if no key is repeated before an earlier one
(`duplicateKeys_by_repetition`).
-/

namespace Shortcuts

theorem mem_repeated_iff {seen found keys : List String} {key : String} :
    key ∈ repeated seen found keys ↔
      key ∈ found ∨ key ∈ keys ∧ key ∈ seen ∨ 2 ≤ keys.count key := by
  induction keys generalizing seen found with
  | nil => simp [repeated]
  | cons k keys ih =>
    by_cases known : k ∈ seen
    · have marked : key ∈ (if k ∈ found then found else found ++ [k]) ↔ key ∈ found ∨ key = k := by
        split <;> grind
      rw [repeated, if_pos known, ih, marked]
      by_cases same : key = k
      · simp [same, known]
      · simp [same, List.count_cons_of_ne (Ne.symm same)]
    · rw [repeated, if_neg known, ih]
      by_cases same : key = k
      · subst same
        -- The key is now seen, so one more of it is a second one.
        have again : key ∈ keys ∨ 2 ≤ keys.count key ↔ 2 ≤ keys.count key + 1 := by
          rw [← List.count_pos_iff]
          omega
        simp [known, List.count_cons_self, again]
      · simp [same, List.count_cons_of_ne (Ne.symm same)]

theorem mem_repeated_nil_iff {keys : List String} {key : String} :
    key ∈ repeated [] [] keys ↔ 2 ≤ keys.count key := by
  simp [mem_repeated_iff]

theorem mem_duplicateKeys_iff {configs : List Configuration} {key : String} :
    key ∈ duplicateKeys configs ↔ 2 ≤ (configs.map Configuration.key).count key :=
  mem_repeated_nil_iff

/-! ## Positions -/

theorem idxOfNth_append_of_lt_count {keys : List String} {key : String} {n : Nat}
    (here : n < keys.count key) (more : List String) :
    (keys ++ more).idxOfNth key n = keys.idxOfNth key n := by
  induction keys generalizing n with
  | nil => cases here
  | cons k keys ih => grind

theorem idxOfNth_concat_self (keys : List String) (key : String) :
    (keys ++ [key]).idxOfNth key (keys.count key) = keys.length := by
  induction keys with
  | nil => simp
  | cons k keys ih => grind

/-- Of two orders on the elements of a list that is sorted by the one, it is sorted by the other if
they agree. -/
theorem pairwise_lt_iff {keys : List String} {place first : String → Nat}
    (sorted : keys.Pairwise fun a b => place a < place b)
    (apart : ∀ a ∈ keys, ∀ b ∈ keys, first a = first b → a = b) :
    keys.Pairwise (fun a b => first a < first b) ↔
      ∀ a ∈ keys, ∀ b ∈ keys, first a < first b → place a < place b := by
  constructor
  · intro other a ha b hb earlier
    obtain ⟨i, hi, rfl⟩ := List.getElem_of_mem ha
    obtain ⟨j, hj, rfl⟩ := List.getElem_of_mem hb
    obtain before | rfl | after := Nat.lt_trichotomy i j
    · exact List.pairwise_iff_getElem.mp sorted i j hi hj before
    · exact absurd earlier (Nat.lt_irrefl _)
    · exact absurd (List.pairwise_iff_getElem.mp other j i hj hi after) (Nat.lt_asymm earlier)
  · intro agree
    refine sorted.imp_of_mem fun {a b} ha hb placed => ?_
    obtain earlier | same | later := Nat.lt_trichotomy (first a) (first b)
    · exact earlier
    · rw [apart a ha b hb same] at placed
      exact absurd placed (Nat.lt_irrefl _)
    · have := agree b hb a ha later
      omega

/-! ## Order -/

/-- One more key is found if it is the second of its name. -/
theorem repeated_concat (keys : List String) (key : String) :
    repeated [] [] (keys ++ [key]) =
      if keys.count key = 1 then repeated [] [] keys ++ [key] else repeated [] [] keys := by
  have last (seen found : List String) :
      repeated seen found (keys ++ [key]) =
        if (key ∈ keys ∨ key ∈ seen) ∧ key ∉ repeated seen found keys
        then repeated seen found keys ++ [key] else repeated seen found keys := by
    induction keys generalizing seen found with
    | nil => by_cases known : key ∈ seen <;> by_cases old : key ∈ found <;> simp [repeated, *]
    | cons k keys ih =>
      rw [List.cons_append, repeated]
      by_cases known : k ∈ seen
      · rw [if_pos known, ih, repeated, if_pos known]
        grind
      · rw [if_neg known, ih, repeated, if_neg known]
        grind
  have second : (key ∈ keys ∨ key ∈ []) ∧ key ∉ repeated [] [] keys ↔ keys.count key = 1 := by
    rw [mem_repeated_nil_iff, or_iff_left List.not_mem_nil, ← List.count_pos_iff]
    omega
  rw [last, if_congr second rfl rfl]

theorem repeated_by_repetition (keys : List String) :
    (repeated [] [] keys).Pairwise fun a b => keys.idxOfNth a 1 < keys.idxOfNth b 1 := by
  induction keys using List.reverseRecOn with
  | nil => exact .nil
  | append_singleton keys key ih =>
    have kept {a : String} (found : a ∈ repeated [] [] keys) :
        (keys ++ [key]).idxOfNth a 1 = keys.idxOfNth a 1 :=
      idxOfNth_append_of_lt_count (mem_repeated_nil_iff.mp found) [key]
    have before : (repeated [] [] keys).Pairwise fun a b =>
        (keys ++ [key]).idxOfNth a 1 < (keys ++ [key]).idxOfNth b 1 :=
      ih.imp_of_mem fun ha hb earlier => by rwa [kept ha, kept hb]
    rw [repeated_concat]
    split
    · rename_i once
      have here : (keys ++ [key]).idxOfNth key 1 = keys.length :=
        once ▸ idxOfNth_concat_self keys key
      refine List.pairwise_append.mpr ⟨before, List.pairwise_singleton _ _, ?_⟩
      intro a found b self
      rw [List.mem_singleton.mp self, here, kept found]
      exact List.idxOfNth_lt_length_of_lt_count (mem_repeated_nil_iff.mp found)
    · exact before

/-- Each key of several configurations is found once, by where it stands for the second time. These
places are in the order of the first ones if of two such keys the one that is seen first is repeated
first too. -/
theorem duplicateKeys_by_repetition (configs : List Configuration) :
    let keys := configs.map Configuration.key
    let found := duplicateKeys configs
    (∀ key, key ∈ found ↔ 2 ≤ keys.count key) ∧ found.Nodup ∧
    found.Pairwise (fun a b => keys.idxOfNth a 1 < keys.idxOfNth b 1) ∧
    (found.Pairwise (fun a b => keys.idxOf a < keys.idxOf b) ↔
      ∀ a b, 2 ≤ keys.count a → 2 ≤ keys.count b → keys.idxOf a < keys.idxOf b →
        keys.idxOfNth a 1 < keys.idxOfNth b 1) := by
  intro keys found
  have mem (key : String) : key ∈ found ↔ 2 ≤ keys.count key := mem_duplicateKeys_iff
  have sorted : found.Pairwise fun a b => keys.idxOfNth a 1 < keys.idxOfNth b 1 :=
    repeated_by_repetition keys
  have once : found.Nodup := by
    refine sorted.imp fun earlier => ?_
    rintro rfl
    exact Nat.lt_irrefl _ earlier
  have apart (a : String) (ha : a ∈ found) (b : String) (_ : b ∈ found)
      (same : keys.idxOf a = keys.idxOf b) : a = b := by
    have present : 0 < keys.count a := Nat.lt_of_lt_of_le Nat.zero_lt_two ((mem a).mp ha)
    exact (List.idxOf_inj (List.count_pos_iff.mp present)).mp same
  refine ⟨mem, once, sorted, ?_⟩
  rw [pairwise_lt_iff sorted apart]
  simp only [mem]
  exact ⟨fun h a b ha hb => h a ha b hb, fun h a ha b hb => h a b ha hb⟩

/-- Of two keys the second one seen may be the first one repeated. -/
theorem duplicateKeys_not_by_first_seen :
    let configs := ["a", "b", "b", "a"].map fun key =>
      (⟨key, "prog", ⟨"/bin/true", []⟩⟩ : Configuration)
    let keys := configs.map Configuration.key
    duplicateKeys configs = ["b", "a"] ∧
      ¬(duplicateKeys configs).Pairwise (fun a b => keys.idxOf a < keys.idxOf b) := by
  decide

end Shortcuts
