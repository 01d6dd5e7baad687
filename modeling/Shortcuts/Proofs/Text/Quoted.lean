import Shortcuts.Text.Quoted

/-!
# Quoted texts

Between its quotes a text shows only characters that print, whatever it holds
(`prints_of_mem_quoted`). No two texts are quoted alike (`quoted_injective`): an escape tells where it
ends, and the number in it which character it stands for.
-/

namespace Shortcuts.Text

/-! ## Hexadecimal numbers -/

def hexAlphabet : List Char := "0123456789abcdef".toList

theorem digitChar_mem_hexAlphabet {d : Nat} (small : d < 16) : d.digitChar ∈ hexAlphabet := by
  revert d
  decide

theorem digitChar_inj {d e : Nat} (hd : d < 16) (he : e < 16) (same : d.digitChar = e.digitChar) :
    d = e := by
  have digits : ∀ d < 16, ∀ e < 16, d.digitChar = e.digitChar → d = e := by decide
  exact digits d hd e he same

theorem hexDigits_eq (n : Nat) :
    hexDigits n = if n < 16 then [n.digitChar] else hexDigits (n / 16) ++ [(n % 16).digitChar] :=
  Nat.toDigits_eq_if (by decide)

theorem mem_hexAlphabet {n : Nat} : ∀ c ∈ hexDigits n, c ∈ hexAlphabet := by
  induction n using Nat.strongRecOn with
  | ind n ih =>
    rw [hexDigits_eq]
    split
    · rename_i small
      simpa using digitChar_mem_hexAlphabet small
    · rename_i large
      have shorter : n / 16 < n := Nat.div_lt_self (by omega) (by decide)
      have last := digitChar_mem_hexAlphabet (Nat.mod_lt n (by decide : 0 < 16))
      simpa [or_imp, forall_and] using ⟨ih (n / 16) shorter, last⟩

theorem hexDigits_ne_singleton {n : Nat} (large : ¬n < 16) (c : Char) : hexDigits n ≠ [c] := by
  intro same
  rw [hexDigits_eq, if_neg large] at same
  have lengths := congrArg List.length same
  have more : 0 < (hexDigits (n / 16)).length := List.length_pos_iff.mpr Nat.toDigits_ne_nil
  simp only [List.length_append, List.length_singleton] at lengths
  omega

theorem hexDigits_injective {m n : Nat} (same : hexDigits m = hexDigits n) : m = n := by
  induction m using Nat.strongRecOn generalizing n with
  | ind m ih =>
    by_cases hm : m < 16
    · rw [hexDigits_eq m, if_pos hm] at same
      by_cases hn : n < 16
      · rw [hexDigits_eq n, if_pos hn] at same
        exact digitChar_inj hm hn (List.cons.inj same).1
      · exact absurd same.symm (hexDigits_ne_singleton hn _)
    · by_cases hn : n < 16
      · rw [hexDigits_eq n, if_pos hn] at same
        exact absurd same (hexDigits_ne_singleton hm _)
      · rw [hexDigits_eq m, hexDigits_eq n, if_neg hm, if_neg hn] at same
        obtain ⟨front, last⟩ := List.append_inj' same rfl
        have quotients := ih (m / 16) (Nat.div_lt_self (by omega) (by decide)) front
        have remainders := digitChar_inj (Nat.mod_lt m (by decide)) (Nat.mod_lt n (by decide))
          (List.cons.inj last).1
        omega

/-! ## Characters -/

/-- Characters with an escape of two characters, and its second one. -/
def shortEscapes : List (Char × Char) :=
  [('"', '"'), ('\\', '\\'), ('\n', 'n'), ('\t', 't'), ('\r', 'r'), ('\x00', '0')]

/-- How a character is shown in quotes. -/
inductive Shown (c : Char) : List Char → Prop
  | short (e : Char) (listed : (c, e) ∈ shortEscapes) : Shown c ['\\', e]
  | itself (visible : prints c = true) (other : c ≠ '\\') : Shown c [c]
  | code : Shown c ('\\' :: 'u' :: '\x7b' :: (hexDigits c.toNat ++ ['\x7d']))

theorem shown_escapeQuoted (c : Char) : Shown c (escapeQuoted c) := by
  unfold escapeQuoted
  iterate 6
    split
    · rename_i named
      subst named
      exact .short _ (by decide)
  split
  · exact .itself (by assumption) (by assumption)
  · exact .code

theorem prints_of_mem_escapeQuoted {c d : Char} (mem : d ∈ escapeQuoted c) : prints d = true := by
  have escapes : ∀ p ∈ shortEscapes, prints p.2 = true := by decide +kernel
  have digits : hexAlphabet.all prints = true := by decide +kernel
  have signs : ['\\', 'u', '\x7b', '\x7d'].all prints = true := by decide +kernel
  rw [List.all_eq_true] at digits signs
  generalize shape : escapeQuoted c = shown at mem
  have how := shown_escapeQuoted c
  rw [shape] at how
  cases how with
  | short e listed =>
    simp only [List.mem_cons, List.not_mem_nil, or_false] at mem
    obtain rfl | rfl := mem
    · exact signs _ (by decide)
    · exact escapes _ listed
  | itself visible _ => exact List.mem_singleton.mp mem ▸ visible
  | code =>
    simp only [List.mem_cons, List.mem_append, List.not_mem_nil, or_false] at mem
    obtain rfl | rfl | rfl | digit | rfl := mem
    · exact signs _ (by decide)
    · exact signs _ (by decide)
    · exact signs _ (by decide)
    · exact digits _ (mem_hexAlphabet _ digit)
    · exact signs _ (by decide)

/-- The number of an escape ends at the brace after it. -/
theorem hexDigits_append_inj {m n : Nat} {s t : List Char}
    (same : hexDigits m ++ '\x7d' :: s = hexDigits n ++ '\x7d' :: t) : m = n ∧ s = t := by
  have until_brace (k : Nat) (r : List Char) :
      (hexDigits k ++ '\x7d' :: r).takeWhile (· != '\x7d') = hexDigits k := by
    have inside : ∀ c ∈ hexDigits k, (c != '\x7d') = true := by
      intro c hc
      have other : hexAlphabet.all (· != '\x7d') = true := by decide
      exact List.all_eq_true.mp other c (mem_hexAlphabet c hc)
    rw [List.takeWhile_append_of_pos inside]
    exact List.append_nil _
  have digits := congrArg (List.takeWhile (· != '\x7d')) same
  rw [until_brace, until_brace] at digits
  obtain rfl := hexDigits_injective digits
  exact ⟨rfl, (List.cons.inj (List.append_cancel_left same)).2⟩

theorem escapeQuoted_append_inj {c d : Char} {s t : List Char}
    (same : escapeQuoted c ++ s = escapeQuoted d ++ t) : c = d ∧ s = t := by
  have letters : ∀ p ∈ shortEscapes, p.2 ≠ 'u' ∧ ∀ q ∈ shortEscapes, p.2 = q.2 → p.1 = q.1 := by
    decide
  have first := shown_escapeQuoted c
  have second := shown_escapeQuoted d
  generalize escapeQuoted c = shown at same first
  generalize escapeQuoted d = shown' at same second
  cases first with
  | short e listed =>
    obtain ⟨apart, alike⟩ := letters _ listed
    cases second with
    | short e' listed' =>
      obtain ⟨letter, rest⟩ : e = e' ∧ s = t := by simpa using same
      exact ⟨alike _ listed' letter, rest⟩
    | itself _ other => exact absurd (List.cons.inj same).1.symm other
    | code => exact absurd (List.cons.inj (List.cons.inj same).2).1 apart
  | itself _ other =>
    cases second with
    | short => exact absurd (List.cons.inj same).1 other
    | itself => exact List.cons.inj same
    | code => exact absurd (List.cons.inj same).1 other
  | code =>
    cases second with
    | short e' listed' =>
      exact absurd (List.cons.inj (List.cons.inj same).2).1.symm (letters _ listed').1
    | itself _ other => exact absurd (List.cons.inj same).1.symm other
    | code =>
      have numbers : hexDigits c.toNat ++ '\x7d' :: s = hexDigits d.toNat ++ '\x7d' :: t := by
        simpa using same
      obtain ⟨code, rest⟩ := hexDigits_append_inj numbers
      exact ⟨Char.toNat_inj.mp code, rest⟩

/-! ## Texts -/

/-- What is shown of a quoted text prints. -/
theorem prints_of_mem_quoted {s : List Char} {c : Char} (mem : c ∈ quoted s) : prints c = true := by
  have quote : prints '"' = true := by decide +kernel
  rw [quoted, List.cons_append, List.mem_cons, List.mem_append, List.mem_flatMap,
    List.mem_singleton] at mem
  obtain rfl | ⟨d, -, shown⟩ | rfl := mem
  · exact quote
  · exact prints_of_mem_escapeQuoted shown
  · exact quote

theorem newline_not_mem_quoted (s : List Char) : '\n' ∉ quoted s := by
  intro mem
  exact absurd (prints_of_mem_quoted mem) (by decide +kernel)

theorem flatMap_escapeQuoted_injective {s t : List Char}
    (same : s.flatMap escapeQuoted = t.flatMap escapeQuoted) : s = t := by
  have nonempty (c : Char) (r : List Char) : escapeQuoted c ++ r ≠ [] := by
    have shown := shown_escapeQuoted c
    generalize escapeQuoted c = front at shown
    cases shown <;> exact List.cons_ne_nil _ _
  induction s generalizing t with
  | nil =>
    cases t with
    | nil => rfl
    | cons d t => exact absurd same.symm (nonempty d _)
  | cons c s ih =>
    cases t with
    | nil => exact absurd same (nonempty c _)
    | cons d t =>
      rw [List.flatMap_cons, List.flatMap_cons] at same
      obtain ⟨rfl, rest⟩ := escapeQuoted_append_inj same
      rw [ih rest]

/-- Texts that differ are quoted differently. -/
theorem quoted_injective {s t : List Char} (same : quoted s = quoted t) : s = t :=
  flatMap_escapeQuoted_injective (List.append_cancel_right (List.cons.inj same).2)

end Shortcuts.Text
