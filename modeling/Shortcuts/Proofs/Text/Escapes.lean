import Shortcuts.Text.Blank
import Shortcuts.Text.Octal

/-!
# Octal escapes

A text is read from the left, an escape for its character and any other character for itself
(`Says`). Decoding undoes encoding whenever the backslash is among the escaped characters and their
codes fit three octal digits, and it changes nothing in a text without an escape
(`decode_undoes_encode`). An escape holds no blank, so encoding a text moves its first blank nowhere
unless it removes it (`takeWhile_encode`).
-/

namespace Shortcuts.Text.Octal

theorem digitChar_spec (n : Nat) :
    digit? (digitChar n) = some (n % 8) ∧ isBlank (digitChar n) = false := by
  have digits : ∀ d < 8, digit? (Char.ofNat ('0'.toNat + d)) = some d ∧
      isBlank (Char.ofNat ('0'.toNat + d)) = false := by decide
  exact digits (n % 8) (Nat.mod_lt n (by decide))

/-! ## Where an escape stands -/

/-- Three octal digits and the number that they write. -/
def Writes (a b c : Char) (n : Nat) : Prop :=
  ∃ x y z, digit? a = some x ∧ digit? b = some y ∧ digit? c = some z ∧ n = 64 * x + 8 * y + z

/-- The text starts with an escape: a backslash, and three octal digits of a number up to 377. -/
def Escaped (s : List Char) : Prop :=
  ∃ a b c r n, s = '\\' :: a :: b :: c :: r ∧ Writes a b c n ∧ n ≤ 0o377

/-- No backslash of the text starts an escape. -/
def Unescaped (s : List Char) : Prop :=
  ∀ before a b c after n, s = before ++ '\\' :: a :: b :: c :: after → Writes a b c n → 0o377 < n

theorem escape_writes {c : Char} (h : c.toNat < 256) :
    ∃ x y z, escape c = ['\\', x, y, z] ∧ Writes x y z c.toNat :=
  ⟨_, _, _, rfl, _, _, _, (digitChar_spec _).1, (digitChar_spec _).1, (digitChar_spec _).1,
    by omega⟩

theorem char?_of_writes {a b c : Char} {n : Nat} (code : Writes a b c n) (byte : n ≤ 0o377) :
    char? a b c = some (Char.ofNat n) := by
  obtain ⟨x, y, z, hx, hy, hz, rfl⟩ := code
  simp only [char?, hx, hy, hz]
  exact if_pos (Nat.lt_succ_of_le byte)

theorem writes_of_char? {a b c d : Char} (h : char? a b c = some d) :
    ∃ n, Writes a b c n ∧ n ≤ 0o377 ∧ d = Char.ofNat n := by
  unfold char? at h
  split at h
  · rename_i x y z hx hy hz
    dsimp only at h
    split at h
    · rename_i byte
      exact ⟨_, ⟨x, y, z, hx, hy, hz, rfl⟩, Nat.le_of_lt_succ byte, (Option.some.inj h).symm⟩
    · cases h
  · cases h

theorem unescaped_nil : Unescaped [] := by
  intro before a b c after n shape
  cases before <;> cases shape

theorem unescaped_cons {c : Char} {r : List Char} :
    Unescaped (c :: r) ↔ ¬Escaped (c :: r) ∧ Unescaped r := by
  constructor
  · intro bare
    constructor
    · rintro ⟨x, y, z, after, n, shape, code, byte⟩
      exact Nat.not_lt.mpr byte (bare [] x y z after n shape code)
    · rintro before x y z after n rfl
      exact bare (c :: before) x y z after n rfl
  · rintro ⟨start, bare⟩ before x y z after n shape code
    cases before with
    | nil => exact Nat.not_le.mp fun byte => start ⟨x, y, z, after, n, shape, code, byte⟩
    | cons d before => exact bare before x y z after n (List.cons.inj shape).2 code

/-- What does not start with a digit finishes no escape. -/
theorem escaped_of_append {c : Char} {s r : List Char}
    (apart : ∀ d, r.head? = some d → digit? d = none) (h : Escaped (c :: s ++ r)) :
    Escaped (c :: s) := by
  obtain ⟨x, y, z, after, n, shape, ⟨i, j, k, hx, hy, hz, code⟩, byte⟩ := h
  have later {d : Char} {t : List Char} {v : Nat} (hr : r = d :: t) : digit? d ≠ some v := by
    intro found
    rw [apart d (hr ▸ rfl)] at found
    cases found
  rcases s with _ | ⟨x', _ | ⟨y', _ | ⟨z', s⟩⟩⟩
  · exact absurd hx (later (List.cons.inj shape).2)
  · obtain ⟨-, -, shape⟩ : _ ∧ _ ∧ r = y :: z :: after := by simpa using shape
    exact absurd hy (later shape)
  · obtain ⟨-, -, -, shape⟩ : _ ∧ _ ∧ _ ∧ r = z :: after := by simpa using shape
    exact absurd hz (later shape)
  · obtain ⟨rfl, rfl, rfl, rfl, -⟩ : c = '\\' ∧ x' = x ∧ y' = y ∧ z' = z ∧ s ++ r = after := by
      simpa using shape
    exact ⟨x', y', z', s, n, rfl, ⟨i, j, k, hx, hy, hz, code⟩, byte⟩

/-! ## Reading from the left -/

/-- A text and what it says: an escape says its character, any other character itself. -/
inductive Says : List Char → List Char → Prop
  | nil : Says [] []
  | escape {a b c : Char} {n : Nat} {r t : List Char} (code : Writes a b c n) (byte : n ≤ 0o377)
      (rest : Says r t) : Says ('\\' :: a :: b :: c :: r) (Char.ofNat n :: t)
  | char {c : Char} {r t : List Char} (plain : ¬Escaped (c :: r)) (rest : Says r t) :
      Says (c :: r) (c :: t)

theorem decode_of_writes {a b c : Char} {n : Nat} (code : Writes a b c n) (byte : n ≤ 0o377)
    (r : List Char) : decode ('\\' :: a :: b :: c :: r) = Char.ofNat n :: decode r := by
  simp only [decode, char?_of_writes code byte]

theorem decode_of_not_escaped {c : Char} {r : List Char} (plain : ¬Escaped (c :: r)) :
    decode (c :: r) = c :: decode r := by
  rw [decode.eq_def]
  split
  · rename_i x y z after shape
    obtain ⟨rfl, rfl⟩ := List.cons.inj shape
    split
    · rename_i d found
      obtain ⟨n, code, byte, -⟩ := writes_of_char? found
      exact absurd ⟨x, y, z, after, n, rfl, code, byte⟩ plain
    · rfl
  · rename_i shape
    rw [(List.cons.inj shape).1, (List.cons.inj shape).2]
  · rename_i shape
    cases shape

theorem says_decode (s : List Char) : Says s (decode s) := by
  fun_induction decode s with
  | case1 a b c r d found ih =>
    obtain ⟨n, code, byte, rfl⟩ := writes_of_char? found
    exact .escape code byte ih
  | case2 a b c r missed ih =>
    refine .char ?_ ih
    rintro ⟨_, _, _, _, n, ⟨⟩, code, byte⟩
    rw [char?_of_writes code byte] at missed
    cases missed
  | case3 c r bare ih =>
    refine .char ?_ ih
    rintro ⟨x, y, z, after, n, shape, -, -⟩
    obtain ⟨rfl, rfl⟩ := List.cons.inj shape
    exact bare x y z after rfl rfl
  | case4 => exact .nil

/-- A text is decoded apart from what follows it, unless that goes on with a digit. -/
theorem decode_append (s : List Char) {r : List Char}
    (apart : ∀ d, r.head? = some d → digit? d = none) : decode (s ++ r) = decode s ++ decode r := by
  have said := says_decode s
  generalize decode s = t at said ⊢
  induction said with
  | nil => rfl
  | escape code byte _ ih =>
    simp only [List.cons_append]
    rw [decode_of_writes code byte, ih]
  | @char c s t plain _ ih =>
    have still : ¬Escaped (c :: (s ++ r)) := fun h => plain (escaped_of_append apart h)
    rw [List.cons_append, decode_of_not_escaped still, ih, List.cons_append]

theorem decode_ne_nil {s : List Char} (h : s ≠ []) : decode s ≠ [] := by
  have said := says_decode s
  generalize decode s = t at said ⊢
  cases said with
  | nil => exact absurd rfl h
  | escape | char => exact List.cons_ne_nil _ _

theorem Says.length_le {s t : List Char} (h : Says s t) : t.length ≤ s.length := by
  induction h with
  | nil => exact Nat.le_refl _
  | escape _ _ _ ih =>
    simp only [List.length_cons]
    omega
  | char _ _ ih => exact Nat.succ_le_succ ih

/-- An escape is longer than what it says, so it does not say itself. -/
theorem Says.eq_iff {s t : List Char} (h : Says s t) : t = s ↔ Unescaped s := by
  induction h with
  | nil => exact iff_of_true rfl unescaped_nil
  | @escape a b c n r t code byte rest _ =>
    apply iff_of_false
    · intro same
      have shorter := rest.length_le
      have length := congrArg List.length same
      simp only [List.length_cons] at length
      omega
    · intro bare
      exact Nat.not_lt.mpr byte (bare [] a b c r n rfl code)
  | char plain _ ih =>
    rw [unescaped_cons, and_iff_right plain, ← ih, List.cons_inj_right]

/-! ## Undoing an encoding -/

theorem decode_escape {c : Char} (h : c.toNat < 256) (r : List Char) :
    decode (escape c ++ r) = c :: decode r := by
  obtain ⟨x, y, z, shape, code⟩ := escape_writes h
  simp only [shape, List.cons_append, List.nil_append]
  rw [decode_of_writes code (Nat.le_of_lt_succ h), Char.ofNat_toNat]

theorem decode_cons_of_ne {c : Char} (h : c ≠ '\\') (r : List Char) :
    decode (c :: r) = c :: decode r :=
  decode_of_not_escaped fun ⟨_, _, _, _, _, shape, _⟩ => h (List.cons.inj shape).1

theorem decode_of_not_mem {s : List Char} (h : '\\' ∉ s) : decode s = s := by
  induction s with
  | nil => rfl
  | cons c s ih =>
    have other : c ≠ '\\' := fun e => h (e ▸ List.mem_cons_self)
    rw [decode_cons_of_ne other, ih fun mem => h (List.mem_cons_of_mem c mem)]

theorem decode_encode {special : Char → Bool} (backslash : special '\\' = true)
    (small : ∀ c, special c = true → c.toNat < 256) (s : List Char) :
    decode (encode special s) = s := by
  induction s with
  | nil => rfl
  | cons c s ih =>
    cases hc : special c with
    | true => rw [encode, if_pos hc, decode_escape (small c hc), ih]
    | false =>
      have plain : c ≠ '\\' := by
        rintro rfl
        rw [backslash] at hc
        cases hc
      rw [encode, if_neg (by simp [hc]), decode_cons_of_ne plain, ih]

/-- Characters that an escape can write are read back from their three digits, if backslashes are
always escaped. A text is its own reading if it has no escape, and in no other case. -/
theorem decode_undoes_encode :
    (∀ special : Char → Bool, special '\\' = true → (∀ c, special c = true → c.toNat < 256) →
      (∀ c, special c = true → ∃ x y z, escape c = ['\\', x, y, z] ∧ Writes x y z c.toNat) ∧
      ∀ s, decode (encode special s) = s) ∧
    ∀ s, decode s = s ↔ Unescaped s :=
  ⟨fun _ backslash small =>
    ⟨fun c hc => escape_writes (small c hc), decode_encode backslash small⟩,
    fun s => (says_decode s).eq_iff⟩

/-- Digits may be escaped themselves, follow an escape or stand after a backslash of the text. Three
digits above 377 are no escape. -/
theorem decode_undoes_encode_among_digits :
    let special : Char → Bool := fun c => c == '\\' || c == '4' || c == ' '
    let s := "é\\040 7\\ü4 \\".toList
    special '\\' = true ∧ (∀ c, special c = true → c.toNat < 256) ∧
      encode special s = "é\\1340\\0640\\0407\\134ü\\064\\040\\134".toList ∧
      decode (encode special s) = s ∧ Unescaped "\\400\\08é\\12".toList := by
  intro special s
  have small : ∀ c, special c = true → c.toNat < 256 := by
    intro c hc
    simp only [special, Bool.or_eq_true, beq_iff_eq] at hc
    obtain (rfl | rfl) | rfl := hc <;> decide
  exact ⟨rfl, small, by decide, (decode_undoes_encode.1 special rfl small).2 s,
    (decode_undoes_encode.2 _).mp (by decide)⟩

/-! ## Blanks -/

theorem not_blank_of_mem_escape {c d : Char} (h : d ∈ escape c) : isBlank d = false := by
  simp only [escape, List.mem_cons, List.not_mem_nil, or_false] at h
  obtain rfl | rfl | rfl | rfl := h
  · decide
  · exact (digitChar_spec _).2
  · exact (digitChar_spec _).2
  · exact (digitChar_spec _).2

/-- The encoding goes on to the first blank that is not escaped. -/
theorem takeWhile_encode (special : Char → Bool) (s : List Char) :
    (encode special s).takeWhile (!isBlank ·) =
      encode special (s.takeWhile fun c => special c || !isBlank c) := by
  induction s with
  | nil => rfl
  | cons c s ih =>
    cases hc : special c with
    | true =>
      have visible : ∀ d ∈ escape c, (!isBlank d) = true := by
        intro d hd
        simp [not_blank_of_mem_escape hd]
      rw [encode, if_pos hc, List.takeWhile_append_of_pos visible, ih]
      simp [encode, hc]
    | false =>
      cases hb : isBlank c <;> simp [encode, hc, hb, ih]

end Shortcuts.Text.Octal
