import Shortcuts.Text.Bytes

/-!
# Encoded text

Decoding undoes encoding (`decode?_encode`): a leading byte fixes how many bytes follow it and what
the first of them may be, and each of these adds six bits. A newline byte stands for a newline and
is part of no other character (`newline_not_mem_encode`).
-/

namespace Shortcuts.Text

theorem toNat_ofNat {n : Nat} (h : n < 256) : (UInt8.ofNat n).toNat = n := by
  rw [UInt8.toNat_ofNat']
  exact Nat.mod_eq_of_lt h

/-- What a byte begins, by its number. -/
theorem lead_ofNat {n : Nat} (h : n < 256) :
    lead (UInt8.ofNat n) =
      if n < 0x80 then .char (Char.ofNat n)
      else if n < 0xC2 then .malformed
      else if n < 0xE0 then .more ⟨n - 0xC0, 1, 0x80, 0xBF⟩
      else if n = 0xE0 then .more ⟨0, 2, 0xA0, 0xBF⟩
      else if n = 0xED then .more ⟨0xD, 2, 0x80, 0x9F⟩
      else if n < 0xF0 then .more ⟨n - 0xE0, 2, 0x80, 0xBF⟩
      else if n = 0xF0 then .more ⟨0, 3, 0x90, 0xBF⟩
      else if n < 0xF4 then .more ⟨n - 0xF0, 3, 0x80, 0xBF⟩
      else if n = 0xF4 then .more ⟨4, 3, 0x80, 0x8F⟩
      else .malformed := by
  simp only [lead, UInt8.lt_iff_toNat_lt, ← UInt8.toNat_inj, toNat_ofNat h]
  rfl

/-! ## Bytes after the first -/

section Following

variable {bits left n : Nat} {low high : UInt8}

theorem scan_between (above : low.toNat ≤ n) (below : n ≤ high.toNat) (r : Bytes) :
    scan (some ⟨bits, left, low, high⟩) (UInt8.ofNat n :: r) =
      if left = 1 then some (Char.ofNat (64 * bits + (n - 0x80))) :: scan none r
      else scan (some ⟨64 * bits + (n - 0x80), left - 1, 0x80, 0xBF⟩) r := by
  have small : n < 256 := Nat.lt_of_le_of_lt below high.toNat_lt
  have between : low ≤ UInt8.ofNat n ∧ UInt8.ofNat n ≤ high := by
    rw [UInt8.le_iff_toNat_le, UInt8.le_iff_toNat_le, toNat_ofNat small]
    exact ⟨above, below⟩
  rw [scan, if_pos between]
  simp only [toNat_ofNat small]

theorem scan_last (above : low.toNat ≤ n) (below : n ≤ high.toNat) (r : Bytes) :
    scan (some ⟨bits, 1, low, high⟩) (UInt8.ofNat n :: r) =
      some (Char.ofNat (64 * bits + (n - 0x80))) :: scan none r := by
  rw [scan_between above below, if_pos rfl]

theorem scan_inner (above : low.toNat ≤ n) (below : n ≤ high.toNat) (r : Bytes) :
    scan (some ⟨bits, left + 2, low, high⟩) (UInt8.ofNat n :: r) =
      scan (some ⟨64 * bits + (n - 0x80), left + 1, 0x80, 0xBF⟩) r := by
  rw [scan_between above below, if_neg (by omega)]
  rfl

/-- Six bits always fit between the bounds of a byte that is not the first to follow. -/
theorem between_of_six (v : Nat) :
    (0x80 : UInt8).toNat ≤ v % 64 + 0x80 ∧ v % 64 + 0x80 ≤ (0xBF : UInt8).toNat := by
  simp only [UInt8.reduceToNat]
  omega

end Following

/-! ## Characters -/

/-- The bounds after the first of three bytes leave in every character of that length. -/
theorem lead_of_three {v : Nat} (long : 0x7FF < v) (short : v ≤ 0xFFFF)
    (valid : v < 0xD800 ∨ 0xDFFF < v) :
    ∃ low high : UInt8,
      lead (UInt8.ofNat (v / 4096 % 16 + 0xE0)) = .more ⟨v / 4096, 2, low, high⟩ ∧
      low.toNat ≤ v / 64 % 64 + 0x80 ∧ v / 64 % 64 + 0x80 ≤ high.toNat := by
  have top : v / 4096 % 16 = v / 4096 := by omega
  rw [top, lead_ofNat (by omega)]
  obtain lowest | surrogates | other :
      v / 4096 = 0 ∨ v / 4096 = 13 ∨ v / 4096 ≠ 0 ∧ v / 4096 ≠ 13 := by omega
  · rw [lowest]
    refine ⟨0xA0, 0xBF, rfl, ?_, ?_⟩ <;> simp only [UInt8.reduceToNat] <;> omega
  · rw [surrogates]
    refine ⟨0x80, 0x9F, rfl, ?_, ?_⟩ <;> simp only [UInt8.reduceToNat] <;> omega
  · rw [if_neg (by omega), if_neg (by omega), if_neg (by omega), if_neg (by omega),
      if_neg (by omega), if_pos (by omega), Nat.add_sub_cancel]
    refine ⟨0x80, 0xBF, rfl, ?_, ?_⟩ <;> simp only [UInt8.reduceToNat] <;> omega

theorem lead_of_four {v : Nat} (long : 0xFFFF < v) (valid : v < 0x110000) :
    ∃ low high : UInt8,
      lead (UInt8.ofNat (v / 262144 % 8 + 0xF0)) = .more ⟨v / 262144, 3, low, high⟩ ∧
      low.toNat ≤ v / 4096 % 64 + 0x80 ∧ v / 4096 % 64 + 0x80 ≤ high.toNat := by
  have top : v / 262144 % 8 = v / 262144 := by omega
  rw [top, lead_ofNat (by omega)]
  obtain lowest | highest | other :
      v / 262144 = 0 ∨ v / 262144 = 4 ∨ v / 262144 ≠ 0 ∧ v / 262144 < 4 := by omega
  · rw [lowest]
    refine ⟨0x90, 0xBF, rfl, ?_, ?_⟩ <;> simp only [UInt8.reduceToNat] <;> omega
  · rw [highest]
    refine ⟨0x80, 0x8F, rfl, ?_, ?_⟩ <;> simp only [UInt8.reduceToNat] <;> omega
  · rw [if_neg (by omega), if_neg (by omega), if_neg (by omega), if_neg (by omega),
      if_neg (by omega), if_neg (by omega), if_neg (by omega), if_pos (by omega),
      Nat.add_sub_cancel]
    refine ⟨0x80, 0xBF, rfl, ?_, ?_⟩ <;> simp only [UInt8.reduceToNat] <;> omega

/-- Reading starts anew after an encoded character. -/
theorem scan_encodeChar (c : Char) (r : Bytes) :
    scan none (String.utf8EncodeChar c ++ r) = some c :: scan none r := by
  have valid : c.toNat < 0xD800 ∨ 0xDFFF < c.toNat ∧ c.toNat < 0x110000 := c.valid
  have last := between_of_six c.toNat
  have read {n : Nat} (h : n = c.toNat) :
      some (Char.ofNat n) :: scan none r = some c :: scan none r := by
    rw [h, c.ofNat_toNat]
  fun_cases String.utf8EncodeChar c with
  | case1 v one =>
    change c.toNat ≤ 0x7F at one
    change scan none (UInt8.ofNat c.toNat :: r) = _
    rw [scan, lead_ofNat (by omega), if_pos (by omega)]
    exact read rfl
  | case2 v one two =>
    change ¬c.toNat ≤ 0x7F at one
    change c.toNat ≤ 0x7FF at two
    change scan none (UInt8.ofNat (c.toNat / 64 % 32 + 0xC0) ::
      UInt8.ofNat (c.toNat % 64 + 0x80) :: r) = _
    rw [scan, lead_ofNat (by omega), if_neg (by omega), if_neg (by omega), if_pos (by omega)]
    exact (scan_last last.1 last.2 r).trans (read (by omega))
  | case3 v one two three =>
    change ¬c.toNat ≤ 0x7FF at two
    change c.toNat ≤ 0xFFFF at three
    obtain ⟨low, high, led, above, below⟩ := lead_of_three (by omega) three (by omega)
    change scan none (UInt8.ofNat (c.toNat / 4096 % 16 + 0xE0) ::
      UInt8.ofNat (c.toNat / 64 % 64 + 0x80) :: UInt8.ofNat (c.toNat % 64 + 0x80) :: r) = _
    rw [scan, led]
    dsimp only
    rw [scan_inner above below, scan_last last.1 last.2]
    exact read (by omega)
  | case4 v one two three =>
    have middle := between_of_six (c.toNat / 64)
    change ¬c.toNat ≤ 0xFFFF at three
    obtain ⟨low, high, led, above, below⟩ := lead_of_four (v := c.toNat) (by omega) (by omega)
    change scan none (UInt8.ofNat (c.toNat / 262144 % 8 + 0xF0) ::
      UInt8.ofNat (c.toNat / 4096 % 64 + 0x80) :: UInt8.ofNat (c.toNat / 64 % 64 + 0x80) ::
      UInt8.ofNat (c.toNat % 64 + 0x80) :: r) = _
    rw [scan, led]
    dsimp only
    rw [scan_inner above below, scan_inner middle.1 middle.2, scan_last last.1 last.2]
    exact read (by omega)

/-! ## Texts -/

theorem encode_cons (c : Char) (s : List Char) :
    encode (c :: s) = String.utf8EncodeChar c ++ encode s :=
  rfl

theorem encode_append (s t : List Char) : encode (s ++ t) = encode s ++ encode t :=
  List.flatMap_append

theorem scan_encode (s : List Char) : scan none (encode s) = s.map some := by
  induction s with
  | nil => rfl
  | cons c s ih => rw [encode_cons, scan_encodeChar, ih, List.map_cons]

theorem everyChar_map_some (s : List Char) : everyChar (s.map some) = some s := by
  induction s with
  | nil => rfl
  | cons c s ih => rw [List.map_cons, everyChar, ih]

/-- Encoded text is read back as it was. -/
theorem decode?_encode (s : List Char) : decode? (encode s) = some s := by
  rw [decode?, scan_encode, everyChar_map_some]

theorem decodeLossy_encode (s : List Char) : decodeLossy (encode s) = s := by
  rw [decodeLossy, scan_encode, List.map_map]
  exact List.map_id s

theorem eq_newline_of_mem {c : Char} :
    (0x0A : UInt8) ∈ String.utf8EncodeChar c → c = '\n' := by
  fun_cases String.utf8EncodeChar c with
  | case1 v one =>
    intro h
    rw [List.mem_singleton, ← UInt8.toNat_inj, toNat_ofNat (by omega)] at h
    exact Char.toNat_inj.mp h.symm
  | case2 | case3 | case4 =>
    intro h
    simp only [List.mem_cons, List.not_mem_nil, or_false, ← UInt8.toNat_inj, UInt8.toNat_ofNat',
      UInt8.reduceToNat] at h
    omega

theorem newline_not_mem_encode {s : List Char} (h : '\n' ∉ s) : (0x0A : UInt8) ∉ encode s := by
  intro mem
  obtain ⟨c, hc, hb⟩ := List.mem_flatMap.mp mem
  exact h (eq_newline_of_mem hb ▸ hc)

end Shortcuts.Text
