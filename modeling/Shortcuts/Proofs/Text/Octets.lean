import Shortcuts.Proofs.Text.Encoding
import Shortcuts.Text.Octets

/-!
# Text as octets

The octets of a text spell it (`decode?_octets`). A character below 128 is one octet and stays what
it is; of any other, no octet is below 128 (`octetsOf_ascii`, `high_of_mem_octetsOf`). So no octet
of a text can be taken for a plain character that is not there.
-/

namespace Shortcuts.Text

theorem octets_append (s t : String) : octets (s ++ t) = octets s ++ octets t := by
  simp only [octets, Octets.ofBytes, String.toList_append, encode_append, List.map_append]

theorem toNat_octet (b : UInt8) : (Char.ofNat b.toNat).toNat = b.toNat := by
  have small : b.toNat < 256 := b.toNat_lt
  have valid : b.toNat.isValidChar := .inl (by omega)
  rw [Char.ofNat, dif_pos valid]
  rfl

theorem toBytes_ofBytes (bytes : Bytes) : Octets.toBytes (Octets.ofBytes bytes) = bytes := by
  have byte (b : UInt8) : UInt8.ofNat (Char.ofNat b.toNat).toNat = b := by
    rw [toNat_octet, UInt8.ofNat_toNat]
  rw [Octets.toBytes, Octets.ofBytes, List.map_map]
  exact (List.map_congr_left fun b _ => byte b).trans (List.map_id bytes)

theorem decode?_octets (s : String) : decode? (Octets.toBytes (octets s)) = some s.toList := by
  rw [octets, toBytes_ofBytes, decode?_encode]

/-! ## Characters -/

/-- The octets of one character. -/
def octetsOf (c : Char) : Octets := Octets.ofBytes (String.utf8EncodeChar c)

theorem octets_ofList (s : List Char) : octets (String.ofList s) = s.flatMap octetsOf := by
  rw [octets, String.toList_ofList, encode, Octets.ofBytes, List.map_flatMap]
  rfl

theorem octets_eq_flatMap (s : String) : octets s = s.toList.flatMap octetsOf := by
  rw [← octets_ofList, String.ofList_toList]

theorem octetsOf_ascii {c : Char} (low : c.toNat < 128) : octetsOf c = [c] := by
  have one : c.val.toNat ≤ 127 := Nat.le_of_lt_succ low
  have octet : Char.ofNat (UInt8.ofNat c.val.toNat).toNat = c := by
    rw [toNat_ofNat (by omega)]
    exact c.ofNat_toNat
  rw [octetsOf, String.utf8EncodeChar, if_pos one]
  exact congrArg ([·]) octet

theorem high_of_mem_octetsOf {c d : Char} (high : 128 ≤ c.toNat) (mem : d ∈ octetsOf c) :
    128 ≤ d.toNat := by
  obtain ⟨b, hb, rfl⟩ := List.mem_map.mp mem
  rw [toNat_octet]
  revert hb
  fun_cases String.utf8EncodeChar c with
  | case1 v one =>
    change c.toNat ≤ 127 at one
    omega
  | case2 | case3 | case4 =>
    intro hb
    simp only [List.mem_cons, List.not_mem_nil, or_false] at hb
    rcases hb with rfl | rfl | rfl | rfl <;> rw [UInt8.toNat_ofNat'] <;> omega

theorem octetsOf_ne_nil (c : Char) : octetsOf c ≠ [] := by
  intro empty
  have nothing : String.utf8EncodeChar c = [] := List.map_eq_nil_iff.mp empty
  fun_cases String.utf8EncodeChar c <;> simp_all

end Shortcuts.Text
