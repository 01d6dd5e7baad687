import Shortcuts.Host.MountTable
import Shortcuts.Proofs.Kind.Transfer
import Shortcuts.Proofs.Text.Escapes
import Shortcuts.Proofs.Text.Splitting
import Shortcuts.Proofs.Text.Trimming

/-!
# Looking up mount points

The kernel parts the fields of a mount by spaces and escapes four characters of a target. A look-up
parts them at every blank, so it sees a target up to the first blank that is not escaped
(`targets_render`). Targets without one are looked up exactly (`lists_exact_of_plain`), and one
target with one is enough for a wrong answer.
-/

namespace Shortcuts.MountTable

open Text

/-! ## Paths up to slashes at their end -/

/-- Two paths that differ in the number of slashes at their end. -/
def SamePlace (a b : List Char) : Prop :=
  ∃ s m n, a = s ++ List.replicate m '/' ∧ b = s ++ List.replicate n '/'

theorem SamePlace.refl (a : List Char) : SamePlace a a := ⟨a, 0, 0, by simp, by simp⟩

theorem dropEndWhile_slashes (s : List Char) (n : Nat) :
    dropEndWhile (· == '/') (s ++ List.replicate n '/') = dropEndWhile (· == '/') s := by
  induction n with
  | zero => rw [List.replicate_zero, List.append_nil]
  | succ n ih =>
    rw [List.replicate_succ', ← List.append_assoc]
    rw [dropEndWhile_eq_rdropWhile] at ih ⊢
    rw [List.rdropWhile_concat_pos _ _ _ (by decide), ih]

theorem eq_dropEndWhile_append (s : List Char) :
    ∃ n, s = dropEndWhile (· == '/') s ++ List.replicate n '/' := by
  refine ⟨(s.rtakeWhile (· == '/')).length, ?_⟩
  have slashes : s.rtakeWhile (· == '/') =
      List.replicate (s.rtakeWhile (· == '/')).length '/' := by
    apply List.eq_replicate_of_mem
    intro c hc
    simpa using List.mem_rtakeWhile_imp hc
  rw [← slashes, dropEndWhile_eq_rdropWhile, List.rdropWhile_append_rtakeWhile]

theorem samePlace_iff_dropEndWhile {a b : List Char} :
    SamePlace a b ↔ dropEndWhile (· == '/') a = dropEndWhile (· == '/') b := by
  constructor
  · rintro ⟨s, m, n, rfl, rfl⟩
    rw [dropEndWhile_slashes, dropEndWhile_slashes]
  · intro same
    obtain ⟨m, hm⟩ := eq_dropEndWhile_append a
    obtain ⟨n, hn⟩ := eq_dropEndWhile_append b
    exact ⟨dropEndWhile (· == '/') b, m, n, same ▸ hm, hn⟩

instance (a b : List Char) : Decidable (SamePlace a b) :=
  decidable_of_iff _ samePlace_iff_dropEndWhile.symm

theorem dropEndWhile_slashes_ne_root (s : List Char) : dropEndWhile (· == '/') s ≠ ['/'] := by
  intro root
  rw [dropEndWhile_eq_rdropWhile] at root
  have stops := List.rdropWhile_last_not (· == '/') s (by simp [root])
  simp [root] at stops

theorem normalize_rooted {a : List Char} (rooted : a.head? = some '/') :
    normalize a = if dropEndWhile (· == '/') a = [] then ['/'] else dropEndWhile (· == '/') a := by
  unfold normalize
  split
  · rename_i empty
    simp [empty, rooted]
  · rename_i c r some
    simp [some]

/-- From the root on, normal forms agree exactly when the paths are the same place. -/
theorem normalize_eq_iff {a b : List Char} (ha : a.head? = some '/') (hb : b.head? = some '/') :
    normalize a = normalize b ↔ SamePlace a b := by
  have rootA := dropEndWhile_slashes_ne_root a
  have rootB := dropEndWhile_slashes_ne_root b
  rw [normalize_rooted ha, normalize_rooted hb, samePlace_iff_dropEndWhile]
  split <;> rename_i emptyA <;> split <;> rename_i emptyB
  · rw [emptyA, emptyB]
    exact iff_of_true rfl rfl
  · exact iff_of_false (fun e => rootB e.symm) (fun e => emptyB (e.symm.trans emptyA))
  · exact iff_of_false rootA (fun e => emptyA (e.trans emptyB))
  · exact Iff.rfl

/-! ## What a look-up sees of a mount -/

/-- A mount whose line has a device, a target from the root on and no second line. -/
structure Mount.Valid (m : Mount) : Prop where
  device_named : m.device ≠ []
  device_word : ∀ c ∈ m.device, isBlank c = false
  rooted : m.target.head? = some '/'
  options_line : '\n' ∉ m.options

-- `all`, and not `∀ c`: the latter is also decided by going through every character there is.
instance (m : Mount) : Decidable m.Valid :=
  decidable_of_iff (m.device ≠ [] ∧ m.device.all (fun c => !isBlank c) = true ∧
      m.target.head? = some '/' ∧ '\n' ∉ m.options)
    ⟨fun ⟨a, b, c, d⟩ => ⟨a, by simpa using b, c, d⟩,
      fun ⟨a, b, c, d⟩ => ⟨a, by simpa using b, c, d⟩⟩

/-- A directory where something is mounted. -/
def Mounted (mounts : List Mount) (point : List Char) : Prop :=
  ∃ m ∈ mounts, SamePlace m.target point

instance (mounts : List Mount) (point : List Char) : Decidable (Mounted mounts point) :=
  inferInstanceAs (Decidable (∃ m ∈ mounts, SamePlace m.target point))

/-- A target up to its first blank that the kernel leaves as it is. -/
def Mount.seen (m : Mount) : List Char :=
  m.target.takeWhile fun c => kernelEscapes c || !isBlank c

/-- Every blank of the target is one that the kernel escapes. -/
def Mount.Plain (m : Mount) : Prop := ∀ c ∈ m.target, isBlank c = true → kernelEscapes c = true

instance (m : Mount) : Decidable m.Plain :=
  decidable_of_iff (m.target.all (fun c => !isBlank c || kernelEscapes c) = true)
    (by simp [Mount.Plain, ← Bool.not_eq_true, imp_iff_not_or])

def Mount.body (m : Mount) : List Char :=
  m.device ++ ' ' :: (Octal.encode kernelEscapes m.target ++ ' ' :: m.options)

theorem kernelEscapes_lt {c : Char} (h : kernelEscapes c = true) : c.toNat < 256 := by
  simp only [kernelEscapes, Bool.or_eq_true, beq_iff_eq] at h
  obtain ((rfl | rfl) | rfl) | rfl := h <;> decide

theorem render_eq_unlines (mounts : List Mount) :
    render mounts = unlines (mounts.map Mount.body) := by
  simp only [render, unlines, List.flatMap_map]
  congr 1
  funext m
  simp [Mount.line, Mount.body]

theorem newline_not_mem_encode (s : List Char) : '\n' ∉ Octal.encode kernelEscapes s := by
  induction s with
  | nil => simp [Octal.encode]
  | cons c s ih =>
    cases hc : kernelEscapes c with
    | true =>
      have apart : '\n' ∉ Octal.escape c := fun m =>
        absurd (Octal.not_blank_of_mem_escape m) (by decide)
      simp [Octal.encode, hc, ih, apart]
    | false =>
      have other : '\n' ≠ c := by
        rintro rfl
        exact absurd hc (by decide)
      simp [Octal.encode, hc, ih, other]

theorem Mount.Valid.newline_not_mem {m : Mount} (h : m.Valid) : '\n' ∉ m.body := by
  have device : '\n' ∉ m.device := fun mem => absurd (h.device_word _ mem) (by decide)
  simp [Mount.body, device, newline_not_mem_encode, h.options_line]

theorem Mount.Valid.target?_body {m : Mount} (h : m.Valid) :
    target? (dropReturn m.body) = some m.seen := by
  have space : isBlank ' ' = true := by decide
  obtain ⟨r, hr⟩ := List.head?_eq_some_iff.mp h.rooted
  have slash : Octal.encode kernelEscapes m.target = '/' :: Octal.encode kernelEscapes r := by
    rw [hr]
    rfl
  have word := words_of_not_blank (c := '/') (by decide)
    (Octal.encode kernelEscapes r ++ ' ' :: dropReturn m.options)
  rw [← List.cons_append, ← slash, takeWhile_append_blank space, Octal.takeWhile_encode] at word
  rw [target?, Mount.body, dropReturn_around (by decide), dropReturn_around (by decide),
    words_append_blank h.device_named h.device_word space, word]
  simp only [List.getElem?_cons_succ, List.getElem?_cons_zero, Option.map_some,
    Octal.decode_encode (by decide) (fun _ => kernelEscapes_lt)]
  rfl

/-- The look-up reads one target a mount, each cut at its first raw blank. -/
theorem targets_render {mounts : List Mount} (valid : ∀ m ∈ mounts, m.Valid) :
    targets (render mounts) = mounts.map Mount.seen := by
  have oneLine : ∀ l ∈ mounts.map Mount.body, '\n' ∉ l := by
    intro l hl
    obtain ⟨m, hm, rfl⟩ := List.mem_map.mp hl
    exact (valid m hm).newline_not_mem
  rw [targets, render_eq_unlines, lines_unlines oneLine, List.map_map]
  clear oneLine
  induction mounts with
  | nil => rfl
  | cons m mounts ih =>
    have tail := ih fun n hn => valid n (List.mem_cons_of_mem _ hn)
    have seen : target? ((dropReturn ∘ Mount.body) m) = some m.seen :=
      (valid m List.mem_cons_self).target?_body
    rw [List.map_cons, List.filterMap_cons_some seen, tail, List.map_cons]

theorem Mount.Valid.seen_rooted {m : Mount} (h : m.Valid) : m.seen.head? = some '/' := by
  obtain ⟨r, hr⟩ := List.head?_eq_some_iff.mp h.rooted
  rw [Mount.seen, hr, List.takeWhile_cons_of_pos (by decide), List.head?_cons]

/-- A point is listed exactly when some mount is seen there. -/
theorem lists_render {mounts : List Mount} (valid : ∀ m ∈ mounts, m.Valid) {point : List Char}
    (rooted : point.head? = some '/') :
    lists (render mounts) point = true ↔ ∃ m ∈ mounts, SamePlace m.seen point := by
  rw [lists, targets_render valid, List.any_map, List.any_eq_true]
  constructor
  · rintro ⟨m, hm, same⟩
    exact ⟨m, hm, (normalize_eq_iff (valid m hm).seen_rooted rooted).mp (beq_iff_eq.mp same)⟩
  · rintro ⟨m, hm, same⟩
    exact ⟨m, hm, beq_iff_eq.mpr ((normalize_eq_iff (valid m hm).seen_rooted rooted).mpr same)⟩

theorem Mount.Plain.seen_eq {m : Mount} (h : m.Plain) : m.seen = m.target := by
  apply List.takeWhile_eq_self_iff.mpr
  intro c hc
  cases hb : isBlank c with
  | true => simp [h c hc hb]
  | false => simp

/-- No blank that the kernel leaves as it is survives in what is seen. -/
theorem Mount.escapes_of_mem_seen {m : Mount} {c : Char} (hc : c ∈ m.seen)
    (hb : isBlank c = true) : kernelEscapes c = true := by
  have kept := List.mem_takeWhile_imp hc
  simpa [hb] using kept

theorem SamePlace.mem {a b : List Char} (h : SamePlace a b) {c : Char} (slash : c ≠ '/')
    (hc : c ∈ b) : c ∈ a := by
  obtain ⟨s, m, n, rfl, rfl⟩ := h
  have hs : c ∈ s := by
    rcases List.mem_append.mp hc with hs | hr
    · exact hs
    · exact absurd (List.eq_of_mem_replicate hr) slash
  exact List.mem_append_left _ hs

theorem lists_exact_of_plain {mounts : List Mount} (valid : ∀ m ∈ mounts, m.Valid)
    (plain : ∀ m ∈ mounts, m.Plain) {point : List Char} (rooted : point.head? = some '/') :
    lists (render mounts) point = true ↔ Mounted mounts point := by
  rw [lists_render valid rooted]
  constructor
  · rintro ⟨m, hm, same⟩
    exact ⟨m, hm, (plain m hm).seen_eq ▸ same⟩
  · rintro ⟨m, hm, same⟩
    exact ⟨m, hm, (plain m hm).seen_eq.symm ▸ same⟩

/-- A target with a raw blank is itself a point that is mounted and not listed. -/
theorem not_lists_target {mounts : List Mount} (valid : ∀ m ∈ mounts, m.Valid) {m : Mount}
    (hm : m ∈ mounts) (raw : ¬m.Plain) : lists (render mounts) m.target = false := by
  rw [← Bool.not_eq_true, lists_render valid (valid m hm).rooted]
  rintro ⟨n, -, same⟩
  apply raw
  intro c hc hb
  have slash : c ≠ '/' := by
    rintro rfl
    exact absurd hb (by decide)
  exact Mount.escapes_of_mem_seen (same.mem slash hc) hb

end Shortcuts.MountTable

namespace Shortcuts.Transfer

open MountTable

/-- The checks pass exactly when every point is listed. -/
theorem checkMounts_ofTable (name : Except Failure String) (table : String)
    (points : List String) :
    (checkMounts (Host.ofTable name (.ok table)) points).result = .ok () ↔
      ∀ p ∈ points, lists table.toList p.toList = true := by
  rw [checkMounts_eq_ok_iff]
  exact forall₂_congr fun p _ => iff_of_eq (Except.ok.injEq (lists table.toList p.toList) true)

end Shortcuts.Transfer

namespace Shortcuts.MountTable

open Text

/-- Exactly the mounted points are listed. -/
def LookupExact (mounts : List Mount) : Prop :=
  ∀ point, point.head? = some '/' → (lists (render mounts) point = true ↔ Mounted mounts point)

/-- The checks of a transfer pass exactly when all its points are mounted. -/
def ChecksExact (mounts : List Mount) : Prop :=
  ∀ (name : Except Failure String) (points : List String),
    (∀ p ∈ points, p.toList.head? = some '/') →
    ((Transfer.checkMounts (Host.ofTable name (.ok (String.ofList (render mounts)))) points).result
      = .ok () ↔ ∀ p ∈ points, Mounted mounts p.toList)

theorem checksExact_iff {mounts : List Mount} : ChecksExact mounts ↔ LookupExact mounts := by
  constructor
  · intro checks point rooted
    have single := checks (.ok "") [String.ofList point] (by simpa using rooted)
    simpa [Transfer.checkMounts_ofTable] using single
  · intro answers name points rooted
    rw [Transfer.checkMounts_ofTable, String.toList_ofList]
    exact forall₂_congr fun p hp => answers p.toList (rooted p hp)

theorem lookupExact_iff {mounts : List Mount} (valid : ∀ m ∈ mounts, m.Valid) :
    LookupExact mounts ↔ ∀ m ∈ mounts, m.Plain := by
  constructor
  · intro answers m hm
    by_contra raw
    have listed := (answers _ (valid m hm).rooted).mpr ⟨m, hm, SamePlace.refl _⟩
    rw [not_lists_target valid hm raw] at listed
    cases listed
  · intro plain point rooted
    exact lists_exact_of_plain valid plain rooted

/-- A point is listed when some target is the same place up to its first raw blank. So a table is
looked up exactly, and the checks of a transfer are exact, when no target has a raw blank and in no
other case. -/
theorem lookup_of_kernel_table {mounts : List Mount} (valid : ∀ m ∈ mounts, m.Valid) :
    (∀ point, point.head? = some '/' →
      (lists (render mounts) point = true ↔ ∃ m ∈ mounts, SamePlace m.seen point)) ∧
    (LookupExact mounts ↔ ∀ m ∈ mounts, m.Plain) ∧
    (ChecksExact mounts ↔ ∀ m ∈ mounts, m.Plain) :=
  ⟨fun _ rooted => lists_render valid rooted, lookupExact_iff valid,
    checksExact_iff.trans (lookupExact_iff valid)⟩

theorem lookup_of_escaped_targets :
    let mounts : List Mount :=
      [⟨"/dev/sdb1".toList, "/mnt/my \\040\tnas//".toList, "ext4 rw 0 0".toList⟩,
        ⟨"proc".toList, "/".toList, "".toList⟩]
    (∀ m ∈ mounts, m.Valid) ∧ LookupExact mounts ∧ ChecksExact mounts := by
  intro mounts
  have valid : ∀ m ∈ mounts, m.Valid := by decide
  have plain : ∀ m ∈ mounts, m.Plain := by decide
  have lookup := lookup_of_kernel_table valid
  exact ⟨valid, lookup.2.1.mpr plain, lookup.2.2.mpr plain⟩

/-- A no-break space ends the target that is seen: a directory where nothing is mounted passes for
a mount point, and the mount point does not. -/
theorem lookup_of_no_break_space :
    let mounts : List Mount :=
      [⟨"/dev/sdb1".toList, "/mnt/a\u00a0b".toList, "ext4 rw 0 0".toList⟩]
    let host := Host.ofTable (.ok "") (.ok (String.ofList (render mounts)))
    (∀ m ∈ mounts, m.Valid) ∧
    (¬Mounted mounts "/mnt/a".toList ∧ lists (render mounts) "/mnt/a".toList = true ∧
      (Transfer.checkMounts host ["/mnt/a"]).result = .ok ()) ∧
    Mounted mounts "/mnt/a\u00a0b".toList ∧
      lists (render mounts) "/mnt/a\u00a0b".toList = false ∧
      (Transfer.checkMounts host ["/mnt/a\u00a0b"]).result
        = .error (.notMounted "/mnt/a\u00a0b") := by
  decide

end Shortcuts.MountTable
