import Shortcuts.Machine.Basic
import Shortcuts.Proofs.Configuration.OneLine

/-!
# Starts on a machine

A start fails and leaves the machine as it was, or the program runs to its end (`start_cases`). Its
wait status tells how it ended: success is the code 0 alone, and a signal leaves no code
(`judge_waitStatus`). What the launcher says of a failed start is one line if the name of the program
is (`start_failsOnOneLine`).
-/

namespace Shortcuts

namespace Machine

/-! ## Wait statuses -/

/-- An end that a wait status can tell: a code of one byte, or one of the signals. -/
inductive Exit.Ordinary : Exit → Prop
  | code (n : Nat) (byte : n < 256) : Ordinary (.code n)
  | signal (n : Nat) (positive : 0 < n) (known : n < 128) : Ordinary (.signal n)

def Exit.code? : Exit → Option Int
  | .code n => some n
  | .signal _ => none

/-- What the launcher is told of an end is how it came about. -/
theorem ofWaitStatus_waitStatus {e : Exit} (ordinary : e.Ordinary) :
    Completion.ofWaitStatus e.waitStatus = ⟨e.success, e.code?⟩ := by
  cases ordinary with
  | code n byte =>
    have whole : (256 * (n : Int)) % 128 = 0 := by omega
    have upper : (256 * (n : Int)) / 256 % 256 = n := by omega
    have success : ((256 * (n : Int)) == 0) = (Exit.code n == .code 0) := by
      rw [Bool.eq_iff_iff, beq_iff_eq, beq_iff_eq, Exit.code.injEq]
      omega
    simp only [Completion.ofWaitStatus, Exit.waitStatus, whole, upper, success, if_true, Exit.code?,
      Exit.success]
  | signal n positive known =>
    have part : (n : Int) % 128 ≠ 0 := by omega
    have failed : ((n : Int) == 0) = false := by
      rw [beq_eq_false_iff_ne]
      omega
    simp only [Completion.ofWaitStatus, Exit.waitStatus, part, failed, if_false, Exit.code?]
    rfl

/-- A run succeeds if its program ends with the code 0. A failure has the code, or -1 where a
signal left none. -/
theorem judge_waitStatus {e : Exit} (ordinary : e.Ordinary) (key : String) :
    (Completion.ofWaitStatus e.waitStatus).judge key =
      match e with
      | .code 0 => .ok ⟨true, some 0⟩
      | .code n => .error (.failed key n)
      | .signal _ => .error (.failed key (-1)) := by
  rw [ofWaitStatus_waitStatus ordinary]
  cases e with
  | code n => cases n <;> rfl
  | signal n => rfl

/-! ## Starts -/

/-- Why a program cannot be started. -/
inductive Unstarted (m : Machine) (program : String) (args : List String) : String → Prop
  | nul (held : hasNul (program :: args) = true) :
      Unstarted m program args "nul byte found in provided data"
  | refused (e : Errno) (refused : m.spawn program args = .error e) :
      Unstarted m program args e.message

/-- A start that fails leaves the machine as it was. One that succeeds gives how the program ended
and what it wrote, and the machine that it left. -/
theorem start_cases (m : Machine) (program : String) (args : List String) :
    (∃ reason, Unstarted m program args reason ∧
      m.start program args =
        ({ result := .error { message := "failed to execute: " ++ program, causes := [reason] } }, m)) ∨
    ∃ r m', m.spawn program args = .ok (r, m') ∧
      m.start program args =
        ({ result := .ok (.ofWaitStatus r.exit.waitStatus),
           written := [(.out, r.out), (.err, r.err)] }, m') := by
  unfold start
  cases held : hasNul (program :: args) with
  | true => exact .inl ⟨_, .nul held, rfl⟩
  | false =>
    cases spawned : m.spawn program args with
    | error e => exact .inl ⟨_, .refused e spawned, rfl⟩
    | ok ran => exact .inr ⟨ran.1, ran.2, rfl, rfl⟩

/-! ## Failures -/

/-- The bytes of a text are at hand; its characters would have to be decoded. -/
theorem oneLine_of_bytes {s : String} (h : 10 ∉ s.toByteArray.data.toList) : OneLine s := by
  have bytes : s.toByteArray.data.toList = s.toList.flatMap String.utf8EncodeChar := by
    conv_lhs => rw [← String.ofList_toList (s := s)]
    rw [String.toByteArray_ofList, List.utf8Encode]
    simp
  intro mem
  apply h
  rw [bytes, List.mem_flatMap]
  exact ⟨'\n', mem, by decide⟩

theorem oneLine_description (e : Errno) : OneLine e.description := by
  have known : ∀ d ∈ Errno.descriptions, 10 ∉ d.toByteArray.data.toList := by decide +kernel
  unfold Errno.description
  dsimp only
  split
  · cases listed : Errno.descriptions[e.code.toNat]? with
    | none => exact oneLine_append.mpr ⟨by decide, oneLine_toString_int _⟩
    | some d => exact oneLine_of_bytes (known d (List.mem_of_getElem? listed))
  · exact oneLine_append.mpr ⟨by decide, oneLine_toString_int _⟩

theorem oneLine_message (e : Errno) : OneLine e.message := by
  simp only [Errno.message, oneLine_append]
  exact ⟨⟨⟨oneLine_description e, by decide⟩, oneLine_toString_int _⟩, by decide⟩

theorem Unstarted.oneLine {m : Machine} {program : String} {args : List String} {reason : String}
    (h : Unstarted m program args reason) : OneLine reason := by
  cases h with
  | nul => decide
  | refused e => exact oneLine_message e

theorem start_failsOnOneLine {m : Machine} {program : String} (line : OneLine program)
    {args : List String} {f : Failure} (failed : (m.start program args).1.result = .error f) :
    OneLine f.full := by
  obtain ⟨reason, unstarted, answer⟩ | ⟨r, m', -, answer⟩ := start_cases m program args
  · rw [answer] at failed
    obtain rfl := Except.error.inj failed
    simp only [Failure.full, List.foldl_cons, List.foldl_nil, oneLine_append]
    exact ⟨⟨⟨by decide, line⟩, by decide⟩, unstarted.oneLine⟩
  · rw [answer] at failed
    cases failed

end Machine

end Shortcuts
