import SdbDebugger.Library.Exceptions
import SdbDebugger.MemoryReads
import SdbDebugger.StopArrival

/-! Calls that raise nothing but `sdb::error`, whatever the kernel answers. -/

namespace SdbDebugger
open EffectRules Exceptions ByteSpace KeyedList StoppointCollection

/-- What a handler of `sdb::error` lets through. A call that has not returned raises nothing. -/
def Fault.escapes : Fault → Bool
  | .error _ => false
  | .stillRunning => false
  | _ => true

/-- An exception that a handler of `sdb::error` lets through. -/
abbrev Escaping (e : Fault) : Prop := e.escapes = true

variable {κ α : Type} {P : Platform κ}

/-- A property of the stoppoints alone. -/
def OnStoppoints (R : List BreakpointSite → List Watchpoint → Prop) (w : World κ) : Prop :=
  R w.breakpointSites w.watchpoints

section Registers

variable {R : List BreakpointSite → List Watchpoint → Prop}

theorem tame_orSendErrno (what : String) (op : κ → Except Errno α × κ) :
    Tame Escaping (OnStoppoints R) (orSendErrno what op) := by
  intro w h
  rw [wp_orSendErrno]
  exact ⟨fun _ _ _ => h, fun _ _ _ => ⟨Bool.false_ne_true, h⟩⟩

theorem tame_read {I : World κ → Prop} {id : Int} {off : BitVec 64} (whole : WholeWord id off) :
    Tame Escaping I (Registers.readByIdAsU64 id : Sdb κ Word) := by
  intro w h
  exact (wp_of_ok (Registers.readByIdAsU64_eq whole w) _ _).2 h

theorem tame_setData (f : World κ → UserArea) :
    Tame Escaping (OnStoppoints R) (modify fun w => { w with data := f w } : Sdb κ Unit) :=
  Tame.modify fun _ h => h

theorem tame_writeUserArea (off : BitVec 64) (v : Word) :
    Tame Escaping (OnStoppoints R) (Registers.writeUserArea P off v) := tame_orSendErrno _ _

theorem tame_writeWord {id : Int} {off : BitVec 64} (whole : WholeWord id off) (v : Word) :
    Tame Escaping (OnStoppoints R) (Registers.writeById P id (.u64 v)) := by
  rw [Registers.writeById_u64 P whole]
  exact (tame_setData _).bind fun _ => tame_writeUserArea _ _

theorem tame_writeInt {id : Int} {off : BitVec 64} (whole : WholeWord id off) (v : BitVec 32) :
    Tame Escaping (OnStoppoints R) (Registers.writeById P id (.i32 v)) := by
  rw [Registers.writeById_i32 P whole]
  exact (tame_setData _).bind fun _ => tame_writeUserArea _ _

theorem tame_getPc {I : World κ → Prop} : Tame Escaping I (getPc : Sdb κ VirtAddr) :=
  tame_read wholeWord_rip

theorem tame_setPc (pc : VirtAddr) : Tame Escaping (OnStoppoints R) (setPc P pc) :=
  tame_writeWord wholeWord_rip pc

theorem tame_readDebugRegisters {indices : List Nat} (valid : ∀ i ∈ indices, i < 8) :
    Tame Escaping (OnStoppoints R) (Registers.readDebugRegisters P indices) := by
  induction indices with
  | nil => exact Tame.pure _
  | cons i rest ih =>
    obtain ⟨info, found, _⟩ := (wholeWord_dr (valid i List.mem_cons_self)).info
    unfold Registers.readDebugRegisters
    rw [found, liftFault_ok, pure_bind]
    refine (tame_orSendErrno _ _).bind fun v => (tame_setData _).bind fun _ => ?_
    exact ih fun j member => valid j (List.mem_cons_of_mem i member)

theorem tame_readAllRegisters :
    Tame Escaping (OnStoppoints R) (Registers.readAllRegisters P) :=
  (tame_orSendErrno _ _).bind fun _ => (tame_setData _).bind fun _ =>
    (tame_orSendErrno _ _).bind fun _ => (tame_setData _).bind fun _ =>
    tame_readDebugRegisters (by decide)

end Registers

/-! ### The arrival of a stop -/

/-- Arguments on entry, the result on exit. -/
def SyscallInformation.WellFormed (info : SyscallInformation) : Prop :=
  (info.entry = true ∧ ∃ values, info.payload = .args values) ∨
    (info.entry = false ∧ ∃ value, info.payload = .ret value)

/-- A syscall stop comes with its information, and hardware breaks are SIGTRAPs. -/
structure Described (reason : StopReason) : Prop where
  syscall : reason.trapReason = some .syscall →
    ∃ info, reason.syscallInfo = some info ∧ info.WellFormed
  hardware : reason.trapReason = some .hardwareBreak → reason.info = sigtrap

section Arrival

variable {R : List BreakpointSite → List Watchpoint → Prop}

theorem tame_waitpid : Tame Escaping (OnStoppoints R) (waitpid P) := by
  intro w h
  unfold wp waitpid
  rcases P.waitpid w.kernel with ⟨_ | _ | _, k⟩
  · exact ⟨Bool.false_ne_true, h⟩
  · exact ⟨Bool.false_ne_true, h⟩
  · exact h

theorem syscallInformation_described {w : World κ} (h : OnStoppoints R w) :
    wp (syscallInformation : Sdb κ SyscallInformation)
      (fun info t => OnStoppoints R t ∧ info.WellFormed)
      (fun e t => ¬ Escaping e ∧ OnStoppoints R t) w := by
  unfold syscallInformation
  rw [wp_bind, wp_get, wp_ite]
  split
  · rw [wp_bind, wp_of_ok (Registers.readByIdAsU64_eq wholeWord_orig_rax w), wp_bind,
      wp_of_ok (Registers.readByIdAsU64_eq wholeWord_rax w), wp_bind, wp_modify, wp_pure]
    exact ⟨h, .inr ⟨rfl, _, rfl⟩⟩
  · rw [wp_bind, wp_of_ok (Registers.readByIdAsU64_eq wholeWord_orig_rax w), wp_bind,
      wp_of_ok (readArgs_eq wholeWord_args w), wp_bind, wp_modify, wp_pure]
    exact ⟨h, .inl ⟨rfl, _, rfl⟩⟩

theorem augmentStopReason_described (reason : StopReason) {w : World κ} (h : OnStoppoints R w) :
    wp (augmentStopReason P reason) (fun r t => OnStoppoints R t ∧ Described r)
      (fun e t => ¬ Escaping e ∧ OnStoppoints R t) w := by
  unfold augmentStopReason
  rw [wp_bind]
  refine (tame_orSendErrno _ _ w h).mono (fun siCode t kept => ?_) fun _ _ failed => failed
  rw [wp_ite]
  split
  · rw [wp_bind]
    refine (syscallInformation_described kept).mono (fun info u done => ?_) fun _ _ failed => failed
    exact ⟨done.1, fun _ => ⟨info, rfl, done.2⟩, fun _ => rfl⟩
  · refine ⟨kept, fun syscall => ?_, fun hardware => ?_⟩
    · split at syscall
      · exact absurd (Option.some.inj syscall) (trapTypeOf_ne_syscall siCode)
      · simp at syscall
    · by_contra other
      simp [other] at hardware

theorem arrive_described {w : World κ} (h : OnStoppoints R w) :
    wp (arrive P) (fun r t => OnStoppoints R t ∧ Described r)
      (fun e t => ¬ Escaping e ∧ OnStoppoints R t) w := by
  unfold arrive
  rw [wp_bind]
  refine (tame_waitpid w h).mono (fun status t kept => ?_) fun _ _ failed => failed
  rw [wp_bind, wp_modify, wp_bind, wp_get, wp_ite]
  split
  · rw [wp_bind]
    have read := tame_readAllRegisters (P := P) (R := R)
      { t with state := (StopReason.ofStatus status).reason } kept
    refine read.mono (fun _ u kept => ?_) fun _ _ failed => failed
    exact augmentStopReason_described _ kept
  · have plain : (StopReason.ofStatus status).trapReason = none := by cases status <;> rfl
    exact ⟨kept, fun syscall => by simp [plain] at syscall,
      fun hardware => by simp [plain] at hardware⟩

/-- Only a stop of an attached inferior has a trap reason. -/
theorem arrive_attended (w : World κ) :
    wp (arrive P) (fun r t => r.trapReason = none ∨ t.isAttached = true ∧ r.reason = .stopped)
      (fun _ _ => True) w := by
  unfold arrive
  rw [wp_bind]
  refine wp_waitpid (fun status k _ => ?_) fun _ _ _ _ _ => trivial
  rw [wp_bind, wp_modify, wp_bind, wp_get, wp_ite]
  split
  · next attended =>
    simp only [Bool.and_eq_true, beq_iff_eq] at attended
    have read := wp_readStop (P := P)
      (w := { w with kernel := k, state := (StopReason.ofStatus status).reason }) attended.1
      (StopReason.ofStatus status)
    refine read.mono (fun r t kept => .inr ⟨kept.1, ?_⟩) fun _ _ _ => trivial
    rw [kept.2, attended.2]
  · exact .inl (by cases status <;> rfl)

end Arrival

end SdbDebugger
