import SdbDebugger.Library.FirstHit
import SdbDebugger.Library.Overlay
import SdbDebugger.KernelLaws
import SdbDebugger.Stoppoints
import Mathlib.Data.Set.Basic

/-! An inferior that is a deterministic machine: `exec` is the effect of the instruction
at the pc, and fetching a trap byte stops the machine one byte further on. -/

namespace SdbDebugger
open ByteSpace Overlay FirstHit

structure Core where
  user : UserArea
  memory : Memory

namespace Core

/-- `rip` lies at offset 128 of the user area. -/
def pc (s : Core) : VirtAddr := load s.user 128 8

def setPc (s : Core) (pc : VirtAddr) : Core := { s with user := store s.user 128 8 pc }

def atTrap (s : Core) : Bool := s.memory s.pc == BreakpointSite.int3

end Core

/-- The machine under a tracer; `request` is what it is running on, if it is running. -/
structure Inferior where
  core : Core
  siCode : Int
  request : Option ResumeRequest

namespace Inferior

def esrch : Errno := ⟨3, "No such process"⟩

/-- Requests are for a stopped inferior. -/
def whenStopped {α : Type} (f : Inferior → α × Inferior) (k : Inferior) :
    Except Errno α × Inferior :=
  match k.request with
  | none => (.ok (f k).1, (f k).2)
  | some _ => (.error esrch, k)

def stopAt (s : Core) (siCode : Int) : Option (Except Errno WaitStatus) × Inferior :=
  (some (.ok (.stopped sigtrap)), ⟨s, siCode, none⟩)

/-- A fetched trap byte: `si_code` is that of an `int3`, and the pc is past it. -/
def trap (s : Core) : Option (Except Errno WaitStatus) × Inferior :=
  stopAt (s.setPc (s.pc + 1)) 0x80

/-- Runs the machine for at most `budget` instructions. -/
def waitpid (exec : Core → Core) (budget : Nat) (k : Inferior) :
    Option (Except Errno WaitStatus) × Inferior :=
  match k.request with
  | none => (none, k)
  | some .singleStep => if k.core.atTrap then trap k.core else stopAt (exec k.core) 2
  | some _ =>
    match runUntil exec Core.atTrap budget k.core with
    | some s => trap s
    | none => (none, k)

end Inferior

namespace Inferior

def pokeData (a : VirtAddr) (v : Word) (k : Inferior) : Unit × Inferior :=
  ((), { k with core := { k.core with memory := store k.core.memory a 8 v } })

def pokeUser (off : BitVec 64) (v : Word) (k : Inferior) : Unit × Inferior :=
  ((), { k with core := { k.core with user := store k.core.user off 8 v } })

def setFpRegs (fprs : Nat → Byte) (k : Inferior) : Unit × Inferior :=
  ((), { k with core := { k.core with
    user := overwrite k.core.user (BitVec.ofNat 64 offsetofI387) sizeofI387 fprs } })

def resume (request : ResumeRequest) (k : Inferior) : Unit × Inferior :=
  ((), { k with request := some request })

end Inferior

/-- Conversions keep the bits; they matter to no run of the machine. -/
def machinePlatform (exec : Core → Core) (budget : Nat) : Platform Inferior where
  peekData a := Inferior.whenStopped fun k => (load k.core.memory a 8, k)
  pokeData a v := Inferior.whenStopped (Inferior.pokeData a v)
  peekUser off := Inferior.whenStopped fun k => (load k.core.user off 8, k)
  pokeUser off v := Inferior.whenStopped (Inferior.pokeUser off v)
  getRegs := Inferior.whenStopped fun k =>
    (fun i => k.core.user (BitVec.ofNat 64 offsetofRegs + BitVec.ofNat 64 i), k)
  getFpRegs := Inferior.whenStopped fun k =>
    (fun i => k.core.user (BitVec.ofNat 64 offsetofI387 + BitVec.ofNat 64 i), k)
  setFpRegs fprs := Inferior.whenStopped (Inferior.setFpRegs fprs)
  getSigInfo := Inferior.whenStopped fun k => (k.siCode, k)
  resume request := Inferior.whenStopped (Inferior.resume request)
  waitpid := Inferior.waitpid exec budget
  processVmReadv iovs := Inferior.whenStopped fun k =>
    (iovs.flatMap fun iov => cells k.core.memory iov.base iov.len, k)
  toDouble v := match v with
    | .float bits => bits.setWidth 64
    | .double bits => bits
    | .longDouble bits => bits.setWidth 64
  toLongDouble v := match v with
    | .float bits => bits.setWidth 128
    | .double bits => bits.setWidth 128
    | .longDouble bits => bits
  canAllocate _ := true

/-! ### Laws of the machine -/

section Laws

variable {exec : Core → Core} {budget : Nat}

theorem whenStopped_ok {α : Type} {k : Inferior} (stopped : k.request = none)
    (f : Inferior → α × Inferior) : Inferior.whenStopped f k = (.ok (f k).1, (f k).2) := by
  rw [Inferior.whenStopped, stopped]

theorem whenStopped_run {α : Type} {w : World Inferior} (stopped : w.kernel.request = none)
    (what : String) (f : Inferior → α × Inferior) :
    orSendErrno what (Inferior.whenStopped f) w =
      .ok (f w.kernel).1 { w with kernel := (f w.kernel).2 } :=
  orSendErrno_ok (whenStopped_ok stopped f)

theorem whenStopped_inv {α : Type} {f : Inferior → α × Inferior} {k k' : Inferior} {a : α}
    (h : Inferior.whenStopped f k = (.ok a, k')) : f k = (a, k') := by
  unfold Inferior.whenStopped at h
  split at h
  · simpa [Prod.ext_iff] using h
  · simp at h

theorem whenStopped_kept {α : Type} {f : Inferior → α × Inferior} {k : Inferior}
    (kept : (f k).2 = k) : (Inferior.whenStopped f k).2 = k := by
  unfold Inferior.whenStopped
  split
  · exact kept
  · rfl

def Inferior.user (k : Inferior) : UserArea := k.core.user

theorem registerLoads_machine :
    RegisterLoads (machinePlatform exec budget).toKernel Inferior.user where
  getRegs_value k regs k' h i _ := by
    cases whenStopped_inv h
    rfl
  getRegs_user k := congrArg Inferior.user (whenStopped_kept rfl)
  getFpRegs_value k fprs k' h i _ := by
    cases whenStopped_inv h
    rfl
  getFpRegs_user k := congrArg Inferior.user (whenStopped_kept rfl)
  peekUser_value off k v k' h := by
    cases whenStopped_inv h
    rfl
  peekUser_user off k := congrArg Inferior.user (whenStopped_kept rfl)

theorem registerStores_machine :
    RegisterStores (machinePlatform exec budget).toKernel Inferior.user where
  pokeUser off v k u k' h := by
    cases whenStopped_inv (f := Inferior.pokeUser off v) h
    rfl
  setFpRegs fprs k u k' h := by
    cases whenStopped_inv (f := Inferior.setFpRegs fprs) h
    rfl

end Laws

/-! ### The program under trap bytes -/

/-- The machine as it is when trap bytes have been written over its memory. -/
noncomputable def Core.patched (traps : Set VirtAddr) (s : Core) : Core :=
  { s with memory := patch traps BreakpointSite.int3 s.memory }

/-- The instruction about to be executed is no trap of the program's own, and it neither
reads nor writes the bytes at `traps`, except that it may begin at one of them. -/
structure Unaware (exec : Core → Core) (traps : Set VirtAddr) (s : Core) : Prop where
  noTrap : s.atTrap = false
  blind : ∀ memory : Memory, (∀ a, a ∉ traps ∨ a = s.pc → memory a = s.memory a) →
    (exec ⟨s.user, memory⟩).user = (exec s).user ∧
    (∀ a, a ∉ traps → (exec ⟨s.user, memory⟩).memory a = (exec s).memory a) ∧
    ∀ a, a ∈ traps → (exec ⟨s.user, memory⟩).memory a = memory a

section Patched

variable {exec : Core → Core} {traps : Set VirtAddr} {s : Core}

theorem Unaware.unwritten (unaware : Unaware exec traps s) {a : VirtAddr} (trapped : a ∈ traps) :
    (exec s).memory a = s.memory a :=
  (unaware.blind s.memory fun _ _ => rfl).2.2 a trapped

/-- Under traps that are elsewhere the instruction has its native effect. -/
theorem Unaware.exec_patched (unaware : Unaware exec traps s) {traps' : Set VirtAddr}
    (fewer : traps' ⊆ traps) (elsewhere : s.pc ∉ traps') :
    exec (s.patched traps') = (exec s).patched traps' := by
  have effect := unaware.blind (patch traps' BreakpointSite.int3 s.memory) (by
    intro a h
    refine patch_of_not_mem fun here => ?_
    cases h with
    | inl outside => exact outside (fewer here)
    | inr same => exact elsewhere (same ▸ here))
  have memory : (exec (s.patched traps')).memory =
      patch traps' BreakpointSite.int3 (exec s).memory := by
    funext a
    by_cases here : a ∈ traps
    · rw [show (exec (s.patched traps')).memory a = _ from effect.2.2 a here]
      by_cases there : a ∈ traps'
      · rw [patch_of_mem there, patch_of_mem there]
      · rw [patch_of_not_mem there, patch_of_not_mem there, unaware.unwritten here]
    · rw [show (exec (s.patched traps')).memory a = _ from effect.2.1 a here,
        patch_of_not_mem fun there => here (fewer there)]
  have user : (exec (s.patched traps')).user = (exec s).user := effect.1
  cases h : exec (s.patched traps') with
  | mk u m =>
    rw [h] at memory user
    rw [Core.patched, ← memory, ← user]

theorem Core.atTrap_patched [DecidablePred (· ∈ traps)] (own : s.atTrap = false) :
    (s.patched traps).atTrap = decide (s.pc ∈ traps) := by
  unfold Core.atTrap at own ⊢
  change (patch traps BreakpointSite.int3 s.memory s.pc == BreakpointSite.int3) = _
  by_cases here : s.pc ∈ traps
  · simp [patch_of_mem here, here]
  · rw [patch_of_not_mem here, own]
    simp [here]

end Patched

end SdbDebugger
