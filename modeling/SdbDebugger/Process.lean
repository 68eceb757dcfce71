import SdbDebugger.Library.EffectRules
import SdbDebugger.Kernel

/-! State of the debugger: `process.hpp`, `breakpoint_site.hpp`, `watchpoint.hpp`
and `error.hpp`. A world is one process object, the two function-local id
counters and the kernel. -/

namespace SdbDebugger
open EffectRules

/-- Exceptions of the standard library and of fmt that the sources can raise. -/
inductive StdException where
  | badOptionalAccess
  | badVariantAccess
  | lengthError
  | badAlloc
  | formatError
  deriving DecidableEq, Repr

/-- Every way a call can end other than by returning. -/
inductive Fault where
  /-- `sdb::error`, with its `what()`. -/
  | error (what : String)
  | exception (e : StdException)
  | terminate (message : String)
  | undefinedBehaviour (reason : String)
  /-- The call has not returned: the inferior is still running. -/
  | stillRunning
  deriving DecidableEq, Repr

def Fault.sendErrno (what : String) (e : Errno) : Fault := .error (what ++ ": " ++ e.message)

inductive ProcState where
  | stopped | running | exited | terminated
  deriving DecidableEq, Repr

inductive TrapType where
  | singleStep | softwareBreak | hardwareBreak | syscall | unknown
  deriving DecidableEq, Repr

inductive StoppointMode where
  | write | readWrite | execute
  deriving DecidableEq, Repr

/-- The union of `syscall_information`: arguments on entry, result on exit. -/
inductive SyscallPayload where
  | args (values : List Word)
  | ret (value : Word)
  deriving DecidableEq, Repr

structure SyscallInformation where
  id : BitVec 16
  entry : Bool
  payload : SyscallPayload
  deriving DecidableEq, Repr

structure StopReason where
  reason : ProcState
  info : Byte
  trapReason : Option TrapType
  syscallInfo : Option SyscallInformation
  deriving DecidableEq, Repr

inductive SyscallCatchMode where
  | none | some | all
  deriving DecidableEq, Repr

structure SyscallCatchPolicy where
  mode : SyscallCatchMode
  toCatch : List Int
  deriving DecidableEq, Repr

namespace SyscallCatchPolicy

def catchAll : SyscallCatchPolicy := ⟨.all, []⟩
def catchNone : SyscallCatchPolicy := ⟨.none, []⟩
def catchSome (toCatch : List Int) : SyscallCatchPolicy := ⟨.some, toCatch⟩

end SyscallCatchPolicy

structure BreakpointSite where
  id : Int
  address : VirtAddr
  isEnabled : Bool
  isHardware : Bool
  isInternal : Bool
  hardwareRegisterIndex : Int
  savedData : Byte
  deriving DecidableEq, Repr

structure Watchpoint where
  id : Int
  address : VirtAddr
  mode : StoppointMode
  size : BitVec 64
  isEnabled : Bool
  data : Word
  previousData : Word
  hardwareRegisterIndex : Int
  deriving DecidableEq, Repr

/-- `data` is the `user` struct cached in `registers_`. -/
structure Process where
  isAttached : Bool
  syscallCatchPolicy : SyscallCatchPolicy
  expectingSyscallExit : Bool
  state : ProcState
  data : UserArea
  breakpointSites : List BreakpointSite
  watchpoints : List Watchpoint

/-- `breakpointSiteId` and `watchpointId` are the statics of the two `get_next_id`. -/
structure World (κ : Type) extends Process where
  breakpointSiteId : Int
  watchpointId : Int
  kernel : κ

abbrev Sdb (κ : Type) := EStateM Fault (World κ)

variable {κ α : Type}

/-- A system call whose failure is reported by `error::send_errno`. -/
def orSendErrno (what : String) (op : κ → Except Errno α × κ) : Sdb κ α := fun w =>
  match op w.kernel with
  | (.ok a, k) => .ok a { w with kernel := k }
  | (.error e, k) => .error (.sendErrno what e) { w with kernel := k }

theorem wp_orSendErrno {what : String} {op : κ → Except Errno α × κ}
    {ok : α → World κ → Prop} {err : Fault → World κ → Prop} {w : World κ} :
    wp (orSendErrno what op) ok err w ↔
      (∀ a k, op w.kernel = (.ok a, k) → ok a { w with kernel := k }) ∧
      ∀ e k, op w.kernel = (.error e, k) → err (.sendErrno what e) { w with kernel := k } := by
  unfold wp orSendErrno
  rcases op w.kernel with ⟨_ | _, k⟩ <;> simp

theorem orSendErrno_ok {what : String} {op : κ → Except Errno α × κ} {w : World κ} {a : α} {k : κ}
    (h : op w.kernel = (.ok a, k)) : orSendErrno what op w = .ok a { w with kernel := k } := by
  rw [orSendErrno, h]

theorem orSendErrno_error {what : String} {op : κ → Except Errno α × κ} {w : World κ}
    {e : Errno} {k : κ} (h : op w.kernel = (.error e, k)) :
    orSendErrno what op w = .error (.sendErrno what e) { w with kernel := k } := by
  rw [orSendErrno, h]

theorem preserves_orSendErrno {I : World κ → Prop} {what : String} {op : κ → Except Errno α × κ}
    (h : ∀ w, I w → I { w with kernel := (op w.kernel).2 }) :
    Preserves I (orSendErrno what op) := by
  intro w hw
  rw [wp_orSendErrno]
  have keep := h w hw
  exact ⟨fun a k run => by rwa [run] at keep, fun e k run => by rwa [run] at keep⟩

/-- A pure computation that may raise. -/
def liftFault (x : Except Fault α) : Sdb κ α :=
  match x with
  | .ok a => pure a
  | .error e => throw e

@[simp] theorem liftFault_ok (a : α) : (liftFault (.ok a) : Sdb κ α) = pure a := rfl

@[simp] theorem liftFault_error (e : Fault) : (liftFault (.error e) : Sdb κ α) = throw e := rfl

theorem wp_liftFault {x : Except Fault α} {ok : α → World κ → Prop}
    {err : Fault → World κ → Prop} {w : World κ} :
    wp (liftFault x) ok err w ↔ (∀ a, x = .ok a → ok a w) ∧ ∀ e, x = .error e → err e w := by
  cases x with
  | ok a => simp
  | error e => simp

theorem preserves_liftFault {I : World κ → Prop} (x : Except Fault α) :
    Preserves I (liftFault x) := by
  intro w hw
  rw [wp_liftFault]
  exact ⟨fun _ _ => hw, fun _ _ => hw⟩

end SdbDebugger
