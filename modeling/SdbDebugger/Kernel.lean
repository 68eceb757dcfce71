import SdbDebugger.Library.ByteSpace

/-! The system calls the debugger makes, as operations on a kernel state that is
left abstract. One traced inferior is meant throughout, so no operation takes a
pid. A failing call returns its `errno` and may still change the kernel state. -/

namespace SdbDebugger

abbrev Byte := BitVec 8
abbrev Word := BitVec 64
abbrev VirtAddr := BitVec 64
abbrev Memory := VirtAddr → Byte

/-- The bytes of `struct user`, by offset. -/
abbrev UserArea := BitVec 64 → Byte

structure Errno where
  code : Nat
  message : String
  deriving DecidableEq, Repr

/-- What the `WIFEXITED`, `WIFSIGNALED` and `WIFSTOPPED` macros tell apart. -/
inductive WaitStatus where
  | exited (status : Byte)
  | signaled (signal : Byte)
  | stopped (signal : Byte)
  deriving DecidableEq, Repr

def sigtrap : Byte := 5

/-- `SIGTRAP` as `PTRACE_O_TRACESYSGOOD` marks it at a syscall stop. -/
def syscallTrap : Byte := sigtrap ||| 0x80

inductive ResumeRequest where
  | singleStep
  | cont
  | syscall
  deriving DecidableEq, Repr

structure Iovec where
  base : VirtAddr
  len : Nat
  deriving DecidableEq, Repr

structure Kernel (κ : Type) where
  peekData : VirtAddr → κ → Except Errno Word × κ
  pokeData : VirtAddr → Word → κ → Except Errno Unit × κ
  peekUser : BitVec 64 → κ → Except Errno Word × κ
  pokeUser : BitVec 64 → Word → κ → Except Errno Unit × κ
  /-- Contents of `user_regs_struct`, by offset inside it. -/
  getRegs : κ → Except Errno (Nat → Byte) × κ
  getFpRegs : κ → Except Errno (Nat → Byte) × κ
  setFpRegs : (Nat → Byte) → κ → Except Errno Unit × κ
  /-- The `si_code` of the pending signal. -/
  getSigInfo : κ → Except Errno Int × κ
  resume : ResumeRequest → κ → Except Errno Unit × κ
  /-- `none` when the inferior never changes state again. -/
  waitpid : κ → Option (Except Errno WaitStatus) × κ
  /-- The bytes transferred, in order; there may be fewer than were asked for. -/
  processVmReadv : List Iovec → κ → Except Errno (List Byte) × κ

end SdbDebugger
