import SdbDebugger.Registers

/-! What ptrace(2) and process_vm_readv(2) promise, as laws on the abstract
kernel. Each group of results assumes the laws it needs and no others. -/

namespace SdbDebugger
open ByteSpace

variable {κ : Type}

/-- Memory of the stopped inferior: of the calls that succeed only `PTRACE_POKEDATA` changes
it, and any call may fail. -/
structure MemoryLaws (K : Kernel κ) (mem : κ → Memory) : Prop where
  peekData_value : ∀ a k v k', K.peekData a k = (.ok v, k') → v = load (mem k) a 8
  peekData_mem : ∀ a k, mem (K.peekData a k).2 = mem k
  pokeData_stored : ∀ a v k u k', K.pokeData a v k = (.ok u, k') → mem k' = store (mem k) a 8 v
  peekUser_mem : ∀ off k, mem (K.peekUser off k).2 = mem k
  pokeUser_mem : ∀ off v k, mem (K.pokeUser off v k).2 = mem k
  setFpRegs_mem : ∀ fprs k, mem (K.setFpRegs fprs k).2 = mem k
  processVmReadv_mem : ∀ iovs k, mem (K.processVmReadv iovs k).2 = mem k

/-- A refused `PTRACE_POKEDATA` has written nothing. Of a word that runs into a page which cannot be
written, the bytes before the page are written and the call fails. -/
def KeepsRefused (K : Kernel κ) (mem : κ → Memory) : Prop :=
  ∀ a v k e k', K.pokeData a v k = (.error e, k') → mem k' = mem k

/-- `process_vm_readv` transfers every list of readable chunks, in order. -/
def TransfersReadable (K : Kernel κ) (mem : κ → Memory) (readable : κ → VirtAddr → Prop) : Prop :=
  ∀ k iovs, (∀ iov ∈ iovs, ∀ i < iov.len, readable k (iov.base + BitVec.ofNat 64 i)) →
    (K.processVmReadv iovs k).1 = .ok (iovs.flatMap fun iov => cells (mem k) iov.base iov.len)

/-- Which addresses are readable changes only while the inferior runs. -/
structure MappingLaws (K : Kernel κ) (readable : κ → VirtAddr → Prop) : Prop where
  pokeData : ∀ a v k x, readable (K.pokeData a v k).2 x ↔ readable k x
  processVmReadv : ∀ iovs k x, readable (K.processVmReadv iovs k).2 x ↔ readable k x

/-- `PTRACE_POKEDATA` takes a word all of whose bytes are mapped. -/
def AcceptsPokes (K : Kernel κ) (mapped : κ → VirtAddr → Prop) : Prop :=
  ∀ a v k, (∀ i < 8, mapped k (a + BitVec.ofNat 64 i)) → ∃ k', K.pokeData a v k = (.ok (), k')

/-- `PTRACE_POKEDATA` refuses a word with a byte that is not mapped. -/
def RefusesPokes (K : Kernel κ) (mapped : κ → VirtAddr → Prop) : Prop :=
  ∀ a v k, ¬ (∀ i < 8, mapped k (a + BitVec.ofNat 64 i)) → ∃ e k', K.pokeData a v k = (.error e, k')

def Iovec.Whole (iov : Iovec) (readable : VirtAddr → Prop) : Prop :=
  ∀ i < iov.len, readable (iov.base + BitVec.ofNat 64 i)

instance (iov : Iovec) (readable : VirtAddr → Prop) [DecidablePred readable] :
    Decidable (iov.Whole readable) :=
  inferInstanceAs (Decidable (∀ i < iov.len, readable (iov.base + BitVec.ofNat 64 i)))

/-- `process_vm_readv` transfers the chunks before the first that is not readable throughout,
and fails if there are none before it. -/
structure TransfersPrefix (K : Kernel κ) (mem : κ → Memory) (readable : κ → VirtAddr → Prop) :
    Prop where
  received : ∀ k before after, (before = [] → after = []) →
    (∀ iov ∈ before, iov.Whole (readable k)) → (∀ iov ∈ after.head?, ¬ iov.Whole (readable k)) →
    (K.processVmReadv (before ++ after) k).1 =
      .ok (before.flatMap fun iov => cells (mem k) iov.base iov.len)
  refused : ∀ k iov after, ¬ iov.Whole (readable k) →
    ∃ e, (K.processVmReadv (iov :: after) k).1 = .error e

theorem TransfersPrefix.transfersReadable {K : Kernel κ} {mem : κ → Memory}
    {readable : κ → VirtAddr → Prop} (transfers : TransfersPrefix K mem readable) :
    TransfersReadable K mem readable := by
  intro k iovs whole
  have all := transfers.received k iovs [] (fun _ => rfl) whole (by simp)
  rwa [List.append_nil] at all

/-- `IOV_MAX`, the most chunks that one call takes. -/
def iovMax : Nat := 1024

/-- `process_vm_readv` rejects a call with too many chunks, and transfers every other one whose
chunks are all readable. -/
structure TransfersLimited (K : Kernel κ) (mem : κ → Memory) (readable : κ → VirtAddr → Prop) :
    Prop where
  received : ∀ k iovs, iovs.length ≤ iovMax → (∀ iov ∈ iovs, iov.Whole (readable k)) →
    (K.processVmReadv iovs k).1 = .ok (iovs.flatMap fun iov => cells (mem k) iov.base iov.len)
  rejected : ∀ k iovs, iovMax < iovs.length → ∃ e, (K.processVmReadv iovs k).1 = .error e

/-- `PTRACE_POKEUSER` and `PTRACE_SETFPREGS` store what they are given. -/
structure RegisterStores (K : Kernel κ) (user : κ → UserArea) : Prop where
  pokeUser : ∀ off v k u k', K.pokeUser off v k = (.ok u, k') → user k' = store (user k) off 8 v
  setFpRegs : ∀ fprs k u k', K.setFpRegs fprs k = (.ok u, k') →
    user k' = overwrite (user k) (BitVec.ofNat 64 offsetofI387) sizeofI387 fprs

/-- Requests for registers return the contents of the user area and leave it alone. -/
structure RegisterLoads (K : Kernel κ) (user : κ → UserArea) : Prop where
  getRegs_value : ∀ k regs k', K.getRegs k = (.ok regs, k') →
    ∀ i < sizeofRegs, regs i = user k (BitVec.ofNat 64 offsetofRegs + BitVec.ofNat 64 i)
  getRegs_user : ∀ k, user (K.getRegs k).2 = user k
  getFpRegs_value : ∀ k fprs k', K.getFpRegs k = (.ok fprs, k') →
    ∀ i < sizeofI387, fprs i = user k (BitVec.ofNat 64 offsetofI387 + BitVec.ofNat 64 i)
  getFpRegs_user : ∀ k, user (K.getFpRegs k).2 = user k
  peekUser_value : ∀ off k v k', K.peekUser off k = (.ok v, k') → v = load (user k) off 8
  peekUser_user : ∀ off k, user (K.peekUser off k).2 = user k

/-- `DR0` to `DR3` and `DR7`, the registers that describe the four slots. -/
def SlotRegister (i : Nat) : Prop := i < 4 ∨ i = 7

def SlotsKept (debug : κ → Nat → Word) (k k' : κ) : Prop :=
  ∀ i, SlotRegister i → debug k' i = debug k i

/-- Writes to the slot registers are accepted and stored; nothing else changes
them, in particular not the running inferior, which may change `DR6`. -/
structure DebugRegisterLaws (K : Kernel κ) (debug : κ → Nat → Word) : Prop where
  pokeUser_accepted : ∀ i, SlotRegister i → ∀ v k, ∃ k',
    K.pokeUser (debugOffset i) v k = (.ok (), k') ∧ debug k' = Function.update (debug k) i v
  pokeUser_apart : ∀ off v k,
    (∀ i < 8, ∀ j < 8, 8 ≤ (debugOffset i + BitVec.ofNat 64 j - off).toNat) →
    SlotsKept debug k (K.pokeUser off v k).2
  peekUser_value : ∀ i < 8, ∀ k v k', K.peekUser (debugOffset i) k = (.ok v, k') → v = debug k i
  peekUser_kept : ∀ off k, SlotsKept debug k (K.peekUser off k).2
  peekData_kept : ∀ a k, SlotsKept debug k (K.peekData a k).2
  pokeData_kept : ∀ a v k, SlotsKept debug k (K.pokeData a v k).2
  getRegs_kept : ∀ k, SlotsKept debug k (K.getRegs k).2
  getFpRegs_kept : ∀ k, SlotsKept debug k (K.getFpRegs k).2
  getSigInfo_kept : ∀ k, SlotsKept debug k (K.getSigInfo k).2
  resume_kept : ∀ request k, SlotsKept debug k (K.resume request k).2
  waitpid_kept : ∀ k, SlotsKept debug k (K.waitpid k).2
  processVmReadv_kept : ∀ iovs k, SlotsKept debug k (K.processVmReadv iovs k).2

/-- Writes to the slot registers may be refused; one that is changes none of them, and
neither do requests for memory. -/
structure SlotRequestLaws (K : Kernel κ) (debug : κ → Nat → Word) : Prop where
  pokeUser_stored : ∀ i, SlotRegister i → ∀ v k u k', K.pokeUser (debugOffset i) v k = (.ok u, k') →
    ∀ j, SlotRegister j → debug k' j = Function.update (debug k) i v j
  pokeUser_refused : ∀ i, SlotRegister i → ∀ v k e k',
    K.pokeUser (debugOffset i) v k = (.error e, k') → SlotsKept debug k k'
  peekData_kept : ∀ a k, SlotsKept debug k (K.peekData a k).2
  pokeData_kept : ∀ a v k, SlotsKept debug k (K.pokeData a v k).2
  processVmReadv_kept : ∀ iovs k, SlotsKept debug k (K.processVmReadv iovs k).2

/-- A change of state that `waitpid` reports, with the registers and the pending
signal's code at that moment. -/
structure KernelStop where
  status : WaitStatus
  user : UserArea
  siCode : Int

def KernelStop.isStopped (stop : KernelStop) : Bool :=
  match stop.status with
  | .stopped _ => true
  | _ => false

/-- What can be said of an inferior that will report the given stops. -/
structure StreamView where
  isStopped : Bool
  stops : List KernelStop
  requests : List ResumeRequest
  user : UserArea
  siCode : Int

/-- The next stop is reported once and requests are recorded; those that read a
stopped inferior succeed and change nothing, and no other request consumes a stop.
Offset 128 of the user area is `rip`, which takes any value. -/
structure StopStreamLaws (K : Kernel κ) (view : κ → StreamView) : Prop where
  waitpid : ∀ k stop rest, (view k).stops = stop :: rest → ∃ k',
    K.waitpid k = (some (.ok stop.status), k') ∧
      view k' = ⟨stop.isStopped, rest, (view k).requests, stop.user, stop.siCode⟩
  resume : ∀ r k, (view k).isStopped = true → ∃ k', K.resume r k = (.ok (), k') ∧
    view k' = { view k with isStopped := false, requests := (view k).requests ++ [r] }
  getRegs : ∀ k, (view k).isStopped = true → ∃ regs k',
    K.getRegs k = (.ok regs, k') ∧ view k' = view k
  getFpRegs : ∀ k, (view k).isStopped = true → ∃ fprs k',
    K.getFpRegs k = (.ok fprs, k') ∧ view k' = view k
  peekUser : ∀ i < 8, ∀ k, (view k).isStopped = true → ∃ v k',
    K.peekUser (debugOffset i) k = (.ok v, k') ∧ view k' = view k
  getSigInfo : ∀ k, (view k).isStopped = true → ∃ k',
    K.getSigInfo k = (.ok (view k).siCode, k') ∧ view k' = view k
  pokeUser : ∀ off v k, (view (K.pokeUser off v k).2).stops.length = (view k).stops.length ∧
    (view (K.pokeUser off v k).2).requests = (view k).requests
  setPc : ∀ v k, (view k).isStopped = true → ∃ k', K.pokeUser 128 v k = (.ok (), k')
  processVmReadv : ∀ iovs k, view (K.processVmReadv iovs k).2 = view k
  loads : RegisterLoads K fun k => (view k).user

/-- What a report of `waitpid` is about: how many changes of state have been reported,
counted from anywhere, and the registers and the pending signal's code at the last one. -/
structure ReportView where
  reports : Int
  user : UserArea
  siCode : Int

/-- Each report of `waitpid` is of one more change of state, and nothing else reports one. -/
structure ReportLaws (K : Kernel κ) (view : κ → ReportView) : Prop where
  waitpid_reported : ∀ k status k', K.waitpid k = (some (.ok status), k') →
    (view k').reports = (view k).reports + 1
  waitpid_failed : ∀ k r k', K.waitpid k = (r, k') → (∀ status, r ≠ some (.ok status)) →
    (view k').reports = (view k).reports
  resume : ∀ r k, (view (K.resume r k).2).reports = (view k).reports
  getRegs : ∀ k, (view (K.getRegs k).2).reports = (view k).reports
  getFpRegs : ∀ k, (view (K.getFpRegs k).2).reports = (view k).reports
  setFpRegs : ∀ fprs k, (view (K.setFpRegs fprs k).2).reports = (view k).reports
  peekUser : ∀ off k, (view (K.peekUser off k).2).reports = (view k).reports
  pokeUser : ∀ off v k, (view (K.pokeUser off v k).2).reports = (view k).reports
  peekData : ∀ a k, (view (K.peekData a k).2).reports = (view k).reports
  pokeData : ∀ a v k, (view (K.pokeData a v k).2).reports = (view k).reports
  getSigInfo : ∀ k, (view (K.getSigInfo k).2).reports = (view k).reports
  processVmReadv : ∀ iovs k, (view (K.processVmReadv iovs k).2).reports = (view k).reports
  loads : RegisterLoads K fun k => (view k).user
  siCode : ∀ k code k', K.getSigInfo k = (.ok code, k') → code = (view k).siCode

/-- Where the inferior is: stopped or running on a request, in either case inside a
system call whose entry stop has been reported, or outside. -/
inductive Phase where
  | stopped (inCall : Bool)
  | running (request : ResumeRequest) (inCall : Bool)
  | dead
  deriving DecidableEq, Repr

inductive StopKind where
  | entry | exit | other
  deriving DecidableEq, Repr

/-- The kinds of stop that ptrace(2) allows after a request. -/
inductive StopKind.Follows : StopKind → ResumeRequest → Bool → Prop where
  | entry : Follows .entry .syscall false
  | exit : Follows .exit .syscall true
  | other {request : ResumeRequest} {inCall : Bool}
      (outside : request = .syscall → inCall = false) : Follows .other request inCall

/-- The part of the kernel that entry and exit stops, alike in all else, differ in. -/
structure SyscallView where
  phase : Phase
  lastStop : StopKind
  deriving DecidableEq, Repr

/-- Nothing has changed, except that the inferior may have been killed. -/
def SyscallView.Settles (v v' : SyscallView) : Prop := v' = v ∨ v' = { v with phase := .dead }

/-- System calls and their stops. Only a stopped inferior is resumed, only a running one
stops, and requests that read a stopped inferior fail only when it has been killed. -/
structure SyscallStopLaws (K : Kernel κ) (view : κ → SyscallView) : Prop where
  waitpid_stopped : ∀ k signal k', K.waitpid k = (some (.ok (.stopped signal)), k') →
    ∃ request inCall, (view k).phase = .running request inCall ∧
      (view k').lastStop.Follows request inCall ∧
      (signal = syscallTrap ↔ (view k').lastStop ≠ .other) ∧
      ((view k').phase = .stopped (decide ((view k').lastStop = .entry)) ∨
        (view k').phase = .dead)
  waitpid_ended : ∀ k status k', K.waitpid k = (some (.ok status), k') →
    (∀ signal, status ≠ .stopped signal) → (view k').phase = .dead
  waitpid_failed : ∀ k r k', K.waitpid k = (r, k') → (∀ status, r ≠ some (.ok status)) →
    (view k).Settles (view k')
  resume_accepted : ∀ r k k', K.resume r k = (.ok (), k') →
    (∃ inCall, (view k).phase = .stopped inCall ∧ (view k').phase = .running r inCall) ∨
      (view k').phase = .dead
  resume_refused : ∀ r k e k', K.resume r k = (.error e, k') → (view k).Settles (view k')
  getRegs_refused : ∀ k e k' b, K.getRegs k = (.error e, k') → (view k).phase = .stopped b →
    (view k').phase = .dead
  getFpRegs_refused : ∀ k e k' b, K.getFpRegs k = (.error e, k') → (view k).phase = .stopped b →
    (view k').phase = .dead
  peekUser_refused : ∀ i < 8, ∀ k e k' b, K.peekUser (debugOffset i) k = (.error e, k') →
    (view k).phase = .stopped b → (view k').phase = .dead
  getSigInfo_refused : ∀ k e k' b, K.getSigInfo k = (.error e, k') → (view k).phase = .stopped b →
    (view k').phase = .dead
  getRegs : ∀ k, (view k).Settles (view (K.getRegs k).2)
  getFpRegs : ∀ k, (view k).Settles (view (K.getFpRegs k).2)
  setFpRegs : ∀ fprs k, (view k).Settles (view (K.setFpRegs fprs k).2)
  peekUser : ∀ off k, (view k).Settles (view (K.peekUser off k).2)
  pokeUser : ∀ off v k, (view k).Settles (view (K.pokeUser off v k).2)
  peekData : ∀ a k, (view k).Settles (view (K.peekData a k).2)
  pokeData : ∀ a v k, (view k).Settles (view (K.pokeData a v k).2)
  getSigInfo : ∀ k, (view k).Settles (view (K.getSigInfo k).2)
  processVmReadv : ∀ iovs k, (view k).Settles (view (K.processVmReadv iovs k).2)

end SdbDebugger
