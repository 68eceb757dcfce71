import SdbDebugger.KernelLaws

/-! An executable kernel. Its memory and user area are those of one inferior,
the stops it will report are given in advance, and `refusals` says which of the
next memory requests fail. -/

namespace SdbDebugger
open ByteSpace

structure Scripted where
  memory : Memory
  mapped : VirtAddr → Bool
  user : UserArea
  siCode : Int
  refusals : List Bool
  stops : List KernelStop
  requests : List ResumeRequest
  isStopped : Bool

namespace Scripted

def eio : Errno := ⟨5, "Input/output error"⟩
def efault : Errno := ⟨14, "Bad address"⟩
def einval : Errno := ⟨22, "Invalid argument"⟩

/-- One request: refused, or answered by `f`. -/
def answer {α : Type} (f : Scripted → α × Scripted) (k : Scripted) : Except Errno α × Scripted :=
  match k.refusals with
  | true :: rest => (.error eio, { k with refusals := rest })
  | _ :: rest =>
    let r := f { k with refusals := rest }
    (.ok r.1, r.2)
  | [] =>
    let r := f k
    (.ok r.1, r.2)

/-- Whole chunks up to the first that is not mapped throughout. -/
def transfer (k : Scripted) : List Iovec → List Byte
  | [] => []
  | iov :: iovs =>
    if (List.range iov.len).all fun i => k.mapped (iov.base + BitVec.ofNat 64 i) then
      ((List.range iov.len).map fun i => k.memory (iov.base + BitVec.ofNat 64 i)) ++ transfer k iovs
    else []

/-- The registers at a stop. The slot registers are the debugger's alone. -/
def stopUser (k : Scripted) (stop : KernelStop) : UserArea :=
  overwrite
    (overwrite stop.user (debugOffset 0) 32 fun i => k.user (debugOffset 0 + BitVec.ofNat 64 i))
    (debugOffset 7) 8 fun i => k.user (debugOffset 7 + BitVec.ofNat 64 i)

def waitpid (k : Scripted) : Option (Except Errno WaitStatus) × Scripted :=
  match k.stops with
  | [] => (none, k)
  | stop :: rest =>
    (some (.ok stop.status),
      { k with
        user := k.stopUser stop
        siCode := stop.siCode
        stops := rest
        isStopped := stop.isStopped })

def putI387 (k : Scripted) (fprs : Nat → Byte) : Scripted :=
  { k with user := overwrite k.user (BitVec.ofNat 64 offsetofI387) sizeofI387 fprs }

end Scripted

/-- Conversions keep the bits; they matter to no run of this kernel. -/
def scriptedPlatform : Platform Scripted where
  peekData a := Scripted.answer fun k => (load k.memory a 8, k)
  pokeData a v := Scripted.answer fun k => ((), { k with memory := store k.memory a 8 v })
  peekUser off k := (.ok (load k.user off 8), k)
  pokeUser off v k := (.ok (), { k with user := store k.user off 8 v })
  getRegs k := (.ok fun i => k.user (BitVec.ofNat 64 (offsetofRegs + i)), k)
  getFpRegs k := (.ok fun i => k.user (BitVec.ofNat 64 (offsetofI387 + i)), k)
  setFpRegs fprs k := (.ok (), k.putI387 fprs)
  getSigInfo k := (.ok k.siCode, k)
  resume request k := (.ok (), { k with requests := k.requests ++ [request], isStopped := false })
  waitpid := Scripted.waitpid
  processVmReadv iovs k := (.ok (k.transfer iovs), k)
  toDouble v := match v with
    | .float bits => bits.setWidth 64
    | .double bits => bits
    | .longDouble bits => bits.setWidth 64
  toLongDouble v := match v with
    | .float bits => bits.setWidth 128
    | .double bits => bits.setWidth 128
    | .longDouble bits => bits
  canAllocate _ := true

/-- A process that has just been launched, stopped, with every page mapped. -/
def scriptedWorld (refusals : List Bool) (stops : List KernelStop) : World Scripted where
  isAttached := true
  syscallCatchPolicy := .catchNone
  expectingSyscallExit := false
  state := .stopped
  data := fun _ => 0
  breakpointSites := []
  watchpoints := []
  breakpointSiteId := 0
  watchpointId := 0
  kernel := ⟨fun a => a.setWidth 8, fun _ => true, fun _ => 0, 0, refusals, stops, [], true⟩

namespace Scripted

theorem answer_cases {α : Type} (f : Scripted → α × Scripted) (k : Scripted) :
    (∃ rest, answer f k = (.error eio, { k with refusals := rest })) ∨
      ∃ rest, answer f k =
        (.ok (f { k with refusals := rest }).1, (f { k with refusals := rest }).2) := by
  unfold answer
  rcases queue : k.refusals with _ | ⟨_ | _, rest⟩
  · cases k
    cases queue
    exact .inr ⟨[], rfl⟩
  · exact .inr ⟨rest, rfl⟩
  · exact .inl ⟨rest, rfl⟩

theorem memoryLaws : MemoryLaws scriptedPlatform.toKernel memory where
  peekData_value a k v k' h := by
    rcases answer_cases (fun k => ((load k.memory a 8 : Word), k)) k with ⟨rest, run⟩ | ⟨rest, run⟩
    · cases run.symm.trans h
    · cases run.symm.trans h
      rfl
  peekData_mem a k := by
    rcases answer_cases (fun k => ((load k.memory a 8 : Word), k)) k with ⟨rest, run⟩ | ⟨rest, run⟩
    · exact congrArg (fun r => r.2.memory) run
    · exact congrArg (fun r => r.2.memory) run
  pokeData_stored a v k u k' h := by
    rcases answer_cases (fun k => ((), { k with memory := store k.memory a 8 v })) k with
      ⟨rest, run⟩ | ⟨rest, run⟩
    · cases run.symm.trans h
    · cases run.symm.trans h
      rfl
  peekUser_mem _ _ := rfl
  pokeUser_mem _ _ _ := rfl
  setFpRegs_mem _ _ := rfl
  processVmReadv_mem _ _ := rfl

theorem keepsRefused : KeepsRefused scriptedPlatform.toKernel memory := by
  intro a v k e k' h
  rcases answer_cases (fun k => ((), { k with memory := store k.memory a 8 v })) k with
    ⟨rest, run⟩ | ⟨rest, run⟩
  · cases run.symm.trans h
    rfl
  · cases run.symm.trans h

theorem registerStores : RegisterStores scriptedPlatform.toKernel user where
  pokeUser _ _ _ _ _ h := by
    cases h
    rfl
  setFpRegs _ _ _ _ h := by
    cases h
    rfl

def debug (k : Scripted) (i : Nat) : Word := if i < 8 then load k.user (debugOffset i) 8 else 0

/-- Whether an offset lies in a slot register. -/
def inSlots (off : BitVec 64) : Prop :=
  (off - debugOffset 7).toNat < 8 ∨ (off - debugOffset 0).toNat < 32

theorem stopUser_of_inSlots (k : Scripted) (stop : KernelStop) {off : BitVec 64}
    (slot : inSlots off) : k.stopUser stop off = k.user off := by
  unfold stopUser
  by_cases last : (off - debugOffset 7).toNat < 8
  · rw [overwrite_of_lt last, add_distance]
  · rw [overwrite_of_le (by omega), overwrite_of_lt (slot.resolve_left last), add_distance]

theorem stopUser_of_not_inSlots (k : Scripted) (stop : KernelStop) {off : BitVec 64}
    (other : ¬ inSlots off) : k.stopUser stop off = stop.user off := by
  unfold inSlots at other
  push Not at other
  rw [stopUser, overwrite_of_le other.1, overwrite_of_le other.2]

theorem debug_stopUser (k : Scripted) (stop : KernelStop) {i : Nat} (slot : SlotRegister i) :
    load (k.stopUser stop) (debugOffset i) 8 = load k.user (debugOffset i) 8 := by
  apply ofBytes_congr
  intro j hj
  have covered : ∀ i, SlotRegister i → ∀ j < 8, inSlots (debugOffset i + BitVec.ofNat 64 j) := by
    intro i slot j hj
    rcases slot with low | rfl
    · right
      revert i
      interval_cases j <;> decide
    · left
      revert j
      decide
  exact stopUser_of_inSlots k stop (covered i slot j hj)

theorem slotsKept_of_user {k k' : Scripted} (same : k'.user = k.user) : SlotsKept debug k k' := by
  intro i _
  rw [debug, debug, same]

theorem slotsKept_answer {α : Type} {f : Scripted → α × Scripted}
    (same : ∀ k, (f k).2.user = k.user) (k : Scripted) : SlotsKept debug k (answer f k).2 := by
  rcases answer_cases f k with ⟨rest, run⟩ | ⟨rest, run⟩
  · rw [run]
    exact slotsKept_of_user rfl
  · rw [run]
    exact slotsKept_of_user (same _)

theorem debugRegisterLaws : DebugRegisterLaws scriptedPlatform.toKernel debug where
  pokeUser_accepted i slot v k := by
    have hi : i < 8 := by
      unfold SlotRegister at slot
      omega
    refine ⟨_, rfl, ?_⟩
    funext j
    unfold debug
    by_cases hj : j < 8
    · rw [if_pos hj, load_store_debug _ hi hj, Function.update_apply, if_pos hj]
    · rw [if_neg hj, Function.update_apply, if_neg (by omega), if_neg hj]
  pokeUser_apart off v k apart i slot := by
    have hi : i < 8 := by
      unfold SlotRegister at slot
      omega
    unfold debug
    rw [if_pos hi, if_pos hi]
    exact load_overwrite_disjoint (apart i hi)
  peekUser_value i hi k v k' h := by
    cases h
    rw [debug, if_pos hi]
  peekUser_kept _ _ := slotsKept_of_user rfl
  peekData_kept a := slotsKept_answer fun _ => rfl
  pokeData_kept a v := slotsKept_answer fun _ => rfl
  getRegs_kept _ := slotsKept_of_user rfl
  getFpRegs_kept _ := slotsKept_of_user rfl
  getSigInfo_kept _ := slotsKept_of_user rfl
  resume_kept _ _ := slotsKept_of_user rfl
  waitpid_kept k i slot := by
    change debug (Scripted.waitpid k).2 i = debug k i
    unfold Scripted.waitpid debug
    cases k.stops with
    | nil => rfl
    | cons stop rest =>
      split
      · exact debug_stopUser k stop slot
      · rfl
  processVmReadv_kept _ _ := slotsKept_of_user rfl

theorem mappingLaws :
    MappingLaws scriptedPlatform.toKernel fun k a => k.mapped a = true where
  pokeData a v k x := by
    rcases answer_cases (fun k => ((), { k with memory := store k.memory a 8 v })) k with
      ⟨rest, run⟩ | ⟨rest, run⟩
    · exact iff_of_eq (congrArg (fun r => r.2.mapped x = true) run)
    · exact iff_of_eq (congrArg (fun r => r.2.mapped x = true) run)
  processVmReadv _ _ _ := Iff.rfl

theorem transfersReadable :
    TransfersReadable scriptedPlatform.toKernel memory fun k a => k.mapped a = true := by
  intro k iovs readable
  change Except.ok (k.transfer iovs) = _
  congr 1
  induction iovs with
  | nil => rfl
  | cons iov iovs ih =>
    have whole : (List.range iov.len).all
        (fun i => k.mapped (iov.base + BitVec.ofNat 64 i)) = true := by
      rw [List.all_eq_true]
      intro i hi
      exact readable iov List.mem_cons_self i (List.mem_range.1 hi)
    rw [transfer, if_pos whole, List.flatMap_cons,
      ih fun iov member => readable iov (List.mem_cons_of_mem _ member)]
    rfl

theorem registerLoads : RegisterLoads scriptedPlatform.toKernel user where
  getRegs_value k regs k' h i _ := by
    cases h
    change k.user (BitVec.ofNat 64 (_ + i)) = _
    rw [BitVec.ofNat_add]
  getRegs_user _ := rfl
  getFpRegs_value k fprs k' h i _ := by
    cases h
    change k.user (BitVec.ofNat 64 (_ + i)) = _
    rw [BitVec.ofNat_add]
  getFpRegs_user _ := rfl
  peekUser_value off k v k' h := by
    cases h
    rfl
  peekUser_user _ _ := rfl

/-- The stops that will be reported have the slot registers of the moment. -/
def streamView (k : Scripted) : StreamView :=
  ⟨k.isStopped, k.stops.map fun stop => { stop with user := k.stopUser stop }, k.requests, k.user,
    k.siCode⟩

theorem stopUser_waitpid (k k' : Scripted) (first stop : KernelStop)
    (user : k'.user = k.stopUser first) : k'.stopUser stop = k.stopUser stop := by
  funext off
  by_cases slot : inSlots off
  · rw [stopUser_of_inSlots _ _ slot, stopUser_of_inSlots _ _ slot, user,
      stopUser_of_inSlots _ _ slot]
  · rw [stopUser_of_not_inSlots _ _ slot, stopUser_of_not_inSlots _ _ slot]

theorem stopStreamLaws : StopStreamLaws scriptedPlatform.toKernel streamView where
  waitpid k stop rest next := by
    unfold streamView at next
    cases script : k.stops with
    | nil => simp [script] at next
    | cons first others =>
      simp only [script, List.map_cons, List.cons.injEq] at next
      obtain ⟨rfl, rfl⟩ := next
      refine ⟨_, by change Scripted.waitpid k = _; rw [Scripted.waitpid, script], ?_⟩
      have same : ∀ stop, ({ k with
          user := k.stopUser first
          siCode := first.siCode
          stops := others
          isStopped := first.isStopped } : Scripted).stopUser stop = k.stopUser stop :=
        fun stop => stopUser_waitpid k _ first stop rfl
      simp only [streamView, same]
      rfl
  resume r k _ := ⟨_, rfl, rfl⟩
  getRegs k _ := ⟨_, _, rfl, rfl⟩
  getFpRegs k _ := ⟨_, _, rfl, rfl⟩
  peekUser _ _ k _ := ⟨_, _, rfl, rfl⟩
  getSigInfo k _ := ⟨_, rfl, rfl⟩
  pokeUser off v k := by
    constructor
    · simp [streamView, scriptedPlatform]
    · rfl
  setPc v k _ := ⟨_, rfl⟩
  processVmReadv _ _ := rfl
  loads := registerLoads

/-- The reports are counted backwards from the end of the script. -/
def reportView (k : Scripted) : ReportView := ⟨-k.stops.length, k.user, k.siCode⟩

theorem answer_stops {α : Type} {f : Scripted → α × Scripted}
    (same : ∀ k, (f k).2.stops = k.stops) (k : Scripted) : (answer f k).2.stops = k.stops := by
  rcases answer_cases f k with ⟨rest, run⟩ | ⟨rest, run⟩
  · rw [run]
  · rw [run]
    exact same _

theorem reportLaws : ReportLaws scriptedPlatform.toKernel reportView where
  waitpid_reported k status k' h := by
    change Scripted.waitpid k = _ at h
    unfold Scripted.waitpid at h
    cases script : k.stops with
    | nil => simp [script] at h
    | cons stop rest =>
      simp only [script] at h
      cases h
      simp [reportView, script]
  waitpid_failed k r k' h failed := by
    change Scripted.waitpid k = _ at h
    unfold Scripted.waitpid at h
    cases script : k.stops with
    | nil =>
      simp only [script] at h
      cases h
      rfl
    | cons stop rest =>
      simp only [script] at h
      cases h
      exact absurd rfl (failed stop.status)
  resume _ _ := rfl
  getRegs _ := rfl
  getFpRegs _ := rfl
  setFpRegs _ _ := rfl
  peekUser _ _ := rfl
  pokeUser _ _ _ := rfl
  peekData a k := by
    change -(((answer (fun k => ((load k.memory a 8 : Word), k)) k).2.stops.length : Int)) = _
    rw [answer_stops fun _ => rfl]
    rfl
  pokeData a v k := by
    change -(((answer (fun k => ((), { k with memory := store k.memory a 8 v })) k).2.stops.length
      : Int)) = _
    rw [answer_stops fun _ => rfl]
    rfl
  getSigInfo _ := rfl
  processVmReadv _ _ := rfl
  loads := registerLoads
  siCode k code k' h := by
    cases h
    rfl

end Scripted

end SdbDebugger
