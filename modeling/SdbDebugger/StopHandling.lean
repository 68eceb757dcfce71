import SdbDebugger.Stoppoints

/-! Running the inferior and interpreting its stops: `resume`, `wait_on_signal`,
`step_instruction` and what they call in `process.cpp`. The recursion of
`wait_on_signal` through `maybe_resume_from_syscall` has no bound in the source;
here it has fuel, and running out of it means that the call has not returned. -/

namespace SdbDebugger
open EffectRules ByteSpace StoppointCollection

def trapTrace : Int := 2
def siKernel : Int := 0x80
def trapHwbkpt : Int := 4

def StopReason.ofStatus : WaitStatus → StopReason
  | .exited status => ⟨.exited, status, none, none⟩
  | .signaled signal => ⟨.terminated, signal, none, none⟩
  | .stopped signal => ⟨.stopped, signal, none, none⟩

/-- `__builtin_ctzll`, undefined on zero. -/
def ctz (v : Word) : Except Fault Nat :=
  match (List.range 64).find? fun i => v.getLsbD i with
  | some i => .ok i
  | none => .error (.undefinedBehaviour "__builtin_ctzll(0)")

variable {κ : Type} (P : Platform κ)

def waitpid : Sdb κ WaitStatus := fun w =>
  match P.waitpid w.kernel with
  | (some (.ok status), k) => .ok status { w with kernel := k }
  | (some (.error e), k) => .error (.sendErrno "waitpid failed" e) { w with kernel := k }
  | (none, k) => .error .stillRunning { w with kernel := k }

variable {P} in
theorem wp_waitpid {ok : WaitStatus → World κ → Prop} {err : Fault → World κ → Prop} {w : World κ}
    (reported : ∀ status k, P.waitpid w.kernel = (some (.ok status), k) →
      ok status { w with kernel := k })
    (failed : ∀ e r k, P.waitpid w.kernel = (r, k) → (∀ status, r ≠ some (.ok status)) →
      err e { w with kernel := k }) :
    wp (waitpid P) ok err w := by
  unfold wp waitpid
  cases outcome : P.waitpid w.kernel with
  | mk r k =>
    cases r with
    | none => exact failed _ none k outcome (by simp)
    | some r =>
      cases r with
      | ok status => exact reported status k outcome
      | error e => exact failed _ _ k outcome (by simp)

/-- Whether an enabled site is at the address, and its position. -/
def enabledSiteAt (address : VirtAddr) : Sdb κ (Option Nat) := do
  let w ← get
  let enabled ← liftFault (enabledStoppointAtAddress w.breakpointSites address)
  if enabled then do
    let i ← liftFault (getByAddress w.breakpointSites address)
    pure (some i)
  else pure none

section Sites

variable {w : World κ} {address : VirtAddr}

theorem enabledSiteAt_of_disabled
    (h : enabledStoppointAtAddress w.breakpointSites address = .ok false) :
    enabledSiteAt address w = .ok none w := by
  change (liftFault (enabledStoppointAtAddress w.breakpointSites address) >>= _) w = _
  rw [h]
  rfl

theorem enabledSiteAt_of_enabled
    (h : enabledStoppointAtAddress w.breakpointSites address = .ok true) :
    ∃ i site, w.breakpointSites[i]? = some site ∧ site.address = address ∧
      site.isEnabled = true ∧ enabledSiteAt address w = .ok (some i) w := by
  cases found : findByAddress w.breakpointSites address with
  | none =>
    have absent : enabledStoppointAtAddress w.breakpointSites address = .ok false := by
      simp [enabledStoppointAtAddress, containsAddress, found, pure, Except.pure]
    rw [h] at absent
    simp at absent
  | some i =>
    obtain ⟨site, at_i, here⟩ := findByAddress_eq_some found
    have enabled := enabledStoppointAtAddress_of_find found at_i
    rw [h, Except.ok.injEq] at enabled
    refine ⟨i, site, at_i, here, enabled.symm, ?_⟩
    change (liftFault (enabledStoppointAtAddress w.breakpointSites address) >>= _) w = _
    rw [h]
    change (liftFault (getByAddress w.breakpointSites address) >>= _) w = _
    rw [getByAddress, found]
    rfl

theorem enabledSiteAt_total (address : VirtAddr) (w : World κ) :
    ∃ site, enabledSiteAt address w = .ok site w := by
  obtain ⟨enabled, h⟩ := enabledStoppointAtAddress_total w.breakpointSites address
  cases enabled with
  | false => exact ⟨none, enabledSiteAt_of_disabled h⟩
  | true =>
    obtain ⟨i, _, _, _, _, run⟩ := enabledSiteAt_of_enabled h
    exact ⟨some i, run⟩

end Sites

def resumeRequest (policy : SyscallCatchPolicy) : ResumeRequest :=
  match policy.mode with
  | .none => .cont
  | _ => .syscall

/-- The part of `resume` that gets the inferior off a breakpoint site. -/
def stepOver (i : Nat) : Sdb κ Unit := do
  BreakpointSite.disable P i
  orSendErrno "failed to single step" (P.resume .singleStep)
  let _ ← waitpid P
  BreakpointSite.enable P i

def resume : Sdb κ Unit := do
  let pc ← getPc
  let site ← enabledSiteAt pc
  site.forM (stepOver P)
  let w ← get
  orSendErrno "could not resume" (P.resume (resumeRequest w.syscallCatchPolicy))
  modify fun w => { w with state := .running }

/-- The registers that hold the arguments of a system call, in order. -/
def argRegs : List RegisterId := [.rdi, .rsi, .rdx, .r10, .r8, .r9]

def readArgs : List RegisterId → Sdb κ (List Word)
  | [] => pure []
  | id :: ids => do
    let v ← Registers.readByIdAsU64 id.toInt
    let vs ← readArgs ids
    pure (v :: vs)

/-- Offsets of the argument registers in the user area, in their order. -/
def argOffsets : List (BitVec 64) := [112, 104, 96, 56, 72, 64]

theorem wholeWord_orig_rax : WholeWord RegisterId.orig_rax.toInt 120 :=
  ⟨⟨gpr64 .orig_rax "orig_rax" (-1) .orig_rax, rfl, rfl, rfl, rfl, by decide⟩, by decide⟩

theorem wholeWord_rax : WholeWord RegisterId.rax.toInt 80 :=
  ⟨⟨gpr64 .rax "rax" 0 .rax, rfl, rfl, rfl, rfl, by decide⟩, by decide⟩

theorem wholeWord_args : List.Forall₂ (fun id off => WholeWord (RegisterId.toInt id) off)
    argRegs argOffsets := by
  refine .cons ?_ (.cons ?_ (.cons ?_ (.cons ?_ (.cons ?_ (.cons ?_ .nil)))))
  all_goals exact ⟨⟨_, rfl, rfl, rfl, rfl, by decide⟩, by decide⟩

theorem readArgs_eq {ids : List RegisterId} {offs : List (BitVec 64)}
    (whole : List.Forall₂ (fun id off => WholeWord (RegisterId.toInt id) off) ids offs)
    (w : World κ) : readArgs ids w = .ok (offs.map fun off => load w.data off 8) w := by
  induction whole with
  | nil => rfl
  | cons first _ ih =>
    rw [readArgs, bind_ok (Registers.readByIdAsU64_eq first w), bind_ok ih]
    rfl

/-- The `syscall_information` of a syscall stop; flips `expecting_syscall_exit_`. -/
def syscallInformation : Sdb κ SyscallInformation := do
  let w ← get
  if w.expectingSyscallExit then do
    let id ← Registers.readByIdAsU64 RegisterId.orig_rax.toInt
    let ret ← Registers.readByIdAsU64 RegisterId.rax.toInt
    modify fun w => { w with expectingSyscallExit := false }
    pure ⟨id.setWidth 16, false, .ret ret⟩
  else do
    let id ← Registers.readByIdAsU64 RegisterId.orig_rax.toInt
    let args ← readArgs argRegs
    modify fun w => { w with expectingSyscallExit := true }
    pure ⟨id.setWidth 16, true, .args args⟩

/-- Linux reports historical `si_code`s; these are the trap types they mean. -/
def trapTypeOf (siCode : Int) : TrapType :=
  if siCode = trapTrace then .singleStep
  else if siCode = siKernel then .softwareBreak
  else if siCode = trapHwbkpt then .hardwareBreak
  else .unknown

theorem trapTypeOf_ne_syscall (siCode : Int) : trapTypeOf siCode ≠ .syscall := by
  unfold trapTypeOf
  split_ifs <;> simp

def augmentStopReason (reason : StopReason) : Sdb κ StopReason := do
  let siCode ← orSendErrno "failed to get signal info" P.getSigInfo
  if reason.info = sigtrap ||| 0x80 then do
    let info ← syscallInformation
    pure { reason with info := sigtrap, trapReason := some .syscall, syscallInfo := some info }
  else do
    modify fun w => { w with expectingSyscallExit := false }
    pure { reason with
      trapReason := some (if reason.info = sigtrap then trapTypeOf siCode else .unknown) }

/-- Index 0 of the variant is a breakpoint site, index 1 a watchpoint. -/
def getCurrentHardwareStoppoint : Sdb κ (Int ⊕ Int) := do
  let status ← Registers.readByIdAsU64 RegisterId.dr6.toInt
  let index ← liftFault (ctz status)
  let addr ← Registers.readByIdAsU64 (RegisterId.dr0.toInt + index)
  let w ← get
  if containsAddress w.breakpointSites addr then do
    let i ← liftFault (getByAddress w.breakpointSites addr)
    let site ← liftFault (deref w.breakpointSites i)
    pure (.inl site.id)
  else do
    let i ← liftFault (getByAddress w.watchpoints addr)
    let point ← liftFault (deref w.watchpoints i)
    pure (.inr point.id)

/-- The watchpoint of a hardware stop reads its new value. -/
def updateTriggeredWatchpoint : Sdb κ Unit := do
  let id ← getCurrentHardwareStoppoint
  match id with
  | .inl _ => pure ()
  | .inr id => do
    let w ← get
    let i ← liftFault (getById w.watchpoints id)
    Watchpoint.updateData P i

/-! What only reads the process keeps every invariant. -/

section ReadOnly

variable {P} {I : World κ → Prop}

theorem preserves_enabledSiteAt (address : VirtAddr) :
    Preserves I (enabledSiteAt address : Sdb κ (Option Nat)) :=
  Preserves.get.bind fun _ => (preserves_liftFault _).bind fun _ =>
    Preserves.ite ((preserves_liftFault _).bind fun _ => Preserves.pure _) (Preserves.pure _)

theorem preserves_forM {found : Option Nat} {f : Nat → Sdb κ Unit}
    (h : ∀ i, Preserves I (f i)) : Preserves I (found.forM f) := by
  cases found with
  | none => exact Preserves.pure _
  | some i => exact h i

theorem preserves_readArgs (ids : List RegisterId) :
    Preserves I (readArgs ids : Sdb κ (List Word)) := by
  induction ids with
  | nil => exact Preserves.pure _
  | cons id ids ih =>
    exact (Registers.preserves_readByIdAsU64 _).bind fun _ => ih.bind fun _ => Preserves.pure _

theorem preserves_getCurrentHardwareStoppoint :
    Preserves I (getCurrentHardwareStoppoint : Sdb κ (Int ⊕ Int)) := by
  refine (Registers.preserves_readByIdAsU64 _).bind fun _ => (preserves_liftFault _).bind fun _ => ?_
  refine (Registers.preserves_readByIdAsU64 _).bind fun _ => Preserves.get.bind fun _ => ?_
  exact Preserves.ite
    ((preserves_liftFault _).bind fun _ => (preserves_liftFault _).bind fun _ => Preserves.pure _)
    ((preserves_liftFault _).bind fun _ => (preserves_liftFault _).bind fun _ => Preserves.pure _)

theorem preserves_updateTriggeredWatchpoint
    (updated : ∀ i, Preserves I (Watchpoint.updateData P i)) :
    Preserves I (updateTriggeredWatchpoint P) := by
  refine preserves_getCurrentHardwareStoppoint.bind fun id => ?_
  cases id with
  | inl _ => exact Preserves.pure _
  | inr id =>
    exact Preserves.get.bind fun _ => (preserves_liftFault _).bind fun i => updated i

end ReadOnly

/-- `wait` is the recursive call of `wait_on_signal`. There is no need to check for
`mode::none`, as the process has not been continued with `PTRACE_SYSCALL` then. -/
def maybeResumeFromSyscall (wait : Sdb κ StopReason) (reason : StopReason) :
    Sdb κ StopReason := do
  let w ← get
  match w.syscallCatchPolicy.mode, reason.syscallInfo with
  | .some, some info =>
    if w.syscallCatchPolicy.toCatch.contains (info.id.toNat : Int) then pure reason
    else do
      resume P
      wait
  | .some, none => throw (.undefinedBehaviour "empty optional dereferenced")
  | _, _ => pure reason

variable {P} in
theorem maybeResumeFromSyscall_some {w : World κ} {reason : StopReason} {info : SyscallInformation}
    (mode : w.syscallCatchPolicy.mode = .some) (syscall : reason.syscallInfo = some info)
    (wait : Sdb κ StopReason) :
    maybeResumeFromSyscall P wait reason w =
      (if w.syscallCatchPolicy.toCatch.contains (info.id.toNat : Int) then pure reason
      else do
        resume P
        wait : Sdb κ StopReason) w := by
  unfold maybeResumeFromSyscall
  rw [get_bind, mode, syscall]

variable {P} in
theorem maybeResumeFromSyscall_other {w : World κ} (mode : w.syscallCatchPolicy.mode ≠ .some)
    (wait : Sdb κ StopReason) (reason : StopReason) :
    maybeResumeFromSyscall P wait reason w = .ok reason w := by
  unfold maybeResumeFromSyscall
  rw [get_bind]
  cases h : w.syscallCatchPolicy.mode with
  | some => exact absurd h mode
  | none => rfl
  | all => rfl

/-- The branches of `wait_on_signal` on the cause of a SIGTRAP. -/
def handleSigtrap (wait : Sdb κ StopReason) (reason : StopReason) (instrBegin : VirtAddr) :
    Sdb κ StopReason :=
  match reason.trapReason with
  | some .softwareBreak => do
    let site ← enabledSiteAt instrBegin
    site.forM fun _ => setPc P instrBegin
    pure reason
  | some .hardwareBreak => do
    updateTriggeredWatchpoint P
    pure reason
  | some .syscall => maybeResumeFromSyscall P wait reason
  | _ => pure reason

/-- What `wait_on_signal` does with a stop of an attached inferior. -/
def handleStopped (wait : Sdb κ StopReason) (reason : StopReason) : Sdb κ StopReason := do
  Registers.readAllRegisters P
  let reason ← augmentStopReason P reason
  let pc ← getPc
  if reason.info = sigtrap then handleSigtrap P wait reason (pc - 1)
  else pure reason

def waitOnSignal : Nat → Sdb κ StopReason
  | 0 => throw .stillRunning
  | fuel + 1 => do
    let status ← waitpid P
    let reason := StopReason.ofStatus status
    modify fun w => { w with state := reason.reason }
    let w ← get
    if w.isAttached && reason.reason == .stopped then
      handleStopped P (waitOnSignal fuel) reason
    else pure reason

def stepInstruction (fuel : Nat) : Sdb κ StopReason := do
  let pc ← getPc
  let toReenable ← enabledSiteAt pc
  toReenable.forM (BreakpointSite.disable P)
  orSendErrno "could not single step" (P.resume .singleStep)
  let reason ← waitOnSignal P fuel
  toReenable.forM (BreakpointSite.enable P)
  pure reason

def setSyscallCatchPolicy (policy : SyscallCatchPolicy) : Sdb κ Unit :=
  modify fun w => { w with syscallCatchPolicy := policy }

end SdbDebugger
