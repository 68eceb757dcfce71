import SdbDebugger.RegisterCache
import SdbDebugger.StopArrival

/-! The arrival of one stop of a known stream: which reason `wait_on_signal` makes of
it, and what it leaves in the process. -/

namespace SdbDebugger
open EffectRules ByteSpace StoppointCollection

variable {κ : Type} {P : Platform κ} {view : κ → StreamView}

/-! ### Reasons -/

namespace KernelStop

def isSyscallStop (stop : KernelStop) : Bool := stop.status == .stopped syscallTrap

def pc (stop : KernelStop) : VirtAddr := load stop.user 128 8

/-- The id that is recorded: the low 16 bits of `orig_rax`. -/
def syscallId (stop : KernelStop) : BitVec 16 := (load stop.user 120 8 : Word).setWidth 16

def syscallInfo (stop : KernelStop) (expecting : Bool) : SyscallInformation :=
  if expecting then ⟨stop.syscallId, false, .ret (load stop.user 80 8)⟩
  else ⟨stop.syscallId, true, .args (argOffsets.map fun off => load stop.user off 8)⟩

/-- The reason made of the stop when a syscall exit is, or is not, expected. -/
def reason (stop : KernelStop) (expecting : Bool) : StopReason :=
  match stop.status with
  | .stopped signal =>
    if signal = syscallTrap then
      ⟨.stopped, sigtrap, some .syscall, some (stop.syscallInfo expecting)⟩
    else
      ⟨.stopped, signal, some (if signal = sigtrap then trapTypeOf stop.siCode else .unknown), none⟩
  | status => StopReason.ofStatus status

/-- Whether a syscall exit is expected after the stop. -/
def expects (stop : KernelStop) (expecting : Bool) : Bool :=
  match stop.status with
  | .stopped signal => if signal = syscallTrap then !expecting else false
  | _ => expecting

variable (stop : KernelStop)

theorem status_of_isStopped (h : stop.isStopped = true) :
    ∃ signal, stop.status = .stopped signal := by
  unfold isStopped at h
  split at h
  · exact ⟨_, ‹_›⟩
  · contradiction

theorem ofStatus_of_end (ended : stop.isStopped = false) :
    ((StopReason.ofStatus stop.status).reason == .stopped) = false := by
  unfold isStopped at ended
  cases status : stop.status with
  | stopped signal => simp [status] at ended
  | exited code => rfl
  | signaled signal => rfl

variable {stop} (expecting : Bool)

theorem reason_of_syscall (status : stop.status = .stopped syscallTrap) :
    stop.reason expecting =
      ⟨.stopped, sigtrap, some .syscall, some (stop.syscallInfo expecting)⟩ := by
  simp [reason, status]

theorem reason_of_signal {signal : Byte} (status : stop.status = .stopped signal)
    (other : signal ≠ syscallTrap) :
    stop.reason expecting = ⟨.stopped, signal,
      some (if signal = sigtrap then trapTypeOf stop.siCode else .unknown), none⟩ := by
  simp [reason, status, other]

theorem expects_of_syscall (status : stop.status = .stopped syscallTrap) :
    stop.expects expecting = !expecting := by
  simp [expects, status]

theorem expects_of_signal {signal : Byte} (status : stop.status = .stopped signal)
    (other : signal ≠ syscallTrap) : stop.expects expecting = false := by
  simp [expects, status, other]

theorem reason_of_end (ended : stop.isStopped = false) :
    stop.reason expecting = StopReason.ofStatus stop.status := by
  unfold isStopped at ended
  unfold reason
  split
  · next status => simp [status] at ended
  · rfl

theorem expects_of_end (ended : stop.isStopped = false) :
    stop.expects expecting = expecting := by
  unfold isStopped at ended
  unfold expects
  split
  · next status => simp [status] at ended
  · rfl

end KernelStop

/-- Whether a syscall exit is expected after all of the stops. -/
def expectsAfter (stops : List KernelStop) (expecting : Bool) : Bool :=
  stops.foldl (fun b stop => stop.expects b) expecting

/-- The process after the arrival of `stop` and the requests made before it: the
registers are the stop's, and of the rest only the state and the expectation differ. -/
structure Arrived (view : κ → StreamView) (stop : KernelStop) (rest : List KernelStop)
    (issued : List ResumeRequest) (expecting : Bool) (w t : World κ) : Prop where
  view_eq : view t.kernel =
    ⟨stop.isStopped, rest, (view w.kernel).requests ++ issued, stop.user, stop.siCode⟩
  frame : ∃ d k, t = { w with
    state := (stop.reason expecting).reason
    expectingSyscallExit := stop.expects expecting
    data := d
    kernel := k }
  cached : stop.isStopped = true → ∀ off ∈ cachedOffsets, t.data off = stop.user off

/-! ### Reading a stopped inferior -/

section Reading

variable (laws : StopStreamLaws P.toKernel view)
include laws

theorem wp_readDebugRegisters_quiet {indices : List Nat} (valid : ∀ i ∈ indices, i < 8)
    {w : World κ} (stopped : (view w.kernel).isStopped = true) :
    wp (Registers.readDebugRegisters P indices) (fun _ t => view t.kernel = view w.kernel)
      (fun _ _ => False) w := by
  induction indices generalizing w with
  | nil => rfl
  | cons i rest ih =>
    have hi := valid i List.mem_cons_self
    obtain ⟨info, found, offset, _⟩ := (wholeWord_dr hi).info
    obtain ⟨v, k, peek, same⟩ := laws.peekUser i hi w.kernel stopped
    unfold Registers.readDebugRegisters
    rw [found, liftFault_ok, pure_bind, offset, wp_bind, wp_of_ok (orSendErrno_ok peek), wp_bind,
      wp_modify]
    have later := ih (fun j member => valid j (List.mem_cons_of_mem i member))
      (w := { w with
        data := store w.data (BitVec.ofNat 64 (offsetofDebugreg + 8 * i)) 8 v
        kernel := k })
      (by rw [← stopped, ← same])
    exact later.mono (fun _ t kept => kept.trans same) fun _ _ impossible => impossible

theorem wp_readAllRegisters_quiet {w : World κ} (stopped : (view w.kernel).isStopped = true) :
    wp (Registers.readAllRegisters P)
      (fun _ t => Refreshed (fun k => (view k).user) cachedOffsets w t ∧
        view t.kernel = view w.kernel)
      (fun _ _ => False) w := by
  have quiet : wp (Registers.readAllRegisters P) (fun _ t => view t.kernel = view w.kernel)
      (fun _ _ => False) w := by
    obtain ⟨regs, k, got, same⟩ := laws.getRegs w.kernel stopped
    obtain ⟨fprs, k', got', same'⟩ := laws.getFpRegs k (by rw [same, stopped])
    unfold Registers.readAllRegisters
    have floating : orSendErrno "could not read FPR registers" P.getFpRegs
        { w with
          data := overwrite w.data (BitVec.ofNat 64 offsetofRegs) sizeofRegs regs, kernel := k } =
        .ok fprs { w with
          data := overwrite w.data (BitVec.ofNat 64 offsetofRegs) sizeofRegs regs, kernel := k' } :=
      orSendErrno_ok got'
    rw [wp_bind, wp_of_ok (orSendErrno_ok got), wp_bind, wp_modify, wp_bind, wp_of_ok floating,
      wp_bind, wp_modify]
    refine (wp_readDebugRegisters_quiet laws (by decide) ?_).mono (fun _ t kept => ?_)
      fun _ _ impossible => impossible
    · change (view k').isStopped = true
      rw [same', same, stopped]
    · exact kept.trans (same'.trans same)
  exact ((wp_readAllRegisters laws.loads w).and quiet).mono (fun _ _ h => h) fun _ _ h => h.2

end Reading

/-! ### The reason of a stop -/

section Augment

variable {stop : KernelStop} {w : World κ}

theorem syscallInformation_eq (cached : ∀ off ∈ cachedOffsets, w.data off = stop.user off) :
    syscallInformation w = .ok (stop.syscallInfo w.expectingSyscallExit)
      { w with expectingSyscallExit := !w.expectingSyscallExit } := by
  have id_eq : (load w.data 120 8 : Word) = load stop.user 120 8 :=
    load_cached cached (by decide)
  have ret_eq : (load w.data 80 8 : Word) = load stop.user 80 8 :=
    load_cached cached (by decide)
  have args_eq : (argOffsets.map fun off => (load w.data off 8 : Word)) =
      argOffsets.map fun off => load stop.user off 8 := by
    have inside : ∀ off ∈ argOffsets, off.toNat + 8 ≤ sizeofRegs := by
      simp [argOffsets, sizeofRegs]
    exact List.map_congr_left fun off member => load_cached cached (inside off member)
  unfold syscallInformation KernelStop.syscallInfo KernelStop.syscallId
  change (if w.expectingSyscallExit then _ else _ : Sdb κ SyscallInformation) w = _
  cases expecting : w.expectingSyscallExit with
  | true =>
    rw [if_pos rfl, bind_ok (Registers.readByIdAsU64_eq wholeWord_orig_rax w),
      bind_ok (Registers.readByIdAsU64_eq wholeWord_rax w), id_eq, ret_eq]
    rfl
  | false =>
    rw [if_neg Bool.false_ne_true, bind_ok (Registers.readByIdAsU64_eq wholeWord_orig_rax w),
      bind_ok (readArgs_eq wholeWord_args w), id_eq, args_eq]
    rfl

theorem augmentStopReason_eq (laws : StopStreamLaws P.toKernel view) {signal : Byte}
    (status : stop.status = .stopped signal) (stopped : (view w.kernel).isStopped = true)
    (code : (view w.kernel).siCode = stop.siCode)
    (cached : ∀ off ∈ cachedOffsets, w.data off = stop.user off) :
    ∃ k, view k = view w.kernel ∧
      augmentStopReason P (StopReason.ofStatus stop.status) w =
        .ok (stop.reason w.expectingSyscallExit)
          { w with
            expectingSyscallExit := stop.expects w.expectingSyscallExit
            kernel := k } := by
  obtain ⟨k, got, same⟩ := laws.getSigInfo w.kernel stopped
  refine ⟨k, same, ?_⟩
  rw [augmentStopReason, bind_ok (orSendErrno_ok got), status, code]
  change (if signal = syscallTrap then _ else _ : Sdb κ StopReason) _ = _
  by_cases trap : signal = syscallTrap
  · rw [trap] at status
    have info := syscallInformation_eq (w := { w with kernel := k }) cached
    rw [if_pos trap, stop.reason_of_syscall _ status, stop.expects_of_syscall _ status,
      bind_ok info]
    rfl
  · rw [if_neg trap, stop.reason_of_signal _ status trap, stop.expects_of_signal _ status trap]
    rfl

/-- The arrival of the next stop, of an inferior that is traced if it stops at all. -/
theorem arrive_eq (laws : StopStreamLaws P.toKernel view) {rest : List KernelStop}
    (next : (view w.kernel).stops = stop :: rest)
    (traced : stop.isStopped = true → w.isAttached = true) :
    ∃ t, arrive P w = .ok (stop.reason w.expectingSyscallExit) t ∧
      Arrived view stop rest [] w.expectingSyscallExit w t := by
  obtain ⟨k, reported, view_k⟩ := laws.waitpid w.kernel stop rest next
  have waited : waitpid P w = .ok stop.status { w with kernel := k } := by
    rw [waitpid, reported]
  rw [arrive, bind_ok waited]
  change ∃ t, (if (w.isAttached && (StopReason.ofStatus stop.status).reason == .stopped) = true
    then _ else _ : Sdb κ StopReason)
    { w with state := (StopReason.ofStatus stop.status).reason, kernel := k } = _ ∧ _
  cases ending : stop.isStopped with
  | false =>
    have gone : (w.isAttached && (StopReason.ofStatus stop.status).reason == .stopped) = false := by
      rw [stop.ofStatus_of_end ending, Bool.and_false]
    rw [gone, if_neg Bool.false_ne_true]
    refine ⟨_, by rw [stop.reason_of_end _ ending]; rfl, ?_, ?_, ?_⟩
    · rw [view_k, List.append_nil, ending]
    · exact ⟨w.data, k, by rw [stop.reason_of_end _ ending, stop.expects_of_end _ ending]⟩
    · rw [ending]
      intro impossible
      contradiction
  | true =>
    obtain ⟨signal, status⟩ := stop.status_of_isStopped ending
    have attended :
        (w.isAttached && (StopReason.ofStatus stop.status).reason == .stopped) = true := by
      rw [traced ending, status]
      rfl
    rw [if_pos attended]
    have reading := wp_readAllRegisters_quiet laws
      (w := { w with state := (StopReason.ofStatus stop.status).reason, kernel := k })
      (by rw [view_k, ending])
    obtain ⟨_, t, read, refreshed, quiet⟩ := exists_ok_of_wp reading
    obtain ⟨d, k', rfl, _, agree⟩ := refreshed
    have quiet' : view k' = view k := quiet
    have cached : ∀ off ∈ cachedOffsets, d off = stop.user off := by
      intro off member
      rw [show d off = (view k').user off from agree off member, quiet', view_k]
    obtain ⟨k'', same, augmented⟩ := augmentStopReason_eq (w := { w with
        state := (StopReason.ofStatus stop.status).reason
        data := d
        kernel := k' }) laws status
      (by rw [quiet', view_k, ending]) (by rw [quiet', view_k]) cached
    refine ⟨_, (bind_ok read _).trans augmented, ?_, ?_, fun _ => cached⟩
    · rw [show view k'' = view k from same.trans quiet', view_k, List.append_nil, ending]
    · have kind : (stop.reason w.expectingSyscallExit).reason =
          (StopReason.ofStatus stop.status).reason := by
        simp only [KernelStop.reason, status]
        split <;> rfl
      exact ⟨d, k'', by rw [kind]⟩

end Augment

end SdbDebugger
