import SdbDebugger.Library.ActionRuns
import SdbDebugger.ScriptedKernel
import SdbDebugger.StopStream

/-! `wait_on_signal` under the policy `catch_some`: syscall stops whose id is not
listed are resumed past, and the first other stop is returned. -/

namespace SdbDebugger
open EffectRules ActionRuns ByteSpace StoppointCollection

variable {κ : Type} {P : Platform κ} {view : κ → StreamView}

/-- A syscall stop that `catch_some` does not list, away from the enabled sites. -/
structure KernelStop.Filtered (stop : KernelStop) (toCatch : List Int)
    (sites : List BreakpointSite) : Prop where
  isSyscallStop : stop.isSyscallStop = true
  unlisted : (stop.syscallId.toNat : Int) ∉ toCatch
  noSite : enabledStoppointAtAddress sites stop.pc = .ok false

namespace KernelStop

variable {stop : KernelStop}

theorem status_of_isSyscallStop (h : stop.isSyscallStop = true) :
    stop.status = .stopped syscallTrap := by
  simpa [isSyscallStop] using h

theorem isStopped_of_isSyscallStop (h : stop.isSyscallStop = true) : stop.isStopped = true := by
  rw [isStopped, status_of_isSyscallStop h]

theorem syscallInfo_id (expecting : Bool) :
    (stop.syscallInfo expecting).id = stop.syscallId := by
  cases expecting with
  | true => rfl
  | false => rfl

end KernelStop

/-- What is done about a stop before it is returned: the pc goes back to an enabled
site, or the watchpoint takes its new value. -/
def sideEffects (P : Platform κ) (stop : KernelStop) (reason : StopReason) : Sdb κ Unit :=
  match reason.trapReason with
  | some .softwareBreak => do
    let site ← enabledSiteAt (stop.pc - 1)
    site.forM fun _ => setPc P (stop.pc - 1)
  | some .hardwareBreak => updateTriggeredWatchpoint P
  | _ => pure ()

theorem sideEffects_of_end {stop : KernelStop} (ended : stop.isStopped = false) :
    sideEffects P stop (StopReason.ofStatus stop.status) = pure () := by
  unfold KernelStop.isStopped at ended
  cases status : stop.status with
  | stopped signal => simp [status] at ended
  | exited code => rfl
  | signaled signal => rfl

section Response

variable {stop : KernelStop} {rest : List KernelStop} {issued : List ResumeRequest}
  {expecting : Bool} {toCatch : List Int} {w t : World κ}

theorem Arrived.getPc (arrived : Arrived view stop rest issued expecting w t)
    (stopped : stop.isStopped = true) : getPc t = .ok stop.pc t := by
  rw [getPc_eq, load_cached (arrived.cached stopped) (by decide), KernelStop.pc]

/-- Resuming away from the enabled sites is a single request. -/
theorem Arrived.resume (laws : StopStreamLaws P.toKernel view)
    (arrived : Arrived view stop rest issued expecting w t) (stopped : stop.isStopped = true)
    (policy : t.syscallCatchPolicy = .catchSome toCatch)
    (noSite : enabledStoppointAtAddress t.breakpointSites stop.pc = .ok false) :
    ∃ k, resume P t = .ok () { t with state := .running, kernel := k } ∧
      view k = ⟨false, rest, (view w.kernel).requests ++ issued ++ [.syscall], stop.user,
        stop.siCode⟩ := by
  obtain ⟨k, accepted, view_k⟩ :=
    laws.resume .syscall t.kernel (by rw [arrived.view_eq, stopped])
  rw [arrived.view_eq] at view_k
  refine ⟨k, ?_, view_k⟩
  unfold SdbDebugger.resume
  rw [bind_ok (arrived.getPc stopped), bind_ok (enabledSiteAt_of_disabled noSite)]
  change (orSendErrno "could not resume" (P.resume (resumeRequest t.syscallCatchPolicy)) >>= _) t =
    _
  have request : resumeRequest t.syscallCatchPolicy = .syscall := by
    rw [policy]
    rfl
  rw [request]
  exact bind_ok (orSendErrno_ok accepted) _

theorem Arrived.respond_syscall (arrived : Arrived view stop rest issued expecting w t)
    (attached : t.isAttached = true) (policy : t.syscallCatchPolicy = .catchSome toCatch)
    (syscall : stop.isSyscallStop = true) (wait : Sdb κ StopReason) :
    respond P wait (stop.reason expecting) t =
      (if toCatch.contains (stop.syscallId.toNat : Int) then pure (stop.reason expecting)
      else do
        SdbDebugger.resume P
        wait : Sdb κ StopReason) t := by
  have attended : (t.isAttached && ProcState.stopped == .stopped) = true := by
    rw [attached]
    rfl
  have mode : t.syscallCatchPolicy.mode = .some := by rw [policy]; rfl
  have toCatch_eq : t.syscallCatchPolicy.toCatch = toCatch := by rw [policy]; rfl
  rw [stop.reason_of_syscall _ (KernelStop.status_of_isSyscallStop syscall)]
  unfold respond
  change (if (t.isAttached && ProcState.stopped == .stopped) = true then _ else _ :
    Sdb κ StopReason) t = _
  rw [if_pos attended,
    bind_ok (arrived.getPc (KernelStop.isStopped_of_isSyscallStop syscall)), if_pos rfl]
  change maybeResumeFromSyscall P wait _ t = _
  rw [maybeResumeFromSyscall_some mode rfl, toCatch_eq, KernelStop.syscallInfo_id]

theorem Arrived.respond_filtered (laws : StopStreamLaws P.toKernel view)
    (arrived : Arrived view stop rest issued expecting w t) (attached : t.isAttached = true)
    (policy : t.syscallCatchPolicy = .catchSome toCatch)
    (filtered : stop.Filtered toCatch t.breakpointSites) (wait : Sdb κ StopReason) :
    ∃ k, respond P wait (stop.reason expecting) t = wait { t with state := .running, kernel := k } ∧
      view k = ⟨false, rest, (view w.kernel).requests ++ issued ++ [.syscall], stop.user,
        stop.siCode⟩ := by
  have stopped := KernelStop.isStopped_of_isSyscallStop filtered.isSyscallStop
  obtain ⟨k, resumed, view_k⟩ := arrived.resume laws stopped policy filtered.noSite
  refine ⟨k, ?_, view_k⟩
  have unlisted : ¬ toCatch.contains (stop.syscallId.toNat : Int) = true := by
    simpa using filtered.unlisted
  rw [arrived.respond_syscall attached policy filtered.isSyscallStop, if_neg unlisted]
  exact bind_ok resumed _

/-- A stop that is not filtered is returned after its side effects. -/
theorem Arrived.respond_delivered (arrived : Arrived view stop rest issued expecting w t)
    (traced : stop.isStopped = true → t.isAttached = true)
    (policy : t.syscallCatchPolicy = .catchSome toCatch)
    (listed : stop.isSyscallStop = true → (stop.syscallId.toNat : Int) ∈ toCatch)
    (wait : Sdb κ StopReason) :
    respond P wait (stop.reason expecting) t =
      (do
        sideEffects P stop (stop.reason expecting)
        pure (stop.reason expecting)) t := by
  cases stopped : stop.isStopped with
  | false =>
    have gone : (t.isAttached && (StopReason.ofStatus stop.status).reason == .stopped) = false := by
      rw [stop.ofStatus_of_end stopped, Bool.and_false]
    rw [stop.reason_of_end _ stopped]
    unfold respond
    change (if (t.isAttached && (StopReason.ofStatus stop.status).reason == .stopped) = true
      then _ else _ : Sdb κ StopReason) t = _
    rw [gone, if_neg Bool.false_ne_true, sideEffects_of_end stopped]
    rfl
  | true =>
    obtain ⟨signal, status⟩ := stop.status_of_isStopped stopped
    by_cases trap : signal = syscallTrap
    · rw [trap] at status
      have syscall : stop.isSyscallStop = true := by simp [KernelStop.isSyscallStop, status]
      have caught : toCatch.contains (stop.syscallId.toNat : Int) = true := by
        simpa using listed syscall
      rw [arrived.respond_syscall (traced stopped) policy syscall, if_pos caught,
        stop.reason_of_syscall _ status]
      rfl
    · have attended : (t.isAttached && ProcState.stopped == .stopped) = true := by
        rw [traced stopped]
        rfl
      rw [stop.reason_of_signal _ status trap]
      unfold respond
      change (if (t.isAttached && ProcState.stopped == .stopped) = true then _ else _ :
        Sdb κ StopReason) t = _
      rw [if_pos attended, bind_ok (arrived.getPc stopped)]
      by_cases sig : signal = sigtrap
      · rw [if_pos sig, if_pos sig]
        unfold handleSigtrap sideEffects
        cases cause : trapTypeOf stop.siCode with
        | softwareBreak => simp only [bind_assoc]
        | syscall => exact absurd cause (trapTypeOf_ne_syscall _)
        | hardwareBreak => rfl
        | singleStep => rfl
        | unknown => rfl
      · rw [if_neg sig, if_neg sig]
        rfl

end Response

/-- What the side effects of a stop leave alone. -/
structure Settled (view : κ → StreamView) (t u : World κ) : Prop where
  unconsumed : (view u.kernel).stops.length = (view t.kernel).stops.length
  requests : (view u.kernel).requests = (view t.kernel).requests
  state : u.state = t.state
  cached : ∀ off ∉ block 128 8, u.data off = t.data off

theorem preserves_setPc (laws : StopStreamLaws P.toKernel view) (t : World κ) (pc : VirtAddr) :
    Preserves (Settled view t) (setPc P pc) := by
  rw [setPc_eq]
  refine Preserves.bind (Preserves.modify fun u settled => ?_) fun _ => ?_
  · refine ⟨settled.unconsumed, settled.requests, settled.state, fun off outside => ?_⟩
    rw [← settled.cached off outside]
    exact overwrite_of_le (not_lt.1 outside)
  · refine preserves_orSendErrno fun u settled => ?_
    have poked := laws.pokeUser 128 pc u.kernel
    exact ⟨poked.1.trans settled.unconsumed, poked.2.trans settled.requests, settled.state,
      settled.cached⟩

theorem preserves_sideEffects (laws : StopStreamLaws P.toKernel view) (stop : KernelStop)
    (reason : StopReason) (t : World κ) :
    Preserves (Settled view t) (sideEffects P stop reason) := by
  have read : ∀ u iovs, Settled view t u →
      Settled view t { u with kernel := (P.processVmReadv iovs u.kernel).2 } := by
    intro u iovs settled
    have same := laws.processVmReadv iovs u.kernel
    exact ⟨by rw [same, settled.unconsumed], by rw [same, settled.requests], settled.state,
      settled.cached⟩
  unfold sideEffects
  split
  · exact (preserves_enabledSiteAt _).bind fun _ => preserves_forM fun _ => preserves_setPc laws t _
  · refine preserves_updateTriggeredWatchpoint fun i => preserves_updateData P read i fun v => ?_
    exact Preserves.modify fun u settled => ⟨settled.unconsumed, settled.requests, settled.state,
      settled.cached⟩
  · exact Preserves.pure _

/-- The stoppoint that DR6 points to is not found, or the new value of the watchpoint is not. -/
def OwnerRaises (P : Platform κ) (t : World κ) : Prop :=
  (∃ e, getCurrentHardwareStoppoint t = .error e t) ∨
    ∃ id i, getCurrentHardwareStoppoint t = .ok (.inr id) t ∧ getById t.watchpoints id = .ok i ∧
      ∃ e u, Watchpoint.updateData P i t = .error e u

theorem getById_of_deref {points : List Watchpoint} {i : Nat} {point : Watchpoint}
    (at_i : deref points i = .ok point) :
    ∃ j, getById points point.id = .ok j := by
  have there : containsId points point.id = true :=
    containsId_iff.2 ⟨point, List.mem_of_getElem? (deref_eq_ok.1 at_i), rfl⟩
  obtain ⟨j, found⟩ := Option.isSome_iff_exists.1 there
  exact ⟨j, by rw [getById, found]⟩

/-- A watchpoint that is named is in the collection. -/
theorem wp_current (t : World κ) : wp getCurrentHardwareStoppoint
    (fun owner u => ∀ id, owner = .inr id → ∃ i, getById u.watchpoints id = .ok i)
    (fun _ _ => True) t := by
  have read : ∀ id, Preserves (fun _ : World κ => True) (Registers.readByIdAsU64 id) :=
    fun _ => Registers.preserves_readByIdAsU64 _
  unfold getCurrentHardwareStoppoint
  rw [wp_bind]
  refine (read _ t trivial).mono (fun status t _ => ?_) fun _ _ _ => trivial
  rw [wp_bind, wp_liftFault]
  refine ⟨fun index _ => ?_, fun _ _ => trivial⟩
  rw [wp_bind]
  refine (read _ t trivial).mono (fun address t _ => ?_) fun _ _ _ => trivial
  rw [wp_bind, wp_get, wp_ite]
  split
  · rw [wp_bind, wp_liftFault]
    refine ⟨fun i _ => ?_, fun _ _ => trivial⟩
    rw [wp_bind, wp_liftFault]
    exact ⟨fun site _ id impossible => (by cases impossible), fun _ _ => trivial⟩
  · rw [wp_bind, wp_liftFault]
    refine ⟨fun i _ => ?_, fun _ _ => trivial⟩
    rw [wp_bind, wp_liftFault]
    refine ⟨fun point at_i id same => ?_, fun _ _ => trivial⟩
    cases same
    exact getById_of_deref at_i

theorem updateTriggered_raises_iff {t : World κ} :
    (∃ e u, updateTriggeredWatchpoint P t = .error e u) ↔ OwnerRaises P t := by
  have still : Preserves (fun u : World κ => u = t) (getCurrentHardwareStoppoint : Sdb κ (Int ⊕ Int)) :=
    preserves_getCurrentHardwareStoppoint
  unfold updateTriggeredWatchpoint OwnerRaises
  cases current : (getCurrentHardwareStoppoint : Sdb κ (Int ⊕ Int)) t with
  | error e u =>
    obtain rfl : u = t := still.of_error rfl current
    exact iff_of_true ⟨e, u, bind_error current _⟩ (.inl ⟨e, rfl⟩)
  | ok owner u =>
    obtain rfl : u = t := still.of_ok rfl current
    rw [bind_ok current]
    cases owner with
    | inl id =>
      refine iff_of_false nofun ?_
      rintro (⟨e, impossible⟩ | ⟨id', i, impossible, _⟩)
      · cases impossible
      · cases impossible
    | inr id =>
      obtain ⟨i, found⟩ := (wp_of_ok current _ _).1 (wp_current u) id rfl
      change (∃ e t, (liftFault (getById u.watchpoints id) >>= Watchpoint.updateData P) u = .error e t) ↔ _
      rw [found, liftFault_ok, pure_bind]
      constructor
      · exact fun raised => .inr ⟨id, i, rfl, found, raised⟩
      · rintro (⟨e, impossible⟩ | ⟨id', i', same, found', raised⟩)
        · cases impossible
        · cases same
          cases found.symm.trans found'
          exact raised

/-- The pc with which a stop is returned. -/
def returnPc (sites : List BreakpointSite) (stop : KernelStop) (reason : StopReason) : VirtAddr :=
  match reason.trapReason, enabledStoppointAtAddress sites (stop.pc - 1) with
  | some .softwareBreak, .ok true => stop.pc - 1
  | _, _ => stop.pc

section Return

variable {stop : KernelStop} {rest : List KernelStop} {issued : List ResumeRequest}
  {expecting : Bool} {w t : World κ}

theorem setPc_ok (laws : StopStreamLaws P.toKernel view)
    (stopped : (view t.kernel).isStopped = true) (pc : VirtAddr) :
    ∃ k, setPc P pc t = .ok () { t with data := store t.data 128 8 pc, kernel := k } := by
  obtain ⟨k, accepted⟩ := laws.setPc pc t.kernel stopped
  refine ⟨k, ?_⟩
  rw [setPc_eq]
  exact orSendErrno_ok accepted

theorem rewind_of_disabled {pc : VirtAddr}
    (disabled : enabledStoppointAtAddress t.breakpointSites pc = .ok false) :
    (do
      let site ← enabledSiteAt pc
      site.forM fun _ => setPc P pc : Sdb κ Unit) t = .ok () t := by
  rw [bind_ok (enabledSiteAt_of_disabled disabled)]
  rfl

theorem rewind_of_enabled (laws : StopStreamLaws P.toKernel view)
    (stopped : (view t.kernel).isStopped = true) {pc : VirtAddr}
    (enabled : enabledStoppointAtAddress t.breakpointSites pc = .ok true) :
    ∃ k, (do
        let site ← enabledSiteAt pc
        site.forM fun _ => setPc P pc : Sdb κ Unit) t =
      .ok () { t with data := store t.data 128 8 pc, kernel := k } := by
  obtain ⟨i, _, _, _, _, found⟩ := enabledSiteAt_of_enabled enabled
  obtain ⟨k, moved⟩ := setPc_ok laws stopped pc
  exact ⟨k, by rw [bind_ok found]; exact moved⟩

/-- The side effects raise exactly if there is a watchpoint to look for and it is not found or
read. The pc is that of the return then, too. -/
theorem Arrived.wp_sideEffects (laws : StopStreamLaws P.toKernel view)
    (arrived : Arrived view stop rest issued expecting w t) (stopped : stop.isStopped = true)
    (reason : StopReason) :
    wp (sideEffects P stop reason)
      (fun _ u => (load u.data 128 8 : Word) = returnPc t.breakpointSites stop reason ∧
        ¬ (reason.trapReason = some .hardwareBreak ∧ OwnerRaises P t))
      (fun _ u => (load u.data 128 8 : Word) = returnPc t.breakpointSites stop reason ∧
        reason.trapReason = some .hardwareBreak ∧ OwnerRaises P t) t := by
  have pc_eq : (load t.data 128 8 : Word) = stop.pc :=
    load_cached (arrived.cached stopped) (by decide)
  have still : (view t.kernel).isStopped = true := by rw [arrived.view_eq, stopped]
  unfold sideEffects returnPc
  split
  · next cause =>
    rw [cause]
    obtain ⟨enabled, known⟩ := enabledStoppointAtAddress_total t.breakpointSites (stop.pc - 1)
    rw [known]
    cases enabled with
    | false => exact (wp_of_ok (rewind_of_disabled known) _ _).2 ⟨pc_eq, nofun⟩
    | true =>
      obtain ⟨k, moved⟩ := rewind_of_enabled laws still known
      exact (wp_of_ok moved _ _).2 ⟨load_store _ _ _ _ (by decide), nofun⟩
  · next cause =>
    rw [cause]
    have untouched : Preserves (fun u : World κ => u.data = t.data) (updateTriggeredWatchpoint P) :=
      preserves_updateTriggeredWatchpoint fun i => preserves_updateData P (fun _ _ same => same) i
        fun _ => Preserves.modify fun _ same => same
    rw [wp_iff]
    refine ⟨fun _ u run => ⟨?_, fun raises => ?_⟩, fun e u run => ⟨?_, rfl, ?_⟩⟩
    · rw [untouched.of_ok rfl run, pc_eq]
    · obtain ⟨e, u', raised⟩ := updateTriggered_raises_iff.2 raises.2
      cases run.symm.trans raised
    · rw [untouched.of_error rfl run, pc_eq]
    · exact updateTriggered_raises_iff.1 ⟨e, u, run⟩
  · next notSoftware notHardware =>
    rw [wp_pure, pc_eq]
    refine ⟨?_, fun raises => notHardware raises.1⟩
    split
    · next cause _ => exact absurd cause notSoftware
    · rfl

/-- The arrival after a filtered stop, told from before that stop. -/
theorem Arrived.after {last : KernelStop} {rest' : List KernelStop} {expecting' : Bool}
    {u : World κ} {k : κ} (arrived : Arrived view stop rest [] expecting w t)
    (requests : (view k).requests = (view w.kernel).requests ++ [.syscall])
    (later :
      Arrived view last rest' issued expecting' { t with state := .running, kernel := k } u) :
    Arrived view last rest' (.syscall :: issued) expecting' w u := by
  obtain ⟨d, k', rfl⟩ := arrived.frame
  obtain ⟨d', k'', rfl⟩ := later.frame
  refine ⟨?_, ⟨d', k'', rfl⟩, later.cached⟩
  rw [later.view_eq, requests, List.append_assoc]
  rfl

end Return

/-- One call comes down to the side effects of the first stop that is not filtered. -/
theorem waitOnSignal_of_stream (laws : StopStreamLaws P.toKernel view) {toCatch : List Int}
    {filtered : List KernelStop} {last : KernelStop} {rest : List KernelStop}
    (listed : last.isSyscallStop = true → (last.syscallId.toNat : Int) ∈ toCatch)
    {fuel : Nat} (enough : filtered.length < fuel) {w : World κ}
    (policy : w.syscallCatchPolicy = .catchSome toCatch)
    (skipped : ∀ stop ∈ filtered, stop.Filtered toCatch w.breakpointSites)
    (traced : ∀ stop ∈ filtered ++ [last], stop.isStopped = true → w.isAttached = true)
    (stream : (view w.kernel).stops = filtered ++ last :: rest) :
    ∃ t, Arrived view last rest (List.replicate filtered.length .syscall)
        (expectsAfter filtered w.expectingSyscallExit) w t ∧
      waitOnSignal P fuel w =
        (do
          sideEffects P last (last.reason (expectsAfter filtered w.expectingSyscallExit))
          pure (last.reason (expectsAfter filtered w.expectingSyscallExit))) t := by
  induction filtered generalizing fuel w with
  | nil =>
    obtain ⟨n, rfl⟩ : ∃ n, fuel = n + 1 := ⟨fuel - 1, by simp at enough; omega⟩
    have attached := traced last (by simp)
    obtain ⟨t, arrival, arrived⟩ := arrive_eq laws stream attached
    obtain ⟨d, k, shape⟩ := arrived.frame
    refine ⟨t, arrived, ?_⟩
    rw [waitOnSignal_succ, bind_ok arrival]
    exact arrived.respond_delivered (by rw [shape]; exact attached) (by rw [shape]; exact policy)
      listed _
  | cons stop filtered ih =>
    obtain ⟨n, rfl⟩ : ∃ n, fuel = n + 1 := ⟨fuel - 1, by simp at enough; omega⟩
    have skip := skipped stop (by simp)
    have attached :=
      traced stop (by simp) (KernelStop.isStopped_of_isSyscallStop skip.isSyscallStop)
    obtain ⟨t, arrival, arrived⟩ := arrive_eq laws stream fun _ => attached
    obtain ⟨d, k, shape⟩ := arrived.frame
    obtain ⟨k', responded, view_k'⟩ := arrived.respond_filtered laws (by rw [shape]; exact attached)
      (by rw [shape]; exact policy) (by rw [shape]; exact skip) (waitOnSignal P n)
    have fewer : filtered.length < n := by
      simp at enough
      omega
    obtain ⟨u, later, returned⟩ := ih fewer (w := { t with state := .running, kernel := k' })
      (by rw [shape]; exact policy)
      (by rw [shape]; exact fun stop member => skipped stop (by simp [member]))
      (by rw [shape]; exact fun stop member => traced stop (by simp_all)) (by rw [view_k']; rfl)
    have expecting : expectsAfter filtered t.expectingSyscallExit =
        expectsAfter (stop :: filtered) w.expectingSyscallExit := by
      rw [shape]
      rfl
    change Arrived view last rest _ (expectsAfter filtered t.expectingSyscallExit) _ u at later
    change _ = (do
      sideEffects P last (last.reason (expectsAfter filtered t.expectingSyscallExit))
      pure (last.reason (expectsAfter filtered t.expectingSyscallExit)) : Sdb κ StopReason) u
      at returned
    rw [expecting] at later returned
    refine ⟨u, arrived.after (by rw [view_k', List.append_nil]) later, ?_⟩
    rw [waitOnSignal_succ, bind_ok arrival, responded, returned]

/-- The process that has come to `stop` with the given requests. -/
structure Delivered (view : κ → StreamView) (stop : KernelStop) (rest : List KernelStop)
    (issued : List ResumeRequest) (reason : StopReason) (w u : World κ) : Prop where
  consumed : (view u.kernel).stops.length = rest.length
  requests : (view u.kernel).requests = (view w.kernel).requests ++ issued
  state : u.state = reason.reason
  registers : stop.isStopped = true →
    ∀ off ∈ cachedOffsets, off ∉ block 128 8 → u.data off = stop.user off
  pc : stop.isStopped = true →
    (load u.data 128 8 : Word) = returnPc w.breakpointSites stop reason

/-- One call consumes the filtered stops and the first other one, requests one resumption for each
filtered stop, and runs the side effects of the other once. That one is returned, unless it is a
hardware stop whose owner is not found or read, of which the call tells by what it raises. -/
theorem waitOnSignal_filters (laws : StopStreamLaws P.toKernel view) (toCatch : List Int)
    (filtered : List KernelStop) (last : KernelStop) (rest : List KernelStop)
    (listed : last.isSyscallStop = true → (last.syscallId.toNat : Int) ∈ toCatch)
    (fuel : Nat) (enough : filtered.length < fuel) (w : World κ)
    (policy : w.syscallCatchPolicy = .catchSome toCatch)
    (skipped : ∀ stop ∈ filtered, stop.Filtered toCatch w.breakpointSites)
    (traced : ∀ stop ∈ filtered ++ [last], stop.isStopped = true → w.isAttached = true)
    (stream : (view w.kernel).stops = filtered ++ last :: rest)
    (reason : StopReason)
    (reason_eq : reason = last.reason (expectsAfter filtered w.expectingSyscallExit)) :
    ∃ t, Arrived view last rest (List.replicate filtered.length .syscall)
        (expectsAfter filtered w.expectingSyscallExit) w t ∧
      waitOnSignal P fuel w = (do
        sideEffects P last reason
        pure reason) t ∧
      (¬ (reason.trapReason = some .hardwareBreak ∧ OwnerRaises P t) →
        ∃ u, waitOnSignal P fuel w = .ok reason u ∧
          Delivered view last rest (List.replicate filtered.length .syscall) reason w u) ∧
      (reason.trapReason = some .hardwareBreak ∧ OwnerRaises P t →
        ∃ e u, waitOnSignal P fuel w = .error e u ∧
          Delivered view last rest (List.replicate filtered.length .syscall) reason w u) := by
  subst reason_eq
  obtain ⟨t, arrived, returned⟩ :=
    waitOnSignal_of_stream laws listed enough policy skipped traced stream
  refine ⟨t, arrived, returned, ?_⟩
  generalize expectsAfter filtered w.expectingSyscallExit = expecting at *
  have settled := preserves_sideEffects laws last (last.reason expecting) t t
    ⟨rfl, rfl, rfl, fun _ _ => rfl⟩
  have rewound : wp (sideEffects P last (last.reason expecting))
      (fun _ u => (last.isStopped = true →
          (load u.data 128 8 : Word) = returnPc t.breakpointSites last (last.reason expecting)) ∧
        ¬ ((last.reason expecting).trapReason = some .hardwareBreak ∧ OwnerRaises P t))
      (fun _ u => (last.isStopped = true →
          (load u.data 128 8 : Word) = returnPc t.breakpointSites last (last.reason expecting)) ∧
        (last.reason expecting).trapReason = some .hardwareBreak ∧ OwnerRaises P t) t := by
    cases stopped : last.isStopped with
    | true =>
      exact (arrived.wp_sideEffects laws stopped _).mono (fun _ _ h => ⟨fun _ => h.1, h.2⟩)
        fun _ _ h => ⟨fun _ => h.1, h.2⟩
    | false =>
      have ended := last.reason_of_end expecting stopped
      have noTrap : (StopReason.ofStatus last.status).trapReason = none := by
        cases last.status <;> rfl
      rw [ended, sideEffects_of_end stopped, wp_pure, noTrap]
      exact ⟨nofun, nofun⟩
  obtain ⟨d, k, shape⟩ := arrived.frame
  have delivered : ∀ u, Settled view t u → (last.isStopped = true →
      (load u.data 128 8 : Word) = returnPc t.breakpointSites last (last.reason expecting)) →
      Delivered view last rest (List.replicate filtered.length .syscall) (last.reason expecting)
        w u := by
    intro u kept pc
    refine ⟨?_, ?_, ?_, fun stopped off member outside => ?_, fun stopped => ?_⟩
    · rw [kept.unconsumed, arrived.view_eq]
    · rw [kept.requests, arrived.view_eq]
    · rw [kept.state, shape]
    · rw [kept.cached off outside, arrived.cached stopped off member]
    · rw [pc stopped, shape]
  have finished := wp_iff.1 (settled.and rewound)
  rw [returned]
  cases run : sideEffects P last (last.reason expecting) t with
  | ok a u =>
    have done := finished.1 a u run
    constructor
    · intro _
      refine ⟨u, ?_, delivered u done.1 done.2.1⟩
      rw [bind_ok run]
      rfl
    · intro raises
      exact absurd raises done.2.2
  | error e u =>
    have failed := finished.2 e u run
    constructor
    · intro returns
      exact absurd failed.2.2 returns
    · intro _
      exact ⟨e, u, bind_error run _, delivered u failed.1 failed.2.1⟩

/-- A stop at which every register is zero. -/
def bareStop (signal : Byte) (siCode : Int) : KernelStop := ⟨.stopped signal, fun _ => 0, siCode⟩

/-- Entry and exit of a system call that is not listed. -/
def unlistedCall : List KernelStop := [bareStop syscallTrap 0, bareStop syscallTrap 0]

def catchesOnly (toCatch : List Int) (w : World Scripted) : World Scripted :=
  { w with syscallCatchPolicy := .catchSome toCatch }

theorem waitOnSignal_filters_unlistedCall :
    ∃ u, waitOnSignal scriptedPlatform 3
        (catchesOnly [1] (scriptedWorld [] (unlistedCall ++ [bareStop sigtrap trapTrace]))) =
      .ok ⟨.stopped, sigtrap, some .singleStep, none⟩ u ∧
      u.kernel.requests = [.syscall, .syscall] ∧ u.kernel.stops = [] := by
  have bare : ∀ k : Scripted, k.user = (fun _ => 0) → ∀ signal siCode,
      k.stopUser (bareStop signal siCode) = fun _ => 0 := by
    intro k zero signal siCode
    funext off
    by_cases slot : Scripted.inSlots off
    · rw [k.stopUser_of_inSlots _ slot, zero]
    · rw [k.stopUser_of_not_inSlots _ slot, bareStop]
  have skip : (bareStop syscallTrap 0).Filtered [1] [] :=
    ⟨rfl, by decide, enabledStoppointAtAddress_of_none fun _ none => absurd none List.not_mem_nil⟩
  obtain ⟨_, _, _, returns, _⟩ := waitOnSignal_filters (P := scriptedPlatform)
    Scripted.stopStreamLaws [1] unlistedCall (bareStop sigtrap trapTrace) []
    (fun syscall => absurd syscall (by decide)) 3 (by decide)
    (catchesOnly [1] (scriptedWorld [] (unlistedCall ++ [bareStop sigtrap trapTrace]))) rfl
    (by
      intro stop member
      rw [List.eq_of_mem_replicate (n := 2) member]
      exact skip)
    (fun _ _ _ => rfl)
    (by
      have same := bare (catchesOnly [1]
        (scriptedWorld [] (unlistedCall ++ [bareStop sigtrap trapTrace]))).kernel rfl
      change [_, _, _] = _
      beta_reduce
      rw [same, same]
      rfl)
    ⟨.stopped, sigtrap, some .singleStep, none⟩ rfl
  obtain ⟨u, run, delivered⟩ := returns nofun
  refine ⟨u, run, delivered.requests, ?_⟩
  simpa [Scripted.streamView] using delivered.consumed

/-- Execution has come to 0x1000, for which the first slot was set up with `register write`. -/
def unownedStop : KernelStop where
  status := .stopped sigtrap
  user off := if off = debugOffset 0 + 1 ∨ off = 129 then 0x10
    else if off = debugOffset 6 ∨ off = debugOffset 7 then 1 else 0
  siCode := trapHwbkpt

/-- The process before that stop, with nothing in its collections. -/
def unownedWorld : World Scripted :=
  let w := catchesOnly [1] (scriptedWorld [] [unownedStop])
  { w with kernel := { w.kernel with user := unownedStop.user } }

/-- At a hardware stop the call does not go on. -/
theorem waitOnSignal_hardware {reason : StopReason} {w t : World κ}
    (arrival : arrive P w = .ok reason t) (hardware : reason.trapReason = some .hardwareBreak)
    (fuel fuel' : Nat) : waitOnSignal P (fuel + 1) w = waitOnSignal P (fuel' + 1) w := by
  have same : respond P (waitOnSignal P fuel) reason = respond P (waitOnSignal P fuel') reason := by
    unfold respond handleSigtrap
    rw [hardware]
  rw [waitOnSignal_succ, waitOnSignal_succ, bind_ok arrival, bind_ok arrival, same]

/-- The one stop is no syscall stop, and no call returns its reason. -/
theorem not_waitOnSignal_filters_unowned :
    unownedWorld.syscallCatchPolicy = .catchSome [1] ∧ unownedWorld.isAttached = true ∧
      unownedStop.isSyscallStop = false ∧ unownedWorld.kernel.stops = [unownedStop] ∧
      ∀ fuel, ∃ u, waitOnSignal scriptedPlatform (fuel + 1) unownedWorld =
        .error (.error "stoppoint with given address not found") u := by
  refine ⟨rfl, rfl, rfl, rfl, fun fuel => ?_⟩
  obtain ⟨e, u, raised, same⟩ := exists_mild_error
    (show (survive (fun _ => true) (waitOnSignal scriptedPlatform 1) unownedWorld).isNone = true by
      decide +kernel)
    (show (survive (fun e => decide (e ≠ .error "stoppoint with given address not found"))
      (waitOnSignal scriptedPlatform 1) unownedWorld).isSome = true by decide +kernel)
  obtain rfl := of_not_not (of_decide_eq_false same)
  obtain ⟨t, arrival, _⟩ := arrive_eq (w := unownedWorld) Scripted.stopStreamLaws rfl fun _ => rfl
  exact ⟨u, (waitOnSignal_hardware arrival rfl fuel 0).trans raised⟩

end SdbDebugger
