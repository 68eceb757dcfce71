import SdbDebugger.HardwareRuns
import SdbDebugger.StopErrors
import SdbDebugger.StoppointKeys

/-! The stops that `wait_on_signal` handles in a session: in a call of its own or in one that
`step_instruction` makes, at once or after system calls that are not to be caught. -/

namespace SdbDebugger
open EffectRules ActionRuns Exceptions ByteSpace StoppointCollection

variable {κ : Type} {P : Platform κ}

/-- `Handles P fuel w left reason t`: waiting from `w`, the stop `reason` is handled in `t`, with
`left` of the fuel. -/
inductive Handles (P : Platform κ) : Nat → World κ → Nat → StopReason → World κ → Prop where
  | first {fuel : Nat} {w t : World κ} {reason : StopReason}
      (arrived : arrive P w = .ok reason t) : Handles P (fuel + 1) w fuel reason t
  | later {fuel left : Nat} {w t u v : World κ} {call reason : StopReason}
      (arrived : arrive P w = .ok call t) (ignored : Ignored call t)
      (resumed : resume P t = .ok () u) (rest : Handles P fuel u left reason v) :
      Handles P (fuel + 1) w left reason v

theorem respond_ignored {reason : StopReason} {w : World κ} (ignored : Ignored reason w)
    (wait : Sdb κ StopReason) :
    respond P wait reason w = (do
      resume P
      wait : Sdb κ StopReason) w := by
  obtain ⟨attended, cause, mode, info, syscall, unlisted⟩ := ignored
  rw [respond_call attended cause, maybeResumeFromSyscall_some mode syscall, unlisted,
    if_neg Bool.false_ne_true]

/-- Answering a stop that is no ignored call: nothing is resumed, and its reason is returned. -/
theorem wp_respond_heard {I : World κ → Prop} {reason : StopReason} {w : World κ}
    (rewind : ∀ pc, Preserves I (setPc P pc))
    (update : reason.trapReason = some .hardwareBreak → ∀ i, Preserves I (Watchpoint.updateData P i))
    (heard : ¬ Ignored reason w) (wait : Sdb κ StopReason) (h : I w) :
    wp (respond P wait reason) (fun r t => r = reason ∧ I t) (fun _ t => I t) w := by
  by_cases attended : Attended reason w
  · by_cases software : reason.trapReason = some .softwareBreak
    · rw [wp_congr (respond_software attended software wait)]
      have rewinding : Preserves I (do
          let site ← enabledSiteAt (load w.data 128 8 - 1)
          site.forM fun _ => setPc P (load w.data 128 8 - 1) : Sdb κ Unit) :=
        (preserves_enabledSiteAt _).bind fun _ => preserves_forM fun _ => rewind _
      have returned := rewinding.returning reason h
      simp only [bind_assoc] at returned
      exact returned
    by_cases hardware : reason.trapReason = some .hardwareBreak
    · rw [wp_congr (respond_hardware attended hardware wait)]
      exact (preserves_updateTriggeredWatchpoint (update hardware)).returning reason h
    by_cases syscall : reason.trapReason = some .syscall
    · rw [wp_congr (respond_call attended syscall wait)]
      by_cases mode : w.syscallCatchPolicy.mode = .some
      · cases present : reason.syscallInfo with
        | none =>
          unfold maybeResumeFromSyscall
          rw [wp_bind, wp_get, mode, present]
          exact h
        | some info =>
          have listed : w.syscallCatchPolicy.toCatch.contains (info.id.toNat : Int) = true := by
            by_contra unlisted
            exact heard ⟨attended, syscall, mode, info, present, Bool.eq_false_iff.2 unlisted⟩
          rw [wp_congr (maybeResumeFromSyscall_some mode present wait), if_pos listed]
          exact ⟨rfl, h⟩
      · rw [wp_of_ok (maybeResumeFromSyscall_other mode wait reason)]
        exact ⟨rfl, h⟩
    · rw [wp_of_ok (respond_other software hardware syscall wait)]
      exact ⟨rfl, h⟩
  · rw [wp_of_ok (respond_unattended attended)]
    exact ⟨rfl, h⟩

namespace Handles

variable {fuel left : Nat} {w t : World κ} {reason : StopReason}

/-- What the whole call does is what it does with the stop handled. -/
theorem run (handles : Handles P fuel w left reason t) :
    waitOnSignal P fuel w = respond P (waitOnSignal P left) reason t := by
  induction handles with
  | first arrived => rw [waitOnSignal_succ, bind_ok arrived]
  | later arrived ignored resumed _ ih =>
    rw [waitOnSignal_succ, bind_ok arrived, respond_ignored ignored, bind_ok resumed, ih]

theorem invariant {I : World κ → Prop} (arriving : Preserves I (arrive P))
    (resuming : Preserves I (resume P)) (handles : Handles P fuel w left reason t) (start : I w) :
    I t := by
  induction handles with
  | first arrived => exact arriving.of_ok start arrived
  | later arrived _ resumed _ ih =>
    exact ih (resuming.of_ok (arriving.of_ok start arrived) resumed)

theorem arrives (handles : Handles P fuel w left reason t) : ∃ u, arrive P u = .ok reason t := by
  induction handles with
  | first arrived => exact ⟨_, arrived⟩
  | later _ _ _ _ ih => exact ih

/-- A hardware stop is one that is looked into. -/
theorem attended (handles : Handles P fuel w left reason t)
    (hardware : reason.trapReason = some .hardwareBreak) : Attended reason t := by
  obtain ⟨u, arrived⟩ := handles.arrives
  have described := (wp_of_ok arrived _ _).1
    (arrive_described (P := P) (R := fun _ _ => True) (w := u) trivial)
  have traced := (wp_of_ok arrived _ _).1 (arrive_attended (P := P) u)
  cases traced with
  | inl none => simp [hardware] at none
  | inr stopped => exact ⟨stopped.1, stopped.2, described.2.hardware hardware⟩

end Handles

/-- `Waits P op w fuel u`: performing `op` in `w`, `wait_on_signal` is called in `u`. -/
inductive Waits (P : Platform κ) : SessionOp → World κ → Nat → World κ → Prop where
  | waitOnSignal (fuel : Nat) (w : World κ) : Waits P (.waitOnSignal fuel) w fuel w
  | stepInstruction (fuel : Nat) {w u : World κ} {site : Option Nat}
      (started : startStep P w = .ok site u) : Waits P (.stepInstruction fuel) w fuel u

theorem Waits.invariant {I : World κ → Prop} (starting : Preserves I (startStep P))
    {op : SessionOp} {fuel : Nat} {w u : World κ} (waits : Waits P op w fuel u) (start : I w) :
    I u := by
  cases waits with
  | waitOnSignal => exact start
  | stepInstruction _ started => exact starting.of_ok start started

/-- A stop that `wait_on_signal` handles while `op` is performed in `w`. -/
def HandledBy (P : Platform κ) (op : SessionOp) (w : World κ) (reason : StopReason)
    (t : World κ) : Prop :=
  ∃ fuel u left, Waits P op w fuel u ∧ Handles P fuel u left reason t

theorem HandledBy.attended {op : SessionOp} {w t : World κ} {reason : StopReason}
    (handled : HandledBy P op w reason t) (hardware : reason.trapReason = some .hardwareBreak) :
    Attended reason t := by
  obtain ⟨fuel, u, left, _, handles⟩ := handled
  exact handles.attended hardware

/-! ### Invariants at a stop -/

section Invariants

variable {debug : κ → Nat → Word} {op : SessionOp} {w t : World κ} {reason : StopReason}

theorem preserves_startStep {I : World κ → Prop}
    (disable : ∀ i, Preserves I (BreakpointSite.disable P i))
    (step : Preserves I (orSendErrno "could not single step" (P.resume .singleStep))) :
    Preserves I (startStep P) :=
  (Registers.preserves_readByIdAsU64 _).bind fun _ => (preserves_enabledSiteAt _).bind fun _ =>
    (preserves_forM disable).bind fun _ => step.bind fun _ => Preserves.pure _

theorem HandledBy.keys_distinct (handled : HandledBy P op w reason t)
    (start : (keys w).Distinct) : (keys t).Distinct := by
  obtain ⟨fuel, u, left, waits, handles⟩ := handled
  have starting : Preserves (fun w : World κ => (keys w).Distinct) (startStep P) :=
    preserves_startStep keys_toggles.preserves_siteDisable (keys_toggles.preserves_request _ _)
  exact handles.invariant keys_toggles.preserves_arrive keys_toggles.preserves_resume
    (waits.invariant starting start)

theorem HandledBy.hardwareInvariant (laws : DebugRegisterLaws P.toKernel debug)
    (handled : HandledBy P op w reason t) (start : HardwareInvariant debug w) :
    HardwareInvariant debug t := by
  obtain ⟨fuel, u, left, waits, handles⟩ := handled
  have starting : Preserves (HardwareInvariant debug) (startStep P) :=
    preserves_startStep (HardwareInvariant.preserves_siteDisable laws)
      (HardwareInvariant.preserves_request (laws.resume_kept _))
  exact handles.invariant (HardwareInvariant.preserves_arrive laws)
    (HardwareInvariant.preserves_resume laws) (waits.invariant starting start)

end Invariants

/-! ### Sessions from the launch -/

/-- A process that has just been launched: it has no stoppoints, no slot is enabled, and the
cached debug registers are the kernel's. -/
structure Launched (debug : κ → Nat → Word) (w : World κ) : Prop where
  free : ∀ i < 4, enableBits (debug w.kernel 7) i = 0
  upper : upperBits (debug w.kernel 7) = 0
  cached : ∀ i, SlotRegister i → load w.data (debugOffset i) 8 = debug w.kernel i
  noSites : w.breakpointSites = []
  noWatchpoints : w.watchpoints = []

namespace Launched

variable {debug : κ → Nat → Word} {w : World κ}

theorem keys_distinct (launched : Launched debug w) : (keys w).Distinct := by
  refine ⟨?_, ?_, ?_, ?_⟩
  all_goals simp [keys, launched.noSites, launched.noWatchpoints]

theorem hardwareInvariant (launched : Launched debug w) : HardwareInvariant debug w :=
  HardwareInvariant.of_idle launched.free launched.upper launched.cached
    (by simp [owners, launched.noSites, launched.noWatchpoints])

end Launched

/-- The invariants of a session, at a stop that is handled in it. -/
theorem invariants_of_handled {debug : κ → Nat → Word} (laws : DebugRegisterLaws P.toKernel debug)
    {ops : List SessionOp} {op : SessionOp} {w w' t : World κ} {reason : StopReason}
    (launched : Launched debug w) (reach : run (sessionStep P) ops w = some w')
    (handled : HandledBy P op w' reason t) :
    HardwareInvariant debug t ∧ (keys t).Distinct := by
  exact ⟨handled.hardwareInvariant laws (launched.hardwareInvariant.of_run laws reach),
    handled.keys_distinct (distinct_of_run launched.keys_distinct reach)⟩

/-! ### Stops of the scripted kernel -/

section Scripted

theorem launched_scriptedWorld (stops : List KernelStop) :
    Launched Scripted.debug (scriptedWorld [] stops) := by
  have control : Scripted.debug (scriptedWorld [] stops).kernel 7 = 0 := by
    rw [Scripted.debug, if_pos (by omega)]
    change load (fun _ => (0 : Byte)) (debugOffset 7) 8 = 0
    decide +kernel
  refine ⟨?_, ?_, fun i slot => ?_, rfl, rfl⟩
  · rw [control]
    decide
  · rw [control]
    decide
  · rw [Scripted.debug, if_pos (slotRegister_lt slot)]
    rfl

/-- The stop that comes after a session, with what is made of it. -/
def stopAfter (ops : List SessionOp) (stops : List KernelStop) :
    Option (StopReason × World Scripted) :=
  (run (sessionStep scriptedPlatform) ops (scriptedWorld [] stops)).bind fun w =>
    match arrive scriptedPlatform w with
    | .ok reason t => some (reason, t)
    | .error _ _ => none

/-- What has been evaluated of the stop after a session. -/
theorem stopAfter_spec {ops : List SessionOp} {stops : List KernelStop}
    {p : StopReason × World Scripted → Bool} (h : (stopAfter ops stops).any p = true) :
    ∃ w' reason t, run (sessionStep scriptedPlatform) ops (scriptedWorld [] stops) = some w' ∧
      HandledBy scriptedPlatform (.waitOnSignal 1) w' reason t ∧ p (reason, t) = true := by
  obtain ⟨stop, after, holds⟩ := (Option.any_eq_true p _).1 h
  rw [stopAfter, Option.bind_eq_some_iff] at after
  obtain ⟨w', reach, arrived⟩ := after
  cases run : arrive scriptedPlatform w' with
  | error e t => simp [run] at arrived
  | ok reason t =>
    simp only [run, Option.some.injEq] at arrived
    subst arrived
    exact ⟨w', reason, t, reach, ⟨1, w', 0, .waitOnSignal 1 w', .first run⟩, holds⟩

end Scripted

end SdbDebugger
