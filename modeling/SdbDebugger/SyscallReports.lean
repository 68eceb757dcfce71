import SdbDebugger.SessionRuns
import SdbDebugger.SyscallPhase
import SdbDebugger.PhasedKernel

/-! Reports of syscall stops over whole sessions: as long as no resumption steps off a
breakpoint site at an entry stop, they tell entries from exits. -/

namespace SdbDebugger
open EffectRules ActionRuns ByteSpace StoppointCollection

variable {κ : Type} {P : Platform κ} {view : κ → SyscallView}

/-! ### Waiting -/

/-- A syscall stop that `catch_some` does not list. -/
def IsFiltered (policy : SyscallCatchPolicy) (reason : StopReason) : Prop :=
  policy.mode = .some ∧
    ∃ info, reason.syscallInfo = some info ∧ (info.id.toNat : Int) ∉ policy.toCatch

/-- Every resumption inside `wait_on_signal` is clear. -/
def ResumesClear (P : Platform κ) (view : κ → SyscallView) : Nat → World κ → Prop
  | 0, _ => True
  | fuel + 1, w => ∀ reason t, arrive P w = .ok reason t →
    IsFiltered t.syscallCatchPolicy reason →
      ClearToResume P view t ∧ ∀ u, resume P t = .ok () u → ResumesClear P view fuel u

/-- The report at hand is that of the last stop. -/
structure Reported (view : κ → SyscallView) (reason : StopReason) (t : World κ) : Prop where
  invariant : PhaseInvariant view t
  classified : Classified (view t.kernel).lastStop reason

theorem reported_property (reason : StopReason) : PhaseProperty view (Reported view reason) := by
  intro w w' attached expecting policy settles h
  have kept := phaseAt_property _ w w' attached expecting policy settles ⟨h.invariant, rfl⟩
  exact ⟨kept.1, by rw [kept.2]; exact h.classified⟩

section Waiting

variable (laws : SyscallStopLaws P.toKernel view)
include laws

theorem wp_maybeResume {wait : Sdb κ StopReason} {reason : StopReason} {t : World κ}
    (reported : Reported view reason t)
    (clear : IsFiltered t.syscallCatchPolicy reason → ClearToResume P view t)
    (again : IsFiltered t.syscallCatchPolicy reason → ∀ u, resume P t = .ok () u →
      PhaseInvariant view u →
      wp wait (fun r v => Reported view r v) (fun _ v => PhaseInvariant view v) u) :
    wp (maybeResumeFromSyscall P wait reason) (fun r v => Reported view r v)
      (fun _ v => PhaseInvariant view v) t := by
  unfold maybeResumeFromSyscall
  rw [wp_bind, wp_get]
  split
  · next info mode syscall =>
    rw [wp_ite]
    split
    · exact reported
    · next unlisted =>
      have filtered : IsFiltered t.syscallCatchPolicy reason :=
        ⟨mode, info, syscall, by simpa using unlisted⟩
      have resumed := wp_iff.1 (wp_resume laws reported.invariant (clear filtered))
      rw [wp_bind]
      exact wp_iff.2 ⟨fun _ u run => again filtered u run (resumed.1 () u run), resumed.2⟩
  · exact reported.invariant
  · exact reported

theorem wp_respond {wait : Sdb κ StopReason} {reason : StopReason} {t : World κ}
    (reported : Reported view reason t)
    (clear : IsFiltered t.syscallCatchPolicy reason → ClearToResume P view t)
    (again : IsFiltered t.syscallCatchPolicy reason → ∀ u, resume P t = .ok () u →
      PhaseInvariant view u →
      wp wait (fun r v => Reported view r v) (fun _ v => PhaseInvariant view v) u) :
    wp (respond P wait reason) (fun r v => Reported view r v)
      (fun _ v => PhaseInvariant view v) t := by
  have blind : StoppointBlind P (Reported view reason) := (reported_property reason).blind laws
  unfold respond
  rw [wp_bind, wp_get, wp_ite]
  split
  · rw [wp_bind, wp_of_ok (getPc_eq t), wp_ite]
    split
    · unfold handleSigtrap
      split
      · rw [wp_bind]
        refine (preserves_enabledSiteAt _ t reported).mono (fun site u h => ?_)
          fun _ _ h => h.invariant
        rw [wp_bind]
        exact (preserves_forM (fun _ => blind.preserves_setPc _) u h).mono (fun _ _ h => h)
          fun _ _ h => h.invariant
      · rw [wp_bind]
        exact (blind.preserves_updateTriggered t reported).mono (fun _ _ h => h)
          fun _ _ h => h.invariant
      · exact wp_maybeResume laws reported clear again
      · exact reported
    · exact reported
  · exact reported

theorem wp_waitOnSignal (fuel : Nat) {w : World κ} (inv : PhaseInvariant view w)
    (clear : ResumesClear P view fuel w) :
    wp (waitOnSignal P fuel) (fun r t => Reported view r t)
      (fun _ t => PhaseInvariant view t) w := by
  induction fuel generalizing w with
  | zero => exact inv
  | succ fuel ih =>
    have arrival := wp_iff.1 (wp_arrive laws inv)
    rw [waitOnSignal_succ, wp_bind]
    refine wp_iff.2 ⟨fun reason t run => ?_, arrival.2⟩
    have received := arrival.1 reason t run
    exact wp_respond laws ⟨received.invariant, received.classified⟩
      (fun filtered => (clear reason t run filtered).1)
      fun filtered u resumed kept => ih kept ((clear reason t run filtered).2 u resumed)

/-- After a single step there is no syscall stop to resume from. -/
theorem resumesClear_of_step (fuel : Nat) {w : World κ} (inv : PhaseInvariant view w)
    (stepping : (∃ inCall, (view w.kernel).phase = .running .singleStep inCall) ∨
      (view w.kernel).phase = .dead) : ResumesClear P view fuel w := by
  cases fuel with
  | zero => trivial
  | succ fuel =>
    intro reason t run filtered
    exfalso
    have received := (wp_iff.1 (wp_arrive laws inv)).1 reason t run
    obtain ⟨_, info, syscall, _⟩ := filtered
    have stopped : reason.reason = .stopped := by
      by_contra ended
      rw [received.classified.ended ended] at syscall
      contradiction
    obtain ⟨request, inCall, running, follows⟩ := received.follows stopped
    cases stepping with
    | inr dead => simp [dead] at running
    | inl step =>
      obtain ⟨b, step⟩ := step
      rw [step, Phase.running.injEq] at running
      obtain ⟨rfl, rfl⟩ := running
      have plain := received.classified.stopped stopped
      rw [follows_singleStep follows, syscall] at plain
      contradiction

theorem wp_stepInstruction (fuel : Nat) {w : World κ} (inv : PhaseInvariant view w) :
    wp (stepInstruction P fuel) (fun r t => Reported view r t)
      (fun _ t => PhaseInvariant view t) w := by
  have blind : StoppointBlind P (PhaseInvariant view) := phaseInvariant_property.blind laws
  unfold stepInstruction
  rw [wp_bind, wp_of_ok (getPc_eq w), wp_bind]
  refine (preserves_enabledSiteAt _ w inv).mono (fun site t inv => ?_) fun _ _ h => h
  rw [wp_bind]
  refine (preserves_forM blind.preserves_siteDisable t inv).mono (fun _ u inv => ?_)
    fun _ _ h => h
  rw [wp_bind]
  refine (wp_request laws phaseInvariant_property .singleStep inv).mono (fun _ v stepped => ?_)
    fun _ _ h => h
  obtain ⟨k, rfl, phase⟩ := stepped
  have stepping : (∃ inCall, (view k).phase = .running .singleStep inCall) ∨
      (view k).phase = .dead := by
    cases phase with
    | inl running =>
      obtain ⟨b, _, running⟩ := running
      exact .inl ⟨b, running⟩
    | inr dead => exact .inr dead
  have under : PhaseInvariant view { u with kernel := k } := by
    refine ⟨inv.attached, ?_⟩
    cases stepping with
    | inl running =>
      obtain ⟨b, running⟩ := running
      simp [InPhase, running]
    | inr dead => exact inPhase_of_dead dead
  rw [wp_bind]
  refine (wp_waitOnSignal laws fuel under (resumesClear_of_step laws fuel under stepping)).mono
    (fun reason x reported => ?_) fun _ _ h => h
  rw [wp_bind]
  exact (preserves_forM ((reported_property reason).blind laws).preserves_siteEnable x
    reported).mono (fun _ _ h => h) fun _ _ h => h.invariant

end Waiting

/-! ### Sessions -/

/-- The operation resumes the inferior in clear states only. -/
def SessionOp.Clear (P : Platform κ) (view : κ → SyscallView) : SessionOp → World κ → Prop
  | .resume, w => ClearToResume P view w
  | .waitOnSignal fuel, w => ResumesClear P view fuel w
  | _, _ => True

theorem wp_session (laws : SyscallStopLaws P.toKernel view) (op : SessionOp) {w : World κ}
    (inv : PhaseInvariant view w) (clear : op.Clear P view w) :
    wp (op.perform P) (fun _ t => PhaseInvariant view t) (fun _ t => PhaseInvariant view t) w := by
  cases op with
  | stoppoint op => exact (phaseInvariant_property.blind laws).preserves_perform op w inv
  | resume => exact wp_resume laws inv clear
  | waitOnSignal fuel =>
    unfold SessionOp.perform
    rw [wp_bind]
    exact (wp_waitOnSignal laws fuel inv clear).mono (fun _ _ h => h.invariant) fun _ _ h => h
  | stepInstruction fuel =>
    unfold SessionOp.perform
    rw [wp_bind]
    exact (wp_stepInstruction laws fuel inv).mono (fun _ _ h => h.invariant) fun _ _ h => h
  | setSyscallCatchPolicy policy => exact ⟨inv.attached, inv.inPhase⟩

/-- In every session whose resumptions are clear, each report of a syscall stop says entry
exactly when the kernel's stop was an entry stop. -/
theorem syscallStops_of_run (laws : SyscallStopLaws P.toKernel view) (ops : List SessionOp)
    (w w' : World κ) (attached : w.isAttached = true)
    (outside : (view w.kernel).phase = .stopped false) (idle : w.expectingSyscallExit = false)
    (clear : Along (sessionStep P) (SessionOp.Clear P view) ops w)
    (reach : run (sessionStep P) ops w = some w') :
    (∀ fuel reason t, ResumesClear P view fuel w' → waitOnSignal P fuel w' = .ok reason t →
      Classified (view t.kernel).lastStop reason) ∧
    ∀ fuel reason t, stepInstruction P fuel w' = .ok reason t →
      Classified (view t.kernel).lastStop reason := by
  have start : PhaseInvariant view w := ⟨attached, by simp [InPhase, outside, idle]⟩
  have inv : PhaseInvariant view w' := by
    refine run_invariant_along (fun op s t kept admitted alive => ?_) start clear reach
    cases survive_wp (wp_session laws op kept admitted) alive with
    | inl returned =>
      obtain ⟨_, kept⟩ := returned
      exact kept
    | inr raised =>
      obtain ⟨_, _, kept⟩ := raised
      exact kept
  constructor
  · intro fuel reason t clear run
    exact ((wp_iff.1 (wp_waitOnSignal laws fuel inv clear)).1 reason t run).classified
  · intro fuel reason t run
    exact ((wp_iff.1 (wp_stepInstruction laws fuel inv)).1 reason t run).classified

section Decisions

instance IsFiltered.decidable (policy : SyscallCatchPolicy) (reason : StopReason) :
    Decidable (IsFiltered policy reason) :=
  match h : reason.syscallInfo with
  | none => .isFalse (by simp [IsFiltered, h])
  | some info => decidable_of_iff
      (policy.mode = .some ∧ (info.id.toNat : Int) ∉ policy.toCatch) (by simp [IsFiltered, h])

instance ClearToResume.decidable (w : World κ) : Decidable (ClearToResume P view w) :=
  have returns : Decidable (∃ t, resume P w = .ok () t) :=
    match resume P w with
    | .ok _ t => .isTrue ⟨t, rfl⟩
    | .error _ _ => .isFalse (by simp)
  inferInstanceAs (Decidable (_ → _ ∨ (_ ∧ _)))

instance ResumesClear.decidable : ∀ fuel (w : World κ), Decidable (ResumesClear P view fuel w)
  | 0, _ => .isTrue trivial
  | fuel + 1, w =>
    match h : arrive P w with
    | .error _ _ => .isTrue (by simp [ResumesClear, h])
    | .ok reason t =>
      have later : Decidable (∀ u, resume P t = .ok () u → ResumesClear P view fuel u) :=
        match resume P t with
        | .error _ _ => .isTrue (by simp)
        | .ok _ u => @decidable_of_iff _ (ResumesClear P view fuel u) (by simp)
            (ResumesClear.decidable fuel u)
      @decidable_of_iff _ (IsFiltered t.syscallCatchPolicy reason →
        ClearToResume P view t ∧ ∀ u, resume P t = .ok () u → ResumesClear P view fuel u)
        (by simp [ResumesClear, h]) inferInstance

instance SessionOp.Clear.decidable : ∀ (op : SessionOp) (w : World κ), Decidable (op.Clear P view w)
  | .stoppoint _, _ => .isTrue trivial
  | .resume, w => ClearToResume.decidable w
  | .waitOnSignal fuel, w => ResumesClear.decidable fuel w
  | .stepInstruction _, _ => .isTrue trivial
  | .setSyscallCatchPolicy _, _ => .isTrue trivial

end Decisions

section Runs

/-- Registers at a stop whose pc is given. -/
def stopAt (signal : Byte) (pc : VirtAddr) : KernelStop :=
  ⟨.stopped signal, store (fun _ => 0) 128 8 pc, trapTrace⟩

/-- The kind of the stop that is waited for after a run, and what the report says of it. -/
def lastReport (ops : List SessionOp) (stops : List KernelStop) : Option (StopKind × Option Bool) :=
  (run (sessionStep phasedPlatform) ops (phasedWorld stops)).bind fun w =>
    match waitOnSignal phasedPlatform 1 w with
    | .ok reason t => some (t.kernel.lastStop, reason.syscallInfo.map (·.entry))
    | .error _ _ => none

theorem lastReport_eq {ops : List SessionOp} {stops : List KernelStop} {kind : StopKind}
    {entry : Option Bool} (h : lastReport ops stops = some (kind, entry)) :
    ∃ w' reason t, run (sessionStep phasedPlatform) ops (phasedWorld stops) = some w' ∧
      waitOnSignal phasedPlatform 1 w' = .ok reason t ∧
      t.kernel.lastStop = kind ∧ reason.syscallInfo.map (·.entry) = entry := by
  unfold lastReport at h
  rw [Option.bind_eq_some_iff] at h
  obtain ⟨w', reach, report⟩ := h
  cases waited : waitOnSignal phasedPlatform 1 w' with
  | error e t => simp [waited] at report
  | ok reason t =>
    simp only [waited, Option.some.injEq, Prod.mk.injEq] at report
    exact ⟨w', reason, t, reach, waited, report⟩

/-- A system call traced from entry to exit, a step from the entry of the next one onto an
enabled site, and the step off that site. -/
def callsApart : List SessionOp :=
  [.stoppoint (.createSite 0x1000 false false), .stoppoint (.enableSite 0), .resume,
    .waitOnSignal 1, .resume, .waitOnSignal 1, .resume, .waitOnSignal 1, .stepInstruction 1,
    .resume]

def callsApartStops : List KernelStop :=
  [stopAt syscallTrap 0x2000, stopAt syscallTrap 0x2000, stopAt syscallTrap 0x3000,
    stopAt sigtrap 0x1000, stopAt sigtrap 0x1001, stopAt syscallTrap 0x4000]

theorem syscallStops_of_run_callsApart :
    ∃ w' reason t,
      run (sessionStep phasedPlatform) callsApart (phasedWorld callsApartStops) = some w' ∧
      waitOnSignal phasedPlatform 1 w' = .ok reason t ∧
      t.kernel.lastStop = .entry ∧ Classified t.kernel.lastStop reason := by
  have report : lastReport callsApart callsApartStops = some (.entry, some true) := by
    decide +kernel
  obtain ⟨w', reason, t, reach, waited, entry, _⟩ := lastReport_eq report
  have clear : Along (sessionStep phasedPlatform) (SessionOp.Clear phasedPlatform Phased.view)
      (callsApart ++ [.waitOnSignal 1]) (phasedWorld callsApartStops) := by
    decide +kernel
  rw [along_concat reach] at clear
  have classified := (syscallStops_of_run Phased.syscallStopLaws callsApart _ w' rfl rfl rfl
    clear.1 reach).1 1 reason t clear.2 waited
  exact ⟨w', reason, t, reach, waited, entry, classified⟩

/-- A breakpoint site right after the instruction that makes the call. -/
def siteAtEntry : List SessionOp :=
  [.stoppoint (.createSite 0x1000 false false), .stoppoint (.enableSite 0), .resume,
    .waitOnSignal 1, .resume]

/-- An entry stop at the site, the stop of the step off it, and the next entry stop. -/
def siteAtEntryStops : List KernelStop :=
  [stopAt syscallTrap 0x1000, stopAt sigtrap 0x1000, stopAt syscallTrap 0x2000]

/-- The second entry stop is reported as an exit. -/
theorem not_classified_over_siteAtEntry :
    SyscallStopLaws phasedPlatform.toKernel Phased.view ∧
    ∃ w' reason t, run (sessionStep phasedPlatform) siteAtEntry (phasedWorld siteAtEntryStops) =
        some w' ∧ waitOnSignal phasedPlatform 1 w' = .ok reason t ∧
      t.kernel.lastStop = .entry ∧ reason.syscallInfo.map (·.entry) = some false :=
  ⟨Phased.syscallStopLaws, lastReport_eq (by decide +kernel)⟩

end Runs

end SdbDebugger
