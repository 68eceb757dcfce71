import SdbDebugger.StopArrival
import SdbDebugger.StoppointFrames
import SdbDebugger.KernelLaws

/-! `expecting_syscall_exit_` follows the phase of the inferior, which the kernel does
not show: entry and exit stops look alike. What breaks the agreement is the step off a
breakpoint site inside `resume`, whose stop is waited for but not interpreted. -/

namespace SdbDebugger
open EffectRules ByteSpace StoppointCollection

variable {κ : Type} {P : Platform κ} {view : κ → SyscallView}

/-- The flag agrees with the phase wherever a syscall stop may come next. -/
def InPhase (view : κ → SyscallView) (w : World κ) : Prop :=
  match (view w.kernel).phase with
  | .stopped inCall => w.expectingSyscallExit = inCall
  | .running .syscall inCall => w.expectingSyscallExit = inCall
  | _ => True

structure PhaseInvariant (view : κ → SyscallView) (w : World κ) : Prop where
  attached : w.isAttached = true
  inPhase : InPhase view w

/-- What a report has to say of a stop: whether it is an entry, an exit, or neither. -/
def StopKind.entry? : StopKind → Option Bool
  | .entry => some true
  | .exit => some false
  | .other => none

/-- The report tells the kinds of stop apart. -/
structure Classified (kind : StopKind) (reason : StopReason) : Prop where
  stopped : reason.reason = .stopped → reason.syscallInfo.map (·.entry) = kind.entry?
  ended : reason.reason ≠ .stopped → reason.syscallInfo = none

/-! ### What does not resume -/

/-- A property that looks at nothing a stoppoint operation changes, and that a death of
the inferior does not falsify. -/
def PhaseProperty (view : κ → SyscallView) (Q : World κ → Prop) : Prop :=
  ∀ w w' : World κ, w'.isAttached = w.isAttached →
    w'.expectingSyscallExit = w.expectingSyscallExit →
    w'.syscallCatchPolicy = w.syscallCatchPolicy →
    (view w.kernel).Settles (view w'.kernel) → Q w → Q w'

theorem SyscallView.Settles.refl (v : SyscallView) : v.Settles v := .inl rfl

section Properties

variable {Q : World κ → Prop}

theorem PhaseProperty.blind (laws : SyscallStopLaws P.toKernel view) (q : PhaseProperty view Q) :
    StoppointBlind P Q where
  data w _ h := q w _ rfl rfl rfl (.refl _) h
  pokeUser w off v h := q w _ rfl rfl rfl (laws.pokeUser off v w.kernel) h
  setFpRegs w fprs h := q w _ rfl rfl rfl (laws.setFpRegs fprs w.kernel) h
  sites w _ h := q w _ rfl rfl rfl (.refl _) h
  watchpoints w _ h := q w _ rfl rfl rfl (.refl _) h
  siteId w _ h := q w _ rfl rfl rfl (.refl _) h
  watchpointId w _ h := q w _ rfl rfl rfl (.refl _) h
  peekData w a h := q w _ rfl rfl rfl (laws.peekData a w.kernel) h
  pokeData w a v h := q w _ rfl rfl rfl (laws.pokeData a v w.kernel) h
  processVmReadv w iovs h := q w _ rfl rfl rfl (laws.processVmReadv iovs w.kernel) h

theorem inPhase_of_dead {w : World κ} (dead : (view w.kernel).phase = .dead) : InPhase view w := by
  simp [InPhase, dead]

theorem phaseInvariant_property : PhaseProperty view (PhaseInvariant view) := by
  intro w w' attached expecting _ settles inv
  refine ⟨attached.trans inv.attached, ?_⟩
  cases settles with
  | inl same =>
    have agree := inv.inPhase
    unfold InPhase at agree ⊢
    rw [same, expecting]
    exact agree
  | inr dead => exact inPhase_of_dead (by rw [dead])

theorem phaseAt_property (kind : StopKind) :
    PhaseProperty view fun w => PhaseInvariant view w ∧ (view w.kernel).lastStop = kind := by
  intro w w' attached expecting policy settles h
  refine ⟨phaseInvariant_property w w' attached expecting policy settles h.1, ?_⟩
  rw [← h.2]
  cases settles with
  | inl same => rw [same]
  | inr dead => rw [dead]

end Properties

/-! ### The arrival of a stop -/

/-- The inferior is at a stop of the given kind, or has been killed there. -/
structure AtStop (view : κ → SyscallView) (inCall expecting : Bool) (kind : StopKind)
    (t : World κ) : Prop where
  attached : t.isAttached = true
  flag : t.expectingSyscallExit = expecting
  lastStop : (view t.kernel).lastStop = kind
  phase : (view t.kernel).phase = .stopped inCall ∨ (view t.kernel).phase = .dead

structure Killed (view : κ → SyscallView) (t : World κ) : Prop where
  attached : t.isAttached = true
  phase : (view t.kernel).phase = .dead

theorem Killed.invariant {t : World κ} (killed : Killed view t) : PhaseInvariant view t :=
  ⟨killed.attached, inPhase_of_dead killed.phase⟩

section Arrival

variable {inCall expecting : Bool} {kind : StopKind}

/-- Reading a stopped inferior fails only when it has been killed. -/
theorem keeps_read {α : Type} {what : String} {op : κ → Except Errno α × κ}
    (settles : ∀ k, (view k).Settles (view (op k).2))
    (refused : ∀ k e k' b, op k = (.error e, k') → (view k).phase = .stopped b →
      (view k').phase = .dead) :
    Keeps (AtStop view inCall expecting kind) (Killed view) (orSendErrno what op) := by
  intro w here
  have settled := settles w.kernel
  rw [wp_orSendErrno]
  constructor
  · intro a k run
    rw [run] at settled
    cases settled with
    | inl same =>
      exact ⟨here.attached, here.flag, by rw [same, here.lastStop], by rw [same]; exact here.phase⟩
    | inr dead =>
      exact ⟨here.attached, here.flag, by rw [dead, here.lastStop], .inr (by rw [dead])⟩
  · intro e k run
    rw [run] at settled
    refine ⟨here.attached, ?_⟩
    cases here.phase with
    | inl stopped => exact refused _ e k _ run stopped
    | inr gone =>
      cases settled with
      | inl same => rw [same, gone]
      | inr dead => rw [dead]

theorem keeps_readStop (laws : SyscallStopLaws P.toKernel view) :
    Keeps (AtStop view inCall expecting kind) (Killed view) (Registers.readAllRegisters P) :=
  keeps_readAllRegisters (fun _ _ h => ⟨h.attached, h.flag, h.lastStop, h.phase⟩)
    (keeps_read laws.getRegs laws.getRegs_refused)
    (keeps_read laws.getFpRegs laws.getFpRegs_refused)
    fun i hi => keeps_read (laws.peekUser _) (laws.peekUser_refused i hi)

theorem syscallInformation_toggles (w : World κ) :
    ∃ info : SyscallInformation, info.entry = !w.expectingSyscallExit ∧
      syscallInformation w = .ok info
        { w with expectingSyscallExit := !w.expectingSyscallExit } := by
  unfold syscallInformation
  change ∃ info : SyscallInformation, _ ∧
    (if w.expectingSyscallExit then _ else _ : Sdb κ SyscallInformation) w = _
  cases expecting : w.expectingSyscallExit with
  | true =>
    rw [if_pos rfl, bind_ok (Registers.readByIdAsU64_eq wholeWord_orig_rax w),
      bind_ok (Registers.readByIdAsU64_eq wholeWord_rax w)]
    exact ⟨_, rfl, rfl⟩
  | false =>
    rw [if_neg Bool.false_ne_true, bind_ok (Registers.readByIdAsU64_eq wholeWord_orig_rax w),
      bind_ok (readArgs_eq wholeWord_args w)]
    exact ⟨_, rfl, rfl⟩

/-- The report of a stop that follows a request made in phase. -/
theorem wp_augmentStopReason (laws : SyscallStopLaws P.toKernel view) {request : ResumeRequest}
    (agrees : request = .syscall → expecting = inCall) (follows : kind.Follows request inCall)
    {signal : Byte} (marked : signal = syscallTrap ↔ kind ≠ .other) {w : World κ}
    (here : AtStop view (decide (kind = .entry)) expecting kind w) :
    wp (augmentStopReason P ⟨.stopped, signal, none, none⟩)
      (fun reason t => reason.reason = .stopped ∧ PhaseInvariant view t ∧
        (view t.kernel).lastStop = kind ∧ Classified kind reason)
      (fun _ t => PhaseInvariant view t) w := by
  unfold augmentStopReason
  rw [wp_bind]
  refine (keeps_read laws.getSigInfo laws.getSigInfo_refused w here).mono
    (fun siCode t here => ?_) fun _ _ killed => killed.invariant
  have inPhase : ∀ b, b = decide (kind = .entry) →
      PhaseInvariant view { t with expectingSyscallExit := b } := by
    intro b same
    refine ⟨here.attached, ?_⟩
    cases here.phase with
    | inl stopped => simp [InPhase, stopped, same]
    | inr dead => exact inPhase_of_dead dead
  rw [wp_ite]
  split
  · next trap =>
    obtain ⟨info, entry, run⟩ := syscallInformation_toggles t
    rw [wp_bind, wp_of_ok run, wp_pure]
    have toggled : (!expecting) = decide (kind = .entry) ∧ some (!expecting) = kind.entry? := by
      cases follows with
      | entry => simp [agrees rfl, StopKind.entry?]
      | exit => simp [agrees rfl, StopKind.entry?]
      | other => exact absurd rfl (marked.1 trap)
    rw [here.flag] at entry ⊢
    exact ⟨rfl, inPhase _ toggled.1, here.lastStop,
      ⟨fun _ => by rw [← toggled.2, ← entry]; rfl, fun ended => absurd rfl ended⟩⟩
  · next plain =>
    have other : kind = .other := by
      by_contra call
      exact plain (marked.2 call)
    exact ⟨rfl, inPhase false (by simp [other]), here.lastStop,
      ⟨fun _ => by rw [other]; rfl, fun ended => absurd rfl ended⟩⟩

/-- What is known after a stop has been read in. -/
structure Received (view : κ → SyscallView) (phase : Phase) (reason : StopReason)
    (t : World κ) : Prop where
  invariant : PhaseInvariant view t
  classified : Classified (view t.kernel).lastStop reason
  follows : reason.reason = .stopped →
    ∃ request inCall, phase = .running request inCall ∧
      (view t.kernel).lastStop.Follows request inCall

/-- The end of the inferior is no stop, and comes without a system call. -/
theorem received_of_dead {phase : Phase} {reason : StopReason} {t : World κ}
    (attached : t.isAttached = true) (dead : (view t.kernel).phase = .dead)
    (ended : reason.reason ≠ .stopped) (plain : reason.syscallInfo = none) :
    Received view phase reason t where
  invariant := ⟨attached, inPhase_of_dead dead⟩
  classified := ⟨fun stopped => absurd stopped ended, fun _ => plain⟩
  follows stopped := absurd stopped ended

theorem wp_arrive (laws : SyscallStopLaws P.toKernel view) {w : World κ}
    (inv : PhaseInvariant view w) :
    wp (arrive P) (fun reason t => Received view (view w.kernel).phase reason t)
      (fun _ t => PhaseInvariant view t) w := by
  unfold arrive
  rw [wp_bind]
  refine wp_waitpid (fun status k reported => ?_) fun e r k failed none => ?_
  · simp only [wp_bind, wp_modify, wp_get]
    rw [wp_ite]
    cases status with
    | stopped signal =>
      obtain ⟨request, inCall, running, follows, marked, phase⟩ :=
        laws.waitpid_stopped _ signal k reported
      rw [if_pos (by rw [inv.attached]; rfl), wp_bind]
      have agrees : request = .syscall → w.expectingSyscallExit = inCall := by
        rintro rfl
        have agree := inv.inPhase
        rw [InPhase, running] at agree
        exact agree
      have here : AtStop view (decide ((view k).lastStop = .entry)) w.expectingSyscallExit
          (view k).lastStop { w with state := .stopped, kernel := k } :=
        ⟨inv.attached, rfl, rfl, phase⟩
      refine (keeps_readStop laws _ here).mono (fun _ t here => ?_)
        fun _ _ killed => killed.invariant
      refine (wp_augmentStopReason laws agrees follows marked here).mono
        (fun reason u done => ?_) fun _ _ kept => kept
      obtain ⟨_, kept, same, classified⟩ := done
      exact ⟨kept, by rw [same]; exact classified,
        fun _ => ⟨request, inCall, running, by rw [same]; exact follows⟩⟩
    | exited status =>
      rw [if_neg (by simp [StopReason.ofStatus]), wp_pure]
      exact received_of_dead inv.attached (laws.waitpid_ended _ _ k reported (by simp))
        (by simp [StopReason.ofStatus]) rfl
    | signaled signal =>
      rw [if_neg (by simp [StopReason.ofStatus]), wp_pure]
      exact received_of_dead inv.attached (laws.waitpid_ended _ _ k reported (by simp))
        (by simp [StopReason.ofStatus]) rfl
  · exact phaseInvariant_property w _ rfl rfl rfl (laws.waitpid_failed _ r k failed none) inv

end Arrival

/-! ### Resuming -/

def cachedPc (w : World κ) : VirtAddr := load w.data 128 8

/-- Nothing of the step off a breakpoint site can disturb the phase: the inferior is not
at an entry stop, or no enabled site is at the pc, or syscalls are not traced and the
resumption succeeds. -/
def ClearToResume (P : Platform κ) (view : κ → SyscallView) (w : World κ) : Prop :=
  (view w.kernel).phase = .stopped true →
    enabledStoppointAtAddress w.breakpointSites (cachedPc w) = .ok false ∨
      (w.syscallCatchPolicy.mode = .none ∧ ∃ t, resume P w = .ok () t)

structure OutsideEntry (view : κ → SyscallView) (w : World κ) : Prop where
  invariant : PhaseInvariant view w
  outside : (view w.kernel).phase ≠ .stopped true

section Resuming

theorem outsideEntry_property : PhaseProperty view (OutsideEntry view) := by
  intro w w' attached expecting policy settles h
  refine ⟨phaseInvariant_property w w' attached expecting policy settles h.invariant, ?_⟩
  cases settles with
  | inl same => rw [same]; exact h.outside
  | inr dead => simp [dead]

variable (laws : SyscallStopLaws P.toKernel view)
include laws

theorem wp_request {Q : World κ → Prop} (q : PhaseProperty view Q) {what : String}
    (request : ResumeRequest) {w : World κ} (h : Q w) :
    wp (orSendErrno what (P.resume request))
      (fun _ t => ∃ k, t = { w with kernel := k } ∧
        ((∃ inCall, (view w.kernel).phase = .stopped inCall ∧
          (view k).phase = .running request inCall) ∨ (view k).phase = .dead))
      (fun _ t => Q t) w := by
  rw [wp_orSendErrno]
  constructor
  · intro _ k accepted
    exact ⟨k, rfl, laws.resume_accepted request _ k accepted⟩
  · intro e k refused
    exact q w _ rfl rfl rfl (laws.resume_refused request _ e k refused) h

omit laws in
theorem follows_singleStep {kind : StopKind} {inCall : Bool}
    (follows : kind.Follows .singleStep inCall) : kind = .other := by
  cases follows with
  | other => rfl

/-- A step off a breakpoint site that does not begin at an entry stop. -/
theorem preserves_stepOver (i : Nat) : Preserves (OutsideEntry view) (stepOver P i) := by
  have blind := outsideEntry_property.blind laws
  refine (blind.preserves_siteDisable i).bind fun _ => ?_
  intro w h
  rw [wp_bind]
  refine (wp_request laws outsideEntry_property .singleStep h).mono (fun _ t stepping => ?_)
    fun _ _ kept => kept
  obtain ⟨k, rfl, phase⟩ := stepping
  have under : OutsideEntry view { w with kernel := k } := by
    cases phase with
    | inl running =>
      obtain ⟨inCall, _, running⟩ := running
      exact ⟨⟨h.invariant.attached, by simp [InPhase, running]⟩, by simp [running]⟩
    | inr dead => exact ⟨⟨h.invariant.attached, inPhase_of_dead dead⟩, by simp [dead]⟩
  rw [wp_bind]
  refine wp_waitpid (fun status k' reported => ?_) fun e r k' failed none => ?_
  · refine blind.preserves_siteEnable i _ ?_
    have ended : (view k').phase = .dead → OutsideEntry view { w with kernel := k' } :=
      fun dead => ⟨⟨h.invariant.attached, inPhase_of_dead dead⟩, by simp [dead]⟩
    cases status with
    | exited status => exact ended (laws.waitpid_ended _ _ k' reported (by simp))
    | signaled signal => exact ended (laws.waitpid_ended _ _ k' reported (by simp))
    | stopped signal =>
      obtain ⟨request, inCall, running, follows, _, stopped⟩ :=
        laws.waitpid_stopped _ signal k' reported
      cases phase with
      | inr dead => simp [dead] at running
      | inl stepped =>
        obtain ⟨b, before, stepping⟩ := stepped
        rw [stepping, Phase.running.injEq] at running
        obtain ⟨rfl, rfl⟩ := running
        -- the entry stop is excluded, so the flag is clear and stays right
        have clear : w.expectingSyscallExit = false := by
          have agree := h.invariant.inPhase
          rw [InPhase, before] at agree
          rw [agree, ← Bool.not_eq_true]
          rintro rfl
          exact h.outside before
        rw [follows_singleStep follows] at stopped
        cases stopped with
        | inl outside =>
          exact ⟨⟨h.invariant.attached, by simp [InPhase, outside, clear]⟩, by simp [outside]⟩
        | inr dead => exact ended dead
  · exact outsideEntry_property { w with kernel := k } _ rfl rfl rfl
      (laws.waitpid_failed _ r k' failed none) under

/-- The last request of `resume` puts the inferior under way in phase. -/
theorem preserves_underWay :
    Preserves (PhaseInvariant view) (do
      let w ← get
      orSendErrno "could not resume" (P.resume (resumeRequest w.syscallCatchPolicy))
      modify fun w => { w with state := .running } : Sdb κ Unit) := by
  intro w inv
  rw [wp_bind, wp_get, wp_bind]
  refine (wp_request laws phaseInvariant_property _ inv).mono (fun _ t resumed => ?_)
    fun _ _ kept => kept
  obtain ⟨k, rfl, phase⟩ := resumed
  rw [wp_modify]
  refine ⟨inv.attached, ?_⟩
  cases phase with
  | inr dead => exact inPhase_of_dead dead
  | inl running =>
    obtain ⟨inCall, stopped, running⟩ := running
    have agree := inv.inPhase
    rw [InPhase, stopped] at agree
    unfold InPhase
    rw [running]
    cases resumeRequest w.syscallCatchPolicy with
    | syscall => exact agree
    | cont => trivial
    | singleStep => trivial

theorem wp_resume_outside {w : World κ} (h : OutsideEntry view w) :
    wp (resume P) (fun _ t => PhaseInvariant view t) (fun _ t => PhaseInvariant view t) w := by
  unfold resume
  rw [wp_bind, wp_of_ok (getPc_eq w), wp_bind]
  refine (preserves_enabledSiteAt _ w h).mono (fun site t h => ?_) fun _ _ h => h.invariant
  rw [wp_bind]
  refine (preserves_forM (preserves_stepOver laws) t h).mono (fun _ u h => ?_)
    fun _ _ h => h.invariant
  exact preserves_underWay laws u h.invariant

/-- Under a policy that traces no syscalls, what the flag says does not matter. -/
theorem wp_resume_untraced {w : World κ} (attached : w.isAttached = true)
    (mode : w.syscallCatchPolicy.mode = .none) :
    wp (resume P) (fun _ t => PhaseInvariant view t) (fun _ _ => True) w := by
  let Untraced : World κ → Prop := fun t => t.isAttached = true ∧ t.syscallCatchPolicy.mode = .none
  have blind : StoppointBlind P Untraced :=
    PhaseProperty.blind laws fun w w' attached _ policy _ h =>
      ⟨attached.trans h.1, by rw [policy, h.2]⟩
  have stepped : ∀ i, Preserves Untraced (stepOver P i) := fun i =>
    (blind.preserves_siteDisable i).bind fun _ =>
    (preserves_orSendErrno fun _ h => h).bind fun _ =>
    Preserves.bind (fun _ h => wp_waitpid (fun _ _ _ => h) fun _ _ _ _ _ => h) fun _ =>
    blind.preserves_siteEnable i
  unfold resume
  rw [wp_bind, wp_of_ok (getPc_eq w), wp_bind]
  have start : Untraced w := ⟨attached, mode⟩
  refine (preserves_enabledSiteAt (I := Untraced) _ w start).mono (fun site t h => ?_)
    fun _ _ _ => trivial
  rw [wp_bind]
  refine (preserves_forM stepped t h).mono (fun _ u h => ?_) fun _ _ _ => trivial
  have request : resumeRequest u.syscallCatchPolicy = .cont := by
    rw [resumeRequest, h.2]
  rw [wp_bind, wp_get, request, wp_bind, wp_orSendErrno]
  refine ⟨fun _ k accepted => ⟨h.1, ?_⟩, fun _ _ _ => trivial⟩
  cases laws.resume_accepted .cont _ k accepted with
  | inl running =>
    obtain ⟨inCall, _, running⟩ := running
    simp [InPhase, running]
  | inr dead => exact inPhase_of_dead dead

theorem wp_resume {w : World κ} (inv : PhaseInvariant view w) (clear : ClearToResume P view w) :
    wp (resume P) (fun _ t => PhaseInvariant view t) (fun _ t => PhaseInvariant view t) w := by
  by_cases entry : (view w.kernel).phase = .stopped true
  · cases clear entry with
    | inl noSite =>
      unfold cachedPc at noSite
      unfold resume
      rw [wp_bind, wp_of_ok (getPc_eq w), wp_bind, wp_of_ok (enabledSiteAt_of_disabled noSite)]
      exact preserves_underWay laws w inv
    | inr untraced =>
      obtain ⟨mode, t, run⟩ := untraced
      have spec := wp_resume_untraced laws inv.attached mode
      rw [wp_of_ok run] at spec ⊢
      exact spec
  · exact wp_resume_outside laws ⟨inv, entry⟩

end Resuming

end SdbDebugger
