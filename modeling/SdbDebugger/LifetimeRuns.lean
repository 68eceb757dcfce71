import SdbDebugger.HostedKernel
import SdbDebugger.Lifetime
import SdbDebugger.StopArrival
import SdbDebugger.StoppointFrames

/-! Whole sessions: from `process::attach` or `process::launch` over any use of the process to
its destructor. `state_` follows the inferior, so that the destructor leaves it as it should. -/

namespace SdbDebugger
open EffectRules ActionRuns

variable {κ : Type} {H : Host κ} {view : κ → Tracee} {c : Bool} {n : Nat} {idle : Prop}

abbrev Unreturned (e : Fault) : Prop := e.isFatal = true

/-- A property of the inferior's life and `state_` that its being killed does not falsify. -/
def LifeProperty (view : κ → Tracee) (Q : World κ → Prop) : Prop :=
  ∀ w w' : World κ, w'.isAttached = w.isAttached → w'.state = w.state →
    (view w.kernel).Settles (view w'.kernel) → Q w → Q w'

theorem ProcState.Allows.killed {s : ProcState} {v : Tracee} (allowed : s.Allows v.life)
    (alive : v.Alive) : s.Allows .zombie := by
  have ended : v.life = .gone → False := by
    intro gone
    rcases alive with h | h
    · cases gone.symm.trans h
    · cases gone.symm.trans h
  cases s with
  | running => exact .inr rfl
  | stopped => exact fun running => by cases running
  | exited => exact absurd allowed ended
  | terminated => exact absurd allowed ended

theorem tracked_property : LifeProperty view (Tracked view c n idle) := by
  intro w w' attached state settles tracked
  refine ⟨attached.trans tracked.attached, ?_, settles.child.trans tracked.child,
    settles.strays.trans tracked.strays, ?_, state ▸ tracked.rests⟩
  · exact settles.keeps (R := fun u => u.traced = true) tracked.traced fun _ => tracked.traced
  · rw [state]
    exact settles.keeps (R := fun u => w.state.Allows u.life) tracked.follows tracked.follows.killed

/-- The inferior can be waited for; an end that has been reported is not forgotten. -/
structure Awaitable (view : κ → Tracee) (c : Bool) (n : Nat) (w : World κ) : Prop where
  attached : w.isAttached = true
  traced : (view w.kernel).traced = true
  child : (view w.kernel).isChild = c
  strays : (view w.kernel).strays = n
  known : (view w.kernel).life = .gone → w.state ≠ .running

theorem Tracked.awaitable {w : World κ} (tracked : Tracked view c n idle w) : Awaitable view c n w where
  attached := tracked.attached
  traced := tracked.traced
  child := tracked.child
  strays := tracked.strays
  known gone running := by
    have follows := tracked.follows
    rw [running, gone] at follows
    rcases follows with h | h
    · cases h
    · cases h

theorem survives_forM {fatal : Fault → Prop} {found : Option Nat} {f : Nat → Sdb κ Unit}
    {I : World κ → Prop} (h : ∀ i, Survives fatal I (f i)) : Survives fatal I (found.forM f) := by
  cases found with
  | none => exact .of_preserves (Preserves.pure _)
  | some i => exact h i

theorem ofStatus_ne_running (status : WaitStatus) :
    (StopReason.ofStatus status).reason ≠ .running := by
  cases status <;> simp [StopReason.ofStatus]

theorem Tracked.forget {w : World κ} (tracked : Tracked view c n idle w) :
    Tracked view c n False w :=
  { tracked with rests := False.elim }

section Laws

variable (laws : HostLaws H view)
include laws

theorem LifeProperty.blind {Q : World κ → Prop} (q : LifeProperty view Q) :
    StoppointBlind H.toPlatform Q where
  data w _ h := q w _ rfl rfl (.refl _) h
  pokeUser w off v h := q w _ rfl rfl (laws.pokeUser off v w.kernel) h
  setFpRegs w fprs h := q w _ rfl rfl (laws.setFpRegs fprs w.kernel) h
  sites w _ h := q w _ rfl rfl (.refl _) h
  watchpoints w _ h := q w _ rfl rfl (.refl _) h
  siteId w _ h := q w _ rfl rfl (.refl _) h
  watchpointId w _ h := q w _ rfl rfl (.refl _) h
  peekData w a h := q w _ rfl rfl (laws.peekData a w.kernel) h
  pokeData w a v h := q w _ rfl rfl (laws.pokeData a v w.kernel) h
  processVmReadv w iovs h := q w _ rfl rfl (laws.processVmReadv iovs w.kernel) h

/-- What a wait has reported is what the inferior does. -/
structure Answered (view : κ → Tracee) (c : Bool) (n : Nat) (w : World κ) (status : WaitStatus)
    (t : World κ) : Prop where
  same : t.toProcess = w.toProcess
  traced : (view t.kernel).traced = true
  child : (view t.kernel).isChild = c
  strays : (view t.kernel).strays = n
  follows : (StopReason.ofStatus status).reason.Allows (view t.kernel).life

theorem wp_waitpid_awaitable {w : World κ} (awaitable : Awaitable view c n w) :
    wp (waitpid H.toPlatform) (fun status t => Answered view c n w status t)
      (fun e t => Unreturned e ∨ Tracked view c n idle t) w := by
  unfold wp waitpid
  cases outcome : H.waitpid w.kernel with
  | mk r k =>
    cases r with
    | none => exact .inl rfl
    | some r =>
      obtain ⟨traced, child, strays⟩ := waitpid_frame laws outcome
      cases r with
      | error e =>
        obtain ⟨nobody, same⟩ := laws.waitpid_failed _ e k outcome
        have gone := nobody.resolve_right fun alone => alone (.inr awaitable.traced)
        refine .inr ⟨awaitable.attached, traced.trans awaitable.traced,
          child.trans awaitable.child, strays.trans awaitable.strays, ?_,
          fun _ => awaitable.known gone⟩
        change w.state.Allows (view k).life
        rw [same, gone]
        cases state : w.state with
        | running => exact absurd state (awaitable.known gone)
        | stopped => exact fun running => by cases running
        | exited => rfl
        | terminated => rfl
      | ok status =>
        refine ⟨rfl, traced.trans awaitable.traced, child.trans awaitable.child,
          strays.trans awaitable.strays, ?_⟩
        change (StopReason.ofStatus status).reason.Allows (view k).life
        cases status with
        | exited code =>
          rw [(laws.waitpid_ended _ _ k outcome (by simp)).2]
          rfl
        | signaled signal =>
          rw [(laws.waitpid_ended _ _ k outcome (by simp)).2]
          rfl
        | stopped signal =>
          obtain ⟨_, _, pending, settles⟩ := laws.waitpid_stopped _ signal k outcome
          change (view k).life ≠ .running
          exact settles.keeps (R := fun u => u.life ≠ .running) (by simp) fun _ => by simp

/-- The arrival of a stop brings `state_` into line with the inferior. -/
theorem wp_arrive_awaitable {w : World κ} (awaitable : Awaitable view c n w) :
    wp (arrive H.toPlatform) (fun _ t => Tracked view c n idle t)
      (fun e t => Unreturned e ∨ Tracked view c n idle t) w := by
  have settling : ∀ (what : String) {α : Type} {op : κ → Except Errno α × κ},
      (∀ k, (view k).Settles (view (op k).2)) →
        Preserves (Tracked view c n idle) (orSendErrno what op) :=
    fun what _ op settles => preserves_orSendErrno fun w h =>
      tracked_property w _ rfl rfl (settles w.kernel) h
  have data : ∀ w d, Tracked view c n idle w → Tracked view c n idle { w with data := d } :=
    fun w _ h => tracked_property w _ rfl rfl (.refl _) h
  have expecting : ∀ w b, Tracked view c n idle w →
      Tracked view c n idle { w with expectingSyscallExit := b } :=
    fun w _ h => tracked_property w _ rfl rfl (.refl _) h
  have reading : Preserves (Tracked view c n idle) (Registers.readAllRegisters H.toPlatform) :=
    keeps_readAllRegisters data (settling _ laws.getRegs) (settling _ laws.getFpRegs)
      fun _ _ => settling _ (laws.peekUser _)
  have augment : ∀ reason, Preserves (Tracked view c n idle) (augmentStopReason H.toPlatform reason) :=
    fun reason => (settling _ laws.getSigInfo).bind fun _ => Preserves.ite
      ((preserves_syscallInformation expecting).bind fun _ => Preserves.pure _)
      (Preserves.bind (Preserves.modify fun w h => expecting w _ h) fun _ => Preserves.pure _)
  unfold arrive
  rw [wp_bind]
  refine (wp_waitpid_awaitable laws awaitable).mono (fun status t answered => ?_) fun _ _ h => h
  have tracked : Tracked view c n idle { t with state := (StopReason.ofStatus status).reason } :=
    ⟨by rw [← awaitable.attached, ← answered.same], answered.traced, answered.child,
      answered.strays, answered.follows, fun _ => ofStatus_ne_running status⟩
  simp only [wp_bind, wp_modify, wp_get]
  rw [wp_ite]
  split
  · exact (Preserves.bind reading (fun _ => augment _) _ tracked).mono (fun _ _ h => h)
      fun _ _ h => .inr h
  · exact tracked

/-- An accepted request finds the inferior stopped, as `state_` says. -/
theorem wp_request_tracked {what : String} (request : ResumeRequest) {w : World κ}
    (tracked : Tracked view c n idle w) :
    wp (orSendErrno what (H.resume request))
      (fun _ t => Awaitable view c n t ∧ t.state = .stopped ∧
        ((view t.kernel).life = .running ∨ (view t.kernel).life = .zombie))
      (fun _ t => Tracked view c n idle t) w := by
  rw [wp_orSendErrno]
  constructor
  · intro _ k accepted
    obtain ⟨stopped, settles⟩ := laws.resume_accepted request _ k accepted
    have follows := tracked.follows
    rw [stopped] at follows
    have state : w.state = .stopped := by
      cases held : w.state with
      | stopped => rfl
      | running =>
        rw [held] at follows
        rcases follows with h | h
        · cases h
        · cases h
      | exited =>
        rw [held] at follows
        cases (follows : Life.stopped = .gone)
      | terminated =>
        rw [held] at follows
        cases (follows : Life.stopped = .gone)
    have under : (view k).life = .running ∨ (view k).life = .zombie :=
      settles.keeps (R := fun u => u.life = .running ∨ u.life = .zombie) (.inl rfl) fun _ => .inr rfl
    refine ⟨⟨tracked.attached, ?_, settles.child.trans tracked.child,
      settles.strays.trans tracked.strays, fun _ running => ?_⟩, state, under⟩
    · exact settles.keeps (R := fun u => u.traced = true) tracked.traced fun _ => tracked.traced
    · cases state.symm.trans running
  · intro e k refused
    exact tracked_property w _ rfl rfl (laws.resume_refused request _ e k refused) tracked

/-- The step off a breakpoint site, whose wait leaves `state_` alone. -/
theorem survives_stepOver (i : Nat) :
    Survives Unreturned (Tracked view c n idle) (stepOver H.toPlatform i) := by
  have blind := tracked_property.blind laws (Q := Tracked view c n idle)
  refine .bind (.of_preserves (blind.preserves_siteDisable i)) fun _ w tracked => ?_
  rw [wp_bind]
  refine (wp_request_tracked laws .singleStep tracked).mono (fun _ t stepping => ?_)
    fun _ _ h => .inr h
  obtain ⟨awaitable, state, _⟩ := stepping
  rw [wp_bind]
  refine (wp_waitpid_awaitable laws awaitable).mono (fun status u answered => ?_) fun _ _ h => h
  have still := answered.follows.still (ofStatus_ne_running status)
  have state' : u.state = .stopped := by
    rw [← state]
    exact congrArg (·.state) answered.same
  refine Survives.of_preserves (blind.preserves_siteEnable i) u ⟨?_, answered.traced,
    answered.child, answered.strays, ?_, ?_⟩
  · rw [← awaitable.attached]
    exact congrArg (·.isAttached) answered.same
  · rw [state']
    exact still
  · simp [state']

/-- A resumption that is refused leaves the debugger as idle as it was. -/
theorem wp_resume_tracked {w : World κ} (tracked : Tracked view c n idle w) :
    wp (resume H.toPlatform) (fun _ t => Tracked view c n False t)
      (fun e t => Unreturned e ∨ Tracked view c n idle t) w := by
  unfold resume
  rw [wp_bind]
  refine (Registers.preserves_readByIdAsU64 _ w tracked).mono (fun pc t tracked => ?_)
    fun _ _ h => .inr h
  rw [wp_bind]
  refine (preserves_enabledSiteAt pc t tracked).mono (fun site t tracked => ?_) fun _ _ h => .inr h
  rw [wp_bind]
  refine (survives_forM (fun i => survives_stepOver laws i) t tracked).mono (fun _ t tracked => ?_)
    fun _ _ h => h
  rw [wp_bind, wp_get, wp_bind]
  refine (wp_request_tracked laws _ tracked).mono (fun _ t going => ?_) fun _ _ h => .inr h
  obtain ⟨awaitable, _, under⟩ := going
  exact ⟨awaitable.attached, awaitable.traced, awaitable.child, awaitable.strays, under, False.elim⟩

/-- The answer to a stop; `wait` is the wait after a resumption. -/
theorem survives_respond {wait : Sdb κ StopReason}
    (again : ∀ w, Awaitable view c n w → wp wait (fun _ t => Tracked view c n idle t)
      (fun e t => Unreturned e ∨ Tracked view c n idle t) w) (reason : StopReason) :
    Survives Unreturned (Tracked view c n idle) (respond H.toPlatform wait reason) := by
  have blind := tracked_property.blind laws (Q := Tracked view c n idle)
  refine .bind (.of_preserves Preserves.get) fun w => .ite ?_ (.of_preserves (Preserves.pure _))
  refine .bind (.of_preserves (Registers.preserves_readByIdAsU64 _)) fun pc =>
    .ite ?_ (.of_preserves (Preserves.pure _))
  unfold handleSigtrap
  split
  · exact .of_preserves ((preserves_enabledSiteAt _).bind fun _ =>
      (preserves_forM fun _ => blind.preserves_setPc _).bind fun _ => Preserves.pure _)
  · exact .of_preserves (blind.preserves_updateTriggered.bind fun _ => Preserves.pure _)
  · refine .bind (.of_preserves Preserves.get) fun w => ?_
    split
    · refine .ite (.of_preserves (Preserves.pure _)) fun t tracked => ?_
      rw [wp_bind]
      exact (wp_resume_tracked laws tracked).mono (fun _ u going => again u going.awaitable)
        fun _ _ h => h
    · exact .of_preserves (Preserves.throw _)
    · exact .of_preserves (Preserves.pure _)
  · exact .of_preserves (Preserves.pure _)

theorem wp_waitOnSignal_awaitable (fuel : Nat) {w : World κ} (awaitable : Awaitable view c n w) :
    wp (waitOnSignal H.toPlatform fuel) (fun _ t => Tracked view c n idle t)
      (fun e t => Unreturned e ∨ Tracked view c n idle t) w := by
  induction fuel generalizing w with
  | zero => exact .inl rfl
  | succ fuel ih =>
    rw [waitOnSignal_succ, wp_bind]
    refine (wp_arrive_awaitable laws awaitable).mono (fun reason t tracked => ?_) fun _ _ h => h
    exact survives_respond laws (fun u awaitable => ih awaitable) reason t tracked

theorem survives_stepInstruction (fuel : Nat) :
    Survives Unreturned (Tracked view c n idle) (stepInstruction H.toPlatform fuel) := by
  have blind := tracked_property.blind laws (Q := Tracked view c n idle)
  refine .bind (.of_preserves (Registers.preserves_readByIdAsU64 _)) fun pc => ?_
  refine .bind (.of_preserves (preserves_enabledSiteAt _)) fun site => ?_
  refine .bind (.of_preserves (preserves_forM blind.preserves_siteDisable)) fun _ w tracked => ?_
  rw [wp_bind]
  refine (wp_request_tracked laws .singleStep tracked).mono (fun _ t stepping => ?_)
    fun _ _ h => .inr h
  rw [wp_bind]
  refine (wp_waitOnSignal_awaitable laws fuel stepping.1).mono (fun reason u tracked => ?_)
    fun _ _ h => h
  exact Survives.bind (.of_preserves (preserves_forM blind.preserves_siteEnable))
    (fun _ => .of_preserves (Preserves.pure _)) u tracked

/-- One lemma for all that is done with a process between its making and its end. -/
theorem survives_perform (op : SessionOp) :
    Survives Unreturned (Tracked view c n False) (op.perform H.toPlatform) := by
  cases op with
  | stoppoint op => exact .of_preserves ((tracked_property.blind laws).preserves_perform op)
  | resume => exact fun w tracked => wp_resume_tracked laws tracked
  | waitOnSignal fuel =>
    exact .bind (fun w h => wp_waitOnSignal_awaitable laws fuel h.awaitable)
      fun _ => .of_preserves (Preserves.pure _)
  | stepInstruction fuel =>
    exact .bind (survives_stepInstruction laws fuel) fun _ => .of_preserves (Preserves.pure _)
  | setSyscallCatchPolicy policy =>
    exact .of_preserves (Preserves.modify fun w h => tracked_property w _ rfl rfl (.refl _) h)

theorem tracked_of_run {ops : List SessionOp} {w t : World κ} (tracked : Tracked view c n False w)
    (reach : run (sessionStep H.toPlatform) ops w = some t) : Tracked view c n False t := by
  refine run_invariant (fun op s u held step => ?_) tracked reach
  rcases survive_wp (survives_perform laws op s held) step with ⟨_, kept⟩ | ⟨e, mild, kept⟩
  · exact kept
  · refine kept.resolve_left fun fatal => ?_
    rw [Unreturned, mild] at fatal
    cases fatal

/-! ### How a process comes, and how it goes -/

theorem wp_takeOver (fuel : Nat) {w : World κ} (awaitable : Awaitable view c n w) :
    wp (takeOver H fuel)
      (fun _ t => Tracked view c n idle t ∧ (view t.kernel).optionsSet = true)
      (fun e t => Unreturned e ∨ Tracked view c n idle t) w := by
  unfold takeOver
  rw [wp_bind]
  refine (wp_waitOnSignal_awaitable laws fuel awaitable).mono (fun _ t tracked => ?_) fun _ _ h => h
  rw [wp_orSendErrno]
  constructor
  · intro _ k accepted
    obtain ⟨stopped, settles⟩ := laws.setOptions_accepted _ k accepted
    have held : Tracked view c n idle { t with kernel := k } :=
      ⟨tracked.attached,
        settles.keeps (R := fun u => u.traced = true) tracked.traced fun _ => tracked.traced,
        settles.child.trans tracked.child, settles.strays.trans tracked.strays,
        settles.keeps (R := fun u => t.state.Allows u.life) tracked.follows tracked.follows.killed,
        tracked.rests⟩
    exact ⟨held, settles.keeps (R := fun u => u.optionsSet = true) rfl fun _ => rfl⟩
  · intro e k refused
    exact .inr (tracked_property t _ rfl rfl (laws.setOptions_refused _ e k refused) tracked)

theorem wp_owning_takeOver {terminateOnEnd : Bool} (own : terminateOnEnd = true → c = true)
    (fuel : Nat) {w : World κ} (awaitable : Awaitable view c n w) :
    wp (owning H terminateOnEnd (takeOver H fuel))
      (fun _ t => Tracked view c n idle t ∧ (view t.kernel).optionsSet = true)
      (fun e t => Unreturned e ∨ ∃ s, LeftBehind view terminateOnEnd s t) w := by
  refine wp_owning ((wp_takeOver laws fuel awaitable).mono (fun _ _ h => h) fun e t failed => ?_)
  split
  · next fatal => exact .inl fatal
  · next mild =>
    have tracked := failed.resolve_left mild
    exact (wp_destroy laws tracked own).mono (fun _ u left => .inr ⟨t, left⟩) fun _ _ h => h.elim

/-- `process::attach` gives a process whose stops are told apart, or leaves the inferior alone:
as it was, or running untraced again. -/
theorem wp_attach (fuel : Nat) (pid : Int) (w : World κ) :
    wp (attach H fuel pid)
      (fun _ t => Tracked view (view w.kernel).isChild (view w.kernel).strays True t ∧
        (view t.kernel).optionsSet = true)
      (fun e t => Unreturned e ∨ (view w.kernel).Settles (view t.kernel) ∨
        ∃ reported, (view t.kernel).Released reported) w := by
  unfold attach
  rw [wp_ite]
  split
  · exact .inr (.inl (.refl _))
  · rw [wp_bind, wp_orSendErrno]
    refine ⟨fun _ k accepted => ?_, fun e k refused =>
      .inr (.inl (laws.attach_refused _ e k refused))⟩
    obtain ⟨_, settles⟩ := laws.attach_accepted _ k accepted
    rw [wp_bind, newProcess, wp_modify]
    have own : false = true → (view w.kernel).isChild = true := fun ends => by cases ends
    refine (wp_owning_takeOver laws own fuel ⟨rfl, ?_, settles.child, settles.strays, ?_⟩).mono
      (fun _ _ h => h) fun e t failed => ?_
    · exact settles.keeps (R := fun u => u.traced = true) rfl fun _ => rfl
    · exact fun _ running => by cases running
    · rcases failed with fatal | ⟨s, left⟩
      · exact .inl fatal
      · exact .inr (.inr (left.freed rfl))

/-- `process::launch` gives a process whose stops are told apart, or no child is left. -/
theorem wp_launchDebuggee (fuel : Nat) (w : World κ) (child : (view w.kernel).isChild = true)
    (traced : (view w.kernel).traced = true) :
    wp (launchDebuggee H fuel true)
      (fun _ t => Tracked view true (view w.kernel).strays True t ∧
        (view t.kernel).optionsSet = true)
      (fun e t => Unreturned e ∨ (view t.kernel).life = .gone) w := by
  unfold launchDebuggee
  rw [wp_bind, newProcess, wp_modify, if_pos rfl]
  refine (wp_owning_takeOver (c := true) (n := (view w.kernel).strays) laws (fun _ => rfl) fuel
    ?_).mono (fun _ _ h => h) fun e t failed => ?_
  · exact ⟨rfl, traced, child, rfl, fun _ running => by cases running⟩
  · rcases failed with fatal | ⟨s, left⟩
    · exact .inl fatal
    · exact .inr (left.ended rfl)

omit laws in
/-- How a process object that traces its inferior is made; `terminateOnEnd` is what it is made
with. -/
inductive Started (H : Host κ) (view : κ → Tracee) (fuel : Nat) (w s : World κ) :
    Bool → Prop where
  | attached (pid : Int) (run : attach H fuel pid w = .ok () s) : Started H view fuel w s false
  | launched (child : (view w.kernel).isChild = true) (traced : (view w.kernel).traced = true)
      (run : launchDebuggee H fuel true w = .ok () s) : Started H view fuel w s true

theorem Started.tracked {fuel : Nat} {terminateOnEnd : Bool} {w s : World κ}
    (started : Started H view fuel w s terminateOnEnd) :
    (terminateOnEnd = true → (view w.kernel).isChild = true) ∧
      Tracked view (view w.kernel).isChild (view w.kernel).strays True s := by
  cases started with
  | attached pid run =>
    exact ⟨fun ends => (by cases ends), ((wp_of_ok run _ _).1 (wp_attach laws fuel pid w)).1⟩
  | launched child traced run =>
    rw [child]
    exact ⟨fun _ => rfl, ((wp_of_ok run _ _).1 (wp_launchDebuggee laws fuel w child traced)).1⟩

theorem quit_leaves {fuel : Nat} {terminateOnEnd : Bool} {w s t : World κ} {ops : List SessionOp}
    (started : Started H view fuel w s terminateOnEnd)
    (reach : run (sessionStep H.toPlatform) ops s = some t) :
    ∃ u, destroy H terminateOnEnd t = .ok () u ∧ LeftBehind view terminateOnEnd t u ∧
      (view t.kernel).strays = (view w.kernel).strays ∧
      (view t.kernel).isChild = (view w.kernel).isChild := by
  obtain ⟨own, tracked⟩ := started.tracked laws
  have held := tracked_of_run laws tracked.forget reach
  obtain ⟨⟨⟩, u, done, left⟩ := exists_ok_of_wp (wp_destroy laws held own)
  exact ⟨u, done, left, held.strays, held.child⟩

/-- However a process was come by and used, its destructor comes back. An inferior that was
launched has ended then and has been waited for; one that was attached to runs untraced. -/
theorem quit_completes {fuel : Nat} {terminateOnEnd : Bool} {w s t : World κ} {ops : List SessionOp}
    (started : Started H view fuel w s terminateOnEnd)
    (reach : run (sessionStep H.toPlatform) ops s = some t) :
    ∃ u, destroy H terminateOnEnd t = .ok () u ∧
      (terminateOnEnd = true → (view u.kernel).life = .gone) ∧
      (terminateOnEnd = false → ∃ reported, (view u.kernel).Released reported) := by
  obtain ⟨u, done, left, _⟩ := quit_leaves laws started reach
  exact ⟨u, done, left.ended, left.freed⟩

/-- A child that is about to report that it has become the program. -/
def freshChild (ends : List Bool) : World Hosted :=
  hostedWorld ⟨.running, true, true, true, false, 0⟩ ends

omit laws in
/-- A launch and a session that can be run. -/
theorem launched_session (ends : List Bool) (ops : List SessionOp) (state : ProcState)
    (possible : ((survive (fun _ => true) (launchDebuggee hostedPlatform 1 true)
      (freshChild ends)).bind (run (sessionStep hostedPlatform.toPlatform) ops)).map (fun t => t.state)
        = some state) :
    ∃ s t, Started hostedPlatform Hosted.tracee 1 (freshChild ends) s true ∧
      run (sessionStep hostedPlatform.toPlatform) ops s = some t ∧ t.state = state := by
  obtain ⟨t, reach, last⟩ := Option.map_eq_some_iff.1 possible
  obtain ⟨s, launched, reach⟩ := Option.bind_eq_some_iff.1 reach
  rcases survive_eq_some.1 launched with ⟨⟨⟩, done⟩ | ⟨_, mild, _⟩
  · exact ⟨s, t, .launched rfl rfl done, reach, last⟩
  · cases mild

omit laws in
/-- Quitting while the program runs. -/
theorem quit_completes_running :
    ∃ s t u, run (sessionStep hostedPlatform.toPlatform) [.resume] s = some t ∧
      t.state = .running ∧ destroy hostedPlatform true t = .ok () u ∧
      u.kernel.tracee.life = .gone := by
  obtain ⟨s, t, started, reach, running⟩ := launched_session [] [.resume] .running
    (by decide +kernel)
  obtain ⟨u, done, ended, _⟩ := quit_completes Hosted.hostLaws started reach
  exact ⟨s, t, u, reach, running, done, ended rfl⟩

/-- Of a child of the debugger's: no signal goes astray unless its end has been reported before the
debugger quits. -/
theorem quit_strays {fuel : Nat} {terminateOnEnd : Bool} {w s t u : World κ} {ops : List SessionOp}
    (started : Started H view fuel w s terminateOnEnd)
    (reach : run (sessionStep H.toPlatform) ops s = some t) (waiting : t.state ≠ .running)
    (done : destroy H terminateOnEnd t = .ok () u) (child : (view w.kernel).isChild = true) :
    (view u.kernel).strays = (view w.kernel).strays ↔ (view t.kernel).life ≠ .gone := by
  obtain ⟨u', done', left, same, still⟩ := quit_leaves laws started reach
  rw [done] at done'
  cases done'
  rw [left.strays waiting, same, still, child]
  cases life : (view t.kernel).life with
  | gone => cases terminateOnEnd <;> simp [strayed]
  | _ => simp [strayed]

omit laws in
/-- Quitting after the program has ended. -/
theorem quit_strays_ended :
    ∃ s t u, run (sessionStep hostedPlatform.toPlatform) [.resume, .waitOnSignal 1] s = some t ∧
      t.state = .exited ∧ destroy hostedPlatform true t = .ok () u ∧
      (u.kernel.tracee.strays = 0 ↔ t.kernel.tracee.life ≠ .gone) := by
  obtain ⟨s, t, started, reach, exited⟩ := launched_session [true]
    [.resume, .waitOnSignal 1] .exited (by decide +kernel)
  obtain ⟨u, done, _⟩ := quit_leaves Hosted.hostLaws started reach
  have waiting : t.state ≠ .running := by simp [exited]
  exact ⟨s, t, u, reach, exited, done, quit_strays Hosted.hostLaws started reach waiting done rfl⟩

end Laws

end SdbDebugger
