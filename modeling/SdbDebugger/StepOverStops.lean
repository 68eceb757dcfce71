import SdbDebugger.StopCounts
import SdbDebugger.StopStream

/-! The stop that ends the step off a breakpoint site inside `resume`. It is waited for there,
so `wait_on_signal` never sees it. -/

namespace SdbDebugger
open EffectRules ActionRuns ByteSpace StoppointCollection

variable {κ : Type} {P : Platform κ} {view : κ → ReportView}

/-! ### The stop of the step -/

/-- The stop that has just been reported, as the kernel shows it. -/
def stopIn (view : κ → ReportView) (status : WaitStatus) (t : World κ) : KernelStop :=
  ⟨status, (view t.kernel).user, (view t.kernel).siCode⟩

/-- `TRAP_BRKPT`, the code with which a step over a system call is completed. -/
def trapBrkpt : Int := 1

/-- The completion of a single step and nothing else: no watchpoint was hit on the way. -/
structure KernelStop.Plain (stop : KernelStop) : Prop where
  status : stop.status = .stopped sigtrap
  trace : stop.siCode = trapTrace ∨ stop.siCode = trapBrkpt
  unwatched : ∀ i < 4, (load stop.user (debugOffset 6) 8 : Word).getLsbD i = false

/-- From `w`, `resume` steps off the enabled site at position `i`, and the step ends in `t`. -/
structure StepsOff (P : Platform κ) (w : World κ) (i : Nat) (status : WaitStatus) (t : World κ) :
    Prop where
  here : enabledSiteAt (load w.data 128 8) w = .ok (some i) w
  stepped : ∃ u v, BreakpointSite.disable P i w = .ok () u ∧
    orSendErrno "failed to single step" (P.resume .singleStep) u = .ok () v ∧
    waitpid P v = .ok status t

/-- The last change of state that was reported is the stop in `t`, the caller is told of it, and
the state and the cached registers are those of the stop; the pc may be taken back to a site. -/
structure StopReported (view : κ → ReportView) (stop : KernelStop) (w t : World κ) (r : StopReason)
    (u : World κ) : Prop where
  last : (view u.kernel).reports = (view t.kernel).reports
  reason : r.reason = (stop.reason w.expectingSyscallExit).reason
  info : r.info = (stop.reason w.expectingSyscallExit).info
  state : u.state = r.reason
  cached : w.isAttached = true → stop.isStopped = true →
    ∀ off ∈ cachedOffsets, off ∉ block 128 8 → u.data off = stop.user off

section StepOver

variable {w t : World κ} {i : Nat} {status : WaitStatus}

/-- What `resume` does after the step. -/
theorem resume_stepsOff (off : StepsOff P w i status t) :
    resume P w = (do
      BreakpointSite.enable P i
      let w ← get
      orSendErrno "could not resume" (P.resume (resumeRequest w.syscallCatchPolicy))
      modify fun w => { w with state := .running } : Sdb κ Unit) t := by
  obtain ⟨u, v, disabled, stepped, waited⟩ := off.stepped
  rw [resume, bind_ok (getPc_eq w), bind_ok off.here]
  change (stepOver P i >>= _) w = _
  rw [stepOver, bind_assoc, bind_ok disabled, bind_assoc, bind_ok stepped, bind_assoc,
    bind_ok waited]

variable (laws : ReportLaws P.toKernel view)
include laws

/-- Whatever the caller is told of comes after the stop of the step. -/
theorem reports_after_stepOver (off : StepsOff P w i status t) {fuel : Nat} {r : StopReason}
    {u : World κ} (run : (do
      resume P
      waitOnSignal P fuel : Sdb κ StopReason) w = .ok r u) :
    (view t.kernel).reports < (view u.kernel).reports := by
  have start : AtLeast view (view t.kernel).reports t := le_refl (view t.kernel).reports
  have going : Preserves (AtLeast view (view t.kernel).reports) (do
      BreakpointSite.enable P i
      let w ← get
      orSendErrno "could not resume" (P.resume (resumeRequest w.syscallCatchPolicy))
      modify fun w => { w with state := .running } : Sdb κ Unit) :=
    ((counted_blind laws).preserves_siteEnable i).bind fun _ => Preserves.get.bind fun _ =>
      (counted_resumeRequest laws _ _).bind fun _ => Preserves.modify fun _ h => h
  cases resumed : resume P w with
  | error e v =>
    rw [bind_error resumed] at run
    cases run
  | ok _ v =>
    rw [bind_ok resumed] at run
    rw [resume_stepsOff off] at resumed
    have told : (view t.kernel).reports + 1 ≤ (view u.kernel).reports := (wp_of_ok run _ _).1
      (wp_waitOnSignal_atLeast laws fuel (going.of_ok start resumed))
    omega

/-- The stop that ends the step off a site reaches the caller exactly if there is nothing in it
to tell. -/
theorem stepOver_reports_iff (off : StepsOff P w i status t) :
    (¬ (stopIn view status t).Plain → ∃ fuel r u, (do
        resume P
        waitOnSignal P fuel : Sdb κ StopReason) w = .ok r u ∧
      StopReported view (stopIn view status t) w t r u) ↔
    (stopIn view status t).Plain := by
  constructor
  · intro reports
    by_contra other
    obtain ⟨fuel, r, u, run, reported⟩ := reports other
    have later := reports_after_stepOver laws off run
    rw [reported.last] at later
    exact lt_irrefl _ later
  · intro plain other
    exact absurd plain other

end StepOver

/-! ### Without a site -/

/-- What answering a stop leaves alone. -/
structure Told (view : κ → ReportView) (t u : World κ) : Prop where
  last : (view u.kernel).reports = (view t.kernel).reports
  state : u.state = t.state
  cached : ∀ off ∉ block 128 8, u.data off = t.data off

section WithoutSite

variable (laws : ReportLaws P.toKernel view)
include laws

theorem told_setPc (t : World κ) (pc : VirtAddr) : Preserves (Told view t) (setPc P pc) := by
  rw [setPc_eq]
  refine Preserves.bind (Preserves.modify fun u told => ?_) fun _ => ?_
  · refine ⟨told.last, told.state, fun off outside => ?_⟩
    rw [← told.cached off outside]
    exact overwrite_of_le (not_lt.1 outside)
  · exact preserves_orSendErrno fun u told =>
      ⟨(laws.pokeUser 128 pc u.kernel).trans told.last, told.state, told.cached⟩

theorem told_updateData (t : World κ) (i : Nat) :
    Preserves (Told view t) (Watchpoint.updateData P i) := by
  refine preserves_updateData P (fun u iovs told => ?_) i fun _ => Preserves.modify fun u told => ?_
  · exact ⟨(laws.processVmReadv iovs u.kernel).trans told.last, told.state, told.cached⟩
  · exact ⟨told.last, told.state, told.cached⟩

/-- Away from the sites, `resume` and then `wait_on_signal` report the next stop, whatever it is,
unless it is a system call that is not to be caught. -/
theorem reports_withoutSite {stream : κ → StreamView} (streams : StopStreamLaws P.toKernel stream)
    {stop : KernelStop} {rest : List KernelStop} {w u : World κ} {fuel : Nat} {r : StopReason}
    (nowhere : enabledSiteAt (load w.data 128 8) w = .ok none w)
    (stopped : (stream w.kernel).isStopped = true)
    (next : (stream w.kernel).stops = stop :: rest) (attached : w.isAttached = true)
    (heard : ∀ t : World κ, t.syscallCatchPolicy = w.syscallCatchPolicy →
      ¬ Ignored (stop.reason w.expectingSyscallExit) t)
    (run : (do
      resume P
      waitOnSignal P fuel : Sdb κ StopReason) w = .ok r u) :
    ∃ t, (view t.kernel).reports = (view w.kernel).reports + 1 ∧
      StopReported view stop w t r u := by
  obtain ⟨k, accepted, view_k⟩ := streams.resume (resumeRequest w.syscallCatchPolicy) w.kernel
    stopped
  have resumed : resume P w = .ok () { w with state := .running, kernel := k } := by
    rw [resume, bind_ok (getPc_eq w), bind_ok nowhere]
    exact bind_ok (orSendErrno_ok accepted) _
  have uncounted : (view k).reports = (view w.kernel).reports := by
    have same := laws.resume (resumeRequest w.syscallCatchPolicy) w.kernel
    rwa [accepted] at same
  obtain ⟨t, arrival, arrived⟩ := arrive_eq (w := { w with state := .running, kernel := k })
    streams (by rw [view_k]; exact next) fun _ => attached
  obtain ⟨d, k', shape⟩ := arrived.frame
  have counted : (view t.kernel).reports = (view k).reports + 1 :=
    (wp_of_ok arrival _ _).1 (wp_arrive_counted (P := P) laws
      (R := (· = (view k).reports)) (S := (· = (view k).reports + 1)) (fun n same => by omega) rfl)
  rw [bind_ok resumed] at run
  cases fuel with
  | zero => cases run
  | succ fuel =>
    rw [waitOnSignal_succ, bind_ok arrival] at run
    have quiet : ¬ Ignored (stop.reason w.expectingSyscallExit) t := heard t (by rw [shape])
    have answered := wp_respond_heard (I := Told view t) (told_setPc laws t)
      (fun _ => told_updateData laws t) quiet (waitOnSignal P fuel) ⟨rfl, rfl, fun _ _ => rfl⟩
    obtain ⟨rfl, told⟩ := (wp_of_ok run _ _).1 answered
    refine ⟨t, by omega, told.last, rfl, rfl, ?_, fun _ halted off member outside => ?_⟩
    · rw [told.state, shape]
    · rw [told.cached off outside, arrived.cached halted off member]

end WithoutSite

/-- An enabled site at the pc of the launched process. -/
def siteAtStart : List SessionOp :=
  [.stoppoint (.createSite 0 false false), .stoppoint (.enableSite 0)]

def segmentationFault : KernelStop := ⟨.stopped 11, fun _ => 0, siKernel⟩

def stepCompleted : KernelStop := ⟨.stopped sigtrap, fun _ => 0, trapTrace⟩

/-- The state at the stop of the step, if the session ends stepping off site `i`. -/
def stepAfter (ops : List SessionOp) (stops : List KernelStop) (i : Nat) :
    Option (World Scripted × WaitStatus × World Scripted) :=
  (run (sessionStep scriptedPlatform) ops (scriptedWorld [] stops)).bind fun w =>
    match (do
      let site ← enabledSiteAt (load w.data 128 8)
      BreakpointSite.disable scriptedPlatform i
      orSendErrno "failed to single step" (scriptedPlatform.resume .singleStep)
      let status ← waitpid scriptedPlatform
      pure (site, status) : Sdb Scripted (Option Nat × WaitStatus)) w with
    | .ok (site, status) t => if site = some i then some (w, status, t) else none
    | .error _ _ => none

theorem stepAfter_spec {ops : List SessionOp} {stops : List KernelStop} {i : Nat}
    {p : World Scripted × WaitStatus × World Scripted → Bool}
    (h : (stepAfter ops stops i).any p = true) :
    ∃ w status t, run (sessionStep scriptedPlatform) ops (scriptedWorld [] stops) = some w ∧
      StepsOff scriptedPlatform w i status t ∧ p (w, status, t) = true := by
  obtain ⟨stop, after, holds⟩ := (Option.any_eq_true p _).1 h
  rw [stepAfter, Option.bind_eq_some_iff] at after
  obtain ⟨w, reach, stepped⟩ := after
  split at stepped
  · next site status t run =>
    obtain ⟨found, u, here, disabling⟩ := bind_inv run
    obtain ⟨_, v, disabled, stepping⟩ := bind_inv disabling
    obtain ⟨_, x, resumed, waiting⟩ := bind_inv stepping
    obtain ⟨_, y, waited, done⟩ := bind_inv waiting
    have still : u = w := (preserves_enabledSiteAt (I := fun s => s = w) _).of_ok rfl here
    subst still
    cases done
    split at stepped
    · next same =>
      cases stepped
      subst same
      exact ⟨u, status, t, reach, ⟨here, v, x, disabled, resumed, waited⟩, holds⟩
    · cases stepped
  · cases stepped

theorem stepOver_reports_iff_stepCompleted :
    ∃ w status t, run (sessionStep scriptedPlatform) siteAtStart
        (scriptedWorld [] [stepCompleted]) = some w ∧
      StepsOff scriptedPlatform w 0 status t ∧
      (¬ (stopIn Scripted.reportView status t).Plain → ∃ fuel r u, (do
          resume scriptedPlatform
          waitOnSignal scriptedPlatform fuel : Sdb Scripted StopReason) w = .ok r u ∧
        StopReported Scripted.reportView (stopIn Scripted.reportView status t) w t r u) := by
  obtain ⟨w, status, t, reach, off, facts⟩ := stepAfter_spec (show (stepAfter siteAtStart
    [stepCompleted] 0).any (fun stop => decide (stop.2.1 = .stopped sigtrap ∧
      stop.2.2.kernel.siCode = trapTrace ∧ ∀ i < 4, (load stop.2.2.kernel.user (debugOffset 6) 8
        : Word).getLsbD i = false)) = true by decide +kernel)
  obtain ⟨trap, trace, unwatched⟩ := of_decide_eq_true facts
  exact ⟨w, status, t, reach, off, (stepOver_reports_iff Scripted.reportLaws off).2
    ⟨trap, .inl trace, unwatched⟩⟩

/-- The instruction under a breakpoint faults, and nothing of it is reported. Without the site the
fault is. -/
theorem not_reported_segmentationFault :
    (∃ w t, run (sessionStep scriptedPlatform) siteAtStart
        (scriptedWorld [] [segmentationFault, stepCompleted]) = some w ∧
      StepsOff scriptedPlatform w 0 (.stopped 11) t ∧
      ¬ (stopIn Scripted.reportView (.stopped 11) t).Plain ∧
      ¬ ∃ fuel r u, (do
          resume scriptedPlatform
          waitOnSignal scriptedPlatform fuel : Sdb Scripted StopReason) w = .ok r u ∧
        StopReported Scripted.reportView (stopIn Scripted.reportView (.stopped 11) t) w t r u) ∧
    ∃ stop r t u, (do
        resume scriptedPlatform
        waitOnSignal scriptedPlatform 1 : Sdb Scripted StopReason)
          (scriptedWorld [] [segmentationFault, stepCompleted]) = .ok r u ∧
      stop.status = .stopped 11 ∧ StopReported Scripted.reportView stop
        (scriptedWorld [] [segmentationFault, stepCompleted]) t r u := by
  obtain ⟨w, status, t, reach, off, facts⟩ := stepAfter_spec (show (stepAfter siteAtStart
    [segmentationFault, stepCompleted] 0).any (fun stop => decide (stop.2.1 = .stopped 11)) = true
      by decide +kernel)
  have fault : status = .stopped 11 := of_decide_eq_true facts
  subst fault
  refine ⟨⟨w, t, reach, off, fun plain => ?_, fun reported => ?_⟩, ?_⟩
  · have trap : WaitStatus.stopped 11 = .stopped sigtrap := plain.status
    simp [sigtrap] at trap
  · obtain ⟨fuel, r, u, run, told⟩ := reported
    have later := reports_after_stepOver Scripted.reportLaws off run
    rw [told.last] at later
    exact lt_irrefl _ later
  · obtain ⟨r, u, run⟩ := exists_ok_of_survive (m := (do
        resume scriptedPlatform
        waitOnSignal scriptedPlatform 1 : Sdb Scripted StopReason))
      (s := scriptedWorld [] [segmentationFault, stepCompleted]) (by decide +kernel)
    have heard : ∀ (user : UserArea) (t : World Scripted),
        ¬ Ignored (KernelStop.reason ⟨.stopped 11, user, siKernel⟩ false) t := by
      rintro user t ⟨_, syscall, _⟩
      cases syscall
    obtain ⟨t, _, told⟩ := reports_withoutSite Scripted.reportLaws Scripted.stopStreamLaws rfl rfl
      rfl rfl (fun t _ => heard _ t) run
    exact ⟨_, r, t, u, run, rfl, told⟩

end SdbDebugger
