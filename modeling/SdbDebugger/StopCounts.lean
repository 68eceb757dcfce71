import SdbDebugger.HandledStops

/-! How many changes of state `waitpid` has reported: reading a stop and answering it count
for nothing, and each stop that is waited for counts one. -/

namespace SdbDebugger
open EffectRules ActionRuns ByteSpace StoppointCollection

variable {κ : Type} {P : Platform κ} {view : κ → ReportView}

/-- `R` holds of the number of changes of state that have been reported. -/
def Counted (view : κ → ReportView) (R : Int → Prop) (w : World κ) : Prop :=
  R (view w.kernel).reports

variable {R S : Int → Prop} {n : Int}

theorem Counted.same {w t : World κ} (h : Counted view R w)
    (same : (view t.kernel).reports = (view w.kernel).reports) : Counted view R t := by
  unfold Counted at h ⊢
  rw [same]
  exact h

section Counting

variable (laws : ReportLaws P.toKernel view)
include laws

theorem counted_blind : StoppointBlind P (Counted view R) where
  data _ _ h := h
  pokeUser w off v h := h.same (laws.pokeUser off v w.kernel)
  setFpRegs w fprs h := h.same (laws.setFpRegs fprs w.kernel)
  sites _ _ h := h
  watchpoints _ _ h := h
  siteId _ _ h := h
  watchpointId _ _ h := h
  peekData w a h := h.same (laws.peekData a w.kernel)
  pokeData w a v h := h.same (laws.pokeData a v w.kernel)
  processVmReadv w iovs h := h.same (laws.processVmReadv iovs w.kernel)

theorem counted_resumeRequest (what : String) (r : ResumeRequest) :
    Preserves (Counted view R) (orSendErrno what (P.resume r)) :=
  preserves_orSendErrno fun w h => h.same (laws.resume r w.kernel)

/-- What `waitpid` reports comes on top. -/
theorem wp_waitpid_counted {w : World κ} (one : ∀ n, R n → S (n + 1)) (h : Counted view R w) :
    wp (waitpid P) (fun _ t => Counted view S t) (fun _ t => Counted view R t) w := by
  refine wp_waitpid (fun status k reported => ?_) fun e r k run failed => ?_
  · unfold Counted at h ⊢
    change S (view k).reports
    rw [laws.waitpid_reported _ _ _ reported]
    exact one _ h
  · exact h.same (laws.waitpid_failed _ _ _ run failed)

theorem counted_readAllRegisters :
    Preserves (Counted view R) (Registers.readAllRegisters P) :=
  keeps_readAllRegisters (E := Counted view R) (fun _ _ h => h)
    (preserves_orSendErrno fun w h => h.same (laws.getRegs w.kernel))
    (preserves_orSendErrno fun w h => h.same (laws.getFpRegs w.kernel))
    fun _ _ => preserves_orSendErrno fun w h => h.same (laws.peekUser _ w.kernel)

/-- A stop that arrives is one more. -/
theorem wp_arrive_counted {w : World κ} (one : ∀ n, R n → S (n + 1)) (h : Counted view R w) :
    wp (arrive P) (fun _ t => Counted view S t)
      (fun _ t => Counted view R t ∨ Counted view S t) w :=
  wp_arrive_of_waitpid (fun _ _ h => h) (counted_readAllRegisters laws)
    (preserves_orSendErrno fun w h => h.same (laws.getSigInfo w.kernel)) (fun _ _ h => h)
    (wp_waitpid_counted laws one h)

/-- At least `n` changes of state have been reported. -/
def AtLeast (view : κ → ReportView) (n : Int) : World κ → Prop := Counted view (n ≤ ·)

theorem atLeast_waitpid : Preserves (AtLeast view n) (waitpid P) :=
  fun _ h => wp_waitpid_counted laws (S := (n ≤ ·)) (fun m enough => by omega) h

theorem atLeast_resume : Preserves (AtLeast view n) (resume P) := by
  refine preserves_resume (fun i => ?_) (fun _ => counted_resumeRequest laws _ _) fun _ _ h => h
  exact ((counted_blind laws).preserves_siteDisable i).bind fun _ =>
    (counted_resumeRequest laws _ _).bind fun _ => (atLeast_waitpid laws).bind fun _ =>
    (counted_blind laws).preserves_siteEnable i

theorem counted_updateData (i : Nat) : Preserves (Counted view R) (Watchpoint.updateData P i) :=
  preserves_updateData P (counted_blind laws).processVmReadv i fun _ =>
    (counted_blind laws).preserves_modifyWatchpoint i _

theorem atLeast_arrive : Preserves (AtLeast view n) (arrive P) := by
  intro w h
  exact (wp_arrive_counted laws (S := (n ≤ ·)) (fun m enough => by omega) h).mono
    (fun _ _ kept => kept) fun _ _ kept => kept.elim id id

theorem atLeast_waitOnSignal (fuel : Nat) : Preserves (AtLeast view n) (waitOnSignal P fuel) :=
  preserves_waitOnSignal (atLeast_arrive laws) (counted_blind laws).preserves_setPc
    (counted_updateData laws) (atLeast_resume laws) fuel

/-- A call of `wait_on_signal` that returns has been told of one more change of state. -/
theorem wp_waitOnSignal_atLeast (fuel : Nat) {w : World κ} (h : AtLeast view n w) :
    wp (waitOnSignal P fuel) (fun _ t => AtLeast view (n + 1) t) (fun _ _ => True) w := by
  cases fuel with
  | zero => trivial
  | succ fuel =>
    have more : ∀ m, n ≤ m → n + 1 ≤ m + 1 := fun m enough => by omega
    have answer := preserves_respond (P := P) (counted_blind laws).preserves_setPc
      (counted_updateData laws) (atLeast_resume (n := n + 1) laws) (atLeast_waitOnSignal laws fuel)
    rw [waitOnSignal_succ, wp_bind]
    refine (wp_arrive_counted laws (S := (n + 1 ≤ ·)) more h).mono (fun reason t arrived => ?_)
      fun _ _ _ => trivial
    exact (answer reason t arrived).mono (fun _ _ kept => kept) fun _ _ _ => trivial

end Counting

end SdbDebugger
