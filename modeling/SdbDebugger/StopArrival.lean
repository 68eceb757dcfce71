import SdbDebugger.StopHandling

/-! `wait_on_signal` in two halves: the arrival of a stop, up to the augmented
reason, and the response to it. Only the response may resume and wait again. -/

namespace SdbDebugger
open EffectRules ByteSpace StoppointCollection

variable {κ : Type} (P : Platform κ)

def arrive : Sdb κ StopReason := do
  let status ← waitpid P
  let reason := StopReason.ofStatus status
  modify fun w => { w with state := reason.reason }
  let w ← get
  if w.isAttached && reason.reason == .stopped then do
    Registers.readAllRegisters P
    augmentStopReason P reason
  else pure reason

def respond (wait : Sdb κ StopReason) (reason : StopReason) : Sdb κ StopReason := do
  let w ← get
  if w.isAttached && reason.reason == .stopped then do
    let pc ← getPc
    if reason.info = sigtrap then handleSigtrap P wait reason (pc - 1)
    else pure reason
  else pure reason

variable {P}

theorem preserves_syscallInformation {I : World κ → Prop}
    (expecting : ∀ w b, I w → I { w with expectingSyscallExit := b }) :
    Preserves I (syscallInformation : Sdb κ SyscallInformation) := by
  refine Preserves.get.bind fun w => Preserves.ite ?_ ?_
  · exact (Registers.preserves_readByIdAsU64 _).bind fun _ =>
      (Registers.preserves_readByIdAsU64 _).bind fun _ =>
      Preserves.bind (Preserves.modify fun w h => expecting w _ h) fun _ => Preserves.pure _
  · exact (Registers.preserves_readByIdAsU64 _).bind fun _ => (preserves_readArgs _).bind fun _ =>
      Preserves.bind (Preserves.modify fun w h => expecting w _ h) fun _ => Preserves.pure _

section Attached

variable {I : World κ → Prop}

/-- What no part of reading a stop touches. -/
structure StopBlind (I : World κ → Prop) : Prop where
  data : ∀ w d, I w → I { w with data := d }
  kernel : ∀ w k, I w → I { w with kernel := k }
  expecting : ∀ w b, I w → I { w with expectingSyscallExit := b }

theorem StopBlind.preserves_readDebugRegisters (blind : StopBlind I) (indices : List Nat) :
    Preserves I (Registers.readDebugRegisters P indices) := by
  induction indices with
  | nil => exact Preserves.pure _
  | cons i rest ih =>
    refine (preserves_liftFault _).bind fun info => ?_
    refine (preserves_orSendErrno fun w h => blind.kernel w _ h).bind fun data => ?_
    exact Preserves.bind (Preserves.modify fun w h => blind.data w _ h) fun _ => ih

theorem StopBlind.preserves_readAllRegisters (blind : StopBlind I) :
    Preserves I (Registers.readAllRegisters P) :=
  (preserves_orSendErrno fun w h => blind.kernel w _ h).bind fun _ =>
    Preserves.bind (Preserves.modify fun w h => blind.data w _ h) fun _ =>
    (preserves_orSendErrno fun w h => blind.kernel w _ h).bind fun _ =>
    Preserves.bind (Preserves.modify fun w h => blind.data w _ h) fun _ =>
    blind.preserves_readDebugRegisters _

theorem StopBlind.wp_augmentStopReason (blind : StopBlind I) (reason : StopReason)
    {w : World κ} (hw : I w) :
    wp (augmentStopReason P reason) (fun r t => I t ∧ r.reason = reason.reason)
      (fun _ t => I t) w := by
  unfold augmentStopReason
  rw [wp_bind]
  refine (preserves_orSendErrno (fun w h => blind.kernel w _ h) w hw).mono (fun siCode t ht => ?_)
    fun _ _ h => h
  rw [wp_ite]
  split
  · rw [wp_bind]
    exact (preserves_syscallInformation blind.expecting t ht).mono (fun _ _ h => ⟨h, rfl⟩)
      fun _ _ h => h
  · exact ⟨blind.expecting t _ ht, rfl⟩

theorem StopBlind.preserves_waitpid (blind : StopBlind I) : Preserves I (waitpid P) := by
  intro w h
  exact wp_waitpid (fun _ k _ => blind.kernel w k h) fun _ _ k _ _ => blind.kernel w k h

end Attached

section Reading

variable {I E : World κ → Prop}

theorem keeps_readAllRegisters (data : ∀ w d, I w → I { w with data := d })
    (getRegs : Keeps I E (orSendErrno "could not read GPR registers" P.getRegs))
    (getFpRegs : Keeps I E (orSendErrno "could not read FPR registers" P.getFpRegs))
    (peekUser : ∀ i < 8,
      Keeps I E (orSendErrno "could not read debug register" (P.peekUser (debugOffset i)))) :
    Keeps I E (Registers.readAllRegisters P) := by
  have debug : ∀ indices : List Nat, (∀ i ∈ indices, i < 8) →
      Keeps I E (Registers.readDebugRegisters P indices) := by
    intro indices valid
    induction indices with
    | nil => exact Keeps.pure _
    | cons i rest ih =>
      have hi := valid i List.mem_cons_self
      obtain ⟨info, found, offset, _⟩ := (wholeWord_dr hi).info
      unfold Registers.readDebugRegisters
      rw [found, liftFault_ok, pure_bind, offset]
      exact (peekUser i hi).bind fun v => (Keeps.modify fun w h => data w _ h).bind fun _ =>
        ih fun j member => valid j (List.mem_cons_of_mem i member)
  exact getRegs.bind fun _ => (Keeps.modify fun w h => data w _ h).bind fun _ =>
    getFpRegs.bind fun _ => (Keeps.modify fun w h => data w _ h).bind fun _ =>
    debug _ (by decide)

end Reading

/-- Reading a stop detaches nothing, and leaves it a stop. -/
theorem wp_readStop {w : World κ} (attached : w.isAttached = true) (reason : StopReason) :
    wp (do
        Registers.readAllRegisters P
        augmentStopReason P reason)
      (fun r t => t.isAttached = true ∧ r.reason = reason.reason) (fun _ _ => True) w := by
  have blind : StopBlind fun w : World κ => w.isAttached = true :=
    ⟨fun _ _ h => h, fun _ _ h => h, fun _ _ h => h⟩
  rw [wp_bind]
  refine (blind.preserves_readAllRegisters w attached).mono (fun _ t ht => ?_) fun _ _ _ => trivial
  exact (blind.wp_augmentStopReason reason ht).mono (fun _ _ h => h) fun _ _ _ => trivial

theorem waitOnSignal_succ (fuel : Nat) :
    waitOnSignal P (fuel + 1) = arrive P >>= respond P (waitOnSignal P fuel) := by
  funext w
  unfold arrive
  rw [waitOnSignal]
  cases outcome : waitpid P w with
  | error e t =>
    rw [bind_error outcome, bind_error (bind_error outcome _)]
  | ok status t =>
    rw [bind_ok outcome]
    simp only [bind_assoc]
    rw [bind_ok outcome]
    change (if _ then _ else _ : Sdb κ StopReason) { t with state := _ } =
      ((if _ then _ else _ : Sdb κ StopReason) >>= _) { t with state := _ }
    by_cases attended : (t.isAttached && (StopReason.ofStatus status).reason == .stopped) = true
    · rw [if_pos attended, if_pos attended, handleStopped]
      have attached : t.isAttached = true := (Bool.and_eq_true_iff.1 attended).1
      have spec := wp_readStop (P := P)
        (w := { t with state := (StopReason.ofStatus status).reason }) attached
        (StopReason.ofStatus status)
      cases read : (do
          Registers.readAllRegisters P
          augmentStopReason P (StopReason.ofStatus status))
          { t with state := (StopReason.ofStatus status).reason } with
      | error e u =>
        rw [bind_error read, ← bind_assoc, bind_error read]
      | ok r u =>
        rw [bind_ok read, ← bind_assoc, bind_ok read]
        have kept := (wp_of_ok read _ _).1 spec
        have stopped : (u.isAttached && r.reason == .stopped) = true := by
          rw [kept.1, kept.2]
          simpa using (Bool.and_eq_true_iff.1 attended).2
        change _ = (if _ then _ else _ : Sdb κ StopReason) u
        rw [if_pos stopped]
    · rw [if_neg attended, if_neg attended]
      change _ = (if _ then _ else _ : Sdb κ StopReason) { t with state := _ }
      rw [if_neg attended]

/-! ### What keeps an invariant -/

section Preservation

variable {I : World κ → Prop}

/-- What holds after the `waitpid` of an arrival holds after the arrival. -/
theorem wp_arrive_of_waitpid {err : Fault → World κ → Prop} {w : World κ}
    (state : ∀ w s, I w → I { w with state := s })
    (reading : Preserves I (Registers.readAllRegisters P))
    (sigInfo : Preserves I (orSendErrno "failed to get signal info" P.getSigInfo))
    (expecting : ∀ w b, I w → I { w with expectingSyscallExit := b })
    (waiting : wp (waitpid P) (fun _ t => I t) err w) :
    wp (arrive P) (fun _ t => I t) (fun e t => err e t ∨ I t) w := by
  have augment : ∀ reason, Preserves I (augmentStopReason P reason) := by
    refine fun reason => sigInfo.bind fun siCode => Preserves.ite ?_ ?_
    · exact (preserves_syscallInformation expecting).bind fun _ => Preserves.pure _
    · exact Preserves.bind (Preserves.modify fun w h => expecting w _ h) fun _ => Preserves.pure _
  have attend : ∀ reason : StopReason, Preserves I (do
      modify fun w : World κ => { w with state := reason.reason }
      let w ← get
      if w.isAttached && reason.reason == .stopped then do
        Registers.readAllRegisters P
        augmentStopReason P reason
      else pure reason) := fun reason =>
    Preserves.bind (Preserves.modify fun w h => state w _ h) fun _ => Preserves.get.bind fun w =>
      Preserves.ite (reading.bind fun _ => augment _) (Preserves.pure _)
  rw [arrive, wp_bind]
  refine waiting.mono (fun status t h => ?_) fun _ _ failed => .inl failed
  exact (attend _ t h).mono (fun _ _ kept => kept) fun _ _ kept => .inr kept

theorem preserves_arrive (waiting : Preserves I (waitpid P))
    (state : ∀ w s, I w → I { w with state := s })
    (reading : Preserves I (Registers.readAllRegisters P))
    (sigInfo : Preserves I (orSendErrno "failed to get signal info" P.getSigInfo))
    (expecting : ∀ w b, I w → I { w with expectingSyscallExit := b }) :
    Preserves I (arrive P) := by
  intro w h
  exact (wp_arrive_of_waitpid state reading sigInfo expecting (waiting w h)).mono
    (fun _ _ kept => kept) fun _ _ kept => kept.elim id id

/-- What keeps an invariant in answering a stop, with all that it may call. -/
theorem preserves_respond {wait : Sdb κ StopReason}
    (rewind : ∀ pc, Preserves I (setPc P pc)) (update : ∀ i, Preserves I (Watchpoint.updateData P i))
    (resuming : Preserves I (resume P)) (again : Preserves I wait) (reason : StopReason) :
    Preserves I (respond P wait reason) := by
  refine Preserves.get.bind fun w => Preserves.ite ?_ (Preserves.pure _)
  refine (Registers.preserves_readByIdAsU64 _).bind fun pc => Preserves.ite ?_ (Preserves.pure _)
  unfold handleSigtrap
  split
  · exact (preserves_enabledSiteAt _).bind fun _ => (preserves_forM fun _ => rewind _).bind
      fun _ => Preserves.pure _
  · exact (preserves_updateTriggeredWatchpoint update).bind fun _ => Preserves.pure _
  · refine Preserves.get.bind fun w => ?_
    split
    · exact Preserves.ite (Preserves.pure _) (resuming.bind fun _ => again)
    · exact Preserves.throw _
    · exact Preserves.pure _
  · exact Preserves.pure _

theorem preserves_waitOnSignal (arriving : Preserves I (arrive P))
    (rewind : ∀ pc, Preserves I (setPc P pc)) (update : ∀ i, Preserves I (Watchpoint.updateData P i))
    (resuming : Preserves I (resume P)) (fuel : Nat) : Preserves I (waitOnSignal P fuel) := by
  induction fuel with
  | zero => exact Preserves.throw _
  | succ fuel ih =>
    rw [waitOnSignal_succ]
    exact arriving.bind (preserves_respond rewind update resuming ih)

theorem preserves_resume (stepping : ∀ i, Preserves I (stepOver P i))
    (going : ∀ r, Preserves I (orSendErrno "could not resume" (P.resume r)))
    (state : ∀ w s, I w → I { w with state := s }) : Preserves I (resume P) :=
  (Registers.preserves_readByIdAsU64 _).bind fun _ => (preserves_enabledSiteAt _).bind fun _ =>
    (preserves_forM stepping).bind fun _ => Preserves.get.bind fun _ => (going _).bind fun _ =>
    Preserves.modify fun w h => state w _ h

theorem preserves_stepInstruction {fuel : Nat}
    (disable : ∀ i, Preserves I (BreakpointSite.disable P i))
    (enable : ∀ i, Preserves I (BreakpointSite.enable P i))
    (step : Preserves I (orSendErrno "could not single step" (P.resume .singleStep)))
    (waiting : Preserves I (waitOnSignal P fuel)) : Preserves I (stepInstruction P fuel) :=
  (Registers.preserves_readByIdAsU64 _).bind fun _ => (preserves_enabledSiteAt _).bind fun _ =>
    (preserves_forM disable).bind fun _ => step.bind fun _ => waiting.bind fun _ =>
    (preserves_forM enable).bind fun _ => Preserves.pure _

theorem StopBlind.preserves_arrive (blind : StopBlind I)
    (state : ∀ w s, I w → I { w with state := s }) : Preserves I (arrive P) :=
  SdbDebugger.preserves_arrive blind.preserves_waitpid state blind.preserves_readAllRegisters
    (preserves_orSendErrno fun w h => blind.kernel w _ h) blind.expecting

end Preservation

end SdbDebugger
