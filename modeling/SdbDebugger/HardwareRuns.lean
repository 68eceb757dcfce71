import SdbDebugger.HardwareInvariant
import SdbDebugger.ScriptedKernel
import SdbDebugger.SessionRuns
import SdbDebugger.StopArrival

/-! Whole sessions keep the slots of the debug registers owned: every operation on
stoppoints, and the steps off a site inside `resume` and `step_instruction`. -/

namespace SdbDebugger
open EffectRules ActionRuns ByteSpace StoppointCollection

variable {κ : Type} {P : Platform κ} {debug : κ → Nat → Word}

namespace HardwareInvariant

/-! ### Stoppoints -/

section Software

/-- The invariant, at a position that holds a software site. -/
def AtSoftware (debug : κ → Nat → Word) (i : Nat) (w : World κ) : Prop :=
  HardwareInvariant debug w ∧ ∃ site, w.breakpointSites[i]? = some site ∧ site.isHardware = false

variable {i : Nat}

theorem software_request {α : Type} {what : String} {op : κ → Except Errno α × κ}
    (kept : ∀ k, SlotsKept debug k (op k).2) :
    Preserves (AtSoftware debug i) (orSendErrno what op) :=
  preserves_orSendErrno fun w here =>
    ⟨here.1.congr (fun _ _ => rfl) (kept w.kernel) (List.Perm.refl _), here.2⟩

theorem software_modify {f : BreakpointSite → BreakpointSite}
    (keep : ∀ s, (f s).isHardware = s.isHardware) :
    Preserves (AtSoftware debug i) (modifySite i f : Sdb κ Unit) := by
  refine Preserves.modify fun w here => ?_
  obtain ⟨inv, site, at_i, soft⟩ := here
  refine ⟨inv.modifySite_same at_i ?_, f site, by simp [at_i], by rw [keep, soft]⟩
  simp [BreakpointSite.owner, keep, soft]

variable (laws : DebugRegisterLaws P.toKernel debug) {site : BreakpointSite}
include laws

theorem software_install (soft : site.isHardware = false) :
    Preserves (AtSoftware debug i) (BreakpointSite.install P i site) := by
  unfold BreakpointSite.install
  rw [soft, if_neg Bool.false_ne_true]
  refine (software_request (laws.peekData_kept _)).bind fun data => ?_
  refine (software_modify (f := fun s => { s with savedData := (data &&& 0xff).setWidth 8 })
    fun _ => rfl).bind fun _ => ?_
  exact software_request (laws.pokeData_kept _ _)

theorem software_uninstall (soft : site.isHardware = false) :
    Preserves (AtSoftware debug i) (BreakpointSite.uninstall P i site) := by
  unfold BreakpointSite.uninstall
  rw [soft, if_neg Bool.false_ne_true]
  refine (software_request (laws.peekData_kept _)).bind fun data => ?_
  exact software_request (laws.pokeData_kept _ _)

end Software

section Stoppoints

variable (laws : DebugRegisterLaws P.toKernel debug)
include laws

theorem preserves_siteEnable (i : Nat) :
    Preserves (HardwareInvariant debug) (BreakpointSite.enable P i) := by
  intro w inv
  unfold BreakpointSite.enable siteAt
  simp only [wp_bind, wp_get, wp_liftFault]
  refine ⟨fun site found => ?_, fun _ _ => inv⟩
  rw [deref_eq_ok] at found
  rw [wp_ite]
  split
  · exact inv
  · next disabled =>
    have off : site.isEnabled = false := by simpa using disabled
    rw [wp_bind]
    by_cases hard : site.isHardware = true
    · unfold BreakpointSite.install
      rw [if_pos hard, wp_bind]
      refine (wp_setHardwareStoppoint laws inv.values site.address .execute 1).mono ?_ ?_
      · intro index t claimed
        obtain ⟨slot, rfl, valid, free, code, size, only, values⟩ := claimed
        have enabled := inv.enableSite found off hard valid free size only values
        rw [modifySite, wp_modify, modifySite, wp_modify]
        simpa [List.modify_modify_eq, Function.comp_def] using enabled
      · intro e t failed
        rcases failed with ⟨rfl, _⟩ | ⟨slot, valid, free, only, values⟩
        · exact inv
        · obtain ⟨d, k, rfl⟩ := only
          exact of_values ⟨values.cached, values.kernel⟩
            (inv.owned.scratch valid free site.address) (List.Perm.refl _)
    · have soft : site.isHardware = false := by simpa using hard
      have here : AtSoftware debug i w := ⟨inv, site, found, soft⟩
      refine (software_install laws soft w here).mono (fun _ t kept => ?_) fun _ t kept => kept.1
      exact (software_modify (f := fun s => { s with isEnabled := true }) (fun _ => rfl) t kept).1

theorem wp_siteDisable (i : Nat) {w : World κ} (inv : HardwareInvariant debug w) :
    wp (BreakpointSite.disable P i)
      (fun _ t => HardwareInvariant debug t ∧
        ∃ site, t.breakpointSites[i]? = some site ∧ site.isEnabled = false)
      (fun _ t => HardwareInvariant debug t) w := by
  unfold BreakpointSite.disable siteAt
  simp only [wp_bind, wp_get, wp_liftFault]
  refine ⟨fun site found => ?_, fun _ _ => inv⟩
  rw [deref_eq_ok] at found
  rw [wp_ite]
  split
  · next off => exact ⟨inv, site, found, by simpa using off⟩
  · next enabled =>
    have on : site.isEnabled = true := by simpa using enabled
    rw [wp_bind]
    by_cases hard : site.isHardware = true
    · obtain ⟨slot, index, valid⟩ := inv.slot_of_site found on hard
      unfold BreakpointSite.uninstall
      rw [if_pos hard, wp_bind, index]
      refine (wp_clearHardwareStoppoint laws inv.values valid).mono ?_
        fun _ _ impossible => impossible.elim
      intro _ t released
      have disabled := inv.disableSite found on hard index released.1 released.2
      obtain ⟨d, k, rfl⟩ := released.1
      rw [modifySite, wp_modify, modifySite, wp_modify]
      refine ⟨by simpa [List.modify_modify_eq, Function.comp_def] using disabled, ?_⟩
      exact ⟨{ site with hardwareRegisterIndex := -1, isEnabled := false }, by simp [found], rfl⟩
    · have soft : site.isHardware = false := by simpa using hard
      have here : AtSoftware debug i w := ⟨inv, site, found, soft⟩
      refine (software_uninstall laws soft w here).mono (fun _ t kept => ?_) fun _ t kept => kept.1
      have disabled := software_modify (f := fun s => { s with isEnabled := false })
        (fun _ => rfl) t kept
      obtain ⟨_, s, at_i, _⟩ := kept
      exact ⟨disabled.1, { s with isEnabled := false }, by simp [at_i], rfl⟩

theorem preserves_siteDisable (i : Nat) :
    Preserves (HardwareInvariant debug) (BreakpointSite.disable P i) :=
  fun _ inv => (wp_siteDisable laws i inv).mono (fun _ _ h => h.1) fun _ _ h => h

theorem preserves_removeSite (found : Option Nat) :
    Preserves (HardwareInvariant debug) (removeSite P found) := by
  refine (preserves_liftFault _).bind fun i => ?_
  intro w inv
  rw [wp_bind]
  refine (wp_siteDisable laws i inv).mono (fun _ t done => ?_) fun _ _ h => h
  obtain ⟨kept, site, at_i, off⟩ := done
  exact kept.eraseSite at_i off

theorem preserves_watchpointEnable (i : Nat) :
    Preserves (HardwareInvariant debug) (Watchpoint.enable P i) := by
  intro w inv
  unfold Watchpoint.enable watchpointAt
  simp only [wp_bind, wp_get, wp_liftFault]
  refine ⟨fun point found => ?_, fun _ _ => inv⟩
  rw [deref_eq_ok] at found
  rw [wp_ite]
  split
  · exact inv
  · next disabled =>
    have off : point.isEnabled = false := by simpa using disabled
    rw [wp_bind]
    refine (wp_setHardwareStoppoint laws inv.values point.address point.mode point.size).mono ?_ ?_
    · intro index t claimed
      obtain ⟨slot, rfl, valid, free, code, size, only, values⟩ := claimed
      exact inv.enableWatchpoint found off valid free size only values
    · intro e t failed
      rcases failed with ⟨rfl, _⟩ | ⟨slot, valid, free, only, values⟩
      · exact inv
      · obtain ⟨d, k, rfl⟩ := only
        exact of_values ⟨values.cached, values.kernel⟩
          (inv.owned.scratch valid free point.address) (List.Perm.refl _)

theorem wp_watchpointDisable (i : Nat) {w : World κ} (inv : HardwareInvariant debug w) :
    wp (Watchpoint.disable P i)
      (fun _ t => HardwareInvariant debug t ∧
        ∃ point, t.watchpoints[i]? = some point ∧ point.isEnabled = false)
      (fun _ t => HardwareInvariant debug t) w := by
  unfold Watchpoint.disable watchpointAt
  simp only [wp_bind, wp_get, wp_liftFault]
  refine ⟨fun point found => ?_, fun _ _ => inv⟩
  rw [deref_eq_ok] at found
  rw [wp_ite]
  split
  · next off => exact ⟨inv, point, found, by simpa using off⟩
  · next enabled =>
    have on : point.isEnabled = true := by simpa using enabled
    obtain ⟨slot, index, valid⟩ := inv.slot_of_watchpoint found on
    rw [wp_bind, index]
    refine (wp_clearHardwareStoppoint laws inv.values valid).mono ?_
      fun _ _ impossible => impossible.elim
    intro _ t released
    have disabled := inv.disableWatchpoint found on index released.1 released.2
    obtain ⟨d, k, rfl⟩ := released.1
    exact ⟨disabled, { point with isEnabled := false }, by simp [found], rfl⟩

theorem preserves_watchpointDisable (i : Nat) :
    Preserves (HardwareInvariant debug) (Watchpoint.disable P i) :=
  fun _ inv => (wp_watchpointDisable laws i inv).mono (fun _ _ h => h.1) fun _ _ h => h

theorem preserves_removeWatchpoint (found : Option Nat) :
    Preserves (HardwareInvariant debug) (removeWatchpoint P found) := by
  refine (preserves_liftFault _).bind fun i => ?_
  intro w inv
  rw [wp_bind]
  refine (wp_watchpointDisable laws i inv).mono (fun _ t done => ?_) fun _ _ h => h
  obtain ⟨kept, point, at_i, off⟩ := done
  exact kept.eraseWatchpoint at_i off

theorem preserves_read (address : VirtAddr) (amount : Nat) :
    Preserves (HardwareInvariant debug) (readMemory P address amount) :=
  preserves_readMemory P
    (fun w iovs inv => inv.congr (fun _ _ => rfl) (laws.processVmReadv_kept iovs w.kernel)
      (List.Perm.refl _)) address amount

omit laws in
theorem preserves_createSite (address : VirtAddr) (hardware internal : Bool) :
    Preserves (HardwareInvariant debug)
      (createBreakpointSite address hardware internal : Sdb κ Nat) := by
  refine Preserves.get.bind fun w => Preserves.ite (Preserves.throw _) ?_
  refine (preserves_newSiteId internal fun w id inv => ?_).bind fun id => ?_
  · exact inv.congr (fun _ _ => rfl) (fun _ _ => rfl) (List.Perm.refl _)
  · refine Preserves.bind (Preserves.modify fun w inv => ?_) fun _ => Preserves.pure _
    refine inv.congr (fun _ _ => rfl) (fun _ _ => rfl) ?_
    simp [owners, BreakpointSite.owner]

theorem preserves_createWatchpoint (address : VirtAddr) (mode : StoppointMode)
    (size : BitVec 64) :
    Preserves (HardwareInvariant debug) (createWatchpoint P address mode size) := by
  refine Preserves.get.bind fun w => Preserves.ite (Preserves.throw _) ?_
  refine Preserves.ite (Preserves.throw _) ((preserves_liftFault _).bind fun id => ?_)
  refine Preserves.bind (Preserves.modify fun w inv => ?_) fun _ => ?_
  · exact inv.congr (fun _ _ => rfl) (fun _ _ => rfl) (List.Perm.refl _)
  · refine (preserves_read laws _ _).bind fun read => Preserves.ite (Preserves.throw _) ?_
    refine Preserves.bind (Preserves.modify fun w inv => ?_) fun _ => Preserves.pure _
    refine inv.congr (fun _ _ => rfl) (fun _ _ => rfl) ?_
    simp [owners, Watchpoint.owner]

theorem preserves_stoppoint (op : StoppointOp) :
    Preserves (HardwareInvariant debug) (op.perform P) := by
  cases op with
  | createSite address hardware internal =>
    exact (preserves_createSite address hardware internal).bind fun _ => Preserves.pure _
  | enableSite i => exact preserves_siteEnable laws i
  | disableSite i => exact preserves_siteDisable laws i
  | removeSiteById id => exact Preserves.get.bind fun w => preserves_removeSite laws _
  | removeSiteByAddress address => exact Preserves.get.bind fun w => preserves_removeSite laws _
  | createWatchpoint address mode size =>
    exact (preserves_createWatchpoint laws address mode size).bind fun _ => Preserves.pure _
  | enableWatchpoint i => exact preserves_watchpointEnable laws i
  | disableWatchpoint i => exact preserves_watchpointDisable laws i
  | removeWatchpointById id => exact Preserves.get.bind fun w => preserves_removeWatchpoint laws _
  | removeWatchpointByAddress address =>
    exact Preserves.get.bind fun w => preserves_removeWatchpoint laws _

end Stoppoints

/-! ### Running and stopping -/

section Running

variable (laws : DebugRegisterLaws P.toKernel debug)
include laws

theorem preserves_waitpid : Preserves (HardwareInvariant debug) (waitpid P) := by
  intro w inv
  have kept := laws.waitpid_kept w.kernel
  unfold wp waitpid
  rcases outcome : P.waitpid w.kernel with ⟨_ | _ | _, k⟩
  all_goals
    rw [outcome] at kept
    exact inv.congr (fun _ _ => rfl) kept (List.Perm.refl _)

theorem preserves_stepOver (i : Nat) : Preserves (HardwareInvariant debug) (stepOver P i) :=
  (preserves_siteDisable laws i).bind fun _ =>
    (preserves_request (laws.resume_kept _)).bind fun _ =>
    (preserves_waitpid laws).bind fun _ => preserves_siteEnable laws i

omit laws in
/-- The fields that only steer `resume` and `wait_on_signal`. -/
theorem flags {w : World κ} (inv : HardwareInvariant debug w) (policy : SyscallCatchPolicy)
    (expecting : Bool) (state : ProcState) :
    HardwareInvariant debug { w with
      syscallCatchPolicy := policy, expectingSyscallExit := expecting, state := state } :=
  inv.congr (fun _ _ => rfl) (fun _ _ => rfl) (List.Perm.refl _)

theorem preserves_resume : Preserves (HardwareInvariant debug) (resume P) :=
  SdbDebugger.preserves_resume (preserves_stepOver laws)
    (fun _ => preserves_request (laws.resume_kept _)) fun _ _ inv => inv.flags _ _ _

omit laws in
theorem slots_apart : ∀ i < 8, ∀ k < 8,
    sizeofRegs ≤ (debugOffset i + BitVec.ofNat 64 k - BitVec.ofNat 64 offsetofRegs).toNat ∧
    sizeofI387 ≤ (debugOffset i + BitVec.ofNat 64 k - BitVec.ofNat 64 offsetofI387).toNat ∧
    8 ≤ (debugOffset i + BitVec.ofNat 64 k - 128).toNat := by decide +kernel

omit laws in
/-- Filling other parts of the cache. -/
theorem preserves_fill {start : BitVec 64} {n : Nat} {src : Nat → Byte}
    (apart : ∀ i < 8, ∀ k < 8, n ≤ (debugOffset i + BitVec.ofNat 64 k - start).toNat) :
    Preserves (HardwareInvariant debug)
      (modify fun w => { w with data := overwrite w.data start n src } : Sdb κ Unit) :=
  Preserves.modify fun _ inv => inv.congr
    (fun i slot => load_overwrite_disjoint (apart i (slotRegister_lt slot)))
    (fun _ _ => rfl) (List.Perm.refl _)

theorem preserves_readDebugRegisters {indices : List Nat} (valid : ∀ i ∈ indices, i < 8) :
    Preserves (HardwareInvariant debug) (Registers.readDebugRegisters P indices) := by
  induction indices with
  | nil => exact Preserves.pure _
  | cons i rest ih =>
    intro w inv
    have hi := valid i List.mem_cons_self
    obtain ⟨info, found, offset, _⟩ := (wholeWord_dr hi).info
    unfold Registers.readDebugRegisters
    rw [found, liftFault_ok, pure_bind, offset, wp_bind, wp_orSendErrno]
    have kept := laws.peekUser_kept (debugOffset i) w.kernel
    refine ⟨fun v k peek => ?_, fun e k peek => ?_⟩
    · have value := laws.peekUser_value i hi _ _ _ peek
      rw [peek] at kept
      rw [wp_bind, wp_modify]
      refine ih (fun j later => valid j (List.mem_cons_of_mem i later)) _ ?_
      refine inv.congr (fun j slot => ?_) kept (List.Perm.refl _)
      change load (store w.data (debugOffset i) 8 v) (debugOffset j) 8 = _
      rw [load_store_debug _ hi (slotRegister_lt slot)]
      split
      · next same => rw [value, inv.values.cached j slot, same]
      · rfl
    · rw [peek] at kept
      exact inv.congr (fun _ _ => rfl) kept (List.Perm.refl _)

theorem preserves_readAllRegisters :
    Preserves (HardwareInvariant debug) (Registers.readAllRegisters P) :=
  (preserves_request laws.getRegs_kept).bind fun _ =>
    (preserves_fill fun i hi k hk => (slots_apart i hi k hk).1).bind fun _ =>
    (preserves_request laws.getFpRegs_kept).bind fun _ =>
    (preserves_fill fun i hi k hk => (slots_apart i hi k hk).2.1).bind fun _ =>
    preserves_readDebugRegisters laws (by decide)

theorem preserves_setPc (address : VirtAddr) :
    Preserves (HardwareInvariant debug) (setPc P address) := by
  rw [setPc_eq]
  refine (preserves_fill fun i hi k hk => (slots_apart i hi k hk).2.2).bind fun _ => ?_
  exact preserves_request fun k => laws.pokeUser_apart _ _ _ fun i hi j hj =>
    (slots_apart i hi j hj).2.2

omit laws in
theorem preserves_modifyWatchpoint (i : Nat) {f : Watchpoint → Watchpoint}
    (same : ∀ p, (f p).owner = p.owner) :
    Preserves (HardwareInvariant debug) (modifyWatchpoint i f : Sdb κ Unit) := by
  refine Preserves.modify fun w inv => ?_
  cases found : w.watchpoints[i]? with
  | none =>
    have outside := List.getElem?_eq_none_iff.1 found
    simpa [List.modify_eq_self outside] using inv
  | some point => exact inv.modifyWatchpoint_same found (same point)

theorem preserves_updateData (i : Nat) :
    Preserves (HardwareInvariant debug) (Watchpoint.updateData P i) :=
  SdbDebugger.preserves_updateData P
    (fun w iovs inv => inv.congr (fun _ _ => rfl) (laws.processVmReadv_kept iovs w.kernel)
      (List.Perm.refl _)) i
    fun _ => preserves_modifyWatchpoint i fun _ => rfl

theorem preserves_arrive : Preserves (HardwareInvariant debug) (arrive P) :=
  SdbDebugger.preserves_arrive (preserves_waitpid laws) (fun _ _ inv => inv.flags _ _ _)
    (preserves_readAllRegisters laws) (preserves_request laws.getSigInfo_kept)
    fun _ _ inv => inv.flags _ _ _

theorem preserves_waitOnSignal (fuel : Nat) :
    Preserves (HardwareInvariant debug) (waitOnSignal P fuel) :=
  SdbDebugger.preserves_waitOnSignal (preserves_arrive laws) (preserves_setPc laws)
    (preserves_updateData laws) (preserves_resume laws) fuel

theorem preserves_stepInstruction (fuel : Nat) :
    Preserves (HardwareInvariant debug) (stepInstruction P fuel) :=
  SdbDebugger.preserves_stepInstruction (preserves_siteDisable laws) (preserves_siteEnable laws)
    (preserves_request (laws.resume_kept _)) (preserves_waitOnSignal laws fuel)

theorem preserves_session (op : SessionOp) :
    Preserves (HardwareInvariant debug) (op.perform P) := by
  cases op with
  | stoppoint op => exact preserves_stoppoint laws op
  | resume => exact preserves_resume laws
  | waitOnSignal fuel => exact (preserves_waitOnSignal laws fuel).bind fun _ => Preserves.pure _
  | stepInstruction fuel =>
    exact (preserves_stepInstruction laws fuel).bind fun _ => Preserves.pure _
  | setSyscallCatchPolicy policy =>
    exact Preserves.modify fun _ inv => inv.flags _ _ _

theorem of_run {ops : List SessionOp} {w w' : World κ} (start : HardwareInvariant debug w)
    (reach : run (sessionStep P) ops w = some w') : HardwareInvariant debug w' :=
  run_invariant (fun op _ _ kept alive => survive_invariant (preserves_session laws op) kept alive)
    start reach

end Running

/-- Where no slot is enabled and nothing owns one. -/
theorem of_idle {w : World κ} (free : ∀ i < 4, enableBits (debug w.kernel 7) i = 0)
    (upper : upperBits (debug w.kernel 7) = 0)
    (cached : ∀ i, SlotRegister i → load w.data (debugOffset i) 8 = debug w.kernel i)
    (idle : owners w = []) : HardwareInvariant debug w := by
  have nothing : enabledSlots (debug w.kernel 7) = [] := by
    rw [List.eq_nil_iff_forall_not_mem]
    intro i slot
    have enabled := mem_enabledSlots.1 slot
    exact enabled.2 (free i enabled.1)
  refine ⟨⟨cached, fun _ _ => rfl⟩, upper, ?_, ?_⟩
  · rw [idle, nothing]
    exact List.Perm.refl _
  · rw [idle]
    intro o member
    contradiction

end HardwareInvariant

/-! ### Sessions -/

section Sessions

variable (laws : DebugRegisterLaws P.toKernel debug)
include laws

theorem setHardwareStoppoint_full {w : World κ} {dr : Nat → Word} (values : SlotValues debug dr w)
    (full : ∀ i < 4, enableBits (dr 7) i ≠ 0) (address : VirtAddr) (mode : StoppointMode)
    (size : BitVec 64) :
    setHardwareStoppoint P address mode size w =
      .error (.error "no remaining hardware debug registers") w := by
  have spec := wp_iff.1 (wp_setHardwareStoppoint laws values address mode size)
  cases outcome : setHardwareStoppoint P address mode size w with
  | ok index t =>
    obtain ⟨i, _, hi, free, _⟩ := spec.1 index t outcome
    exact absurd free (full i hi)
  | error e t =>
    rcases spec.2 e t outcome with ⟨same, message, _⟩ | ⟨i, hi, free, _⟩
    · rw [same, message]
    · exact absurd free (full i hi)

/-- In every session the enabled hardware stoppoints own the enabled slots, one
each; there are at most four, and enabling a fifth raises and changes nothing. -/
theorem hardwareSlots_of_run (ops : List SessionOp) (w w' : World κ)
    (free : ∀ i < 4, enableBits (debug w.kernel 7) i = 0)
    (upper : upperBits (debug w.kernel 7) = 0)
    (cached : ∀ i, SlotRegister i → load w.data (debugOffset i) 8 = debug w.kernel i)
    (idle : owners w = []) (reach : run (sessionStep P) ops w = some w') :
    SlotsOwned (debug w'.kernel) (owners w') ∧ (owners w').length ≤ 4 ∧
    ((owners w').length = 4 →
      (∀ i site, w'.breakpointSites[i]? = some site → site.isEnabled = false →
        site.isHardware = true →
        BreakpointSite.enable P i w' =
          .error (.error "no remaining hardware debug registers") w') ∧
      ∀ i point, w'.watchpoints[i]? = some point → point.isEnabled = false →
        Watchpoint.enable P i w' =
          .error (.error "no remaining hardware debug registers") w') := by
  have inv := HardwareInvariant.of_run laws (HardwareInvariant.of_idle free upper cached idle) reach
  refine ⟨inv.owned, inv.owned.length_le, fun four => ⟨fun i site at_i off hard => ?_,
    fun i point at_i off => ?_⟩⟩
  · have position : (siteAt i : Sdb κ BreakpointSite) w' = .ok site w' := by
      change liftFault (deref w'.breakpointSites i) w' = _
      rw [deref_eq_ok.2 at_i]
      rfl
    have refused : BreakpointSite.install P i site w' =
        .error (.error "no remaining hardware debug registers") w' := by
      rw [BreakpointSite.install, if_pos hard]
      exact bind_error (setHardwareStoppoint_full laws inv.values (inv.owned.full four) _ _ _) _
    rw [BreakpointSite.enable, bind_ok position, off, if_neg Bool.false_ne_true]
    exact bind_error refused _
  · have position : (watchpointAt i : Sdb κ Watchpoint) w' = .ok point w' := by
      change liftFault (deref w'.watchpoints i) w' = _
      rw [deref_eq_ok.2 at_i]
      rfl
    rw [Watchpoint.enable, bind_ok position, off, if_neg Bool.false_ne_true]
    exact bind_error (setHardwareStoppoint_full laws inv.values (inv.owned.full four) _ _ _) _

end Sessions

/-- Five hardware stoppoints, one of them with a size no slot can express, and the
step off a hardware site in between. -/
def crowdedSlots : List SessionOp :=
  [.stoppoint (.createSite 0x1000 true false), .stoppoint (.enableSite 0),
    .stoppoint (.createWatchpoint 0x2000 .write 8), .stoppoint (.enableWatchpoint 0),
    .stoppoint (.createWatchpoint 0x3000 .readWrite 3), .stoppoint (.enableWatchpoint 1),
    .stoppoint (.createSite 0x4000 true false), .stoppoint (.enableSite 1),
    .stoppoint (.disableWatchpoint 0), .resume, .waitOnSignal 1,
    .stoppoint (.createSite 0x5000 true false), .stoppoint (.enableSite 2),
    .stoppoint (.enableWatchpoint 0), .stoppoint (.createWatchpoint 0x6000 .write 1),
    .stoppoint (.enableWatchpoint 2), .stepInstruction 1]

/-- The hardware site at 0x4000 is hit in slot 2; then a single step. -/
def crowdedStops : List KernelStop :=
  [⟨.stopped sigtrap, fun off => if off = 129 then 0x40 else if off = 896 then 4 else 0, trapHwbkpt⟩,
    ⟨.stopped sigtrap, fun off => if off = 129 then 0x41 else 0, trapTrace⟩]

theorem hardwareSlots_of_run_crowded :
    ∃ w', run (sessionStep scriptedPlatform) crowdedSlots (scriptedWorld [] crowdedStops) = some w' ∧
      SlotsOwned (Scripted.debug w'.kernel) (owners w') := by
  obtain ⟨w', reach⟩ := Option.isSome_iff_exists.1 (show (run (sessionStep scriptedPlatform)
    crowdedSlots (scriptedWorld [] crowdedStops)).isSome = true by decide +kernel)
  have cached : ∀ i, SlotRegister i → load (scriptedWorld [] crowdedStops).data (debugOffset i) 8 =
      Scripted.debug (scriptedWorld [] crowdedStops).kernel i := by
    intro i slot
    rw [Scripted.debug, if_pos (slotRegister_lt slot)]
    rfl
  exact ⟨w', reach, (hardwareSlots_of_run Scripted.debugRegisterLaws _ _ w' (by decide +kernel)
    (by decide +kernel) cached rfl reach).1⟩

end SdbDebugger
