import SdbDebugger.BreakpointTransparency
import SdbDebugger.RegisterAliasing
import SdbDebugger.TypedSessions

/-! The registers that the debugger shows. A wait for a stop reads all of them, and every change
of one goes to the cache and to the inferior, so whatever is done from one stop to the next,
reading the cache is reading the inferior. -/

namespace SdbDebugger
open EffectRules ActionRuns ByteSpace StoppointCollection

/-- Requests for memory and for what a stop was leave the registers alone. -/
structure UserFrame {κ : Type} (K : Kernel κ) (user : κ → UserArea) : Prop where
  peekData : ∀ a k, user (K.peekData a k).2 = user k
  pokeData : ∀ a v k, user (K.pokeData a v k).2 = user k
  processVmReadv : ∀ iovs k, user (K.processVmReadv iovs k).2 = user k
  getSigInfo : ∀ k, user (K.getSigInfo k).2 = user k

/-- A write that the kernel has refused is in the cache all the same. -/
def Unpushed (e : Fault) : Prop :=
  ∃ errno, e = .sendErrno "could not write to user area" errno ∨
    e = .sendErrno "could not write floating point registers" errno

variable {κ : Type} {P : Platform κ} {user : κ → UserArea}

/-- At a stop, the cache holds the registers of the inferior. -/
structure Fresh (user : κ → UserArea) (w : World κ) : Prop where
  attached : w.isAttached = true
  agree : w.state = .stopped → Agree user cachedOffsets w

theorem Fresh.of_same {w t : World κ} (fresh : Fresh user w) (attached : t.isAttached = w.isAttached)
    (state : t.state = w.state) (data : t.data = w.data) (kept : user t.kernel = user w.kernel) :
    Fresh user t where
  attached := attached.trans fresh.attached
  agree stopped off member := by
    rw [data, kept]
    exact fresh.agree (state ▸ stopped) off member

theorem preserves_request_fresh {α : Type} {what : String} {op : κ → Except Errno α × κ}
    (kept : ∀ k, user (op k).2 = user k) : Preserves (Fresh user) (orSendErrno what op) :=
  preserves_orSendErrno fun w fresh => fresh.of_same rfl rfl rfl (kept w.kernel)

/-! ### Writes -/

theorem mem_of_registerInfoBy {f : RegisterInfo → Bool} {info : RegisterInfo}
    (found : registerInfoBy f = .ok info) : info ∈ gRegisterInfos := by
  unfold registerInfoBy at found
  split at found
  · next here =>
    cases found
    exact List.mem_of_find?_eq_some here
  · cases found

namespace Registers

theorem wp_writeBack_error {info : RegisterInfo} {w : World κ} :
    wp (writeBack P info) (fun _ _ => True) (fun e _ => Unpushed e) w := by
  unfold writeBack writeFprs writeUserArea
  rw [wp_bind, wp_get, wp_ite]
  split
  · exact wp_orSendErrno.2 ⟨fun _ _ _ => trivial, fun e _ _ => ⟨e, .inr rfl⟩⟩
  · exact wp_orSendErrno.2 ⟨fun _ _ _ => trivial, fun e _ _ => ⟨e, .inl rfl⟩⟩

theorem wp_write_error {info : RegisterInfo} {val : Value} {w : World κ} :
    wp (write P info val) (fun _ _ => True) (fun e t => Unpushed e ∨ t = w) w := by
  unfold write setValue
  rw [wp_bind, wp_ite]
  split
  · exact wp_writeBack_error.mono (fun _ _ _ => trivial) fun _ _ refused => .inl refused
  · exact .inr rfl

theorem registerBlind_lifetime (s : ProcState) :
    RegisterBlind P fun w : World κ => w.isAttached = true ∧ w.state = s :=
  ⟨fun _ _ h => h, fun _ _ _ h => h, fun _ _ h => h⟩

end Registers

section Writes

variable (stores : RegisterStores P.toKernel user)
include stores

theorem survives_write {info : RegisterInfo} (listed : info ∈ gRegisterInfos) (val : Value) :
    Survives Unpushed (Fresh user) (Registers.write P info val) := by
  intro w fresh
  have frame := Registers.preserves_write P (Registers.registerBlind_lifetime w.state) info val w
    ⟨fresh.attached, rfl⟩
  by_cases stopped : w.state = .stopped
  · have pushed : wp (Registers.write P info val) _ _ w :=
      Registers.wp_write stores listed (fresh.agree stopped)
    refine ((frame.and pushed).and Registers.wp_write_error).mono (fun _ t h => ?_) fun e t h => ?_
    · exact ⟨h.1.1.1, fun _ => h.1.2⟩
    · rcases h.2 with refused | rfl
      · exact .inl refused
      · exact .inr fresh
  · have running : ∀ t : World κ, t.isAttached = true ∧ t.state = w.state → Fresh user t :=
      fun t kept => ⟨kept.1, fun now => absurd (kept.2 ▸ now) stopped⟩
    exact frame.mono (fun _ t kept => running t kept) fun _ t kept => .inr (running t kept)

theorem survives_writeById (id : Int) (val : Value) :
    Survives Unpushed (Fresh user) (Registers.writeById P id val) := by
  intro w fresh
  rw [Registers.writeById, wp_bind, wp_liftFault]
  refine ⟨fun info found => ?_, fun _ _ => .inr fresh⟩
  exact survives_write stores (mem_of_registerInfoBy found) val w fresh

theorem survives_setHardwareStoppoint (address : VirtAddr) (mode : StoppointMode)
    (size : BitVec 64) :
    Survives Unpushed (Fresh user) (setHardwareStoppoint P address mode size) :=
  (Survives.of_preserves (Registers.preserves_readByIdAsU64 _)).bind fun _ =>
    (Survives.of_preserves (preserves_liftFault _)).bind fun _ =>
    (survives_writeById stores _ _).bind fun _ =>
    (Survives.of_preserves (preserves_liftFault _)).bind fun _ =>
    (survives_writeById stores _ _).bind fun _ => .of_preserves (Preserves.pure _)

theorem survives_clearHardwareStoppoint (index : Int) :
    Survives Unpushed (Fresh user) (clearHardwareStoppoint P index) :=
  (survives_writeById stores _ _).bind fun _ =>
    (Survives.of_preserves (Registers.preserves_readByIdAsU64 _)).bind fun _ =>
    Survives.ite (survives_writeById stores _ _) (.of_preserves (Preserves.throw _))

end Writes

/-! ### Stoppoints -/

section Toggles

theorem preserves_modifySite_fresh (i : Nat) (f : BreakpointSite → BreakpointSite) :
    Preserves (Fresh user) (modifySite i f : Sdb κ Unit) :=
  Preserves.modify fun _ fresh => fresh.of_same rfl rfl rfl rfl

theorem preserves_modifyWatchpoint_fresh (i : Nat) (f : Watchpoint → Watchpoint) :
    Preserves (Fresh user) (modifyWatchpoint i f : Sdb κ Unit) :=
  Preserves.modify fun _ fresh => fresh.of_same rfl rfl rfl rfl

variable (stores : RegisterStores P.toKernel user) (frame : UserFrame P.toKernel user)
include stores frame

theorem survives_install (i : Nat) (site : BreakpointSite) :
    Survives Unpushed (Fresh user) (BreakpointSite.install P i site) := by
  refine Survives.ite ?_ (.of_preserves ?_)
  · exact (survives_setHardwareStoppoint stores _ _ _).bind fun _ =>
      .of_preserves (preserves_modifySite_fresh i _)
  · exact (preserves_request_fresh (frame.peekData _)).bind fun _ =>
      (preserves_modifySite_fresh i _).bind fun _ => preserves_request_fresh (frame.pokeData _ _)

theorem survives_uninstall (i : Nat) (site : BreakpointSite) :
    Survives Unpushed (Fresh user) (BreakpointSite.uninstall P i site) := by
  refine Survives.ite ?_ (.of_preserves ?_)
  · exact (survives_clearHardwareStoppoint stores _).bind fun _ =>
      .of_preserves (preserves_modifySite_fresh i _)
  · exact (preserves_request_fresh (frame.peekData _)).bind fun _ =>
      preserves_request_fresh (frame.pokeData _ _)

theorem survives_siteEnable (i : Nat) :
    Survives Unpushed (Fresh user) (BreakpointSite.enable P i) :=
  (Survives.of_preserves (StoppointBlind.preserves_siteAt i)).bind fun site =>
    Survives.ite (.of_preserves (Preserves.pure _)) ((survives_install stores frame i site).bind
      fun _ => .of_preserves (preserves_modifySite_fresh i _))

theorem survives_siteDisable (i : Nat) :
    Survives Unpushed (Fresh user) (BreakpointSite.disable P i) :=
  (Survives.of_preserves (StoppointBlind.preserves_siteAt i)).bind fun site =>
    Survives.ite (.of_preserves (Preserves.pure _)) ((survives_uninstall stores frame i site).bind
      fun _ => .of_preserves (preserves_modifySite_fresh i _))

omit frame in
theorem survives_watchpointEnable (i : Nat) :
    Survives Unpushed (Fresh user) (Watchpoint.enable P i) :=
  (Survives.of_preserves (StoppointBlind.preserves_watchpointAt i)).bind fun _ =>
    Survives.ite (.of_preserves (Preserves.pure _)) ((survives_setHardwareStoppoint stores _ _ _).bind
      fun _ => .of_preserves (preserves_modifyWatchpoint_fresh i _))

omit frame in
theorem survives_watchpointDisable (i : Nat) :
    Survives Unpushed (Fresh user) (Watchpoint.disable P i) :=
  (Survives.of_preserves (StoppointBlind.preserves_watchpointAt i)).bind fun _ =>
    Survives.ite (.of_preserves (Preserves.pure _)) ((survives_clearHardwareStoppoint stores _).bind
      fun _ => .of_preserves (preserves_modifyWatchpoint_fresh i _))

theorem survives_removeSite (found : Option Nat) :
    Survives Unpushed (Fresh user) (removeSite P found) :=
  (Survives.of_preserves (preserves_liftFault _)).bind fun i =>
    (survives_siteDisable stores frame i).bind fun _ =>
    .of_preserves (Preserves.modify fun _ fresh => fresh.of_same rfl rfl rfl rfl)

omit frame in
theorem survives_removeWatchpoint (found : Option Nat) :
    Survives Unpushed (Fresh user) (removeWatchpoint P found) :=
  (Survives.of_preserves (preserves_liftFault _)).bind fun i =>
    (survives_watchpointDisable stores i).bind fun _ =>
    .of_preserves (Preserves.modify fun _ fresh => fresh.of_same rfl rfl rfl rfl)

omit stores frame in
theorem preserves_createBreakpointSite_fresh (address : VirtAddr) (hardware internal : Bool) :
    Preserves (Fresh user) (createBreakpointSite address hardware internal : Sdb κ Nat) := by
  refine Preserves.get.bind fun w => Preserves.ite (Preserves.throw _) ?_
  refine (preserves_newSiteId internal fun w id fresh => fresh.of_same rfl rfl rfl rfl).bind fun _ => ?_
  exact Preserves.bind (Preserves.modify fun _ fresh => fresh.of_same rfl rfl rfl rfl)
    fun _ => Preserves.pure _

omit stores in
theorem reads_fresh (w : World κ) (iovs : List Iovec) (fresh : Fresh user w) :
    Fresh user { w with kernel := (P.processVmReadv iovs w.kernel).2 } :=
  fresh.of_same rfl rfl rfl (frame.processVmReadv iovs w.kernel)

omit stores in
theorem preserves_createWatchpoint_fresh (address : VirtAddr) (mode : StoppointMode)
    (size : BitVec 64) : Preserves (Fresh user) (createWatchpoint P address mode size) := by
  refine Preserves.get.bind fun w => Preserves.ite (Preserves.throw _) ?_
  refine Preserves.ite (Preserves.throw _) ((preserves_liftFault _).bind fun id => ?_)
  refine Preserves.bind (Preserves.modify fun _ fresh => fresh.of_same rfl rfl rfl rfl) fun _ => ?_
  refine (preserves_readMemory P (reads_fresh frame) _ _).bind fun _ => ?_
  refine Preserves.ite (Preserves.throw _) ?_
  exact Preserves.bind (Preserves.modify fun _ fresh => fresh.of_same rfl rfl rfl rfl)
    fun _ => Preserves.pure _

theorem survives_perform_fresh (op : StoppointOp) :
    Survives Unpushed (Fresh user) (op.perform P) := by
  cases op with
  | createSite address hardware internal =>
    exact .of_preserves ((preserves_createBreakpointSite_fresh address hardware internal).bind
      fun _ => Preserves.pure _)
  | enableSite i => exact survives_siteEnable stores frame i
  | disableSite i => exact survives_siteDisable stores frame i
  | removeSiteById id =>
    exact (Survives.of_preserves Preserves.get).bind fun _ => survives_removeSite stores frame _
  | removeSiteByAddress address =>
    exact (Survives.of_preserves Preserves.get).bind fun _ => survives_removeSite stores frame _
  | createWatchpoint address mode size =>
    exact .of_preserves ((preserves_createWatchpoint_fresh frame address mode size).bind
      fun _ => Preserves.pure _)
  | enableWatchpoint i => exact survives_watchpointEnable stores i
  | disableWatchpoint i => exact survives_watchpointDisable stores i
  | removeWatchpointById id =>
    exact (Survives.of_preserves Preserves.get).bind fun _ => survives_removeWatchpoint stores _
  | removeWatchpointByAddress address =>
    exact (Survives.of_preserves Preserves.get).bind fun _ => survives_removeWatchpoint stores _

end Toggles

/-! ### Stops -/

theorem attached_toggles : ToggleBlind fun w : World κ => w.isAttached = true :=
  ⟨⟨fun _ _ h => h, fun _ _ h => h, fun _ _ h => h⟩, fun _ _ h => h, fun _ _ _ _ h => h,
    fun _ _ _ _ h => h⟩

section Stops

variable (loads : RegisterLoads P.toKernel user) (stores : RegisterStores P.toKernel user)
  (frame : UserFrame P.toKernel user)

include frame in
theorem preserves_augmentStopReason_fresh (reason : StopReason) :
    Preserves (Fresh user) (augmentStopReason P reason) := by
  have expecting : ∀ (w : World κ) b, Fresh user w → Fresh user { w with expectingSyscallExit := b } :=
    fun w b fresh => fresh.of_same rfl rfl rfl rfl
  refine (preserves_request_fresh frame.getSigInfo).bind fun _ => Preserves.ite ?_ ?_
  · exact (preserves_syscallInformation expecting).bind fun _ => Preserves.pure _
  · exact Preserves.bind (Preserves.modify fun w fresh => expecting w _ fresh) fun _ =>
      Preserves.pure _

include loads frame in
theorem wp_readStop_fresh {w : World κ} (attached : w.isAttached = true) (reason : StopReason) :
    wp (do
        Registers.readAllRegisters P
        augmentStopReason P reason)
      (fun _ t => Fresh user t) (fun _ _ => True) w := by
  rw [wp_bind]
  refine (wp_readAllRegisters loads w).mono (fun _ t read => ?_) fun _ _ _ => trivial
  obtain ⟨d, k, rfl, _, agree⟩ := read
  have fresh : Fresh user { w with data := d, kernel := k } := ⟨attached, fun _ => agree⟩
  exact (preserves_augmentStopReason_fresh frame reason _ fresh).mono (fun _ _ kept => kept)
    fun _ _ _ => trivial

include loads frame in
/-- What the cache held before does not matter. -/
theorem wp_arrive_fresh {w : World κ} (attached : w.isAttached = true) :
    wp (arrive P) (fun _ t => Fresh user t) (fun _ _ => True) w := by
  rw [arrive, wp_bind]
  refine wp_waitpid (fun status k _ => ?_) fun _ _ _ _ _ => trivial
  rw [wp_bind, wp_modify, wp_bind, wp_get, wp_ite]
  split
  · refine wp_readStop_fresh loads frame ?_ _
    exact attached
  · next other =>
    refine ⟨attached, fun stopped => absurd ?_ other⟩
    rw [Bool.and_eq_true, beq_iff_eq]
    exact ⟨attached, stopped⟩

theorem wp_resume_attached {w : World κ} (attached : w.isAttached = true) :
    wp (resume P) (fun _ t => t.isAttached = true) (fun _ _ => True) w :=
  (attached_toggles.preserves_resume w attached).mono (fun _ _ kept => kept) fun _ _ _ => trivial

include stores frame in
theorem survives_respond_fresh {wait : Sdb κ StopReason} (again : ∀ t : World κ, t.isAttached = true →
      wp wait (fun _ t => Fresh user t) (fun _ _ => True) t) (reason : StopReason) :
    Survives (fun _ => True) (Fresh user) (respond P wait reason) := by
  refine (Survives.of_preserves Preserves.get).bind fun w => Survives.ite ?_
    (.of_preserves (Preserves.pure _))
  refine (Survives.of_preserves (Registers.preserves_readByIdAsU64 _)).bind fun pc =>
    Survives.ite ?_ (.of_preserves (Preserves.pure _))
  unfold handleSigtrap
  split
  · exact (Survives.of_preserves (preserves_enabledSiteAt _)).bind fun _ =>
      (survives_forM fun _ => (survives_writeById stores _ _).mono fun _ _ => trivial).bind fun _ =>
      .of_preserves (Preserves.pure _)
  · refine (Survives.of_preserves (preserves_updateTriggeredWatchpoint fun i => ?_)).bind fun _ =>
      .of_preserves (Preserves.pure _)
    exact preserves_updateData P (reads_fresh frame) i fun _ => preserves_modifyWatchpoint_fresh i _
  · refine (Survives.of_preserves Preserves.get).bind fun w => ?_
    split
    · refine Survives.ite (.of_preserves (Preserves.pure _)) fun s fresh => ?_
      rw [wp_bind]
      exact (wp_resume_attached fresh.attached).mono
        (fun _ t kept => (again t kept).mono (fun _ _ h => h) fun _ _ _ => .inl trivial)
        fun _ _ _ => .inl trivial
    · exact .of_preserves (Preserves.throw _)
    · exact .of_preserves (Preserves.pure _)
  · exact .of_preserves (Preserves.pure _)

include loads stores frame in
/-- A wait for a process that the debugger is attached to comes back with its registers. -/
theorem wp_waitOnSignal_fresh (fuel : Nat) {w : World κ} (attached : w.isAttached = true) :
    wp (waitOnSignal P fuel) (fun _ t => Fresh user t) (fun _ _ => True) w := by
  induction fuel generalizing w with
  | zero => trivial
  | succ fuel ih =>
    rw [waitOnSignal_succ, wp_bind]
    refine (wp_arrive_fresh loads frame attached).mono (fun reason t fresh => ?_)
      fun _ _ _ => trivial
    exact (survives_respond_fresh stores frame (fun _ kept => ih kept) reason t fresh).mono
      (fun _ _ h => h) fun _ _ _ => trivial

include loads stores frame in
theorem wp_stepInstruction_fresh (fuel : Nat) {w : World κ} (attached : w.isAttached = true) :
    wp (stepInstruction P fuel) (fun _ t => Fresh user t) (fun _ _ => True) w := by
  have before : ∀ found : Option Nat, Preserves (fun w : World κ => w.isAttached = true)
      (found.forM (BreakpointSite.disable P) >>= fun _ =>
        orSendErrno "could not single step" (P.resume .singleStep)) := fun found =>
    (preserves_forM attached_toggles.preserves_siteDisable).bind fun _ =>
      attached_toggles.preserves_request _ _
  unfold stepInstruction
  rw [wp_bind]
  refine (Registers.preserves_readByIdAsU64 (I := fun w => w.isAttached = true) _ w attached).mono
    (fun pc s kept => ?_) fun _ _ _ => trivial
  rw [wp_bind]
  refine (preserves_enabledSiteAt (I := fun w => w.isAttached = true) pc s kept).mono
    (fun found s kept => ?_) fun _ _ _ => trivial
  rw [← bind_assoc, wp_bind]
  refine (before found s kept).mono (fun _ s kept => ?_) fun _ _ _ => trivial
  rw [wp_bind]
  refine (wp_waitOnSignal_fresh loads stores frame fuel kept).mono (fun reason s fresh => ?_)
    fun _ _ _ => trivial
  rw [wp_bind]
  exact (survives_forM (survives_siteEnable stores frame) s fresh).mono (fun _ _ kept => kept)
    fun _ _ _ => trivial

end Stops

/-! ### Runs -/

/-- The calls that let the inferior run. -/
def ProcessCall.moves : ProcessCall → Bool
  | .resumeAndWait _ => true
  | .stepInstruction _ => true
  | _ => false

/-- A call that returns, or that raises an `sdb::error`, but not where the inferior may have moved
and not for a register that could not be written. -/
inductive CleanCall (P : Platform κ) : World κ → World κ → Prop
  | returned {s t : World κ} (call : ProcessCall) : call.perform P s = .ok () t → CleanCall P s t
  | raised {s t : World κ} {what : String} (call : ProcessCall) : call.moves = false →
      ¬ Unpushed (.error what) → call.perform P s = .error (.error what) t → CleanCall P s t

section Runs

variable (loads : RegisterLoads P.toKernel user) (stores : RegisterStores P.toKernel user)
  (frame : UserFrame P.toKernel user)

include stores frame in
theorem survives_call_fresh {call : ProcessCall} (stays : call.moves = false) :
    Survives Unpushed (Fresh user) (call.perform P) := by
  cases call with
  | stoppoint op => exact survives_perform_fresh stores frame op
  | setSyscallCatchPolicy policy =>
    exact .of_preserves (Preserves.modify fun _ fresh => fresh.of_same rfl rfl rfl rfl)
  | resumeAndWait fuel => cases stays
  | stepInstruction fuel => cases stays
  | writeRegister op => exact survives_write stores op.listed op.value
  | readMemory address amount =>
    exact .of_preserves ((preserves_readMemory P (reads_fresh frame) _ _).bind
      fun _ => Preserves.pure _)
  | readMemoryWithoutTraps address amount =>
    exact .of_preserves ((preserves_readMemoryWithoutTraps (reads_fresh frame) _ _).bind
      fun _ => Preserves.pure _)
  | writeMemory address data =>
    exact .of_preserves (preserves_writeMemory (reads_fresh frame)
      (fun w a v fresh => fresh.of_same rfl rfl rfl (frame.pokeData a v w.kernel)) _ _)

include loads stores frame in
/-- The state before need not be fresh. -/
theorem wp_move_fresh {call : ProcessCall} (moves : call.moves = true) {w : World κ}
    (attached : w.isAttached = true) :
    wp (call.perform P) (fun _ t => Fresh user t) (fun _ _ => True) w := by
  cases call with
  | resumeAndWait fuel =>
    rw [ProcessCall.perform, wp_bind, wp_bind]
    refine (wp_resume_attached attached).mono (fun _ s kept => ?_) fun _ _ _ => trivial
    exact (wp_waitOnSignal_fresh loads stores frame fuel kept).mono (fun _ _ fresh => fresh)
      fun _ _ _ => trivial
  | stepInstruction fuel =>
    rw [ProcessCall.perform, wp_bind]
    exact (wp_stepInstruction_fresh loads stores frame fuel attached).mono (fun _ _ fresh => fresh)
      fun _ _ _ => trivial
  | _ => cases moves

include loads stores frame in
theorem fresh_of_cleanCall {s t : World κ} (fresh : Fresh user s) (step : CleanCall P s t) :
    Fresh user t := by
  cases step with
  | returned call done =>
    cases moves : call.moves with
    | false => exact (wp_of_ok done _ _).1 (survives_call_fresh stores frame moves s fresh)
    | true => exact (wp_of_ok done _ _).1 (wp_move_fresh loads stores frame moves fresh.attached)
  | raised call stays pushed failed =>
    have kept := (wp_of_error failed _ _).1 (survives_call_fresh stores frame stays s fresh)
    exact kept.resolve_left pushed

include loads stores frame in
theorem fresh_of_cleanCalls {s t : World κ} (fresh : Fresh user s)
    (calls : Relation.ReflTransGen (CleanCall P) s t) : Fresh user t := by
  induction calls with
  | refl => exact fresh
  | tail _ step ih => exact fresh_of_cleanCall loads stores frame ih step

end Runs

/-! ### What is shown -/

/-- The cached structs hold all listed registers. -/
theorem cachedOffsets_of_listed {info : RegisterInfo} (listed : info ∈ gRegisterInfos) {i : Nat}
    (inside : i < info.size) : info.offset + BitVec.ofNat 64 i ∈ cachedOffsets := by
  have table : ∀ info ∈ gRegisterInfos,
      (info.offset - BitVec.ofNat 64 offsetofRegs).toNat + info.size ≤ sizeofRegs ∨
      (info.offset - BitVec.ofNat 64 offsetofI387).toNat + info.size ≤ sizeofI387 ∨
      (info.offset - BitVec.ofNat 64 offsetofDebugreg).toNat + info.size ≤ 8 * 8 := by
    decide +kernel
  have within : ∀ start : BitVec 64, ∀ n, (info.offset - start).toNat + info.size ≤ n →
      info.offset + BitVec.ofNat 64 i ∈ block start n := by
    intro start n fits
    refine distance_triangle fits ?_
    rw [add_sub_cancel_left, BitVec.toNat_ofNat]
    exact lt_of_le_of_lt (Nat.mod_le _ _) inside
  rcases table info listed with general | floating | debug
  · exact .inl (.inl (within _ _ general))
  · exact .inl (.inr (within _ _ floating))
  · exact .inr (within _ _ debug)

section Shown

variable (loads : RegisterLoads P.toKernel user) (stores : RegisterStores P.toKernel user)
  (frame : UserFrame P.toKernel user)
include loads stores frame

end Shown

/-! ### A session on the machine -/

theorem userFrame_machine {exec : Core → Core} {budget : Nat} :
    UserFrame (machinePlatform exec budget).toKernel Inferior.user where
  peekData a k := congrArg Inferior.user (whenStopped_kept rfl)
  pokeData a v k := by
    change (Inferior.whenStopped (Inferior.pokeData a v) k).2.user = k.user
    unfold Inferior.whenStopped
    split
    · rfl
    · rfl
  processVmReadv iovs k := congrArg Inferior.user (whenStopped_kept rfl)
  getSigInfo k := congrArg Inferior.user (whenStopped_kept rfl)

theorem cleanCalls_of_run {calls : List ProcessCall} {s t : World κ}
    (reach : run (fun call => survive (fun _ => true) (call.perform P)) calls s = some t) :
    Relation.ReflTransGen (CleanCall P) s t := by
  induction calls generalizing s with
  | nil =>
    cases reach
    exact .refl
  | cons call calls ih =>
    rw [run_cons, Option.bind_eq_some_iff] at reach
    obtain ⟨u, step, rest⟩ := reach
    rcases survive_eq_some.1 step with ⟨_, done⟩ | ⟨_, mild, _⟩
    · exact .head (.returned call done) (ih rest)
    · cases mild

def spinCalls : List ProcessCall :=
  aliasingWrites.map .writeRegister ++
    [.stoppoint (.createWatchpoint 0x2000 .write 8), .stoppoint (.enableWatchpoint 0),
      .resumeAndWait 1, .stoppoint (.disableSite 2), .stepInstruction 1]

def spinRunning : World Inferior :=
  { spinWorld with kernel := { spinWorld.kernel with request := some .cont } }

end SdbDebugger
