import SdbDebugger.CommandHazards
import SdbDebugger.SyscallNumbers
import SdbDebugger.WatchpointTriggers

/-! Telling the user about a stop. `get_sigtrap_info` looks the cause up again, and its lookups
raise for what `wait_on_signal` has not found either. -/

namespace SdbDebugger
open EffectRules ActionRuns Exceptions ByteSpace KeyedList StoppointCollection

variable {κ : Type} {P : Platform κ} {reason : StopReason} {w t : World κ}

/-- The stop has a text. -/
def Displays (reason : StopReason) (w : World κ) : Prop :=
  ∃ text, getSigtrapInfo reason w = .ok text w

/-- The lowest bit of DR6 is that of a register with the address of a stoppoint. -/
def HardwareNamed (w : World κ) : Prop :=
  ∃ i < 8, ctz (dr6 w) = .ok i ∧
    (containsAddress w.breakpointSites (debugRegister w i) = true ∨
      containsAddress w.watchpoints (debugRegister w i) = true)

/-- What there is to say about a stop that is no hardware break: the site of a software break is
at the pc, and the system call that is entered has a name. -/
structure Displayable (reason : StopReason) (w : World κ) : Prop where
  site : reason.trapReason = some .softwareBreak →
    containsAddress w.breakpointSites (load w.data 128 8) = true
  name : ∀ info, reason.trapReason = some .syscall → reason.syscallInfo = some info →
    info.entry = true → info.id.toNat ∈ gSyscallNames.map Prod.snd

/-! ### Lookups -/

section Lookups

theorem getByAddress_ok_iff {α : Type} [Stoppoint α] {points : List α} {address : VirtAddr} :
    (∃ i point, getByAddress points address = .ok i ∧ deref points i = .ok point) ↔
      containsAddress points address = true := by
  unfold containsAddress getByAddress
  cases found : findByAddress points address with
  | none => simp
  | some i =>
    obtain ⟨point, at_i, _⟩ := findByAddress_eq_some found
    exact iff_of_true ⟨i, point, rfl, deref_eq_ok.2 at_i⟩ rfl

theorem lookup_ok_iff {α β : Type} [Stoppoint α] {points : List α} {address : VirtAddr} (f : α → β) :
    (∃ b, (getByAddress points address >>= fun i => deref points i >>= fun point =>
      pure (f point)) = .ok b) ↔ containsAddress points address = true := by
  rw [← getByAddress_ok_iff]
  constructor
  · intro looked
    obtain ⟨b, run⟩ := looked
    obtain ⟨i, found, rest⟩ := bind_eq_ok.1 run
    obtain ⟨point, at_i, _⟩ := bind_eq_ok.1 rest
    exact ⟨i, point, found, at_i⟩
  · intro there
    obtain ⟨i, point, found, at_i⟩ := there
    exact ⟨f point, bind_eq_ok.2 ⟨i, found, bind_eq_ok.2 ⟨point, at_i, rfl⟩⟩⟩

theorem stoppointAt_ok_iff (address : VirtAddr) : (∃ id, stoppointAt w address = .ok id) ↔
    containsAddress w.breakpointSites address = true ∨
      containsAddress w.watchpoints address = true := by
  unfold stoppointAt
  by_cases site : containsAddress w.breakpointSites address = true
  · rw [if_pos site]
    exact iff_of_true ((lookup_ok_iff fun s : BreakpointSite => Sum.inl s.id).2 site) (.inl site)
  · rw [if_neg site, or_iff_right site]
    exact lookup_ok_iff fun p : Watchpoint => (Sum.inr p.id : Int ⊕ Int)

theorem getCurrentHardwareStoppoint_ok_iff :
    (∃ id, getCurrentHardwareStoppoint w = .ok id w) ↔ HardwareNamed w := by
  constructor
  · intro named
    obtain ⟨id, run⟩ := named
    obtain ⟨i, inside, lowest, found, _⟩ := getCurrentHardwareStoppoint_inv run
    exact ⟨i, inside, lowest, (stoppointAt_ok_iff _).1 ⟨id, found⟩⟩
  · intro named
    obtain ⟨i, inside, lowest, known⟩ := named
    obtain ⟨id, found⟩ := (stoppointAt_ok_iff _).2 known
    refine ⟨id, ?_⟩
    rw [getCurrentHardwareStoppoint_eq lowest inside, found]
    rfl

theorem syscallIdToName_ok_iff (id : Nat) :
    (∃ name, syscallIdToName id = .ok name) ↔ id ∈ gSyscallNames.map Prod.snd := by
  have listed : id ∈ gSyscallNames.map Prod.snd ↔
      (gSyscallNames.find? fun entry => (entry.2 : Int) == id).isSome = true := by
    rw [List.find?_isSome, List.mem_map]
    refine exists_congr fun entry => and_congr_right fun _ => ?_
    rw [beq_iff_eq, Int.ofNat_inj]
  rw [listed, syscallIdToName]
  cases gSyscallNames.find? fun entry => (entry.2 : Int) == id with
  | none => simp
  | some entry => simp

theorem getById_ok {α : Type} [Stoppoint α] {points : List α} {id : Int}
    (there : containsId points id = true) :
    ∃ i point, getById points id = .ok i ∧ deref points i = .ok point := by
  obtain ⟨i, found⟩ := Option.isSome_iff_exists.1 there
  obtain ⟨point, at_i, _⟩ := findById_eq_some found
  exact ⟨i, point, by rw [getById, found], deref_eq_ok.2 at_i⟩

end Lookups

/-! ### The text of a stop -/

section Text

theorem liftFault_ok_iff {α : Type} {x : Except Fault α} :
    (∃ a, liftFault x w = .ok a w) ↔ ∃ a, x = .ok a := by
  cases x with
  | ok a => exact iff_of_true ⟨a, rfl⟩ ⟨a, rfl⟩
  | error e => exact iff_of_false nofun nofun

theorem displays_softwareBreak (cause : reason.trapReason = some .softwareBreak) :
    Displays reason w ↔ containsAddress w.breakpointSites (load w.data 128 8) = true := by
  rw [← lookup_ok_iff fun site : BreakpointSite => " (breakpoint " ++ toString site.id ++ ")",
    ← liftFault_ok_iff (w := w)]
  refine exists_congr fun text => ?_
  unfold getSigtrapInfo
  rw [cause]
  change (getPc >>= _) w = _ ↔ _
  rw [bind_ok (getPc_eq w)]
  change (liftFault (getByAddress w.breakpointSites (load w.data 128 8)) >>= _) w = _ ↔ _
  cases getByAddress w.breakpointSites (load w.data 128 8) with
  | error e => rfl
  | ok i =>
    change (liftFault (deref w.breakpointSites i) >>= _) w = _ ↔
      liftFault (deref w.breakpointSites i >>= _) w = _
    cases deref w.breakpointSites i with
    | error e => rfl
    | ok site => rfl

theorem displays_hardwareBreak (cause : reason.trapReason = some .hardwareBreak) :
    Displays reason w ↔ HardwareNamed w := by
  rw [← getCurrentHardwareStoppoint_ok_iff, Displays]
  unfold getSigtrapInfo
  rw [cause]
  constructor
  · intro displayed
    obtain ⟨text, run⟩ := displayed
    obtain ⟨id, u, named, _⟩ := bind_inv run
    obtain ⟨_, _, _, _, rfl⟩ := getCurrentHardwareStoppoint_inv named
    exact ⟨id, named⟩
  · intro looked
    obtain ⟨id, named⟩ := looked
    change ∃ text, (getCurrentHardwareStoppoint >>= _) w = .ok text w
    rw [bind_ok named]
    cases id with
    | inl id => exact ⟨_, rfl⟩
    | inr id =>
      obtain ⟨_, _, _, found, _⟩ := getCurrentHardwareStoppoint_inv named
      obtain ⟨⟨point, member, _, same⟩, _⟩ := stoppointAt_eq_inr found
      obtain ⟨i, wp, listed, at_i⟩ := getById_ok (containsId_iff.2 ⟨point, member, same⟩)
      refine ⟨watchpointMessage wp, ?_⟩
      change (liftFault (getById w.watchpoints id) >>= _) w = _
      rw [listed]
      change (liftFault (deref w.watchpoints i) >>= _) w = _
      rw [at_i]
      rfl

theorem syscallMessage_ok_iff {info : SyscallInformation} (known : info.WellFormed) :
    (∃ text, syscallMessage info = .ok text) ↔
      (info.entry = true → info.id.toNat ∈ gSyscallNames.map Prod.snd) := by
  obtain ⟨id, entry, payload⟩ := info
  rcases known with ⟨rfl, values, rfl⟩ | ⟨rfl, value, rfl⟩
  · rw [← syscallIdToName_ok_iff, forall_prop_of_true rfl]
    change (∃ text, syscallIdToName id.toNat >>= _ = .ok text) ↔ _
    constructor
    · intro shown
      obtain ⟨text, run⟩ := shown
      obtain ⟨name, named, _⟩ := bind_eq_ok.1 run
      exact ⟨name, named⟩
    · intro named
      obtain ⟨name, named⟩ := named
      exact ⟨_, bind_eq_ok.2 ⟨name, named, rfl⟩⟩
  · exact iff_of_true ⟨_, rfl⟩ nofun

theorem displays_syscall (cause : reason.trapReason = some .syscall) {info : SyscallInformation}
    (syscall : reason.syscallInfo = some info) (known : info.WellFormed) :
    Displays reason w ↔ (info.entry = true → info.id.toNat ∈ gSyscallNames.map Prod.snd) := by
  rw [← syscallMessage_ok_iff known, ← liftFault_ok_iff (w := w), Displays]
  unfold getSigtrapInfo
  rw [cause, syscall]

/-- Of the other stops nothing is looked up. -/
theorem displays_other (software : reason.trapReason ≠ some .softwareBreak)
    (hardware : reason.trapReason ≠ some .hardwareBreak)
    (syscall : reason.trapReason ≠ some .syscall) : Displays reason w := by
  unfold Displays getSigtrapInfo
  cases cause : reason.trapReason with
  | none => exact ⟨_, rfl⟩
  | some trap =>
    cases trap with
    | singleStep => exact ⟨_, rfl⟩
    | unknown => exact ⟨_, rfl⟩
    | softwareBreak => exact absurd cause software
    | hardwareBreak => exact absurd cause hardware
    | syscall => exact absurd cause syscall

/-- A stop has a text exactly if all that is looked up for it is there. -/
theorem displays_iff_found (described : Described reason) :
    Displays reason w ↔
      Displayable reason w ∧ (reason.trapReason = some .hardwareBreak → HardwareNamed w) := by
  by_cases software : reason.trapReason = some .softwareBreak
  · rw [displays_softwareBreak software]
    constructor
    · exact fun here => ⟨⟨fun _ => here, by simp [software]⟩, by simp [software]⟩
    · exact fun found => found.1.site software
  by_cases hardware : reason.trapReason = some .hardwareBreak
  · rw [displays_hardwareBreak hardware]
    constructor
    · exact fun named => ⟨⟨by simp [hardware], by simp [hardware]⟩, fun _ => named⟩
    · exact fun found => found.2 hardware
  by_cases syscall : reason.trapReason = some .syscall
  · obtain ⟨info, present, known⟩ := described.syscall syscall
    rw [displays_syscall syscall present known]
    constructor
    · intro named
      refine ⟨⟨by simp [syscall], fun info' _ present' => ?_⟩, by simp [syscall]⟩
      rw [present, Option.some.injEq] at present'
      rw [← present']
      exact named
    · exact fun found => found.1.name info syscall present
  · refine iff_of_true (displays_other software hardware syscall) ⟨⟨?_, ?_⟩, ?_⟩
    · exact fun cause => absurd cause software
    · exact fun _ cause => absurd cause syscall
    · exact fun cause => absurd cause hardware

end Text

/-! ### What the stop handling leaves for the display -/

section Handling

/-- A new value changes nothing of what is looked up. -/
theorem hardwareNamed_updateData (i : Nat) :
    Preserves (HardwareNamed (κ := κ)) (Watchpoint.updateData P i) := by
  refine preserves_updateData P (fun _ _ named => named) i fun v => Preserves.modify fun w named => ?_
  obtain ⟨j, inside, lowest, known⟩ := named
  refine ⟨j, inside, lowest, known.imp id fun there => ?_⟩
  obtain ⟨point, member, here⟩ := containsAddress_iff.1 there
  obtain ⟨k, at_k⟩ := List.mem_iff_getElem?.1 member
  refine containsAddress_iff.2 ?_
  by_cases same : k = i
  · subst same
    exact ⟨_, mem_modify.2 (.inl ⟨point, at_k, rfl⟩), here⟩
  · exact ⟨point, mem_modify.2 (.inr ⟨k, same, at_k⟩), here⟩

theorem updateTriggered_names (w : World κ) :
    wp (updateTriggeredWatchpoint P) (fun _ t => HardwareNamed t) (fun _ _ => True) w := by
  unfold updateTriggeredWatchpoint
  rw [wp_bind]
  cases run : getCurrentHardwareStoppoint w with
  | error e u => exact (wp_of_error run _ _).2 trivial
  | ok id u =>
    obtain ⟨_, _, _, _, rfl⟩ := getCurrentHardwareStoppoint_inv run
    have named : HardwareNamed u := getCurrentHardwareStoppoint_ok_iff.1 ⟨id, run⟩
    rw [wp_of_ok run]
    cases id with
    | inl _ => exact named
    | inr id =>
      have updated : Preserves (HardwareNamed (κ := κ)) (do
          let w ← get
          let i ← liftFault (getById w.watchpoints id)
          Watchpoint.updateData P i) :=
        Preserves.get.bind fun _ => (preserves_liftFault _).bind hardwareNamed_updateData
      exact (updated u named).mono (fun _ _ kept => kept) fun _ _ _ => trivial

/-- A stop whose cause is described, and whose stoppoint is named if it is a hardware break. -/
def Found (reason : StopReason) (w : World κ) : Prop :=
  Described reason ∧ (reason.trapReason = some .hardwareBreak → HardwareNamed w)

theorem respond_found {wait : Sdb κ StopReason} (described : Described reason)
    (attended : reason.trapReason = none ∨ w.isAttached = true ∧ reason.reason = .stopped)
    (again : ∀ u, wp wait Found (fun _ _ => True) u) :
    wp (respond P wait reason) Found (fun _ _ => True) w := by
  by_cases ignored : Ignored reason w
  · rw [wp_congr (respond_ignored ignored wait), wp_bind]
    cases run : resume P w with
    | error e u => exact (wp_of_error run _ _).2 trivial
    | ok a u => exact (wp_of_ok run _ _).2 (again u)
  · by_cases hardware : reason.trapReason = some .hardwareBreak
    · have cause := attended.resolve_left (by simp [hardware])
      have looked : Attended reason w := ⟨cause.1, cause.2, described.hardware hardware⟩
      rw [wp_congr (respond_hardware looked hardware wait), wp_bind]
      exact (updateTriggered_names w).mono (fun _ t named => ⟨described, fun _ => named⟩)
        fun _ _ _ => trivial
    · have anything : ∀ {α : Type} (m : Sdb κ α), Preserves (fun _ => True) m := fun m _ _ =>
        wp_iff.2 ⟨fun _ _ _ => trivial, fun _ _ _ => trivial⟩
      have heard := wp_respond_heard (fun pc => anything (setPc P pc))
        (fun _ i => anything (Watchpoint.updateData P i)) ignored wait trivial
      refine heard.mono (fun r t returned => ?_) fun _ _ _ => trivial
      rw [returned.1]
      exact ⟨described, fun other => absurd other hardware⟩

theorem waitOnSignal_found (fuel : Nat) (w : World κ) :
    wp (waitOnSignal P fuel) Found (fun _ _ => True) w := by
  induction fuel generalizing w with
  | zero => trivial
  | succ fuel ih =>
    rw [waitOnSignal_succ, wp_bind]
    refine ((arrive_described (R := fun _ _ => True) trivial).and (arrive_attended w)).mono
      (fun reason t arrived => ?_) fun _ _ _ => trivial
    exact respond_found arrived.1.2 arrived.2 ih

theorem wp_setPc (pc : VirtAddr) (w : World κ) :
    wp (setPc P pc)
      (fun _ t => load t.data 128 8 = pc ∧ t.breakpointSites = w.breakpointSites)
      (fun _ _ => True) w := by
  have stored : load (store w.data 128 8 pc) 128 8 = pc := load_store _ _ _ _ (by norm_num)
  rw [setPc_eq, wp_bind, wp_modify, Registers.writeUserArea, wp_orSendErrno]
  exact ⟨fun _ k _ => ⟨stored, rfl⟩, fun _ _ _ => trivial⟩

/-- The debugger's own trap bytes are told: the pc is moved back onto the site. -/
theorem respond_ownTrap {wait : Sdb κ StopReason} {r : StopReason} (attended : Attended reason w)
    (cause : reason.trapReason = some .softwareBreak)
    (own : enabledStoppointAtAddress w.breakpointSites (load w.data 128 8 - 1) = .ok true)
    (answered : respond P wait reason w = .ok r t) : Displays r t := by
  obtain ⟨i, site, at_i, here, _, found⟩ := enabledSiteAt_of_enabled own
  rw [respond_software attended cause, bind_ok found] at answered
  obtain ⟨_, u, moved, returned⟩ := bind_inv answered
  cases returned
  obtain ⟨pc, sites⟩ := (wp_of_ok moved _ _).1 (wp_setPc _ w)
  rw [displays_softwareBreak cause, pc, sites]
  exact containsAddress_iff.2 ⟨site, List.mem_of_getElem? at_i, here⟩

end Handling

/-! ### What the user is told -/

section Told

variable {d : Debugger κ}

theorem displays_of_stopMessage {elf : Elf} {msg : String} (stopped : reason.reason = .stopped)
    (trap : reason.info = sigtrap) (run : stopMessage elf reason w = .ok msg t) :
    Displays reason w := by
  unfold stopMessage at run
  rw [stopped] at run
  change getSignalStopReason elf reason w = _ at run
  unfold getSignalStopReason at run
  rw [bind_ok (getPc_eq w)] at run
  obtain ⟨signal, u, first, run⟩ := bind_inv run
  obtain ⟨func, v, second, run⟩ := bind_inv run
  have here := (preserves_liftFault (I := (· = w)) _).of_ok rfl first
  subst here
  have here := (preserves_liftFault (I := (· = u)) _).of_ok rfl second
  subst here
  rw [if_pos trap] at run
  obtain ⟨text, u, shown, _⟩ := bind_inv run
  have here := (preserves_getSigtrapInfo (I := (· = v)) reason).of_ok rfl shown
  subst here
  exact ⟨text, shown⟩

/-- Without a text nothing at all is printed about the stop. -/
theorem printStopReason_silent (stopped : reason.reason = .stopped) (trap : reason.info = sigtrap)
    (silent : ¬ Displays reason d.world) :
    ∃ e d', printStopReason reason d = .error e d' ∧ d'.out = d.out := by
  unfold printStopReason
  rw [get_bind]
  cases run : stopMessage d.elf reason d.world with
  | ok msg t => exact absurd (displays_of_stopMessage stopped trap run) silent
  | error e t =>
    have raised : onProcess (stopMessage d.elf reason) d = .error e { d with world := t } := by
      rw [onProcess, run]
    exact ⟨e, _, bind_error raised _, rfl⟩

end Told

/-- The stop that `wait_on_signal` returns has a text exactly if it is displayable. -/
theorem displays_iff {fuel : Nat} (returned : waitOnSignal P fuel w = .ok reason t) :
    Displays reason t ↔ Displayable reason t := by
  obtain ⟨described, named⟩ := (wp_of_ok returned _ _).1 (waitOnSignal_found fuel w)
  rw [displays_iff_found described]
  exact and_iff_left named

/-! ### Stops of the scripted kernel -/

def isDisplayed (reason : StopReason) (w : World κ) : Bool :=
  match getSigtrapInfo reason w with
  | .ok _ _ => true
  | .error _ _ => false

theorem not_displays_of_raised (raised : isDisplayed reason w = false) : ¬ Displays reason w := by
  intro displayed
  obtain ⟨text, run⟩ := displayed
  rw [isDisplayed, run] at raised
  contradiction

/-- A trap byte behind which the inferior stops. -/
def trapStop (pc : VirtAddr) : KernelStop := ⟨.stopped sigtrap, store (fun _ => 0) 128 8 pc, siKernel⟩

/-- The stop that is returned after a session. -/
def returnedAfter (ops : List SessionOp) (stops : List KernelStop) :
    Option (StopReason × World Scripted) :=
  (run (sessionStep scriptedPlatform) ops (scriptedWorld [] stops)).bind fun w =>
    match waitOnSignal scriptedPlatform 1 w with
    | .ok reason t => some (reason, t)
    | .error _ _ => none

theorem returnedAfter_spec (ops : List SessionOp) (stops : List KernelStop)
    {p : StopReason × World Scripted → Bool} (h : (returnedAfter ops stops).any p = true) :
    ∃ w reason t, run (sessionStep scriptedPlatform) ops (scriptedWorld [] stops) = some w ∧
      waitOnSignal scriptedPlatform 1 w = .ok reason t ∧ p (reason, t) = true := by
  obtain ⟨stop, after, holds⟩ := (Option.any_eq_true p _).1 h
  rw [returnedAfter, Option.bind_eq_some_iff] at after
  obtain ⟨w, reach, returned⟩ := after
  cases waited : waitOnSignal scriptedPlatform 1 w with
  | error e t => simp [waited] at returned
  | ok reason t =>
    simp only [waited, Option.some.injEq] at returned
    subst returned
    exact ⟨w, reason, t, reach, waited, holds⟩

/-- A stop at an enabled site. -/
theorem displays_iff_ownSite :
    ∃ w reason t, run (sessionStep scriptedPlatform)
        [.stoppoint (.createSite 0x1000 false false), .stoppoint (.enableSite 0), .resume]
        (scriptedWorld [] [trapStop 0x1001]) = some w ∧
      waitOnSignal scriptedPlatform 1 w = .ok reason t ∧
      reason.trapReason = some .softwareBreak ∧ Displays reason t := by
  obtain ⟨w, reason, t, reach, waited, holds⟩ := returnedAfter_spec
    [.stoppoint (.createSite 0x1000 false false), .stoppoint (.enableSite 0), .resume]
    [trapStop 0x1001] (p := fun r => decide (r.1.trapReason = some .softwareBreak) &&
      containsAddress r.2.breakpointSites (load r.2.data 128 8)) (by decide +kernel)
  obtain ⟨cause, here⟩ := Bool.and_eq_true_iff.1 holds
  have cause : reason.trapReason = some .softwareBreak := of_decide_eq_true cause
  refine ⟨w, reason, t, reach, waited, cause, (displays_iff waited).2 ⟨fun _ => here, ?_⟩⟩
  intro info syscall
  rw [cause] at syscall
  cases syscall

/-- A trap byte of the program's own, and the entry of a system call without a name. -/
theorem not_displays_int3 :
    (∃ w reason t, run (sessionStep scriptedPlatform) [.resume]
        (scriptedWorld [] [trapStop 0x1001]) = some w ∧
      waitOnSignal scriptedPlatform 1 w = .ok reason t ∧ reason.reason = .stopped ∧
      reason.info = sigtrap ∧ ¬ Displays reason t) ∧
    ∃ w reason t, run (sessionStep scriptedPlatform) [.setSyscallCatchPolicy .catchAll, .resume]
        (scriptedWorld [] [callStop 1000]) = some w ∧
      waitOnSignal scriptedPlatform 1 w = .ok reason t ∧ reason.reason = .stopped ∧
      reason.info = sigtrap ∧ ¬ Displays reason t := by
  have quiet : ∀ {ops : List SessionOp} {stops : List KernelStop},
      (returnedAfter ops stops).any (fun r =>
        decide (r.1.reason = .stopped ∧ r.1.info = sigtrap) && !isDisplayed r.1 r.2) = true →
      ∃ w reason t, run (sessionStep scriptedPlatform) ops (scriptedWorld [] stops) = some w ∧
        waitOnSignal scriptedPlatform 1 w = .ok reason t ∧ reason.reason = .stopped ∧
        reason.info = sigtrap ∧ ¬ Displays reason t := by
    intro ops stops evaluated
    obtain ⟨w, reason, t, reach, waited, holds⟩ := returnedAfter_spec ops stops evaluated
    obtain ⟨stop, silent⟩ := Bool.and_eq_true_iff.1 holds
    obtain ⟨stopped, trap⟩ := of_decide_eq_true stop
    rw [Bool.not_eq_true'] at silent
    exact ⟨w, reason, t, reach, waited, stopped, trap, not_displays_of_raised silent⟩
  exact ⟨quiet (by decide +kernel), quiet (by decide +kernel)⟩

end SdbDebugger
