import SdbDebugger.StoppointErrors

/-! What can leave `resume`, `step_instruction` and `wait_on_signal` besides `sdb::error`:
nothing but the undefined search for a bit in an empty DR6. -/

namespace SdbDebugger
open EffectRules Exceptions ByteSpace KeyedList StoppointCollection

variable {κ : Type} {P : Platform κ} {n m : Nat} {R : List BreakpointSite → List Watchpoint → Prop}

/-! ### Allocations -/

/-- A vector that cannot be had. -/
def Unallocatable (P : Platform κ) (elementSize n : Nat) : Prop :=
  maxSize elementSize < n ∨ P.canAllocate (elementSize * n) = false

/-- The buffers that the debugger needs for itself are small. -/
def SmallAllocations (P : Platform κ) : Prop := ∀ n ≤ 200, P.canAllocate n = true

theorem newVector_ok {elementSize amount : Nat} (possible : ¬ Unallocatable P elementSize amount)
    (w : World κ) : newVector P elementSize amount w = .ok () w := by
  unfold Unallocatable at possible
  push Not at possible
  rw [newVector, if_neg (by omega), if_pos (by simpa using possible.2)]
  rfl

theorem newVector_error {elementSize amount : Nat} (impossible : Unallocatable P elementSize amount)
    (w : World κ) : ∃ e, newVector P elementSize amount w = .error e w ∧ Escaping e := by
  unfold newVector
  split
  · exact ⟨_, rfl, rfl⟩
  · next fits =>
    rw [if_neg (by simp [impossible.resolve_left fits])]
    exact ⟨_, rfl, rfl⟩

theorem raises_newVector {elementSize amount : Nat} {w : World κ} :
    Raises Escaping (newVector P elementSize amount) w ↔ Unallocatable P elementSize amount := by
  constructor
  · intro raised
    by_contra possible
    exact raises_of_ok (newVector_ok possible w) raised
  · intro impossible
    obtain ⟨e, run, escaping⟩ := newVector_error impossible w
    exact ⟨e, w, run, escaping⟩

theorem SmallAllocations.bytes (small : SmallAllocations P) {amount : Nat} (few : amount ≤ 200) :
    ¬ Unallocatable P 1 amount := by
  unfold Unallocatable maxSize
  simp [small amount few]
  omega

theorem tame_readMemory {amount : Nat} (possible : ¬ Unallocatable P 1 amount)
    (address : VirtAddr) : Tame Escaping (OnStoppoints R) (readMemory P address amount) := by
  intro w h
  unfold readMemory
  rw [wp_bind, wp_of_ok (newVector_ok possible w)]
  exact (tame_orSendErrno _ _).bind (fun _ => Tame.pure _) w h

theorem raises_readMemory {address : VirtAddr} {amount : Nat} {w : World κ} :
    Raises Escaping (readMemory P address amount) w ↔ Unallocatable P 1 amount := by
  constructor
  · intro raised
    by_contra possible
    exact (tame_readMemory (R := fun _ _ => True) possible address).not_raises trivial raised
  · intro impossible
    exact (raises_bind _).2 (.inl (raises_newVector.2 impossible))

theorem readMemory_ok {address : VirtAddr} {amount : Nat} {w : World κ} {data : List Byte} {k : κ}
    (possible : ¬ Unallocatable P 1 amount)
    (read : P.processVmReadv (remoteDescs address amount) w.kernel = (.ok data, k)) :
    readMemory P address amount w =
      .ok (data ++ List.replicate (amount - data.length) 0) { w with kernel := k } := by
  rw [readMemory, bind_ok (newVector_ok possible w), bind_ok (orSendErrno_ok read)]
  rfl

/-- A read that raises has overrun nothing and changed nothing but the kernel. -/
theorem readMemory_error (address : VirtAddr) {amount : Nat} {w : World κ}
    (fails : Unallocatable P 1 amount ∨
      ∃ e, (P.processVmReadv (remoteDescs address amount) w.kernel).1 = .error e) :
    ∃ e k, readMemory P address amount w = .error e { w with kernel := k } ∧
      (∀ reason, e ≠ .undefinedBehaviour reason) ∧
      (k = w.kernel ∨ k = (P.processVmReadv (remoteDescs address amount) w.kernel).2) := by
  by_cases impossible : Unallocatable P 1 amount
  · unfold readMemory newVector
    split
    · exact ⟨_, w.kernel, rfl, by simp, .inl rfl⟩
    · next fits =>
      have refused : P.canAllocate (1 * amount) = false := impossible.resolve_left fits
      rw [refused, if_neg Bool.false_ne_true]
      exact ⟨_, w.kernel, rfl, by simp, .inl rfl⟩
  · obtain ⟨e, refused⟩ := fails.resolve_left impossible
    refine ⟨_, _, (bind_ok (newVector_ok impossible w) _).trans
      (bind_error (orSendErrno_error (Prod.ext refused rfl)) _), ?_, .inr rfl⟩
    simp [Fault.sendErrno]

/-- Whatever is read, sites of the region lie inside it. -/
theorem tame_readMemoryWithoutTraps {amount : Nat} (possible : ¬ Unallocatable P 1 amount)
    (fits : amount < 2 ^ 64) (address : VirtAddr) :
    Tame Escaping (OnStoppoints R) (readMemoryWithoutTraps P address amount) := by
  intro w h
  have sized : wp (readMemory P address amount)
      (fun memory t => OnStoppoints R t ∧ amount ≤ memory.length)
      (fun e t => ¬ Escaping e ∧ OnStoppoints R t) w := by
    unfold readMemory
    rw [wp_bind, wp_of_ok (newVector_ok possible w), wp_bind]
    refine (tame_orSendErrno _ _ w h).mono (fun received t kept => ⟨kept, ?_⟩)
      fun _ _ failed => failed
    rw [List.length_append, List.length_replicate]
    omega
  unfold readMemoryWithoutTraps
  rw [wp_bind]
  refine sized.mono (fun memory t done => ?_) fun _ _ failed => failed
  obtain ⟨kept, long⟩ := done
  obtain ⟨masked, total⟩ := maskTraps_total
    (getInRegion t.breakpointSites address (address + BitVec.ofNat 64 amount)) memory
    fun site member => (offset_lt_of_mem_getInRegion fits member).trans_le long
  rw [wp_bind, wp_get]
  change wp (liftFault (maskTraps address _ memory)) _ _ t
  rw [total]
  exact kept

/-! ### Running on -/

theorem tame_updateData (small : SmallAllocations P) {i : Nat} (hi : i < m) :
    Tame Escaping (OnStoppoints (Held n m)) (Watchpoint.updateData P i) := by
  intro w held
  obtain ⟨point, at_i, kept⟩ := Held.watchpoint_at held hi
  have fits := kept.small
  unfold Watchpoint.updateData
  rw [wp_bind, wp_of_ok (watchpointAt_eq at_i), wp_bind]
  refine (tame_readMemory (small.bytes (by omega)) _ w held).mono (fun read t held => ?_)
    fun _ _ failed => failed
  rw [wp_ite, if_neg (by omega)]
  refine Held.modifyWatchpoint held fun p here => ?_
  have before := held.watchpoints_kept p (List.mem_of_getElem? here)
  exact ⟨before.slot, before.small⟩

theorem enabledSiteAt_inside (address : VirtAddr) (w : World κ) :
    ∃ site, enabledSiteAt address w = .ok site w ∧ ∀ i ∈ site, i < w.breakpointSites.length := by
  obtain ⟨enabled, h⟩ := enabledStoppointAtAddress_total w.breakpointSites address
  cases enabled with
  | false => exact ⟨none, enabledSiteAt_of_disabled h, by simp⟩
  | true =>
    obtain ⟨i, site, at_i, _, _, run⟩ := enabledSiteAt_of_enabled h
    refine ⟨some i, run, fun j same => ?_⟩
    cases same
    exact (List.getElem?_eq_some_iff.1 at_i).1

/-- Something done to the enabled site at an address, if there is one. -/
theorem wp_enabledSiteAt {address : VirtAddr} {w : World κ} (held : OnStoppoints (Held n m) w)
    {ok : Option Nat → World κ → Prop} {err : Fault → World κ → Prop}
    (rest : ∀ site, (∀ i ∈ site, i < n) → ok site w) : wp (enabledSiteAt address) ok err w := by
  obtain ⟨site, run, inside⟩ := enabledSiteAt_inside address w
  rw [wp_of_ok run]
  exact rest site fun i member => held.sites_length ▸ inside i member

theorem tame_forM {site : Option Nat} {f : Nat → Sdb κ Unit} {I : World κ → Prop}
    (h : ∀ i ∈ site, Tame Escaping I (f i)) : Tame Escaping I (site.forM f) := by
  cases site with
  | none => exact Tame.pure _
  | some i => exact h i rfl

theorem tame_stepOver {i : Nat} (hi : i < n) :
    Tame Escaping (OnStoppoints (Held n m)) (stepOver P i) :=
  (tame_disable hi).bind fun _ => (tame_orSendErrno _ _).bind fun _ => tame_waitpid.bind fun _ =>
    tame_enable hi

theorem tame_resume : Tame Escaping (OnStoppoints (Held n m)) (resume P) := by
  refine tame_getPc.bind fun pc w held => ?_
  rw [wp_bind]
  refine wp_enabledSiteAt held fun site inside => ?_
  have rest : Tame Escaping (OnStoppoints (Held n m)) (do
      site.forM (stepOver P)
      let w ← get
      orSendErrno "could not resume" (P.resume (resumeRequest w.syscallCatchPolicy))
      modify fun w => { w with state := .running }) := by
    refine (tame_forM fun i member => tame_stepOver (inside i member)).bind fun _ => ?_
    refine Tame.get.bind fun w => (tame_orSendErrno _ _).bind fun _ => Tame.modify ?_
    exact fun _ h => h
  exact rest w held

/-! ### Hardware stops -/

/-- The cached DR6. -/
def dr6 (w : World κ) : Word := load w.data (debugOffset 6) 8

theorem ctz_zero : ctz 0 = .error (.undefinedBehaviour "__builtin_ctzll(0)") := by decide

theorem ctz_of_ne_zero {v : Word} (some_bit : v ≠ 0) : ∃ i, ctz v = .ok i := by
  unfold ctz
  cases found : (List.range 64).find? fun i => v.getLsbD i with
  | some i => exact ⟨i, rfl⟩
  | none =>
    refine absurd (BitVec.eq_of_getLsbD_eq fun i hi => ?_) some_bit
    have clear := List.find?_eq_none.1 found i (List.mem_range.2 hi)
    simpa using clear

theorem readDr6 (w : World κ) :
    Registers.readByIdAsU64 RegisterId.dr6.toInt w = .ok (dr6 w) w :=
  Registers.readByIdAsU64_eq (wholeWord_dr (i := 6) (by omega)) w

/-- An index beyond the debug registers names no register. -/
theorem readDebug_beyond {i : Nat} (beyond : 8 ≤ i) (w : World κ) :
    Registers.readByIdAsU64 (RegisterId.dr0.toInt + i) w =
      .error (.error "can't find register info") w := by
  have unknown : registerInfoById (RegisterId.dr0.toInt + i) =
      .error (.error "can't find register info") := by
    unfold registerInfoById registerInfoBy
    rw [List.find?_eq_none.2]
    intro info member
    have last : ∀ info ∈ gRegisterInfos, info.id.toInt < RegisterId.dr0.toInt + 8 := by
      decide +kernel
    have := last info member
    simp only [beq_iff_eq]
    omega
  unfold Registers.readByIdAsU64
  rw [unknown]
  rfl

theorem readDebug_mild (i : Nat) (w : World κ) :
    wp (Registers.readByIdAsU64 (RegisterId.dr0.toInt + i)) (fun _ t => t = w)
      (fun e t => ¬ Escaping e ∧ t = w) w := by
  by_cases hi : i < 8
  · rw [wp_of_ok (Registers.readByIdAsU64_eq (wholeWord_dr hi) w)]
  · rw [wp_of_error (readDebug_beyond (by omega) w)]
    exact ⟨Bool.false_ne_true, rfl⟩

theorem getCurrentHardwareStoppoint_blank {w : World κ} (blank : dr6 w = 0) :
    getCurrentHardwareStoppoint w = .error (.undefinedBehaviour "__builtin_ctzll(0)") w := by
  unfold getCurrentHardwareStoppoint
  rw [bind_ok (readDr6 w), blank, ctz_zero]
  rfl

theorem getCurrentHardwareStoppoint_mild {w : World κ} (some_bit : dr6 w ≠ 0) :
    wp getCurrentHardwareStoppoint (fun _ t => t = w) (fun e t => ¬ Escaping e ∧ t = w) w := by
  obtain ⟨i, lowest⟩ := ctz_of_ne_zero some_bit
  unfold getCurrentHardwareStoppoint
  rw [wp_bind, wp_of_ok (readDr6 w), lowest, liftFault_ok, pure_bind, wp_bind]
  refine (readDebug_mild i w).mono (fun address t same => ?_) fun _ _ failed => failed
  subst same
  rw [wp_bind, wp_get, wp_ite]
  split
  · next here =>
    obtain ⟨j, found⟩ := Option.isSome_iff_exists.1 here
    obtain ⟨site, at_j, _⟩ := findByAddress_eq_some found
    rw [getByAddress, found, wp_bind]
    change wp (liftFault (deref t.breakpointSites j) >>= _) _ _ t
    rw [deref_eq_ok.2 at_j]
    rfl
  · rw [getByAddress]
    cases found : findByAddress t.watchpoints address with
    | none => exact ⟨Bool.false_ne_true, rfl⟩
    | some j =>
      obtain ⟨point, at_j, _⟩ := findByAddress_eq_some found
      rw [wp_bind]
      change wp (liftFault (deref t.watchpoints j) >>= _) _ _ t
      rw [deref_eq_ok.2 at_j]
      rfl

theorem getById_mild {β : Type} [Stoppoint β] {points : List β} {id : Int} {e : Fault}
    (raised : getById points id = .error e) : ¬ Escaping e := by
  unfold getById at raised
  split at raised
  · simp at raised
  · cases raised
    exact Bool.false_ne_true

theorem getById_lt {β : Type} [Stoppoint β] {points : List β} {id : Int} {i : Nat}
    (found : getById points id = .ok i) : i < points.length := by
  unfold getById at found
  split at found
  · next j h =>
    cases found
    obtain ⟨point, at_j, _⟩ := findById_eq_some h
    exact (List.getElem?_eq_some_iff.1 at_j).1
  · simp at found

theorem updateTriggered_mild (small : SmallAllocations P) {w : World κ}
    (held : OnStoppoints (Held n m) w) (some_bit : dr6 w ≠ 0) :
    wp (updateTriggeredWatchpoint P) (fun _ t => OnStoppoints (Held n m) t)
      (fun e t => ¬ Escaping e ∧ OnStoppoints (Held n m) t) w := by
  unfold updateTriggeredWatchpoint
  rw [wp_bind]
  refine (getCurrentHardwareStoppoint_mild some_bit).mono (fun id t same => ?_) ?_
  · subst same
    cases id with
    | inl _ => exact held
    | inr id =>
      rw [wp_bind, wp_get, wp_bind, wp_liftFault]
      refine ⟨fun i found => ?_, fun e raised => ⟨getById_mild raised, held⟩⟩
      exact tame_updateData small (held.watchpoints_length ▸ getById_lt found) t held
  · intro e t failed
    exact ⟨failed.1, failed.2 ▸ held⟩

theorem updateTriggered_blank {w : World κ} (blank : dr6 w = 0) :
    updateTriggeredWatchpoint P w = .error (.undefinedBehaviour "__builtin_ctzll(0)") w :=
  bind_error (getCurrentHardwareStoppoint_blank blank) _

theorem updateTriggered_data (data : UserArea) :
    Preserves (fun w : World κ => w.data = data) (updateTriggeredWatchpoint P) :=
  preserves_updateTriggeredWatchpoint fun i => preserves_updateData P (fun _ _ same => same) i
    fun _ => Preserves.modify fun _ same => same

/-! ### Waiting -/

/-- A stop that `wait_on_signal` looks into. -/
def Attended (reason : StopReason) (w : World κ) : Prop :=
  w.isAttached = true ∧ reason.reason = .stopped ∧ reason.info = sigtrap

/-- A hardware stop about which DR6 says nothing. -/
def BlankTrap (reason : StopReason) (w : World κ) : Prop :=
  Attended reason w ∧ reason.trapReason = some .hardwareBreak ∧ dr6 w = 0

/-- A system call that is not to be caught. -/
def Ignored (reason : StopReason) (w : World κ) : Prop :=
  Attended reason w ∧ reason.trapReason = some .syscall ∧ w.syscallCatchPolicy.mode = .some ∧
    ∃ info, reason.syscallInfo = some info ∧
      w.syscallCatchPolicy.toCatch.contains (info.id.toNat : Int) = false

/-- A stop that can be told to the user. -/
structure Reportable (reason : StopReason) (w : World κ) : Prop where
  described : Described reason
  hardware : reason.trapReason = some .hardwareBreak → dr6 w ≠ 0

section Respond

variable {reason : StopReason} {w : World κ} {wait : Sdb κ StopReason}

theorem respond_unattended (other : ¬ Attended reason w) :
    respond P wait reason w = .ok reason w := by
  unfold respond
  change (if (w.isAttached && reason.reason == .stopped) = true then _ else _ :
    Sdb κ StopReason) w = _
  split
  · next attended =>
    simp only [Bool.and_eq_true, beq_iff_eq] at attended
    rw [bind_ok (getPc_eq w), if_neg fun trap => other ⟨attended.1, attended.2, trap⟩]
    rfl
  · rfl

theorem respond_attended (attended : Attended reason w) :
    respond P wait reason w = handleSigtrap P wait reason (load w.data 128 8 - 1) w := by
  obtain ⟨attached, stopped, trap⟩ := attended
  unfold respond
  change (if (w.isAttached && reason.reason == .stopped) = true then _ else _ :
    Sdb κ StopReason) w = _
  rw [if_pos (by simp [attached, stopped]), bind_ok (getPc_eq w), if_pos trap]

theorem respond_software (attended : Attended reason w)
    (software : reason.trapReason = some .softwareBreak) (wait : Sdb κ StopReason) :
    respond P wait reason w = (do
      let site ← enabledSiteAt (load w.data 128 8 - 1)
      site.forM fun _ => setPc P (load w.data 128 8 - 1)
      pure reason : Sdb κ StopReason) w := by
  rw [respond_attended attended, handleSigtrap, software]

theorem respond_hardware (attended : Attended reason w)
    (hardware : reason.trapReason = some .hardwareBreak) (wait : Sdb κ StopReason) :
    respond P wait reason w = (do
      updateTriggeredWatchpoint P
      pure reason : Sdb κ StopReason) w := by
  rw [respond_attended attended, handleSigtrap, hardware]

theorem respond_call (attended : Attended reason w)
    (syscall : reason.trapReason = some .syscall) (wait : Sdb κ StopReason) :
    respond P wait reason w = maybeResumeFromSyscall P wait reason w := by
  rw [respond_attended attended, handleSigtrap, syscall]

/-- Any other stop is returned as it is. -/
theorem respond_other (software : reason.trapReason ≠ some .softwareBreak)
    (hardware : reason.trapReason ≠ some .hardwareBreak)
    (syscall : reason.trapReason ≠ some .syscall) (wait : Sdb κ StopReason) :
    respond P wait reason w = .ok reason w := by
  by_cases attended : Attended reason w
  · rw [respond_attended attended, handleSigtrap]
    cases cause : reason.trapReason with
    | none => rfl
    | some trap =>
      cases trap with
      | singleStep => rfl
      | unknown => rfl
      | softwareBreak => exact absurd cause software
      | hardwareBreak => exact absurd cause hardware
      | syscall => exact absurd cause syscall
  · exact respond_unattended attended

/-- What `wait_on_signal` does when it is called again. -/
def WaitsWell (n m : Nat) (wait : Sdb κ StopReason) : Prop :=
  ∀ u, OnStoppoints (Held n m) u →
    wp wait (fun r t => OnStoppoints (Held n m) t ∧ Reportable r t)
      (fun _ t => OnStoppoints (Held n m) t) u

theorem tame_rewind (pc : VirtAddr) : Tame Escaping (OnStoppoints (Held n m)) (do
    let site ← enabledSiteAt pc
    site.forM fun _ => setPc P pc
    pure reason : Sdb κ StopReason) := by
  intro w held
  rw [wp_bind]
  refine wp_enabledSiteAt held fun site _ => ?_
  exact ((tame_forM fun _ _ => tame_setPc pc).bind fun _ => Tame.pure reason) w held

theorem wp_rewind (pc : VirtAddr) {ok : StopReason → World κ → Prop}
    (held : OnStoppoints (Held n m) w) (same : ∀ t, OnStoppoints (Held n m) t → ok reason t) :
    wp (do
        let site ← enabledSiteAt pc
        site.forM fun _ => setPc P pc
        pure reason : Sdb κ StopReason) ok (fun _ t => OnStoppoints (Held n m) t) w := by
  rw [wp_bind]
  refine wp_enabledSiteAt held fun site _ => ?_
  rw [wp_bind]
  refine (tame_forM fun _ _ => tame_setPc pc) w held |>.mono (fun _ t kept => ?_)
    fun _ _ failed => failed.2
  exact same t kept

theorem respond_reportable (small : SmallAllocations P) (held : OnStoppoints (Held n m) w)
    (described : Described reason)
    (attended : reason.trapReason = none ∨ w.isAttached = true ∧ reason.reason = .stopped)
    (well : WaitsWell n m wait) :
    wp (respond P wait reason) (fun r t => OnStoppoints (Held n m) t ∧ Reportable r t)
      (fun _ t => OnStoppoints (Held n m) t) w := by
  have silent : reason.trapReason ≠ some .hardwareBreak → ∀ t : World κ,
      OnStoppoints (Held n m) t → OnStoppoints (Held n m) t ∧ Reportable reason t :=
    fun other t kept => ⟨kept, described, fun hardware => absurd hardware other⟩
  by_cases att : Attended reason w
  · by_cases software : reason.trapReason = some .softwareBreak
    · rw [wp_congr (respond_software att software wait)]
      exact wp_rewind _ held (silent (by simp [software]))
    by_cases hardware : reason.trapReason = some .hardwareBreak
    · rw [wp_congr (respond_hardware att hardware wait), wp_bind]
      by_cases blank : dr6 w = 0
      · rw [wp_of_error (updateTriggered_blank blank)]
        exact held
      · have read := (updateTriggered_mild small held blank).and
          (updateTriggered_data (P := P) w.data w rfl)
        refine read.mono (fun _ t done => ⟨done.1, described, fun _ => ?_⟩)
          fun _ _ failed => failed.1.2
        rw [dr6, done.2]
        exact blank
    by_cases syscall : reason.trapReason = some .syscall
    · obtain ⟨info, present, _⟩ := described.syscall syscall
      rw [wp_congr (respond_call att syscall wait)]
      by_cases mode : w.syscallCatchPolicy.mode = .some
      · rw [wp_congr (maybeResumeFromSyscall_some mode present wait), wp_ite]
        split
        · exact silent hardware w held
        · rw [wp_bind]
          exact (tame_resume w held).mono (fun _ u kept => well u kept) fun _ _ failed => failed.2
      · rw [wp_of_ok (maybeResumeFromSyscall_other mode wait reason)]
        exact silent hardware w held
    · rw [wp_of_ok (respond_other software hardware syscall wait)]
      exact silent hardware w held
  · rw [wp_of_ok (respond_unattended att)]
    refine ⟨held, described, fun hardware => absurd ?_ att⟩
    have cause := attended.resolve_left (by simp [hardware])
    exact ⟨cause.1, cause.2, described.hardware hardware⟩

/-- What comes after a system call raises only if it is not listed and is resumed. -/
theorem raises_maybeResumeFromSyscall (held : OnStoppoints (Held n m) w)
    {info : SyscallInformation} (syscall : reason.syscallInfo = some info) :
    Raises Escaping (maybeResumeFromSyscall P wait reason) w ↔
      (w.syscallCatchPolicy.mode = .some ∧
        (info.id.toNat : Int) ∉ w.syscallCatchPolicy.toCatch) ∧
      ∃ u, resume P w = .ok () u ∧ Raises Escaping wait u := by
  by_cases mode : w.syscallCatchPolicy.mode = .some
  · rw [raises_congr (maybeResumeFromSyscall_some mode syscall wait)]
    split
    · next listed =>
      have member : (info.id.toNat : Int) ∈ w.syscallCatchPolicy.toCatch := by
        simpa using listed
      simp [member]
    · next unlisted =>
      have absent : (info.id.toNat : Int) ∉ w.syscallCatchPolicy.toCatch := by
        simpa using unlisted
      rw [tame_resume.raises_bind held, and_iff_right ⟨mode, absent⟩]
      constructor
      · intro h
        obtain ⟨_, u, resumed, raised⟩ := h
        exact ⟨u, resumed, raised⟩
      · intro h
        obtain ⟨u, resumed, raised⟩ := h
        exact ⟨(), u, resumed, raised⟩
  · rw [iff_false_intro (raises_of_ok (maybeResumeFromSyscall_other mode wait reason))]
    simp [mode]

theorem raises_respond (small : SmallAllocations P) (held : OnStoppoints (Held n m) w)
    (described : Described reason) :
    Raises Escaping (respond P wait reason) w ↔
      BlankTrap reason w ∨ Ignored reason w ∧
        ∃ u, resume P w = .ok () u ∧ Raises Escaping wait u := by
  by_cases att : Attended reason w
  · simp only [BlankTrap, Ignored, att, true_and]
    by_cases software : reason.trapReason = some .softwareBreak
    · rw [raises_congr (respond_software att software wait)]
      simpa [software] using (tame_rewind _).not_raises held
    by_cases hardware : reason.trapReason = some .hardwareBreak
    · rw [raises_congr (respond_hardware att hardware wait)]
      by_cases blank : dr6 w = 0
      · rw [raises_bind_of_error (updateTriggered_blank blank)]
        simp [hardware, blank, Escaping, Fault.escapes]
      · have mild : ¬ Raises Escaping (updateTriggeredWatchpoint P >>= fun _ => pure reason) w := by
          rw [raises_bind]
          simp [not_raises_of_wp (updateTriggered_mild small held blank) fun _ _ h => h.1]
        rw [iff_false_intro mild]
        simpa [hardware] using blank
    by_cases syscall : reason.trapReason = some .syscall
    · obtain ⟨info, present, _⟩ := described.syscall syscall
      rw [raises_congr (respond_call att syscall wait), raises_maybeResumeFromSyscall held present]
      simp [syscall, present]
    · rw [iff_false_intro (raises_of_ok (respond_other software hardware syscall wait))]
      simp [hardware, syscall]
  · rw [iff_false_intro (raises_of_ok (respond_unattended att)), BlankTrap, Ignored]
    simp [att]

end Respond

/-- Among the stops that are waited for there is a hardware stop about which DR6 says
nothing. -/
def MeetsBlankTrap (P : Platform κ) : Nat → World κ → Prop
  | 0, _ => False
  | fuel + 1, w => ∃ reason t, arrive P w = .ok reason t ∧
      (BlankTrap reason t ∨
        Ignored reason t ∧ ∃ u, resume P t = .ok () u ∧ MeetsBlankTrap P fuel u)

theorem waitOnSignal_reportable (small : SmallAllocations P) (fuel : Nat) :
    WaitsWell n m (waitOnSignal P fuel) := by
  induction fuel with
  | zero => exact fun w held => held
  | succ fuel ih =>
    intro w held
    rw [waitOnSignal_succ, wp_bind]
    refine ((arrive_described held).and (arrive_attended w)).mono (fun reason t arrived => ?_)
      fun _ _ failed => failed.1.2
    exact respond_reportable small arrived.1.1 arrived.1.2 arrived.2 ih

theorem raises_waitOnSignal (small : SmallAllocations P) (fuel : Nat) {w : World κ}
    (held : OnStoppoints (Held n m) w) :
    Raises Escaping (waitOnSignal P fuel) w ↔ MeetsBlankTrap P fuel w := by
  induction fuel generalizing w with
  | zero => simp [waitOnSignal, MeetsBlankTrap, Escaping, Fault.escapes]
  | succ fuel ih =>
    have described := arrive_described (P := P) held
    have mild : ¬ Raises Escaping (arrive P) w := not_raises_of_wp described fun _ _ h => h.1
    rw [waitOnSignal_succ, raises_bind, MeetsBlankTrap, or_iff_right mild]
    refine exists_congr fun reason => exists_congr fun t => and_congr_right fun arrived => ?_
    obtain ⟨kept, known⟩ := (wp_of_ok arrived _ _).1 described
    rw [raises_respond small kept known]
    refine or_congr_right (and_congr_right fun _ => exists_congr fun u => and_congr_right ?_)
    exact fun resumed => ih (tame_resume.of_ok kept resumed)

/-! ### Single steps -/

/-- `step_instruction` up to its call of `wait_on_signal`. -/
def startStep (P : Platform κ) : Sdb κ (Option Nat) := do
  let pc ← getPc
  let toReenable ← enabledSiteAt pc
  toReenable.forM (BreakpointSite.disable P)
  orSendErrno "could not single step" (P.resume .singleStep)
  pure toReenable

theorem stepInstruction_eq (fuel : Nat) :
    stepInstruction P fuel = (do
      let toReenable ← startStep P
      let reason ← waitOnSignal P fuel
      toReenable.forM (BreakpointSite.enable P)
      pure reason) := by
  simp only [stepInstruction, startStep, bind_assoc, pure_bind]

theorem startStep_mild {w : World κ} (held : OnStoppoints (Held n m) w) :
    wp (startStep P) (fun site t => OnStoppoints (Held n m) t ∧ ∀ i ∈ site, i < n)
      (fun e t => ¬ Escaping e ∧ OnStoppoints (Held n m) t) w := by
  unfold startStep
  rw [wp_bind, wp_of_ok (getPc_eq w), wp_bind]
  refine wp_enabledSiteAt held fun site inside => ?_
  rw [wp_bind]
  refine (tame_forM fun i member => tame_disable (inside i member)) w held |>.mono
    (fun _ t kept => ?_) fun _ _ failed => failed
  rw [wp_bind]
  exact (tame_orSendErrno _ _ t kept).mono (fun _ u kept => ⟨kept, inside⟩) fun _ _ failed => failed

/-- Arming a site leaves DR6 alone. -/
theorem writeDebug_dr6 {v : Word} {i : Nat} (hi : i < 8) (other : i ≠ 6) (address : Word) :
    Preserves (fun w : World κ => dr6 w = v)
      (Registers.writeById P (RegisterId.dr0.toInt + i) (.u64 address)) := by
  rw [Registers.writeById_u64 P (wholeWord_dr hi)]
  refine Preserves.bind (Preserves.modify fun w same => ?_) fun _ =>
    preserves_orSendErrno fun w same => same
  rw [← same, dr6, dr6, load_store_debug _ hi (by omega), if_neg (Ne.symm other)]

theorem setHardwareStoppoint_dr6 {v : Word} (address : VirtAddr) (mode : StoppointMode)
    (size : BitVec 64) :
    Preserves (fun w : World κ => dr6 w = v) (setHardwareStoppoint P address mode size) := by
  refine (Registers.preserves_readByIdAsU64 _).bind fun control w same => ?_
  rw [wp_bind, wp_liftFault]
  refine ⟨fun i found => ?_, fun _ _ => same⟩
  have slot := findFree_lt found
  have rest := (writeDebug_dr6 (P := P) (v := v) (by omega) (show i ≠ 6 by omega) address).bind
    fun _ => (preserves_liftFault (encodeHardwareStoppointSize size)).bind fun flag =>
      (writeDebug_dr6 (P := P) (v := v) (i := 7) (by omega) (by omega)
        (setControl control i (encodeHardwareStoppointMode mode) flag)).bind fun _ =>
          Preserves.pure (i : Int)
  exact rest w same

theorem enable_dr6 {v : Word} (i : Nat) :
    Preserves (fun w : World κ => dr6 w = v) (BreakpointSite.enable P i) := by
  refine Preserves.bind (Preserves.get.bind fun _ => preserves_liftFault _) fun site => ?_
  refine Preserves.ite (Preserves.pure _) (Preserves.bind (Preserves.ite ?_ ?_) fun _ =>
    Preserves.modify fun _ same => same)
  · exact (setHardwareStoppoint_dr6 _ _ _).bind fun _ => Preserves.modify fun _ same => same
  · refine (preserves_orSendErrno fun _ same => same).bind fun _ => ?_
    exact Preserves.bind (Preserves.modify fun _ same => same) fun _ =>
      preserves_orSendErrno fun _ same => same

theorem stepInstruction_reportable (small : SmallAllocations P) (fuel : Nat) :
    WaitsWell n m (stepInstruction P fuel) := by
  intro w held
  rw [stepInstruction_eq, wp_bind]
  refine (startStep_mild held).mono (fun site t started => ?_) fun _ _ failed => failed.2
  obtain ⟨kept, inside⟩ := started
  rw [wp_bind]
  refine (waitOnSignal_reportable small fuel t kept).mono (fun reason u waited => ?_)
    fun _ _ failed => failed
  obtain ⟨kept, known⟩ := waited
  have enabled : wp (site.forM (BreakpointSite.enable P))
      (fun _ t => OnStoppoints (Held n m) t ∧ dr6 t = dr6 u)
      (fun e t => (¬ Escaping e ∧ OnStoppoints (Held n m) t) ∧ dr6 t = dr6 u) u := by
    refine wp.and (tame_forM (fun i member => tame_enable (inside i member)) u kept) ?_
    exact preserves_forM (I := fun w => dr6 w = dr6 u) (fun i => enable_dr6 i) u rfl
  rw [wp_bind]
  refine enabled.mono (fun _ t done => ⟨done.1, known.described, fun hardware => ?_⟩)
    fun _ _ failed => failed.1.2
  rw [done.2]
  exact known.hardware hardware

theorem raises_stepInstruction (small : SmallAllocations P) (fuel : Nat) {w : World κ}
    (held : OnStoppoints (Held n m) w) :
    Raises Escaping (stepInstruction P fuel) w ↔
      ∃ site t, startStep P w = .ok site t ∧ MeetsBlankTrap P fuel t := by
  have started := startStep_mild (P := P) held
  rw [stepInstruction_eq, raises_bind,
    or_iff_right (not_raises_of_wp started fun _ _ failed => failed.1)]
  refine exists_congr fun site => exists_congr fun t => and_congr_right fun run => ?_
  obtain ⟨kept, inside⟩ := (wp_of_ok run _ _).1 started
  have rest : ∀ reason u, waitOnSignal P fuel t = .ok reason u →
      ¬ Raises Escaping (site.forM (BreakpointSite.enable P) >>= fun _ => pure reason) u := by
    intro reason u waited
    have held' := ((wp_of_ok waited _ _).1 (waitOnSignal_reportable small fuel t kept)).1
    exact ((tame_forM fun i member => tame_enable (inside i member)).bind fun _ =>
      Tame.pure reason).not_raises held'
  rw [raises_bind, raises_waitOnSignal small fuel kept]
  refine or_iff_left fun h => ?_
  obtain ⟨reason, u, waited, raised⟩ := h
  exact rest reason u waited raised

end SdbDebugger
