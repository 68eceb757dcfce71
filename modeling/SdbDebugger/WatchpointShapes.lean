import SdbDebugger.HardwareFailures
import SdbDebugger.StoppointHazards
import SdbDebugger.StoppointToggles

/-! What a debug register can watch. The constructor of a watchpoint checks its address
against a mask made from the size, and nothing checks the size or the mode. -/

namespace SdbDebugger
open EffectRules ActionRuns ByteSpace KeyedList StoppointCollection

variable {κ : Type} {P : Platform κ}

/-- A size and a mode that a slot can be given. -/
structure FitsSlot (mode : StoppointMode) (size : BitVec 64) : Prop where
  power : size = 1 ∨ size = 2 ∨ size = 4 ∨ size = 8
  single : mode = .execute → size = 1

/-- What the processor can be asked to watch. -/
structure Armable (address : VirtAddr) (mode : StoppointMode) (size : BitVec 64) : Prop extends
    FitsSlot mode size where
  aligned : size.toNat ∣ address.toNat

instance (mode : StoppointMode) (size : BitVec 64) : Decidable (FitsSlot mode size) :=
  decidable_of_iff (_ ∧ _) ⟨fun h => ⟨h.1, h.2⟩, fun h => ⟨h.power, h.single⟩⟩

/-- For these sizes the mask of the constructor tests alignment. -/
theorem dvd_of_mask {address size : BitVec 64} (power : size = 1 ∨ size = 2 ∨ size = 4 ∨ size = 8)
    (masked : address &&& (size - 1) = 0) : size.toNat ∣ address.toNat := by
  have low : ∀ n, size = BitVec.ofNat 64 (2 ^ n) → n ≤ 3 → 2 ^ n ∣ address.toNat := by
    intro n same small
    subst same
    have bits := congrArg BitVec.toNat masked
    have mask : (BitVec.ofNat 64 (2 ^ n) - 1).toNat = 2 ^ n - 1 := by
      interval_cases n <;> rfl
    rw [BitVec.toNat_and, mask, Nat.and_two_pow_sub_one_eq_mod] at bits
    exact Nat.dvd_of_mod_eq_zero bits
  rcases power with rfl | rfl | rfl | rfl
  · exact low 0 rfl (by decide)
  · exact low 1 rfl (by decide)
  · exact low 2 rfl (by decide)
  · exact low 3 rfl (by decide)

theorem FitsSlot.small {mode : StoppointMode} {size : BitVec 64} (fits : FitsSlot mode size) :
    size.toNat ≤ 8 := by
  rcases fits.power with rfl | rfl | rfl | rfl <;> decide

theorem FitsSlot.encodable {mode : StoppointMode} {size : BitVec 64} (fits : FitsSlot mode size) :
    ∃ flag, encodeHardwareStoppointSize size = .ok flag := by
  rcases fits.power with rfl | rfl | rfl | rfl
  all_goals exact ⟨_, rfl⟩

/-! ### Creation -/

/-- The memory overrun of the constructor and of `update_data`. -/
def overrun : Fault := .undefinedBehaviour "memcpy past new_data"

/-- The constructor is not reached, or raises before it copies anything. -/
def Declined (P : Platform κ) (w : World κ) (address : VirtAddr) (size : BitVec 64) : Prop :=
  containsAddress w.watchpoints address = true ∨ address &&& (size - 1) ≠ 0 ∨
    Exhausted w.watchpointId ∨ Unallocatable P 1 size.toNat ∨
    ∃ e, (P.processVmReadv (remoteDescs address size.toNat) w.kernel).1 = .error e

section Create

variable {w : World κ} {address : VirtAddr} {mode : StoppointMode} {size : BitVec 64}

/-- A creation that raises has at most taken an id and read memory. -/
def Spent (P : Platform κ) (w t : World κ) (address : VirtAddr) (size : BitVec 64) : Prop :=
  ∃ id k, t = { w with watchpointId := id, kernel := k } ∧
    (k = w.kernel ∨ k = (P.processVmReadv (remoteDescs address size.toNat) w.kernel).2)

theorem Spent.refl : Spent P w w address size := ⟨w.watchpointId, w.kernel, rfl, .inl rfl⟩

/-- The creation is refused: by a check, or by the read of the value. -/
def CreationRefused (P : Platform κ) (w : World κ) (address : VirtAddr) (size : BitVec 64) : Prop :=
  containsAddress w.watchpoints address = true ∨ address &&& (size - 1) ≠ 0 ∨
    ¬ Exhausted w.watchpointId ∧ (Unallocatable P 1 size.toNat ∨
      ∃ e, (P.processVmReadv (remoteDescs address size.toNat) w.kernel).1 = .error e)

theorem createWatchpoint_refused (mode : StoppointMode)
    (refused : CreationRefused P w address size) :
    ∃ e t, createWatchpoint P address mode size w = .error e t ∧
      (∀ reason, e ≠ .undefinedBehaviour reason) ∧ Spent P w t address size := by
  unfold createWatchpoint
  rw [get_bind]
  by_cases taken : containsAddress w.watchpoints address = true
  · rw [if_pos taken]
    exact ⟨_, _, rfl, nofun, .refl⟩
  rw [if_neg taken]
  by_cases odd : address &&& (size - 1) ≠ 0
  · rw [if_pos odd]
    exact ⟨_, _, rfl, nofun, .refl⟩
  obtain ⟨ids, unread⟩ := (refused.resolve_left taken).resolve_left odd
  rw [if_neg odd, nextId, if_pos (not_le.1 ids), liftFault_ok, pure_bind]
  obtain ⟨e, k, raised, mild, kernel⟩ :=
    readMemory_error (P := P) (w := { w with watchpointId := w.watchpointId + 1 }) _ unread
  exact ⟨e, _, bind_error raised _, mild, _, _, rfl, kernel⟩

theorem createWatchpoint_exhausted (mode : StoppointMode)
    (fresh : ¬ containsAddress w.watchpoints address = true) (aligned : address &&& (size - 1) = 0)
    (exhausted : Exhausted w.watchpointId) : createWatchpoint P address mode size w =
      .error (.undefinedBehaviour "signed overflow of an id") w := by
  unfold createWatchpoint
  rw [get_bind, if_neg fresh, if_neg (not_not_intro aligned), nextId,
    if_neg (not_lt.2 exhausted)]
  rfl

theorem createWatchpoint_declined (mode : StoppointMode) (declined : Declined P w address size) :
    ∃ e t, createWatchpoint P address mode size w = .error e t ∧ e ≠ overrun ∧
      Spent P w t address size := by
  by_cases refused : CreationRefused P w address size
  · obtain ⟨e, t, raised, mild, spent⟩ := createWatchpoint_refused mode refused
    exact ⟨e, t, raised, mild _, spent⟩
  · unfold CreationRefused at refused
    rw [not_or, not_or, not_and, not_not] at refused
    obtain ⟨fresh, aligned, other⟩ := refused
    have exhausted : Exhausted w.watchpointId := by
      by_contra ids
      rcases ((declined.resolve_left fresh).resolve_left (not_not_intro aligned)).resolve_left ids
        with unread | unread
      · exact other ids (.inl unread)
      · exact other ids (.inr unread)
    refine ⟨_, _, createWatchpoint_exhausted mode fresh aligned exhausted, ?_, .refl⟩
    simp [overrun]

/-- What a read of memory returns for the bytes received. -/
def readBytes (received : List Byte) (amount : Nat) : List Byte :=
  received ++ List.replicate (amount - received.length) 0

/-- The world after the constructor has taken an id and read the value. -/
def afterValueRead (w : World κ) (k : κ) : World κ :=
  { w with watchpointId := w.watchpointId + 1, kernel := k }

theorem createWatchpoint_accepted (mode : StoppointMode)
    (accepted : ¬ Declined P w address size) : ∃ received k,
    P.processVmReadv (remoteDescs address size.toNat) w.kernel = (.ok received, k) ∧
    createWatchpoint P address mode size w =
      if 8 < size.toNat then .error overrun (afterValueRead w k)
      else .ok w.watchpoints.length { afterValueRead w k with
        watchpoints := w.watchpoints ++ [⟨w.watchpointId + 1, address, mode, size, false,
          ofBytes 8 fun j => (readBytes received size.toNat).getD j 0, 0, -1⟩] } := by
  unfold Declined at accepted
  push Not at accepted
  obtain ⟨fresh, aligned, ids, possible, answered⟩ := accepted
  rcases read : P.processVmReadv (remoteDescs address size.toNat) w.kernel with ⟨e | received, k⟩
  · exact absurd (congrArg Prod.fst read) (answered e)
  · refine ⟨received, k, rfl, ?_⟩
    have run := readMemory_ok (w := { w with watchpointId := w.watchpointId + 1 }) possible read
    unfold createWatchpoint
    rw [get_bind, if_neg fresh,
      if_neg (not_not_intro aligned), nextId, if_pos (not_le.1 ids), liftFault_ok,
      pure_bind]
    refine (bind_ok run _).trans ?_
    split
    · rfl
    · rfl

/-- A creation either returns a watchpoint that can be armed or raises before it copies. -/
structure CreatesArmable (P : Platform κ) (w : World κ) (address : VirtAddr) (mode : StoppointMode)
    (size : BitVec 64) : Prop where
  armable : ∀ i t, createWatchpoint P address mode size w = .ok i t → Armable address mode size
  bounded : ∀ e t, createWatchpoint P address mode size w = .error e t → e ≠ overrun

theorem createsArmable_iff :
    CreatesArmable P w address mode size ↔ FitsSlot mode size ∨ Declined P w address size := by
  by_cases declined : Declined P w address size
  · obtain ⟨e, t, raised, mild, _⟩ := createWatchpoint_declined mode declined
    refine iff_of_true ⟨fun i u done => ?_, fun e' u again => ?_⟩ (.inr declined)
    · cases raised.symm.trans done
    · cases raised.symm.trans again
      exact mild
  · rw [or_iff_left declined]
    obtain ⟨received, k, _, outcome⟩ := createWatchpoint_accepted mode declined
    constructor
    · intro creates
      by_cases large : 8 < size.toNat
      · rw [if_pos large] at outcome
        exact absurd rfl (creates.bounded _ _ outcome)
      · rw [if_neg large] at outcome
        exact (creates.armable _ _ outcome).toFitsSlot
    · intro fits
      rw [if_neg (not_lt.2 fits.small)] at outcome
      unfold Declined at declined
      push Not at declined
      refine ⟨fun _ _ _ => ⟨fits, dvd_of_mask fits.power declined.2.1⟩, fun e u raised => ?_⟩
      cases outcome.symm.trans raised

end Create

/-! ### Sessions -/

/-- Every watchpoint can be armed. -/
def AllArmable (w : World κ) : Prop := ∀ p ∈ w.watchpoints, Armable p.address p.mode p.size

theorem allArmable_toggled (points : List Watchpoint) (i : Nat) (f : Watchpoint → Watchpoint)
    (kept : ∀ p : Watchpoint, p.Toggled (f p))
    (all : ∀ p ∈ points, Armable p.address p.mode p.size) :
    ∀ p ∈ points.modify i f, Armable p.address p.mode p.size := by
  intro p member
  rcases mem_modify.1 member with ⟨old, at_i, rfl⟩ | ⟨j, _, at_j⟩
  · rw [(kept old).address, (kept old).mode, (kept old).size]
    exact all old (List.mem_of_getElem? at_i)
  · exact all p (List.mem_of_getElem? at_j)

theorem allArmable_toggles : ToggleBlind (AllArmable : World κ → Prop) :=
  watchpoints_toggles allArmable_toggled

theorem allArmable_updateData (i : Nat) :
    Preserves (AllArmable : World κ → Prop) (Watchpoint.updateData P i) := by
  refine preserves_updateData P (fun _ _ h => h) i fun _ => Preserves.modify fun w h p member => ?_
  rcases mem_modify.1 member with ⟨old, at_i, rfl⟩ | ⟨j, _, at_j⟩
  · exact h old (List.mem_of_getElem? at_i)
  · exact h p (List.mem_of_getElem? at_j)

theorem allArmable_createWatchpoint {w : World κ} {address : VirtAddr} {mode : StoppointMode}
    {size : BitVec 64} (admitted : FitsSlot mode size ∨ Declined P w address size)
    (all : AllArmable w) :
    wp (createWatchpoint P address mode size) (fun _ t => AllArmable t) (fun _ t => AllArmable t)
      w := by
  by_cases declined : Declined P w address size
  · obtain ⟨e, t, raised, _, id, k, rfl, _⟩ := createWatchpoint_declined mode declined
    rw [wp_of_error raised]
    exact all
  · obtain ⟨received, k, _, outcome⟩ := createWatchpoint_accepted mode declined
    have fits := admitted.resolve_right declined
    rw [if_neg (not_lt.2 fits.small)] at outcome
    rw [wp_of_ok outcome]
    intro p member
    rcases List.mem_append.1 member with old | new
    · exact all p old
    · rw [List.mem_singleton.1 new]
      exact (createsArmable_iff.2 admitted).armable _ _ outcome

theorem allArmable_removeWatchpoint (found : Option Nat) :
    Preserves (AllArmable : World κ → Prop) (removeWatchpoint P found) := by
  refine (preserves_liftFault _).bind fun i =>
    (allArmable_toggles.preserves_watchpointDisable i).bind fun _ => ?_
  exact Preserves.modify fun w all p member => all p (List.mem_of_mem_eraseIdx member)

theorem allArmable_perform {op : StoppointOp}
    (other : ∀ address mode size, op ≠ .createWatchpoint address mode size) :
    Preserves (AllArmable : World κ → Prop) (op.perform P) := by
  cases op with
  | createWatchpoint address mode size => exact absurd rfl (other address mode size)
  | removeWatchpointById id => exact Preserves.get.bind fun w => allArmable_removeWatchpoint _
  | removeWatchpointByAddress address =>
    exact Preserves.get.bind fun w => allArmable_removeWatchpoint _
  | _ => exact watchpoints_perform allArmable_toggled rfl

/-- A creation asks for what a slot can watch, or is declined. -/
def CreatesFitting (P : Platform κ) (op : SessionOp) (w : World κ) : Prop :=
  ∀ address mode size, op = .stoppoint (.createWatchpoint address mode size) →
    FitsSlot mode size ∨ Declined P w address size

theorem allArmable_step {op : SessionOp} {w t : World κ} (all : AllArmable w)
    (fitting : CreatesFitting P op w) (alive : sessionStep P op w = some t) : AllArmable t := by
  by_cases creates : ∃ address mode size, op = .stoppoint (.createWatchpoint address mode size)
  · obtain ⟨address, mode, size, rfl⟩ := creates
    have created := allArmable_createWatchpoint (fitting address mode size rfl) all
    have performed : wp ((StoppointOp.createWatchpoint address mode size).perform P)
        (fun _ t => AllArmable t) (fun _ t => AllArmable t) w := by
      rw [StoppointOp.perform, wp_bind]
      exact created
    rcases survive_wp performed alive with ⟨_, kept⟩ | ⟨_, _, kept⟩
    · exact kept
    · exact kept
  · refine survive_invariant (allArmable_toggles.preserves_session allArmable_updateData
      (fun _ _ h => h) fun op' same => allArmable_perform fun address mode size made => ?_) all alive
    exact creates ⟨address, mode, size, by rw [same, made]⟩

/-! ### What enabling and reading can raise -/

theorem setHardware_raises {w t : World κ} {address : VirtAddr} {mode : StoppointMode}
    {size : BitVec 64} {e : Fault} (fits : FitsSlot mode size)
    (raised : setHardwareStoppoint P address mode size w = .error e t) :
    e = .error "no remaining hardware debug registers" ∨
      ∃ errno, e = .sendErrno "could not write to user area" errno := by
  rcases found : findFreeStoppointRegister (cachedControl w) with what | i
  · cases (setHardware_full found).symm.trans raised
    unfold findFreeStoppointRegister at found
    split at found
    · cases found
    · cases found
      exact .inl rfl
  · rcases poke : P.pokeUser (debugOffset i) address w.kernel with ⟨errno | _, k⟩
    · cases (setHardware_addressRefused found poke).symm.trans raised
      exact .inr ⟨errno, rfl⟩
    · obtain ⟨flag, encoded⟩ := fits.encodable
      rcases poke' : P.pokeUser (debugOffset 7) (setControl (cachedControl w) i
          (encodeHardwareStoppointMode mode) flag) k with ⟨errno | _, k'⟩
      · cases (setHardware_controlRefused found poke encoded poke').symm.trans raised
        exact .inr ⟨errno, rfl⟩
      · cases (setHardware_done found poke encoded poke').symm.trans raised

theorem updateData_raises {w t : World κ} {i : Nat} {e : Fault}
    (small : ∀ p ∈ w.watchpoints, p.size.toNat ≤ 8)
    (raised : Watchpoint.updateData P i w = .error e t) : e ≠ overrun := by
  unfold Watchpoint.updateData at raised
  cases at_i : w.watchpoints[i]? with
  | none =>
    have missing : (watchpointAt i : Sdb κ Watchpoint) w =
        .error (.undefinedBehaviour "reference to no stoppoint") w := by
      change liftFault (deref w.watchpoints i) w = _
      rw [deref, at_i]
      rfl
    cases (bind_error missing _).symm.trans raised
    simp [overrun]
  | some point =>
    rw [bind_ok (watchpointAt_eq at_i)] at raised
    by_cases fails : Unallocatable P 1 point.size.toNat ∨
        ∃ e, (P.processVmReadv (remoteDescs point.address point.size.toNat) w.kernel).1 = .error e
    · obtain ⟨e', k, refused, mild, _⟩ := readMemory_error _ fails
      cases (bind_error refused _).symm.trans raised
      exact mild _
    · push Not at fails
      rcases read : P.processVmReadv (remoteDescs point.address point.size.toNat) w.kernel with
        ⟨e' | received, k⟩
      · exact absurd (congrArg Prod.fst read) (fails.2 e')
      · rw [bind_ok (readMemory_ok fails.1 read),
          if_neg (not_lt.2 (small point (List.mem_of_getElem? at_i)))] at raised
        cases raised

/-- Enabling fails only for want of a slot or of an accepted write, and no read of a value
overruns it. -/
structure Serviceable (P : Platform κ) (w : World κ) : Prop where
  armable : AllArmable w
  enable : ∀ i p, w.watchpoints[i]? = some p → ∀ e t, Watchpoint.enable P i w = .error e t →
    e = .error "no remaining hardware debug registers" ∨
      ∃ errno, e = .sendErrno "could not write to user area" errno
  update : ∀ i e t, Watchpoint.updateData P i w = .error e t → e ≠ overrun

theorem AllArmable.serviceable {w : World κ} (all : AllArmable w) : Serviceable P w := by
  refine ⟨all, fun i p at_i e t raised => ?_, fun i e t raised => ?_⟩
  · by_cases on : p.isEnabled = true
    · cases (watchpointEnable_enabled at_i on).symm.trans raised
    · rw [watchpointEnable_raises at_i (Bool.eq_false_iff.2 on)] at raised
      exact setHardware_raises (all p (List.mem_of_getElem? at_i)).toFitsSlot raised
  · exact updateData_raises (fun p member => (all p member).small) raised

/-- A creation is safe exactly if it asks for what a slot can watch or is declined, and in every
session whose creations all are, every watchpoint can be armed and read. -/
theorem watchpoints_serviceable :
    (∀ (w : World κ) (address : VirtAddr) (mode : StoppointMode) (size : BitVec 64),
      CreatesArmable P w address mode size ↔ FitsSlot mode size ∨ Declined P w address size) ∧
    ∀ (ops : List SessionOp) (w w' : World κ), w.watchpoints = [] →
      Along (sessionStep P) (CreatesFitting P) ops w → run (sessionStep P) ops w = some w' →
      Serviceable P w' := by
  refine ⟨fun _ _ _ _ => createsArmable_iff, fun ops w w' start fitting reach => ?_⟩
  have init : AllArmable w := by
    intro p member
    simp [start] at member
  have all : AllArmable w' :=
    run_invariant_along (fun _ _ _ kept admitted alive => allArmable_step kept admitted alive) init
      fitting reach
  exact all.serviceable

theorem watchpoints_serviceable_eightBytes :
    ∃ w, run (sessionStep refusingPlatform)
        [.stoppoint (.createWatchpoint 0x1000 .readWrite 8), .stoppoint (.enableWatchpoint 0)]
        (scriptedWorld [] []) = some w ∧
      w.watchpoints.length = 1 ∧ Serviceable refusingPlatform w := by
  have fitting : Along (sessionStep refusingPlatform) (CreatesFitting refusingPlatform)
      [.stoppoint (.createWatchpoint 0x1000 .readWrite 8), .stoppoint (.enableWatchpoint 0)]
      (scriptedWorld [] []) := by
    refine ⟨fun address mode size same => ?_, fun _ _ =>
      ⟨fun address mode size same => ?_, by simp [Along]⟩⟩
    · cases same
      exact .inl (by decide)
    · cases same
  exact ⟨_, rfl, rfl, watchpoints_serviceable.2 _ _ _ rfl fitting rfl⟩

/-- Three bytes at `0x1000` pass the check; no slot can be given that size. -/
theorem not_createsArmable_threeBytes :
    ¬ CreatesArmable refusingPlatform (scriptedWorld [] []) 0x1000 .write 3 ∧
    ∃ w t, run (sessionStep refusingPlatform) [.stoppoint (.createWatchpoint 0x1000 .write 3)]
        (scriptedWorld [] []) = some w ∧
      Watchpoint.enable refusingPlatform 0 w = .error (.error "invalid stoppoint size") t := by
  refine ⟨fun creates => ?_, _, _, rfl, rfl⟩
  have shape := (creates.armable _ _ rfl).power
  revert shape
  decide

end SdbDebugger
