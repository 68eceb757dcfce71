import SdbDebugger.HardwareInvariant
import SdbDebugger.RefusingKernel
import SdbDebugger.StoppointRuns

/-! Hardware stoppoints that cannot be enabled. `set_hardware_stoppoint` writes the address
of the slot, then encodes the size and writes the control register; a step that fails leaves
what the steps before it have done, and each write has changed the cached struct before the
kernel answers. -/

namespace SdbDebugger
open EffectRules ActionRuns ByteSpace StoppointCollection

variable {κ : Type} {P : Platform κ} {debug : κ → Nat → Word}

/-- The control register of the cached struct. -/
def cachedControl (w : World κ) : Word := load w.data (debugOffset 7) 8

/-- After a write of a slot register that the kernel has answered. -/
def afterSlotWrite (w : World κ) (i : Nat) (v : Word) (k : κ) : World κ :=
  { w with data := store w.data (debugOffset i) 8 v, kernel := k }

theorem load_afterSlotWrite (w : World κ) {i j : Nat} (hi : i < 8) (hj : j < 8) (v : Word) (k : κ) :
    load (afterSlotWrite w i v k).data (debugOffset j) 8 =
      if j = i then v else load w.data (debugOffset j) 8 :=
  load_store_debug w.data hi hj v

/-! ### The steps of `set_hardware_stoppoint` -/

section Steps

variable {w : World κ} {address : VirtAddr} {mode : StoppointMode} {size : BitVec 64} {i : Nat}
  {e : Errno} {k k' : κ}

theorem writeSlot_accepted (hi : i < 8) {v : Word}
    (poke : P.pokeUser (debugOffset i) v w.kernel = (.ok (), k)) :
    Registers.writeById P (RegisterId.dr0.toInt + i) (.u64 v) w = .ok () (afterSlotWrite w i v k) := by
  rw [Registers.writeById_u64 P (wholeWord_dr hi)]
  exact orSendErrno_ok poke

theorem writeSlot_refused (hi : i < 8) {v : Word}
    (poke : P.pokeUser (debugOffset i) v w.kernel = (.error e, k)) :
    Registers.writeById P (RegisterId.dr0.toInt + i) (.u64 v) w =
      .error (.sendErrno "could not write to user area" e) (afterSlotWrite w i v k) := by
  rw [Registers.writeById_u64 P (wholeWord_dr hi)]
  exact orSendErrno_error poke

theorem readControl (w : World κ) :
    Registers.readByIdAsU64 RegisterId.dr7.toInt w = .ok (cachedControl w) w :=
  Registers.readByIdAsU64_eq (wholeWord_dr (i := 7) (by omega)) w

theorem setHardware_full {what : Fault}
    (full : findFreeStoppointRegister (cachedControl w) = .error what) :
    setHardwareStoppoint P address mode size w = .error what w := by
  rw [setHardwareStoppoint, bind_ok (readControl w), full]
  rfl

/-- The call once a free slot is found. -/
theorem setHardware_found (found : findFreeStoppointRegister (cachedControl w) = .ok i) :
    setHardwareStoppoint P address mode size w = (do
      Registers.writeById P (RegisterId.dr0.toInt + i) (.u64 address)
      let sizeFlag ← liftFault (encodeHardwareStoppointSize size)
      Registers.writeById P RegisterId.dr7.toInt
        (.u64 (setControl (cachedControl w) i (encodeHardwareStoppointMode mode) sizeFlag))
      pure (i : Int) : Sdb κ Int) w := by
  rw [setHardwareStoppoint, bind_ok (readControl w), found]
  rfl

theorem setHardware_addressRefused
    (found : findFreeStoppointRegister (cachedControl w) = .ok i)
    (poke : P.pokeUser (debugOffset i) address w.kernel = (.error e, k)) :
    setHardwareStoppoint P address mode size w =
      .error (.sendErrno "could not write to user area" e) (afterSlotWrite w i address k) := by
  have hi := (findFree_eq_ok found).1
  rw [setHardware_found found, bind_error (writeSlot_refused (by omega) poke)]

theorem setHardware_unencodable {what : Fault}
    (found : findFreeStoppointRegister (cachedControl w) = .ok i)
    (poke : P.pokeUser (debugOffset i) address w.kernel = (.ok (), k))
    (bad : encodeHardwareStoppointSize size = .error what) :
    setHardwareStoppoint P address mode size w = .error what (afterSlotWrite w i address k) := by
  have hi := (findFree_eq_ok found).1
  rw [setHardware_found found, bind_ok (writeSlot_accepted (by omega) poke), bad]
  rfl

theorem setHardware_controlRefused {flag : Word}
    (found : findFreeStoppointRegister (cachedControl w) = .ok i)
    (poke : P.pokeUser (debugOffset i) address w.kernel = (.ok (), k))
    (encoded : encodeHardwareStoppointSize size = .ok flag)
    (poke' : P.pokeUser (debugOffset 7) (setControl (cachedControl w) i
      (encodeHardwareStoppointMode mode) flag) k = (.error e, k')) :
    setHardwareStoppoint P address mode size w =
      .error (.sendErrno "could not write to user area" e)
        (afterSlotWrite (afterSlotWrite w i address k) 7
          (setControl (cachedControl w) i (encodeHardwareStoppointMode mode) flag) k') := by
  have hi := (findFree_eq_ok found).1
  have refused := writeSlot_refused (w := afterSlotWrite w i address k) (i := 7) (by omega) poke'
  rw [setHardware_found found, bind_ok (writeSlot_accepted (by omega) poke), encoded, liftFault_ok,
    pure_bind]
  exact bind_error refused _

theorem setHardware_done {flag : Word}
    (found : findFreeStoppointRegister (cachedControl w) = .ok i)
    (poke : P.pokeUser (debugOffset i) address w.kernel = (.ok (), k))
    (encoded : encodeHardwareStoppointSize size = .ok flag)
    (poke' : P.pokeUser (debugOffset 7) (setControl (cachedControl w) i
      (encodeHardwareStoppointMode mode) flag) k = (.ok (), k')) :
    setHardwareStoppoint P address mode size w = .ok (i : Int)
      (afterSlotWrite (afterSlotWrite w i address k) 7
        (setControl (cachedControl w) i (encodeHardwareStoppointMode mode) flag) k') := by
  have hi := (findFree_eq_ok found).1
  have accepted := writeSlot_accepted (w := afterSlotWrite w i address k) (i := 7) (by omega) poke'
  rw [setHardware_found found, bind_ok (writeSlot_accepted (by omega) poke), encoded, liftFault_ok,
    pure_bind]
  exact bind_ok accepted _

end Steps

/-! ### What is left behind -/

def freeSlots (control : Word) : Nat := 4 - (enabledSlots control).length

/-- The slot registers, in the cache and in the kernel, and the stoppoints are as before, and
as many slots are free. -/
structure HardwareUntouched (debug : κ → Nat → Word) (w t : World κ) : Prop where
  cached : ∀ i, SlotRegister i →
    (load t.data (debugOffset i) 8 : Word) = load w.data (debugOffset i) 8
  kernel : SlotsKept debug w.kernel t.kernel
  sites : t.breakpointSites = w.breakpointSites
  watchpoints : t.watchpoints = w.watchpoints
  free : freeSlots (cachedControl t) = freeSlots (cachedControl w)

/-- A call that raises leaves the slots and the stoppoints as they were. -/
def AllOrNothing {α : Type} (debug : κ → Nat → Word) (m : Sdb κ α) (w : World κ) : Prop :=
  ∀ e t, m w = .error e t → HardwareUntouched debug w t

theorem HardwareUntouched.refl (w : World κ) : HardwareUntouched debug w w :=
  ⟨fun _ _ => rfl, fun _ _ => rfl, rfl, rfl, rfl⟩

section Leftovers

variable {w : World κ} {i : Nat} {v : Word} {k : κ}

theorem untouched_afterSlotWrite (slot : SlotRegister i) :
    HardwareUntouched debug w (afterSlotWrite w i v k) ↔
      load w.data (debugOffset i) 8 = v ∧ SlotsKept debug w.kernel k := by
  have after := fun j (other : SlotRegister j) =>
    load_afterSlotWrite w (slotRegister_lt slot) (slotRegister_lt other) v k
  constructor
  · intro untouched
    have same := untouched.cached i slot
    rw [after i slot, if_pos rfl] at same
    exact ⟨same.symm, untouched.kernel⟩
  · rintro ⟨held, kept⟩
    have cached : ∀ j, SlotRegister j → (load (afterSlotWrite w i v k).data (debugOffset j) 8 : Word) =
        load w.data (debugOffset j) 8 := by
      intro j other
      rw [after j other]
      split
      · next same => rw [same, held]
      · rfl
    exact ⟨cached, kept, rfl, rfl, congrArg freeSlots (cached 7 (.inr rfl))⟩

/-- The control register cannot be as before once the slot is given out in it. -/
theorem not_untouched_afterControlWrite {address : VirtAddr} {mode : StoppointMode} {flag : Word}
    {size : BitVec 64} {k' : κ} (found : findFreeStoppointRegister (cachedControl w) = .ok i)
    (encoded : encodeHardwareStoppointSize size = .ok flag) :
    ¬ HardwareUntouched debug w (afterSlotWrite (afterSlotWrite w i address k) 7
      (setControl (cachedControl w) i (encodeHardwareStoppointMode mode) flag) k') := by
  intro untouched
  obtain ⟨hi, free⟩ := findFree_eq_ok found
  obtain ⟨code, _, rfl⟩ := encodeSize_eq_ok encoded
  have same := untouched.cached 7 (.inr rfl)
  rw [load_afterSlotWrite _ (by omega) (by omega), if_pos rfl, encodeMode_eq] at same
  have taken := (setControl_fields (cachedControl w) (modeCode mode) code hi hi).1
  rw [same, if_pos rfl] at taken
  exact absurd (free.symm.trans taken) (by decide)

end Leftovers

/-- What has to hold of the slot that is found for a failure to leave nothing behind: its
address register holds the address already if the kernel refuses to write it, in the cache and
in the kernel if the size cannot be encoded, and the control register is not refused. -/
structure FailsCleanly (P : Platform κ) (debug : κ → Nat → Word) (w : World κ) (address : VirtAddr)
    (mode : StoppointMode) (size : BitVec 64) : Prop where
  addressRefused : ∀ i, findFreeStoppointRegister (cachedControl w) = .ok i → ∀ e k,
    P.pokeUser (debugOffset i) address w.kernel = (.error e, k) → load w.data (debugOffset i) 8 = address
  unencodable : ∀ i, findFreeStoppointRegister (cachedControl w) = .ok i → ∀ k,
    P.pokeUser (debugOffset i) address w.kernel = (.ok (), k) →
    ∀ what, encodeHardwareStoppointSize size = .error what →
    load w.data (debugOffset i) 8 = address ∧ debug w.kernel i = address
  controlAccepted : ∀ i, findFreeStoppointRegister (cachedControl w) = .ok i → ∀ k,
    P.pokeUser (debugOffset i) address w.kernel = (.ok (), k) →
    ∀ flag, encodeHardwareStoppointSize size = .ok flag → ∃ k',
      P.pokeUser (debugOffset 7)
        (setControl (cachedControl w) i (encodeHardwareStoppointMode mode) flag) k = (.ok (), k')

section Slots

variable {w : World κ} {i : Nat} {address : VirtAddr} {mode : StoppointMode} {size : BitVec 64}
  {k : κ}

theorem failsCleanly_full {what : Fault}
    (full : findFreeStoppointRegister (cachedControl w) = .error what) :
    FailsCleanly P debug w address mode size := by
  have absurd_found : ∀ j, findFreeStoppointRegister (cachedControl w) ≠ .ok j := by
    simp [full]
  exact ⟨fun j found => absurd found (absurd_found j), fun j found => absurd found (absurd_found j),
    fun j found => absurd found (absurd_found j)⟩

theorem failsCleanly_addressRefused {e : Errno}
    (found : findFreeStoppointRegister (cachedControl w) = .ok i)
    (poke : P.pokeUser (debugOffset i) address w.kernel = (.error e, k)) :
    FailsCleanly P debug w address mode size ↔ load w.data (debugOffset i) 8 = address := by
  constructor
  · exact fun clean => clean.addressRefused i found e k poke
  · intro held
    refine ⟨fun j found' _ _ _ => ?_, fun j found' _ poke' => ?_, fun j found' _ poke' => ?_⟩
    all_goals cases found.symm.trans found'
    · exact held
    · cases poke.symm.trans poke'
    · cases poke.symm.trans poke'

theorem failsCleanly_unencodable {what : Fault}
    (found : findFreeStoppointRegister (cachedControl w) = .ok i)
    (poke : P.pokeUser (debugOffset i) address w.kernel = (.ok (), k))
    (bad : encodeHardwareStoppointSize size = .error what) :
    FailsCleanly P debug w address mode size ↔
      load w.data (debugOffset i) 8 = address ∧ debug w.kernel i = address := by
  constructor
  · exact fun clean => clean.unencodable i found k poke what bad
  · intro held
    refine ⟨fun j found' _ _ poke' => ?_, fun j found' _ _ _ _ => ?_, fun j _ _ _ _ good => ?_⟩
    · cases found.symm.trans found'
      cases poke.symm.trans poke'
    · cases found.symm.trans found'
      exact held
    · cases bad.symm.trans good

theorem failsCleanly_encodable {flag : Word}
    (found : findFreeStoppointRegister (cachedControl w) = .ok i)
    (poke : P.pokeUser (debugOffset i) address w.kernel = (.ok (), k))
    (encoded : encodeHardwareStoppointSize size = .ok flag) :
    FailsCleanly P debug w address mode size ↔ ∃ k', P.pokeUser (debugOffset 7)
      (setControl (cachedControl w) i (encodeHardwareStoppointMode mode) flag) k = (.ok (), k') := by
  constructor
  · exact fun clean => clean.controlAccepted i found k poke flag encoded
  · intro accepted
    refine ⟨fun j found' _ _ poke' => ?_, fun j _ _ _ _ bad => ?_, fun j found' _ poke' _ good => ?_⟩
    · cases found.symm.trans found'
      cases poke.symm.trans poke'
    · cases encoded.symm.trans bad
    · cases found.symm.trans found'
      cases poke.symm.trans poke'
      cases encoded.symm.trans good
      exact accepted

end Slots

section AllOrNothing

variable (laws : SlotRequestLaws P.toKernel debug)
include laws

theorem setHardware_allOrNothing_iff (w : World κ) (address : VirtAddr) (mode : StoppointMode)
    (size : BitVec 64) : AllOrNothing debug (setHardwareStoppoint P address mode size) w ↔
      FailsCleanly P debug w address mode size := by
  have fails : ∀ {what : Fault} {t : World κ},
      setHardwareStoppoint P address mode size w = .error what t →
      (AllOrNothing debug (setHardwareStoppoint P address mode size) w ↔
        HardwareUntouched debug w t) := by
    intro what t raised
    refine ⟨fun clean => clean _ _ raised, fun untouched e u again => ?_⟩
    cases raised.symm.trans again
    exact untouched
  rcases found : findFreeStoppointRegister (cachedControl w) with what | i
  · rw [fails (setHardware_full found)]
    exact iff_of_true (HardwareUntouched.refl w) (failsCleanly_full found)
  · have slot : SlotRegister i := .inl (findFree_eq_ok found).1
    rcases poke : P.pokeUser (debugOffset i) address w.kernel with ⟨e | _, k⟩
    · rw [fails (setHardware_addressRefused found poke), failsCleanly_addressRefused found poke,
        untouched_afterSlotWrite slot]
      exact and_iff_left (laws.pokeUser_refused i slot _ _ _ _ poke)
    · rcases encoded : encodeHardwareStoppointSize size with what | flag
      · have stored := laws.pokeUser_stored i slot _ _ _ _ poke
        rw [fails (setHardware_unencodable found poke encoded),
          failsCleanly_unencodable found poke encoded, untouched_afterSlotWrite slot]
        refine and_congr_right fun _ => ⟨fun kept => ?_, fun held j other => ?_⟩
        · rw [← kept i slot, stored i slot, Function.update_self]
        · rw [stored j other, ← held, Function.update_eq_self]
      · rw [failsCleanly_encodable found poke encoded]
        rcases poke' : P.pokeUser (debugOffset 7) (setControl (cachedControl w) i
            (encodeHardwareStoppointMode mode) flag) k with ⟨e | _, k'⟩
        · rw [fails (setHardware_controlRefused found poke encoded poke')]
          exact iff_of_false (not_untouched_afterControlWrite found encoded) (by simp)
        · refine iff_of_true (fun what t raised => ?_) ⟨k', rfl⟩
          cases (setHardware_done found poke encoded poke').symm.trans raised

end AllOrNothing

/-! ### `enable` -/

section Enable

variable {w t : World κ} {i : Nat} {what : Fault}

theorem siteEnable_raises {site : BreakpointSite} (at_i : w.breakpointSites[i]? = some site)
    (off : site.isEnabled = false) (hard : site.isHardware = true) :
    BreakpointSite.enable P i w = .error what t ↔
      setHardwareStoppoint P site.address .execute 1 w = .error what t := by
  unfold BreakpointSite.enable BreakpointSite.install
  rw [bind_ok (siteAt_eq at_i), off, if_neg Bool.false_ne_true, if_pos hard]
  exact (bind_eq_error fun _ _ => ⟨_, _, rfl⟩).trans (bind_eq_error fun _ _ => ⟨_, _, rfl⟩)

theorem watchpointEnable_raises {point : Watchpoint} (at_i : w.watchpoints[i]? = some point)
    (off : point.isEnabled = false) :
    Watchpoint.enable P i w = .error what t ↔
      setHardwareStoppoint P point.address point.mode point.size w = .error what t := by
  unfold Watchpoint.enable
  rw [bind_ok (watchpointAt_eq at_i), off, if_neg Bool.false_ne_true]
  exact bind_eq_error fun _ _ => ⟨_, _, rfl⟩

theorem siteEnable_enabled {site : BreakpointSite} (at_i : w.breakpointSites[i]? = some site)
    (on : site.isEnabled = true) : BreakpointSite.enable P i w = .ok () w := by
  unfold BreakpointSite.enable
  rw [bind_ok (siteAt_eq at_i), if_pos on]
  rfl

theorem watchpointEnable_enabled {point : Watchpoint} (at_i : w.watchpoints[i]? = some point)
    (on : point.isEnabled = true) : Watchpoint.enable P i w = .ok () w := by
  unfold Watchpoint.enable
  rw [bind_ok (watchpointAt_eq at_i), if_pos on]
  rfl

end Enable

/-- Enabling a hardware site or a watchpoint is all or nothing exactly if it is enabled already,
or fails at a point where nothing has been changed yet. -/
theorem enable_allOrNothing_iff (laws : SlotRequestLaws P.toKernel debug) (w : World κ) (i : Nat) :
    (∀ site, w.breakpointSites[i]? = some site → site.isHardware = true →
      (AllOrNothing debug (BreakpointSite.enable P i) w ↔
        site.isEnabled = true ∨ FailsCleanly P debug w site.address .execute 1)) ∧
    ∀ point, w.watchpoints[i]? = some point →
      (AllOrNothing debug (Watchpoint.enable P i) w ↔
        point.isEnabled = true ∨ FailsCleanly P debug w point.address point.mode point.size) := by
  refine ⟨fun site at_i hard => ?_, fun point at_i => ?_⟩
  · by_cases on : site.isEnabled = true
    · refine iff_of_true (fun what t raised => ?_) (.inl on)
      cases (siteEnable_enabled at_i on).symm.trans raised
    · have off : site.isEnabled = false := Bool.eq_false_iff.2 on
      rw [or_iff_right on, ← setHardware_allOrNothing_iff laws]
      exact forall₂_congr fun _ _ => imp_congr_left (siteEnable_raises at_i off hard)
  · by_cases on : point.isEnabled = true
    · refine iff_of_true (fun what t raised => ?_) (.inl on)
      cases (watchpointEnable_enabled at_i on).symm.trans raised
    · have off : point.isEnabled = false := Bool.eq_false_iff.2 on
      rw [or_iff_right on, ← setHardware_allOrNothing_iff laws]
      exact forall₂_congr fun _ _ => imp_congr_left (watchpointEnable_raises at_i off)

/-- A launched process with one disabled watchpoint. -/
def watchingWorld (refusals : List Bool) (address : VirtAddr) (size : BitVec 64) : World Scripted :=
  { scriptedWorld refusals [] with watchpoints := [⟨1, address, .write, size, false, 0, 0, -1⟩] }

/-- The kernel refuses the address that the slot holds. -/
theorem enable_allOrNothing_iff_refusedAddress :
    AllOrNothing Scripted.debug (Watchpoint.enable refusingPlatform 0) (watchingWorld [true] 0 8) := by
  have clean : FailsCleanly refusingPlatform Scripted.debug (watchingWorld [true] 0 8) 0 .write 8 :=
    (failsCleanly_addressRefused (i := 0) (by decide +kernel) rfl).2 (by decide +kernel)
  exact ((enable_allOrNothing_iff Refusing.slotRequestLaws _ 0).2 _ rfl).2 (.inr clean)

/-- A watchpoint of three bytes can be created; enabling it fails with its address in `DR0`. -/
theorem not_allOrNothing_threeBytes :
    ∃ w, run (stoppointStep refusingPlatform) [.createWatchpoint 0x1000 .write 3]
        (scriptedWorld [] []) = some w ∧
      ¬ AllOrNothing Scripted.debug (Watchpoint.enable refusingPlatform 0) w := by
  refine ⟨_, rfl, fun clean => ?_⟩
  have same := (clean _ _ rfl).cached 0 (.inl (by decide))
  revert same
  decide +kernel

end SdbDebugger
