import SdbDebugger.HandledStops

/-! Whom `get_current_hardware_stoppoint` names at a hardware stop. The owner of a slot is
looked up by the address in the slot's register, among the sites first. -/

namespace SdbDebugger
open EffectRules ActionRuns ByteSpace KeyedList StoppointCollection

variable {κ : Type} {P : Platform κ}

def BreakpointSite.HoldsSlot (site : BreakpointSite) (i : Nat) : Prop :=
  site.isEnabled = true ∧ site.isHardware = true ∧ site.hardwareRegisterIndex = i

def Watchpoint.HoldsSlot (point : Watchpoint) (i : Nat) : Prop :=
  point.isEnabled = true ∧ point.hardwareRegisterIndex = i

instance (point : Watchpoint) (i : Nat) : Decidable (point.HoldsSlot i) :=
  inferInstanceAs (Decidable (_ ∧ _))

/-- The cached `DR0` to `DR7`. -/
def debugRegister (w : World κ) (i : Nat) : Word := load w.data (debugOffset i) 8

/-- The lookup by address, with the index in the variant and the id. -/
def stoppointAt (w : World κ) (address : VirtAddr) : Except Fault (Int ⊕ Int) :=
  if containsAddress w.breakpointSites address then do
    let i ← getByAddress w.breakpointSites address
    let site ← deref w.breakpointSites i
    pure (.inl site.id)
  else do
    let i ← getByAddress w.watchpoints address
    let point ← deref w.watchpoints i
    pure (.inr point.id)

section Lookup

variable {w : World κ} {i : Nat}

theorem getCurrentHardwareStoppoint_eq (lowest : ctz (dr6 w) = .ok i) (inside : i < 8) :
    getCurrentHardwareStoppoint w = liftFault (stoppointAt w (debugRegister w i)) w := by
  have register : Registers.readByIdAsU64 (RegisterId.dr0.toInt + i) w =
      .ok (debugRegister w i) w := Registers.readByIdAsU64_eq (wholeWord_dr inside) w
  unfold getCurrentHardwareStoppoint stoppointAt
  rw [bind_ok (readDr6 w), lowest, liftFault_ok, pure_bind, bind_ok register]
  change (if containsAddress w.breakpointSites (debugRegister w i) = true then _ else _ :
    Sdb κ (Int ⊕ Int)) w = _
  split
  · cases getByAddress w.breakpointSites (debugRegister w i) with
    | error e => rfl
    | ok j =>
      change (liftFault (deref w.breakpointSites j) >>= _) w = liftFault (deref _ j >>= _) w
      cases deref w.breakpointSites j <;> rfl
  · cases getByAddress w.watchpoints (debugRegister w i) with
    | error e => rfl
    | ok j =>
      change (liftFault (deref w.watchpoints j) >>= _) w = liftFault (deref _ j >>= _) w
      cases deref w.watchpoints j <;> rfl

variable (distinct : (keys w).Distinct) {address : VirtAddr}
include distinct

theorem stoppointAt_site {site : BreakpointSite} (member : site ∈ w.breakpointSites) :
    stoppointAt w site.address = .ok (.inl site.id) := by
  obtain ⟨j, at_j⟩ := List.mem_iff_getElem?.1 member
  have there : containsAddress w.breakpointSites site.address = true :=
    containsAddress_iff.2 ⟨site, member, rfl⟩
  rw [stoppointAt, if_pos there, getByAddress_site distinct at_j]
  change (deref w.breakpointSites j >>= _) = _
  rw [deref_eq_ok.2 at_j]
  rfl

theorem stoppointAt_watchpoint {point : Watchpoint} (member : point ∈ w.watchpoints)
    (alone : ∀ site ∈ w.breakpointSites, site.address ≠ point.address) :
    stoppointAt w point.address = .ok (.inr point.id) := by
  obtain ⟨j, at_j⟩ := List.mem_iff_getElem?.1 member
  have absent : ¬ containsAddress w.breakpointSites point.address = true := by
    rw [containsAddress_iff]
    intro found
    obtain ⟨site, there, here⟩ := found
    exact alone site there here
  rw [stoppointAt, if_neg absent, getByAddress_watchpoint distinct at_j]
  change (deref w.watchpoints j >>= _) = _
  rw [deref_eq_ok.2 at_j]
  rfl

end Lookup

/-! ### Slots and addresses -/

section Slots

variable {debug : κ → Nat → Word} {w : World κ} (inv : HardwareInvariant debug w) {i : Nat}
include inv

/-- The register of a slot has the address of the stoppoint that holds it. -/
theorem HardwareInvariant.register_of_owner {o : HardwareStoppoint} (member : o ∈ owners w)
    (held : o.index = i) : i < 4 ∧ debugRegister w i = o.address := by
  obtain ⟨j, index, valid, _⟩ := inv.owned.slot_of_mem member
  have same : j = i := by omega
  subst same
  refine ⟨valid, ?_⟩
  rw [debugRegister, inv.values.cached j (.inl valid)]
  exact (inv.owned.holds o member j index).address

theorem HardwareInvariant.register_of_site {site : BreakpointSite}
    (member : site ∈ w.breakpointSites) (holds : site.HoldsSlot i) :
    i < 4 ∧ debugRegister w i = site.address := by
  obtain ⟨on, hard, index⟩ := holds
  have owner : site.owner = some ⟨site.hardwareRegisterIndex, site.address, .execute, 1⟩ := by
    simp [BreakpointSite.owner, on, hard]
  exact inv.register_of_owner
    (List.mem_append_left _ (List.mem_filterMap.2 ⟨site, member, owner⟩)) index

theorem HardwareInvariant.register_of_watchpoint {point : Watchpoint}
    (member : point ∈ w.watchpoints) (holds : point.HoldsSlot i) :
    i < 4 ∧ debugRegister w i = point.address := by
  obtain ⟨on, index⟩ := holds
  have owner : point.owner =
      some ⟨point.hardwareRegisterIndex, point.address, point.mode, point.size⟩ := by
    simp [Watchpoint.owner, on]
  exact inv.register_of_owner
    (List.mem_append_right _ (List.mem_filterMap.2 ⟨point, member, owner⟩)) index

end Slots

/-! ### Attribution -/

/-- At the hardware stop `reason` the enabled stoppoint that holds slot `i` is named, and if it
is a watchpoint, `wait_on_signal` has it read its new value. -/
structure Attributed (P : Platform κ) (reason : StopReason) (t : World κ) (i : Nat) : Prop where
  site : ∀ site ∈ t.breakpointSites, site.HoldsSlot i →
    getCurrentHardwareStoppoint t = .ok (.inl site.id) t
  watchpoint : ∀ point ∈ t.watchpoints, point.HoldsSlot i →
    getCurrentHardwareStoppoint t = .ok (.inr point.id) t
  updated : ∀ j point, t.watchpoints[j]? = some point → point.HoldsSlot i →
    ∀ fuel w left, Handles P fuel w left reason t →
      waitOnSignal P fuel w = (do
        Watchpoint.updateData P j
        pure reason : Sdb κ StopReason) t

section Attribution

variable {reason : StopReason} {t : World κ} {i : Nat}

theorem updateTriggered_named (distinct : (keys t).Distinct) {j : Nat} {point : Watchpoint}
    (at_j : t.watchpoints[j]? = some point)
    (named : getCurrentHardwareStoppoint t = .ok (.inr point.id) t) :
    updateTriggeredWatchpoint P t = Watchpoint.updateData P j t := by
  rw [updateTriggeredWatchpoint, bind_ok named]
  change (liftFault (getById t.watchpoints point.id) >>= _) t = _
  rw [getById_of_distinct distinct at_j]
  rfl

theorem attributed_of_invariants {debug : κ → Nat → Word} (inv : HardwareInvariant debug t)
    (distinct : (keys t).Distinct) (hardware : reason.trapReason = some .hardwareBreak)
    (lowest : ctz (dr6 t) = .ok i) :
    Attributed P reason t i ↔ ∀ point ∈ t.watchpoints, point.HoldsSlot i →
      ∀ site ∈ t.breakpointSites, site.address ≠ point.address := by
  have found : ∀ address, i < 4 → debugRegister t i = address →
      getCurrentHardwareStoppoint t = liftFault (stoppointAt t address) t := by
    intro address valid register
    rw [getCurrentHardwareStoppoint_eq lowest (by omega), register]
  constructor
  · intro attributed point member holds site there shared
    have slot := inv.register_of_watchpoint member holds
    have named := attributed.watchpoint point member holds
    rw [found _ slot.1 slot.2, ← shared, stoppointAt_site distinct there] at named
    simp [pure, EStateM.pure] at named
  · intro alone
    have named : ∀ point ∈ t.watchpoints, point.HoldsSlot i →
        getCurrentHardwareStoppoint t = .ok (.inr point.id) t := by
      intro point member holds
      have slot := inv.register_of_watchpoint member holds
      rw [found _ slot.1 slot.2, stoppointAt_watchpoint distinct member (alone point member holds)]
      rfl
    refine ⟨fun site member holds => ?_, named, ?_⟩
    · have slot := inv.register_of_site member holds
      rw [found _ slot.1 slot.2, stoppointAt_site distinct member]
      rfl
    · intro j point at_j holds fuel w left handles
      have update := updateTriggered_named (P := P) distinct at_j
        (named point (List.mem_of_getElem? at_j) holds)
      rw [handles.run, respond_hardware (handles.attended hardware) hardware]
      exact bind_congr_left update _

end Attribution

/-- A watchpoint on a function, and then a breakpoint on it. -/
def watchedFunction : List SessionOp :=
  [.stoppoint (.createWatchpoint 0x2000 .readWrite 1), .stoppoint (.enableWatchpoint 0),
    .stoppoint (.createSite 0x2000 false false), .stoppoint (.enableSite 0), .resume]

/-- A watchpoint in slot 1, with a hardware site in slot 0 and a software site elsewhere. -/
def watchedData : List SessionOp :=
  [.stoppoint (.createSite 0x1000 true false), .stoppoint (.enableSite 0),
    .stoppoint (.createWatchpoint 0x3000 .write 8), .stoppoint (.enableWatchpoint 0),
    .stoppoint (.createSite 0x2000 false false), .stoppoint (.enableSite 1), .resume]

/-- A hardware stop with the given DR6. -/
def hardwareStop (status : Byte) : KernelStop :=
  ⟨.stopped sigtrap, fun off => if off = debugOffset 6 then status else 0, trapHwbkpt⟩

end SdbDebugger
