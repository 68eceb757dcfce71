import SdbDebugger.DebugSlots
import SdbDebugger.KernelLaws
import SdbDebugger.Stoppoints

/-! Enabled hardware sites and watchpoints own the slots of the debug registers.
The cached registers agree with the kernel's on these slots, so that the search
for a free one sees the truth. -/

namespace SdbDebugger
open EffectRules ByteSpace KeyedList StoppointCollection

variable {κ : Type} {P : Platform κ} {debug : κ → Nat → Word}

/-! ### Slot registers in the user area -/

theorem slotRegister_lt {i : Nat} (slot : SlotRegister i) : i < 8 := by
  unfold SlotRegister at slot
  omega

/-- Cache and kernel both hold the slot registers `dr`. -/
structure SlotValues (debug : κ → Nat → Word) (dr : Nat → Word) (w : World κ) : Prop where
  cached : ∀ i, SlotRegister i → load w.data (debugOffset i) 8 = dr i
  kernel : ∀ i, SlotRegister i → debug w.kernel i = dr i

/-- Only registers changed, in the cache and in the kernel. -/
def RegistersOnly (w t : World κ) : Prop := ∃ d k, t = { w with data := d, kernel := k }

theorem RegistersOnly.trans {w t u : World κ} (first : RegistersOnly w t)
    (second : RegistersOnly t u) : RegistersOnly w u := by
  obtain ⟨d, k, rfl⟩ := first
  obtain ⟨d', k', rfl⟩ := second
  exact ⟨d', k', rfl⟩

section Writes

variable {w : World κ} {dr : Nat → Word}

theorem wp_writeSlotRegister (laws : DebugRegisterLaws P.toKernel debug)
    (values : SlotValues debug dr w) {i : Nat} (slot : SlotRegister i) (v : Word) :
    wp (do
        modify fun w => { w with data := store w.data (debugOffset i) 8 v }
        Registers.writeUserArea P (debugOffset i) v)
      (fun _ t => RegistersOnly w t ∧ SlotValues debug (Function.update dr i v) t)
      (fun _ _ => False) w := by
  obtain ⟨k', accepted, stored⟩ := laws.pokeUser_accepted i slot v w.kernel
  have written : Registers.writeUserArea P (debugOffset i) v
      { w with data := store w.data (debugOffset i) 8 v } =
      .ok () { w with data := store w.data (debugOffset i) 8 v, kernel := k' } :=
    orSendErrno_ok accepted
  rw [wp_bind, wp_modify, wp_of_ok written]
  refine ⟨⟨_, k', rfl⟩, fun j other => ?_, fun j other => ?_⟩
  · change load (store w.data (debugOffset i) 8 v) (debugOffset j) 8 = _
    rw [load_store_debug _ (slotRegister_lt slot) (slotRegister_lt other), Function.update_apply,
      values.cached j other]
  · change debug k' j = _
    rw [stored, Function.update_apply, Function.update_apply, values.kernel j other]

theorem readSlotRegister_eq (values : SlotValues debug dr w) :
    Registers.readByIdAsU64 RegisterId.dr7.toInt w = .ok (dr 7) w := by
  have control : SlotRegister 7 := .inr rfl
  rw [← values.cached 7 control]
  exact Registers.readByIdAsU64_eq (wholeWord_dr (slotRegister_lt control)) w

theorem slotRegister_of_lt {i : Nat} (hi : i < 4) : SlotRegister i := .inl hi

theorem wp_setHardwareStoppoint (laws : DebugRegisterLaws P.toKernel debug)
    (values : SlotValues debug dr w) (address : VirtAddr) (mode : StoppointMode)
    (size : BitVec 64) :
    wp (setHardwareStoppoint P address mode size)
      (fun index t => ∃ i : Nat, index = i ∧ i < 4 ∧ enableBits (dr 7) i = 0 ∧
        ∃ code, sizeCode size = some code ∧ RegistersOnly w t ∧
          SlotValues debug
            (claimSlot dr i address ((modeCode mode).setWidth 64) (code.setWidth 64)) t)
      (fun e t => (t = w ∧ e = .error "no remaining hardware debug registers" ∧
          ∀ i < 4, enableBits (dr 7) i ≠ 0) ∨
        ∃ i < 4, enableBits (dr 7) i = 0 ∧ RegistersOnly w t ∧
          SlotValues debug (Function.update dr i address) t) w := by
  unfold setHardwareStoppoint
  rw [wp_bind, wp_of_ok (readSlotRegister_eq values), wp_bind, wp_liftFault]
  refine ⟨fun i found => ?_, fun e failed => .inl ⟨rfl, findFree_eq_error failed⟩⟩
  obtain ⟨hi, free⟩ := findFree_eq_ok found
  rw [wp_bind, Registers.writeById_u64 P (wholeWord_dr (i := i) (by omega))]
  refine (wp_writeSlotRegister laws values (slotRegister_of_lt hi) address).mono ?_
    fun _ _ impossible => impossible.elim
  intro _ t written
  obtain ⟨only, values'⟩ := written
  rw [wp_bind, wp_liftFault]
  refine ⟨fun flag encoded => ?_, fun _ _ => .inr ⟨i, hi, free, only, values'⟩⟩
  obtain ⟨code, size_eq, rfl⟩ := encodeSize_eq_ok encoded
  have control : RegisterId.dr7.toInt = RegisterId.dr0.toInt + (7 : Nat) := rfl
  rw [wp_bind, control, Registers.writeById_u64 P (wholeWord_dr (i := 7) (by omega)), encodeMode_eq]
  refine (wp_writeSlotRegister laws values' (.inr rfl) _).mono ?_
    fun _ _ impossible => impossible.elim
  intro _ u written'
  exact ⟨i, rfl, hi, free, code, size_eq, only.trans written'.1, written'.2⟩

theorem wp_clearHardwareStoppoint (laws : DebugRegisterLaws P.toKernel debug)
    (values : SlotValues debug dr w) {i : Nat} (hi : i < 4) :
    wp (clearHardwareStoppoint P i)
      (fun _ t => RegistersOnly w t ∧ SlotValues debug (releaseSlot dr i) t)
      (fun _ _ => False) w := by
  have control : RegisterId.dr7.toInt = RegisterId.dr0.toInt + (7 : Nat) := rfl
  have untouched : Function.update dr i 0 7 = dr 7 := Function.update_of_ne (by omega) _ _
  unfold clearHardwareStoppoint
  rw [wp_bind, Registers.writeById_i32 P (wholeWord_dr (i := i) (by omega))]
  refine (wp_writeSlotRegister laws values (slotRegister_of_lt hi) _).mono ?_
    fun _ _ impossible => impossible.elim
  intro _ t written
  obtain ⟨only, values'⟩ := written
  rw [wp_bind, wp_of_ok (readSlotRegister_eq values'), wp_ite, if_pos (by omega), control,
    Registers.writeById_u64 P (wholeWord_dr (i := 7) (by omega))]
  refine (wp_writeSlotRegister laws values' (.inr rfl) _).mono ?_
    fun _ _ impossible => impossible.elim
  intro _ u written'
  refine ⟨only.trans written'.1, ?_⟩
  have values'' := written'.2
  rwa [show (0 : BitVec 32).signExtend 64 = 0 from rfl, untouched] at values''

end Writes

/-! ### Owners of slots -/

def BreakpointSite.owner (site : BreakpointSite) : Option HardwareStoppoint :=
  if site.isEnabled && site.isHardware then
    some ⟨site.hardwareRegisterIndex, site.address, .execute, 1⟩
  else none

def Watchpoint.owner (point : Watchpoint) : Option HardwareStoppoint :=
  if point.isEnabled then
    some ⟨point.hardwareRegisterIndex, point.address, point.mode, point.size⟩
  else none

/-- The enabled hardware sites and the enabled watchpoints. -/
def owners (w : World κ) : List HardwareStoppoint :=
  w.breakpointSites.filterMap BreakpointSite.owner ++ w.watchpoints.filterMap Watchpoint.owner

theorem SlotsOwned.congr {dr dr' : Nat → Word} {points : List HardwareStoppoint}
    (owned : SlotsOwned dr points) (same : ∀ i, SlotRegister i → dr' i = dr i) :
    SlotsOwned dr' points := by
  have control := same 7 (.inr rfl)
  refine ⟨by rw [control, owned.upper], by rw [control]; exact owned.bijection, ?_⟩
  intro o member i remembered
  obtain ⟨i', equal, hi, _⟩ := owned.slot_of_mem member
  have held := owned.holds o member i remembered
  have slot : SlotRegister i := .inl (by omega)
  exact ⟨by rw [same i slot, held.address], by rw [control, held.mode], by rw [control, held.size]⟩

structure HardwareInvariant (debug : κ → Nat → Word) (w : World κ) : Prop where
  values : SlotValues debug (debug w.kernel) w
  owned : SlotsOwned (debug w.kernel) (owners w)

namespace HardwareInvariant

variable {w t : World κ} {dr : Nat → Word}

theorem of_values (values : SlotValues debug dr t) {points : List HardwareStoppoint}
    (owned : SlotsOwned dr points) (same : points.Perm (owners t)) : HardwareInvariant debug t :=
  ⟨⟨fun i slot => by rw [values.cached i slot, values.kernel i slot], fun _ _ => rfl⟩,
    (owned.congr values.kernel).perm same⟩

theorem congr (inv : HardwareInvariant debug w)
    (data : ∀ i, SlotRegister i → load t.data (debugOffset i) 8 = load w.data (debugOffset i) 8)
    (kernel : SlotsKept debug w.kernel t.kernel) (same : (owners w).Perm (owners t)) :
    HardwareInvariant debug t :=
  of_values ⟨fun i slot => by rw [data i slot, inv.values.cached i slot], kernel⟩ inv.owned same

/-- A request that leaves the slot registers alone. -/
theorem preserves_request {α : Type} {what : String} {op : κ → Except Errno α × κ}
    (kept : ∀ k, SlotsKept debug k (op k).2) :
    Preserves (HardwareInvariant debug) (orSendErrno what op) :=
  preserves_orSendErrno fun w inv => inv.congr (fun _ _ => rfl) (kept w.kernel) (List.Perm.refl _)

section Sites

variable {i : Nat} {site : BreakpointSite} {f : BreakpointSite → BreakpointSite}

/-- An update that leaves the owners as they are. -/
theorem modifySite_same (inv : HardwareInvariant debug w) (at_i : w.breakpointSites[i]? = some site)
    (same : (f site).owner = site.owner) :
    HardwareInvariant debug { w with breakpointSites := w.breakpointSites.modify i f } :=
  inv.congr (fun _ _ => rfl) (fun _ _ => rfl)
    ((filterMap_modify_same at_i same).symm.append_right _)

theorem eraseSite (inv : HardwareInvariant debug w) (at_i : w.breakpointSites[i]? = some site)
    (off : site.isEnabled = false) :
    HardwareInvariant debug { w with breakpointSites := w.breakpointSites.eraseIdx i } := by
  have front := filterMap_perm at_i BreakpointSite.owner
  rw [show site.owner = none by simp [BreakpointSite.owner, off]] at front
  exact inv.congr (fun _ _ => rfl) (fun _ _ => rfl) (front.append_right _)

/-- A slot is given to the site at `i`, which is enabled with the index of the slot. -/
theorem enableSite (inv : HardwareInvariant debug w) (at_i : w.breakpointSites[i]? = some site)
    (off : site.isEnabled = false) (hard : site.isHardware = true) {slot : Nat} (valid : slot < 4)
    (free : enableBits (debug w.kernel 7) slot = 0) {code : BitVec 2}
    (size : sizeCode 1 = some code) (only : RegistersOnly w t)
    (values : SlotValues debug (claimSlot (debug w.kernel) slot site.address
      ((modeCode .execute).setWidth 64) (code.setWidth 64)) t) :
    HardwareInvariant debug { t with
      breakpointSites := t.breakpointSites.modify i fun s =>
        { s with hardwareRegisterIndex := slot, isEnabled := true } } := by
  obtain ⟨d, k, rfl⟩ := only
  have owned : SlotsOwned _ (⟨slot, site.address, .execute, 1⟩ :: owners w) :=
    inv.owned.claim valid free rfl size
  refine of_values ⟨values.cached, values.kernel⟩ owned ?_
  have gain := filterMap_modify_gain (f := fun s : BreakpointSite =>
      { s with hardwareRegisterIndex := slot, isEnabled := true })
    (g := BreakpointSite.owner) (y := ⟨slot, site.address, .execute, 1⟩) at_i
    (by simp [BreakpointSite.owner, off]) (by simp [BreakpointSite.owner, hard])
  exact (gain.append_right _).symm

theorem disableSite (inv : HardwareInvariant debug w) (at_i : w.breakpointSites[i]? = some site)
    (on : site.isEnabled = true) (hard : site.isHardware = true) {slot : Nat}
    (index : site.hardwareRegisterIndex = slot) (only : RegistersOnly w t)
    (values : SlotValues debug (releaseSlot (debug w.kernel) slot) t) :
    HardwareInvariant debug { t with
      breakpointSites := t.breakpointSites.modify i fun s =>
        { s with hardwareRegisterIndex := -1, isEnabled := false } } := by
  obtain ⟨d, k, rfl⟩ := only
  have loss := filterMap_modify_loss (f := fun s : BreakpointSite =>
      { s with hardwareRegisterIndex := -1, isEnabled := false })
    (g := BreakpointSite.owner) (y := ⟨slot, site.address, .execute, 1⟩) at_i
    (by simp [BreakpointSite.owner, on, hard, index]) (by simp [BreakpointSite.owner])
  have owned := inv.owned.perm (loss.append_right _)
  exact of_values ⟨values.cached, values.kernel⟩ (owned.release rfl) (List.Perm.refl _)

/-- The slot that an enabled hardware site remembers. -/
theorem slot_of_site (inv : HardwareInvariant debug w) (at_i : w.breakpointSites[i]? = some site)
    (on : site.isEnabled = true) (hard : site.isHardware = true) :
    ∃ slot : Nat, site.hardwareRegisterIndex = slot ∧ slot < 4 := by
  have owner : site.owner = some ⟨site.hardwareRegisterIndex, site.address, .execute, 1⟩ := by
    simp [BreakpointSite.owner, on, hard]
  have member : ⟨site.hardwareRegisterIndex, site.address, .execute, 1⟩ ∈ owners w :=
    List.mem_append_left _ (List.mem_filterMap.2 ⟨site, List.mem_of_getElem? at_i, owner⟩)
  obtain ⟨slot, index, valid, _⟩ := inv.owned.slot_of_mem member
  exact ⟨slot, index, valid⟩

end Sites

section Watchpoints

variable {i : Nat} {point : Watchpoint} {f : Watchpoint → Watchpoint}

theorem modifyWatchpoint_same (inv : HardwareInvariant debug w)
    (at_i : w.watchpoints[i]? = some point) (same : (f point).owner = point.owner) :
    HardwareInvariant debug { w with watchpoints := w.watchpoints.modify i f } :=
  inv.congr (fun _ _ => rfl) (fun _ _ => rfl)
    ((filterMap_modify_same at_i same).symm.append_left _)

theorem eraseWatchpoint (inv : HardwareInvariant debug w) (at_i : w.watchpoints[i]? = some point)
    (off : point.isEnabled = false) :
    HardwareInvariant debug { w with watchpoints := w.watchpoints.eraseIdx i } := by
  have front := filterMap_perm at_i Watchpoint.owner
  rw [show point.owner = none by simp [Watchpoint.owner, off]] at front
  exact inv.congr (fun _ _ => rfl) (fun _ _ => rfl) (front.append_left _)

theorem enableWatchpoint (inv : HardwareInvariant debug w) (at_i : w.watchpoints[i]? = some point)
    (off : point.isEnabled = false) {slot : Nat} (valid : slot < 4)
    (free : enableBits (debug w.kernel 7) slot = 0) {code : BitVec 2}
    (size : sizeCode point.size = some code) (only : RegistersOnly w t)
    (values : SlotValues debug (claimSlot (debug w.kernel) slot point.address
      ((modeCode point.mode).setWidth 64) (code.setWidth 64)) t) :
    HardwareInvariant debug { t with
      watchpoints := t.watchpoints.modify i fun p =>
        { p with hardwareRegisterIndex := slot, isEnabled := true } } := by
  obtain ⟨d, k, rfl⟩ := only
  have owned : SlotsOwned _ (⟨slot, point.address, point.mode, point.size⟩ :: owners w) :=
    inv.owned.claim valid free rfl size
  refine of_values ⟨values.cached, values.kernel⟩ owned ?_
  have gain := filterMap_modify_gain (f := fun p : Watchpoint =>
      { p with hardwareRegisterIndex := slot, isEnabled := true })
    (g := Watchpoint.owner) (y := ⟨slot, point.address, point.mode, point.size⟩) at_i
    (by simp [Watchpoint.owner, off]) (by simp [Watchpoint.owner])
  exact List.perm_middle.symm.trans (gain.symm.append_left _)

/-- The index stays behind, stale, in the disabled watchpoint. -/
theorem disableWatchpoint (inv : HardwareInvariant debug w)
    (at_i : w.watchpoints[i]? = some point) (on : point.isEnabled = true) {slot : Nat}
    (index : point.hardwareRegisterIndex = slot) (only : RegistersOnly w t)
    (values : SlotValues debug (releaseSlot (debug w.kernel) slot) t) :
    HardwareInvariant debug { t with
      watchpoints := t.watchpoints.modify i fun p => { p with isEnabled := false } } := by
  obtain ⟨d, k, rfl⟩ := only
  have loss := filterMap_modify_loss (f := fun p : Watchpoint => { p with isEnabled := false })
    (g := Watchpoint.owner) (y := ⟨slot, point.address, point.mode, point.size⟩) at_i
    (by simp [Watchpoint.owner, on, index]) (by simp [Watchpoint.owner])
  have owned := inv.owned.perm ((loss.append_left _).trans List.perm_middle)
  exact of_values ⟨values.cached, values.kernel⟩ (owned.release rfl) (List.Perm.refl _)

theorem slot_of_watchpoint (inv : HardwareInvariant debug w)
    (at_i : w.watchpoints[i]? = some point) (on : point.isEnabled = true) :
    ∃ slot : Nat, point.hardwareRegisterIndex = slot ∧ slot < 4 := by
  have owner : point.owner =
      some ⟨point.hardwareRegisterIndex, point.address, point.mode, point.size⟩ := by
    simp [Watchpoint.owner, on]
  have member : ⟨point.hardwareRegisterIndex, point.address, point.mode, point.size⟩ ∈ owners w :=
    List.mem_append_right _ (List.mem_filterMap.2 ⟨point, List.mem_of_getElem? at_i, owner⟩)
  obtain ⟨slot, index, valid, _⟩ := inv.owned.slot_of_mem member
  exact ⟨slot, index, valid⟩

end Watchpoints

end HardwareInvariant

end SdbDebugger
