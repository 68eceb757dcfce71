import SdbDebugger.DebugRegisters
import Mathlib.Data.List.Perm.Basic
import Mathlib.Data.List.Nodup

/-! The four slots of the debug registers. Slot `i` has its address in `DR_i` and
three fields of two bits each in `DR7`. The stoppoints that own slots are kept as
a list in any order, each with the index it remembers. -/

namespace SdbDebugger

/-! ### Fields of the control register -/

def enableBits (control : Word) (i : Nat) : BitVec 2 := control.extractLsb' (2 * i) 2
def modeBits (control : Word) (i : Nat) : BitVec 2 := control.extractLsb' (16 + 4 * i) 2
def sizeBits (control : Word) (i : Nat) : BitVec 2 := control.extractLsb' (18 + 4 * i) 2
def upperBits (control : Word) : BitVec 32 := control.extractLsb' 32 32

def modeCode : StoppointMode → BitVec 2
  | .execute => 0b00
  | .write => 0b01
  | .readWrite => 0b11

def sizeCode (size : BitVec 64) : Option (BitVec 2) :=
  if size = 1 then some 0b00
  else if size = 2 then some 0b01
  else if size = 4 then some 0b11
  else if size = 8 then some 0b10
  else none

theorem encodeMode_eq (mode : StoppointMode) :
    encodeHardwareStoppointMode mode = (modeCode mode).setWidth 64 := by
  cases mode <;> rfl

theorem encodeSize_eq_ok {size : BitVec 64} {flag : Word}
    (h : encodeHardwareStoppointSize size = .ok flag) :
    ∃ code, sizeCode size = some code ∧ flag = code.setWidth 64 := by
  unfold encodeHardwareStoppointSize at h
  unfold sizeCode
  split_ifs at h ⊢
  all_goals first
    | contradiction
    | exact ⟨_, rfl, (Except.ok.inj h).symm⟩

section Fields

/-- The bits of the other slots; for the last slot the mask is a positive `int`,
so its upper half is zero. -/
def keptBits (i : Nat) : Word := intToU64 (~~~clearMask i)

/-- The bits of slot `i` when it is enabled. -/
def takenBits (i : Nat) (modeFlag sizeFlag : Word) : Word :=
  let enableBit : BitVec 32 := 1 <<< (i * 2)
  intToU64 enableBit ||| modeFlag <<< (i * 4 + 16) ||| sizeFlag <<< (i * 4 + 18)

theorem keptBits_fields : ∀ i < 4, ∀ j < 4,
    enableBits (keptBits i) j = (if i = j then 0 else 0b11) ∧
    modeBits (keptBits i) j = (if i = j then 0 else 0b11) ∧
    sizeBits (keptBits i) j = (if i = j then 0 else 0b11) := by decide +kernel

theorem takenBits_fields : ∀ i < 4, ∀ j < 4, ∀ m s : BitVec 2,
    enableBits (takenBits i (m.setWidth 64) (s.setWidth 64)) j = (if i = j then 0b01 else 0) ∧
    modeBits (takenBits i (m.setWidth 64) (s.setWidth 64)) j = (if i = j then m else 0) ∧
    sizeBits (takenBits i (m.setWidth 64) (s.setWidth 64)) j = (if i = j then s else 0) ∧
    upperBits (takenBits i (m.setWidth 64) (s.setWidth 64)) = 0 := by decide +kernel

theorem and_three (x : BitVec 2) : x &&& 3#2 = x := by
  revert x
  decide

theorem extract_clearControl (control : Word) (i p n : Nat) :
    (clearControl control i).extractLsb' p n =
      control.extractLsb' p n &&& (keptBits i).extractLsb' p n :=
  BitVec.extractLsb'_and

theorem extract_setControl (control : Word) (i : Nat) (m s : Word) (p n : Nat) :
    (setControl control i m s).extractLsb' p n =
      control.extractLsb' p n &&& (keptBits i).extractLsb' p n |||
        (takenBits i m s).extractLsb' p n := by
  rw [← BitVec.extractLsb'_and, ← BitVec.extractLsb'_or]
  rfl

variable {i j : Nat} (control : Word) (m s : BitVec 2)

theorem clearControl_fields (hi : i < 4) (hj : j < 4) :
    enableBits (clearControl control i) j = (if i = j then 0 else enableBits control j) ∧
    modeBits (clearControl control i) j = (if i = j then 0 else modeBits control j) ∧
    sizeBits (clearControl control i) j = (if i = j then 0 else sizeBits control j) := by
  have kept := keptBits_fields i hi j hj
  unfold enableBits modeBits sizeBits at kept ⊢
  rw [extract_clearControl, extract_clearControl, extract_clearControl, kept.1, kept.2.1, kept.2.2]
  split
  · simp
  · simp [and_three]

theorem setControl_fields (hi : i < 4) (hj : j < 4) :
    enableBits (setControl control i (m.setWidth 64) (s.setWidth 64)) j =
      (if i = j then 0b01 else enableBits control j) ∧
    modeBits (setControl control i (m.setWidth 64) (s.setWidth 64)) j =
      (if i = j then m else modeBits control j) ∧
    sizeBits (setControl control i (m.setWidth 64) (s.setWidth 64)) j =
      (if i = j then s else sizeBits control j) := by
  have kept := keptBits_fields i hi j hj
  have taken := takenBits_fields i hi j hj m s
  unfold enableBits modeBits sizeBits at kept taken ⊢
  rw [extract_setControl, extract_setControl, extract_setControl, kept.1, kept.2.1, kept.2.2,
    taken.1, taken.2.1, taken.2.2.1]
  split
  · simp
  · simp [and_three]

variable {control}

theorem upper_clearControl (upper : upperBits control = 0) :
    upperBits (clearControl control i) = 0 := by
  unfold upperBits at upper ⊢
  rw [extract_clearControl, upper]
  simp

theorem upper_setControl (hi : i < 4) (upper : upperBits control = 0) :
    upperBits (setControl control i (m.setWidth 64) (s.setWidth 64)) = 0 := by
  have taken := (takenBits_fields i hi i hi m s).2.2.2
  unfold upperBits at upper taken ⊢
  rw [extract_setControl, upper, taken]
  simp

end Fields

/-! ### The search for a free slot -/

theorem getLsbD_slotMask : ∀ i < 4, ∀ k < 64,
    (intToU64 (0b11 <<< (i * 2))).getLsbD k = decide (2 * i ≤ k ∧ k < 2 * i + 2) := by
  decide +kernel

theorem and_slotMask {control : Word} {i : Nat} (hi : i < 4) :
    control &&& intToU64 (0b11 <<< (i * 2)) = 0 ↔ enableBits control i = 0 := by
  constructor
  · intro zero
    apply BitVec.eq_of_getLsbD_eq
    intro k hk
    have bit := congrArg (fun v => v.getLsbD (2 * i + k)) zero
    simp only [BitVec.getLsbD_and, getLsbD_slotMask i hi (2 * i + k) (by omega)] at bit
    simpa [enableBits, hk] using bit
  · intro zero
    apply BitVec.eq_of_getLsbD_eq
    intro k hk
    rw [BitVec.getLsbD_and, getLsbD_slotMask i hi k hk]
    by_cases inside : 2 * i ≤ k ∧ k < 2 * i + 2
    · have bit := congrArg (fun v => v.getLsbD (k - 2 * i)) zero
      have position : 2 * i + (k - 2 * i) = k := by omega
      have small : k - 2 * i < 2 := by omega
      simpa [enableBits, inside, position, small] using bit
    · simp [inside]

/-- The search returns the first slot whose two enable bits are clear. -/
theorem findFree_eq_ok {control : Word} {i : Nat}
    (h : findFreeStoppointRegister control = .ok i) : i < 4 ∧ enableBits control i = 0 := by
  unfold findFreeStoppointRegister at h
  split at h
  · next j found =>
    rw [Except.ok.injEq] at h
    subst h
    have inside := List.mem_range.1 (List.mem_of_find?_eq_some found)
    exact ⟨inside, (and_slotMask inside).1 (by simpa using List.find?_some found)⟩
  · contradiction

theorem findFree_eq_error {control : Word} {e : Fault}
    (h : findFreeStoppointRegister control = .error e) :
    e = .error "no remaining hardware debug registers" ∧
      ∀ i < 4, enableBits control i ≠ 0 := by
  unfold findFreeStoppointRegister at h
  split at h
  · contradiction
  · next absent =>
    refine ⟨(Except.error.inj h).symm, fun i hi free => ?_⟩
    have taken := List.find?_eq_none.1 absent i (List.mem_range.2 hi)
    rw [(and_slotMask hi).2 free] at taken
    exact taken (beq_self_eq_true _)

/-! ### Owners -/

structure HardwareStoppoint where
  index : Int
  address : VirtAddr
  mode : StoppointMode
  size : BitVec 64
  deriving DecidableEq, Repr

def enabledSlots (control : Word) : List Nat :=
  (List.range 4).filter fun i => enableBits control i != 0

theorem mem_enabledSlots {control : Word} {i : Nat} :
    i ∈ enabledSlots control ↔ i < 4 ∧ enableBits control i ≠ 0 := by
  simp [enabledSlots]

theorem nodup_enabledSlots (control : Word) : (enabledSlots control).Nodup :=
  List.nodup_range.filter _

/-- One more slot is enabled. -/
theorem enabledSlots_perm {control control' : Word} {i : Nat}
    (fresh : i ∉ enabledSlots control)
    (members : ∀ j, j ∈ enabledSlots control' ↔ j = i ∨ j ∈ enabledSlots control) :
    (i :: enabledSlots control).Perm (enabledSlots control') := by
  have distinct : (i :: enabledSlots control).Nodup :=
    List.nodup_cons.2 ⟨fresh, nodup_enabledSlots control⟩
  rw [List.perm_ext_iff_of_nodup distinct (nodup_enabledSlots control')]
  intro j
  rw [List.mem_cons, members]

theorem enabledSlots_setControl {control : Word} {i : Nat} (mode code : BitVec 2) (hi : i < 4)
    (free : enableBits control i = 0) :
    (i :: enabledSlots control).Perm
      (enabledSlots (setControl control i (mode.setWidth 64) (code.setWidth 64))) := by
  have fields := fun j (hj : j < 4) => setControl_fields (j := j) control mode code hi hj
  have fresh : i ∉ enabledSlots control := fun slot => (mem_enabledSlots.1 slot).2 free
  refine enabledSlots_perm fresh fun j => ?_
  rw [mem_enabledSlots, mem_enabledSlots]
  by_cases same : j = i
  · subst same
    simp [hi, (fields j hi).1]
  · by_cases hj : j < 4
    · simp [hj, same, (fields j hj).1, Ne.symm same]
    · simp [hj, same]

theorem not_enabled_clearControl {control : Word} {i : Nat} (hi : i < 4) :
    i ∉ enabledSlots (clearControl control i) := by
  intro slot
  have enabled := (mem_enabledSlots.1 slot).2
  rw [(clearControl_fields control hi hi).1, if_pos rfl] at enabled
  exact enabled rfl

theorem enabledSlots_clearControl {control : Word} {i : Nat} (hi : i < 4)
    (taken : enableBits control i ≠ 0) :
    (i :: enabledSlots (clearControl control i)).Perm (enabledSlots control) := by
  have fields := fun j (hj : j < 4) => clearControl_fields (j := j) control hi hj
  refine enabledSlots_perm (not_enabled_clearControl hi) fun j => ?_
  rw [mem_enabledSlots, mem_enabledSlots]
  by_cases here : j = i
  · subst here
    simpa [hi] using taken
  · by_cases hj : j < 4
    · simp [hj, here, (fields j hj).1, Ne.symm here]
    · simp [hj, here]

/-- Slot `i` holds this stoppoint. -/
structure Holds (dr : Nat → Word) (i : Nat) (point : HardwareStoppoint) : Prop where
  address : dr i = point.address
  mode : modeBits (dr 7) i = modeCode point.mode
  size : sizeCode point.size = some (sizeBits (dr 7) i)

/-- What a slot holds is read from its address register and its fields of the control register. -/
theorem Holds.of_same {dr dr' : Nat → Word} {i : Nat} {point : HardwareStoppoint}
    (held : Holds dr i point) (address : dr' i = dr i)
    (mode : modeBits (dr' 7) i = modeBits (dr 7) i)
    (size : sizeBits (dr' 7) i = sizeBits (dr 7) i) : Holds dr' i point :=
  ⟨by rw [address, held.address], by rw [mode, held.mode], by rw [size, held.size]⟩

/-- The owners are in bijection with the enabled slots, each in the slot it remembers. -/
structure SlotsOwned (dr : Nat → Word) (owners : List HardwareStoppoint) : Prop where
  upper : upperBits (dr 7) = 0
  bijection : (owners.map fun o => o.index).Perm ((enabledSlots (dr 7)).map Int.ofNat)
  holds : ∀ o ∈ owners, ∀ i : Nat, o.index = i → Holds dr i o

/-- The registers after a slot is given out. -/
def claimSlot (dr : Nat → Word) (i : Nat) (address : Word) (modeFlag sizeFlag : Word) : Nat → Word :=
  Function.update (Function.update dr i address) 7 (setControl (dr 7) i modeFlag sizeFlag)

/-- The registers after a slot is given back. -/
def releaseSlot (dr : Nat → Word) (i : Nat) : Nat → Word :=
  Function.update (Function.update dr i 0) 7 (clearControl (dr 7) i)

namespace SlotsOwned

variable {dr : Nat → Word} {owners owners' : List HardwareStoppoint} {i : Nat}

theorem perm (owned : SlotsOwned dr owners) (same : owners.Perm owners') :
    SlotsOwned dr owners' :=
  ⟨owned.upper, (same.map _).symm.trans owned.bijection,
    fun o member => owned.holds o (same.symm.subset member)⟩

/-- Every owner remembers an enabled slot. -/
theorem slot_of_mem (owned : SlotsOwned dr owners) {o : HardwareStoppoint} (member : o ∈ owners) :
    ∃ i : Nat, o.index = i ∧ i < 4 ∧ enableBits (dr 7) i ≠ 0 := by
  have listed := owned.bijection.subset (List.mem_map_of_mem member)
  obtain ⟨i, slot, same⟩ := List.mem_map.1 listed
  exact ⟨i, same.symm, mem_enabledSlots.1 slot⟩

theorem length_eq (owned : SlotsOwned dr owners) :
    owners.length = (enabledSlots (dr 7)).length := by
  have same := owned.bijection.length_eq
  rwa [List.length_map, List.length_map] at same

theorem length_le (owned : SlotsOwned dr owners) : owners.length ≤ 4 := by
  rw [owned.length_eq]
  exact (List.length_filter_le _ _).trans (by simp)

/-- With four owners no slot is free. -/
theorem full (owned : SlotsOwned dr owners) (four : owners.length = 4) :
    ∀ i < 4, enableBits (dr 7) i ≠ 0 := by
  rw [owned.length_eq] at four
  have all : enabledSlots (dr 7) = List.range 4 :=
    List.filter_sublist.eq_of_length (four.trans List.length_range.symm)
  intro i hi
  have slot : i ∈ enabledSlots (dr 7) := by
    rw [all]
    exact List.mem_range.2 hi
  exact (mem_enabledSlots.1 slot).2

/-- A free slot may hold any address. -/
theorem scratch (owned : SlotsOwned dr owners) (hi : i < 4) (free : enableBits (dr 7) i = 0)
    (address : Word) : SlotsOwned (Function.update dr i address) owners := by
  have control : Function.update dr i address 7 = dr 7 := Function.update_of_ne (by omega) _ _
  refine ⟨by rw [control, owned.upper], by rw [control]; exact owned.bijection, ?_⟩
  intro o member j remembered
  obtain ⟨j', same, _, taken⟩ := owned.slot_of_mem member
  have other : j ≠ i := by
    intro here
    have equal : j' = i := by omega
    rw [equal] at taken
    exact taken free
  exact (owned.holds o member j remembered).of_same (Function.update_of_ne other _ _)
    (by rw [control]) (by rw [control])

theorem claim (owned : SlotsOwned dr owners) (hi : i < 4) (free : enableBits (dr 7) i = 0)
    {point : HardwareStoppoint} (index : point.index = i) {code : BitVec 2}
    (size : sizeCode point.size = some code) :
    SlotsOwned (claimSlot dr i point.address ((modeCode point.mode).setWidth 64)
      (code.setWidth 64)) (point :: owners) := by
  have control : claimSlot dr i point.address ((modeCode point.mode).setWidth 64)
      (code.setWidth 64) 7 = setControl (dr 7) i ((modeCode point.mode).setWidth 64)
        (code.setWidth 64) := Function.update_self _ _ _
  have fields := fun j (hj : j < 4) => setControl_fields (j := j) (dr 7) (modeCode point.mode) code hi hj
  refine ⟨by rw [control]; exact upper_setControl _ _ hi owned.upper, ?_, ?_⟩
  · have slots := enabledSlots_setControl (modeCode point.mode) code hi free
    rw [control, List.map_cons, index]
    exact (owned.bijection.cons _).trans (slots.map Int.ofNat)
  · intro o member j remembered
    cases List.mem_cons.1 member with
    | inl new =>
      subst new
      have here : j = i := by omega
      subst here
      have own := fields j hi
      refine ⟨?_, ?_, ?_⟩
      · rw [claimSlot, Function.update_of_ne (by omega), Function.update_self]
      · rw [control, own.2.1, if_pos rfl]
      · rw [control, own.2.2, if_pos rfl, size]
    | inr old =>
      obtain ⟨j', same, hj, taken⟩ := owned.slot_of_mem old
      have slot : j' = j := by omega
      subst slot
      have other : i ≠ j' := fun here => taken (here ▸ free)
      have rest := fields j' hj
      refine (owned.holds o old j' remembered).of_same ?_ ?_ ?_
      · rw [claimSlot, Function.update_of_ne (by omega), Function.update_of_ne other.symm]
      · rw [control, rest.2.1, if_neg other]
      · rw [control, rest.2.2, if_neg other]

theorem release {o : HardwareStoppoint} (owned : SlotsOwned dr (o :: owners))
    (index : o.index = i) : SlotsOwned (releaseSlot dr i) owners := by
  obtain ⟨i', same, hi, taken⟩ := owned.slot_of_mem List.mem_cons_self
  have slot : i' = i := by omega
  subst slot
  have control : releaseSlot dr i' 7 = clearControl (dr 7) i' := Function.update_self _ _ _
  have slots := enabledSlots_clearControl hi taken
  have rest : (owners.map fun o => o.index).Perm
      ((enabledSlots (clearControl (dr 7) i')).map Int.ofNat) := by
    have both := owned.bijection.trans (slots.symm.map Int.ofNat)
    rw [List.map_cons, List.map_cons, index] at both
    exact both.cons_inv
  refine ⟨by rw [control]; exact upper_clearControl owned.upper, by rw [control]; exact rest, ?_⟩
  intro p member j remembered
  have listed := rest.subset (List.mem_map_of_mem member)
  obtain ⟨j', slot, equal⟩ := List.mem_map.1 listed
  have position : j' = j := by
    have int : (j' : Int) = (j : Int) := equal.trans remembered
    omega
  subst position
  have hj := (mem_enabledSlots.1 slot).1
  have other : i' ≠ j' := by
    intro here
    rw [← here] at slot
    exact not_enabled_clearControl hi slot
  have kept := clearControl_fields (dr 7) hi hj
  refine (owned.holds p (List.mem_cons_of_mem o member) j' remembered).of_same ?_ ?_ ?_
  · rw [releaseSlot, Function.update_of_ne (by omega), Function.update_of_ne other.symm]
  · rw [control, kept.2.1, if_neg other]
  · rw [control, kept.2.2, if_neg other]

end SlotsOwned

end SdbDebugger
