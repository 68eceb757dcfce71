import SdbDebugger.KernelLaws
import SdbDebugger.Memory
import SdbDebugger.SiteList

/-! Reading inferior memory: the chunks of `read_memory` cover the range in
order, and masking puts the program's byte back at every trap. -/

namespace SdbDebugger
open EffectRules ByteSpace KeyedList StoppointCollection

theorem remoteDescs_zero (address : VirtAddr) : remoteDescs address 0 = [] := by
  rw [remoteDescs, if_pos rfl]

theorem remoteDescs_succ {address : VirtAddr} {amount : Nat} (h : amount ≠ 0) :
    remoteDescs address amount =
      ⟨address, min amount (upToNextPage address)⟩ ::
        remoteDescs (address + BitVec.ofNat 64 (min amount (upToNextPage address)))
          (amount - min amount (upToNextPage address)) := by
  rw [remoteDescs, if_neg h]

/-- The chunks, laid end to end, are the range that was asked for. -/
theorem remoteDescs_cells {β : Type} (m : VirtAddr → β) (address : VirtAddr) (amount : Nat) :
    (remoteDescs address amount).flatMap (fun iov => cells m iov.base iov.len) =
      cells m address amount := by
  induction address, amount using remoteDescs.induct with
  | case1 address => rw [remoteDescs_zero]; rfl
  | case2 address amount some chunkSize ih =>
    rw [remoteDescs_succ some, List.flatMap_cons, ih, cells_append]
    congr 1
    exact Nat.add_sub_cancel' (Nat.min_le_left _ _)

theorem remoteDescs_inside {address : VirtAddr} {amount : Nat} {iov : Iovec}
    (h : iov ∈ remoteDescs address amount) {i : Nat} (hi : i < iov.len) :
    ∃ j < amount, iov.base + BitVec.ofNat 64 i = address + BitVec.ofNat 64 j := by
  induction address, amount using remoteDescs.induct with
  | case1 address =>
    rw [remoteDescs_zero] at h
    contradiction
  | case2 address amount some chunkSize ih =>
    rw [remoteDescs_succ some, List.mem_cons] at h
    rcases h with rfl | later
    · exact ⟨i, by simp only at hi; omega, rfl⟩
    · obtain ⟨j, hj, equal⟩ := ih later
      exact ⟨chunkSize + j, by omega, by rw [equal, add_ofNat_assoc]⟩

variable {κ : Type} {P : Platform κ} {mem : κ → Memory}

/-- `read_memory` returns exactly the bytes of the range, and disturbs nothing. -/
def ReadsRange (P : Platform κ) (mem : κ → Memory) (w : World κ) (address : VirtAddr)
    (amount : Nat) : Prop :=
  ∃ k, mem k = mem w.kernel ∧
    readMemory P address amount w = .ok (cells (mem w.kernel) address amount) { w with kernel := k }

theorem readMemory_eq {readable : κ → VirtAddr → Prop}
    (transfers : TransfersReadable P.toKernel mem readable)
    {w : World κ} {address : VirtAddr} {amount : Nat} (fits : amount ≤ maxSize 1)
    (room : P.canAllocate amount = true)
    (range : ∀ i < amount, readable w.kernel (address + BitVec.ofNat 64 i)) :
    readMemory P address amount w = .ok (cells (mem w.kernel) address amount)
      { w with kernel := (P.processVmReadv (remoteDescs address amount) w.kernel).2 } := by
  have received := transfers w.kernel (remoteDescs address amount) fun iov member i hi => by
    obtain ⟨j, hj, equal⟩ := remoteDescs_inside member hi
    rw [equal]
    exact range j hj
  rw [remoteDescs_cells] at received
  have space : newVector P 1 amount w = .ok () w := by
    rw [newVector, if_neg (by omega), one_mul, if_pos room]
    rfl
  rw [readMemory, bind_ok space, bind_ok (orSendErrno_ok (Prod.ext received rfl)), length_cells,
    Nat.sub_self, List.replicate_zero, List.append_nil]
  rfl

theorem readMemory_of_readable {readable : κ → VirtAddr → Prop}
    (laws : MemoryLaws P.toKernel mem) (transfers : TransfersReadable P.toKernel mem readable)
    {w : World κ} {address : VirtAddr} {amount : Nat} (fits : amount ≤ maxSize 1)
    (room : P.canAllocate amount = true)
    (range : ∀ i < amount, readable w.kernel (address + BitVec.ofNat 64 i)) :
    ReadsRange P mem w address amount :=
  ⟨_, laws.processVmReadv_mem _ _, readMemory_eq transfers fits room range⟩

/-! ### Masking -/

theorem mem_getInRegion {sites : List BreakpointSite} {low high : VirtAddr}
    {site : BreakpointSite} :
    site ∈ getInRegion sites low high ↔
      site ∈ sites ∧ low ≤ site.address ∧ site.address < high := by
  simp [getInRegion, inRange, Stoppoint.address]

/-- A site in the region has its byte in the buffer, even when the end of the
range wraps around. -/
theorem offset_lt_of_mem_getInRegion {sites : List BreakpointSite} {address : VirtAddr}
    {amount : Nat} (fits : amount < 2 ^ 64) {site : BreakpointSite}
    (h : site ∈ getInRegion sites address (address + BitVec.ofNat 64 amount)) :
    (site.address - address).toNat < amount := by
  obtain ⟨_, low, high⟩ := mem_getInRegion.1 h
  bv_omega

theorem mem_getInRegion_of_lt {sites : List BreakpointSite} {address : VirtAddr} {amount : Nat}
    (nowrap : address.toNat + amount ≤ 2 ^ 64 - 1) {site : BreakpointSite} (member : site ∈ sites)
    (h : (site.address - address).toNat < amount) :
    site ∈ getInRegion sites address (address + BitVec.ofNat 64 amount) := by
  refine mem_getInRegion.2 ⟨member, ?_, ?_⟩
  · bv_omega
  · bv_omega

theorem maskTraps_total {address : VirtAddr} (sites : List BreakpointSite) (memory : List Byte)
    (inside : ∀ site ∈ sites, (site.address - address).toNat < memory.length) :
    ∃ masked, maskTraps address sites memory = .ok masked := by
  induction sites generalizing memory with
  | nil => exact ⟨memory, rfl⟩
  | cons site sites ih =>
    rw [maskTraps]
    split
    · exact ih memory fun q member => inside q (List.mem_cons_of_mem site member)
    · rw [if_pos (inside site List.mem_cons_self)]
      refine ih _ fun q member => ?_
      rw [List.length_set]
      exact inside q (List.mem_cons_of_mem site member)

/-- Each byte is right already or is the byte of a trap still to be masked. -/
def MaskedBy (sites : List BreakpointSite) (M : Memory) (address : VirtAddr)
    (memory : List Byte) : Prop :=
  ∀ i < memory.length, memory[i]? = some (M (address + BitVec.ofNat 64 i)) ∨
    ∃ site ∈ sites, site.armed = true ∧ (site.address - address).toNat = i

section Masked

variable {M : Memory} {address : VirtAddr} {site : BreakpointSite} {sites : List BreakpointSite}
  {memory : List Byte}

theorem MaskedBy.eq_cells (masked : MaskedBy [] M address memory) :
    memory = cells M address memory.length := by
  apply List.ext_getElem?
  intro i
  by_cases hi : i < memory.length
  · rw [getElem?_cells hi]
    simpa using masked i hi
  · rw [List.getElem?_eq_none (by omega), List.getElem?_eq_none (by simp; omega)]

/-- A site without a trap in memory masks nothing. -/
theorem MaskedBy.skip (masked : MaskedBy (site :: sites) M address memory)
    (idle : site.armed = false) : MaskedBy sites M address memory := by
  intro i hi
  rcases masked i hi with right | ⟨q, member, armed, here⟩
  · exact .inl right
  · rcases List.mem_cons.1 member with rfl | later
    · rw [idle] at armed
      contradiction
    · exact .inr ⟨q, later, armed, here⟩

theorem MaskedBy.set (masked : MaskedBy (site :: sites) M address memory)
    (here : (site.address - address).toNat < memory.length)
    (saved : site.savedData = M site.address) :
    MaskedBy sites M address (memory.set (site.address - address).toNat site.savedData) := by
  intro i hi
  rw [List.length_set] at hi
  by_cases patched : (site.address - address).toNat = i
  · subst patched
    left
    rw [List.getElem?_set_self here, saved, add_distance]
  · rw [List.getElem?_set_ne patched]
    rcases masked i hi with right | ⟨q, member, on, at_i⟩
    · exact .inl right
    · rcases List.mem_cons.1 member with rfl | later
      · exact absurd at_i patched
      · exact .inr ⟨q, later, on, at_i⟩

theorem maskTraps_eq (sites : List BreakpointSite) (memory : List Byte)
    (masked : MaskedBy sites M address memory)
    (inside : ∀ site ∈ sites, (site.address - address).toNat < memory.length)
    (saved : ∀ site ∈ sites, site.armed = true → site.savedData = M site.address) :
    maskTraps address sites memory = .ok (cells M address memory.length) := by
  induction sites generalizing memory with
  | nil => exact congrArg Except.ok masked.eq_cells
  | cons site sites ih =>
    have rest := fun q member => saved q (List.mem_cons_of_mem site member)
    have others := fun q member => inside q (List.mem_cons_of_mem site member)
    rw [maskTraps]
    split
    · next off =>
      have idle : site.armed = false := by
        simp only [Bool.or_eq_true, Bool.not_eq_true'] at off
        rcases off with off | hard
        · simp [BreakpointSite.armed, off]
        · simp [BreakpointSite.armed, hard]
      exact ih memory (masked.skip idle) others rest
    · next on =>
      have armed : site.armed = true := by
        simpa [BreakpointSite.armed] using on
      have here := inside site List.mem_cons_self
      have size : (memory.set (site.address - address).toNat site.savedData).length =
          memory.length := List.length_set
      rw [if_pos here, ← size]
      refine ih _ (masked.set here (saved site List.mem_cons_self armed)) (fun q member => ?_) rest
      rw [size]
      exact others q member

end Masked

end SdbDebugger
