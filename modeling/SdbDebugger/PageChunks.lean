import Mathlib.Data.List.Chain
import SdbDebugger.ReadLimits

/-! The chunks of `read_memory`, one behind the other: how they lie in the pages of the range. -/

namespace SdbDebugger
open ByteSpace

/-- Pieces of pages that make up a range, in its order. Addresses are modulo `2 ^ 64`. -/
structure PagePartition (address : VirtAddr) (amount : Nat) (chunks : List Iovec) : Prop where
  first : ∀ chunk ∈ chunks.head?, chunk.base = address
  next : chunks.IsChain fun chunk later => later.base = chunk.base + BitVec.ofNat 64 chunk.len
  length : ∀ chunk ∈ chunks, 1 ≤ chunk.len ∧ chunk.len ≤ 4096
  inPage : ∀ chunk ∈ chunks, ∀ i < chunk.len,
    (chunk.base + BitVec.ofNat 64 i).toNat / 4096 = chunk.base.toNat / 4096
  starts : ∀ chunk ∈ chunks.tail, chunk.base.toNat % 4096 = 0
  ends : ∀ chunk ∈ chunks.dropLast, (chunk.base + BitVec.ofNat 64 chunk.len).toNat % 4096 = 0
  total : (chunks.map Iovec.len).sum = amount
  bytes : ∀ {β : Type} (m : VirtAddr → β),
    chunks.flatMap (fun chunk => cells m chunk.base chunk.len) = cells m address amount

section Chunks

variable {address : VirtAddr} {amount : Nat}

theorem remoteDescs_head {chunk : Iovec} (first : chunk ∈ (remoteDescs address amount).head?) :
    chunk.base = address := by
  by_cases none : amount = 0
  · rw [none, remoteDescs_zero] at first
    cases first
  · rw [remoteDescs_succ none] at first
    cases first
    rfl

theorem remoteDescs_isChain (address : VirtAddr) (amount : Nat) : (remoteDescs address amount).IsChain
    fun chunk later => later.base = chunk.base + BitVec.ofNat 64 chunk.len := by
  induction address, amount using remoteDescs.induct with
  | case1 address =>
    rw [remoteDescs_zero]
    exact .nil
  | case2 address amount some chunkSize ih =>
    rw [remoteDescs_succ some, List.isChain_cons]
    exact ⟨fun later first => remoteDescs_head first, ih⟩

/-- No chunk is empty, and none reaches behind its page. -/
theorem remoteDescs_inPage (address : VirtAddr) (amount : Nat) :
    ∀ chunk ∈ remoteDescs address amount,
      1 ≤ chunk.len ∧ chunk.base.toNat % 4096 + chunk.len ≤ 4096 := by
  induction address, amount using remoteDescs.induct with
  | case1 address => simp [remoteDescs_zero]
  | case2 address amount some chunkSize ih =>
    have page := upToNextPage_eq address
    rw [remoteDescs_succ some, List.forall_mem_cons]
    exact ⟨⟨by dsimp only; omega, by dsimp only; omega⟩, ih⟩

/-- A page is left only at its end. -/
theorem next_aligned (more : upToNextPage address < amount) :
    (address + BitVec.ofNat 64 (min amount (upToNextPage address))).toNat % 4096 = 0 := by
  rw [min_eq_right more.le]
  exact next_page address

theorem remoteDescs_starts (address : VirtAddr) (amount : Nat) :
    ∀ chunk ∈ (remoteDescs address amount).tail, chunk.base.toNat % 4096 = 0 := by
  induction address, amount using remoteDescs.induct with
  | case1 address => simp [remoteDescs_zero]
  | case2 address amount some chunkSize ih =>
    rw [remoteDescs_succ some, List.tail_cons]
    by_cases more : upToNextPage address < amount
    · have left : amount - min amount (upToNextPage address) ≠ 0 := by omega
      rw [remoteDescs_succ left] at ih ⊢
      exact List.forall_mem_cons.2 ⟨next_aligned more, ih⟩
    · rw [min_eq_left (not_lt.1 more), Nat.sub_self, remoteDescs_zero]
      exact fun chunk member => absurd member List.not_mem_nil

theorem remoteDescs_ends (address : VirtAddr) (amount : Nat) :
    ∀ chunk ∈ (remoteDescs address amount).dropLast,
      (chunk.base + BitVec.ofNat 64 chunk.len).toNat % 4096 = 0 := by
  induction address, amount using remoteDescs.induct with
  | case1 address => simp [remoteDescs_zero]
  | case2 address amount some chunkSize ih =>
    rw [remoteDescs_succ some]
    by_cases more : upToNextPage address < amount
    · have left : amount - min amount (upToNextPage address) ≠ 0 := by omega
      have others : remoteDescs (address + BitVec.ofNat 64 (min amount (upToNextPage address)))
          (amount - min amount (upToNextPage address)) ≠ [] := by
        rw [remoteDescs_succ left]
        exact List.cons_ne_nil _ _
      rw [List.dropLast_cons_of_ne_nil others]
      exact List.forall_mem_cons.2 ⟨next_aligned more, ih⟩
    · rw [min_eq_left (not_lt.1 more), Nat.sub_self, remoteDescs_zero]
      exact fun chunk member => absurd member List.not_mem_nil

theorem remoteDescs_total (address : VirtAddr) (amount : Nat) :
    ((remoteDescs address amount).map Iovec.len).sum = amount := by
  induction address, amount using remoteDescs.induct with
  | case1 address => simp [remoteDescs_zero]
  | case2 address amount some chunkSize ih =>
    rw [remoteDescs_succ some, List.map_cons, List.sum_cons, ih]
    exact Nat.add_sub_cancel' (Nat.min_le_left _ _)

end Chunks

/-- The loop of `read_memory` ends after one round for each page of the range, and what it has
built then is the range in pieces of pages. -/
theorem remoteDescs_partition (address : VirtAddr) (amount : Nat) :
    (remoteDescs address amount).length = pagesTouched address amount ∧
      PagePartition address amount (remoteDescs address amount) := by
  have inPage := remoteDescs_inPage address amount
  refine ⟨length_remoteDescs address amount, ?_⟩
  exact {
    first := fun chunk first => remoteDescs_head first
    next := remoteDescs_isChain address amount
    length := fun chunk member => ⟨(inPage chunk member).1, by have := inPage chunk member; omega⟩
    inPage := fun chunk member i inside => by
      have fits := (inPage chunk member).2
      rw [BitVec.toNat_add, BitVec.toNat_ofNat]
      omega
    starts := remoteDescs_starts address amount
    ends := remoteDescs_ends address amount
    total := remoteDescs_total address amount
    bytes := fun m => remoteDescs_cells m address amount }

/-- From the end of the address space to its start. -/
example : remoteDescs 0xfffffffffffffff0 0x1018 =
    [⟨0xfffffffffffffff0, 0x10⟩, ⟨0, 0x1000⟩, ⟨0x1000, 8⟩] := by decide +kernel

end SdbDebugger
