import SdbDebugger.ScriptedKernel
import SdbDebugger.StopErrors

/-! Long reads. `read_memory` asks for a chunk on every page of the range in one call, and one
call takes a bounded number of them. -/

namespace SdbDebugger
open EffectRules ByteSpace

variable {κ : Type} {P : Platform κ} {mem : κ → Memory} {readable : κ → VirtAddr → Prop}

/-- The pages that a range touches. -/
def pagesTouched (address : VirtAddr) (amount : Nat) : Nat :=
  if amount = 0 then 0 else (address.toNat % 4096 + amount + 4095) / 4096

theorem pagesTouched_zero (address : VirtAddr) : pagesTouched address 0 = 0 := if_pos rfl

theorem pagesTouched_pos {address : VirtAddr} {amount : Nat} (some : amount ≠ 0) :
    pagesTouched address amount = (address.toNat % 4096 + amount + 4095) / 4096 := if_neg some

theorem next_page (address : VirtAddr) :
    (address + BitVec.ofNat 64 (upToNextPage address)).toNat % 4096 = 0 := by
  rw [upToNextPage_eq, BitVec.toNat_add, BitVec.toNat_ofNat]
  omega

/-- One page less is touched by what is left of the range after the first chunk. -/
theorem pagesTouched_step {address : VirtAddr} {amount : Nat} (some : amount ≠ 0) :
    pagesTouched address amount = 1 +
      pagesTouched (address + BitVec.ofNat 64 (min amount (upToNextPage address)))
        (amount - min amount (upToNextPage address)) := by
  have page := upToNextPage_eq address
  rw [pagesTouched_pos some]
  by_cases within : amount ≤ upToNextPage address
  · rw [min_eq_left within, Nat.sub_self, pagesTouched_zero]
    omega
  · have aligned := next_page address
    rw [min_eq_right (by omega), pagesTouched_pos (by omega), aligned]
    omega

theorem length_remoteDescs (address : VirtAddr) (amount : Nat) :
    (remoteDescs address amount).length = pagesTouched address amount := by
  induction address, amount using remoteDescs.induct with
  | case1 address => rw [remoteDescs_zero, pagesTouched_zero, List.length_nil]
  | case2 address amount some chunkSize ih =>
    rw [remoteDescs_succ some, List.length_cons, ih, pagesTouched_step some, add_comm]

/-- `read_memory` returns the bytes of the range in order. -/
def ReadsWhole (P : Platform κ) (mem : κ → Memory) (w : World κ) (address : VirtAddr)
    (amount : Nat) : Prop :=
  ∃ t, readMemory P address amount w = .ok (cells (mem w.kernel) address amount) t

section Limit

variable (transfers : TransfersLimited P.toKernel mem readable) {w : World κ}
  {address : VirtAddr} {amount : Nat}
include transfers

theorem readsWhole_of_fits (possible : ¬ Unallocatable P 1 amount)
    (range : ∀ i < amount, readable w.kernel (address + BitVec.ofNat 64 i))
    (fits : pagesTouched address amount ≤ iovMax) : ReadsWhole P mem w address amount := by
  have whole : ∀ iov ∈ remoteDescs address amount, iov.Whole (readable w.kernel) := by
    intro iov member i hi
    obtain ⟨j, hj, equal⟩ := remoteDescs_inside member hi
    rw [equal]
    exact range j hj
  rw [← length_remoteDescs] at fits
  have received := transfers.received w.kernel _ fits whole
  rw [remoteDescs_cells] at received
  have read := readMemory_ok possible (Prod.ext received rfl)
  rw [length_cells, Nat.sub_self, List.replicate_zero, List.append_nil] at read
  exact ⟨_, read⟩

theorem not_readsWhole_of_tooLong (long : iovMax < pagesTouched address amount) :
    ¬ ReadsWhole P mem w address amount := by
  rintro ⟨t, read⟩
  rw [← length_remoteDescs] at long
  obtain ⟨e, rejected⟩ := transfers.rejected w.kernel _ long
  obtain ⟨e', k, raised, _⟩ := readMemory_error (P := P) _ (.inr ⟨e, rejected⟩)
  cases raised.symm.trans read

end Limit

/-- A readable range is read exactly if it touches no more pages than one call takes chunks. -/
theorem readsWhole_iff (transfers : TransfersLimited P.toKernel mem readable) (w : World κ)
    (address : VirtAddr) (amount : Nat)
    (range : ∀ i < amount, readable w.kernel (address + BitVec.ofNat 64 i)) :
    ReadsWhole P mem w address amount ↔
      ¬ Unallocatable P 1 amount ∧ pagesTouched address amount ≤ iovMax := by
  constructor
  · intro reads
    refine ⟨fun impossible => ?_, ?_⟩
    · obtain ⟨t, read⟩ := reads
      obtain ⟨e, k, raised, _⟩ := readMemory_error (P := P) address (.inl impossible)
      cases raised.symm.trans read
    · by_contra long
      exact not_readsWhole_of_tooLong transfers (by omega) reads
  · rintro ⟨possible, fits⟩
    exact readsWhole_of_fits transfers possible range fits

/-- The executable kernel with the bound on the chunks of one call. -/
def limitedPlatform : Platform Scripted :=
  { scriptedPlatform with
    processVmReadv := fun iovs k =>
      if iovs.length ≤ iovMax then (.ok (k.transfer iovs), k) else (.error Scripted.einval, k) }

namespace Limited

theorem transfersLimited :
    TransfersLimited limitedPlatform.toKernel Scripted.memory fun k a => k.mapped a = true where
  received k iovs few whole := by
    have all := Scripted.transfersReadable k iovs whole
    change (if _ then _ else _ : Except Errno (List Byte) × Scripted).1 = _
    rw [if_pos few]
    exact all
  rejected k iovs many := by
    refine ⟨Scripted.einval, ?_⟩
    change (if _ then _ else _ : Except Errno (List Byte) × Scripted).1 = _
    rw [if_neg (by omega)]

end Limited

/-- As many pages as one call takes, from the middle of the first one. -/
theorem readsWhole_iff_manyPages :
    ReadsWhole limitedPlatform Scripted.memory (scriptedWorld [] []) 0x7ff0 0x3ff010 :=
  (readsWhole_iff Limited.transfersLimited _ _ _ fun _ _ => rfl).2
    ⟨by unfold Unallocatable; decide, by decide⟩

/-- One byte more is one page more. -/
theorem not_readsWhole_onePageMore :
    ¬ ReadsWhole limitedPlatform Scripted.memory (scriptedWorld [] []) 0x7ff0 0x3ff011 := by
  intro reads
  have fits := ((readsWhole_iff Limited.transfersLimited _ _ _ fun _ _ => rfl).1 reads).2
  exact absurd fits (by decide)

end SdbDebugger
