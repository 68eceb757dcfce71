import SdbDebugger.MemoryWrites
import SdbDebugger.StopErrors

/-! `read_memory` over pages that are not all readable. The kernel transfers chunks up to the
first that is not, reports how many bytes that was, and is not asked. -/

namespace SdbDebugger
open EffectRules ByteSpace

variable {κ : Type} {P : Platform κ} {mem : κ → Memory} {readable : κ → VirtAddr → Prop}

/-- The bytes of the chunks before the first that is not readable throughout. -/
def transferred (readable : VirtAddr → Prop) [DecidablePred readable] : List Iovec → Nat
  | [] => 0
  | iov :: iovs => if iov.Whole readable then iov.len + transferred readable iovs else 0

/-- How much of the range the kernel transfers for `read_memory`. -/
def received (readable : VirtAddr → Prop) [DecidablePred readable] (address : VirtAddr)
    (amount : Nat) : Nat :=
  transferred readable (remoteDescs address amount)

section Received

variable {r : VirtAddr → Prop} [DecidablePred r]

@[simp] theorem received_zero (address : VirtAddr) : received r address 0 = 0 := by
  rw [received, remoteDescs_zero, transferred]

theorem received_succ {address : VirtAddr} {amount : Nat} (some : amount ≠ 0) :
    received r address amount =
      if (⟨address, min amount (upToNextPage address)⟩ : Iovec).Whole r then
        min amount (upToNextPage address) +
          received r (address + BitVec.ofNat 64 (min amount (upToNextPage address)))
            (amount - min amount (upToNextPage address))
      else 0 := by
  rw [received, remoteDescs_succ some, transferred]
  rfl

theorem received_le (address : VirtAddr) (amount : Nat) : received r address amount ≤ amount := by
  induction address, amount using remoteDescs.induct with
  | case1 address => simp
  | case2 address amount some chunkSize ih =>
    rw [received_succ some]
    split
    · have inside : chunkSize ≤ amount := Nat.min_le_left _ _
      change chunkSize + received r (address + BitVec.ofNat 64 chunkSize) (amount - chunkSize) ≤ _
      omega
    · exact Nat.zero_le _

/-- The request splits before the first chunk that is not readable throughout. -/
theorem remoteDescs_split {β : Type} (m : VirtAddr → β) (address : VirtAddr) (amount : Nat) :
    ∃ before after, remoteDescs address amount = before ++ after ∧
      (∀ iov ∈ before, iov.Whole r) ∧ (∀ iov ∈ after.head?, ¬ iov.Whole r) ∧
      before.flatMap (fun iov => cells m iov.base iov.len) =
        cells m address (received r address amount) := by
  induction address, amount using remoteDescs.induct with
  | case1 address =>
    refine ⟨[], [], remoteDescs_zero address, by simp, by simp, ?_⟩
    rw [received_zero]
    rfl
  | case2 address amount some chunkSize ih =>
    rw [received_succ some]
    split
    · next whole =>
      obtain ⟨before, after, parts, readable, torn, bytes⟩ := ih
      refine ⟨⟨address, chunkSize⟩ :: before, after, ?_, ?_, torn, ?_⟩
      · rw [remoteDescs_succ some, List.cons_append, ← parts]
      · intro iov member
        rcases List.mem_cons.1 member with rfl | later
        · exact whole
        · exact readable iov later
      · rw [List.flatMap_cons, bytes]
        exact cells_append m address chunkSize _
    · next torn =>
      refine ⟨[], _, remoteDescs_succ some, by simp, ?_, rfl⟩
      intro iov first
      cases first
      exact torn

theorem received_eq_zero {address : VirtAddr} {amount : Nat} (some : amount ≠ 0)
    (nothing : received r address amount = 0) : ∃ iov iovs,
      remoteDescs address amount = iov :: iovs ∧ ¬ iov.Whole r := by
  refine ⟨_, _, remoteDescs_succ some, fun whole => ?_⟩
  have positive := upToNextPage_pos address
  rw [received_succ some, if_pos whole] at nothing
  omega

end Received

section Reads

variable [∀ k, DecidablePred (readable k)] (transfers : TransfersPrefix P.toKernel mem readable)
  {w : World κ} {address : VirtAddr} {amount : Nat}
include transfers

/-- What was not transferred is read as zeros. -/
theorem readMemory_received (possible : ¬ Unallocatable P 1 amount)
    (begins : amount ≠ 0 → received (readable w.kernel) address amount ≠ 0) :
    readMemory P address amount w = .ok
      (cells (mem w.kernel) address (received (readable w.kernel) address amount) ++
        List.replicate (amount - received (readable w.kernel) address amount) 0)
      { w with kernel := (P.processVmReadv (remoteDescs address amount) w.kernel).2 } := by
  obtain ⟨before, after, parts, whole, torn, bytes⟩ :=
    remoteDescs_split (r := readable w.kernel) (mem w.kernel) address amount
  have first : before = [] → after = [] := by
    intro none
    subst none
    by_contra more
    have some : amount ≠ 0 := by
      rintro rfl
      rw [remoteDescs_zero] at parts
      exact more parts.symm
    have length := congrArg List.length bytes
    rw [length_cells] at length
    exact begins some length.symm
  have got := transfers.received w.kernel before after first whole torn
  rw [← parts, bytes] at got
  have read := readMemory_ok possible (Prod.ext got rfl)
  rw [length_cells] at read
  exact read

theorem readMemory_refused (some : amount ≠ 0)
    (nothing : received (readable w.kernel) address amount = 0) :
    ∃ e t, readMemory P address amount w = .error e t := by
  obtain ⟨iov, iovs, chunks, torn⟩ := received_eq_zero some nothing
  obtain ⟨e, fault⟩ := transfers.refused w.kernel iov iovs torn
  rw [← chunks] at fault
  obtain ⟨e', k, raised, _⟩ := readMemory_error (P := P) _ (.inr ⟨e, fault⟩)
  exact ⟨e', _, raised⟩

end Reads

/-- Zeros in the place of the bytes from `g` on are right if those are zeros. -/
theorem cells_eq_zeros_iff {m : Memory} {address : VirtAddr} {g n : Nat} (inside : g ≤ n) :
    cells m address g ++ List.replicate (n - g) 0 = cells m address n ↔
      ∀ i < n, g ≤ i → m (address + BitVec.ofNat 64 i) = 0 := by
  have whole := cells_append m address g (n - g)
  rw [Nat.add_sub_cancel' inside] at whole
  rw [← whole, List.append_right_inj, eq_comm, List.eq_replicate_iff]
  simp only [length_cells, true_and]
  constructor
  · intro zeros i hi later
    have there := zeros (m (address + BitVec.ofNat 64 i))
    refine there (List.mem_iff_getElem?.2 ⟨i - g, ?_⟩)
    rw [getElem?_cells (by omega), add_ofNat_assoc, Nat.add_sub_cancel' later]
  · intro zeros b member
    obtain ⟨j, at_j⟩ := List.mem_iff_getElem?.1 member
    have hj : j < n - g := by
      simpa using (List.getElem?_eq_some_iff.1 at_j).1
    rw [getElem?_cells hj, Option.some.injEq, add_ofNat_assoc] at at_j
    rw [← at_j]
    exact zeros _ (by omega) (by omega)

/-- When `read_memory` returns, it returns the bytes of the inferior. -/
def ReadsTruly (P : Platform κ) (mem : κ → Memory) (w : World κ) (address : VirtAddr)
    (amount : Nat) : Prop :=
  ∀ bytes t, readMemory P address amount w = .ok bytes t →
    bytes = cells (mem w.kernel) address amount

/-- `read_memory` returns bytes that are not there exactly if it is cut short after a first
chunk, and there is something else than zeros in the rest. -/
theorem readsTruly_iff [∀ k, DecidablePred (readable k)]
    (transfers : TransfersPrefix P.toKernel mem readable) (w : World κ) (address : VirtAddr)
    (amount : Nat) :
    ReadsTruly P mem w address amount ↔
      Unallocatable P 1 amount ∨
      (amount ≠ 0 ∧ received (readable w.kernel) address amount = 0) ∨
      ∀ i < amount, received (readable w.kernel) address amount ≤ i →
        mem w.kernel (address + BitVec.ofNat 64 i) = 0 := by
  by_cases impossible : Unallocatable P 1 amount
  · refine iff_of_true (fun bytes t read => ?_) (.inl impossible)
    obtain ⟨e, full, _⟩ := newVector_error impossible w
    cases (bind_error full _).symm.trans read
  · by_cases refused : amount ≠ 0 ∧ received (readable w.kernel) address amount = 0
    · refine iff_of_true (fun bytes t read => ?_) (.inr (.inl refused))
      obtain ⟨e, u, raised⟩ := readMemory_refused transfers refused.1 refused.2
      cases raised.symm.trans read
    · have begins : amount ≠ 0 → received (readable w.kernel) address amount ≠ 0 :=
        fun some nothing => refused ⟨some, nothing⟩
      have read := readMemory_received transfers impossible begins
      rw [or_iff_right impossible, or_iff_right refused,
        ← cells_eq_zeros_iff (received_le address amount)]
      constructor
      · intro truly
        exact truly _ _ read
      · intro same bytes t again
        cases read.symm.trans again
        exact same

theorem readsTruly_iff_acrossPages :
    ReadsTruly pagedPlatform Scripted.memory (pagedWorld 0x3000) 0x1ffe 4 :=
  (readsTruly_iff Paged.transfersPrefix _ _ _).2 (.inr (.inr fun i hi later => by
    have all : received (Paged.Mapped (pagedWorld 0x3000).kernel) 0x1ffe 4 = 4 := by decide +kernel
    omega))

/-- The second page cannot be read, and zeros are returned for it. -/
theorem not_readsTruly_secondPage :
    ¬ ReadsTruly pagedPlatform Scripted.memory (pagedWorld 0x2000) 0x1ffe 4 := by
  intro truly
  have two : received (Paged.Mapped (pagedWorld 0x2000).kernel) 0x1ffe 4 = 2 := by decide +kernel
  rcases (readsTruly_iff Paged.transfersPrefix _ _ _).1 truly with full | ⟨_, nothing⟩ | zeros
  · exact absurd full (by unfold Unallocatable; decide)
  · omega
  · exact absurd (zeros 3 (by decide) (by omega)) (by decide)

end SdbDebugger
