import SdbDebugger.PartialReads

/-! `write_memory` at the end of what is mapped. The words that the data fills are poked as they
are; the last one, if the data ends inside it, reaches up to seven bytes further. -/

namespace SdbDebugger
open EffectRules ByteSpace

variable {κ : Type} {P : Platform κ} {mem : κ → Memory} {mapped readable : κ → VirtAddr → Prop}

theorem received_congr {r r' : VirtAddr → Prop} [DecidablePred r] [DecidablePred r']
    (same : ∀ x, r x ↔ r' x) (address : VirtAddr) (amount : Nat) :
    received r address amount = received r' address amount := by
  have whole : ∀ iov : Iovec, iov.Whole r ↔ iov.Whole r' :=
    fun iov => forall₂_congr fun i _ => same _
  unfold received
  induction remoteDescs address amount with
  | nil => rfl
  | cons iov iovs ih => simp only [transferred, whole, ih]

/-- The bytes that the data fills whole words with. -/
def wholeSpan (n : Nat) : Nat := 8 * (n / 8)

section Words

variable {w : World κ} {address : VirtAddr} {data : List Byte}

theorem nextWord_whole {start : Nat} (whole : start + 8 ≤ data.length) :
    nextWord P address data start w =
      .ok (ofBytes 8 fun i => data.getD (start + i) 0) w := by
  unfold nextWord
  rw [if_pos (by omega)]
  rfl

/-- The loop gets to the last word, with the data before it in memory. -/
theorem writeMemoryLoop_words (laws : MemoryLaws P.toKernel mem)
    (mapped_kept : MappingLaws P.toKernel mapped) (readable_kept : MappingLaws P.toKernel readable)
    (accepts : AcceptsPokes P.toKernel mapped) (fits : data.length ≤ 2 ^ 63) (start : Nat)
    (words : start % 8 = 0) (inside : start ≤ wholeSpan data.length)
    (range : ∀ i < data.length, mapped w.kernel (address + BitVec.ofNat 64 i)) :
    ∃ k, writeMemoryLoop P address data start w =
        writeMemoryLoop P address data (wholeSpan data.length) { w with kernel := k } ∧
      mem k = overwrite (mem w.kernel) (address + BitVec.ofNat 64 start)
        (wholeSpan data.length - start) (fun i => data.getD (start + i) 0) ∧
      (∀ x, mapped k x ↔ mapped w.kernel x) ∧ ∀ x, readable k x ↔ readable w.kernel x := by
  induction start using writeMemoryLoop.induct data generalizing w with
  | case1 start more ih =>
    by_cases last : start = wholeSpan data.length
    · refine ⟨w.kernel, by rw [last], ?_, fun _ => Iff.rfl, fun _ => Iff.rfl⟩
      rw [last, Nat.sub_self, overwrite_zero]
    · have whole : start + 8 ≤ wholeSpan data.length := by
        unfold wholeSpan at inside last ⊢
        omega
      have within : wholeSpan data.length ≤ data.length := Nat.mul_div_le _ _
      obtain ⟨k, poke⟩ := accepts (address + BitVec.ofNat 64 start)
        (ofBytes 8 fun i => data.getD (start + i) 0) w.kernel fun i hi => by
          rw [add_ofNat_assoc]
          exact range _ (by omega)
      have mapped_k := mapped_kept.pokeData (address + BitVec.ofNat 64 start)
        (ofBytes 8 fun i => data.getD (start + i) 0) w.kernel
      have readable_k := readable_kept.pokeData (address + BitVec.ofNat 64 start)
        (ofBytes 8 fun i => data.getD (start + i) 0) w.kernel
      rw [poke] at mapped_k readable_k
      have stored := laws.pokeData_stored _ _ _ _ _ poke
      obtain ⟨k', loop, memory, mapped_k', readable_k'⟩ := ih (w := { w with kernel := k })
        (by omega) whole fun i hi => (mapped_k _).2 (range i hi)
      refine ⟨k', ?_, ?_, fun x => (mapped_k' x).trans (mapped_k x),
        fun x => (readable_k' x).trans (readable_k x)⟩
      · rw [writeMemoryLoop, if_pos more, bind_ok (nextWord_whole (by omega)),
          bind_ok (orSendErrno_ok poke)]
        exact loop
      · rw [memory]
        change overwrite (mem k) _ _ _ = _
        rw [stored, store, overwrite_congr fun i first => byteOf_ofBytes _ first]
        exact overwrite_step _ _ (fun i => data.getD i 0) whole (by omega)
  | case2 start done =>
    have last : start = wholeSpan data.length := by
      unfold wholeSpan at inside ⊢
      omega
    refine ⟨w.kernel, by rw [last], ?_, fun _ => Iff.rfl, fun _ => Iff.rfl⟩
    rw [last, Nat.sub_self, overwrite_zero]

end Words

/-! ### The last word -/

section Tail

variable [∀ k, DecidablePred (readable k)] {w : World κ} {address : VirtAddr} {data : List Byte}
  (laws : MemoryLaws P.toKernel mem) (transfers : TransfersPrefix P.toKernel mem readable)
  (mapped_kept : MappingLaws P.toKernel mapped) (accepts : AcceptsPokes P.toKernel mapped)
  (refuses : RefusesPokes P.toKernel mapped) (room : P.canAllocate 8 = true)

/-- What the last word is completed with: zeros in the place of what was not transferred. -/
def tailByte (m : Memory) (b : VirtAddr) (g i : Nat) : Byte :=
  if i < g then m (b + BitVec.ofNat 64 i) else 0

theorem getD_read {m : Memory} {b : VirtAddr} {g i : Nat} :
    (cells m b g ++ List.replicate (8 - g) 0).getD i 0 = tailByte m b g i := by
  rw [List.getD_eq_getElem?_getD, List.getElem?_append, length_cells, tailByte]
  split
  · next there => rw [getElem?_cells there, Option.getD_some]
  · simp [List.getElem?_replicate]
    split
    · rfl
    · rfl

/-- The word that is poked last. -/
def tailWord (m : Memory) (b : VirtAddr) (g : Nat) (data : List Byte) (start : Nat) : Word :=
  ofBytes 8 fun i => if i < data.length - start then data.getD (start + i) 0 else tailByte m b g i

include transfers room in
theorem nextWord_tail {start : Nat} (partly : data.length < start + 8)
    (begins : received (readable w.kernel) (address + BitVec.ofNat 64 start) 8 ≠ 0) :
    nextWord P address data start w =
      .ok (tailWord (mem w.kernel) (address + BitVec.ofNat 64 start)
          (received (readable w.kernel) (address + BitVec.ofNat 64 start) 8) data start)
        { w with kernel := (P.processVmReadv
          (remoteDescs (address + BitVec.ofNat 64 start) 8) w.kernel).2 } := by
  have possible : ¬ Unallocatable P 1 8 := by
    unfold Unallocatable maxSize
    simp [room]
  unfold nextWord tailWord
  rw [if_neg (by omega), bind_ok (readMemory_received transfers possible fun _ => begins)]
  simp only [getD_read]
  rfl

include transfers in
theorem nextWord_refused {start : Nat} (partly : data.length < start + 8)
    (nothing : received (readable w.kernel) (address + BitVec.ofNat 64 start) 8 = 0) :
    ∃ e t, nextWord P address data start w = .error e t := by
  obtain ⟨e, t, refused⟩ := readMemory_refused (w := w) transfers (by decide) nothing
  unfold nextWord
  rw [if_neg (by omega)]
  exact ⟨e, t, bind_error refused _⟩

/-- Where the last word of a write is as good as none: it is mapped, the read of it begins, and
what the read does not reach is zero. -/
structure TailFits (mapped readable : VirtAddr → Prop) [DecidablePred readable] (m : Memory)
    (b : VirtAddr) (remaining : Nat) : Prop where
  mapped : ∀ i < 8, mapped (b + BitVec.ofNat 64 i)
  begins : received readable b 8 ≠ 0
  zeros : ∀ i < 8, remaining ≤ i → received readable b 8 ≤ i → m (b + BitVec.ofNat 64 i) = 0

theorem TailFits.congr {a a' r r' : VirtAddr → Prop} [DecidablePred r] [DecidablePred r']
    {m m' : Memory} {b : VirtAddr} {remaining : Nat} (fits : TailFits a r m b remaining)
    (same_mapped : ∀ x, a' x ↔ a x) (same_readable : ∀ x, r' x ↔ r x)
    (same_bytes : ∀ i < 8, m' (b + BitVec.ofNat 64 i) = m (b + BitVec.ofNat 64 i)) :
    TailFits a' r' m' b remaining := by
  have same := received_congr same_readable b 8
  refine ⟨fun i hi => (same_mapped _).2 (fits.mapped i hi), ?_, fun i hi after later => ?_⟩
  · rw [same]
    exact fits.begins
  · rw [same_bytes i hi]
    exact fits.zeros i hi after (by omega)

/-- The last word leaves the bytes after the data alone if they are what it is completed with. -/
theorem store_tailWord {m : Memory} {b : VirtAddr} {g start : Nat}
    (partly : data.length < start + 8) :
    store m b 8 (tailWord m b g data start) =
        overwrite m b (data.length - start) (fun i => data.getD (start + i) 0) ↔
      ∀ i < 8, data.length - start ≤ i → g ≤ i → m (b + BitVec.ofNat 64 i) = 0 := by
  have bytes : ∀ i < 8, byteOf (tailWord m b g data start) i =
      if i < data.length - start then data.getD (start + i) 0 else tailByte m b g i :=
    fun i hi => byteOf_ofBytes _ hi
  have own : overwrite m b (data.length - start) (fun i => data.getD (start + i) 0) =
      overwrite m b (data.length - start) (byteOf (tailWord m b g data start)) := by
    apply overwrite_congr
    intro i hi
    rw [bytes i (by omega), if_pos hi]
  rw [own, store, overwrite_prefix_iff (by omega) (by decide)]
  constructor
  · intro same i hi after later
    have there := same i after hi
    rw [bytes i hi, if_neg (by omega), tailByte, if_neg (by omega)] at there
    exact there.symm
  · intro zeros i after hi
    rw [bytes i hi, if_neg (by omega), tailByte]
    split
    · rfl
    · exact (zeros i hi after (by omega)).symm

include laws transfers mapped_kept accepts refuses room in
theorem writeMemoryLoop_tail (w : World κ) (address : VirtAddr) {start : Nat} (more : start < data.length)
    (partly : data.length < start + 8) :
    (∃ k, writeMemoryLoop P address data start w = .ok () { w with kernel := k } ∧
        mem k = overwrite (mem w.kernel) (address + BitVec.ofNat 64 start) (data.length - start)
          fun i => data.getD (start + i) 0) ↔
      TailFits (mapped w.kernel) (readable w.kernel) (mem w.kernel)
        (address + BitVec.ofNat 64 start) (data.length - start) := by
  have ends : ∀ t : World κ, writeMemoryLoop P address data (start + 8) t = .ok () t := by
    intro t
    rw [writeMemoryLoop, if_neg (by omega)]
    rfl
  by_cases begins : received (readable w.kernel) (address + BitVec.ofNat 64 start) 8 = 0
  · obtain ⟨e, t, refused⟩ := nextWord_refused transfers partly begins
    refine iff_of_false (fun written => ?_) fun fits => fits.begins begins
    obtain ⟨k, done, _⟩ := written
    rw [writeMemoryLoop, if_pos more, bind_error refused] at done
    cases done
  · have word := nextWord_tail transfers room partly begins
    have mem_kept := laws.processVmReadv_mem
      (remoteDescs (address + BitVec.ofNat 64 start) 8) w.kernel
    have kept := mapped_kept.processVmReadv
      (remoteDescs (address + BitVec.ofNat 64 start) 8) w.kernel
    rw [writeMemoryLoop, if_pos more, bind_ok word]
    by_cases there : ∀ i < 8, mapped w.kernel (address + BitVec.ofNat 64 start + BitVec.ofNat 64 i)
    · obtain ⟨k, poke⟩ := accepts _ (tailWord (mem w.kernel) (address + BitVec.ofNat 64 start)
        (received (readable w.kernel) (address + BitVec.ofNat 64 start) 8) data start) _
        fun i hi => (kept _).2 (there i hi)
      have stored := laws.pokeData_stored _ _ _ _ _ poke
      rw [mem_kept] at stored
      rw [bind_ok (orSendErrno_ok poke), ends]
      constructor
      · intro written
        obtain ⟨k', done, memory⟩ := written
        cases done
        rw [stored, store_tailWord partly] at memory
        exact ⟨there, begins, memory⟩
      · intro fits
        exact ⟨k, rfl, stored.trans ((store_tailWord partly).2 fits.zeros)⟩
    · obtain ⟨e, k, poke⟩ := refuses _ (tailWord (mem w.kernel) (address + BitVec.ofNat 64 start)
        (received (readable w.kernel) (address + BitVec.ofNat 64 start) 8) data start) _
        fun all => there fun i hi => (kept _).1 (all i hi)
      refine iff_of_false (fun written => ?_) fun fits => there fits.mapped
      obtain ⟨k', done, _⟩ := written
      rw [bind_error (orSendErrno_error poke)] at done
      cases done

end Tail

/-- `write_memory` returns, the data is in memory then, and nothing else has changed. -/
def WritesTarget (P : Platform κ) (mem : κ → Memory) (w : World κ) (address : VirtAddr)
    (data : List Byte) : Prop :=
  ∃ k, writeMemory P address data w = .ok () { w with kernel := k } ∧
    (∀ i, ∀ hi : i < data.length, mem k (address + BitVec.ofNat 64 i) = data[i]) ∧
    ∀ x, (∀ i < data.length, x ≠ address + BitVec.ofNat 64 i) → mem k x = mem w.kernel x

section Target

variable {w : World κ} {address : VirtAddr} {data : List Byte}

theorem writesTarget_eq (fits : data.length ≤ 2 ^ 64) :
    WritesTarget P mem w address data ↔
      ∃ k, writeMemoryLoop P address data 0 w = .ok () { w with kernel := k } ∧
        mem k = written (mem w.kernel) address data :=
  exists_congr fun _ => and_congr_right fun _ => (eq_written_iff fits).symm

/-- The data up to the last word, and then the rest of it. -/
theorem written_words {m : Memory} (fits : data.length ≤ 2 ^ 64) :
    written m address data =
      overwrite (overwrite m address (wholeSpan data.length) fun i => data.getD i 0)
        (address + BitVec.ofNat 64 (wholeSpan data.length)) (data.length - wholeSpan data.length)
        fun i => data.getD (wholeSpan data.length + i) 0 := by
  have within : wholeSpan data.length ≤ data.length := Nat.mul_div_le _ _
  rw [overwrite_append _ _ _ _ (by omega), written, Nat.add_sub_cancel' within]
  apply overwrite_congr
  intro i hi
  split
  · rfl
  · congr 1
    omega

/-- Where every byte of the target is mapped, a write does its work exactly if the data fills
whole words or the last word fits. -/
theorem writesTarget_iff [∀ k, DecidablePred (readable k)] (laws : MemoryLaws P.toKernel mem)
    (transfers : TransfersPrefix P.toKernel mem readable)
    (mapped_kept : MappingLaws P.toKernel mapped) (readable_kept : MappingLaws P.toKernel readable)
    (accepts : AcceptsPokes P.toKernel mapped) (refuses : RefusesPokes P.toKernel mapped)
    (room : P.canAllocate 8 = true) (fits : data.length ≤ maxSize 1)
    (range : ∀ i < data.length, mapped w.kernel (address + BitVec.ofNat 64 i)) :
    WritesTarget P mem w address data ↔ data.length % 8 = 0 ∨
      TailFits (mapped w.kernel) (readable w.kernel) (mem w.kernel)
        (address + BitVec.ofNat 64 (wholeSpan data.length))
        (data.length - wholeSpan data.length) := by
  have small : data.length ≤ 2 ^ 63 := fits.trans (by decide)
  obtain ⟨k, loop, memory, mapped_k, readable_k⟩ := writeMemoryLoop_words laws mapped_kept
    readable_kept accepts small 0 rfl (Nat.zero_le _) range
  have words : mem k = overwrite (mem w.kernel) address (wholeSpan data.length)
      fun i => data.getD i 0 := by
    simpa using memory
  rw [writesTarget_eq (by omega), written_words (by omega), loop]
  by_cases whole : data.length % 8 = 0
  · have all : data.length = wholeSpan data.length := by
      unfold wholeSpan
      omega
    refine iff_of_true ⟨k, ?_, ?_⟩ (.inl whole)
    · rw [writeMemoryLoop, if_neg (by omega)]
      rfl
    · rw [← all, Nat.sub_self, overwrite_zero, words, ← all]
  · have more : wholeSpan data.length < data.length := by
      unfold wholeSpan
      omega
    have partly : data.length < wholeSpan data.length + 8 := by
      unfold wholeSpan
      omega
    have tail := writeMemoryLoop_tail laws transfers mapped_kept accepts refuses room
      { w with kernel := k } address more partly
    have bytes : ∀ i < 8,
        mem k (address + BitVec.ofNat 64 (wholeSpan data.length) + BitVec.ofNat 64 i) =
          mem w.kernel (address + BitVec.ofNat 64 (wholeSpan data.length) + BitVec.ofNat 64 i) := by
      intro i hi
      rw [words, add_ofNat_assoc]
      refine overwrite_of_le ?_
      rw [distance_add address (by omega)]
      omega
    rw [or_iff_right whole, ← words]
    refine tail.trans ⟨fun fits => ?_, fun fits => ?_⟩
    · exact fits.congr (fun x => (mapped_k x).symm) (fun x => (readable_k x).symm)
        fun i hi => (bytes i hi).symm
    · exact fits.congr mapped_k readable_k bytes

end Target

/-- Ten bytes, the last word of which ends where the mapping ends. -/
theorem writesTarget_iff_wordMapped :
    WritesTarget pagedPlatform Scripted.memory (pagedWorld 0x2000) 0x1ff0
      [1, 2, 3, 4, 5, 6, 7, 8, 9, 10] := by
  have all : received (Paged.Mapped (pagedWorld 0x2000).kernel) 0x1ff8 8 = 8 := by decide +kernel
  refine (writesTarget_iff Paged.memoryLaws Paged.transfersPrefix Paged.mappingLaws
    Paged.mappingLaws Paged.acceptsPokes Paged.refusesPokes rfl (by decide) (by decide)).2
    (.inr ⟨by decide, ?_, fun i hi _ later => ?_⟩)
  · change received (Paged.Mapped (pagedWorld 0x2000).kernel) 0x1ff8 8 ≠ 0
    omega
  · change received (Paged.Mapped (pagedWorld 0x2000).kernel) 0x1ff8 8 ≤ i at later
    omega

/-- The last byte before the end of the mapping cannot be written. -/
theorem not_writesTarget_lastByte :
    ¬ WritesTarget pagedPlatform Scripted.memory (pagedWorld 0x2000) 0x1fff [1] := by
  intro writes
  rcases (writesTarget_iff Paged.memoryLaws Paged.transfersPrefix Paged.mappingLaws
    Paged.mappingLaws Paged.acceptsPokes Paged.refusesPokes rfl (by decide) (by decide)).1 writes
    with whole | fits
  · exact absurd whole (by decide)
  · exact absurd (fits.mapped 1 (by decide)) (by decide)

end SdbDebugger
