import SdbDebugger.MemoryReads
import SdbDebugger.PagedKernel

/-! `write_memory`: whole words are poked, and the last one is completed with what is read
back from memory. -/

namespace SdbDebugger
open EffectRules ByteSpace

variable {κ : Type} {P : Platform κ} {mem : κ → Memory} {readable : κ → VirtAddr → Prop}

/-- Memory with the user's bytes in place. -/
def written (m : Memory) (address : VirtAddr) (data : List Byte) : Memory :=
  overwrite m address data.length fun i => data.getD i 0

theorem cells_written (m : Memory) (address : VirtAddr) {data : List Byte}
    (fits : data.length ≤ 2 ^ 64) : cells (written m address data) address data.length = data := by
  apply List.ext_getElem?
  intro i
  by_cases hi : i < data.length
  · rw [getElem?_cells hi, written, overwrite_add hi (by omega)]
    simp [hi]
  · rw [List.getElem?_eq_none (by simp; omega), List.getElem?_eq_none (by omega)]

/-- The number of bytes that `write_memory` touches: whole words. -/
def wordSpan (n : Nat) : Nat := 8 * ((n + 7) / 8)

section Loop

variable {address : VirtAddr} {data : List Byte}

/-- The word for `start` puts the rest of the data, or eight bytes of it, in memory. -/
theorem wp_nextWord (laws : MemoryLaws P.toKernel mem)
    (transfers : TransfersReadable P.toKernel mem readable)
    (mapping : MappingLaws P.toKernel readable) (room : P.canAllocate 8 = true) {start : Nat}
    {w : World κ}
    (range : ∀ i < 8, readable w.kernel (address + BitVec.ofNat 64 start + BitVec.ofNat 64 i)) :
    wp (nextWord P address data start)
      (fun word t => ∃ k, t = { w with kernel := k } ∧ mem k = mem w.kernel ∧
        (∀ x, readable k x ↔ readable w.kernel x) ∧
        store (mem w.kernel) (address + BitVec.ofNat 64 start) 8 word =
          overwrite (mem w.kernel) (address + BitVec.ofNat 64 start) (min 8 (data.length - start))
            fun i => data.getD (start + i) 0)
      (fun _ _ => False) w := by
  unfold nextWord
  rw [wp_ite]
  split
  · next whole =>
    refine ⟨w.kernel, rfl, rfl, fun _ => Iff.rfl, ?_⟩
    rw [Nat.min_eq_left whole]
    exact overwrite_congr fun i hi => byteOf_ofBytes _ hi
  · next partly =>
    have few : min 8 (data.length - start) = data.length - start := Nat.min_eq_right (by omega)
    rw [wp_bind, wp_of_ok (readMemory_eq transfers (by decide) room range)]
    refine ⟨_, rfl, laws.processVmReadv_mem _ _, mapping.processVmReadv _ _, ?_⟩
    rw [few, store, overwrite_prefix (k := data.length - start) (by omega)]
    · apply overwrite_congr
      intro i hi
      rw [byteOf_ofBytes _ (by omega), if_pos hi]
    · intro i tail inside
      rw [byteOf_ofBytes _ inside, if_neg (by omega), List.getD_eq_getElem?_getD,
        getElem?_cells inside, Option.getD_some]

/-- The loop raises only if a poke in the range is refused. -/
theorem wp_writeMemoryLoop (laws : MemoryLaws P.toKernel mem)
    (transfers : TransfersReadable P.toKernel mem readable)
    (mapping : MappingLaws P.toKernel readable) (room : P.canAllocate 8 = true)
    (fits : data.length ≤ 2 ^ 63) (start : Nat) (words : start % 8 = 0) (w : World κ)
    (range : ∀ i < wordSpan data.length, readable w.kernel (address + BitVec.ofNat 64 i))
    {E : Prop} (refusal : ∀ a v k e k', (∀ i < 8, readable k (a + BitVec.ofNat 64 i)) →
      P.pokeData a v k = (.error e, k') → E) :
    wp (writeMemoryLoop P address data start)
      (fun _ t => ∃ k, t = { w with kernel := k } ∧
        (∀ x, readable k x ↔ readable w.kernel x) ∧
        mem k = overwrite (mem w.kernel) (address + BitVec.ofNat 64 start) (data.length - start)
          fun i => data.getD (start + i) 0)
      (fun _ _ => E) w := by
  induction start using writeMemoryLoop.induct data generalizing w with
  | case1 start more ih =>
    have here : ∀ i < 8,
        readable w.kernel (address + BitVec.ofNat 64 start + BitVec.ofNat 64 i) := by
      intro i hi
      rw [add_ofNat_assoc]
      exact range _ (by unfold wordSpan; omega)
    rw [writeMemoryLoop, if_pos more]
    simp only [wp_bind, wp_orSendErrno]
    refine (wp_nextWord laws transfers mapping room here).mono ?_ fun _ _ impossible =>
      impossible.elim
    intro word t done
    obtain ⟨k, rfl, same, readable_k, stored⟩ := done
    refine ⟨fun u k' poke => ?_, fun e k' poke =>
      refusal _ _ _ e k' (fun i hi => (readable_k _).2 (here i hi)) poke⟩
    have poked := laws.pokeData_stored _ _ _ _ _ poke
    have readable_k' : ∀ x, readable k' x ↔ readable w.kernel x := by
      intro x
      have kept := mapping.pokeData (address + BitVec.ofNat 64 start) word k x
      rw [poke] at kept
      exact kept.trans (readable_k x)
    rw [same, stored] at poked
    refine (ih (by omega) { w with kernel := k' }
      (fun i hi => (readable_k' _).2 (range i hi))).mono ?_ fun _ _ failed => failed
    intro _ t rest
    obtain ⟨k'', rfl, readable_k'', memory⟩ := rest
    refine ⟨k'', rfl, fun x => (readable_k'' x).trans (readable_k' x), ?_⟩
    rw [memory]
    change overwrite (mem k') _ _ _ = _
    rw [poked]
    by_cases whole : 8 ≤ data.length - start
    · rw [Nat.min_eq_left whole]
      exact overwrite_step _ _ (fun i => data.getD i 0) (by omega) (by omega)
    · have last : data.length - (start + 8) = 0 := by omega
      rw [Nat.min_eq_right (by omega), last, overwrite_zero]
  | case2 start done =>
    have nothing : data.length - start = 0 := by omega
    rw [writeMemoryLoop, if_neg done, nothing]
    exact ⟨w.kernel, rfl, fun _ => Iff.rfl, rfl⟩

/-- What the environment grants a write and the masked read after it. -/
structure WriteEnvironment (P : Platform κ) (readable : κ → VirtAddr → Prop) (w : World κ)
    (address : VirtAddr) (data : List Byte) : Prop where
  fits : data.length ≤ maxSize 1
  room : P.canAllocate data.length = true
  wordRoom : P.canAllocate 8 = true
  range : ∀ i < wordSpan data.length, readable w.kernel (address + BitVec.ofNat 64 i)

instance [∀ k a, Decidable (readable k a)] (w : World κ) (address : VirtAddr) (data : List Byte) :
    Decidable (WriteEnvironment P readable w address data) :=
  decidable_of_iff (data.length ≤ maxSize 1 ∧ P.canAllocate data.length = true ∧
      P.canAllocate 8 = true ∧
      ∀ i < wordSpan data.length, readable w.kernel (address + BitVec.ofNat 64 i))
    ⟨fun h => ⟨h.1, h.2.1, h.2.2.1, h.2.2.2⟩, fun h => ⟨h.fits, h.room, h.wordRoom, h.range⟩⟩

theorem writeMemory_eq (laws : MemoryLaws P.toKernel mem)
    (transfers : TransfersReadable P.toKernel mem readable)
    (mapping : MappingLaws P.toKernel readable) {w t : World κ}
    (env : WriteEnvironment P readable w address data)
    (done : writeMemory P address data w = .ok () t) :
    t.breakpointSites = w.breakpointSites ∧ mem t.kernel = written (mem w.kernel) address data ∧
      ReadsRange P mem t address data.length := by
  have fits : data.length ≤ 2 ^ 63 := env.fits.trans (by decide)
  have run := wp_writeMemoryLoop laws transfers mapping env.wordRoom fits 0 rfl w env.range
    (E := True) fun _ _ _ _ _ _ _ => trivial
  obtain ⟨k, rfl, readable_k, memory⟩ := (wp_of_ok done _ _).1 run
  refine ⟨rfl, ?_, readMemory_of_readable laws transfers env.fits env.room fun i hi => ?_⟩
  · change mem k = _
    simpa [written] using memory
  · exact (readable_k _).2 (env.range i (by unfold wordSpan; omega))

end Loop

/-! ### What a write leaves -/

section Written

variable {m : Memory} {address : VirtAddr} {data : List Byte}

theorem written_at {i : Nat} (hi : i < data.length) (fits : data.length ≤ 2 ^ 64) :
    written m address data (address + BitVec.ofNat 64 i) = data[i] := by
  rw [written, overwrite_add hi (by omega), List.getD_eq_getElem?_getD, List.getElem?_eq_getElem hi,
    Option.getD_some]

theorem written_elsewhere {x : VirtAddr}
    (apart : ∀ i < data.length, x ≠ address + BitVec.ofNat 64 i) : written m address data x = m x := by
  refine overwrite_of_le (not_lt.1 fun inside => apart _ inside ?_)
  rw [add_distance]

/-- The data is in place, and nothing else is different. -/
theorem eq_written_iff {m' : Memory} (fits : data.length ≤ 2 ^ 64) :
    m' = written m address data ↔
      (∀ i, ∀ hi : i < data.length, m' (address + BitVec.ofNat 64 i) = data[i]) ∧
      ∀ x, (∀ i < data.length, x ≠ address + BitVec.ofNat 64 i) → m' x = m x := by
  constructor
  · intro same
    rw [same]
    exact ⟨fun i hi => written_at hi fits, fun x apart => written_elsewhere apart⟩
  · intro both
    obtain ⟨stored, kept⟩ := both
    funext x
    by_cases inside : (x - address).toNat < data.length
    · have there := stored _ inside
      rw [← written_at (m := m) inside fits, add_distance] at there
      exact there
    · have apart : ∀ i < data.length, x ≠ address + BitVec.ofNat 64 i := by
        rintro i hi rfl
        rw [distance_add address (by omega)] at inside
        exact inside hi
      rw [kept x apart, written_elsewhere apart]

/-- Writing one list after another writes them both. -/
theorem written_append {d1 d2 : List Byte} (fits : d1.length + d2.length ≤ 2 ^ 64) :
    written (written m address d1) (address + BitVec.ofNat 64 d1.length) d2 =
      written m address (d1 ++ d2) := by
  rw [written, written, written, overwrite_append _ _ _ _ fits, List.length_append]
  apply overwrite_congr
  intro i hi
  simp only [List.getD_eq_getElem?_getD, List.getElem?_append]
  split
  · rfl
  · rfl

end Written

section Exact

variable {accessible : κ → VirtAddr → Prop} {w : World κ} {address : VirtAddr} {data : List Byte}
  (laws : MemoryLaws P.toKernel mem) (transfers : TransfersReadable P.toKernel mem accessible)
  (mapping : MappingLaws P.toKernel accessible) (accepts : AcceptsPokes P.toKernel accessible)
include laws transfers mapping accepts

/-- A write to accessible words returns, and its bytes are all that changes. -/
theorem writeMemory_ok (w : World κ) (address : VirtAddr) (data : List Byte)
    (fits : data.length ≤ maxSize 1) (wordRoom : P.canAllocate 8 = true)
    (range : ∀ i < wordSpan data.length, accessible w.kernel (address + BitVec.ofNat 64 i)) :
    ∃ k, writeMemory P address data w = .ok () { w with kernel := k } ∧
      mem k = written (mem w.kernel) address data ∧
      ∀ x, accessible k x ↔ accessible w.kernel x := by
  have loop := wp_writeMemoryLoop laws transfers mapping wordRoom (fits.trans (by decide)) 0 rfl w
    range (E := False) fun a v k e k' inside poke => by
      obtain ⟨k'', accepted⟩ := accepts a v k inside
      cases accepted.symm.trans poke
  obtain ⟨_, t, done, k, rfl, accessible_k, memory⟩ := exists_ok_of_wp loop
  refine ⟨k, done, ?_, accessible_k⟩
  simpa [written] using memory

/-- Two writes in a row are one, where the words of the second are accessible as well. -/
theorem writeMemory_twice (w : World κ) (address : VirtAddr) (d1 d2 : List Byte)
    (fits : (d1 ++ d2).length ≤ maxSize 1) (wordRoom : P.canAllocate 8 = true)
    (range : ∀ i < wordSpan d1.length, accessible w.kernel (address + BitVec.ofNat 64 i))
    (range' : ∀ i < wordSpan d2.length,
      accessible w.kernel (address + BitVec.ofNat 64 d1.length + BitVec.ofNat 64 i)) :
    ∃ k, (do
        writeMemory P address d1
        writeMemory P (address + BitVec.ofNat 64 d1.length) d2 : Sdb κ Unit) w =
          .ok () { w with kernel := k } ∧
      mem k = written (mem w.kernel) address (d1 ++ d2) := by
  rw [List.length_append] at fits
  obtain ⟨k, first, memory, accessible_k⟩ := writeMemory_ok laws transfers mapping accepts w
    address d1 (by omega) wordRoom range
  obtain ⟨k', second, memory', _⟩ := writeMemory_ok laws transfers mapping accepts
    { w with kernel := k } (address + BitVec.ofNat 64 d1.length) d2 (by omega) wordRoom
    fun i hi => (accessible_k _).2 (range' i hi)
  refine ⟨k', (bind_ok first _).trans second, ?_⟩
  have both : d1.length + d2.length ≤ 2 ^ 64 := fits.trans (by decide)
  rw [← written_append both, ← memory]
  exact memory'

/-- `write_memory` to words that are accessible returns; the data is in memory then, nothing
else has changed, and `read_memory` returns it. The data may as well be written in two parts. -/
theorem writeMemory_exact (env : WriteEnvironment P accessible w address data) :
    ∃ k, writeMemory P address data w = .ok () { w with kernel := k } ∧
      (∀ i, ∀ hi : i < data.length, mem k (address + BitVec.ofNat 64 i) = data[i]) ∧
      (∀ x, (∀ i < data.length, x ≠ address + BitVec.ofNat 64 i) → mem k x = mem w.kernel x) ∧
      (∃ k', readMemory P address data.length { w with kernel := k } =
        .ok data { w with kernel := k' } ∧ mem k' = mem k) ∧
      ∀ d1 d2, data = d1 ++ d2 → (∀ i < wordSpan d2.length,
          accessible w.kernel (address + BitVec.ofNat 64 d1.length + BitVec.ofNat 64 i)) →
        ∃ k', (do
            writeMemory P address d1
            writeMemory P (address + BitVec.ofNat 64 d1.length) d2 : Sdb κ Unit) w =
              .ok () { w with kernel := k' } ∧ mem k' = mem k := by
  have small : data.length ≤ 2 ^ 64 := env.fits.trans (by decide)
  obtain ⟨k, done, memory, accessible_k⟩ := writeMemory_ok laws transfers mapping accepts w
    address data env.fits env.wordRoom env.range
  obtain ⟨stored, kept⟩ := (eq_written_iff small).1 memory
  refine ⟨k, done, stored, kept, ?_, fun d1 d2 parts range' => ?_⟩
  · have range : ∀ i < data.length, accessible k (address + BitVec.ofNat 64 i) := fun i hi =>
      (accessible_k _).2 (env.range i (by unfold wordSpan; omega))
    obtain ⟨k', same, read⟩ := readMemory_of_readable (w := { w with kernel := k }) laws transfers
      env.fits env.room range
    refine ⟨k', ?_, same⟩
    rw [read]
    change EStateM.Result.ok (cells (mem k) address data.length) _ = _
    rw [memory, cells_written _ _ small]
  · subst parts
    have range : ∀ i < wordSpan d1.length,
        accessible w.kernel (address + BitVec.ofNat 64 i) := by
      intro i hi
      refine env.range i ?_
      unfold wordSpan at hi ⊢
      rw [List.length_append]
      omega
    obtain ⟨k', twice, memory'⟩ := writeMemory_twice laws transfers mapping accepts w address d1 d2
      env.fits env.wordRoom range range'
    exact ⟨k', twice, memory'.trans memory.symm⟩

end Exact

/-- Five bytes over the end of a page. -/
theorem writeMemory_exact_acrossPages :
    ∃ k, writeMemory pagedPlatform 0x1ffd [1, 2, 3, 4, 5] (pagedWorld 0x3000) =
        .ok () { pagedWorld 0x3000 with kernel := k } ∧
      k.memory 0x2001 = 5 ∧ k.memory 0x2002 = 2 := by
  have env : WriteEnvironment pagedPlatform Paged.Mapped (pagedWorld 0x3000) 0x1ffd
      [1, 2, 3, 4, 5] := ⟨by decide, rfl, rfl, by decide⟩
  obtain ⟨k, done, stored, kept, _⟩ := writeMemory_exact Paged.memoryLaws
    Paged.transfersPrefix.transfersReadable Paged.mappingLaws Paged.acceptsPokes env
  exact ⟨k, done, stored 4 (by decide), kept 0x2002 (by decide)⟩

end SdbDebugger
