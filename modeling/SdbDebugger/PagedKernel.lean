import SdbDebugger.ScriptedKernel

/-! The executable kernel with memory requests that heed the mapping: a word is peeked and poked
only if it is mapped throughout, and a transfer that finds nothing readable fails. -/

namespace SdbDebugger
open ByteSpace

namespace Scripted

def mappedWord (k : Scripted) (a : VirtAddr) : Bool :=
  (List.range 8).all fun i => k.mapped (a + BitVec.ofNat 64 i)

theorem mappedWord_iff {k : Scripted} {a : VirtAddr} :
    k.mappedWord a = true ↔ ∀ i < 8, k.mapped (a + BitVec.ofNat 64 i) = true := by
  simp [mappedWord]

/-- The first chunk of a request, if there is one, is mapped throughout. -/
def begins (k : Scripted) (iovs : List Iovec) : Bool :=
  iovs.head?.all fun iov => decide (iov.Whole fun x => k.mapped x = true)

theorem transfer_append (k : Scripted) {before after : List Iovec}
    (whole : ∀ iov ∈ before, iov.Whole fun x => k.mapped x = true)
    (stop : ∀ iov ∈ after.head?, ¬ iov.Whole fun x => k.mapped x = true) :
    k.transfer (before ++ after) =
      before.flatMap fun iov => cells k.memory iov.base iov.len := by
  have all_iff : ∀ iov : Iovec, (List.range iov.len).all
      (fun i => k.mapped (iov.base + BitVec.ofNat 64 i)) = true ↔
        iov.Whole fun x => k.mapped x = true := by
    intro iov
    simp [Iovec.Whole]
  induction before with
  | nil =>
    cases after with
    | nil => rfl
    | cons iov rest =>
      rw [List.nil_append, transfer, if_neg fun all => stop iov rfl ((all_iff iov).1 all)]
      rfl
  | cons iov rest ih =>
    rw [List.cons_append, transfer, if_pos ((all_iff iov).2 (whole iov List.mem_cons_self)),
      List.flatMap_cons, ih fun other member => whole other (List.mem_cons_of_mem iov member)]
    rfl

end Scripted

def pagedPlatform : Platform Scripted :=
  { scriptedPlatform with
    peekData := fun a k =>
      if k.mappedWord a then (.ok (load k.memory a 8), k) else (.error Scripted.eio, k)
    pokeData := fun a v k =>
      if k.mappedWord a then (.ok (), { k with memory := store k.memory a 8 v })
      else (.error Scripted.eio, k)
    processVmReadv := fun iovs k =>
      if k.begins iovs then (.ok (k.transfer iovs), k) else (.error Scripted.efault, k) }

/-- A launched process of which the addresses below `bound` are mapped. -/
def pagedWorld (bound : VirtAddr) : World Scripted :=
  { scriptedWorld [] [] with
    kernel := { (scriptedWorld [] []).kernel with mapped := fun a => decide (a < bound) } }

namespace Paged

def Mapped (k : Scripted) (a : VirtAddr) : Prop := k.mapped a = true

instance (k : Scripted) : DecidablePred (Mapped k) := fun a =>
  inferInstanceAs (Decidable (k.mapped a = true))

theorem memoryLaws : MemoryLaws pagedPlatform.toKernel Scripted.memory where
  peekData_value a k v k' h := by
    change (if _ then _ else _) = _ at h
    split at h
    · cases h
      rfl
    · cases h
  peekData_mem a k := by
    change Scripted.memory (if _ then _ else _ : Except Errno Word × Scripted).2 = _
    split
    · rfl
    · rfl
  pokeData_stored a v k u k' h := by
    change (if _ then _ else _) = _ at h
    split at h
    · cases h
      rfl
    · cases h
  peekUser_mem _ _ := rfl
  pokeUser_mem _ _ _ := rfl
  setFpRegs_mem _ _ := rfl
  processVmReadv_mem iovs k := by
    change Scripted.memory (if _ then _ else _ : Except Errno (List Byte) × Scripted).2 = _
    split
    · rfl
    · rfl

theorem keepsRefused : KeepsRefused pagedPlatform.toKernel Scripted.memory := by
  intro a v k e k' h
  change (if _ then _ else _) = _ at h
  split at h
  · cases h
  · cases h
    rfl

theorem mappingLaws : MappingLaws pagedPlatform.toKernel Mapped where
  pokeData a v k x := by
    change Mapped (if _ then _ else _ : Except Errno Unit × Scripted).2 x ↔ _
    split
    · exact Iff.rfl
    · exact Iff.rfl
  processVmReadv iovs k x := by
    change Mapped (if _ then _ else _ : Except Errno (List Byte) × Scripted).2 x ↔ _
    split
    · exact Iff.rfl
    · exact Iff.rfl

theorem acceptsPokes : AcceptsPokes pagedPlatform.toKernel Mapped := by
  intro a v k mapped
  exact ⟨_, if_pos (Scripted.mappedWord_iff.2 mapped)⟩

theorem refusesPokes : RefusesPokes pagedPlatform.toKernel Mapped := by
  intro a v k unmapped
  exact ⟨_, _, if_neg fun mapped => unmapped (Scripted.mappedWord_iff.1 mapped)⟩

theorem transfersPrefix : TransfersPrefix pagedPlatform.toKernel Scripted.memory Mapped where
  received k before after nonempty whole stop := by
    have starts : k.begins (before ++ after) = true := by
      cases before with
      | nil =>
        rw [nonempty rfl]
        rfl
      | cons iov rest => exact decide_eq_true (whole iov List.mem_cons_self)
    change (if _ then _ else _ : Except Errno (List Byte) × Scripted).1 = _
    rw [if_pos starts]
    exact congrArg Except.ok (k.transfer_append whole stop)
  refused k iov after torn := by
    refine ⟨Scripted.efault, ?_⟩
    have fails : ¬ k.begins (iov :: after) = true := fun starts => torn (of_decide_eq_true starts)
    change (if _ then _ else _ : Except Errno (List Byte) × Scripted).1 = _
    rw [if_neg fails]

end Paged

/-- Everything can be read, and what is mapped can be written. Of a word that can not be written
throughout, the bytes up to the first that can not are written. -/
def tornPlatform : Platform Scripted :=
  { scriptedPlatform with
    pokeData := fun a v k =>
      if k.mappedWord a then (.ok (), { k with memory := store k.memory a 8 v })
      else
        let written := ((List.range 8).takeWhile fun i => k.mapped (a + BitVec.ofNat 64 i)).length
        (.error Scripted.eio, { k with memory := overwrite k.memory a written (byteOf v) }) }

theorem Torn.memoryLaws : MemoryLaws tornPlatform.toKernel Scripted.memory where
  peekData_value := Scripted.memoryLaws.peekData_value
  peekData_mem := Scripted.memoryLaws.peekData_mem
  pokeData_stored a v k u k' h := by
    change (if _ then _ else _) = _ at h
    split at h
    · cases h
      rfl
    · cases h
  peekUser_mem := Scripted.memoryLaws.peekUser_mem
  pokeUser_mem := Scripted.memoryLaws.pokeUser_mem
  setFpRegs_mem := Scripted.memoryLaws.setFpRegs_mem
  processVmReadv_mem := Scripted.memoryLaws.processVmReadv_mem

end SdbDebugger
