import SdbDebugger.ScriptedKernel

/-! The executable kernel with writes of registers among the requests it may refuse. -/

namespace SdbDebugger
open ByteSpace

def refusingPlatform : Platform Scripted :=
  { scriptedPlatform with
    pokeUser := fun off v =>
      Scripted.answer fun k => ((), { k with user := store k.user off 8 v })
    setFpRegs := fun fprs => Scripted.answer fun k => ((), k.putI387 fprs) }

namespace Refusing

theorem answer_memory {α : Type} {f : Scripted → α × Scripted}
    (same : ∀ k, (f k).2.memory = k.memory) (k : Scripted) :
    (Scripted.answer f k).2.memory = k.memory := by
  rcases Scripted.answer_cases f k with ⟨rest, run⟩ | ⟨rest, run⟩
  · rw [run]
  · rw [run]
    exact same _

theorem memoryLaws : MemoryLaws refusingPlatform.toKernel Scripted.memory where
  peekData_value := Scripted.memoryLaws.peekData_value
  peekData_mem := Scripted.memoryLaws.peekData_mem
  pokeData_stored := Scripted.memoryLaws.pokeData_stored
  peekUser_mem := Scripted.memoryLaws.peekUser_mem
  pokeUser_mem _ _ := answer_memory fun _ => rfl
  setFpRegs_mem _ := answer_memory fun _ => rfl
  processVmReadv_mem := Scripted.memoryLaws.processVmReadv_mem

theorem slotRequestLaws : SlotRequestLaws refusingPlatform.toKernel Scripted.debug where
  pokeUser_stored i slot v k u k' h j slot' := by
    have hi : i < 8 := by
      unfold SlotRegister at slot
      omega
    have hj : j < 8 := by
      unfold SlotRegister at slot'
      omega
    rcases Scripted.answer_cases
        (fun k => ((), { k with user := store k.user (debugOffset i) 8 v })) k with
      ⟨rest, run⟩ | ⟨rest, run⟩
    · cases run.symm.trans h
    · cases run.symm.trans h
      rw [Scripted.debug, if_pos hj, load_store_debug _ hi hj, Function.update_apply,
        Scripted.debug, if_pos hj]
  pokeUser_refused i slot v k e k' h := by
    rcases Scripted.answer_cases
        (fun k => ((), { k with user := store k.user (debugOffset i) 8 v })) k with
      ⟨rest, run⟩ | ⟨rest, run⟩
    · cases run.symm.trans h
      exact Scripted.slotsKept_of_user rfl
    · cases run.symm.trans h
  peekData_kept := Scripted.debugRegisterLaws.peekData_kept
  pokeData_kept := Scripted.debugRegisterLaws.pokeData_kept
  processVmReadv_kept := Scripted.debugRegisterLaws.processVmReadv_kept

end Refusing

end SdbDebugger
