import SdbDebugger.Disassembler
import SdbDebugger.StopErrors
import SdbDebugger.ScriptedKernel
import SdbDebugger.TrapRuns

/-! The buffer of `disassemble`. Fifteen bytes for every instruction are enough for as many
instructions, whatever their lengths are. -/

namespace SdbDebugger
open EffectRules ByteSpace Exceptions

/-- The decoder: instructions of one to fifteen bytes, all of which it has been given, and which
do not depend on what is after the fifteenth byte. -/
structure WindowDecoder (L : Libraries) : Prop where
  length : ∀ address bytes n text, L.disassembleATT address bytes = some (n, text) →
    1 ≤ n ∧ n ≤ 15 ∧ n ≤ bytes.length
  window : ∀ address bytes bytes', bytes.take 15 = bytes'.take 15 →
    L.disassembleATT address bytes = L.disassembleATT address bytes'

/-- The bytes from `code.data() + offset` on, `code.size() - offset` of them. -/
def windowAt (code : List Byte) (offset : Nat) : Except Fault (List Byte) :=
  if offset ≤ code.length then .ok (code.drop offset)
  else .error (.undefinedBehaviour "read past the end of the buffer")

section Loops

variable {κ : Type} (P : Platform κ) (L : Libraries)

/-- The loop of `disassemble`, with its offset into the buffer. The decoder is called once more
before the count is looked at. -/
def decodeFrom (code : List Byte) : Nat → VirtAddr → Nat → Except Fault (List Instruction)
  | 0, _, offset => (fun _ => []) <$> windowAt code offset
  | n + 1, address, offset => do
    let window ← windowAt code offset
    match L.disassembleATT address window with
    | none => pure []
    | some (length, text) =>
      (⟨address, text⟩ :: ·) <$>
        decodeFrom code n (address + BitVec.ofNat 64 length) (offset + length)

/-- `disassemble`, with the accesses to its buffer. -/
def disassembleBuffer (nInstructions : Nat) (address : Option VirtAddr) :
    Sdb κ (List Instruction) := do
  newVector P sizeofInstruction nInstructions
  let address ← match address with
    | some address => pure address
    | none => getPc
  let code ← readMemoryWithoutTraps P address (nInstructions * 15 % 2 ^ 64)
  liftFault (decodeFrom L code nInstructions address 0)

/-- The instructions in memory from an address on, up to `n` and up to the first failure. Each is
decoded from as many bytes as `reach` says; memory does not end. -/
def decodeMemory (memory : VirtAddr → Byte) (reach : Nat) : Nat → VirtAddr → List Instruction
  | 0, _ => []
  | n + 1, address =>
    match L.disassembleATT address (cells memory address reach) with
    | none => []
    | some (length, text) =>
      ⟨address, text⟩ :: decodeMemory memory reach n (address + BitVec.ofNat 64 length)

end Loops

section Decoding

variable {L : Libraries} (law : WindowDecoder L) (memory : VirtAddr → Byte) {reach : Nat}

theorem cells_drop (address : VirtAddr) {offset total : Nat}
    (inside : offset ≤ total) : (cells memory address total).drop offset =
      cells memory (address + BitVec.ofNat 64 offset) (total - offset) := by
  have split := cells_append memory address offset (total - offset)
  rw [Nat.add_sub_cancel' inside] at split
  rw [← split]
  exact List.drop_left' (length_cells ..)

theorem cells_take (address : VirtAddr) {n total : Nat}
    (inside : n ≤ total) : (cells memory address total).take n = cells memory address n := by
  have split := cells_append memory address n (total - n)
  rw [Nat.add_sub_cancel' inside] at split
  rw [← split]
  exact List.take_left' (length_cells ..)

include law

/-- More than fifteen bytes make no difference. -/
theorem WindowDecoder.cells_eq (address : VirtAddr) {m n : Nat} (some : 15 ≤ m) (others : 15 ≤ n) :
    L.disassembleATT address (cells memory address m) =
      L.disassembleATT address (cells memory address n) := by
  refine law.window address _ _ ?_
  rw [cells_take memory address some, cells_take memory address others]

omit law in
theorem windowAt_cells (start : VirtAddr) {total offset : Nat}
    (inside : offset ≤ total) : windowAt (cells memory start total) offset =
      .ok (cells memory (start + BitVec.ofNat 64 offset) (total - offset)) := by
  rw [windowAt, length_cells, if_pos inside, cells_drop memory start inside]

/-- The loop keeps fifteen bytes for every instruction that is still to come. -/
theorem decodeFrom_cells (enough : 15 ≤ reach) (start : VirtAddr) {total n offset : Nat}
    (left : offset + 15 * n ≤ total) :
    decodeFrom L (cells memory start total) n (start + BitVec.ofNat 64 offset) offset =
      .ok (decodeMemory L memory reach n (start + BitVec.ofNat 64 offset)) := by
  induction n generalizing offset with
  | zero =>
    rw [decodeFrom, windowAt_cells memory start (by omega)]
    rfl
  | succ n ih =>
    have window : 15 ≤ total - offset := by omega
    have same := law.cells_eq memory (start + BitVec.ofNat 64 offset) window enough
    rw [decodeFrom, windowAt_cells memory start (by omega), decodeMemory]
    dsimp only [bind, Except.bind]
    rw [same]
    cases decoded : L.disassembleATT (start + BitVec.ofNat 64 offset)
        (cells memory (start + BitVec.ofNat 64 offset) reach) with
    | none => rfl
    | some instr =>
      obtain ⟨length, text⟩ := instr
      obtain ⟨_, short, _⟩ := law.length _ _ _ _ decoded
      have next := add_ofNat_assoc start offset length
      dsimp only
      rw [next, ih (by omega)]
      rfl

/-- The offset stays inside any buffer, so that the loop is the one on what is left of it. -/
theorem decodeFrom_eq_loop {code : List Byte} {n offset : Nat} (address : VirtAddr)
    (inside : offset ≤ code.length) : decodeFrom L code n address offset =
      .ok (disassembleLoop L n address (code.drop offset)) := by
  have window : ∀ offset ≤ code.length, windowAt code offset = .ok (code.drop offset) :=
    fun _ inside => if_pos inside
  induction n generalizing address offset with
  | zero =>
    rw [decodeFrom, window offset inside]
    rfl
  | succ n ih =>
    rw [decodeFrom, window offset inside, disassembleLoop]
    dsimp only [bind, Except.bind]
    cases decoded : L.disassembleATT address (code.drop offset) with
    | none => rfl
    | some instr =>
      obtain ⟨length, text⟩ := instr
      obtain ⟨_, _, given⟩ := law.length _ _ _ _ decoded
      rw [List.length_drop] at given
      dsimp only
      rw [ih _ (by omega), List.drop_drop]
      rfl

omit law in
/-- The first instruction is at the address, and each one starts where the one before ends. -/
theorem decodeMemory_addresses (n : Nat) (address : VirtAddr) :
    (∀ x, (decodeMemory L memory reach n address)[0]? = some x → x.address = address) ∧
      ∀ i x y, (decodeMemory L memory reach n address)[i]? = some x →
        (decodeMemory L memory reach n address)[i + 1]? = some y → ∃ length,
          L.disassembleATT x.address (cells memory x.address reach) = some (length, x.text) ∧
            y.address = x.address + BitVec.ofNat 64 length := by
  induction n generalizing address with
  | zero => simp [decodeMemory]
  | succ n ih =>
    rw [decodeMemory]
    cases decoded : L.disassembleATT address (cells memory address reach) with
    | none => exact ⟨fun x first => by simp at first, fun i x y here => by simp at here⟩
    | some instr =>
      obtain ⟨length, text⟩ := instr
      obtain ⟨first, later⟩ := ih (address + BitVec.ofNat 64 length)
      dsimp only
      refine ⟨fun x head => ?_, fun i x y here next => ?_⟩
      · cases head
        rfl
      · rw [List.getElem?_cons_succ] at next
        cases i with
        | zero =>
          cases here
          exact ⟨length, decoded, first y next⟩
        | succ i =>
          rw [List.getElem?_cons_succ] at here
          exact later i x y here next

end Decoding

section Disassemble

variable {κ : Type} {P : Platform κ} {L : Libraries} (law : WindowDecoder L)
include law

theorem disassemble_eq_buffer (n : Nat) (a : VirtAddr) :
    disassemble P L n (some a) = disassembleBuffer P L n (some a) := by
  have loop : ∀ address code, decodeFrom L code n address 0 =
      .ok (disassembleLoop L n address code) := fun address code =>
    decodeFrom_eq_loop law address (Nat.zero_le code.length)
  unfold disassemble disassembleBuffer
  simp only [loop, liftFault_ok]

/-- Once there is room for the instructions, what is read is decoded as the memory is. -/
theorem disassembleBuffer_of_reads {memory : VirtAddr → Byte} {reach n : Nat} {a : VirtAddr}
    (enough : 15 ≤ reach) (fits : 15 * n < 2 ^ 64) {w w' : World κ}
    (reads : readMemoryWithoutTraps P a (15 * n) w = .ok (cells memory a (15 * n)) w')
    (possible : ¬ Unallocatable P sizeofInstruction n) :
    disassembleBuffer P L n (some a) w = .ok (decodeMemory L memory reach n a) w' := by
  have amount : n * 15 % 2 ^ 64 = 15 * n := by omega
  have start : a + BitVec.ofNat 64 0 = a := BitVec.add_zero a
  have left : 0 + 15 * n ≤ 15 * n := by omega
  have decoded := decodeFrom_cells law memory enough a left
  rw [start] at decoded
  have read : (readMemoryWithoutTraps P a (n * 15 % 2 ^ 64) >>= fun code =>
      liftFault (decodeFrom L code n a 0)) w = .ok (decodeMemory L memory reach n a) w' := by
    rw [amount, bind_ok reads, decoded]
    rfl
  exact (bind_ok (newVector_ok possible w) _).trans read

end Disassemble

/-- `disassemble` of a range that can be read gives the instructions of the memory behind the
traps, however far the decoder may look. It can fail only for want of room for the instructions,
and no access to the buffer is undefined. -/
theorem disassemble_eq_decodeMemory {κ : Type} {P : Platform κ} {L : Libraries}
    (law : WindowDecoder L) (memory : VirtAddr → Byte) {reach n : Nat} {a : VirtAddr}
    (enough : 15 ≤ reach) (fits : 15 * n < 2 ^ 64) {w w' : World κ}
    (reads : readMemoryWithoutTraps P a (15 * n) w = .ok (cells memory a (15 * n)) w') :
    (disassembleBuffer P L n (some a) w = .ok (decodeMemory L memory reach n a) w' ∨
      ∃ e, newVector P sizeofInstruction n w = .error e w ∧
        disassembleBuffer P L n (some a) w = .error e w) ∧
    disassemble P L n (some a) w = disassembleBuffer P L n (some a) w ∧
    (∀ x, (decodeMemory L memory reach n a)[0]? = some x → x.address = a) ∧
    ∀ i x y, (decodeMemory L memory reach n a)[i]? = some x →
      (decodeMemory L memory reach n a)[i + 1]? = some y → ∃ length,
        L.disassembleATT x.address (cells memory x.address reach) = some (length, x.text) ∧
          y.address = x.address + BitVec.ofNat 64 length := by
  refine ⟨?_, congrFun (disassemble_eq_buffer law n a) w, decodeMemory_addresses memory n a⟩
  by_cases possible : Unallocatable P sizeofInstruction n
  · obtain ⟨e, failed, _⟩ := newVector_error possible w
    exact .inr ⟨e, failed, bind_error failed _⟩
  · exact .inl (disassembleBuffer_of_reads law enough fits reads possible)

/-- Instructions of one byte, up to a return. -/
def nopLibraries : Libraries where
  disassembleATT _ bytes := bytes.head?.bind fun b => if b = 0xc3 then none else some (1, "nop")
  fromCharsDouble _ := ⟨0, none⟩
  fromCharsLongDouble _ := ⟨0, none⟩
  formatFloat _ := ""
  formatDouble _ := ""
  formatLongDouble _ := ""

theorem windowDecoder_nop : WindowDecoder nopLibraries where
  length address bytes n text decoded := by
    cases bytes with
    | nil => cases decoded
    | cons b rest =>
      change (if b = 0xc3 then none else some (1, "nop")) = some (n, text) at decoded
      split at decoded
      · cases decoded
      · cases decoded
        simp
  window address bytes bytes' same := by
    have heads : bytes.head? = bytes'.head? := by
      have first := congrArg List.head? same
      rw [List.head?_take, List.head?_take] at first
      exact first
    exact congrArg (fun head => Option.bind head fun b =>
      if b = 0xc3 then none else some (1, "nop")) heads

/-- The scripted memory holds 0xc1, 0xc2 and a return. -/
theorem disassemble_eq_decodeMemory_scripted :
    ∃ k, disassemble scriptedPlatform nopLibraries 3 (some 0x10c1) (scriptedWorld [] []) =
      .ok [⟨0x10c1, "nop"⟩, ⟨0x10c2, "nop"⟩] { scriptedWorld [] [] with kernel := k } := by
  have readable : ReadsRange scriptedPlatform Scripted.memory (scriptedWorld [] []) 0x10c1 (15 * 3) :=
    readMemory_of_readable Scripted.memoryLaws Scripted.transfersReadable (by decide) rfl
      fun _ _ => rfl
  have inv : TrapInvariant Scripted.memory (scriptedWorld [] []).kernel.memory
      (scriptedWorld [] []) := TrapInvariant.fresh rfl
  obtain ⟨k, _, reads⟩ := inv.readMemoryWithoutTraps_eq (by decide) readable
  obtain ⟨result, same, _⟩ := disassemble_eq_decodeMemory windowDecoder_nop _ (Nat.le_refl 15)
    (by decide) reads
  refine ⟨k, same.trans ?_⟩
  rcases result with listed | ⟨e, failed, _⟩
  · exact listed
  · cases failed

end SdbDebugger
