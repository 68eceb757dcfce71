import SdbDebugger.CommandHazards
import SdbDebugger.MemoryReads

/-! What `memory read` prints. The number of bytes is kept in an `int` on its way from the
argument to `read_memory`. -/

namespace SdbDebugger
open EffectRules ByteSpace

/-- A printed row. -/
structure Row where
  label : VirtAddr
  bytes : List Byte
  deriving DecidableEq, Repr

def Row.text (row : Row) : String :=
  formatPadded 16 row.label.toNat ++ ": " ++
    join " " (row.bytes.map fun b => zeroPadded 2 b.toNat) ++ "\n"

/-- Rows of sixteen bytes that show `data`, the last of them with what is left. -/
structure Dump (address : VirtAddr) (data : List Byte) (rows : List Row) : Prop where
  bytes : rows.flatMap Row.bytes = data
  label : ∀ k row, rows[k]? = some row → row.label = address + BitVec.ofNat 64 (16 * k)
  full : ∀ row ∈ rows.dropLast, row.bytes.length = 16
  last : ∀ row ∈ rows, 1 ≤ row.bytes.length ∧ row.bytes.length ≤ 16

/-! ### The printing loop -/

section Rows

variable {address : VirtAddr} {data : List Byte} {rows : List Row}

theorem Dump.nil (address : VirtAddr) : Dump address [] [] where
  bytes := rfl
  label k row h := by
    rw [List.getElem?_nil] at h
    contradiction
  full row member := absurd member List.not_mem_nil
  last row member := absurd member List.not_mem_nil

theorem Dump.eq_nil (dump : Dump address [] rows) : rows = [] := by
  rw [List.eq_nil_iff_forall_not_mem]
  intro row member
  have empty := List.flatMap_eq_nil_iff.1 dump.bytes row member
  have some_byte := (dump.last row member).1
  rw [empty] at some_byte
  contradiction

/-- A row in front of the rows of the bytes behind it. -/
theorem Dump.cons {first : List Byte} (dump : Dump (address + 16) data rows)
    (some_byte : 1 ≤ first.length) (most : first.length ≤ 16)
    (only_last : first.length < 16 → data = []) :
    Dump address (first ++ data) (⟨address, first⟩ :: rows) where
  bytes := by rw [List.flatMap_cons, dump.bytes]
  label k row h := by
    cases k with
    | zero =>
      cases h
      exact (BitVec.add_zero address).symm
    | succ k =>
      rw [dump.label k row h, show address + 16 = address + BitVec.ofNat 64 16 from rfl,
        add_ofNat_assoc, add_comm 16]
      rfl
  full row member := by
    rcases rows with _ | ⟨second, rest⟩
    · exact absurd member List.not_mem_nil
    · rcases List.mem_cons.1 member with rfl | later
      · by_contra short
        have behind := only_last (Nat.lt_of_le_of_ne most short)
        subst behind
        cases dump.eq_nil
      · exact dump.full row later
  last row member := by
    rcases List.mem_cons.1 member with rfl | later
    · exact ⟨some_byte, most⟩
    · exact dump.last row later

theorem memoryRows_nil (address : VirtAddr) : memoryRows address [] = [] := by
  rw [memoryRows, if_pos rfl]

theorem memoryRows_cons (address : VirtAddr) (some_byte : data ≠ []) :
    memoryRows address data =
      Row.text ⟨address, data.take 16⟩ :: memoryRows (address + 16) (data.drop 16) := by
  rw [memoryRows, if_neg some_byte]
  rfl

theorem memoryRows_dump (address : VirtAddr) (data : List Byte) :
    ∃ rows, Dump address data rows ∧ memoryRows address data = rows.map Row.text := by
  induction address, data using memoryRows.induct with
  | case1 address => exact ⟨[], .nil address, memoryRows_nil address⟩
  | case2 address data some_byte ih =>
    obtain ⟨rows, dump, printed⟩ := ih
    have positive := List.length_pos_of_ne_nil some_byte
    have shown : Dump address (data.take 16 ++ data.drop 16) (⟨address, data.take 16⟩ :: rows) := by
      refine dump.cons ?_ ?_ fun short => ?_
      · rw [List.length_take]
        omega
      · rw [List.length_take]
        omega
      · rw [List.length_take] at short
        exact List.drop_eq_nil_of_le (by omega)
    rw [List.take_append_drop] at shown
    refine ⟨_, shown, ?_⟩
    rw [memoryRows_cons address some_byte, printed]
    rfl

end Rows

/-! ### The command -/

/-- A line that asks for `n` bytes from `a` on, 32 of them where it has no count. -/
inductive Asks (line : Text) (a : VirtAddr) (n : Nat) : Prop
  | intro (command verb address : Text) (counts : List Text)
      (words : split ' ' line = command :: verb :: address :: counts) (typed : command ≠ [])
      (memory : isPrefix command "memory" = true) (read : isPrefix verb "read" = true)
      (place : toIntegral .uint64 address 16 = .value a.toNat)
      (count : counts = [] ∧ n = 32 ∨ ∃ count, counts = [count] ∧
        toIntegral .uint64 count 10 = .value n)

section Command

variable {κ : Type} {P : Platform κ} {L : Libraries} {fuel : Nat} {line : Text} {a : VirtAddr}
  {n : Nat}

/-- A word with a letter is no prefix of two commands that begin differently. -/
theorem isPrefix_other {command : Text} {of : String} (other : String) (typed : command ≠ [])
    (begins : isPrefix command of = true) (differ : of.toList.head? ≠ other.toList.head?) :
    isPrefix command other = false := by
  obtain ⟨c, rest, rfl⟩ := List.exists_cons_of_ne_nil typed
  rw [Bool.eq_false_iff]
  intro both
  obtain ⟨s, hs⟩ := List.isPrefixOf_iff_prefix.1 begins
  obtain ⟨t, ht⟩ := List.isPrefixOf_iff_prefix.1 both
  rw [← hs, ← ht] at differ
  exact differ rfl

theorem handleCommand_memory {command : Text} {rest : List Text}
    (words : split ' ' line = command :: rest) (typed : command ≠ [])
    (memory : isPrefix command "memory" = true) :
    handleCommand P L fuel line = handleMemoryCommand P (command :: rest) := by
  have continues := isPrefix_other "continue" typed memory (by decide)
  have register := isPrefix_other "register" typed memory (by decide)
  have breakpoint := isPrefix_other "breakpoint" typed memory (by decide)
  have step := isPrefix_other "step" typed memory (by decide)
  rw [handleCommand, words]
  simp only [continues, register, breakpoint, step, memory, Bool.false_eq_true, if_false, if_true]

/-- The `int` is the number of bytes modulo `2 ^ 32`. -/
theorem Asks.nBytes (asked : Asks line a n) :
    bytesToRead (split ' ' line) = .ok (BitVec.ofNat 32 n) := by
  obtain ⟨_, _, _, _, words, _, _, _, _, ⟨rfl, rfl⟩ | ⟨count, rfl, number⟩⟩ := asked
  · rw [words]
    rfl
  · rw [words]
    change (if !(toIntegral .uint64 count 10).hasValue then _
      else BitVec.ofInt 32 <$> (toIntegral .uint64 count 10).deref) = _
    rw [number]
    change Except.ok (BitVec.ofInt 32 n) = _
    rw [BitVec.ofInt_natCast]

theorem handleMemoryReadCommand_value {args : List Text} {nBytes : BitVec 32}
    (place : toIntegral .uint64 (arg args 2) 16 = .value a.toNat)
    (number : bytesToRead args = .ok nBytes) :
    handleMemoryReadCommand P args = onProcess (readMemory P a (toSize nBytes)) >>= fun data =>
      print (String.join (memoryRows a data)) := by
  rw [handleMemoryReadCommand, place, number]
  change (onProcess (readMemory P (BitVec.ofInt 64 a.toNat) (toSize nBytes)) >>= fun data =>
    print (String.join (memoryRows (BitVec.ofInt 64 a.toNat) data))) = _
  rw [BitVec.ofInt_natCast, BitVec.ofNat_toNat, BitVec.setWidth_eq]

theorem Asks.command (asked : Asks line a n) : handleCommand P L fuel line =
    onProcess (readMemory P a (toSize (BitVec.ofNat 32 n))) >>= fun data =>
      print (String.join (memoryRows a data)) := by
  have nBytes := asked.nBytes
  obtain ⟨command, verb, address, counts, words, typed, memory, read, place, _⟩ := asked
  rw [words] at nBytes
  have long : ¬ (command :: verb :: address :: counts).length < 3 := by
    rw [List.length_cons, List.length_cons, List.length_cons]
    omega
  rw [handleCommand_memory words typed memory, handleMemoryCommand, if_neg long]
  change (if isPrefix verb "read" = true then _ else _) = _
  rw [if_pos read]
  exact handleMemoryReadCommand_value place nBytes

/-- The conversions to `int` and back keep what fits the type. -/
theorem toSize_ofNat_iff (addressable : n < 2 ^ 63) :
    toSize (BitVec.ofNat 32 n) = n ↔ n < 2 ^ 31 := by
  unfold toSize
  rw [BitVec.toNat_signExtend, BitVec.toNat_setWidth, BitVec.toNat_ofNat, BitVec.msb_eq_decide,
    BitVec.toNat_ofNat]
  split
  · next negative =>
    rw [decide_eq_true_iff] at negative
    omega
  · next positive =>
    rw [decide_eq_true_iff] at positive
    omega

end Command

/-! ### What is shown -/

/-- `read_memory` is asked for `n` bytes, and the bytes from `a` on are printed in rows. -/
structure ShowsRange {κ : Type} (P : Platform κ) (L : Libraries) (fuel : Nat) (mem : κ → Memory)
    (line : Text) (a : VirtAddr) (n : Nat) (d : Debugger κ) : Prop where
  asks : toSize <$> bytesToRead (split ' ' line) = .ok n
  shows : ∃ rows w', Dump a (cells (mem d.world.kernel) a n) rows ∧
    readMemory P a n d.world = .ok (cells (mem d.world.kernel) a n) w' ∧
    handleCommand P L fuel line d = .ok ()
      { d with world := w', out := d.out ++ [String.join (rows.map Row.text)] }

section Shown

variable {κ : Type} {P : Platform κ} {L : Libraries} {fuel : Nat} {mem : κ → Memory}
  {readable : κ → VirtAddr → Prop} {line : Text} {a : VirtAddr} {n : Nat} {d : Debugger κ}

theorem Asks.shows (asked : Asks line a n) (few : n < 2 ^ 31) {w' : World κ}
    (read : readMemory P a n d.world = .ok (cells (mem d.world.kernel) a n) w') :
    ShowsRange P L fuel mem line a n d := by
  have same : toSize (BitVec.ofNat 32 n) = n := (toSize_ofNat_iff (by omega)).2 few
  have command : handleCommand P L fuel line = _ := asked.command
  rw [same] at command
  obtain ⟨rows, dump, printed⟩ := memoryRows_dump a (cells (mem d.world.kernel) a n)
  refine ⟨?_, rows, w', dump, read, ?_⟩
  · rw [asked.nBytes]
    exact congrArg Except.ok same
  · rw [command, bind_ok (onProcess_ok read), printed]
    rfl

theorem ShowsRange.few (asked : Asks line a n) (shown : ShowsRange P L fuel mem line a n d) :
    n < 2 ^ 31 ∧ ¬ Unallocatable P 1 n := by
  obtain ⟨asks, rows, w', _, read, _⟩ := shown
  have possible : ¬ Unallocatable P 1 n := by
    intro impossible
    obtain ⟨e, k, raised, _⟩ := readMemory_error (P := P) a (.inl impossible)
    cases raised.symm.trans read
  have addressable : n < 2 ^ 63 := by
    unfold Unallocatable maxSize at possible
    push Not at possible
    omega
  rw [asked.nBytes] at asks
  exact ⟨(toSize_ofNat_iff addressable).1 (Except.ok.inj asks), possible⟩

end Shown

/-- A readable range is shown exactly if its length fits an `int` and there is room for it. -/
theorem showsRange_iff {κ : Type} {P : Platform κ} {mem : κ → Memory} {readable : κ → VirtAddr → Prop}
    (transfers : TransfersReadable P.toKernel mem readable) (L : Libraries) (fuel : Nat)
    {line : Text} {a : VirtAddr} {n : Nat} (asked : Asks line a n) (d : Debugger κ)
    (range : ∀ i < n, readable d.world.kernel (a + BitVec.ofNat 64 i)) :
    ShowsRange P L fuel mem line a n d ↔ n < 2 ^ 31 ∧ ¬ Unallocatable P 1 n := by
  constructor
  · exact ShowsRange.few asked
  · rintro ⟨few, possible⟩
    unfold Unallocatable at possible
    push Not at possible
    exact asked.shows few (readMemory_eq transfers possible.1 (by simpa using possible.2) range)

/-- Twenty bytes, in two rows. -/
theorem showsRange_iff_twenty : ShowsRange scriptedPlatform noLibraries 1 Scripted.memory
    "memory read 0x10c0 20".toList 0x10c0 20 scriptedDebugger :=
  (showsRange_iff Scripted.transfersReadable noLibraries 1
    (.intro "memory".toList "read".toList "0x10c0".toList ["20".toList] (by decide) (by decide)
      (by decide) (by decide) (by decide) (.inr ⟨_, rfl, by decide⟩)) scriptedDebugger fun _ _ => rfl).2
    ⟨by decide, by unfold Unallocatable; decide⟩

/-- Of `2 ^ 32` readable bytes, none is asked for. -/
theorem not_showsRange_fourGigabytes :
    Asks "memory read 0x100000000 4294967296".toList 0x100000000 4294967296 ∧
      0x100000000 + 4294967296 ≤ 2 ^ 64 ∧
      (∀ i < 4294967296,
        scriptedDebugger.world.kernel.mapped (0x100000000 + BitVec.ofNat 64 i) = true) ∧
      ¬ ShowsRange scriptedPlatform noLibraries 1 Scripted.memory
        "memory read 0x100000000 4294967296".toList 0x100000000 4294967296 scriptedDebugger := by
  refine ⟨.intro "memory".toList "read".toList "0x100000000".toList ["4294967296".toList]
    (by decide) (by decide) (by decide) (by decide) (by decide) (.inr ⟨_, rfl, by decide⟩),
    by decide, fun _ _ => rfl, fun shown => ?_⟩
  have none : toSize <$>
      bytesToRead (split ' ' "memory read 0x100000000 4294967296".toList) = .ok 0 := by
    decide
  cases none.symm.trans shown.asks

end SdbDebugger
