import SdbDebugger.ScriptedKernel

/-! Registers that share bytes of the cached struct. A write replaces the bytes of one
register, and every register reads its own bytes of the result. -/

namespace SdbDebugger
open EffectRules ByteSpace

variable {κ : Type} {P : Platform κ}

/-! ### Values -/

/-- Byte `i` of a value in memory. -/
def Value.byte : Value → Nat → Byte
  | .u8 v => byteOf v
  | .u16 v => byteOf v
  | .u32 v => byteOf v
  | .u64 v => byteOf v
  | .i8 v => byteOf v
  | .i16 v => byteOf v
  | .i32 v => byteOf v
  | .i64 v => byteOf v
  | .float v => byteOf v
  | .double v => byteOf v
  | .longDouble v => byteOf v
  | .byte64 v => fun i => v.toList.getD i 0
  | .byte128 v => fun i => v.toList.getD i 0

/-- The number that a value of integer type is. -/
def Value.toInt : Value → Option Int
  | .u8 v => some v.toNat
  | .u16 v => some v.toNat
  | .u32 v => some v.toNat
  | .u64 v => some v.toNat
  | .i8 v => some v.toInt
  | .i16 v => some v.toInt
  | .i32 v => some v.toInt
  | .i64 v => some v.toInt
  | _ => none

/-- The elements of a value of array type. -/
def Value.elements : Value → Option (List Byte)
  | .byte64 v => some v.toList
  | .byte128 v => some v.toList
  | _ => none

/-- A number reduced to an unsigned type of one, two, four or eight bytes. -/
def reducedTo (size : Nat) (n : Int) : Value :=
  match size with
  | 1 => .u8 (BitVec.ofInt 8 n)
  | 2 => .u16 (BitVec.ofInt 16 n)
  | 4 => .u32 (BitVec.ofInt 32 n)
  | _ => .u64 (BitVec.ofInt 64 n)

/-- Bytes followed by zeros, in the array type of the given size. -/
def paddedTo (size : Nat) (bytes : List Byte) : Value :=
  if size = 8 then .byte64 (Vector.ofFn fun i => bytes.getD i 0)
  else .byte128 (Vector.ofFn fun i => bytes.getD i 0)

theorem byteOf_setWidth {m n i : Nat} (v : BitVec m) (hi : i < n) :
    byteOf (v.setWidth (8 * n)) i = byteOf v i := by
  apply BitVec.eq_of_getLsbD_eq
  intro j hj
  have inside : 8 * i + j < 8 * n := by omega
  rw [getLsbD_byteOf, getLsbD_byteOf, BitVec.getLsbD_setWidth, decide_eq_true inside,
    Bool.true_and]

theorem byteOf_ofNat {m n i : Nat} (v : BitVec m) (hi : i < n) :
    byteOf (BitVec.ofInt (8 * n) v.toNat) i = byteOf v i := by
  rw [BitVec.ofInt_natCast, BitVec.ofNat_toNat, byteOf_setWidth v hi]

/-! ### The table -/

/-- Offset `k` of the user area belongs to the register. -/
def RegisterInfo.Covers (info : RegisterInfo) (k : Nat) : Prop :=
  info.offset.toNat ≤ k ∧ k < info.offset.toNat + info.size

instance (info : RegisterInfo) (k : Nat) : Decidable (info.Covers k) :=
  inferInstanceAs (Decidable (_ ∧ _))

/-- No byte belongs to both registers. -/
def RegisterInfo.Apart (info other : RegisterInfo) : Prop :=
  info.offset.toNat + info.size ≤ other.offset.toNat ∨
    other.offset.toNat + other.size ≤ info.offset.toNat

/-- The combinations of format and size that occur, inside the struct. -/
structure RegisterInfo.Regular (info : RegisterInfo) : Prop where
  inside : info.offset.toNat + info.size ≤ sizeofUser
  format : info.format = .uint ∧ (info.size = 1 ∨ info.size = 2 ∨ info.size = 4 ∨ info.size = 8) ∨
    info.format = .longDouble ∧ info.size = 16 ∨
    info.format = .vector ∧ (info.size = 8 ∨ info.size = 16)

instance (info : RegisterInfo) : Decidable info.Regular :=
  decidable_of_iff (_ ∧ _) ⟨fun h => ⟨h.1, h.2⟩, fun h => ⟨h.inside, h.format⟩⟩

theorem regular_of_mem : ∀ info ∈ gRegisterInfos, info.Regular := by decide +kernel

/-! ### Reads -/

section Reads

variable {d d' : UserArea} {info : RegisterInfo}

/-- What a register reads is determined by its own bytes. -/
theorem read_congr (regular : info.Regular)
    (same : ∀ i < info.size,
      d' (info.offset + BitVec.ofNat 64 i) = d (info.offset + BitVec.ofNat 64 i)) :
    Registers.read d' info = Registers.read d info := by
  have word : load d' info.offset info.size = load d info.offset info.size := ofBytes_congr same
  unfold Registers.read
  rcases regular.format with ⟨format, size | size | size | size⟩ | ⟨format, size⟩ |
    ⟨format, size | size⟩
  all_goals
    rw [format, size]
    rw [size] at word same
  · exact congrArg (fun v => Except.ok (Value.u8 v)) word
  · exact congrArg (fun v => Except.ok (Value.u16 v)) word
  · exact congrArg (fun v => Except.ok (Value.u32 v)) word
  · exact congrArg (fun v => Except.ok (Value.u64 v)) word
  · exact congrArg (fun v => Except.ok (Value.longDouble v)) word
  · have bytes : (Vector.ofFn fun i : Fin 8 => d' (info.offset + BitVec.ofNat 64 i)) =
        Vector.ofFn fun i : Fin 8 => d (info.offset + BitVec.ofNat 64 i) := by
      congr 1
      funext i
      exact same i i.isLt
    simp [bytes]
  · have bytes : (Vector.ofFn fun i : Fin 16 => d' (info.offset + BitVec.ofNat 64 i)) =
        Vector.ofFn fun i : Fin 16 => d (info.offset + BitVec.ofNat 64 i) := by
      congr 1
      funext i
      exact same i i.isLt
    simp [bytes]

theorem read_uint (format : info.format = .uint)
    (size : info.size = 1 ∨ info.size = 2 ∨ info.size = 4 ∨ info.size = 8) {n : Int}
    (bytes : ∀ i < info.size, d (info.offset + BitVec.ofNat 64 i) =
      byteOf (BitVec.ofInt (8 * info.size) n) i) :
    Registers.read d info = .ok (reducedTo info.size n) := by
  have word : load d info.offset info.size = BitVec.ofInt (8 * info.size) n := by
    rw [load, ofBytes_congr bytes, ofBytes_byteOf]
  unfold Registers.read
  rw [format]
  rcases size with size | size | size | size
  all_goals rw [size] at word ⊢
  · exact congrArg (fun v => Except.ok (Value.u8 v)) word
  · exact congrArg (fun v => Except.ok (Value.u16 v)) word
  · exact congrArg (fun v => Except.ok (Value.u32 v)) word
  · exact congrArg (fun v => Except.ok (Value.u64 v)) word

theorem read_vector (format : info.format = .vector) (size : info.size = 8 ∨ info.size = 16)
    {bytes : List Byte}
    (stored : ∀ i < info.size, d (info.offset + BitVec.ofNat 64 i) = bytes.getD i 0) :
    Registers.read d info = .ok (paddedTo info.size bytes) := by
  unfold Registers.read paddedTo
  rw [format]
  rcases size with size | size
  all_goals rw [size] at stored ⊢
  · simp only [if_true, Except.ok.injEq, Value.byte64.injEq]
    congr 1
    funext i
    exact stored i i.isLt
  · simp only [Nat.reduceEqDiff, if_false, Except.ok.injEq, Value.byte128.injEq]
    congr 1
    funext i
    exact stored i i.isLt

/-- Every register of the table reads its own bytes. -/
theorem read_bytes (regular : info.Regular) (d : UserArea) : ∃ v, Registers.read d info = .ok v ∧
    v.size = info.size ∧ ∀ i < info.size, v.byte i = d (info.offset + BitVec.ofNat 64 i) := by
  unfold Registers.read
  rcases regular.format with ⟨format, size | size | size | size⟩ | ⟨format, size⟩ |
    ⟨format, size | size⟩
  all_goals rw [format, size]
  · exact ⟨_, rfl, rfl, fun i hi => byteOf_load hi⟩
  · exact ⟨_, rfl, rfl, fun i hi => byteOf_load hi⟩
  · exact ⟨_, rfl, rfl, fun i hi => byteOf_load hi⟩
  · exact ⟨_, rfl, rfl, fun i hi => byteOf_load hi⟩
  · exact ⟨_, rfl, rfl, fun i hi => byteOf_load hi⟩
  · exact ⟨_, rfl, rfl, fun i hi => by simp [Value.byte, hi]⟩
  · exact ⟨_, rfl, rfl, fun i hi => by simp [Value.byte, hi]⟩

end Reads

/-! ### Writes -/

section Positions

variable {info other : RegisterInfo} {i : Nat}

theorem toNat_position (regular : other.Regular) (hi : i < other.size) :
    (other.offset + BitVec.ofNat 64 i).toNat = other.offset.toNat + i := by
  have inside := regular.inside
  unfold sizeofUser at inside
  rw [BitVec.toNat_add, BitVec.toNat_ofNat]
  omega

/-- A byte of one register at its place in another. -/
theorem distance_of_covers (regular : other.Regular) (hi : i < other.size)
    (covered : info.Covers (other.offset.toNat + i)) :
    (other.offset + BitVec.ofNat 64 i - info.offset).toNat =
      other.offset.toNat + i - info.offset.toNat := by
  have position := toNat_position regular hi
  have low := covered.1
  rw [BitVec.toNat_sub, position]
  omega

theorem le_distance_of_not_covers (regular : info.Regular) (regular' : other.Regular)
    (hi : i < other.size) (clear : ¬ info.Covers (other.offset.toNat + i)) :
    info.size ≤ (other.offset + BitVec.ofNat 64 i - info.offset).toNat := by
  have position := toNat_position regular' hi
  have inside := regular.inside
  have inside' := regular'.inside
  unfold sizeofUser at inside inside'
  unfold RegisterInfo.Covers at clear
  rw [BitVec.toNat_sub, position]
  omega

theorem not_covers_of_apart (apart : other.Apart info) (hi : i < other.size) :
    ¬ info.Covers (other.offset.toNat + i) := by
  unfold RegisterInfo.Apart at apart
  unfold RegisterInfo.Covers
  omega

end Positions

/-- The bytes of a widened integer are those of its reduction to the register's type. -/
theorem widen_integer {info : RegisterInfo} (format : info.format = .uint)
    (size : info.size = 1 ∨ info.size = 2 ∨ info.size = 4 ∨ info.size = 8) {val : Value} {n : Int}
    (number : val.toInt = some n) (fits : val.size ≤ info.size) {i : Nat} (hi : i < info.size) :
    widen P info val i = byteOf (BitVec.ofInt (8 * info.size) n) i := by
  have signed : ∀ {m : Nat} (v : BitVec m), (info.size = 1 → m = 8) →
      widenSigned info v i = byteOf (BitVec.ofInt (8 * info.size) v.toInt) i := by
    intro m v single
    unfold widenSigned
    rw [format]
    rcases size with size | size | size | size
    · obtain rfl := single size
      rw [size, BitVec.ofInt_toInt]
      rfl
    · rw [size]
      rfl
    · rw [size]
      rfl
    · rw [size]
      rfl
  cases val with
  | u8 v | u16 v | u32 v | u64 v =>
    cases number
    exact (byteOf_ofNat v hi).symm
  | i8 v =>
    cases number
    exact signed v fun _ => rfl
  | i16 v | i32 v | i64 v =>
    cases number
    exact signed v fun single => by simp [Value.size, single] at fits
  | _ => cases number

theorem widen_elements (info : RegisterInfo) {val : Value} {bytes : List Byte}
    (elements : val.elements = some bytes) (i : Nat) : widen P info val i = bytes.getD i 0 := by
  cases val with
  | byte64 v | byte128 v =>
    cases elements
    rfl
  | _ => cases elements

namespace Registers

theorem write_eq {info : RegisterInfo} {val : Value} (fits : val.size ≤ info.size) (w : World κ) :
    write P info val w = writeBack P info
      { w with data := overwrite w.data info.offset info.size (widen P info val) } := by
  unfold write setValue
  rw [if_pos fits]
  rfl

theorem preserves_writeBack (info : RegisterInfo) (d : UserArea) :
    Preserves (fun t : World κ => t.data = d) (writeBack P info) :=
  Preserves.get.bind fun _ => Preserves.ite (preserves_orSendErrno fun _ same => same)
    (preserves_orSendErrno fun _ same => same)

theorem write_ok {info : RegisterInfo} {val : Value} {w t : World κ}
    (done : write P info val w = .ok () t) : val.size ≤ info.size ∧
      t.data = overwrite w.data info.offset info.size (widen P info val) := by
  by_cases fits : val.size ≤ info.size
  · rw [write_eq fits] at done
    exact ⟨fits, (preserves_writeBack info _).of_ok rfl done⟩
  · unfold write setValue at done
    rw [if_neg fits] at done
    cases done

end Registers

/-- What reads return after a write of `val` to a register has turned `d` into `d'`. -/
structure RegisterLaw (info : RegisterInfo) (val : Value) (d d' : UserArea) : Prop where
  integer : info.format = .uint → ∀ n, val.toInt = some n →
    Registers.read d' info = .ok (reducedTo info.size n)
  vector : info.format = .vector → ∀ bytes, val.elements = some bytes →
    Registers.read d' info = .ok (paddedTo info.size bytes)
  apart : ∀ other ∈ gRegisterInfos, other.Apart info →
    Registers.read d' other = Registers.read d other
  aliased : ∀ other ∈ gRegisterInfos, ∃ own old new, Registers.read d' info = .ok own ∧
    Registers.read d other = .ok old ∧ Registers.read d' other = .ok new ∧
    new.size = other.size ∧ ∀ i < other.size, new.byte i =
      if info.Covers (other.offset.toNat + i) then own.byte (other.offset.toNat + i - info.offset.toNat)
      else old.byte i
  highByte : info = gpr8H .ah "ah" .rax → ∃ a b : Word,
    Registers.read d (gpr64 .rax "rax" 0 .rax) = .ok (.u64 a) ∧
    Registers.read d' (gpr64 .rax "rax" 0 .rax) = .ok (.u64 b) ∧
    ∀ k < 64, ¬ (8 ≤ k ∧ k < 16) → b.getLsbD k = a.getLsbD k
  lowHalf : info = gpr32 .eax "eax" .rax → ∃ a b : Word,
    Registers.read d (gpr64 .rax "rax" 0 .rax) = .ok (.u64 a) ∧
    Registers.read d' (gpr64 .rax "rax" 0 .rax) = .ok (.u64 b) ∧
    ∀ k < 64, 32 ≤ k → b.getLsbD k = a.getLsbD k
  shared : ∀ mm ∈ gRegisterInfos, ∀ st ∈ gRegisterInfos, ∀ number,
    mm = fpMm mm.id mm.name number → st = fpSt st.id st.name number → ∃ a b,
      Registers.read d' mm = .ok a ∧ Registers.read d' st = .ok b ∧ ∀ i < 8, a.byte i = b.byte i

section Law

variable {info : RegisterInfo} {d : UserArea} {src : Nat → Byte}

theorem overwritten_covered {other : RegisterInfo} (regular : other.Regular) {i : Nat}
    (hi : i < other.size) (covered : info.Covers (other.offset.toNat + i)) :
    overwrite d info.offset info.size src (other.offset + BitVec.ofNat 64 i) =
      src (other.offset.toNat + i - info.offset.toNat) := by
  have distance := distance_of_covers regular hi covered
  obtain ⟨low, high⟩ := covered
  rw [overwrite_of_lt (by omega), distance]

theorem overwritten_clear {other : RegisterInfo} (regular : info.Regular)
    (regular' : other.Regular) {i : Nat} (hi : i < other.size)
    (clear : ¬ info.Covers (other.offset.toNat + i)) :
    overwrite d info.offset info.size src (other.offset + BitVec.ofNat 64 i) =
      d (other.offset + BitVec.ofNat 64 i) :=
  overwrite_of_le (le_distance_of_not_covers regular regular' hi clear)

theorem overwritten_own (regular : info.Regular) {i : Nat} (hi : i < info.size) :
    overwrite d info.offset info.size src (info.offset + BitVec.ofNat 64 i) = src i := by
  have inside := regular.inside
  unfold sizeofUser at inside
  exact overwrite_add hi (by omega)

/-- The bits of a whole register outside the one that was written. -/
theorem word_outside (d : UserArea) (src : Nat → Byte) (regular : info.Regular)
    {other : RegisterInfo} (regular' : other.Regular) (format : other.format = .uint)
    (size : other.size = 8) : ∃ a b : Word,
      Registers.read d other = .ok (.u64 a) ∧
      Registers.read (overwrite d info.offset info.size src) other = .ok (.u64 b) ∧
      ∀ k < 64, ¬ info.Covers (other.offset.toNat + k / 8) → b.getLsbD k = a.getLsbD k := by
  have word : ∀ d : UserArea, Registers.read d other = .ok (.u64 (load d other.offset 8)) := by
    intro d
    simp [Registers.read, format, size]
  refine ⟨_, _, word _, word _, fun k hk clear => ?_⟩
  have inside : k / 8 < 8 := by omega
  rw [load, load, getLsbD_ofBytes, getLsbD_ofBytes,
    overwritten_clear regular regular' (by omega) clear]

/-- Another register has the bytes of the one that was written where the two overlap, and its own
bytes elsewhere. -/
theorem aliased_overwritten (d : UserArea) (src : Nat → Byte) (regular : info.Regular)
    {other : RegisterInfo} (regular' : other.Regular) : ∃ own old new,
      Registers.read (overwrite d info.offset info.size src) info = .ok own ∧
      Registers.read d other = .ok old ∧
      Registers.read (overwrite d info.offset info.size src) other = .ok new ∧
      new.size = other.size ∧ ∀ i < other.size, new.byte i =
        if info.Covers (other.offset.toNat + i) then
          own.byte (other.offset.toNat + i - info.offset.toNat)
        else old.byte i := by
  obtain ⟨own, read_own, _, own_bytes⟩ := read_bytes regular
    (overwrite d info.offset info.size src)
  obtain ⟨old, read_old, _, old_bytes⟩ := read_bytes regular' d
  obtain ⟨new, read_new, size, new_bytes⟩ := read_bytes regular'
    (overwrite d info.offset info.size src)
  refine ⟨own, old, new, read_own, read_old, read_new, size, fun i hi => ?_⟩
  rw [new_bytes i hi]
  split
  · next covered =>
    have inside : other.offset.toNat + i - info.offset.toNat < info.size := by
      obtain ⟨low, high⟩ := covered
      omega
    rw [overwritten_covered regular' hi covered, own_bytes _ inside,
      overwritten_own regular inside]
  · next clear => rw [overwritten_clear regular regular' hi clear, old_bytes i hi]

/-- An MMX register has the lowest bytes of the floating-point register of its number. -/
theorem read_shared (d : UserArea) {mm st : RegisterInfo} {number : Nat} (regular : mm.Regular)
    (regular' : st.Regular) (mm_eq : mm = fpMm mm.id mm.name number)
    (st_eq : st = fpSt st.id st.name number) : ∃ a b,
      Registers.read d mm = .ok a ∧ Registers.read d st = .ok b ∧
        ∀ i < 8, a.byte i = b.byte i := by
  obtain ⟨a, read_a, _, bytes_a⟩ := read_bytes regular d
  obtain ⟨b, read_b, _, bytes_b⟩ := read_bytes regular' d
  have same : mm.offset = st.offset := by
    rw [mm_eq, st_eq]
    rfl
  have size : mm.size = 8 := by rw [mm_eq]; rfl
  have size' : st.size = 16 := by rw [st_eq]; rfl
  refine ⟨a, b, read_a, read_b, fun i hi => ?_⟩
  rw [bytes_a i (by omega), bytes_b i (by omega), same]

end Law

/-- A successful write is read back, and every other register sees exactly the bytes it shares. -/
theorem registerLaw_of_write (P : Platform κ) (info : RegisterInfo) (listed : info ∈ gRegisterInfos)
    (val : Value) (w t : World κ) (done : Registers.write P info val w = .ok () t) :
    RegisterLaw info val w.data t.data := by
  obtain ⟨fits, stored⟩ := Registers.write_ok done
  have regular := regular_of_mem info listed
  have whole := regular_of_mem (gpr64 .rax "rax" 0 .rax) (by decide +kernel)
  have outside := word_outside w.data (widen P info val) regular whole rfl rfl
  rw [stored]
  refine ⟨fun format n number => ?_, fun format bytes elements => ?_, fun other listed' apart => ?_,
    fun other listed' => ?_, fun high => ?_, fun low => ?_, fun mm listed_mm st listed_st number
    mm_eq st_eq => ?_⟩
  · have size : info.size = 1 ∨ info.size = 2 ∨ info.size = 4 ∨ info.size = 8 := by
      rcases regular.format with ⟨_, size⟩ | ⟨other, _⟩ | ⟨other, _⟩
      · exact size
      · simp [format] at other
      · simp [format] at other
    refine read_uint format size fun i hi => ?_
    rw [overwritten_own regular hi, widen_integer format size number fits hi]
  · have size : info.size = 8 ∨ info.size = 16 := by
      rcases regular.format with ⟨other, _⟩ | ⟨other, _⟩ | ⟨_, size⟩
      · simp [format] at other
      · simp [format] at other
      · exact size
    refine read_vector format size fun i hi => ?_
    rw [overwritten_own regular hi, widen_elements info elements]
  · have regular' := regular_of_mem other listed'
    exact read_congr regular' fun i hi =>
      overwritten_clear regular regular' hi (not_covers_of_apart apart hi)
  · exact aliased_overwritten w.data _ regular (regular_of_mem other listed')
  · obtain ⟨a, b, read_a, read_b, bits⟩ := outside
    refine ⟨a, b, read_a, read_b, fun k hk outside => bits k hk fun covered => outside ?_⟩
    rw [high] at covered
    have low : 81 ≤ 80 + k / 8 := covered.1
    have up : 80 + k / 8 < 81 + 1 := covered.2
    omega
  · obtain ⟨a, b, read_a, read_b, bits⟩ := outside
    refine ⟨a, b, read_a, read_b, fun k hk upper => bits k hk fun covered => ?_⟩
    rw [low] at covered
    have up : 80 + k / 8 < 80 + 4 := covered.2
    omega
  · exact read_shared _ (regular_of_mem mm listed_mm) (regular_of_mem st listed_st) mm_eq st_eq

theorem registerLaw_of_write_highByte : ∃ t, Registers.write scriptedPlatform (gpr8H .ah "ah" .rax)
      (.i8 0x80) (scriptedWorld [] []) = .ok () t ∧
    RegisterLaw (gpr8H .ah "ah" .rax) (.i8 0x80) (scriptedWorld [] []).data t.data :=
  ⟨_, rfl, registerLaw_of_write scriptedPlatform _ (by decide +kernel) _ _ _ rfl⟩

end SdbDebugger
