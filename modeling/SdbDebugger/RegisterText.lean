import SdbDebugger.ByteVectors
import SdbDebugger.CommandHazards

/-! Register values as text. `handle_register_read` prints them, and `parse_register_value` reads
what `register write` is given. -/

namespace SdbDebugger
open Exceptions

variable {L : Libraries}

/-! ### Hexadecimal digits -/

theorem digitValue_digitChar {d : Nat} (small : d < 16) : digitValue 16 d.digitChar = some d := by
  revert d
  decide

theorem isDigitOf_digitChar {d : Nat} (small : d < 16) : isDigitOf 16 d.digitChar = true := by
  rw [isDigitOf, digitValue_digitChar small]
  rfl

theorem numberOf_concat (digits : Text) (c : Char) :
    numberOf 16 (digits ++ [c]) = 16 * numberOf 16 digits + (digitValue 16 c).getD 0 := by
  simp only [numberOf, List.reverse_append, List.reverse_singleton, List.singleton_append,
    List.map_cons, Nat.ofDigits_cons]
  exact Nat.add_comm _ _

theorem numberOf_toDigits (n : Nat) : numberOf 16 (Nat.toDigits 16 n) = n := by
  induction n using Nat.strong_induction_on with
  | h n ih =>
    rw [Nat.toDigits_eq_if (by decide)]
    split
    · next small => simp [numberOf, digitValue_digitChar small]
    · next large =>
      rw [numberOf_concat, ih (n / 16) (by omega),
        digitValue_digitChar (Nat.mod_lt n (by decide)), Option.getD_some, Nat.div_add_mod]

theorem isDigitOf_toDigits (n : Nat) : ∀ c ∈ Nat.toDigits 16 n, isDigitOf 16 c = true := by
  induction n using Nat.strong_induction_on with
  | h n ih =>
    rw [Nat.toDigits_eq_if (by decide)]
    intro c member
    split at member
    · next small =>
      rw [List.mem_singleton.1 member]
      exact isDigitOf_digitChar small
    · next large =>
      rcases List.mem_append.1 member with high | low
      · exact ih (n / 16) (by omega) c high
      · rw [List.mem_singleton.1 low]
        exact isDigitOf_digitChar (Nat.mod_lt n (by decide))

/-- Zeros in front do not count. -/
theorem numberOf_leftpad (width : Nat) (digits : Text) :
    numberOf 16 (digits.leftpad width '0') = numberOf 16 digits := by
  have zero : digitValue 16 '0' = some 0 := by decide
  simp [numberOf, List.leftpad, zero]

section Padded

variable {width n : Nat}

theorem toList_formatPadded : (formatPadded width n).toList =
    '0' :: 'x' :: (Nat.toDigits 16 n).leftpad (width - 2) '0' := by
  rw [formatPadded, zeroPadded, String.toList_append]
  exact congrArg (['0', 'x'] ++ ·) String.toList_ofList

theorem isDigitOf_padded : ∀ c ∈ (Nat.toDigits 16 n).leftpad width '0', isDigitOf 16 c = true := by
  intro c member
  rcases List.mem_append.1 member with zero | digit
  · rw [List.eq_of_mem_replicate zero]
    rfl
  · exact isDigitOf_toDigits n c digit

theorem length_padded (some : 0 < width) (fits : n < 16 ^ width) :
    ((Nat.toDigits 16 n).leftpad width '0').length = width := by
  have short := (Nat.length_toDigits_le_iff (by decide) some).2 fits
  rw [List.length_leftpad, max_eq_left short]

end Padded

/-! ### Integers -/

theorem formatIntegral_natCast (size n : Nat) :
    formatIntegral size n = formatPadded (size * 2 + 2) n :=
  if_neg (not_lt.2 (Int.natCast_nonneg n))

/-- Whatever the padding, the digits are those of the number. -/
theorem toIntegral_formatPadded {ty : IntType} {width n : Nat} (unsigned : ty.signed = false)
    (fits : n < 2 ^ ty.bits) : toIntegral ty (formatPadded width n).toList 16 = .value n := by
  have some : (Nat.toDigits 16 n).leftpad (width - 2) '0' ≠ [] := by
    simp [List.leftpad]
  have numeral : Numeral ty 16 ((Nat.toDigits 16 n).leftpad (width - 2) '0') n := by
    have plain : Numeral ty 16 _ _ := .plain some isDigitOf_padded
    rwa [numberOf_leftpad, numberOf_toDigits] at plain
  have inside : ty.min ≤ (n : Int) ∧ (n : Int) ≤ ty.max := by
    simp only [IntType.min, IntType.max, unsigned, Bool.false_eq_true, if_false]
    have : (n : Int) < 2 ^ ty.bits := by exact_mod_cast fits
    omega
  rw [toList_formatPadded]
  exact toIntegral_denotes ⟨_, .inr ⟨rfl, rfl⟩, numeral, inside⟩

theorem get_formatIntegral {bits size : Nat} (v : BitVec bits) :
    (toIntegral ⟨bits, false⟩ (formatIntegral size v.toNat).toList 16).get = .ok (v.toNat : Int) := by
  rw [formatIntegral_natCast]
  exact get_eq_ok.2 (toIntegral_formatPadded rfl v.isLt)

theorem ofInt_toNat {bits : Nat} (v : BitVec bits) : BitVec.ofInt bits v.toNat = v := by
  rw [BitVec.ofInt_natCast, BitVec.ofNat_toNat, BitVec.setWidth_eq]

/-! ### Bytes -/

theorem vectorElement_formatPadded (b : Byte) :
    VectorElement false (formatPadded 4 b.toNat).toList b := by
  have two : 0 < 2 := by decide
  have element := VectorElement.prefixed (length_padded two b.isLt) isDigitOf_padded
  rw [numberOf_leftpad, numberOf_toDigits, ofInt_toNat] at element
  rwa [toList_formatPadded]

theorem vectorTail_formatBytes (bytes : List Byte) : ∃ c, (formatBytes bytes).toList = '[' :: c ∧
    VectorTail false c bytes := by
  refine ⟨[','].intercalate ((bytes.map fun b => formatPadded 4 b.toNat).map String.toList) ++ [']'],
    ?_, vectorTail_of_forall₂ ?_⟩
  · simp [formatBytes, join]
  · rw [List.map_map, List.forall₂_map_left_iff]
    exact List.forall₂_same.2 fun b _ => vectorElement_formatPadded b

theorem parseVector_formatBytes (bytes : List Byte) :
    parseVector (formatBytes bytes).toList = .ok bytes := by
  obtain ⟨c, text, tail⟩ := vectorTail_formatBytes bytes
  rw [text, parseVector_bracket, tail.parseElements_eq]

theorem parseVectorN_toList {n : Nat} (v : Vector Byte n) (some : n ≠ 0) :
    parseVectorN n (formatBytes v.toList).toList = .ok v.toList := by
  obtain ⟨c, text, tail⟩ := vectorTail_formatBytes v.toList
  have length : v.toList.length = n := Vector.length_toList
  have parsed := tail.parseVectorN_eq (List.ne_nil_of_length_pos (by omega))
  rwa [length, ← text] at parsed

theorem toArray_toList {n : Nat} (v : Vector Byte n) : toArray n v.toList = v := by
  refine Vector.ext fun i hi => ?_
  simp [toArray]

/-! ### Registers -/

/-- What a register of integer or vector format can hold. -/
inductive HeldBy (info : RegisterInfo) : Value → Prop where
  | u8 (format : info.format = .uint) (size : info.size = 1) (v : BitVec 8) : HeldBy info (.u8 v)
  | u16 (format : info.format = .uint) (size : info.size = 2) (v : BitVec 16) : HeldBy info (.u16 v)
  | u32 (format : info.format = .uint) (size : info.size = 4) (v : BitVec 32) : HeldBy info (.u32 v)
  | u64 (format : info.format = .uint) (size : info.size = 8) (v : BitVec 64) : HeldBy info (.u64 v)
  | byte64 (format : info.format = .vector) (size : info.size = 8) (v : Vector Byte 8) :
      HeldBy info (.byte64 v)
  | byte128 (format : info.format = .vector) (size : info.size = 16) (v : Vector Byte 16) :
      HeldBy info (.byte128 v)

theorem registerValue_formatValue {info : RegisterInfo} {v : Value} (held : HeldBy info v) :
    registerValue L info (formatValue L v).toList = .ok v := by
  unfold registerValue
  cases held with
  | u8 format size v =>
    simp only [format, size]
    exact map_eq_ok.2 ⟨_, get_formatIntegral v, by rw [ofInt_toNat]⟩
  | u16 format size v =>
    simp only [format, size]
    exact map_eq_ok.2 ⟨_, get_formatIntegral v, by rw [ofInt_toNat]⟩
  | u32 format size v =>
    simp only [format, size]
    exact map_eq_ok.2 ⟨_, get_formatIntegral v, by rw [ofInt_toNat]⟩
  | u64 format size v =>
    simp only [format, size]
    exact map_eq_ok.2 ⟨_, get_formatIntegral v, by rw [ofInt_toNat]⟩
  | byte64 format size v =>
    simp only [format, size]
    exact map_eq_ok.2 ⟨_, parseVectorN_toList v (by decide), by rw [toArray_toList]⟩
  | byte128 format size v =>
    simp only [format, size]
    exact map_eq_ok.2 ⟨_, parseVectorN_toList v (by decide), by rw [toArray_toList]⟩

theorem parseRegisterValue_formatValue {info : RegisterInfo} {v : Value} (held : HeldBy info v) :
    parseRegisterValue L info (formatValue L v).toList = .ok v := by
  rw [parseRegisterValue, registerValue_formatValue held]

/-- What is read is held. -/
theorem heldBy_of_read {info : RegisterInfo} (known : info ∈ gRegisterInfos)
    (format : info.format = .uint ∨ info.format = .vector) (d : UserArea) :
    ∃ v, Registers.read d info = .ok v ∧ HeldBy info v := by
  have sizes : ∀ info ∈ gRegisterInfos, (info.format = .uint →
      info.size = 1 ∨ info.size = 2 ∨ info.size = 4 ∨ info.size = 8) ∧
      (info.format = .vector → info.size = 8 ∨ info.size = 16) := by decide +kernel
  unfold Registers.read
  rcases format with format | format
  · rcases (sizes info known).1 format with size | size | size | size
    · exact ⟨_, by simp only [format, size]; rfl, .u8 format size _⟩
    · exact ⟨_, by simp only [format, size]; rfl, .u16 format size _⟩
    · exact ⟨_, by simp only [format, size]; rfl, .u32 format size _⟩
    · exact ⟨_, by simp only [format, size]; rfl, .u64 format size _⟩
  · rcases (sizes info known).2 format with size | size
    · exact ⟨_, by simp only [format, size]; rfl, .byte64 format size _⟩
    · exact ⟨_, by simp only [format, size]; rfl, .byte128 format size _⟩

/-- What is displayed of a register of integer or vector format parses back to its value, and any
bytes displayed parse back to themselves. -/
theorem displayed_parses (L : Libraries) :
    (∀ info ∈ gRegisterInfos, info.format = .uint ∨ info.format = .vector →
      (∀ d, ∃ v, Registers.read d info = .ok v ∧ HeldBy info v) ∧
      ∀ v, HeldBy info v → parseRegisterValue L info (formatValue L v).toList = .ok v) ∧
    ∀ bytes, parseVector (formatBytes bytes).toList = .ok bytes := by
  refine ⟨fun info known format => ⟨heldBy_of_read known format, fun v held => ?_⟩,
    parseVector_formatBytes⟩
  exact parseRegisterValue_formatValue held

/-- Different bytes in the lowest vector register. -/
theorem displayed_parses_mm0 :
    parseRegisterValue noLibraries (fpMm .mm0 "mm0" 0) (formatValue noLibraries
      (.byte64 #v[0, 1, 0x0f, 0x10, 0xab, 0xff, 0x80, 7])).toList =
        .ok (.byte64 #v[0, 1, 0x0f, 0x10, 0xab, 0xff, 0x80, 7]) :=
  ((displayed_parses noLibraries).1 _ (by decide +kernel) (.inr rfl)).2 _ (.byte64 rfl rfl _)

end SdbDebugger
