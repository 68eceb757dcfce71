import SdbDebugger.Process
import SdbDebugger.RegisterTable

/-! The register cache: `registers.cpp`, `bit.hpp` and the parts of `process.cpp`
that move registers between the cache and the kernel. -/

namespace SdbDebugger
open EffectRules ByteSpace

inductive FloatValue where
  | float (bits : BitVec 32)
  | double (bits : BitVec 64)
  | longDouble (bits : BitVec 128)
  deriving DecidableEq, Repr

/-- The kernel with what the C++ implementation leaves open: floating-point
conversions, given with the object representation they produce, padding
included, and which allocations succeed. -/
structure Platform (κ : Type) extends Kernel κ where
  toDouble : FloatValue → BitVec 64
  toLongDouble : FloatValue → BitVec 128
  canAllocate : Nat → Bool

/-- `registers::value`. -/
inductive Value where
  | u8 (v : BitVec 8) | u16 (v : BitVec 16) | u32 (v : BitVec 32) | u64 (v : BitVec 64)
  | i8 (v : BitVec 8) | i16 (v : BitVec 16) | i32 (v : BitVec 32) | i64 (v : BitVec 64)
  | float (v : BitVec 32) | double (v : BitVec 64) | longDouble (v : BitVec 128)
  | byte64 (v : Vector Byte 8) | byte128 (v : Vector Byte 16)
  deriving DecidableEq

def Value.size : Value → Nat
  | .u8 _ | .i8 _ => 1
  | .u16 _ | .i16 _ => 2
  | .u32 _ | .i32 _ | .float _ => 4
  | .u64 _ | .i64 _ | .double _ | .byte64 _ => 8
  | .longDouble _ | .byte128 _ => 16

variable {κ : Type} (P : Platform κ)

section Widen

def widenFloat (info : RegisterInfo) (v : FloatValue) (bytes : Nat → Byte) : Nat → Byte :=
  match info.format with
  | .doubleFloat => byteOf (P.toDouble v)
  | .longDouble => byteOf (P.toLongDouble v)
  | _ => bytes

def widenSigned (info : RegisterInfo) {m : Nat} (v : BitVec m) : Nat → Byte :=
  match info.format, info.size with
  | .uint, 2 => byteOf (v.signExtend 16)
  | .uint, 4 => byteOf (v.signExtend 32)
  | .uint, 8 => byteOf (v.signExtend 64)
  | _, _ => byteOf v

/-- The bytes of the `byte128` that holds the value, zero from its size on. -/
def widen (info : RegisterInfo) : Value → Nat → Byte
  | .u8 v => byteOf v
  | .u16 v => byteOf v
  | .u32 v => byteOf v
  | .u64 v => byteOf v
  | .i8 v => widenSigned info v
  | .i16 v => widenSigned info v
  | .i32 v => widenSigned info v
  | .i64 v => widenSigned info v
  | .float v => widenFloat P info (.float v) (byteOf v)
  | .double v => widenFloat P info (.double v) (byteOf v)
  | .longDouble v => widenFloat P info (.longDouble v) (byteOf v)
  | .byte64 v => fun i => v.toList.getD i 0
  | .byte128 v => fun i => v.toList.getD i 0

end Widen

def registerInfoBy (f : RegisterInfo → Bool) : Except Fault RegisterInfo :=
  match gRegisterInfos.find? f with
  | some info => .ok info
  | none => .error (.error "can't find register info")

/-- The underlying `int` of an enumerator. -/
def RegisterId.toInt (id : RegisterId) : Int := id.ctorIdx

def registerInfoById (id : Int) : Except Fault RegisterInfo :=
  registerInfoBy fun i => i.id.toInt == id

def registerInfoByName (name : String) : Except Fault RegisterInfo :=
  registerInfoBy fun i => i.name == name

namespace Registers

def read (data : UserArea) (info : RegisterInfo) : Except Fault Value :=
  match info.format with
  | .uint =>
    match info.size with
    | 1 => .ok (.u8 (load data info.offset 1))
    | 2 => .ok (.u16 (load data info.offset 2))
    | 4 => .ok (.u32 (load data info.offset 4))
    | 8 => .ok (.u64 (load data info.offset 8))
    | _ => .error (.error "Unexpected register size")
  | .doubleFloat => .ok (.double (load data info.offset 8))
  | .longDouble => .ok (.longDouble (load data info.offset 16))
  | .vector =>
    if info.size = 8 then
      .ok (.byte64 (Vector.ofFn fun i => data (info.offset + BitVec.ofNat 64 i)))
    else
      .ok (.byte128 (Vector.ofFn fun i => data (info.offset + BitVec.ofNat 64 i)))

def writeUserArea (offset : BitVec 64) (data : Word) : Sdb κ Unit :=
  orSendErrno "could not write to user area" (P.pokeUser offset data)

def writeFprs (fprs : Nat → Byte) : Sdb κ Unit :=
  orSendErrno "could not write floating point registers" (P.setFpRegs fprs)

/-- The `i387` member of the cached struct. -/
def i387 (data : UserArea) : Nat → Byte := fun i => data (BitVec.ofNat 64 (offsetofI387 + i))

/-- The visitor of `write`: the value goes into the cached struct. -/
def setValue (info : RegisterInfo) (val : Value) : Sdb κ Unit :=
  if val.size ≤ info.size then
    modify fun w => { w with data := overwrite w.data info.offset info.size (widen P info val) }
  else
    throw (.terminate "sdb::register::write called with mismatched register and value sizes")

/-- The rest of `write`: the whole struct or one aligned word goes to the kernel. -/
def writeBack (info : RegisterInfo) : Sdb κ Unit := do
  let w ← get
  if info.type = .fpr then
    writeFprs P (i387 w.data)
  else
    let alignedOffset := info.offset &&& ~~~0b111
    writeUserArea P alignedOffset (load w.data alignedOffset 8)

def write (info : RegisterInfo) (val : Value) : Sdb κ Unit := do
  setValue P info val
  writeBack P info

/-- `read_by_id_as<std::uint64_t>`. -/
def readByIdAsU64 (id : Int) : Sdb κ Word := do
  let info ← liftFault (registerInfoById id)
  let w ← get
  let value ← liftFault (read w.data info)
  match value with
  | .u64 v => pure v
  | _ => throw (.exception .badVariantAccess)

def writeById (id : Int) (val : Value) : Sdb κ Unit := do
  let info ← liftFault (registerInfoById id)
  write P info val

/-- `process::read_all_registers`; the inner of its two nested loops does all the
work, so the outer one repeats it eight times. -/
def readDebugRegisters : List Nat → Sdb κ Unit
  | [] => pure ()
  | i :: rest => do
    let info ← liftFault (registerInfoById (RegisterId.dr0.toInt + i))
    let data ← orSendErrno "could not read debug register" (P.peekUser info.offset)
    modify fun w =>
      { w with data := store w.data (BitVec.ofNat 64 (offsetofDebugreg + 8 * i)) 8 data }
    readDebugRegisters rest

def readAllRegisters : Sdb κ Unit := do
  let regs ← orSendErrno "could not read GPR registers" P.getRegs
  modify fun w => { w with data := overwrite w.data (BitVec.ofNat 64 offsetofRegs) sizeofRegs regs }
  let fprs ← orSendErrno "could not read FPR registers" P.getFpRegs
  modify fun w => { w with data := overwrite w.data (BitVec.ofNat 64 offsetofI387) sizeofI387 fprs }
  readDebugRegisters P ((List.range 8).flatMap fun _ => List.range 8)

end Registers

/-- `process::get_pc`. -/
def getPc : Sdb κ VirtAddr := Registers.readByIdAsU64 RegisterId.rip.toInt

/-- `process::set_pc`. -/
def setPc (address : VirtAddr) : Sdb κ Unit :=
  Registers.writeById P RegisterId.rip.toInt (.u64 address)

/-! ### Whole-word registers -/

/-- A register that fills one aligned word of the user area. -/
structure WholeWord (id : Int) (offset : BitVec 64) : Prop where
  info : ∃ info, registerInfoById id = .ok info ∧ info.offset = offset ∧ info.size = 8 ∧
    info.format = .uint ∧ info.type ≠ .fpr
  aligned : offset &&& ~~~0b111 = offset

namespace Registers

theorem readByIdAsU64_eq {id : Int} {offset : BitVec 64} (h : WholeWord id offset) (w : World κ) :
    readByIdAsU64 id w = .ok (load w.data offset 8) w := by
  obtain ⟨info, found, rfl, size, format, _⟩ := h.info
  have value : read w.data info = .ok (.u64 (load w.data info.offset 8)) := by
    simp [read, format, size]
  unfold readByIdAsU64
  rw [found, liftFault_ok, pure_bind]
  change (liftFault (read w.data info) >>= _) w = _
  rw [value]
  rfl

theorem writeById_word {id : Int} {offset : BitVec 64} (h : WholeWord id offset) {val : Value}
    (v : Word) (fits : val.size ≤ 8)
    (wide : ∀ info : RegisterInfo, info.format = .uint → info.size = 8 →
      widen P info val = byteOf v) :
    writeById P id val = (do
      modify fun w => { w with data := store w.data offset 8 v }
      writeUserArea P offset v) := by
  obtain ⟨info, found, rfl, size, format, type⟩ := h.info
  funext w
  unfold writeById write setValue writeBack
  rw [found, liftFault_ok, pure_bind, wide info format size, if_pos (by rwa [size])]
  have word : load (overwrite w.data info.offset info.size (byteOf v)) info.offset 8 = v := by
    rw [size]
    exact load_store w.data info.offset 8 v (by norm_num)
  change (if info.type = .fpr then _ else _ : Sdb κ Unit) _ = writeUserArea P info.offset v _
  rw [if_neg type, h.aligned, word, size]
  rfl

theorem writeById_u64 {id : Int} {offset : BitVec 64} (h : WholeWord id offset) (v : Word) :
    writeById P id (.u64 v) = (do
      modify fun w => { w with data := store w.data offset 8 v }
      writeUserArea P offset v) :=
  writeById_word P h v le_rfl fun _ _ _ => rfl

theorem writeById_i32 {id : Int} {offset : BitVec 64} (h : WholeWord id offset) (v : BitVec 32) :
    writeById P id (.i32 v) = (do
      modify fun w => { w with data := store w.data offset 8 (v.signExtend 64) }
      writeUserArea P offset (v.signExtend 64)) :=
  writeById_word P h (v.signExtend 64) (by simp [Value.size]) fun info format size => by
    simp [widen, widenSigned, format, size]

end Registers

/-! ### Properties that ignore registers -/

/-- `I` says nothing about the cached registers or the kernel's copy of them. -/
structure RegisterBlind (I : World κ → Prop) : Prop where
  data : ∀ w d, I w → I { w with data := d }
  pokeUser : ∀ w off v, I w → I { w with kernel := (P.pokeUser off v w.kernel).2 }
  setFpRegs : ∀ w fprs, I w → I { w with kernel := (P.setFpRegs fprs w.kernel).2 }

namespace Registers

theorem preserves_readByIdAsU64 {I : World κ → Prop} (id : Int) :
    Preserves I (readByIdAsU64 id : Sdb κ Word) := by
  refine (preserves_liftFault _).bind fun info => Preserves.get.bind fun w =>
    (preserves_liftFault _).bind fun value => ?_
  cases value with
  | u64 v => exact Preserves.pure v
  | _ => exact Preserves.throw _

theorem preserves_write {I : World κ → Prop} (blind : RegisterBlind P I) (info : RegisterInfo)
    (val : Value) : Preserves I (write P info val) := by
  refine Preserves.bind ?_ fun _ => Preserves.get.bind fun w => ?_
  · exact Preserves.ite (Preserves.modify fun w hw => blind.data w _ hw) (Preserves.throw _)
  · exact Preserves.ite (preserves_orSendErrno fun w hw => blind.setFpRegs w _ hw)
      (preserves_orSendErrno fun w hw => blind.pokeUser w _ _ hw)

theorem preserves_writeById {I : World κ → Prop} (blind : RegisterBlind P I) (id : Int)
    (val : Value) : Preserves I (writeById P id val) :=
  (preserves_liftFault _).bind fun info => preserves_write P blind info val

end Registers

theorem wholeWord_rip : WholeWord RegisterId.rip.toInt 128 :=
  ⟨⟨gpr64 .rip "rip" 16 .rip, rfl, rfl, rfl, rfl, by decide⟩, by decide⟩

def debugOffset (i : Nat) : BitVec 64 := BitVec.ofNat 64 (offsetofDebugreg + 8 * i)

theorem wholeWord_dr {i : Nat} (hi : i < 8) :
    WholeWord (RegisterId.dr0.toInt + i) (debugOffset i) := by
  interval_cases i
  all_goals exact ⟨⟨_, rfl, rfl, rfl, rfl, by decide⟩, by decide⟩

theorem debugWords_apart : ∀ i < 8, ∀ j < 8, i ≠ j → ∀ k < 8,
    8 ≤ (debugOffset j + BitVec.ofNat 64 k - debugOffset i).toNat := by decide +kernel

theorem load_store_debug (d : UserArea) {i j : Nat} (hi : i < 8) (hj : j < 8) (v : Word) :
    load (store d (debugOffset i) 8 v) (debugOffset j) 8 =
      if j = i then v else load d (debugOffset j) 8 := by
  by_cases same : j = i
  · subst same
    rw [if_pos rfl]
    exact load_store d (debugOffset j) 8 v (by norm_num)
  · rw [if_neg same, store, load_overwrite_disjoint (debugWords_apart i hi j hj (Ne.symm same))]

theorem getPc_eq (w : World κ) : getPc w = .ok (load w.data 128 8) w :=
  Registers.readByIdAsU64_eq wholeWord_rip w

theorem setPc_eq (address : VirtAddr) :
    setPc P address = (do
      modify fun w => { w with data := store w.data 128 8 address }
      Registers.writeUserArea P 128 address) :=
  Registers.writeById_u64 P wholeWord_rip address

end SdbDebugger
