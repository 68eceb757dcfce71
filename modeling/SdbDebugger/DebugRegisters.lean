import SdbDebugger.Registers

/-! Hardware stoppoints: the helpers at the top of `process.cpp` and
`set_hardware_stoppoint`, `clear_hardware_stoppoint`, `set_watchpoint`.
The masks are `int`s, so they are 32 bits wide and sign-extended when they
meet the 64-bit control register. -/

namespace SdbDebugger
open EffectRules ByteSpace

def encodeHardwareStoppointMode : StoppointMode → Word
  | .write => 0b01
  | .readWrite => 0b11
  | .execute => 0b00

def encodeHardwareStoppointSize (size : BitVec 64) : Except Fault Word :=
  if size = 1 then .ok 0b00
  else if size = 2 then .ok 0b01
  else if size = 4 then .ok 0b11
  else if size = 8 then .ok 0b10
  else .error (.error "invalid stoppoint size")

/-- The conversion of an `int` operand to `uint64_t`. -/
def intToU64 (v : BitVec 32) : Word := v.signExtend 64

def findFreeStoppointRegister (controlRegister : Word) : Except Fault Nat :=
  match (List.range 4).find? fun i => controlRegister &&& intToU64 (0b11 <<< (i * 2)) == 0 with
  | some i => .ok i
  | none => .error (.error "no remaining hardware debug registers")

def clearMask (index : Nat) : BitVec 32 := (0b11 <<< (index * 2)) ||| (0b1111 <<< (index * 4 + 16))

/-- The control register after a slot has been given out. -/
def setControl (control : Word) (freeSpace : Nat) (modeFlag sizeFlag : Word) : Word :=
  let enableBit : BitVec 32 := 1 <<< (freeSpace * 2)
  let modeBits := modeFlag <<< (freeSpace * 4 + 16)
  let sizeBits := sizeFlag <<< (freeSpace * 4 + 18)
  let masked := control &&& intToU64 (~~~clearMask freeSpace)
  masked ||| (intToU64 enableBit ||| modeBits ||| sizeBits)

def clearControl (control : Word) (index : Nat) : Word := control &&& intToU64 (~~~clearMask index)

variable {κ : Type} (P : Platform κ)

def setHardwareStoppoint (address : VirtAddr) (mode : StoppointMode) (size : BitVec 64) :
    Sdb κ Int := do
  let control ← Registers.readByIdAsU64 RegisterId.dr7.toInt
  let freeSpace ← liftFault (findFreeStoppointRegister control)
  Registers.writeById P (RegisterId.dr0.toInt + freeSpace) (.u64 address)
  let modeFlag := encodeHardwareStoppointMode mode
  let sizeFlag ← liftFault (encodeHardwareStoppointSize size)
  Registers.writeById P RegisterId.dr7.toInt (.u64 (setControl control freeSpace modeFlag sizeFlag))
  pure freeSpace

/-- The size of an execution stoppoint must be 1 on x64. -/
def setHardwareBreakpoint (_id : Int) (address : VirtAddr) : Sdb κ Int :=
  setHardwareStoppoint P address .execute 1

def clearHardwareStoppoint (index : Int) : Sdb κ Unit := do
  Registers.writeById P (RegisterId.dr0.toInt + index) (.i32 0)
  let control ← Registers.readByIdAsU64 RegisterId.dr7.toInt
  if 0 ≤ index then
    Registers.writeById P RegisterId.dr7.toInt (.u64 (clearControl control index.toNat))
  else
    throw (.undefinedBehaviour "shift by a negative count")

def setWatchpoint (_id : Int) (address : VirtAddr) (mode : StoppointMode) (size : BitVec 64) :
    Sdb κ Int :=
  setHardwareStoppoint P address mode size

theorem preserves_setHardwareStoppoint {I : World κ → Prop} (blind : RegisterBlind P I)
    (address : VirtAddr) (mode : StoppointMode) (size : BitVec 64) :
    Preserves I (setHardwareStoppoint P address mode size) :=
  (Registers.preserves_readByIdAsU64 _).bind fun _ =>
    (preserves_liftFault _).bind fun _ =>
    (Registers.preserves_writeById P blind _ _).bind fun _ =>
    (preserves_liftFault _).bind fun _ =>
    (Registers.preserves_writeById P blind _ _).bind fun _ => Preserves.pure _

theorem preserves_clearHardwareStoppoint {I : World κ → Prop} (blind : RegisterBlind P I)
    (index : Int) : Preserves I (clearHardwareStoppoint P index) :=
  (Registers.preserves_writeById P blind _ _).bind fun _ =>
    (Registers.preserves_readByIdAsU64 _).bind fun _ =>
    Preserves.ite (Registers.preserves_writeById P blind _ _) (Preserves.throw _)

end SdbDebugger
