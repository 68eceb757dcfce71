import SdbDebugger.Memory
import SdbDebugger.Parse

/-! `disassembler.cpp`, over the decoder and the other library functions that the command
line uses. -/

namespace SdbDebugger
open EffectRules

/-- Functions of other libraries: Zydis, which returns the length and the text of one
instruction, `std::from_chars` for floating-point types, and their rendering by fmt. -/
structure Libraries where
  disassembleATT : VirtAddr → List Byte → Option (Nat × String)
  fromCharsDouble : Text → FromChars (BitVec 64)
  fromCharsLongDouble : Text → FromChars (BitVec 128)
  formatFloat : BitVec 32 → String
  formatDouble : BitVec 64 → String
  formatLongDouble : BitVec 128 → String

structure Instruction where
  address : VirtAddr
  text : String
  deriving DecidableEq, Repr

/-- `sizeof(instruction)`: an address and a `std::string`. -/
def sizeofInstruction : Nat := 40

variable {κ : Type} (P : Platform κ) (L : Libraries)

/-- The loop of `disassemble`; `code` is what is left of the buffer. -/
def disassembleLoop : Nat → VirtAddr → List Byte → List Instruction
  | 0, _, _ => []
  | n + 1, address, code =>
    match L.disassembleATT address code with
    | none => []
    | some (length, text) =>
      ⟨address, text⟩ ::
        disassembleLoop n (address + BitVec.ofNat 64 length) (code.drop length)

def disassemble (nInstructions : Nat) (address : Option VirtAddr) :
    Sdb κ (List Instruction) := do
  newVector P sizeofInstruction nInstructions
  let address ← match address with
    | some address => pure address
    | none => getPc
  let code ← readMemoryWithoutTraps P address (nInstructions * 15 % 2 ^ 64)
  pure (disassembleLoop L nInstructions address code)

end SdbDebugger
