import SdbDebugger.Registers
import SdbDebugger.StoppointCollection

/-! Inferior memory: `read_memory`, `read_memory_without_traps` and
`write_memory` of `process.cpp`. -/

namespace SdbDebugger
open EffectRules ByteSpace StoppointCollection

variable {κ : Type} (P : Platform κ)

/-- `max_size()` of a vector of elements of the given size. -/
def maxSize (elementSize : Nat) : Nat := (2 ^ 63 - 1) / elementSize

/-- Space for `n` elements of a vector. -/
def newVector (elementSize n : Nat) : Sdb κ Unit :=
  if maxSize elementSize < n then throw (.exception .lengthError)
  else if P.canAllocate (elementSize * n) then pure ()
  else throw (.exception .badAlloc)

def upToNextPage (address : VirtAddr) : Nat := (0x1000 - (address &&& 0xfff)).toNat

theorem upToNextPage_eq (address : VirtAddr) :
    upToNextPage address = 4096 - address.toNat % 4096 := by
  have low : (address &&& 0xfff).toNat = address.toNat % 4096 := by
    rw [BitVec.toNat_and]
    exact Nat.and_two_pow_sub_one_eq_mod address.toNat 12
  have bound : (address &&& 0xfff).toNat < 4096 := by omega
  have page : (0x1000 : BitVec 64).toNat = 4096 := rfl
  rw [upToNextPage, BitVec.toNat_sub, page, low]
  omega

theorem upToNextPage_pos (address : VirtAddr) : 0 < upToNextPage address := by
  rw [upToNextPage_eq]
  omega

/-- The chunks that the loop of `read_memory` pushes, one for each page. -/
def remoteDescs (address : VirtAddr) (amount : Nat) : List Iovec :=
  if amount = 0 then []
  else
    let chunkSize := min amount (upToNextPage address)
    ⟨address, chunkSize⟩ :: remoteDescs (address + BitVec.ofNat 64 chunkSize) (amount - chunkSize)
termination_by amount
decreasing_by
  have positive := upToNextPage_pos address
  omega

/-- Bytes the kernel does not transfer keep the zero of the new vector. -/
def readMemory (address : VirtAddr) (amount : Nat) : Sdb κ (List Byte) := do
  newVector P 1 amount
  let received ← orSendErrno "could not read process memory"
    (P.processVmReadv (remoteDescs address amount))
  pure (received ++ List.replicate (amount - received.length) 0)

theorem preserves_readMemory {I : World κ → Prop}
    (h : ∀ w iovs, I w → I { w with kernel := (P.processVmReadv iovs w.kernel).2 })
    (address : VirtAddr) (amount : Nat) : Preserves I (readMemory P address amount) := by
  refine Preserves.bind ?_ fun _ => ?_
  · exact Preserves.ite (Preserves.throw _) (Preserves.ite (Preserves.pure _) (Preserves.throw _))
  · exact (preserves_orSendErrno fun w hw => h w _ hw).bind fun _ => Preserves.pure _

/-- The loop of `read_memory_without_traps` over the sites in the region. -/
def maskTraps (address : VirtAddr) : List BreakpointSite → List Byte → Except Fault (List Byte)
  | [], memory => .ok memory
  | site :: sites, memory =>
    if !site.isEnabled || site.isHardware then maskTraps address sites memory
    else
      let offset := (site.address - address).toNat
      if offset < memory.length then maskTraps address sites (memory.set offset site.savedData)
      else .error (.undefinedBehaviour "index outside the vector")

def readMemoryWithoutTraps (address : VirtAddr) (amount : Nat) : Sdb κ (List Byte) := do
  let memory ← readMemory P address amount
  let w ← get
  let sites := getInRegion w.breakpointSites address (address + BitVec.ofNat 64 amount)
  liftFault (maskTraps address sites memory)

/-- The next word to write: eight bytes of `data`, or the rest of it completed
with what memory holds after it. -/
def nextWord (address : VirtAddr) (data : List Byte) (written : Nat) : Sdb κ Word :=
  let remaining := data.length - written
  if remaining ≥ 8 then
    pure (ofBytes 8 fun i => data.getD (written + i) 0)
  else do
    let read ← readMemory P (address + BitVec.ofNat 64 written) 8
    pure (ofBytes 8 fun i => if i < remaining then data.getD (written + i) 0 else read.getD i 0)

def writeMemoryLoop (address : VirtAddr) (data : List Byte) (written : Nat) : Sdb κ Unit :=
  if written < data.length then do
    let word ← nextWord P address data written
    orSendErrno "failed to write memory" (P.pokeData (address + BitVec.ofNat 64 written) word)
    writeMemoryLoop address data (written + 8)
  else pure ()
termination_by data.length - written

def writeMemory (address : VirtAddr) (data : List Byte) : Sdb κ Unit :=
  writeMemoryLoop P address data 0

end SdbDebugger
