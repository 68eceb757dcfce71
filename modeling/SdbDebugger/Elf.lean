import SdbDebugger.Library.OrderedMap
import SdbDebugger.Parse

/-! A loaded file: the members of `elf.hpp`, the lookups of `elf.cpp` and the conversions of
`types.cpp`. -/

namespace SdbDebugger
open ByteSpace

structure Elf64Ehdr where
  eEntry : Word
  eShoff : Word
  eShentsize : BitVec 16
  eShnum : BitVec 16
  eShstrndx : BitVec 16
  deriving DecidableEq, Repr

structure Elf64Shdr where
  shName : BitVec 32
  shType : BitVec 32
  shFlags : Word
  shAddr : Word
  shOffset : Word
  shSize : Word
  shLink : BitVec 32
  shEntsize : Word
  deriving DecidableEq, Repr

structure Elf64Sym where
  stName : BitVec 32
  stInfo : Byte
  stValue : Word
  stSize : Word
  deriving DecidableEq, Repr

/-- An address in the one file there is; `none` is the null address. -/
abbrev FileAddr := Option Word

/-- `symbolAddrMap` is ordered by the start of the range alone, so an entry is the start, and
with it the end and the symbol. -/
structure Elf where
  data : List Byte
  header : Elf64Ehdr
  sectionHeaders : List Elf64Shdr
  sectionMap : List (Text × Elf64Shdr)
  loadBias : VirtAddr
  symbolTable : List Elf64Sym
  symbolAddrMap : OrderedMap Nat (Word × Elf64Sym)

/-- The string that starts at the head of what is left of the mapping. -/
def cString : List Byte → Except Fault Text
  | [] => .error (.undefinedBehaviour "string read past the end of the file")
  | b :: rest =>
    if b = 0 then .ok []
    else (Char.ofNat b.toNat :: ·) <$> cString rest

def sttFunc : Byte := 2
def sttTls : Byte := 6

/-- `ELF64_ST_TYPE`. -/
def elf64StType (info : Byte) : Byte := info &&& 0xf

namespace Elf

variable (elf : Elf)

def notifyLoaded (address : VirtAddr) : Elf := { elf with loadBias := address }

def getSectionName (index : Nat) : Except Fault Text :=
  match elf.sectionHeaders[elf.header.eShstrndx.toNat]? with
  | none => .error (.undefinedBehaviour "index outside the vector")
  | some sect => cString (elf.data.drop (sect.shOffset.toNat + index))

def getSection (name : Text) : Option Elf64Shdr := elf.sectionMap.lookup name

/-- A span of the file, as its offset and its size; `none` is the empty span of no data. -/
def getSectionContents (name : Text) : Option (Word × Word) :=
  (elf.getSection name).map fun sect => (sect.shOffset, sect.shSize)

/-- The string table that `get_string` picks. -/
def stringTable : Option Elf64Shdr :=
  (elf.getSection ".strtab".toList).orElse fun _ => elf.getSection ".dynstr".toList

def getString (index : Nat) : Except Fault Text :=
  match elf.stringTable with
  | none => .ok []
  | some strtab => cString (elf.data.drop (strtab.shOffset.toNat + index))

/-- `get_section_containing_address(file_addr)`. -/
def sectionContainingFileAddr : FileAddr → Option Elf64Shdr
  | none => none
  | some addr =>
    elf.sectionHeaders.find? fun s => s.shAddr ≤ addr && s.shAddr + s.shSize > addr

/-- `get_section_containing_address(virt_addr)`. -/
def getSectionContainingAddress (addr : VirtAddr) : Option Elf64Shdr :=
  elf.sectionHeaders.find? fun s =>
    elf.loadBias + s.shAddr ≤ addr && elf.loadBias + s.shAddr + s.shSize > addr

/-- `file_addr::to_virt_addr`. -/
def toVirtAddr : FileAddr → Except Fault VirtAddr
  | none => .error (.terminate "to_virt_addr called on null address")
  | some addr =>
    match elf.sectionContainingFileAddr (some addr) with
    | some _ => .ok (addr + elf.loadBias)
    | none => .ok 0

/-- `virt_addr::to_file_addr`. -/
def toFileAddr (addr : VirtAddr) : FileAddr :=
  (elf.getSectionContainingAddress addr).map fun _ => addr - elf.loadBias

/-- `get_symbol_at_address(file_addr)`. -/
def symbolAtFileAddr : FileAddr → Option Elf64Sym
  | none => none
  | some address => (elf.symbolAddrMap.find? address.toNat).map (·.2)

/-- `get_symbol_at_address(virt_addr)`. -/
def symbolAtAddress (addr : VirtAddr) : Option Elf64Sym :=
  elf.symbolAtFileAddr (elf.toFileAddr addr)

/-- `get_symbol_containing_address(file_addr)`. The last entry that `lower_bound` skips is the
one before its result. -/
def symbolContainingFileAddr : FileAddr → Option Elf64Sym
  | none => none
  | some address =>
    match (elf.symbolAddrMap.onwards address.toNat).head?.filter fun e => e.1 = address.toNat with
    | some (_, _, symbol) => some symbol
    | none =>
      match (elf.symbolAddrMap.before address.toNat).getLast? with
      | none => none
      | some (start, stop, symbol) =>
        if start < address.toNat ∧ stop > address then some symbol else none

/-- `get_symbol_containing_address(virt_addr)`. -/
def symbolContainingAddress (addr : VirtAddr) : Option Elf64Sym :=
  elf.symbolContainingFileAddr (elf.toFileAddr addr)

end Elf

end SdbDebugger
