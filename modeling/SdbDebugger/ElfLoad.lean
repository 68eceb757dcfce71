import SdbDebugger.Elf
import SdbDebugger.Memory

/-! The constructor of `elf`. The file is mapped, so offsets into it are positions in a list of
bytes; an access outside of the list is undefined, also where a pointer would wrap around. -/

namespace SdbDebugger
open ByteSpace

def sizeofEhdr : Nat := 64
def sizeofShdr : Nat := 64
def sizeofSym : Nat := 24

/-- A member of a struct, as it lies in the struct's bytes. -/
def member (n : Nat) (bytes : List Byte) (offset : Nat) : BitVec (8 * n) :=
  ofBytes n fun i => bytes.getD (offset + i) 0

def Elf64Ehdr.ofBytes (bytes : List Byte) : Elf64Ehdr where
  eEntry := member 8 bytes 24
  eShoff := member 8 bytes 40
  eShentsize := member 2 bytes 58
  eShnum := member 2 bytes 60
  eShstrndx := member 2 bytes 62

def Elf64Shdr.ofBytes (bytes : List Byte) : Elf64Shdr where
  shName := member 4 bytes 0
  shType := member 4 bytes 4
  shFlags := member 8 bytes 8
  shAddr := member 8 bytes 16
  shOffset := member 8 bytes 24
  shSize := member 8 bytes 32
  shLink := member 4 bytes 40
  shEntsize := member 8 bytes 56

def Elf64Sym.ofBytes (bytes : List Byte) : Elf64Sym where
  stName := member 4 bytes 0
  stInfo := member 1 bytes 4
  stValue := member 8 bytes 8
  stSize := member 8 bytes 16

/-- The bytes that a copy takes out of the mapping. -/
def fileRead (data : List Byte) (offset n : Nat) : Except Fault (List Byte) :=
  if n = 0 ∨ offset + n ≤ data.length then .ok ((data.drop offset).take n)
  else .error (.undefinedBehaviour "file read past its end")

/-- `resize` of an empty vector. -/
def resize (canAllocate : Nat → Bool) (elementSize n : Nat) : Except Fault Unit :=
  if maxSize elementSize < n then .error (.exception .lengthError)
  else if canAllocate (elementSize * n) then .ok ()
  else .error (.exception .badAlloc)

/-- A vector of structs, from the bytes copied into it; the rest of it is zero. -/
def structs {α : Type} (ofBytes : List Byte → α) (size n : Nat) (bytes : List Byte) : List α :=
  (List.range n).map fun i => ofBytes ((bytes.drop (i * size)).take size)

/-- The failures of `open`, `fstat` and `mmap` that do not come from what the file contains. -/
structure FileCalls where
  openError : Option Errno
  fstatError : Option Errno
  mmapError : Option Errno

/-- A call that fails or not. -/
def orError (what : String) (failure : Option Errno) : Except Fault Unit :=
  match failure with
  | some e => .error (.sendErrno what e)
  | none => .ok ()

def einval : Errno := ⟨22, "Invalid argument"⟩

/-- `mmap` refuses to map no bytes at all. -/
def mapFile (calls : FileCalls) (data : List Byte) : Except Fault Unit := do
  orError "could not open ELF file" calls.openError
  orError "could not retrieve ELF file stats" calls.fstatError
  orError "could not mmap ELF file" (if data = [] then some einval else calls.mmapError)

namespace Elf

variable (canAllocate : Nat → Bool) (elf : Elf)

/-- `n_headers`, a 16-bit variable whatever it is read from. -/
def sectionCount : Except Fault (BitVec 16) :=
  if elf.header.eShnum = 0 ∧ elf.header.eShentsize ≠ 0 then do
    let first ← fileRead elf.data elf.header.eShoff.toNat sizeofShdr
    pure ((Elf64Shdr.ofBytes first).shSize.setWidth 16)
  else pure elf.header.eShnum

def parseSectionHeaders : Except Fault Elf := do
  let nHeaders ← elf.sectionCount
  resize canAllocate sizeofShdr nHeaders.toNat
  let bytes ← fileRead elf.data elf.header.eShoff.toNat (nHeaders.toNat * sizeofShdr)
  pure { elf with sectionHeaders := structs Elf64Shdr.ofBytes sizeofShdr nHeaders.toNat bytes }

/-- The loop of `build_section_map`. A later section hides an earlier one of the same name. -/
def addSections : List Elf64Shdr → List (Text × Elf64Shdr) → Except Fault (List (Text × Elf64Shdr))
  | [], map => .ok map
  | sect :: sections, map => do
    let name ← elf.getSectionName sect.shName.toNat
    addSections sections ((name, sect) :: map)

def buildSectionMap : Except Fault Elf := do
  let map ← elf.addSections elf.sectionHeaders []
  pure { elf with sectionMap := map }

/-- The symbol table that `parse_symbol_table` picks. -/
def symbolSection : Option Elf64Shdr :=
  (elf.getSection ".symtab".toList).orElse fun _ => elf.getSection ".dynsym".toList

def parseSymbolTable : Except Fault Elf :=
  match elf.symbolSection with
  | none => .ok elf
  | some symtab =>
    if symtab.shEntsize = 0 then .error (.undefinedBehaviour "division by zero")
    else do
      let n := (symtab.shSize / symtab.shEntsize).toNat
      resize canAllocate sizeofSym n
      let bytes ← fileRead elf.data symtab.shOffset.toNat symtab.shSize.toNat
      if n * sizeofSym < symtab.shSize.toNat then
        .error (.undefinedBehaviour "copy past the end of the vector")
      else pure { elf with symbolTable := structs Elf64Sym.ofBytes sizeofSym n bytes }

/-- The part of `build_symbol_maps` about one symbol's address. -/
def addAddress (symbol : Elf64Sym) (map : OrderedMap Nat (Word × Elf64Sym)) :
    OrderedMap Nat (Word × Elf64Sym) :=
  if symbol.stValue ≠ 0 ∧ symbol.stName ≠ 0 ∧ elf64StType symbol.stInfo ≠ sttTls then
    map.insert symbol.stValue.toNat (symbol.stValue + symbol.stSize, symbol)
  else map

/-- The loop of `build_symbol_maps`, which reads the name of every symbol. -/
def addSymbols : List Elf64Sym → OrderedMap Nat (Word × Elf64Sym) →
    Except Fault (OrderedMap Nat (Word × Elf64Sym))
  | [], map => .ok map
  | symbol :: symbols, map => do
    let _ ← elf.getString symbol.stName.toNat
    addSymbols symbols (addAddress symbol map)

def buildSymbolMaps : Except Fault Elf := do
  let map ← elf.addSymbols elf.symbolTable .empty
  pure { elf with symbolAddrMap := map }

end Elf

/-- `elf::elf`. -/
def Elf.load (calls : FileCalls) (canAllocate : Nat → Bool) (data : List Byte) :
    Except Fault Elf := do
  mapFile calls data
  let bytes ← fileRead data 0 sizeofEhdr
  let elf : Elf := ⟨data, Elf64Ehdr.ofBytes bytes, [], [], 0, [], .empty⟩
  let elf ← elf.parseSectionHeaders canAllocate
  let elf ← elf.buildSectionMap
  let elf ← elf.parseSymbolTable canAllocate
  elf.buildSymbolMaps

end SdbDebugger
