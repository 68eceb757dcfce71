import SdbDebugger.ElfLoad
import SdbDebugger.Library.Exceptions

/-! What the constructor of `elf` makes of a file: the parts of the file as total functions of
its bytes, and the conditions under which the constructor returns them. -/

namespace SdbDebugger
open Exceptions ByteSpace

/-! ### The parts of a file -/

/-- The characters before the first zero byte. -/
def textFrom (bytes : List Byte) : Text :=
  (bytes.takeWhile fun b => b ≠ 0).map fun b => Char.ofNat b.toNat

namespace File

variable (data : List Byte)

def slice (offset n : Nat) : List Byte := (data.drop offset).take n

def header : Elf64Ehdr := Elf64Ehdr.ofBytes (slice data 0 sizeofEhdr)

def sectionOffset : Nat := (header data).eShoff.toNat

/-- The number of sections is in the first section header. -/
def Extended : Prop := (header data).eShnum = 0 ∧ (header data).eShentsize ≠ 0

instance : Decidable (Extended data) := inferInstanceAs (Decidable (_ ∧ _))

def sectionCount : BitVec 16 :=
  if Extended data then
    (Elf64Shdr.ofBytes (slice data (sectionOffset data) sizeofShdr)).shSize.setWidth 16
  else (header data).eShnum

def sections : List Elf64Shdr :=
  structs Elf64Shdr.ofBytes sizeofShdr (sectionCount data).toNat
    (slice data (sectionOffset data) ((sectionCount data).toNat * sizeofShdr))

/-- The section with the names of the sections. -/
def nameTable : Option Elf64Shdr := (sections data)[(header data).eShstrndx.toNat]?

/-- Where a string of a string table starts. -/
def stringStart (table : Elf64Shdr) (index : BitVec 32) : Nat :=
  table.shOffset.toNat + index.toNat

def sectionName (table sect : Elf64Shdr) : Text :=
  textFrom (data.drop (stringStart table sect.shName))

/-- Sections under their names, the last of a name first. -/
def named (table : Option Elf64Shdr) (sections : List Elf64Shdr) : List (Text × Elf64Shdr) :=
  match table with
  | none => []
  | some table => sections.reverse.map fun sect => (sectionName data table sect, sect)

def namedSections : List (Text × Elf64Shdr) := named data (nameTable data) (sections data)

def sectionNamed (name : String) : Option Elf64Shdr := (namedSections data).lookup name.toList

def symbolSection : Option Elf64Shdr :=
  (sectionNamed data ".symtab").orElse fun _ => sectionNamed data ".dynsym"

def stringTable : Option Elf64Shdr :=
  (sectionNamed data ".strtab").orElse fun _ => sectionNamed data ".dynstr"

def symbolCount (symtab : Elf64Shdr) : Nat := (symtab.shSize / symtab.shEntsize).toNat

def symbols : List Elf64Sym :=
  match symbolSection data with
  | none => []
  | some symtab =>
    structs Elf64Sym.ofBytes sizeofSym (symbolCount symtab)
      (slice data symtab.shOffset.toNat symtab.shSize.toNat)

def symbolAddresses : OrderedMap Nat (Word × Elf64Sym) :=
  (symbols data).foldl (fun map symbol => Elf.addAddress symbol map) .empty

/-- The object that the constructor makes. -/
def loaded : Elf :=
  ⟨data, header data, sections data, namedSections data, 0, symbols data, symbolAddresses data⟩

end File

/-! ### Reads that succeed -/

theorem fileRead_eq_ok {data bytes : List Byte} {offset n : Nat} :
    fileRead data offset n = .ok bytes ↔
      (n = 0 ∨ offset + n ≤ data.length) ∧ bytes = File.slice data offset n := by
  unfold fileRead File.slice
  split
  · next inside => simp [inside, eq_comm]
  · next outside => simp [outside]

/-- Room for a vector. -/
def Room (canAllocate : Nat → Bool) (elementSize n : Nat) : Prop :=
  n ≤ maxSize elementSize ∧ canAllocate (elementSize * n) = true

theorem resize_eq_ok {canAllocate : Nat → Bool} {elementSize n : Nat} {u : Unit} :
    resize canAllocate elementSize n = .ok u ↔ Room canAllocate elementSize n := by
  unfold resize Room
  split
  · next large => exact iff_of_false (by simp) fun h => by omega
  · next fits =>
    split
    · next possible => exact iff_of_true rfl ⟨not_lt.1 fits, possible⟩
    · next impossible => exact iff_of_false (by simp) fun h => impossible h.2

theorem cString_eq_ok {bytes : List Byte} {text : Text} :
    cString bytes = .ok text ↔ 0 ∈ bytes ∧ text = textFrom bytes := by
  induction bytes generalizing text with
  | nil => simp [cString]
  | cons b rest ih =>
    rw [cString]
    split
    · next zero =>
      rw [zero, and_iff_right List.mem_cons_self, Except.ok.injEq]
      exact eq_comm
    · next other =>
      rw [map_eq_ok]
      simp only [ih, textFrom, List.mem_cons, Ne.symm other, false_or, List.takeWhile_cons, other,
        ne_eq, not_false_eq_true, decide_true, if_true, List.map_cons]
      constructor
      · intro h
        obtain ⟨_, ⟨terminated, rfl⟩, rfl⟩ := h
        exact ⟨terminated, rfl⟩
      · intro h
        exact ⟨_, ⟨h.1, rfl⟩, h.2.symm⟩

/-! ### The stages of the constructor -/

section Stages

variable {canAllocate : Nat → Bool} {elf elf' : Elf}

/-- The number of sections can be read. -/
def Countable (data : List Byte) : Prop :=
  File.Extended data → File.sectionOffset data + sizeofShdr ≤ data.length

theorem sectionCount_eq_ok (same : elf.header = File.header elf.data) {n : BitVec 16} :
    elf.sectionCount = .ok n ↔ Countable elf.data ∧ n = File.sectionCount elf.data := by
  unfold Elf.sectionCount Countable File.sectionCount
  rw [same]
  change (if File.Extended elf.data then _ else _) = _ ↔ _
  by_cases extended : File.Extended elf.data
  · rw [if_pos extended, if_pos extended, bind_eq_ok]
    simp only [fileRead_eq_ok, extended, forall_const]
    constructor
    · intro h
      obtain ⟨_, ⟨inside, rfl⟩, count⟩ := h
      cases count
      exact ⟨inside.resolve_left (by decide), rfl⟩
    · intro h
      exact ⟨_, ⟨.inr h.1, rfl⟩, by rw [h.2]; rfl⟩
  · rw [if_neg extended, if_neg extended]
    simp [extended, pure, Except.pure, eq_comm]

/-- The section headers lie in the file, and there is room for them. -/
structure HeadersFit (canAllocate : Nat → Bool) (data : List Byte) : Prop where
  countable : Countable data
  room : Room canAllocate sizeofShdr (File.sectionCount data).toNat
  inside : (File.sectionCount data).toNat * sizeofShdr = 0 ∨
    File.sectionOffset data + (File.sectionCount data).toNat * sizeofShdr ≤ data.length

theorem parseSectionHeaders_eq_ok (same : elf.header = File.header elf.data) :
    elf.parseSectionHeaders canAllocate = .ok elf' ↔
      HeadersFit canAllocate elf.data ∧
        elf' = { elf with sectionHeaders := File.sections elf.data } := by
  unfold Elf.parseSectionHeaders
  simp only [bind_eq_ok, sectionCount_eq_ok same, resize_eq_ok, fileRead_eq_ok]
  constructor
  · intro h
    obtain ⟨_, ⟨countable, rfl⟩, _, room, _, ⟨inside, rfl⟩, made⟩ := h
    cases made
    rw [same] at inside
    exact ⟨⟨countable, room, inside⟩, by rw [same]; rfl⟩
  · intro h
    obtain ⟨fit, rfl⟩ := h
    refine ⟨_, ⟨fit.countable, rfl⟩, (), fit.room, _, ⟨?_, rfl⟩, ?_⟩
    · rw [same]
      exact fit.inside
    · rw [same]
      rfl

/-- The string at the index of a table ends inside the file. -/
def Terminated (data : List Byte) (table : Elf64Shdr) (index : BitVec 32) : Prop :=
  0 ∈ data.drop (File.stringStart table index)

theorem getSectionName_eq_ok {index : BitVec 32} {text : Text} :
    elf.getSectionName index.toNat = .ok text ↔
      ∃ table, elf.sectionHeaders[elf.header.eShstrndx.toNat]? = some table ∧
        Terminated elf.data table index ∧
        text = textFrom (elf.data.drop (File.stringStart table index)) := by
  unfold Elf.getSectionName
  cases elf.sectionHeaders[elf.header.eShstrndx.toNat]? with
  | none => simp
  | some table =>
    dsimp only
    rw [cString_eq_ok]
    simp [Terminated, File.stringStart]

theorem addSections_eq_ok {table : Option Elf64Shdr}
    (here : elf.sectionHeaders[elf.header.eShstrndx.toNat]? = table) {sections : List Elf64Shdr}
    {map map' : List (Text × Elf64Shdr)} :
    elf.addSections sections map = .ok map' ↔
      (∀ sect ∈ sections, ∃ t, table = some t ∧ Terminated elf.data t sect.shName) ∧
        map' = File.named elf.data table sections ++ map := by
  induction sections generalizing map with
  | nil => cases table <;> simp [Elf.addSections, File.named, eq_comm]
  | cons sect rest ih =>
    rw [Elf.addSections, bind_eq_ok]
    simp only [getSectionName_eq_ok, here, ih, List.forall_mem_cons]
    cases table with
    | none => simp
    | some t =>
      constructor
      · intro h
        obtain ⟨_, ⟨_, same, first, rfl⟩, others, rfl⟩ := h
        cases same
        refine ⟨⟨⟨t, rfl, first⟩, others⟩, ?_⟩
        simp [File.named, File.sectionName]
      · intro h
        obtain ⟨⟨⟨_, same, first⟩, others⟩, rfl⟩ := h
        cases same
        refine ⟨_, ⟨t, rfl, first, rfl⟩, others, ?_⟩
        simp [File.named, File.sectionName]

/-- Every section has a name in the file. -/
def Named (data : List Byte) : Prop :=
  ∀ sect ∈ File.sections data, ∃ table, File.nameTable data = some table ∧
    Terminated data table sect.shName

theorem buildSectionMap_eq_ok (same : elf.header = File.header elf.data)
    (sections : elf.sectionHeaders = File.sections elf.data) :
    elf.buildSectionMap = .ok elf' ↔
      Named elf.data ∧ elf' = { elf with sectionMap := File.namedSections elf.data } := by
  have here : elf.sectionHeaders[elf.header.eShstrndx.toNat]? = File.nameTable elf.data := by
    rw [same, sections]
    rfl
  unfold Elf.buildSectionMap Named File.namedSections
  simp only [bind_eq_ok, addSections_eq_ok here, List.append_nil, sections]
  constructor
  · intro h
    obtain ⟨_, ⟨names, rfl⟩, made⟩ := h
    cases made
    exact ⟨names, rfl⟩
  · intro h
    obtain ⟨names, rfl⟩ := h
    exact ⟨_, ⟨names, rfl⟩, rfl⟩

/-- The symbol table lies in the file, and the vector for it has room for all its bytes. -/
structure SymbolsFit (canAllocate : Nat → Bool) (data : List Byte) (symtab : Elf64Shdr) : Prop where
  entsize : symtab.shEntsize ≠ 0
  room : Room canAllocate sizeofSym (File.symbolCount symtab)
  inside : symtab.shSize.toNat = 0 ∨
    symtab.shOffset.toNat + symtab.shSize.toNat ≤ data.length
  fits : symtab.shSize.toNat ≤ File.symbolCount symtab * sizeofSym

theorem parseSymbolTable_eq_ok (sections : elf.sectionMap = File.namedSections elf.data)
    (empty : elf.symbolTable = []) :
    elf.parseSymbolTable canAllocate = .ok elf' ↔
      (∀ symtab, File.symbolSection elf.data = some symtab →
        SymbolsFit canAllocate elf.data symtab) ∧
      elf' = { elf with symbolTable := File.symbols elf.data } := by
  have chosen : elf.symbolSection = File.symbolSection elf.data := by
    unfold Elf.symbolSection Elf.getSection File.symbolSection File.sectionNamed
    rw [sections]
  unfold Elf.parseSymbolTable File.symbols
  rw [chosen]
  cases File.symbolSection elf.data with
  | none =>
    have kept : { elf with symbolTable := [] } = elf := by rw [← empty]
    rw [kept, Except.ok.injEq, eq_comm]
    exact (and_iff_right fun _ none => by simp at none).symm
  | some symtab =>
    dsimp only
    by_cases entsize : symtab.shEntsize = 0
    · rw [if_pos entsize]
      exact iff_of_false (by simp) fun h => (h.1 symtab rfl).entsize entsize
    rw [if_neg entsize]
    simp only [bind_eq_ok, resize_eq_ok, fileRead_eq_ok, Option.some.injEq, forall_eq']
    constructor
    · intro h
      obtain ⟨_, room, _, ⟨inside, rfl⟩, made⟩ := h
      split at made
      · simp at made
      · next fits =>
        cases made
        exact ⟨⟨entsize, room, inside, not_lt.1 fits⟩, rfl⟩
    · intro h
      obtain ⟨fit, rfl⟩ := h
      exact ⟨(), fit.room, _, ⟨fit.inside, rfl⟩, if_neg (not_lt.2 fit.fits)⟩

theorem getString_eq_ok (sections : elf.sectionMap = File.namedSections elf.data)
    {index : BitVec 32} : (∃ text, elf.getString index.toNat = .ok text) ↔
      ∀ table, File.stringTable elf.data = some table → Terminated elf.data table index := by
  have chosen : elf.stringTable = File.stringTable elf.data := by
    unfold Elf.stringTable Elf.getSection File.stringTable File.sectionNamed
    rw [sections]
  unfold Elf.getString
  rw [chosen]
  cases File.stringTable elf.data with
  | none => simp
  | some table => simp [cString_eq_ok, Terminated, File.stringStart]

theorem addSymbols_eq_ok (sections : elf.sectionMap = File.namedSections elf.data)
    {symbols : List Elf64Sym} {map map' : OrderedMap Nat (Word × Elf64Sym)} :
    elf.addSymbols symbols map = .ok map' ↔
      (∀ symbol ∈ symbols, ∀ table, File.stringTable elf.data = some table →
        Terminated elf.data table symbol.stName) ∧
      map' = symbols.foldl (fun map symbol => Elf.addAddress symbol map) map := by
  induction symbols generalizing map with
  | nil => simp [Elf.addSymbols, eq_comm]
  | cons symbol rest ih =>
    rw [Elf.addSymbols, bind_eq_ok, List.forall_mem_cons, ← getString_eq_ok sections, and_assoc,
      List.foldl_cons, ← ih, exists_and_right]

end Stages

/-! ### The constructor -/

/-- What the constructor needs of a file, once it is mapped. -/
structure Loadable (canAllocate : Nat → Bool) (data : List Byte) : Prop where
  header : sizeofEhdr ≤ data.length
  headers : HeadersFit canAllocate data
  names : Named data
  symbols : ∀ symtab, File.symbolSection data = some symtab → SymbolsFit canAllocate data symtab
  symbolNames : ∀ symbol ∈ File.symbols data, ∀ table, File.stringTable data = some table →
    Terminated data table symbol.stName

theorem load_eq_ok {calls : FileCalls} {canAllocate : Nat → Bool} {data : List Byte} {elf : Elf}
    (mapped : mapFile calls data = .ok ()) :
    Elf.load calls canAllocate data = .ok elf ↔
      Loadable canAllocate data ∧ elf = File.loaded data := by
  unfold Elf.load
  rw [mapped]
  change (fileRead data 0 sizeofEhdr >>= _) = _ ↔ _
  rw [bind_eq_ok]
  simp only [fileRead_eq_ok]
  constructor
  · intro h
    obtain ⟨_, ⟨inside, rfl⟩, rest⟩ := h
    obtain ⟨elf₁, first, rest⟩ := bind_eq_ok.1 rest
    obtain ⟨headers, rfl⟩ := (parseSectionHeaders_eq_ok rfl).1 first
    obtain ⟨elf₂, second, rest⟩ := bind_eq_ok.1 rest
    obtain ⟨names, rfl⟩ := (buildSectionMap_eq_ok rfl rfl).1 second
    obtain ⟨elf₃, third, rest⟩ := bind_eq_ok.1 rest
    obtain ⟨symbols, rfl⟩ := (parseSymbolTable_eq_ok rfl rfl).1 third
    obtain ⟨map, fourth, made⟩ := bind_eq_ok.1 rest
    obtain ⟨symbolNames, rfl⟩ := (addSymbols_eq_ok rfl).1 fourth
    cases made
    exact ⟨⟨by simpa [sizeofEhdr] using inside, headers, names, symbols, symbolNames⟩, rfl⟩
  · intro h
    obtain ⟨fit, rfl⟩ := h
    refine ⟨_, ⟨.inr (by simpa using fit.header), rfl⟩, ?_⟩
    refine bind_eq_ok.2 ⟨_, (parseSectionHeaders_eq_ok rfl).2 ⟨fit.headers, rfl⟩, ?_⟩
    refine bind_eq_ok.2 ⟨_, (buildSectionMap_eq_ok rfl rfl).2 ⟨fit.names, rfl⟩, ?_⟩
    refine bind_eq_ok.2 ⟨_, (parseSymbolTable_eq_ok rfl rfl).2 ⟨fit.symbols, rfl⟩, ?_⟩
    refine bind_eq_ok.2 ⟨_, (addSymbols_eq_ok rfl).2 ⟨fit.symbolNames, rfl⟩, rfl⟩

end SdbDebugger
