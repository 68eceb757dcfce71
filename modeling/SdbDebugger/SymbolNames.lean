import SdbDebugger.SectionNumbering

/-! The names of symbols. A symbol table says by `sh_link` where its names are, and `get_string`
takes the string table that it finds by name. -/

namespace SdbDebugger
open Exceptions

/-! ### What the file says -/

namespace File

variable (data : List Byte)

/-- The string that starts at an index of a string table. -/
def stringAt (table : Elf64Shdr) (index : BitVec 32) : Text :=
  textFrom (data.drop (stringStart table index))

/-- The string table of the symbol table that is loaded. -/
def linkedStrings : Option Elf64Shdr :=
  (symbolSection data).bind fun symtab => (storedHeaders data)[symtab.shLink.toNat]?

end File

/-- The symbol table is linked to a string table with all its names. -/
def WellLinked (data : List Byte) : Prop :=
  ∀ symbol ∈ File.symbols data, ∃ table, File.linkedStrings data = some table ∧
    Terminated data table symbol.stName

/-! ### What is read -/

/-- The part of the constructor up to the symbol table. -/
def Elf.readSymbols (canAllocate : Nat → Bool) (elf : Elf) : Except Fault Elf := do
  let elf ← elf.readSections canAllocate
  elf.parseSymbolTable canAllocate

/-- `get_string` gives every symbol its name from the linked string table. -/
def NamesLinked (data : List Byte) (elf : Elf) : Prop :=
  ∀ symbol ∈ elf.symbolTable, ∃ table, File.linkedStrings data = some table ∧
    elf.getString symbol.stName.toNat = .ok (File.stringAt data table symbol.stName)

/-- A name in the string table that is found under its name is the name in the linked one: both
tables start at the same place, or happen to have the same string at the index. Where no table
is found, only an empty name is right. -/
def SameName (data : List Byte) (linked : Elf64Shdr) (index : BitVec 32) : Option Elf64Shdr → Prop
  | none => File.stringAt data linked index = []
  | some picked => picked.shOffset = linked.shOffset ∨
      Terminated data picked index ∧ File.stringAt data picked index = File.stringAt data linked index

/-- The string table found under its name has the names of all the symbols. -/
def PicksNames (data : List Byte) : Prop :=
  ∀ symbol ∈ File.symbols data, ∀ linked, File.linkedStrings data = some linked →
    SameName data linked symbol.stName (File.stringTable data)

section Names

variable {canAllocate : Nat → Bool} {data : List Byte} {elf : Elf}

theorem readSymbols_eq (read : (File.opened data).readSymbols canAllocate = .ok elf) :
    elf.data = data ∧ elf.sectionMap = File.namedSections data ∧
      elf.symbolTable = File.symbols data := by
  obtain ⟨sections, first, second⟩ := bind_eq_ok.1 read
  obtain ⟨_, rfl⟩ := readSections_eq_ok.1 first
  obtain ⟨_, rfl⟩ := (parseSymbolTable_eq_ok rfl rfl).1 second
  exact ⟨rfl, rfl, rfl⟩

theorem stringTable_eq (sections : elf.sectionMap = File.namedSections data) :
    elf.stringTable = File.stringTable data := by
  unfold Elf.stringTable Elf.getSection File.stringTable File.sectionNamed
  rw [sections]

theorem getString_sameName {linked : Elf64Shdr} {index : BitVec 32} (same : elf.data = data)
    (sections : elf.sectionMap = File.namedSections data) (ends : Terminated data linked index) :
    elf.getString index.toNat = .ok (File.stringAt data linked index) ↔
      SameName data linked index (File.stringTable data) := by
  rw [Elf.getString, stringTable_eq sections, same]
  cases File.stringTable data with
  | none =>
    change Except.ok [] = .ok _ ↔ _
    rw [Except.ok.injEq]
    exact eq_comm
  | some picked =>
    refine cString_eq_ok.trans ?_
    constructor
    · rintro ⟨terminated, text⟩
      exact .inr ⟨terminated, text.symm⟩
    · rintro (start | ⟨terminated, text⟩)
      · rw [Terminated, File.stringStart, ← start] at ends
        exact ⟨ends, by rw [File.stringAt, File.stringStart, ← start]⟩
      · exact ⟨terminated, text.symm⟩

/-- The names are right exactly if the two string tables agree about them. -/
theorem namesLinked_iff (read : (File.opened data).readSymbols canAllocate = .ok elf)
    (wellLinked : WellLinked data) : NamesLinked data elf ↔ PicksNames data := by
  obtain ⟨same, sections, symbols⟩ := readSymbols_eq read
  unfold NamesLinked PicksNames
  rw [symbols]
  refine forall₂_congr fun symbol member => ?_
  obtain ⟨table, linked, ends⟩ := wellLinked symbol member
  have named := getString_sameName same sections ends
  constructor
  · rintro ⟨_, there, text⟩ linked' here
    rw [linked] at there here
    cases there
    cases here
    exact named.1 text
  · intro agree
    exact ⟨table, linked, named.2 (agree table linked)⟩

end Names

/-! ### A dynamic symbol table -/

/-- A header of a section, of which the sizes and the offset are below 65536. -/
def sectionBytes (name type offset size link entsize : Byte) (offsetHigh : Byte) : List Byte :=
  [name, 0, 0, 0, type, 0, 0, 0] ++ List.replicate 16 0 ++
    [offset, offsetHigh] ++ List.replicate 6 0 ++ (size :: List.replicate 7 0) ++
    [link, 0, 0, 0, 0, 0, 0, 0] ++ List.replicate 8 0 ++ (entsize :: List.replicate 7 0)

/-- `.dynsym` with one function after the null symbol, `.dynstr` with its name `f`, and the
string table with the names of the sections, which is called `.strtab` if its name starts at 17. -/
def dynamicFile (name : Byte) : List Byte :=
  fileHeader 0x40 4 3 ++ List.replicate 64 0 ++
    sectionBytes 1 11 0x40 0x30 2 0x18 1 ++ sectionBytes 9 3 0x70 3 0 0 1 ++
    sectionBytes name 3 0x73 0x19 0 0 1 ++
    List.replicate 24 0 ++ [1, 0, 0, 0, 0x12, 0, 0, 0] ++ List.replicate 16 0 ++
    [0, 0x66, 0] ++
    [0, 0x2e, 0x64, 0x79, 0x6e, 0x73, 0x79, 0x6d, 0, 0x2e, 0x64, 0x79, 0x6e, 0x73, 0x74, 0x72, 0,
      0x2e, 0x73, 0x74, 0x72, 0x74, 0x61, 0x62, 0]

def dynstr : Elf64Shdr := ⟨9, 3, 0, 0, 0x170, 3, 0, 0⟩

theorem read_dynamicFile (name : Byte) (isOk : Except.isOk
    ((File.opened (dynamicFile name)).readSymbols fun _ => true) = true) :
    ∃ elf, (File.opened (dynamicFile name)).readSymbols (fun _ => true) = .ok elf := by
  cases read : (File.opened (dynamicFile name)).readSymbols fun _ => true with
  | error e =>
    rw [read] at isOk
    cases isOk
  | ok elf => exact ⟨elf, rfl⟩

/-- The name table is not called `.strtab`, so the names come from `.dynstr`. -/
theorem namesLinked_dynamicFile :
    ∃ elf, (File.opened (dynamicFile 18)).readSymbols (fun _ => true) = .ok elf ∧
      NamesLinked (dynamicFile 18) elf := by
  obtain ⟨elf, read⟩ := read_dynamicFile 18 (by decide +kernel)
  have wellLinked : WellLinked (dynamicFile 18) := terminated_of_all (by decide +kernel)
  have picked : File.stringTable (dynamicFile 18) = some dynstr := by decide +kernel
  have chosen : File.linkedStrings (dynamicFile 18) = some dynstr := by decide +kernel
  refine ⟨elf, read, (namesLinked_iff read wellLinked).2 fun symbol _ linked there => ?_⟩
  rw [chosen] at there
  cases there
  rw [picked]
  exact .inl rfl

/-- The names of the symbols come from the name table of the sections. -/
theorem not_namesLinked_dynamicFile :
    WellFormed (dynamicFile 17) ∧ WellLinked (dynamicFile 17) ∧
      ∃ elf, (File.opened (dynamicFile 17)).readSymbols (fun _ => true) = .ok elf ∧
        ¬ NamesLinked (dynamicFile 17) elf := by
  have wellFormed : WellFormed (dynamicFile 17) :=
    ⟨rfl, by decide +kernel, by decide +kernel, by decide +kernel, by decide +kernel,
      by decide +kernel, terminated_of_all (by decide +kernel)⟩
  obtain ⟨elf, read⟩ := read_dynamicFile 17 (by decide +kernel)
  obtain ⟨same, sections, symbols⟩ := readSymbols_eq read
  refine ⟨wellFormed, terminated_of_all (by decide +kernel), elf, read, fun names => ?_⟩
  have member : ⟨1, 0x12, 0, 0⟩ ∈ elf.symbolTable := by
    rw [symbols]
    decide +kernel
  obtain ⟨table, linked, text⟩ := names _ member
  have chosen : File.linkedStrings (dynamicFile 17) = some dynstr := by decide +kernel
  rw [chosen] at linked
  cases linked
  have ends : Terminated (dynamicFile 17) dynstr 1 := by decide +kernel
  have agree := (getString_sameName same sections ends).1 text
  have picked : File.stringTable (dynamicFile 17) = some ⟨17, 3, 0, 0, 0x173, 0x19, 0, 0⟩ := by
    decide +kernel
  rw [picked] at agree
  rcases agree with start | ⟨_, texts⟩
  · exact absurd start (by decide)
  · exact absurd texts (by decide +kernel)

end SdbDebugger
