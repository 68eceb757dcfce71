import SdbDebugger.ElfContents

/-! The section headers of a file, as its header numbers them and as the constructor reads them.
Numbers that do not fit into the header are in the first section header. -/

namespace SdbDebugger
open Exceptions

/-! ### What the file says -/

def shnXindex : BitVec 16 := 0xffff

namespace File

variable (data : List Byte)

/-- What stands where the section headers start. -/
def firstHeader : Elf64Shdr := Elf64Shdr.ofBytes (slice data (sectionOffset data) sizeofShdr)

def numberOfSections : Nat :=
  if (header data).eShoff = 0 then 0
  else if (header data).eShnum ≠ 0 then (header data).eShnum.toNat
  else (firstHeader data).shSize.toNat

def nameIndex : Nat :=
  if (header data).eShstrndx = shnXindex then (firstHeader data).shLink.toNat
  else (header data).eShstrndx.toNat

def storedHeaders : List Elf64Shdr :=
  structs Elf64Shdr.ofBytes sizeofShdr (numberOfSections data)
    (slice data (sectionOffset data) (numberOfSections data * sizeofShdr))

def storedNames : Option Elf64Shdr := (storedHeaders data)[nameIndex data]?

/-- The section has the name in the name table. -/
def HasName (sect : Elf64Shdr) (name : Text) : Prop :=
  ∃ table, storedNames data = some table ∧ sectionName data table sect = name

/-- `e_phoff`, which stands in the file header where a section header has its size. -/
def programHeaderOffset : Word := member 8 (slice data 0 sizeofEhdr) 32

end File

/-- A 64-bit ELF file whose section headers, if it has any, and their names lie in the file. -/
structure WellFormed (data : List Byte) : Prop where
  ident : data.take 6 = [0x7f, 0x45, 0x4c, 0x46, 2, 1]
  header : sizeofEhdr ≤ data.length
  none : (File.header data).eShoff = 0 → (File.header data).eShnum = 0
  entsize : (File.header data).eShoff ≠ 0 →
    (File.header data).eShentsize = BitVec.ofNat 16 sizeofShdr
  first : (File.header data).eShoff ≠ 0 → File.sectionOffset data + sizeofShdr ≤ data.length
  inside : File.numberOfSections data = 0 ∨
    File.sectionOffset data + File.numberOfSections data * sizeofShdr ≤ data.length
  named : ∀ sect ∈ File.storedHeaders data, ∃ table, File.storedNames data = some table ∧
    Terminated data table sect.shName

/-! ### What the constructor reads -/

/-- A file that is mapped, before its sections are read. -/
def File.opened (data : List Byte) : Elf := ⟨data, File.header data, [], [], 0, [], .empty⟩

/-- The part of the constructor about sections. -/
def Elf.readSections (canAllocate : Nat → Bool) (elf : Elf) : Except Fault Elf := do
  let elf ← elf.parseSectionHeaders canAllocate
  elf.buildSectionMap

/-- The headers are those of the file, and a name finds a section of that name if there is one. -/
structure SectionsOf (data : List Byte) (elf : Elf) : Prop where
  headers : elf.sectionHeaders = File.storedHeaders data
  known : ∀ name, (∃ sect, elf.getSection name = some sect) ↔
    ∃ sect ∈ File.storedHeaders data, File.HasName data sect name
  found : ∀ name sect, elf.getSection name = some sect →
    sect ∈ File.storedHeaders data ∧ File.HasName data sect name

/-- The constructor reads all sections. -/
def LoadsSections (canAllocate : Nat → Bool) (data : List Byte) : Prop :=
  ∃ elf, (File.opened data).readSections canAllocate = .ok elf ∧ SectionsOf data elf

section Stages

variable {canAllocate : Nat → Bool} {data : List Byte} {elf : Elf}

theorem readSections_eq_ok : (File.opened data).readSections canAllocate = .ok elf ↔
    (HeadersFit canAllocate data ∧ Named data) ∧
      elf = { File.opened data with
        sectionHeaders := File.sections data, sectionMap := File.namedSections data } := by
  rw [Elf.readSections, bind_eq_ok]
  constructor
  · rintro ⟨_, first, second⟩
    obtain ⟨headers, rfl⟩ := (parseSectionHeaders_eq_ok rfl).1 first
    obtain ⟨names, rfl⟩ := (buildSectionMap_eq_ok rfl rfl).1 second
    exact ⟨⟨headers, names⟩, rfl⟩
  · rintro ⟨⟨headers, names⟩, rfl⟩
    exact ⟨_, (parseSectionHeaders_eq_ok rfl).2 ⟨headers, rfl⟩,
      (buildSectionMap_eq_ok rfl rfl).2 ⟨names, rfl⟩⟩

end Stages

/-! ### Where they agree -/

/-- No number that is read is too large for the header: a file without sections has no entry
size, or an `e_phoff` of which 16 bits are zero, there are fewer than 65536 sections, and the
name table is one of those that the header can number. -/
structure PlainNumbering (data : List Byte) : Prop where
  none : (File.header data).eShoff = 0 →
    (File.header data).eShentsize = 0 ∨ (File.programHeaderOffset data).setWidth 16 = 0#16
  count : File.numberOfSections data < 2 ^ 16
  names : File.numberOfSections data ≠ 0 → (File.header data).eShstrndx ≠ shnXindex

section Agree

variable {canAllocate : Nat → Bool} {data : List Byte} {elf : Elf}

theorem length_structs {α : Type} (ofBytes : List Byte → α) (size n : Nat) (bytes : List Byte) :
    (structs ofBytes size n bytes).length = n := by
  rw [structs, List.length_map, List.length_range]

theorem toNat_setWidth_eq (n : Word) : (n.setWidth 16).toNat = n.toNat ↔ n.toNat < 2 ^ 16 := by
  rw [BitVec.toNat_setWidth]
  omega

theorem sectionCount_absent (wellFormed : WellFormed data)
    (absent : (File.header data).eShoff = 0) :
    (File.sectionCount data).toNat = 0 ↔ (File.header data).eShentsize = 0 ∨
      (File.programHeaderOffset data).setWidth 16 = 0#16 := by
  have start : File.sectionOffset data = 0 := by
    rw [File.sectionOffset, absent]
    rfl
  have none := wellFormed.none absent
  rw [File.sectionCount, start]
  by_cases entsize : (File.header data).eShentsize = 0
  · have plain : ¬ File.Extended data := fun h => h.2 entsize
    rw [if_neg plain, none]
    exact iff_of_true rfl (.inl entsize)
  · have extended : File.Extended data := ⟨none, entsize⟩
    rw [if_pos extended, or_iff_right entsize]
    exact BitVec.toNat_inj (y := 0#16)

theorem sectionCount_present (wellFormed : WellFormed data)
    (present : (File.header data).eShoff ≠ 0) :
    (File.sectionCount data).toNat = File.numberOfSections data ↔
      File.numberOfSections data < 2 ^ 16 := by
  rw [File.sectionCount, File.numberOfSections, if_neg present]
  by_cases counted : (File.header data).eShnum = 0
  · have entsize : (File.header data).eShentsize ≠ 0 := by
      rw [wellFormed.entsize present]
      decide
    have extended : File.Extended data := ⟨counted, entsize⟩
    rw [if_pos extended, if_neg (not_not.2 counted)]
    exact toNat_setWidth_eq _
  · have plain : ¬ File.Extended data := fun h => counted h.1
    rw [if_neg plain, if_pos counted]
    exact iff_of_true rfl (BitVec.isLt _)

theorem sectionCount_eq_iff (wellFormed : WellFormed data) :
    (File.sectionCount data).toNat = File.numberOfSections data ↔
      ((File.header data).eShoff = 0 → (File.header data).eShentsize = 0 ∨
        (File.programHeaderOffset data).setWidth 16 = 0#16) ∧
      File.numberOfSections data < 2 ^ 16 := by
  by_cases absent : (File.header data).eShoff = 0
  · have none : File.numberOfSections data = 0 := if_pos absent
    rw [none, sectionCount_absent wellFormed absent]
    simp [absent]
  · rw [sectionCount_present wellFormed absent]
    exact (and_iff_right fun h => absurd h absent).symm

theorem sections_eq_iff : File.sections data = File.storedHeaders data ↔
    (File.sectionCount data).toNat = File.numberOfSections data := by
  constructor
  · intro same
    have lengths := congrArg List.length same
    rw [File.sections, File.storedHeaders, length_structs, length_structs] at lengths
    exact lengths
  · intro same
    rw [File.sections, File.storedHeaders, same]

theorem headersFit (memory : ∀ n < 2 ^ 22, canAllocate n = true) (wellFormed : WellFormed data)
    (count : (File.sectionCount data).toNat = File.numberOfSections data) :
    HeadersFit canAllocate data where
  countable _ := by
    by_cases absent : (File.header data).eShoff = 0
    · have start : File.sectionOffset data = 0 := by
        rw [File.sectionOffset, absent]
        rfl
      rw [start]
      exact (Nat.zero_add _).trans_le wellFormed.header
    · exact wellFormed.first absent
  room := by
    have small : (File.sectionCount data).toNat < 2 ^ 16 := (File.sectionCount data).isLt
    refine ⟨?_, memory _ ?_⟩
    · unfold maxSize sizeofShdr
      omega
    · unfold sizeofShdr
      omega
  inside := by
    rw [count]
    refine wellFormed.inside.imp (fun none => ?_) id
    rw [none, Nat.zero_mul]

theorem nameTable_eq (same : File.sections data = File.storedHeaders data)
    (names : File.numberOfSections data ≠ 0 → (File.header data).eShstrndx ≠ shnXindex) :
    File.nameTable data = File.storedNames data := by
  rw [File.nameTable, File.storedNames, same]
  by_cases empty : File.numberOfSections data = 0
  · have none : File.storedHeaders data = [] :=
      List.eq_nil_of_length_eq_zero (by rw [File.storedHeaders, length_structs, empty])
    rw [none, List.getElem?_nil, List.getElem?_nil]
  · rw [File.nameIndex, if_neg (names empty)]

/-- A 16-bit count leaves no section at the index that stands for a larger one. -/
theorem nameTable_xindex (escaped : (File.header data).eShstrndx = shnXindex) :
    File.nameTable data = none := by
  rw [File.nameTable, escaped, List.getElem?_eq_none_iff, File.sections, length_structs]
  exact Nat.le_of_lt_succ (File.sectionCount data).isLt

theorem mem_named {table : Option Elf64Shdr} {sections : List Elf64Shdr} {name : Text}
    {sect : Elf64Shdr} : (name, sect) ∈ File.named data table sections ↔
      sect ∈ sections ∧ ∃ t, table = some t ∧ File.sectionName data t sect = name := by
  cases table with
  | none => simp [File.named]
  | some t => simp [File.named, and_comm]

/-- The names of the sections, looked up in the map made of them. -/
theorem sectionsOf_read (same : File.sections data = File.storedHeaders data)
    (names : File.nameTable data = File.storedNames data) :
    SectionsOf data { File.opened data with
      sectionHeaders := File.sections data, sectionMap := File.namedSections data } := by
  have found : ∀ name sect, (File.namedSections data).lookup name = some sect →
      sect ∈ File.storedHeaders data ∧ File.HasName data sect name := by
    intro name sect here
    obtain ⟨before, after, split, _⟩ := List.lookup_eq_some_iff.1 here
    have member : (name, sect) ∈ File.namedSections data := by
      rw [split]
      exact List.mem_append_right _ List.mem_cons_self
    rw [File.namedSections, mem_named, same, names] at member
    exact member
  refine ⟨same, fun name => ⟨fun ⟨sect, here⟩ => ⟨sect, found name sect here⟩, ?_⟩, found⟩
  rintro ⟨sect, stored, named⟩
  refine Option.ne_none_iff_exists'.1 fun absent => ?_
  have member : (name, sect) ∈ File.namedSections data := by
    rw [File.namedSections, mem_named, same, names]
    exact ⟨stored, named⟩
  have other := List.lookup_eq_none_iff.1 absent _ member
  simp at other

end Agree

/-- The sections are read as the file has them exactly if the numbering is plain. The vector of
headers, of less than 4 MiB, is assumed to be allocated. -/
theorem loadsSections_iff {canAllocate : Nat → Bool} {data : List Byte}
    (memory : ∀ n < 2 ^ 22, canAllocate n = true) (wellFormed : WellFormed data) :
    LoadsSections canAllocate data ↔ PlainNumbering data := by
  constructor
  · rintro ⟨elf, read, sections⟩
    obtain ⟨⟨_, named⟩, rfl⟩ := readSections_eq_ok.1 read
    have same : File.sections data = File.storedHeaders data := sections.headers
    obtain ⟨none, count⟩ := (sectionCount_eq_iff wellFormed).1 (sections_eq_iff.1 same)
    refine ⟨none, count, fun some escaped => ?_⟩
    -- The first section already has no name to read.
    have length : (File.sections data).length = File.numberOfSections data := by
      rw [same, File.storedHeaders, length_structs]
    obtain ⟨sect, member⟩ := List.exists_mem_of_length_pos (length ▸ Nat.pos_of_ne_zero some)
    obtain ⟨table, there, _⟩ := named sect member
    rw [nameTable_xindex escaped] at there
    cases there
  · intro plain
    have count := (sectionCount_eq_iff wellFormed).2 ⟨plain.none, plain.count⟩
    have same := sections_eq_iff.2 count
    have names := nameTable_eq same plain.names
    have headers := headersFit memory wellFormed count
    have named : Named data := by
      unfold Named
      rw [same, names]
      exact wellFormed.named
    exact ⟨_, readSections_eq_ok.2 ⟨⟨headers, named⟩, rfl⟩, sectionsOf_read same names⟩

/-- The header of an executable file, with the program headers after it. -/
def fileHeader (shoff shnum shstrndx : Byte) : List Byte :=
  [0x7f, 0x45, 0x4c, 0x46, 2, 1, 1, 0] ++ List.replicate 8 0 ++
    [2, 0, 0x3e, 0, 1, 0, 0, 0] ++ List.replicate 8 0 ++
    (0x40 :: List.replicate 7 0) ++ (shoff :: List.replicate 7 0) ++
    [0, 0, 0, 0, 0x40, 0, 0x38, 0, 1, 0, 0x40, 0, shnum, 0, shstrndx, 0]

/-- Two sections, and the names of both in the second. -/
def namedFile : List Byte :=
  fileHeader 0x40 2 1 ++ List.replicate 64 0 ++
    [1, 0, 0, 0, 3, 0, 0, 0] ++ List.replicate 16 0 ++
    (0xc0 :: List.replicate 7 0) ++ (4 :: List.replicate 31 0) ++ [0, 0x2e, 0x73, 0]

instance decidableTerminated (data : List Byte) (table : Elf64Shdr) (index : BitVec 32) :
    Decidable (Terminated data table index) := inferInstanceAs (Decidable (0 ∈ _))

/-- A test of strings that are all in one table. -/
theorem terminated_of_all {α : Type} {data : List Byte} {items : List α} {index : α → BitVec 32}
    {tables : Option Elf64Shdr}
    (all : items.all fun x => tables.any fun table => Terminated data table (index x)) :
    ∀ x ∈ items, ∃ table, tables = some table ∧ Terminated data table (index x) := by
  intro x member
  obtain ⟨table, there, ends⟩ := (Option.any_eq_true _ _).1 (List.all_eq_true.1 all x member)
  exact ⟨table, there, of_decide_eq_true ends⟩

theorem wellFormed_namedFile : WellFormed namedFile where
  ident := rfl
  header := by decide +kernel
  none := by decide
  entsize := by decide
  first := by decide +kernel
  inside := by decide +kernel
  named := terminated_of_all (by decide +kernel)

theorem loadsSections_namedFile : LoadsSections (fun _ => true) namedFile :=
  (loadsSections_iff (fun _ _ => rfl) wellFormed_namedFile).2
    ⟨by decide, by decide, by decide⟩

/-- A file without sections, in which the constructor takes `e_phoff` for a number of them. -/
def strippedFile : List Byte := fileHeader 0 0 0 ++ List.replicate 0x38 0

theorem not_loadsSections_strippedFile :
    WellFormed strippedFile ∧ ¬ LoadsSections (fun _ => true) strippedFile := by
  refine ⟨⟨rfl, by decide, by decide, by decide, by decide, by decide, ?_⟩, ?_⟩
  · intro sect member
    cases member
  · have run : (File.opened strippedFile).readSections (fun _ => true) =
        .error (.undefinedBehaviour "file read past its end") := rfl
    rintro ⟨elf, read, _⟩
    rw [run] at read
    cases read

end SdbDebugger
