import SdbDebugger.ElfContents

/-! When loading a file stays inside the file. -/

namespace SdbDebugger
open Exceptions ByteSpace

/-! ### Which exceptions there are -/

/-- An `sdb::error`. -/
def IsError (e : Fault) : Prop := ∃ what, e = .error what

section NoErrors

variable {canAllocate : Nat → Bool} {elf : Elf} {data : List Byte}

theorem fileRead_noError (offset n : Nat) : ¬ Fails IsError (fileRead data offset n) := by
  unfold fileRead
  split
  · simp
  · simp [IsError]

theorem resize_noError (elementSize n : Nat) :
    ¬ Fails IsError (resize canAllocate elementSize n) := by
  unfold resize
  split_ifs
  · simp [IsError]
  · simp
  · simp [IsError]

theorem cString_noError (bytes : List Byte) : ¬ Fails IsError (cString bytes) := by
  induction bytes with
  | nil => simp [cString, IsError]
  | cons b rest ih =>
    rw [cString]
    split
    · simp
    · rw [fails_map]
      exact ih

theorem getSectionName_noError (index : Nat) : ¬ Fails IsError (elf.getSectionName index) := by
  unfold Elf.getSectionName
  split
  · simp [IsError]
  · exact cString_noError _

theorem getString_noError (index : Nat) : ¬ Fails IsError (elf.getString index) := by
  unfold Elf.getString
  split
  · simp
  · exact cString_noError _

theorem sectionCount_noError : ¬ Fails IsError elf.sectionCount := by
  unfold Elf.sectionCount
  split
  · exact not_fails_bind (fileRead_noError _ _) fun _ => (fails_pure _).1
  · exact (fails_pure _).1

theorem addSections_noError (sections : List Elf64Shdr) (map : List (Text × Elf64Shdr)) :
    ¬ Fails IsError (elf.addSections sections map) := by
  induction sections generalizing map with
  | nil => exact (fails_ok _).1
  | cons sect rest ih => exact not_fails_bind (getSectionName_noError _) fun _ => ih _

theorem addSymbols_noError (symbols : List Elf64Sym) (map : OrderedMap Nat (Word × Elf64Sym)) :
    ¬ Fails IsError (elf.addSymbols symbols map) := by
  induction symbols generalizing map with
  | nil => exact (fails_ok _).1
  | cons symbol rest ih => exact not_fails_bind (getString_noError _) fun _ => ih _

theorem parseSymbolTable_noError : ¬ Fails IsError (elf.parseSymbolTable canAllocate) := by
  unfold Elf.parseSymbolTable
  split
  · exact (fails_ok _).1
  · split
    · simp [IsError]
    · refine not_fails_bind (resize_noError _ _) fun _ =>
        not_fails_bind (fileRead_noError _ _) fun _ => ?_
      split
      · simp [IsError]
      · exact (fails_pure _).1

/-- Once the file is mapped, nothing checks what it contains. -/
theorem load_noError {calls : FileCalls} (mapped : mapFile calls data = .ok ()) :
    ¬ Fails IsError (Elf.load calls canAllocate data) := by
  unfold Elf.load
  rw [mapped]
  refine not_fails_bind (fails_ok _).1 fun _ => not_fails_bind (fileRead_noError _ _) fun bytes => ?_
  have headers : ∀ elf : Elf, ¬ Fails IsError (elf.parseSectionHeaders canAllocate) := fun elf =>
    not_fails_bind sectionCount_noError fun _ => not_fails_bind (resize_noError _ _) fun _ =>
      not_fails_bind (fileRead_noError _ _) fun _ => (fails_pure _).1
  have names : ∀ elf : Elf, ¬ Fails IsError elf.buildSectionMap := fun elf =>
    not_fails_bind (addSections_noError _ _) fun _ => (fails_pure _).1
  exact not_fails_bind (headers _) fun _ => not_fails_bind (names _) fun _ =>
    not_fails_bind parseSymbolTable_noError fun _ =>
      not_fails_bind (addSymbols_noError _ _) fun _ => (fails_pure _).1

end NoErrors

/-! ### What is handed out of the file -/

/-- The bytes of a span are bytes of the file. -/
def SpanInside (data : List Byte) (offset size : Word) : Prop :=
  size = 0 ∨ offset.toNat + size.toNat ≤ data.length

/-- Spans and strings that a loaded file hands out lie inside the file. -/
structure ViewsInside (elf : Elf) : Prop where
  contents : ∀ name offset size, elf.getSectionContents name = some (offset, size) →
    SpanInside elf.data offset size
  sectionNames : ∀ sect ∈ elf.sectionHeaders, ∃ text,
    elf.getSectionName sect.shName.toNat = .ok text
  strings : ∀ symbol ∈ elf.symbolTable, ∃ text, elf.getString symbol.stName.toNat = .ok text

/-- The constructor raises `sdb::error`, or it completes and only what is inside the file is
handed out. -/
def StaysInFile (calls : FileCalls) (canAllocate : Nat → Bool) (data : List Byte) : Prop :=
  (∃ what, Elf.load calls canAllocate data = .error (.error what)) ∨
    ∃ elf, Elf.load calls canAllocate data = .ok elf ∧ ViewsInside elf

/-- The file cannot be opened or mapped. -/
def Unmappable (calls : FileCalls) (data : List Byte) : Prop :=
  calls.openError ≠ none ∨ calls.fstatError ≠ none ∨ data = [] ∨ calls.mmapError ≠ none

theorem mapFile_cases (calls : FileCalls) (data : List Byte) :
    (Unmappable calls data ∧ ∃ what, mapFile calls data = .error (.error what)) ∨
      (¬ Unmappable calls data ∧ mapFile calls data = .ok ()) := by
  unfold Unmappable mapFile orError
  cases calls.openError with
  | some e => exact .inl ⟨.inl (by simp), _, rfl⟩
  | none =>
    cases calls.fstatError with
    | some e => exact .inl ⟨.inr (.inl (by simp)), _, rfl⟩
    | none =>
      by_cases empty : data = []
      · rw [if_pos empty]
        exact .inl ⟨.inr (.inr (.inl empty)), _, rfl⟩
      · rw [if_neg empty]
        cases calls.mmapError with
        | some e => exact .inl ⟨.inr (.inr (.inr (by simp))), _, rfl⟩
        | none => exact .inr ⟨by simp [empty], rfl⟩

/-- The bytes of every section that is found under its name are in the file. -/
def ContentsInside (data : List Byte) : Prop :=
  ∀ name sect, (File.namedSections data).lookup name = some sect →
    SpanInside data sect.shOffset sect.shSize

/-- The strings are those that the constructor has read. -/
theorem viewsInside_loaded {canAllocate : Nat → Bool} {data : List Byte}
    (fit : Loadable canAllocate data) : ViewsInside (File.loaded data) ↔ ContentsInside data := by
  constructor
  · intro inside name sect found
    refine inside.contents name _ _ ?_
    change ((File.namedSections data).lookup name).map _ = _
    rw [found]
    rfl
  · intro inside
    refine ⟨fun name offset size found => ?_, fun sect member => ?_, fun symbol member => ?_⟩
    · obtain ⟨sect, named, same⟩ := Option.map_eq_some_iff.1 found
      cases same
      exact inside name sect named
    · obtain ⟨table, here, terminated⟩ := fit.names sect member
      exact ⟨_, getSectionName_eq_ok.2 ⟨table, here, terminated, rfl⟩⟩
    · exact (getString_eq_ok rfl).2 (fit.symbolNames symbol member)

theorem staysInFile_iff (calls : FileCalls) (canAllocate : Nat → Bool) (data : List Byte) :
    StaysInFile calls canAllocate data ↔
      Unmappable calls data ∨ Loadable canAllocate data ∧ ContentsInside data := by
  rcases mapFile_cases calls data with ⟨failed, what, run⟩ | ⟨possible, mapped⟩
  · have refused : Elf.load calls canAllocate data = .error (.error what) := by
      unfold Elf.load
      rw [run]
      rfl
    exact iff_of_true (.inl ⟨what, refused⟩) (.inl failed)
  · have noError : ¬ ∃ what, Elf.load calls canAllocate data = .error (.error what) :=
      fun h => load_noError mapped ⟨_, h.choose_spec, _, rfl⟩
    unfold StaysInFile
    rw [or_iff_right noError, or_iff_right possible]
    simp only [load_eq_ok mapped]
    constructor
    · intro h
      obtain ⟨_, ⟨fit, rfl⟩, inside⟩ := h
      exact ⟨fit, (viewsInside_loaded fit).1 inside⟩
    · intro h
      exact ⟨_, ⟨h.1, rfl⟩, (viewsInside_loaded h.1).2 h.2⟩

/-- An ELF header whose one section header would be at offset `2 ^ 40`, and nothing else. -/
def farHeaders : List Byte := ((List.replicate 64 0).set 45 1).set 60 1

theorem not_staysInFile_farHeaders :
    ¬ StaysInFile ⟨none, none, none⟩ (fun _ => true) farHeaders := by
  have run : Elf.load ⟨none, none, none⟩ (fun _ => true) farHeaders =
      .error (.undefinedBehaviour "file read past its end") := rfl
  intro h
  rcases h with ⟨what, raised⟩ | ⟨elf, loaded, _⟩
  · simp [run] at raised
  · simp [run] at loaded

end SdbDebugger
