import SdbDebugger.ElfAddresses

/-! Which section contains an address. Sections that are not loaded have an address as well, mostly
zero, and the search takes the first section in the table. -/

namespace SdbDebugger

def shfAlloc : Word := 2

def Elf64Shdr.Alloc (s : Elf64Shdr) : Prop := s.shFlags &&& shfAlloc ≠ 0

/-- The section, moved by a bias, contains the address. -/
def Elf64Shdr.Covers (s : Elf64Shdr) (bias address : Word) : Prop :=
  bias.toNat + s.shAddr.toNat ≤ address.toNat ∧
    address.toNat < bias.toNat + s.shAddr.toNat + s.shSize.toNat

instance Elf64Shdr.decidableAlloc (s : Elf64Shdr) : Decidable s.Alloc := inferInstanceAs (Decidable (_ ≠ _))

instance Elf64Shdr.decidableCovers (s : Elf64Shdr) (bias address : Word) :
    Decidable (s.Covers bias address) :=
  inferInstanceAs (Decidable (_ ∧ _))

/-- The address is outside of all the sections that are loaded. -/
def OutsideLoaded (sections : List Elf64Shdr) (bias address : Word) : Prop :=
  ∀ s ∈ sections, s.Alloc → ¬ s.Covers bias address

/-- A search returns a loaded section around the address, or nothing where there is none. -/
structure ReportsLoaded (sections : List Elf64Shdr) (bias address : Word)
    (found : Option Elf64Shdr) : Prop where
  inside : ¬ OutsideLoaded sections bias address →
    ∃ s ∈ sections, found = some s ∧ s.Alloc ∧ s.Covers bias address
  outside : OutsideLoaded sections bias address → found = none

/-- Before a section around the address that is not loaded there is one that is. -/
def LoadedFirst (sections : List Elf64Shdr) (bias address : Word) : Prop :=
  ∀ earlier s later, sections = earlier ++ s :: later → s.Covers bias address → ¬ s.Alloc →
    ∃ t ∈ earlier, t.Alloc ∧ t.Covers bias address

section Search

variable {sections : List Elf64Shdr} {bias address : Word}

theorem loadedFirst_iff : LoadedFirst sections bias address ↔
    ∀ s, sections.find? (fun s => s.Covers bias address) = some s → s.Alloc := by
  constructor
  · intro first s found
    obtain ⟨covers, earlier, later, split, before⟩ := List.find?_eq_some_iff_append.1 found
    by_contra unloaded
    obtain ⟨t, there, _, covered⟩ := first earlier s later split (of_decide_eq_true covers) unloaded
    have absent := before t there
    simp [covered] at absent
  · intro loaded earlier s later split covers unloaded
    have here : (s :: later).find? (fun s => s.Covers bias address) = some s := by
      rw [List.find?_cons, decide_eq_true covers]
    rw [split, List.find?_append, here] at loaded
    cases found : earlier.find? fun s => s.Covers bias address with
    | none =>
      rw [found] at loaded
      exact absurd (loaded s rfl) unloaded
    | some t =>
      rw [found] at loaded
      have covered : t.Covers bias address := by simpa using List.find?_some found
      exact ⟨t, List.mem_of_find?_eq_some found, loaded t rfl, covered⟩

/-- The search for a section is right exactly if loaded sections come first. -/
theorem reportsLoaded_iff : ReportsLoaded sections bias address
    (sections.find? fun s => s.Covers bias address) ↔ LoadedFirst sections bias address := by
  rw [loadedFirst_iff]
  constructor
  · intro reports s found
    have known : ¬ OutsideLoaded sections bias address := fun outside => by
      rw [reports.outside outside] at found
      cases found
    obtain ⟨t, _, same, loaded, _⟩ := reports.inside known
    rw [found] at same
    exact Option.some.inj same ▸ loaded
  · intro loaded
    cases found : sections.find? fun s => s.Covers bias address with
    | none =>
      refine ⟨fun known => absurd (fun s member _ covers => ?_) known, fun _ => rfl⟩
      exact List.find?_eq_none.1 found s member (decide_eq_true covers)
    | some s =>
      have member := List.mem_of_find?_eq_some found
      have covers : s.Covers bias address := by simpa using List.find?_some found
      exact ⟨fun _ => ⟨s, member, rfl, loaded s found, covers⟩,
        fun outside => absurd covers (outside s member (loaded s found))⟩

/-- Outside of the loaded sections the search is right exactly if nothing else is there. -/
theorem loadedFirst_outside (outside : OutsideLoaded sections bias address) :
    LoadedFirst sections bias address ↔ ∀ s ∈ sections, ¬ s.Covers bias address := by
  constructor
  · intro first s member covers
    obtain ⟨earlier, later, split⟩ := List.append_of_mem member
    have unloaded : ¬ s.Alloc := fun loaded => outside s member loaded covers
    obtain ⟨t, there, loaded, covered⟩ := first earlier s later split covers unloaded
    exact outside t (split ▸ List.mem_append_left _ there) loaded covered
  · intro absent earlier s later split covers _
    exact absurd covers (absent s (split ▸ List.mem_append_right _ List.mem_cons_self))

end Search

/-- The test of both searches, on a section without wrap-around. -/
theorem between_iff {start size address : Word} (fits : start.toNat + size.toNat < 2 ^ 64) :
    start ≤ address ∧ start + size > address ↔
      start.toNat ≤ address.toNat ∧ address.toNat < start.toNat + size.toNat := by
  rw [gt_iff_lt, BitVec.le_def, BitVec.lt_def, BitVec.toNat_add, Nat.mod_eq_of_lt fits]

section Overloads

variable {elf : Elf} (noWrap : NoWrap elf elf.loadBias)
include noWrap

theorem sectionContainingFileAddr_eq (f : Word) :
    elf.sectionContainingFileAddr (some f) = elf.sectionHeaders.find? fun s => s.Covers 0 f := by
  refine List.find?_congr fun s member => ?_
  have zero : (0 : Word).toNat + s.shAddr.toNat = s.shAddr.toNat := Nat.zero_add _
  rw [← Bool.decide_and]
  refine decide_eq_decide.2 ?_
  rw [between_iff (noWrap s member).1, Elf64Shdr.Covers, zero]

theorem getSectionContainingAddress_eq (v : VirtAddr) :
    elf.getSectionContainingAddress v =
      elf.sectionHeaders.find? fun s => s.Covers elf.loadBias v := by
  refine List.find?_congr fun s member => ?_
  have fits := (noWrap s member).2
  have moved : (elf.loadBias + s.shAddr).toNat = elf.loadBias.toNat + s.shAddr.toNat := by
    rw [BitVec.toNat_add, Nat.mod_eq_of_lt (by omega)]
  rw [← Bool.decide_and]
  refine decide_eq_decide.2 ?_
  rw [between_iff (by rwa [moved]), Elf64Shdr.Covers, moved]

theorem toFileAddr_eq_none (v : VirtAddr) : elf.toFileAddr v = none ↔
    ∀ s ∈ elf.sectionHeaders, ¬ s.Covers elf.loadBias v := by
  rw [Elf.toFileAddr, getSectionContainingAddress_eq noWrap, Option.map_eq_none_iff,
    List.find?_eq_none]
  simp only [decide_eq_true_eq]

/-- Zero is returned where no section is found, and by accident for address zero of a file that is
not moved. -/
theorem toVirtAddr_eq_zero (f : Word) : elf.toVirtAddr (some f) = .ok 0 ↔
    (∀ s ∈ elf.sectionHeaders, ¬ s.Covers 0 f) ∨ f + elf.loadBias = 0 := by
  rw [Elf.toVirtAddr, sectionContainingFileAddr_eq noWrap]
  cases found : elf.sectionHeaders.find? fun s => s.Covers 0 f with
  | none =>
    refine iff_of_true rfl (.inl fun s member covers => ?_)
    exact List.find?_eq_none.1 found s member (decide_eq_true covers)
  | some s =>
    have covers : s.Covers 0 f := by simpa using List.find?_some found
    rw [or_iff_right fun absent => absent s (List.mem_of_find?_eq_some found) covers]
    change Except.ok (f + elf.loadBias) = .ok 0 ↔ _
    rw [Except.ok.injEq]

end Overloads

/-- When the lookups by address report loaded sections only, at each file address and at each
virtual address. -/
theorem reportsLoaded_elf_iff (elf : Elf) (noWrap : NoWrap elf elf.loadBias) :
    (∀ f, ReportsLoaded elf.sectionHeaders 0 f (elf.sectionContainingFileAddr (some f)) ↔
      LoadedFirst elf.sectionHeaders 0 f) ∧
    (∀ v, ReportsLoaded elf.sectionHeaders elf.loadBias v (elf.getSectionContainingAddress v) ↔
      LoadedFirst elf.sectionHeaders elf.loadBias v) ∧
    (∀ v, OutsideLoaded elf.sectionHeaders elf.loadBias v →
      (elf.toFileAddr v = none ↔ LoadedFirst elf.sectionHeaders elf.loadBias v)) ∧
    ∀ f, OutsideLoaded elf.sectionHeaders 0 f →
      (elf.toVirtAddr (some f) = .ok 0 ↔
        LoadedFirst elf.sectionHeaders 0 f ∨ f + elf.loadBias = 0) := by
  refine ⟨fun f => ?_, fun v => ?_, fun v outside => ?_, fun f outside => ?_⟩
  · rw [sectionContainingFileAddr_eq noWrap]
    exact reportsLoaded_iff
  · rw [getSectionContainingAddress_eq noWrap]
    exact reportsLoaded_iff
  · rw [toFileAddr_eq_none noWrap, loadedFirst_outside outside]
  · rw [toVirtAddr_eq_zero noWrap, loadedFirst_outside outside]

/-- Code at 0x1000, and debug information without an address. -/
def debugSections : Elf where
  data := []
  header := ⟨0x1010, 0x40, 64, 2, 0⟩
  sectionHeaders := [⟨0, 1, 6, 0x1000, 0, 0x100, 0, 0⟩, ⟨0, 1, 0, 0, 0, 0x800, 0, 0⟩]
  sectionMap := []
  loadBias := 0x7000
  symbolTable := []
  symbolAddrMap := .empty

theorem noWrap_debugSections : NoWrap debugSections debugSections.loadBias := by
  unfold NoWrap
  decide

theorem reportsLoaded_elf_debugSections :
    ReportsLoaded debugSections.sectionHeaders 0 0x1010
      (debugSections.sectionContainingFileAddr (some 0x1010)) := by
  refine ((reportsLoaded_elf_iff debugSections noWrap_debugSections).1 0x1010).2 ?_
  refine loadedFirst_iff.2 fun s found => ?_
  cases found
  decide

/-- The file header is loaded with the code, but no section is there. -/
theorem not_reportsLoaded_debugSections :
    NoWrap debugSections debugSections.loadBias ∧
    OutsideLoaded debugSections.sectionHeaders debugSections.loadBias 0x7010 ∧
    ¬ ReportsLoaded debugSections.sectionHeaders debugSections.loadBias 0x7010
      (debugSections.getSectionContainingAddress 0x7010) ∧
    debugSections.toFileAddr 0x7010 ≠ none ∧ debugSections.toVirtAddr (some 0x10) ≠ .ok 0 := by
  have outside :
      OutsideLoaded debugSections.sectionHeaders debugSections.loadBias 0x7010 := by
    unfold OutsideLoaded
    decide
  refine ⟨noWrap_debugSections, outside, fun reports => ?_, by decide, ?_⟩
  · have found := reports.outside outside
    cases found
  · intro same
    cases same

end SdbDebugger
