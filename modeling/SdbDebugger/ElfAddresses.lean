import Mathlib.Data.List.Find
import SdbDebugger.Elf

/-! File addresses and virtual addresses of a loaded file. Where no section wraps around, neither
in the file nor in memory, one search is the other moved by the load bias. -/

namespace SdbDebugger

/-- No section wraps around, before or after it is moved. -/
def NoWrap (elf : Elf) (bias : VirtAddr) : Prop :=
  ∀ sect ∈ elf.sectionHeaders, sect.shAddr.toNat + sect.shSize.toNat < 2 ^ 64 ∧
    bias.toNat + sect.shAddr.toNat + sect.shSize.toNat < 2 ^ 64

/-- The address lies in some section. -/
def InSection (elf : Elf) (address : Word) : Prop :=
  ∃ sect ∈ elf.sectionHeaders,
    sect.shAddr.toNat ≤ address.toNat ∧ address.toNat < sect.shAddr.toNat + sect.shSize.toNat

section Shift

variable {elf : Elf} {bias f : Word}

theorem contains_shift {sect : Elf64Shdr}
    (file : sect.shAddr.toNat + sect.shSize.toNat < 2 ^ 64)
    (memory : bias.toNat + sect.shAddr.toNat + sect.shSize.toNat < 2 ^ 64)
    (moved : f.toNat + bias.toNat < 2 ^ 64) :
    (decide (bias + sect.shAddr ≤ f + bias) && decide (bias + sect.shAddr + sect.shSize > f + bias)) =
      (decide (sect.shAddr ≤ f) && decide (sect.shAddr + sect.shSize > f)) := by
  have low : bias + sect.shAddr ≤ f + bias ↔ sect.shAddr ≤ f := by
    simp only [BitVec.le_def, BitVec.toNat_add]
    omega
  have high : bias + sect.shAddr + sect.shSize > f + bias ↔ sect.shAddr + sect.shSize > f := by
    simp only [gt_iff_lt, BitVec.lt_def, BitVec.toNat_add]
    omega
  rw [decide_eq_decide.2 low, decide_eq_decide.2 high]

/-- The two searches agree on an address and the moved address. -/
theorem sectionContaining_shift (noWrap : NoWrap elf bias) (moved : f.toNat + bias.toNat < 2 ^ 64) :
    (elf.notifyLoaded bias).getSectionContainingAddress (f + bias) =
      elf.sectionContainingFileAddr (some f) := by
  refine List.find?_congr fun sect member => ?_
  obtain ⟨file, memory⟩ := noWrap sect member
  exact contains_shift file memory moved

/-- In a section that does not wrap the search finds what contains the address. -/
theorem sectionContaining_of_inSection (noWrap : NoWrap elf bias) (inside : InSection elf f) :
    f.toNat + bias.toNat < 2 ^ 64 ∧ ∃ sect, elf.sectionContainingFileAddr (some f) = some sect := by
  obtain ⟨sect, member, low, high⟩ := inside
  obtain ⟨file, memory⟩ := noWrap sect member
  refine ⟨by omega, ?_⟩
  have here : (decide (sect.shAddr ≤ f) && decide (sect.shAddr + sect.shSize > f)) = true := by
    simp only [Bool.and_eq_true, decide_eq_true_eq, gt_iff_lt, BitVec.le_def, BitVec.lt_def,
      BitVec.toNat_add]
    omega
  exact Option.isSome_iff_exists.1 (List.find?_isSome.2 ⟨sect, member, here⟩)

theorem toVirtAddr_of_inSection (noWrap : NoWrap elf bias) (inside : InSection elf f) :
    (elf.notifyLoaded bias).toVirtAddr (some f) = .ok (f + bias) := by
  obtain ⟨_, sect, found⟩ := sectionContaining_of_inSection noWrap inside
  have same : (elf.notifyLoaded bias).sectionContainingFileAddr (some f) = some sect := found
  rw [Elf.toVirtAddr, same]
  rfl

theorem toFileAddr_of_inSection (noWrap : NoWrap elf bias) (inside : InSection elf f) :
    (elf.notifyLoaded bias).toFileAddr (f + bias) = some f := by
  obtain ⟨moved, sect, found⟩ := sectionContaining_of_inSection noWrap inside
  rw [Elf.toFileAddr, sectionContaining_shift noWrap moved, found]
  exact congrArg some (BitVec.add_sub_cancel f bias)

/-- A section found for a moved address contains it before it is moved. -/
theorem inSection_of_toFileAddr (noWrap : NoWrap elf bias) {v : VirtAddr} {f : Word}
    (back : (elf.notifyLoaded bias).toFileAddr v = some f) : InSection elf f ∧ v = f + bias := by
  obtain ⟨sect, found, rfl⟩ := Option.map_eq_some_iff.1 back
  have here := List.find?_some found
  have member := List.mem_of_find?_eq_some found
  obtain ⟨file, memory⟩ := noWrap sect member
  change (decide (bias + sect.shAddr ≤ v) && decide (bias + sect.shAddr + sect.shSize > v)) = true
    at here
  simp only [Bool.and_eq_true, decide_eq_true_eq, gt_iff_lt, BitVec.le_def, BitVec.lt_def,
    BitVec.toNat_add] at here
  refine ⟨⟨sect, member, ?_⟩, (BitVec.sub_add_cancel v bias).symm⟩
  change sect.shAddr.toNat ≤ (v - bias).toNat ∧ (v - bias).toNat < _
  rw [BitVec.toNat_sub]
  omega

end Shift

/-- Inside the sections the two conversions are inverse, and every lookup by address agrees on an
address and its image. -/
theorem addresses_inverse (elf : Elf) (bias : VirtAddr) (noWrap : NoWrap elf bias) :
    (∀ f, InSection elf f → ∃ v, (elf.notifyLoaded bias).toVirtAddr (some f) = .ok v ∧
      (elf.notifyLoaded bias).toFileAddr v = some f ∧
      (elf.notifyLoaded bias).getSectionContainingAddress v =
        (elf.notifyLoaded bias).sectionContainingFileAddr (some f) ∧
      (elf.notifyLoaded bias).symbolAtAddress v =
        (elf.notifyLoaded bias).symbolAtFileAddr (some f) ∧
      (elf.notifyLoaded bias).symbolContainingAddress v =
        (elf.notifyLoaded bias).symbolContainingFileAddr (some f)) ∧
    ∀ v, (elf.notifyLoaded bias).toFileAddr v ≠ none →
      (elf.notifyLoaded bias).toVirtAddr ((elf.notifyLoaded bias).toFileAddr v) = .ok v := by
  constructor
  · intro f inside
    have back := toFileAddr_of_inSection noWrap inside
    have moved := (sectionContaining_of_inSection noWrap inside).1
    refine ⟨f + bias, toVirtAddr_of_inSection noWrap inside, back,
      sectionContaining_shift noWrap moved, ?_, ?_⟩
    · rw [Elf.symbolAtAddress, back]
    · rw [Elf.symbolContainingAddress, back]
  · intro v some_address
    obtain ⟨f, back⟩ := Option.ne_none_iff_exists'.1 some_address
    obtain ⟨inside, rfl⟩ := inSection_of_toFileAddr noWrap back
    rw [back, toVirtAddr_of_inSection noWrap inside]

/-- A section at address zero, and code that it overlaps, with a function in it. -/
def overlappingSections : Elf where
  data := []
  header := ⟨0x1010, 0, 64, 2, 0⟩
  sectionHeaders := [⟨0, 1, 0, 0, 0, 0x1008, 0, 0⟩, ⟨0, 1, 6, 0x1000, 0, 0x100, 0, 0⟩]
  sectionMap := []
  loadBias := 0
  symbolTable := [⟨1, sttFunc, 0x1010, 0x20⟩]
  symbolAddrMap := OrderedMap.empty.insert 0x1010 (0x1030, ⟨1, sttFunc, 0x1010, 0x20⟩)

theorem addresses_inverse_overlapping :
    ∃ v, (overlappingSections.notifyLoaded 0x7000).toVirtAddr (some 0x1018) = .ok v ∧
      (overlappingSections.notifyLoaded 0x7000).toFileAddr v = some 0x1018 ∧
      (overlappingSections.notifyLoaded 0x7000).symbolContainingAddress v =
        (overlappingSections.notifyLoaded 0x7000).symbolContainingFileAddr (some 0x1018) := by
  have noWrap : NoWrap overlappingSections 0x7000 := by
    unfold NoWrap
    decide
  have inside : InSection overlappingSections 0x1018 := by
    unfold InSection
    decide
  obtain ⟨v, there, back, _, _, containing⟩ :=
    (addresses_inverse overlappingSections 0x7000 noWrap).1 0x1018 inside
  exact ⟨v, there, back, containing⟩

end SdbDebugger
