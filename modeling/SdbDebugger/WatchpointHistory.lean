import SdbDebugger.KernelLaws
import SdbDebugger.Library.KeyedList
import SdbDebugger.SiteList
import Mathlib.Data.List.InsertIdx

/-! What the reads of watchpoint values find. A read finds the program's memory under the
traps of that moment; what has happened to the watchpoints and the program determines the
last two reads of each watchpoint, up to these traps. -/

namespace SdbDebugger
open ByteSpace Overlay KeyedList

/-- Memory as one read finds it. -/
structure Glance where
  program : Memory
  traps : Set VirtAddr

/-- Eight bytes at most are copied; a value is completed with zeros. -/
noncomputable def Glance.value (g : Glance) (address : VirtAddr) (size : BitVec 64) : Word :=
  ofBytes 8 fun j =>
    if j < size.toNat then patch g.traps BreakpointSite.int3 g.program (address + BitVec.ofNat 64 j)
    else 0

/-- The program holds the same bytes in a range. -/
def Glance.SameProgram (g g' : Glance) (address : VirtAddr) (size : BitVec 64) : Prop :=
  ∀ j < size.toNat, g.program (address + BitVec.ofNat 64 j) = g'.program (address + BitVec.ofNat 64 j)

/-- A byte of a range that is not a trap byte of the program's own is trapped at both or at
neither. -/
def Glance.SameTraps (g g' : Glance) (address : VirtAddr) (size : BitVec 64) : Prop :=
  ∀ j < size.toNat,
    (address + BitVec.ofNat 64 j ∈ g.traps ↔ address + BitVec.ofNat 64 j ∈ g'.traps) ∨
      g.program (address + BitVec.ofNat 64 j) = BreakpointSite.int3

/-- Over the same bytes, the values differ exactly by the traps. -/
theorem Glance.value_eq_iff {g g' : Glance} {address : VirtAddr} {size : BitVec 64}
    (small : size.toNat ≤ 8) (same : g.SameProgram g' address size) :
    g.value address size = g'.value address size ↔ g.SameTraps g' address size := by
  rw [Glance.value, Glance.value, ofBytes_eq_ofBytes_iff]
  constructor
  · intro equal j hj
    have byte := equal j (by omega)
    rw [if_pos hj, if_pos hj, patch_eq_patch_iff (same j hj)] at byte
    exact byte
  · intro traps j _
    by_cases hj : j < size.toNat
    · rw [if_pos hj, if_pos hj, patch_eq_patch_iff (same j hj)]
      exact traps j hj
    · rw [if_neg hj, if_neg hj]

/-- A watchpoint with its last read and the one before it. -/
structure Sight where
  address : VirtAddr
  size : BitVec 64
  last : Glance
  before : Option Glance

/-- A sight without its traps. -/
structure Seen where
  address : VirtAddr
  size : BitVec 64
  last : Memory
  before : Option Memory

def Seen.look (memory : Memory) (s : Seen) : Seen :=
  { s with last := memory, before := some s.last }

/-- What a watchpoint is about and the two values it holds. -/
structure Reading where
  address : VirtAddr
  size : BitVec 64
  data : Word
  previousData : Word
  deriving DecidableEq, Repr

noncomputable def Reading.look (g : Glance) (r : Reading) : Reading :=
  { r with previousData := r.data, data := g.value r.address r.size }

namespace Sight

noncomputable def reading (s : Sight) : Reading :=
  ⟨s.address, s.size, s.last.value s.address s.size,
    s.before.elim 0 fun g => g.value s.address s.size⟩

/-- The next read. -/
def look (g : Glance) (s : Sight) : Sight := { s with last := g, before := some s.last }

def seen (s : Sight) : Seen := ⟨s.address, s.size, s.last.program, s.before.map Glance.program⟩

theorem reading_look (g : Glance) (s : Sight) : (s.look g).reading = s.reading.look g := rfl

theorem seen_look (g : Glance) (s : Sight) : (s.look g).seen = s.seen.look g.program := rfl

/-- The last two reads met the same traps as those of another run. -/
structure SameTraps (s s' : Sight) : Prop where
  last : s.last.SameTraps s'.last s.address s.size
  before : ∀ g g', s.before = some g → s'.before = some g' → g.SameTraps g' s.address s.size

/-- If the program has not changed what is watched between the last two reads, they met the
same traps. -/
def Steady (s : Sight) : Prop :=
  ∀ g, s.before = some g → s.last.SameProgram g s.address s.size →
    s.last.SameTraps g s.address s.size

/-- If the values differ, the program has changed what is watched. -/
def OwnChange (s : Sight) : Prop :=
  ∀ g, s.before = some g → s.reading.data ≠ s.reading.previousData →
    ¬ s.last.SameProgram g s.address s.size

theorem ownChange_iff {s : Sight} (small : s.size.toNat ≤ 8) : s.OwnChange ↔ s.Steady := by
  refine forall₂_congr fun g before => ?_
  have values : s.reading.data ≠ s.reading.previousData ↔
      ¬ s.last.value s.address s.size = g.value s.address s.size := by
    simp [reading, before]
  rw [values, imp_not_comm, not_not]
  exact forall_congr' fun same => Glance.value_eq_iff small same

theorem reading_eq_iff {s s' : Sight} (small : s.size.toNat ≤ 8) (same : s.seen = s'.seen) :
    s.reading = s'.reading ↔ s.SameTraps s' := by
  obtain ⟨address, size, last, before⟩ := s
  obtain ⟨address', size', last', before'⟩ := s'
  simp only [seen, Seen.mk.injEq] at same
  obtain ⟨rfl, rfl, program, earlier⟩ := same
  have lasts : last.value address size = last'.value address size ↔
      last.SameTraps last' address size :=
    Glance.value_eq_iff small fun j _ => congrFun program _
  simp only [reading, Reading.mk.injEq, true_and]
  rw [lasts]
  cases before with
  | none =>
    have none' : before' = none := by simpa using earlier.symm
    subst none'
    refine ⟨fun h => ⟨h.1, fun _ _ h => by cases h⟩, fun h => ⟨h.last, rfl⟩⟩
  | some g =>
    obtain ⟨g', some', programs⟩ := Option.map_eq_some_iff.1 earlier.symm
    subst some'
    have befores : g.value address size = g'.value address size ↔ g.SameTraps g' address size :=
      Glance.value_eq_iff small fun j _ => congrFun programs.symm _
    simp only [Option.elim_some]
    rw [befores]
    refine ⟨fun h => ⟨h.1, fun _ _ same same' => ?_⟩, fun h => ⟨h.last, h.before g g' rfl rfl⟩⟩
    cases same
    cases same'
    exact h.2

theorem readings_eq_iff {l l' : List Sight} (small : ∀ s ∈ l, s.size.toNat ≤ 8)
    (same : l.map seen = l'.map seen) :
    l.map reading = l'.map reading ↔ List.Forall₂ SameTraps l l' := by
  induction l generalizing l' with
  | nil =>
    have empty : l' = [] := by simpa using same.symm
    subst empty
    simp
  | cons s l ih =>
    cases l' with
    | nil => simp at same
    | cons s' l' =>
      simp only [List.map_cons, List.cons.injEq] at same
      simp only [List.map_cons, List.cons.injEq, List.forall₂_cons]
      exact and_congr (reading_eq_iff (small s (.head l)) same.1)
        (ih (fun t member => small t (.tail s member)) same.2)

end Sight

/-! ### Histories -/

/-- What happens to the program and to the watchpoints. -/
inductive WatchEvent where
  | program (memory : Memory)
  | created (address : VirtAddr) (mode : StoppointMode) (size : BitVec 64)
  | updated (i : Nat)
  | removed (i : Nat)

/-- An event and the traps there are when it happens. -/
structure Moment where
  event : WatchEvent
  traps : Set VirtAddr

/-- The memory that the program has after a history, latest event first. -/
def programMemory (start : Memory) : List Moment → Memory
  | [] => start
  | ⟨.program memory, _⟩ :: _ => memory
  | _ :: history => programMemory start history

/-- The watchpoints after a history. -/
def sights (start : Memory) : List Moment → List Sight
  | [] => []
  | ⟨.program _, _⟩ :: history => sights start history
  | ⟨.created address _ size, traps⟩ :: history =>
    sights start history ++ [⟨address, size, ⟨programMemory start history, traps⟩, none⟩]
  | ⟨.updated i, traps⟩ :: history =>
    (sights start history).modify i (Sight.look ⟨programMemory start history, traps⟩)
  | ⟨.removed i, _⟩ :: history => (sights start history).eraseIdx i

/-- The events alone determine the reads up to their traps. -/
theorem seen_of_same_events (start : Memory) {h h' : List Moment}
    (same : h.map Moment.event = h'.map Moment.event) :
    programMemory start h = programMemory start h' ∧
      (sights start h).map Sight.seen = (sights start h').map Sight.seen := by
  induction h generalizing h' with
  | nil =>
    have empty : h' = [] := by simpa using same.symm
    subst empty
    exact ⟨rfl, rfl⟩
  | cons m h ih =>
    cases h' with
    | nil => simp at same
    | cons m' h' =>
      obtain ⟨event, traps⟩ := m
      obtain ⟨event', traps'⟩ := m'
      simp only [List.map_cons, List.cons.injEq] at same
      obtain ⟨rfl, rest⟩ := same
      obtain ⟨program, seen⟩ := ih rest
      cases event with
      | program memory => exact ⟨rfl, seen⟩
      | created address mode size =>
        refine ⟨program, ?_⟩
        simp only [sights, List.map_append, seen, List.map_cons, List.map_nil, Sight.seen, program]
      | updated i =>
        refine ⟨program, ?_⟩
        simp only [sights, program, map_modify fun s _ => Sight.seen_look _ s, seen]
      | removed i =>
        refine ⟨program, ?_⟩
        simp only [sights, ← List.eraseIdx_map, seen]

end SdbDebugger
