import SdbDebugger.Library.KeyedList
import SdbDebugger.Process

/-! `stoppoint_collection.hpp`. A reference to a stoppoint is its position in the
list; it stays valid as long as nothing before it is erased. -/

namespace SdbDebugger
open KeyedList

class Stoppoint (α : Type) where
  id : α → Int
  address : α → VirtAddr
  isEnabled : α → Bool

instance : Stoppoint BreakpointSite where
  id := BreakpointSite.id
  address := BreakpointSite.address
  isEnabled := BreakpointSite.isEnabled

instance : Stoppoint Watchpoint where
  id := Watchpoint.id
  address := Watchpoint.address
  isEnabled := Watchpoint.isEnabled

namespace StoppointCollection

variable {α : Type} [Stoppoint α]

def findById (points : List α) (id : Int) : Option Nat :=
  points.findIdx? fun point => Stoppoint.id point == id

/-- `at_address`. -/
def atAddress (point : α) (address : VirtAddr) : Bool := Stoppoint.address point == address

def findByAddress (points : List α) (address : VirtAddr) : Option Nat :=
  points.findIdx? fun point => atAddress point address

def containsId (points : List α) (id : Int) : Bool := (findById points id).isSome

def containsAddress (points : List α) (address : VirtAddr) : Bool :=
  (findByAddress points address).isSome

def getById (points : List α) (id : Int) : Except Fault Nat :=
  match findById points id with
  | some i => .ok i
  | none => .error (.error "invalid stoppoint id")

def getByAddress (points : List α) (address : VirtAddr) : Except Fault Nat :=
  match findByAddress points address with
  | some i => .ok i
  | none => .error (.error "stoppoint with given address not found")

/-- The object a reference names; positions past the end name none. -/
def deref (points : List α) (i : Nat) : Except Fault α :=
  match points[i]? with
  | some point => .ok point
  | none => .error (.undefinedBehaviour "reference to no stoppoint")

def enabledStoppointAtAddress (points : List α) (address : VirtAddr) : Except Fault Bool := do
  if containsAddress points address then
    let i ← getByAddress points address
    let point ← deref points i
    return Stoppoint.isEnabled point
  else
    return false

/-- `in_range`. -/
def inRange (low high : VirtAddr) (point : α) : Bool :=
  decide (low ≤ Stoppoint.address point) && decide (high > Stoppoint.address point)

def getInRegion (points : List α) (low high : VirtAddr) : List α :=
  points.filter (inRange low high)

omit [Stoppoint α] in
theorem deref_eq_ok {points : List α} {i : Nat} {point : α} :
    deref points i = .ok point ↔ points[i]? = some point := by
  unfold deref
  cases points[i]? with
  | none => simp
  | some q => simp

/-! ### Lookups find the first match -/

section Lookup

variable {points : List α}

theorem findByAddress_eq_some {address : VirtAddr} {i : Nat}
    (h : findByAddress points address = some i) :
    ∃ point, points[i]? = some point ∧ Stoppoint.address point = address :=
  findIdx?_key h

theorem findById_eq_some {id : Int} {i : Nat} (h : findById points id = some i) :
    ∃ point, points[i]? = some point ∧ Stoppoint.id point = id :=
  findIdx?_key h

theorem containsAddress_iff {address : VirtAddr} :
    containsAddress points address = true ↔
      ∃ point ∈ points, Stoppoint.address point = address :=
  isSome_findIdx?_key

theorem containsId_iff {id : Int} :
    containsId points id = true ↔ ∃ point ∈ points, Stoppoint.id point = id :=
  isSome_findIdx?_key

theorem findByAddress_of_distinct (distinct : DistinctKeys Stoppoint.address points)
    {i : Nat} {point : α} (h : points[i]? = some point) :
    findByAddress points (Stoppoint.address point) = some i :=
  distinct.findIdx?_eq h

theorem enabledStoppointAtAddress_of_none {address : VirtAddr}
    (h : ∀ point ∈ points, Stoppoint.address point ≠ address) :
    enabledStoppointAtAddress points address = .ok false := by
  have absent : containsAddress points address = false := by
    rw [← Bool.not_eq_true, containsAddress_iff]
    rintro ⟨point, member, here⟩
    exact h point member here
  simp [enabledStoppointAtAddress, absent, pure, Except.pure]

theorem enabledStoppointAtAddress_of_find {address : VirtAddr} {i : Nat} {point : α}
    (found : findByAddress points address = some i) (h : points[i]? = some point) :
    enabledStoppointAtAddress points address = .ok (Stoppoint.isEnabled point) := by
  simp [enabledStoppointAtAddress, containsAddress, getByAddress, deref, found, h, bind,
    Except.bind, pure, Except.pure]

/-- The enabled test never raises. -/
theorem enabledStoppointAtAddress_total (points : List α) (address : VirtAddr) :
    ∃ b, enabledStoppointAtAddress points address = .ok b := by
  cases found : findByAddress points address with
  | none =>
    refine ⟨false, enabledStoppointAtAddress_of_none fun point member here => ?_⟩
    have absent := List.findIdx?_eq_none_iff.1 found point member
    simp [atAddress, here] at absent
  | some i =>
    obtain ⟨point, h, _⟩ := findByAddress_eq_some found
    exact ⟨_, enabledStoppointAtAddress_of_find found h⟩

end Lookup

end StoppointCollection

end SdbDebugger
