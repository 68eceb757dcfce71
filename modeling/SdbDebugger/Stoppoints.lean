import SdbDebugger.Memory
import SdbDebugger.DebugRegisters

/-! Breakpoint sites and watchpoints: `breakpoint_site.cpp`, `watchpoint.cpp`,
`create_breakpoint_site`, `create_watchpoint` and the removals of
`stoppoint_collection.hpp`. A member function is called on a position. -/

namespace SdbDebugger
open EffectRules ByteSpace StoppointCollection

variable {κ : Type} (P : Platform κ)

def siteAt (i : Nat) : Sdb κ BreakpointSite := do
  let w ← get
  liftFault (deref w.breakpointSites i)

theorem siteAt_eq {w : World κ} {i : Nat} {site : BreakpointSite}
    (at_i : w.breakpointSites[i]? = some site) : (siteAt i : Sdb κ BreakpointSite) w = .ok site w := by
  change liftFault (deref w.breakpointSites i) w = _
  rw [deref_eq_ok.2 at_i]
  rfl

def modifySite (i : Nat) (f : BreakpointSite → BreakpointSite) : Sdb κ Unit :=
  modify fun w => { w with breakpointSites := w.breakpointSites.modify i f }

def watchpointAt (i : Nat) : Sdb κ Watchpoint := do
  let w ← get
  liftFault (deref w.watchpoints i)

theorem watchpointAt_eq {w : World κ} {i : Nat} {point : Watchpoint}
    (at_i : w.watchpoints[i]? = some point) : (watchpointAt i : Sdb κ Watchpoint) w = .ok point w := by
  change liftFault (deref w.watchpoints i) w = _
  rw [deref_eq_ok.2 at_i]
  rfl

def modifyWatchpoint (i : Nat) (f : Watchpoint → Watchpoint) : Sdb κ Unit :=
  modify fun w => { w with watchpoints := w.watchpoints.modify i f }

/-- `++id` on a 32-bit static, whose overflow is undefined. -/
def nextId (id : Int) : Except Fault Int :=
  if id + 1 < 2 ^ 31 then .ok (id + 1)
  else .error (.undefinedBehaviour "signed overflow of an id")

namespace BreakpointSite

def int3 : Byte := 0xcc

/-- The body of `enable`, up to setting the flag. -/
def install (i : Nat) (site : BreakpointSite) : Sdb κ Unit :=
  if site.isHardware then do
    let index ← setHardwareBreakpoint P site.id site.address
    modifySite i fun s => { s with hardwareRegisterIndex := index }
  else do
    let data ← orSendErrno "enabling breakpoint site failed" (P.peekData site.address)
    modifySite i fun s => { s with savedData := (data &&& 0xff).setWidth 8 }
    let dataWithInt3 := (data &&& ~~~0xff) ||| int3.setWidth 64
    orSendErrno "enabling breakpoint site failed" (P.pokeData site.address dataWithInt3)

def enable (i : Nat) : Sdb κ Unit := do
  let site ← siteAt i
  if site.isEnabled then pure ()
  else do
    install P i site
    modifySite i fun s => { s with isEnabled := true }

/-- The body of `disable`, up to clearing the flag. -/
def uninstall (i : Nat) (site : BreakpointSite) : Sdb κ Unit :=
  if site.isHardware then do
    clearHardwareStoppoint P site.hardwareRegisterIndex
    modifySite i fun s => { s with hardwareRegisterIndex := -1 }
  else do
    let data ← orSendErrno "disabling breakpoint site failed" (P.peekData site.address)
    let restoredData := (data &&& ~~~0xff) ||| site.savedData.setWidth 64
    orSendErrno "disabling breakpoint site failed" (P.pokeData site.address restoredData)

def disable (i : Nat) : Sdb κ Unit := do
  let site ← siteAt i
  if !site.isEnabled then pure ()
  else do
    uninstall P i site
    modifySite i fun s => { s with isEnabled := false }

end BreakpointSite

namespace Watchpoint

def updateData (i : Nat) : Sdb κ Unit := do
  let point ← watchpointAt i
  let read ← readMemory P point.address point.size.toNat
  if 8 < point.size.toNat then
    throw (.undefinedBehaviour "memcpy past new_data")
  else
    let newData : Word := ofBytes 8 fun j => read.getD j 0
    modifyWatchpoint i fun p => { p with previousData := p.data, data := newData }

def enable (i : Nat) : Sdb κ Unit := do
  let point ← watchpointAt i
  if point.isEnabled then pure ()
  else do
    let index ← setWatchpoint P point.id point.address point.mode point.size
    modifyWatchpoint i fun p => { p with hardwareRegisterIndex := index, isEnabled := true }

def disable (i : Nat) : Sdb κ Unit := do
  let point ← watchpointAt i
  if !point.isEnabled then pure ()
  else do
    clearHardwareStoppoint P point.hardwareRegisterIndex
    modifyWatchpoint i fun p => { p with isEnabled := false }

end Watchpoint

/-- The id that the constructor of a site takes. -/
def newSiteId (internal : Bool) : Sdb κ Int :=
  if internal then pure (-1)
  else do
    let w ← get
    let id ← liftFault (nextId w.breakpointSiteId)
    modify fun w => { w with breakpointSiteId := id }
    pure id

theorem preserves_updateData {I : World κ → Prop}
    (read : ∀ w iovs, I w → I { w with kernel := (P.processVmReadv iovs w.kernel).2 }) (i : Nat)
    (updated : ∀ v : Word, Preserves I (modifyWatchpoint i fun p =>
      { p with previousData := p.data, data := v } : Sdb κ Unit)) :
    Preserves I (Watchpoint.updateData P i) := by
  refine Preserves.bind (Preserves.get.bind fun _ => preserves_liftFault _) fun point => ?_
  refine (preserves_readMemory P read _ _).bind fun read => ?_
  exact Preserves.ite (Preserves.throw _) (updated _)

theorem preserves_newSiteId {I : World κ → Prop} (internal : Bool)
    (h : ∀ w id, I w → I { w with breakpointSiteId := id }) :
    Preserves I (newSiteId internal : Sdb κ Int) :=
  Preserves.ite (Preserves.pure _) (Preserves.get.bind fun _ =>
    (preserves_liftFault _).bind fun id =>
    (Preserves.modify fun w hw => h w id hw).bind fun _ => Preserves.pure _)

/-- Returns the position of the new site. -/
def createBreakpointSite (address : VirtAddr) (hardware internal : Bool) : Sdb κ Nat := do
  let w ← get
  if containsAddress w.breakpointSites address then
    throw (.error ("breakpoint site already created at address " ++ toString address.toNat))
  else do
    let id ← newSiteId internal
    let site : BreakpointSite := ⟨id, address, false, hardware, internal, -1, 0⟩
    modify fun w => { w with breakpointSites := w.breakpointSites ++ [site] }
    pure w.breakpointSites.length

/-- The constructor runs `update_data` before the object is in the collection,
so the value is read here and the finished object pushed. -/
def createWatchpoint (address : VirtAddr) (mode : StoppointMode) (size : BitVec 64) :
    Sdb κ Nat := do
  let w ← get
  if containsAddress w.watchpoints address then
    throw (.error ("watchpoint already created at address " ++ toString address.toNat))
  else if address &&& (size - 1) ≠ 0 then
    throw (.error "watchpoint must be aligned to size")
  else do
    let id ← liftFault (nextId w.watchpointId)
    modify fun w => { w with watchpointId := id }
    let read ← readMemory P address size.toNat
    if 8 < size.toNat then
      throw (.undefinedBehaviour "memcpy past new_data")
    else
      let newData : Word := ofBytes 8 fun j => read.getD j 0
      let point : Watchpoint := ⟨id, address, mode, size, false, newData, 0, -1⟩
      modify fun w => { w with watchpoints := w.watchpoints ++ [point] }
      pure w.watchpoints.length

section Remove

/-- The iterator that `remove_by_id` and `remove_by_address` use unchecked. -/
def dereferenced (found : Option Nat) : Except Fault Nat :=
  match found with
  | some i => .ok i
  | none => .error (.undefinedBehaviour "end iterator dereferenced")

def removeSite (found : Option Nat) : Sdb κ Unit := do
  let i ← liftFault (dereferenced found)
  BreakpointSite.disable P i
  modify fun w => { w with breakpointSites := w.breakpointSites.eraseIdx i }

def removeWatchpoint (found : Option Nat) : Sdb κ Unit := do
  let i ← liftFault (dereferenced found)
  Watchpoint.disable P i
  modify fun w => { w with watchpoints := w.watchpoints.eraseIdx i }

def removeSiteById (id : Int) : Sdb κ Unit := do
  let w ← get
  removeSite P (findById w.breakpointSites id)

def removeSiteByAddress (address : VirtAddr) : Sdb κ Unit := do
  let w ← get
  removeSite P (findByAddress w.breakpointSites address)

def removeWatchpointById (id : Int) : Sdb κ Unit := do
  let w ← get
  removeWatchpoint P (findById w.watchpoints id)

def removeWatchpointByAddress (address : VirtAddr) : Sdb κ Unit := do
  let w ← get
  removeWatchpoint P (findByAddress w.watchpoints address)

end Remove

end SdbDebugger
