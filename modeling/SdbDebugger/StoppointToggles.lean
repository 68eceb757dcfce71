import SdbDebugger.SessionRuns
import SdbDebugger.StopArrival
import SdbDebugger.StoppointFrames

/-! What only creations and removals change. Every other operation switches stoppoints on and
off, reads values into watchpoints and moves registers, and so keeps a property of what the
constructors were given. -/

namespace SdbDebugger
open EffectRules

/-- The same site but for its flag, its slot and the byte it saves. -/
structure BreakpointSite.Toggled (site site' : BreakpointSite) : Prop where
  id : site'.id = site.id
  address : site'.address = site.address
  isHardware : site'.isHardware = site.isHardware
  isInternal : site'.isInternal = site.isInternal

/-- The same watchpoint but for its flag and its slot. -/
structure Watchpoint.Toggled (point point' : Watchpoint) : Prop where
  id : point'.id = point.id
  address : point'.address = point.address
  mode : point'.mode = point.mode
  size : point'.size = point.size
  data : point'.data = point.data
  previousData : point'.previousData = point.previousData

variable {κ : Type} {P : Platform κ} {I : World κ → Prop}

structure ToggleBlind (I : World κ → Prop) : Prop extends StopBlind I where
  state : ∀ w s, I w → I { w with state := s }
  sites : ∀ w i f, (∀ s : BreakpointSite, s.Toggled (f s)) → I w →
    I { w with breakpointSites := w.breakpointSites.modify i f }
  watchpoints : ∀ w i f, (∀ p : Watchpoint, p.Toggled (f p)) → I w →
    I { w with watchpoints := w.watchpoints.modify i f }

namespace ToggleBlind

variable (blind : ToggleBlind I)
include blind

theorem preserves_modifySite {f : BreakpointSite → BreakpointSite}
    (kept : ∀ s : BreakpointSite, s.Toggled (f s)) (i : Nat) :
    Preserves I (modifySite i f : Sdb κ Unit) :=
  Preserves.modify fun w h => blind.sites w i f kept h

theorem preserves_modifyWatchpoint {f : Watchpoint → Watchpoint}
    (kept : ∀ p : Watchpoint, p.Toggled (f p)) (i : Nat) :
    Preserves I (modifyWatchpoint i f : Sdb κ Unit) :=
  Preserves.modify fun w h => blind.watchpoints w i f kept h

theorem registers : RegisterBlind P I where
  data := blind.data
  pokeUser w _ _ h := blind.kernel w _ h
  setFpRegs w _ h := blind.kernel w _ h

theorem preserves_request {α : Type} (what : String) (op : κ → Except Errno α × κ) :
    Preserves I (orSendErrno what op) :=
  preserves_orSendErrno fun w h => blind.kernel w _ h

theorem preserves_install (i : Nat) (site : BreakpointSite) :
    Preserves I (BreakpointSite.install P i site) := by
  refine Preserves.ite ?_ ?_
  · exact (preserves_setHardwareStoppoint P blind.registers _ _ _).bind fun _ =>
      blind.preserves_modifySite (by exact fun _ => ⟨rfl, rfl, rfl, rfl⟩) i
  · exact (blind.preserves_request _ _).bind fun _ =>
      (blind.preserves_modifySite (by exact fun _ => ⟨rfl, rfl, rfl, rfl⟩) i).bind fun _ =>
      blind.preserves_request _ _

theorem preserves_siteEnable (i : Nat) : Preserves I (BreakpointSite.enable P i) := by
  refine (StoppointBlind.preserves_siteAt i).bind fun site => Preserves.ite (Preserves.pure _) ?_
  exact (blind.preserves_install i site).bind fun _ =>
    blind.preserves_modifySite (by exact fun _ => ⟨rfl, rfl, rfl, rfl⟩) i

theorem preserves_uninstall (i : Nat) (site : BreakpointSite) :
    Preserves I (BreakpointSite.uninstall P i site) := by
  refine Preserves.ite ?_ ?_
  · exact (preserves_clearHardwareStoppoint P blind.registers _).bind fun _ =>
      blind.preserves_modifySite (by exact fun _ => ⟨rfl, rfl, rfl, rfl⟩) i
  · exact (blind.preserves_request _ _).bind fun _ => blind.preserves_request _ _

theorem preserves_siteDisable (i : Nat) : Preserves I (BreakpointSite.disable P i) := by
  refine (StoppointBlind.preserves_siteAt i).bind fun site => Preserves.ite (Preserves.pure _) ?_
  exact (blind.preserves_uninstall i site).bind fun _ =>
    blind.preserves_modifySite (by exact fun _ => ⟨rfl, rfl, rfl, rfl⟩) i

theorem preserves_watchpointEnable (i : Nat) : Preserves I (Watchpoint.enable P i) := by
  refine (StoppointBlind.preserves_watchpointAt i).bind fun point => ?_
  refine Preserves.ite (Preserves.pure _) ?_
  exact (preserves_setHardwareStoppoint P blind.registers _ _ _).bind fun _ =>
    blind.preserves_modifyWatchpoint (by exact fun _ => ⟨rfl, rfl, rfl, rfl, rfl, rfl⟩) i

theorem preserves_watchpointDisable (i : Nat) : Preserves I (Watchpoint.disable P i) := by
  refine (StoppointBlind.preserves_watchpointAt i).bind fun point => ?_
  refine Preserves.ite (Preserves.pure _) ?_
  exact (preserves_clearHardwareStoppoint P blind.registers _).bind fun _ =>
    blind.preserves_modifyWatchpoint (by exact fun _ => ⟨rfl, rfl, rfl, rfl, rfl, rfl⟩) i

theorem preserves_setPc (address : VirtAddr) : Preserves I (setPc P address) :=
  Registers.preserves_writeById P blind.registers _ _

theorem preserves_stepOver (i : Nat) : Preserves I (stepOver P i) :=
  (blind.preserves_siteDisable i).bind fun _ => (blind.preserves_request _ _).bind fun _ =>
    blind.preserves_waitpid.bind fun _ => blind.preserves_siteEnable i

theorem preserves_resume : Preserves I (resume P) :=
  SdbDebugger.preserves_resume blind.preserves_stepOver (fun _ => blind.preserves_request _ _)
    blind.state

theorem preserves_arrive : Preserves I (arrive P) := blind.toStopBlind.preserves_arrive blind.state

section Updates

variable (update : ∀ i, Preserves I (Watchpoint.updateData P i))
include update

theorem preserves_waitOnSignal (fuel : Nat) : Preserves I (waitOnSignal P fuel) :=
  SdbDebugger.preserves_waitOnSignal blind.preserves_arrive blind.preserves_setPc update
    blind.preserves_resume fuel

theorem preserves_stepInstruction (fuel : Nat) : Preserves I (stepInstruction P fuel) :=
  SdbDebugger.preserves_stepInstruction blind.preserves_siteDisable blind.preserves_siteEnable
    (blind.preserves_request _ _) (blind.preserves_waitOnSignal update fuel)

end Updates

end ToggleBlind

/-! ### Properties of the watchpoints -/

def StoppointOp.changesWatchpoints : StoppointOp → Bool
  | .createWatchpoint _ _ _ => true
  | .removeWatchpointById _ => true
  | .removeWatchpointByAddress _ => true
  | _ => false

section Watchpoints

variable {R : List Watchpoint → Prop}
  (toggled : ∀ points i f, (∀ p : Watchpoint, p.Toggled (f p)) → R points → R (points.modify i f))
include toggled

theorem watchpoints_toggles : ToggleBlind fun w : World κ => R w.watchpoints where
  data _ _ h := h
  kernel _ _ h := h
  expecting _ _ h := h
  state _ _ h := h
  sites _ _ _ _ h := h
  watchpoints w i f kept h := toggled w.watchpoints i f kept h

theorem watchpoints_removeSite (found : Option Nat) :
    Preserves (fun w : World κ => R w.watchpoints) (removeSite P found) :=
  (preserves_liftFault _).bind fun i =>
    ((watchpoints_toggles toggled).preserves_siteDisable i).bind fun _ => Preserves.modify fun _ h => h

theorem watchpoints_perform {op : StoppointOp} (other : op.changesWatchpoints = false) :
    Preserves (fun w : World κ => R w.watchpoints) (op.perform P) := by
  have blind : ToggleBlind fun w : World κ => R w.watchpoints := watchpoints_toggles toggled
  cases op with
  | createSite address hardware internal =>
    have created : Preserves (fun w : World κ => R w.watchpoints)
        (createBreakpointSite address hardware internal) := by
      refine Preserves.get.bind fun w => Preserves.ite (Preserves.throw _) ?_
      refine (preserves_newSiteId internal fun _ _ h => h).bind fun id => ?_
      exact Preserves.bind (Preserves.modify fun _ h => h) fun _ => Preserves.pure _
    exact created.bind fun _ => Preserves.pure _
  | enableSite i => exact blind.preserves_siteEnable i
  | disableSite i => exact blind.preserves_siteDisable i
  | removeSiteById id => exact Preserves.get.bind fun w => watchpoints_removeSite toggled _
  | removeSiteByAddress address => exact Preserves.get.bind fun w => watchpoints_removeSite toggled _
  | createWatchpoint address mode size => cases other
  | enableWatchpoint i => exact blind.preserves_watchpointEnable i
  | disableWatchpoint i => exact blind.preserves_watchpointDisable i
  | removeWatchpointById id => cases other
  | removeWatchpointByAddress address => cases other

end Watchpoints

/-- A property of the stoppoints' constructor arguments over whole sessions. -/
theorem ToggleBlind.preserves_session (blind : ToggleBlind I)
    (update : ∀ i, Preserves I (Watchpoint.updateData P i))
    (policy : ∀ w p, I w → I { w with syscallCatchPolicy := p }) {op : SessionOp}
    (perform : ∀ op' : StoppointOp, op = .stoppoint op' → Preserves I (op'.perform P)) :
    Preserves I (op.perform P) := by
  cases op with
  | stoppoint op => exact perform op rfl
  | resume => exact blind.preserves_resume
  | waitOnSignal fuel =>
    exact (blind.preserves_waitOnSignal update fuel).bind fun _ => Preserves.pure _
  | stepInstruction fuel =>
    exact (blind.preserves_stepInstruction update fuel).bind fun _ => Preserves.pure _
  | setSyscallCatchPolicy p => exact Preserves.modify fun w h => policy w p h

end SdbDebugger
