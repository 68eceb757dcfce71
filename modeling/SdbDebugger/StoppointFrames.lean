import SdbDebugger.StoppointRuns
import SdbDebugger.StopHandling

/-! What no operation on stoppoints touches: an invariant that does not look at the
stoppoints, the register cache or the memory of the inferior is kept by all of
them. -/

namespace SdbDebugger
open EffectRules

variable {κ : Type} {P : Platform κ} {I : World κ → Prop}

structure StoppointBlind (P : Platform κ) (I : World κ → Prop) : Prop extends
    RegisterBlind P I where
  sites : ∀ w sites, I w → I { w with breakpointSites := sites }
  watchpoints : ∀ w points, I w → I { w with watchpoints := points }
  siteId : ∀ w id, I w → I { w with breakpointSiteId := id }
  watchpointId : ∀ w id, I w → I { w with watchpointId := id }
  peekData : ∀ w a, I w → I { w with kernel := (P.peekData a w.kernel).2 }
  pokeData : ∀ w a v, I w → I { w with kernel := (P.pokeData a v w.kernel).2 }
  processVmReadv : ∀ w iovs, I w → I { w with kernel := (P.processVmReadv iovs w.kernel).2 }

namespace StoppointBlind

variable (blind : StoppointBlind P I)
include blind

theorem preserves_modifySite (i : Nat) (f : BreakpointSite → BreakpointSite) :
    Preserves I (modifySite i f : Sdb κ Unit) :=
  Preserves.modify fun w h => blind.sites w _ h

theorem preserves_modifyWatchpoint (i : Nat) (f : Watchpoint → Watchpoint) :
    Preserves I (modifyWatchpoint i f : Sdb κ Unit) :=
  Preserves.modify fun w h => blind.watchpoints w _ h

omit blind in
theorem preserves_siteAt (i : Nat) : Preserves I (siteAt i : Sdb κ BreakpointSite) :=
  Preserves.get.bind fun _ => preserves_liftFault _

omit blind in
theorem preserves_watchpointAt (i : Nat) : Preserves I (watchpointAt i : Sdb κ Watchpoint) :=
  Preserves.get.bind fun _ => preserves_liftFault _

theorem preserves_peekData (what : String) (a : VirtAddr) :
    Preserves I (orSendErrno what (P.peekData a)) :=
  preserves_orSendErrno fun w h => blind.peekData w a h

theorem preserves_pokeData (what : String) (a : VirtAddr) (v : Word) :
    Preserves I (orSendErrno what (P.pokeData a v)) :=
  preserves_orSendErrno fun w h => blind.pokeData w a v h

theorem preserves_siteEnable (i : Nat) : Preserves I (BreakpointSite.enable P i) := by
  refine (preserves_siteAt i).bind fun site => Preserves.ite (Preserves.pure _) ?_
  refine Preserves.bind (Preserves.ite ?_ ?_) fun _ => blind.preserves_modifySite i _
  · exact (preserves_setHardwareStoppoint P blind.toRegisterBlind _ _ _).bind fun _ =>
      blind.preserves_modifySite i _
  · exact (blind.preserves_peekData _ _).bind fun _ =>
      (blind.preserves_modifySite i _).bind fun _ => blind.preserves_pokeData _ _ _

theorem preserves_siteDisable (i : Nat) : Preserves I (BreakpointSite.disable P i) := by
  refine (preserves_siteAt i).bind fun site => Preserves.ite (Preserves.pure _) ?_
  refine Preserves.bind (Preserves.ite ?_ ?_) fun _ => blind.preserves_modifySite i _
  · exact (preserves_clearHardwareStoppoint P blind.toRegisterBlind _).bind fun _ =>
      blind.preserves_modifySite i _
  · exact (blind.preserves_peekData _ _).bind fun _ => blind.preserves_pokeData _ _ _

theorem preserves_watchpointEnable (i : Nat) : Preserves I (Watchpoint.enable P i) := by
  refine (preserves_watchpointAt i).bind fun point => Preserves.ite (Preserves.pure _) ?_
  exact (preserves_setHardwareStoppoint P blind.toRegisterBlind _ _ _).bind fun _ =>
    blind.preserves_modifyWatchpoint i _

theorem preserves_watchpointDisable (i : Nat) : Preserves I (Watchpoint.disable P i) := by
  refine (preserves_watchpointAt i).bind fun point => Preserves.ite (Preserves.pure _) ?_
  exact (preserves_clearHardwareStoppoint P blind.toRegisterBlind _).bind fun _ =>
    blind.preserves_modifyWatchpoint i _

theorem preserves_createSite (address : VirtAddr) (hardware internal : Bool) :
    Preserves I (createBreakpointSite address hardware internal : Sdb κ Nat) := by
  refine Preserves.get.bind fun w => Preserves.ite (Preserves.throw _) ?_
  refine (preserves_newSiteId internal fun w id h => blind.siteId w id h).bind fun id => ?_
  exact Preserves.bind (Preserves.modify fun w h => blind.sites w _ h) fun _ => Preserves.pure _

theorem preserves_createWatchpoint (address : VirtAddr) (mode : StoppointMode)
    (size : BitVec 64) : Preserves I (createWatchpoint P address mode size) := by
  refine Preserves.get.bind fun w => Preserves.ite (Preserves.throw _) ?_
  refine Preserves.ite (Preserves.throw _) ((preserves_liftFault _).bind fun id => ?_)
  refine Preserves.bind (Preserves.modify fun w h => blind.watchpointId w id h) fun _ => ?_
  refine (preserves_readMemory P blind.processVmReadv _ _).bind fun read => ?_
  refine Preserves.ite (Preserves.throw _) ?_
  exact Preserves.bind (Preserves.modify fun w h => blind.watchpoints w _ h) fun _ =>
    Preserves.pure _

theorem preserves_removeSite (found : Option Nat) : Preserves I (removeSite P found) :=
  (preserves_liftFault _).bind fun i => (blind.preserves_siteDisable i).bind fun _ =>
    Preserves.modify fun w h => blind.sites w _ h

theorem preserves_removeWatchpoint (found : Option Nat) :
    Preserves I (removeWatchpoint P found) :=
  (preserves_liftFault _).bind fun i => (blind.preserves_watchpointDisable i).bind fun _ =>
    Preserves.modify fun w h => blind.watchpoints w _ h

theorem preserves_perform (op : StoppointOp) : Preserves I (op.perform P) := by
  cases op with
  | createSite address hardware internal =>
    exact (blind.preserves_createSite address hardware internal).bind fun _ => Preserves.pure _
  | enableSite i => exact blind.preserves_siteEnable i
  | disableSite i => exact blind.preserves_siteDisable i
  | removeSiteById id => exact Preserves.get.bind fun w => blind.preserves_removeSite _
  | removeSiteByAddress address => exact Preserves.get.bind fun w => blind.preserves_removeSite _
  | createWatchpoint address mode size =>
    exact (blind.preserves_createWatchpoint address mode size).bind fun _ => Preserves.pure _
  | enableWatchpoint i => exact blind.preserves_watchpointEnable i
  | disableWatchpoint i => exact blind.preserves_watchpointDisable i
  | removeWatchpointById id => exact Preserves.get.bind fun w => blind.preserves_removeWatchpoint _
  | removeWatchpointByAddress address =>
    exact Preserves.get.bind fun w => blind.preserves_removeWatchpoint _

/-! ### The side effects of a stop -/

theorem preserves_setPc (pc : VirtAddr) : Preserves I (setPc P pc) :=
  Registers.preserves_writeById P blind.toRegisterBlind _ _

theorem preserves_updateTriggered : Preserves I (updateTriggeredWatchpoint P) :=
  preserves_updateTriggeredWatchpoint fun i =>
    preserves_updateData P blind.processVmReadv i fun _ => blind.preserves_modifyWatchpoint i _

end StoppointBlind

end SdbDebugger
