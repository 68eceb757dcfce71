import SdbDebugger.Library.ActionRuns
import SdbDebugger.Stoppoints

/-! Runs of the operations on stoppoints. A run goes on after an `sdb::error`;
it ends where the debugger would, at an operation on a stoppoint that does not
exist or at an exception that is not an `sdb::error`. -/

namespace SdbDebugger
open EffectRules ActionRuns

/-- Everything but an `sdb::error` ends the session. -/
def Fault.isFatal : Fault → Bool
  | .error _ => false
  | _ => true

inductive StoppointOp where
  | createSite (address : VirtAddr) (hardware internal : Bool)
  | enableSite (i : Nat)
  | disableSite (i : Nat)
  | removeSiteById (id : Int)
  | removeSiteByAddress (address : VirtAddr)
  | createWatchpoint (address : VirtAddr) (mode : StoppointMode) (size : BitVec 64)
  | enableWatchpoint (i : Nat)
  | disableWatchpoint (i : Nat)
  | removeWatchpointById (id : Int)
  | removeWatchpointByAddress (address : VirtAddr)
  deriving DecidableEq, Repr

variable {κ : Type} (P : Platform κ)

def StoppointOp.perform : StoppointOp → Sdb κ Unit
  | .createSite address hardware internal =>
    createBreakpointSite address hardware internal >>= fun _ => pure ()
  | .enableSite i => BreakpointSite.enable P i
  | .disableSite i => BreakpointSite.disable P i
  | .removeSiteById id => SdbDebugger.removeSiteById P id
  | .removeSiteByAddress address => SdbDebugger.removeSiteByAddress P address
  | .createWatchpoint address mode size =>
    SdbDebugger.createWatchpoint P address mode size >>= fun _ => pure ()
  | .enableWatchpoint i => Watchpoint.enable P i
  | .disableWatchpoint i => Watchpoint.disable P i
  | .removeWatchpointById id => SdbDebugger.removeWatchpointById P id
  | .removeWatchpointByAddress address => SdbDebugger.removeWatchpointByAddress P address

def stoppointStep (op : StoppointOp) : World κ → Option (World κ) :=
  survive Fault.isFatal (op.perform P)

end SdbDebugger
