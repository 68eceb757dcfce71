import SdbDebugger.StopHandling
import SdbDebugger.StoppointRuns

/-! Runs of a whole session: operations on stoppoints, and the calls that run the
inferior and wait for it. -/

namespace SdbDebugger
open EffectRules ActionRuns

inductive SessionOp where
  | stoppoint (op : StoppointOp)
  | resume
  | waitOnSignal (fuel : Nat)
  | stepInstruction (fuel : Nat)
  | setSyscallCatchPolicy (policy : SyscallCatchPolicy)
  deriving DecidableEq, Repr

variable {κ : Type} (P : Platform κ)

def SessionOp.perform : SessionOp → Sdb κ Unit
  | .stoppoint op => op.perform P
  | .resume => SdbDebugger.resume P
  | .waitOnSignal fuel => SdbDebugger.waitOnSignal P fuel >>= fun _ => pure ()
  | .stepInstruction fuel => SdbDebugger.stepInstruction P fuel >>= fun _ => pure ()
  | .setSyscallCatchPolicy policy => SdbDebugger.setSyscallCatchPolicy policy

def sessionStep (op : SessionOp) : World κ → Option (World κ) :=
  survive Fault.isFatal (op.perform P)

end SdbDebugger
