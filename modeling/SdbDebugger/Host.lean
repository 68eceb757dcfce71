import SdbDebugger.Registers

/-! The requests by which the debugger comes to trace an inferior and lets go of it again, and
what ptrace(2), wait(2) and kill(2) promise about them. -/

namespace SdbDebugger

/-- The signals that `process` sends. -/
inductive Signal where
  | stop | cont | kill
  deriving DecidableEq, Repr

structure Host (κ : Type) extends Platform κ where
  /-- `PTRACE_ATTACH`. -/
  attach : κ → Except Errno Unit × κ
  /-- `PTRACE_SETOPTIONS` with `PTRACE_O_TRACESYSGOOD`. -/
  setOptions : κ → Except Errno Unit × κ
  detach : κ → Except Errno Unit × κ
  /-- `kill` with the pid of the inferior, whoever has that pid now. -/
  kill : Signal → κ → κ

/-- A zombie has not been waited for yet. Once its parent has waited for it, its pid is free; a tracer
that is not its parent only takes note of the end. -/
inductive Life where
  | running | stopped | zombie | gone
  deriving DecidableEq, Repr

/-- The inferior as the kernel knows it, where the debugger may be its parent. `strays` counts the
signals sent to its pid after the debugger's wait has freed the pid. -/
structure Tracee where
  life : Life
  isChild : Bool
  traced : Bool
  stopPending : Bool
  optionsSet : Bool
  strays : Nat
  deriving DecidableEq, Repr

namespace Tracee

def Alive (v : Tracee) : Prop := v.life = .running ∨ v.life = .stopped

/-- The debugger may wait for it. -/
def Waitable (v : Tracee) : Prop := v.isChild = true ∨ v.traced = true

/-- Nothing has changed, except that the inferior may have been killed. -/
def Settles (v v' : Tracee) : Prop := v' = v ∨ v.Alive ∧ v' = { v with life := .zombie }

/-- What a signal does. One that stops it takes effect when the inferior is next waited for. -/
def signalled (v : Tracee) : Signal → Tracee
  | .stop =>
    match v.life with
    | .gone => { v with strays := v.strays + v.isChild.toNat }
    | .zombie => v
    | _ => { v with stopPending := true }
  | .cont =>
    match v.life with
    | .gone => { v with strays := v.strays + v.isChild.toNat }
    | .zombie => v
    | .running => { v with stopPending := false }
    | .stopped =>
      if v.traced then { v with stopPending := false }
      else { v with stopPending := false, life := .running }
  | .kill =>
    match v.life with
    | .gone => { v with strays := v.strays + v.isChild.toNat }
    | _ => { v with life := .zombie }

/-- What letting go of it does; only a stopped tracee is let go of. -/
def detached (v : Tracee) : Tracee :=
  if v.life = .stopped ∧ v.traced = true then
    { v with life := .running, traced := false, optionsSet := false }
  else v

end Tracee

/-- The life of the inferior. A wait ends when there is something to report, and fails only if
there is nobody to wait for; no other request reports an end. -/
structure HostLaws {κ : Type} (H : Host κ) (view : κ → Tracee) : Prop where
  waitpid_stopped : ∀ k signal k', H.waitpid k = (some (.ok (.stopped signal)), k') →
    (view k).life = .running ∧ (view k).traced = true ∧
      ∃ pending, { view k with life := .stopped, stopPending := pending }.Settles (view k')
  waitpid_ended : ∀ k status k', H.waitpid k = (some (.ok status), k') →
    (∀ signal, status ≠ .stopped signal) →
      (view k).life ≠ .gone ∧ view k' = { view k with life := .gone }
  waitpid_failed : ∀ k e k', H.waitpid k = (some (.error e), k') →
    ((view k).life = .gone ∨ ¬ (view k).Waitable) ∧ view k' = view k
  waitpid_blocks : ∀ k k', H.waitpid k = (none, k') →
    (view k).Waitable ∧ (view k).life ≠ .gone ∧ (view k).life ≠ .zombie ∧
      ((view k).life = .running → (view k).traced = true → (view k).stopPending = false)
  resume_accepted : ∀ r k k', H.resume r k = (.ok (), k') →
    (view k).life = .stopped ∧ { view k with life := .running }.Settles (view k')
  resume_refused : ∀ r k e k', H.resume r k = (.error e, k') → (view k).Settles (view k')
  attach_accepted : ∀ k k', H.attach k = (.ok (), k') → (view k).Alive ∧
    { view k with life := .running, traced := true, stopPending := true }.Settles (view k')
  attach_refused : ∀ k e k', H.attach k = (.error e, k') → (view k).Settles (view k')
  setOptions_accepted : ∀ k k', H.setOptions k = (.ok (), k') →
    (view k).life = .stopped ∧ { view k with optionsSet := true }.Settles (view k')
  setOptions_refused : ∀ k e k', H.setOptions k = (.error e, k') → (view k).Settles (view k')
  detach : ∀ k, (view k).detached.Settles (view (H.detach k).2)
  kill : ∀ s k, ((view k).signalled s).Settles (view (H.kill s k))
  getRegs : ∀ k, (view k).Settles (view (H.getRegs k).2)
  getFpRegs : ∀ k, (view k).Settles (view (H.getFpRegs k).2)
  setFpRegs : ∀ fprs k, (view k).Settles (view (H.setFpRegs fprs k).2)
  peekUser : ∀ off k, (view k).Settles (view (H.peekUser off k).2)
  pokeUser : ∀ off v k, (view k).Settles (view (H.pokeUser off v k).2)
  peekData : ∀ a k, (view k).Settles (view (H.peekData a k).2)
  pokeData : ∀ a v k, (view k).Settles (view (H.pokeData a v k).2)
  getSigInfo : ∀ k, (view k).Settles (view (H.getSigInfo k).2)
  processVmReadv : ∀ iovs k, (view k).Settles (view (H.processVmReadv iovs k).2)

end SdbDebugger
