import SdbDebugger.CommandHazards
import SdbDebugger.CommandLanguage
import SdbDebugger.RegisterCache

/-! What the command line does to the process: whatever is typed, the process could have been
brought to the same state by calls of its members. A resumption always comes with the wait for
what follows it. -/

namespace SdbDebugger
open EffectRules ActionRuns

variable {κ : Type} (P : Platform κ) (L : Libraries)

/-- What commands ask of the process. -/
inductive ProcessCall where
  | stoppoint (op : StoppointOp)
  | setSyscallCatchPolicy (policy : SyscallCatchPolicy)
  | resumeAndWait (fuel : Nat)
  | stepInstruction (fuel : Nat)
  | writeRegister (op : RegisterWrite)
  | readMemory (address : VirtAddr) (amount : Nat)
  | readMemoryWithoutTraps (address : VirtAddr) (amount : Nat)
  | writeMemory (address : VirtAddr) (data : List Byte)

def ProcessCall.perform : ProcessCall → Sdb κ Unit
  | .stoppoint op => op.perform P
  | .setSyscallCatchPolicy policy => SdbDebugger.setSyscallCatchPolicy policy
  | .resumeAndWait fuel => (resume P >>= fun _ => waitOnSignal P fuel) >>= fun _ => pure ()
  | .stepInstruction fuel => SdbDebugger.stepInstruction P fuel >>= fun _ => pure ()
  | .writeRegister op => Registers.write P op.info op.value
  | .readMemory address amount => SdbDebugger.readMemory P address amount >>= fun _ => pure ()
  | .readMemoryWithoutTraps address amount =>
    SdbDebugger.readMemoryWithoutTraps P address amount >>= fun _ => pure ()
  | .writeMemory address data => SdbDebugger.writeMemory P address data

def callStep (call : ProcessCall) : World κ → Option (World κ) :=
  survive Fault.isFatal (call.perform P)

/-- Command code that does to the process what some calls do. -/
abbrev Calls {α : Type} (m : Cli κ α) : Prop := Performs (callStep P) Debugger.world Fault.isFatal m

theorem onProcess_bind {α β : Type} (m : Sdb κ α) (f : α → Sdb κ β) :
    onProcess (m >>= f) = onProcess m >>= fun a => onProcess (f a) := by
  funext d
  cases run : m d.world with
  | ok a w =>
    rw [bind_ok (onProcess_ok run)]
    unfold onProcess
    rw [bind_ok run]
  | error e w =>
    have stops : onProcess m d = .error e { d with world := w } := by
      unfold onProcess
      rw [run]
    rw [bind_error stops]
    unfold onProcess
    rw [bind_error run]

section Calls

variable {P L} {α β : Type}

theorem calls_idle {m : Cli κ α} (idle : Idle (fun _ => False) m) : Calls P m :=
  .of_same fun d => (idle d.world).preserves d rfl

/-- A member that leaves everything as it is. -/
theorem calls_still {m : Sdb κ α} (still : ∀ I : World κ → Prop, Preserves I m) :
    Calls P (onProcess m) :=
  .of_same fun d => wp_onProcess.2 (still (· = d.world) d.world rfl)

/-- A member that is one of the calls, whatever it returns. -/
theorem calls_member {m : Sdb κ α} (call : ProcessCall)
    (same : call.perform P = m >>= fun _ => pure ()) : Calls P (onProcess m) := by
  intro d
  refine wp_onProcess.2 (Performs.action call (fun s t moved => ?_) d.world)
  rw [callStep, same, survive_discard, moved]

theorem calls_procedure (call : ProcessCall) : Calls P (onProcess (call.perform P)) :=
  calls_member call (bind_pure _).symm

/-- The handler goes on from where the `sdb::error` was raised. -/
theorem calls_catchError {m : Cli κ Unit} {handler : String → Cli κ Unit} (body : Calls P m)
    (rest : ∀ what, Calls P (handler what)) : Calls P (catchError m handler) := by
  intro d
  have first := body d
  rw [wp_iff] at first
  cases run : m d with
  | ok a t =>
    rw [wp_of_ok (catchError_of_ok run)]
    exact first.1 a t run
  | error e t =>
    have raised := first.2 e t run
    by_cases error : ∃ what, e = .error what
    · obtain ⟨what, rfl⟩ := error
      have led := raised.resolve_left (by simp [Fault.isFatal])
      rw [wp, catchError_of_error run]
      exact (rest what t).mono (fun _ _ next => led.trans next) fun _ _ next =>
        next.imp_right led.trans
    · rw [wp_of_error (catchError_of_other (fun what same => error ⟨what, same⟩) run)]
      exact raised

/-! ### Requests -/

theorem calls_onStoppoint {find : Sdb κ Nat} (still : ∀ I : World κ → Prop, Preserves I find)
    {f : Nat → Sdb κ Unit} (op : Nat → StoppointOp) (same : ∀ i, f i = (op i).perform P) :
    Calls P (onProcess (find >>= f)) := by
  rw [onProcess_bind]
  refine (calls_still still).bind fun i => ?_
  rw [same]
  exact calls_procedure (.stoppoint (op i))

theorem preserves_siteById (id : Int) (I : World κ → Prop) : Preserves I (siteById id) :=
  Preserves.get.bind fun _ => preserves_liftFault _

theorem preserves_watchpointById (id : Int) (I : World κ → Prop) :
    Preserves I (watchpointById id) :=
  Preserves.get.bind fun _ => preserves_liftFault _

theorem calls_printDisassembly (address : VirtAddr) (nInstructions : Nat) :
    Calls P (printDisassembly P L address nInstructions) := by
  refine Performs.bind ?_ fun _ => calls_idle (idle_print _)
  unfold disassemble
  rw [onProcess_bind]
  refine (calls_still fun _ => preserves_newVector _ _).bind fun _ => ?_
  change Calls P (onProcess (readMemoryWithoutTraps P address _ >>= _))
  rw [onProcess_bind]
  exact (calls_member (.readMemoryWithoutTraps _ _) rfl).bind fun _ =>
    calls_still fun _ => Preserves.pure _

theorem calls_handleStop (reason : StopReason) : Calls P (handleStop P L reason) := by
  have told : Calls P (printStopReason reason : Cli κ Unit) :=
    Performs.get.bind fun d => (calls_still fun _ => preserves_stopMessage _ _).bind
      fun _ => calls_idle (idle_print _)
  unfold handleStop
  refine told.bind fun _ => ?_
  split
  · exact (calls_still fun _ => Registers.preserves_readByIdAsU64 _).bind
      fun _ => calls_printDisassembly _ _
  · exact .pure _

theorem calls_perform (fuel : Nat) {words : List Text} {request : Request}
    (spelled : Spells L words request) : Calls P (request.perform P L fuel) := by
  cases request with
  | «continue» =>
    rw [Request.perform, ← bind_assoc, ← onProcess_bind]
    exact (calls_member (.resumeAndWait fuel) rfl).bind calls_handleStop
  | step => exact (calls_member (.stepInstruction fuel) rfl).bind calls_handleStop
  | setBreakpoint address hardware =>
    exact (calls_member (.stoppoint (.createSite address hardware false)) rfl).bind fun i =>
      calls_procedure (.stoppoint (.enableSite i))
  | breakpoint change id =>
    cases change with
    | enable => exact calls_onStoppoint (preserves_siteById id) .enableSite fun _ => rfl
    | disable => exact calls_onStoppoint (preserves_siteById id) .disableSite fun _ => rfl
    | delete => exact calls_procedure (.stoppoint (.removeSiteById id))
  | setWatchpoint address mode size =>
    exact (calls_member (.stoppoint (.createWatchpoint address mode size)) rfl).bind fun i =>
      calls_procedure (.stoppoint (.enableWatchpoint i))
  | watchpoint change id =>
    cases change with
    | enable => exact calls_onStoppoint (preserves_watchpointById id) .enableWatchpoint fun _ => rfl
    | disable => exact calls_onStoppoint (preserves_watchpointById id) .disableWatchpoint fun _ => rfl
    | delete => exact calls_procedure (.stoppoint (.removeWatchpointById id))
  | catchSyscalls policy => exact calls_procedure (.setSyscallCatchPolicy policy)
  | writeRegister info value =>
    cases spelled with
    | writeRegister _ _ named parsed =>
      have listed := mem_of_registerInfoByName named
      have fits := size_registerValue listed (registerValue_of_parse parsed)
      exact calls_catchError (calls_procedure (.writeRegister ⟨info, value, listed, fits⟩))
        fun _ => calls_idle (idle_printErr _)
  | readMemory address amount =>
    exact (calls_member (.readMemory address amount) rfl).bind fun _ => calls_idle (idle_print _)
  | writeMemory address data => exact calls_procedure (.writeMemory address data)
  | disassemble address nInstructions =>
    exact (calls_still fun _ => Registers.preserves_readByIdAsU64 _).bind
      fun _ => calls_printDisassembly _ _

/-- One lemma for every line that can be typed. -/
theorem calls_handleCommand (fuel : Nat) (line : Text) :
    Calls P (handleCommand P L fuel line) := by
  by_cases spelled : ∃ request, Spells L (split ' ' line) request
  · obtain ⟨request, spelled⟩ := spelled
    rw [handleCommand_spelled fuel spelled]
    exact calls_perform fuel spelled
  · exact calls_idle (idle_handleCommand fuel (fun _ h => h.elim)
      (fun request here => spelled ⟨request, here⟩) fun _ _ h => h)

end Calls

end SdbDebugger
