import SdbDebugger.CommandCalls
import SdbDebugger.MainLoop
import SdbDebugger.StoppointKeys
import SdbDebugger.Target

/-! Whole sessions at the prompt, from the target that is made for them to its end. What the
calls of the process keep holds each time the debugger is back at its prompt, whatever has been
typed. -/

namespace SdbDebugger
open EffectRules ActionRuns

/-! ### What the calls keep -/

section Kept

variable {κ : Type} {P : Platform κ} {I : World κ → Prop}

theorem preserves_readMemoryWithoutTraps
    (reads : ∀ w iovs, I w → I { w with kernel := (P.processVmReadv iovs w.kernel).2 })
    (address : VirtAddr) (amount : Nat) : Preserves I (readMemoryWithoutTraps P address amount) :=
  (preserves_readMemory P reads address amount).bind fun _ =>
    Preserves.get.bind fun _ => preserves_liftFault _

theorem preserves_writeMemory
    (reads : ∀ w iovs, I w → I { w with kernel := (P.processVmReadv iovs w.kernel).2 })
    (pokes : ∀ w a v, I w → I { w with kernel := (P.pokeData a v w.kernel).2 })
    (address : VirtAddr) (data : List Byte) : Preserves I (writeMemory P address data) := by
  have loop : ∀ written, Preserves I (writeMemoryLoop P address data written) := by
    intro written
    induction written using writeMemoryLoop.induct data with
    | case1 written more ih =>
      rw [writeMemoryLoop, if_pos more]
      refine Preserves.bind ?_ fun word =>
        (preserves_orSendErrno fun w h => pokes w _ word h).bind fun _ => ih
      refine Preserves.ite (Preserves.pure _) ?_
      exact (preserves_readMemory P reads _ 8).bind fun _ => Preserves.pure _
    | case2 written done =>
      rw [writeMemoryLoop, if_neg done]
      exact Preserves.pure _
  exact loop 0

/-- A property of the stoppoints' constructor arguments. -/
theorem ToggleBlind.preserves_call (blind : ToggleBlind I)
    (update : ∀ i, Preserves I (Watchpoint.updateData P i))
    (policy : ∀ w p, I w → I { w with syscallCatchPolicy := p })
    (perform : ∀ op : StoppointOp, Preserves I (op.perform P)) (call : ProcessCall) :
    Preserves I (call.perform P) := by
  cases call with
  | stoppoint op => exact perform op
  | setSyscallCatchPolicy p => exact Preserves.modify fun w h => policy w p h
  | resumeAndWait fuel =>
    exact (blind.preserves_resume.bind fun _ => blind.preserves_waitOnSignal update fuel).bind
      fun _ => Preserves.pure _
  | stepInstruction fuel =>
    exact (blind.preserves_stepInstruction update fuel).bind fun _ => Preserves.pure _
  | writeRegister op => exact Registers.preserves_write P blind.registers _ _
  | readMemory address amount =>
    exact (preserves_readMemory P (fun w _ h => blind.kernel w _ h) _ _).bind
      fun _ => Preserves.pure _
  | readMemoryWithoutTraps address amount =>
    exact (preserves_readMemoryWithoutTraps (fun w _ h => blind.kernel w _ h) _ _).bind
      fun _ => Preserves.pure _
  | writeMemory address data =>
    exact preserves_writeMemory (fun w _ h => blind.kernel w _ h) (fun w _ _ h => blind.kernel w _ h)
      _ _

theorem invariant_of_leads (keep : ∀ call : ProcessCall, Survives Unreturned I (call.perform P))
    {w t : World κ} (start : I w) (leads : Leads (callStep P) w t) : I t := by
  obtain ⟨calls, reach⟩ := leads
  refine run_invariant (fun call s u held step => ?_) start reach
  rcases survive_wp (keep call s held) step with ⟨_, kept⟩ | ⟨e, mild, kept⟩
  · exact kept
  · refine kept.resolve_left fun fatal => ?_
    rw [Unreturned, mild] at fatal
    cases fatal

end Kept

/-! ### The prompt -/

section Prompts

variable {κ η : Type} {P : Platform κ} {L : Libraries} {hist : HistoryList η} {fuel : Nat}

theorem performs_tryCommand (line : Text) :
    Performs (callStep P) (fun s : Prompt κ η => s.debugger.world) Fault.isFatal
      (tryCommand (handleCommand P L fuel) line) := by
  intro s
  have body := calls_catchError (calls_handleCommand (P := P) (L := L) fuel line)
    (fun what => calls_idle (idle_print (what ++ "\n"))) s.debugger
  rw [wp_iff] at body
  unfold wp tryCommand
  cases run : catchError (handleCommand P L fuel line) (fun what => print (what ++ "\n"))
      s.debugger with
  | ok a d => exact body.1 a d run
  | error e d => exact body.2 e d run

theorem performs_promptLine (line : Text) :
    Performs (callStep P) (fun s : Prompt κ η => s.debugger.world) Fault.isFatal
      (promptLine hist (handleCommand P L fuel) line) := by
  intro s
  by_cases blank : line = []
  · subst blank
    exact (wp_of_ok (promptLine_empty s) _ _).2 (.refl _)
  · rw [wp, promptLine_text blank]
    exact performs_tryCommand line { s with history := hist.addHistory line s.history }

theorem performs_mainLoop (lines : List Text) :
    Performs (callStep P) (fun s : Prompt κ η => s.debugger.world) Fault.isFatal
      (mainLoop hist (handleCommand P L fuel) lines) := by
  induction lines with
  | nil => exact .pure _
  | cons line lines ih => exact (performs_promptLine line).bind fun _ => ih

/-- Whatever has been typed when the debugger is back at its prompt, calls that leave no
resumption without its wait would have brought the process there too. -/
theorem mainLoop_calls {lines : List Text} {s t : Prompt κ η}
    (back : mainLoop hist (handleCommand P L fuel) lines s = .ok () t) :
    ∃ calls, run (callStep P) calls s.debugger.world = some t.debugger.world :=
  (wp_of_ok back _ _).1 (performs_mainLoop lines s)

def scriptedLines : List Text :=
  ["breakpoint set 0x1000".toList, "register write rax 0x2a".toList, [],
    "breakpoint set 0x1000".toList]

/-- The second breakpoint is refused. -/
theorem mainLoop_calls_refused :
    ∃ t calls, mainLoop listHistory (handleCommand scriptedPlatform noLibraries 1) scriptedLines
        scriptedPrompt = .ok () t ∧
      run (callStep scriptedPlatform) calls scriptedDebugger.world = some t.debugger.world := by
  obtain ⟨⟨⟩, t, back⟩ := exists_ok_of_survive (m := mainLoop listHistory
    (handleCommand scriptedPlatform noLibraries 1) scriptedLines) (s := scriptedPrompt)
    (by decide +kernel)
  obtain ⟨calls, reach⟩ := mainLoop_calls back
  exact ⟨t, calls, back, reach⟩

/-- At the prompt, a key names no two stoppoints of a collection. -/
theorem prompt_distinct {lines : List Text} {s t : Prompt κ η}
    (start : (keys s.debugger.world).Distinct)
    (back : mainLoop hist (handleCommand P L fuel) lines s = .ok () t) :
    (keys t.debugger.world).Distinct :=
  invariant_of_leads (fun call => .of_preserves <| keys_toggles.preserves_call keys_updateData
    (fun _ _ distinct => distinct) distinct_perform call) start
    ((wp_of_ok back _ _).1 (performs_mainLoop lines s))

theorem prompt_distinct_refused :
    ∃ t, mainLoop listHistory (handleCommand scriptedPlatform noLibraries 1) scriptedLines
        scriptedPrompt = .ok () t ∧ (keys t.debugger.world).Distinct := by
  obtain ⟨⟨⟩, t, back⟩ := exists_ok_of_survive (m := mainLoop listHistory
    (handleCommand scriptedPlatform noLibraries 1) scriptedLines) (s := scriptedPrompt)
    (by decide +kernel)
  have nothing : (keys scriptedDebugger.world).Distinct :=
    ⟨List.nodup_nil, List.nodup_nil, List.nodup_nil, nofun⟩
  exact ⟨t, back, prompt_distinct nothing back⟩

end Prompts

/-! ### The debugger as a whole -/

/-- What the debugger is started with; a program comes with the pid that `fork` has given it. -/
inductive Arguments where
  | program (pid : Int)
  | process (pid : Int)
  deriving DecidableEq, Repr

namespace Arguments

def terminateOnEnd : Arguments → Bool
  | .program _ => true
  | .process _ => false

/-- A program is a child that has asked to be traced; a process may be anything. -/
def Ready (v : Tracee) : Arguments → Prop
  | .program _ => v.isChild = true ∧ v.traced = true
  | .process _ => True

/-- The program has ended and has been waited for. The process is as it was, or runs on its own
again. -/
def Left (before after : Tracee) : Arguments → Prop
  | .program _ => after.life = .gone
  | .process _ => before.Settles after ∨ ∃ reported, after.Released reported

end Arguments

section Sdb

variable {κ η : Type} (H : Host κ) (files : TargetFiles κ) (L : Libraries) (hist : HistoryList η)
  (history : η) (fuel : Nat)

/-- `attach` of `sdb.cpp`, from the target on. -/
def attachTo : Arguments → Sdb κ (Debugger κ)
  | .program pid => do
    let elf ← Target.launch H files fuel
    let w ← get
    pure ⟨w, elf, pid, ["launched process with PID " ++ toString pid ++ "\n"], []⟩
  | .process pid => do
    let elf ← Target.attach H files fuel pid
    let w ← get
    pure ⟨w, elf, pid, [], []⟩

/-- `main_loop` over a target, up to the end of the input. -/
def prompting (lines : List Text) (d : Debugger κ) : Sdb κ (Debugger κ) := fun w =>
  match mainLoop hist (handleCommand H.toPlatform L fuel) lines
      ⟨{ d with world := w }, history, []⟩ with
  | .ok () t => .ok t.debugger t.debugger.world
  | .error e t => .error e t.debugger.world

/-- The `try` block of `main`. The target is destroyed at its end. -/
def sdb (args : Arguments) (lines : List Text) : Sdb κ (Debugger κ) := do
  let d ← attachTo H files fuel args
  let d ← owning H args.terminateOnEnd (prompting H L hist history fuel lines d)
  destroy H args.terminateOnEnd
  pure d

end Sdb

section Laws

variable {κ η : Type} {H : Host κ} {view : κ → Tracee} {c : Bool} {n : Nat}
  (laws : HostLaws H view)
include laws

/-- One lemma for all that can be asked of a process at the prompt. -/
theorem survives_call (call : ProcessCall) :
    Survives Unreturned (Tracked view c n True) (call.perform H.toPlatform) := by
  have blind := tracked_property.blind laws (Q := Tracked view c n True)
  cases call with
  | stoppoint op => exact .of_preserves (blind.preserves_perform op)
  | setSyscallCatchPolicy policy =>
    exact .of_preserves (Preserves.modify fun w h => tracked_property w _ rfl rfl (.refl _) h)
  | resumeAndWait fuel =>
    refine .bind (fun w tracked => ?_) fun _ => .of_preserves (Preserves.pure _)
    rw [wp_bind]
    exact (wp_resume_tracked laws tracked).mono
      (fun _ t going => wp_waitOnSignal_awaitable laws fuel going.awaitable) fun _ _ h => h
  | stepInstruction fuel =>
    exact .bind (survives_stepInstruction laws fuel) fun _ => .of_preserves (Preserves.pure _)
  | writeRegister op => exact .of_preserves (Registers.preserves_write _ blind.toRegisterBlind _ _)
  | readMemory address amount =>
    exact .of_preserves ((preserves_readMemory _ blind.processVmReadv _ _).bind
      fun _ => Preserves.pure _)
  | readMemoryWithoutTraps address amount =>
    exact .of_preserves ((preserves_readMemoryWithoutTraps blind.processVmReadv _ _).bind
      fun _ => Preserves.pure _)
  | writeMemory address data =>
    exact .of_preserves (preserves_writeMemory blind.processVmReadv blind.pokeData _ _)

/-- The inferior does not run while the debugger is at its prompt. -/
theorem wp_prompting {L : Libraries} {hist : HistoryList η} {history : η}
    (fuel : Nat) (lines : List Text) (d : Debugger κ) {w : World κ}
    (tracked : Tracked view c n True w) :
    wp (prompting H L hist history fuel lines d)
      (fun d' t => d'.world = t ∧ Tracked view c n True t)
      (fun e t => Unreturned e ∨ Tracked view c n True t) w := by
  have loop : wp (mainLoop hist (handleCommand H.toPlatform L fuel) lines) _ _
      ⟨{ d with world := w }, history, []⟩ := performs_mainLoop lines _
  rw [wp_iff] at loop
  unfold wp prompting
  cases run : mainLoop hist (handleCommand H.toPlatform L fuel) lines
      ⟨{ d with world := w }, history, []⟩ with
  | ok u t => exact ⟨rfl, invariant_of_leads (survives_call laws) tracked (loop.1 u t run)⟩
  | error e t =>
    exact (loop.2 e t run).imp_right (invariant_of_leads (survives_call laws) tracked)

theorem wp_attachTo (files : TargetFiles κ) (fuel : Nat) (args : Arguments) (w : World κ)
    (ready : args.Ready (view w.kernel)) :
    wp (attachTo H files fuel args)
      (fun d t => d.world = t ∧ ∃ c, (args.terminateOnEnd = true → c = true) ∧
        Tracked view c (view w.kernel).strays True t)
      (fun e t => Unreturned e ∨ args.Left (view w.kernel) (view t.kernel)) w := by
  cases args with
  | program pid =>
    change wp (Target.launch H files fuel >>= _) _ _ w
    rw [wp_bind]
    refine (wp_withFile laws (R := fun v => v.life = .gone) (fun _ => rfl) fuel
      (wp_launchDebuggee laws fuel w ready.1 ready.2) fun _ _ behind => behind.ended rfl).mono
        (fun elf t made => ?_) fun _ _ h => h
    exact ⟨rfl, true, fun _ => rfl, made.1⟩
  | process pid =>
    change wp (Target.attach H files fuel pid >>= _) _ _ w
    rw [wp_bind]
    refine (wp_withFile laws (R := (Arguments.process pid).Left (view w.kernel))
      (fun ends => by cases ends) fuel (wp_attach laws fuel pid w)
      fun _ _ behind => .inr (behind.freed rfl)).mono (fun elf t made => ?_) fun _ _ h => h
    exact ⟨rfl, _, fun ends => (by cases ends), made.1⟩

omit laws in
theorem left_of_leftBehind {args : Arguments} {v : Tracee} {s t : World κ}
    (behind : LeftBehind view args.terminateOnEnd s t) : args.Left v (view t.kernel) := by
  cases args with
  | program pid => exact behind.ended rfl
  | process pid => exact .inr (behind.freed rfl)

theorem wp_destroy_left {c : Bool} {n : Nat} {args : Arguments} {v : Tracee} {w : World κ}
    (own : args.terminateOnEnd = true → c = true) (tracked : Tracked view c n True w) :
    wp (destroy H args.terminateOnEnd) (fun _ t => args.Left v (view t.kernel)) (fun _ _ => False)
      w :=
  (wp_destroy laws tracked own).mono (fun _ _ behind => left_of_leftBehind behind) fun _ _ h => h

omit laws in
/-- The loop comes back from every `sdb::error`. -/
theorem prompting_error {L : Libraries} {hist : HistoryList η} {history : η} {fuel : Nat}
    {lines : List Text} {d : Debugger κ} {s t : World κ} {what : String} :
    prompting H L hist history fuel lines d s ≠ .error (.error what) t := by
  unfold prompting
  cases run : mainLoop hist (handleCommand H.toPlatform L fuel) lines
      ⟨{ d with world := s }, history, []⟩ with
  | ok u p => nofun
  | error e p =>
    intro raised
    cases raised
    exact mainLoop_error lines what run

/-- Each time the debugger is back at its prompt, the inferior is not running: it is stopped
where `state_` says so, unless it has been killed, and has ended where `state_` says that. -/
theorem prompt_rests {files : TargetFiles κ} {L : Libraries} {hist : HistoryList η} {history : η}
    {fuel : Nat} {args : Arguments} {w s t : World κ} {d d' : Debugger κ} {lines : List Text}
    (ready : args.Ready (view w.kernel)) (attached : attachTo H files fuel args w = .ok d s)
    (back : prompting H L hist history fuel lines d s = .ok d' t) :
    t.state ≠ .running ∧ t.state.Allows (view t.kernel).life := by
  obtain ⟨_, c, _, tracked⟩ := (wp_of_ok attached _ _).1 (wp_attachTo laws files fuel args w ready)
  have kept := ((wp_of_ok back _ _).1 (wp_prompting laws fuel lines d tracked)).2
  exact ⟨kept.rests trivial, kept.follows⟩

end Laws

/-! ### A session -/

/-- A program whose file can be loaded. -/
def functionProgram : TargetFiles Hosted where
  calls := allSucceed
  auxv _ := some movedVector
  program _ := functionFile

def typedLines : List Text :=
  ["breakpoint set 0x1000".toList, "register read nothing".toList, "continue".toList, [],
    "step".toList]

/-- The program stops twice. -/
theorem prompt_rests_stopped :
    ∃ d s d' t, attachTo hostedPlatform functionProgram 3 (.program 7) (freshChild [false, false]) =
        .ok d s ∧
      prompting hostedPlatform noLibraries listHistory [] 3 typedLines d s = .ok d' t ∧
      t.state ≠ .running ∧ t.state.Allows t.kernel.tracee.life := by
  obtain ⟨d', t, back⟩ := exists_ok_of_survive
    (m := attachTo hostedPlatform functionProgram 3 (.program 7) >>=
      prompting hostedPlatform noLibraries listHistory [] 3 typedLines)
    (s := freshChild [false, false]) (by decide +kernel)
  have ready : (Arguments.program 7).Ready (freshChild [false, false]).kernel.tracee := ⟨rfl, rfl⟩
  generalize freshChild [false, false] = w at back ready ⊢
  obtain ⟨d, s, attached, back⟩ := bind_inv back
  exact ⟨d, s, d', t, attached, back, prompt_rests Hosted.hostLaws ready attached back⟩

end SdbDebugger
