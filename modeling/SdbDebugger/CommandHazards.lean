import SdbDebugger.Library.ActionRuns
import SdbDebugger.MemoryHazards
import SdbDebugger.ScriptedKernel
import SdbDebugger.StopErrors
import SdbDebugger.StoppointHazards
import SdbDebugger.StoppointRuns

/-! What can leave `handle_command` besides `sdb::error`, in every state that command lines
lead to. -/

namespace SdbDebugger
open EffectRules Exceptions ActionRuns ByteSpace KeyedList StoppointCollection

variable {κ : Type} {P : Platform κ} {L : Libraries} {d : Debugger κ} {n m : Nat}

/-! ### Reports of stops -/

/-- The name of a symbol is not terminated inside the file. -/
def Unterminated (elf : Elf) (index : Nat) : Prop :=
  ∃ strtab, elf.stringTable = some strtab ∧ 0 ∉ elf.data.drop (strtab.shOffset.toNat + index)

theorem escapes_cString {bytes : List Byte} : Fails Escaping (cString bytes) ↔ 0 ∉ bytes := by
  induction bytes with
  | nil => simp [cString, Escaping, Fault.escapes]
  | cons b rest ih =>
    rw [cString]
    split
    · next zero => simp [zero]
    · next other =>
      rw [fails_map, ih, List.mem_cons, or_iff_right (Ne.symm other)]

theorem escapes_getString {elf : Elf} {index : Nat} :
    Fails Escaping (elf.getString index) ↔ Unterminated elf index := by
  unfold Elf.getString Unterminated
  cases elf.stringTable with
  | none => simp
  | some strtab => simp [escapes_cString]

/-- The function at the pc has a name that is not terminated inside the file. -/
def Unnameable (elf : Elf) (pc : VirtAddr) : Prop :=
  ∃ symbol, elf.symbolContainingAddress pc = some symbol ∧ elf64StType symbol.stInfo = sttFunc ∧
    Unterminated elf symbol.stName.toNat

theorem escapes_functionMessage {elf : Elf} {pc : VirtAddr} :
    Fails Escaping (functionMessage elf pc) ↔ Unnameable elf pc := by
  unfold functionMessage Unnameable
  cases elf.symbolContainingAddress pc with
  | none => simp
  | some symbol =>
    dsimp only
    by_cases function : elf64StType symbol.stInfo = sttFunc
    · rw [if_pos function, fails_bind, escapes_getString]
      simp [function]
    · rw [if_neg function]
      simp [function]

/-- A stop or an end by a signal without a name, or a stop in a function without one. -/
def Unprintable (elf : Elf) (reason : StopReason) (w : World κ) : Prop :=
  (reason.reason = .stopped ∨ reason.reason = .terminated) ∧ sigabbrevNp reason.info = none ∨
    reason.reason = .stopped ∧ Unnameable elf (load w.data 128 8)

theorem escapes_cStringArgument {s : Option String} :
    Fails Escaping (cStringArgument s) ↔ s = none := by
  cases s with
  | none => simp [cStringArgument, Escaping, Fault.escapes]
  | some text => simp [cStringArgument]

theorem syscallMessage_mild {info : SyscallInformation} (known : info.WellFormed) :
    ¬ Fails Escaping (syscallMessage info) := by
  obtain ⟨id, entry, payload⟩ := info
  rcases known with ⟨rfl, values, rfl⟩ | ⟨rfl, value, rfl⟩
  · change ¬ Fails Escaping (syscallIdToName id.toNat >>= _)
    rw [fails_bind, syscallIdToName]
    split
    · simp
    · simp [Escaping, Fault.escapes]
  · exact (fails_pure _).1

theorem raises_liftFault {α : Type} {x : Except Fault α} {w : World κ} :
    Raises Escaping (liftFault x) w ↔ Fails Escaping x := by
  cases x with
  | ok a => simp [liftFault_ok]
  | error e => exact (raises_throw e).trans (fails_error e).symm

theorem getByAddress_mild {β : Type} [Stoppoint β] {points : List β} {address : VirtAddr} :
    ¬ Fails Escaping (getByAddress points address) := by
  unfold getByAddress
  split
  · simp
  · simp [Escaping, Fault.escapes]

theorem at_of_getByAddress {β : Type} [Stoppoint β] {points : List β} {address : VirtAddr} {i : Nat}
    (found : getByAddress points address = .ok i) : ∃ point, points[i]? = some point := by
  unfold getByAddress at found
  split at found
  · next j h =>
    cases found
    obtain ⟨point, at_j, _⟩ := findByAddress_eq_some h
    exact ⟨point, at_j⟩
  · simp at found

theorem at_of_getById {β : Type} [Stoppoint β] {points : List β} {id : Int} {i : Nat}
    (found : getById points id = .ok i) : ∃ point, points[i]? = some point :=
  ⟨_, List.getElem?_eq_getElem (getById_lt found)⟩

theorem getSigtrapInfo_mild {reason : StopReason} {w : World κ} (known : Reportable reason w) :
    wp (getSigtrapInfo reason) (fun _ t => t = w) (fun e t => ¬ Escaping e ∧ t = w) w := by
  unfold getSigtrapInfo
  cases cause : reason.trapReason with
  | none => rfl
  | some trap =>
    cases trap with
    | singleStep => rfl
    | unknown => rfl
    | softwareBreak =>
      dsimp only
      rw [wp_bind, wp_of_ok (getPc_eq w), wp_bind, wp_get, wp_bind, wp_liftFault]
      refine ⟨fun i found => ?_, fun e raised => ⟨?_, rfl⟩⟩
      · obtain ⟨site, at_i⟩ := at_of_getByAddress found
        rw [wp_bind, deref_eq_ok.2 at_i]
        rfl
      · exact fun escaping => getByAddress_mild ⟨e, raised, escaping⟩
    | hardwareBreak =>
      dsimp only
      rw [wp_bind]
      refine (getCurrentHardwareStoppoint_mild (known.hardware cause)).mono (fun id t same => ?_)
        fun _ _ failed => failed
      subst same
      cases id with
      | inl id => rfl
      | inr id =>
        dsimp only
        rw [wp_bind, wp_get, wp_bind, wp_liftFault]
        refine ⟨fun i found => ?_, fun e raised => ⟨getById_mild raised, rfl⟩⟩
        obtain ⟨point, at_i⟩ := at_of_getById found
        rw [wp_bind, deref_eq_ok.2 at_i]
        rfl
    | syscall =>
      obtain ⟨info, syscall, wellFormed⟩ := known.described.syscall cause
      dsimp only
      rw [syscall]
      dsimp only
      rw [wp_liftFault]
      exact ⟨fun _ _ => rfl, fun e raised =>
        ⟨fun escaping => syscallMessage_mild wellFormed ⟨e, raised, escaping⟩, rfl⟩⟩

theorem raises_getSignalStopReason {elf : Elf} {reason : StopReason} {w : World κ}
    (known : Reportable reason w) :
    Raises Escaping (getSignalStopReason elf reason) w ↔
      sigabbrevNp reason.info = none ∨ Unnameable elf (load w.data 128 8) := by
  unfold getSignalStopReason
  rw [raises_bind_of_ok (getPc_eq w), ← escapes_functionMessage]
  cases sigabbrevNp reason.info with
  | none => exact iff_of_true ((raises_throw _).2 rfl) (.inl rfl)
  | some signal =>
    cases functionMessage elf (load w.data 128 8) with
    | error e =>
      rw [or_iff_right (by simp), fails_error]
      exact raises_throw e
    | ok func =>
      refine iff_of_false ?_ (by simp)
      suffices mild : wp _ (fun _ _ => True) (fun e _ => ¬ Escaping e) w from
        not_raises_of_wp mild fun _ _ mild => mild
      change wp (if reason.info = sigtrap then _ else _) _ _ w
      rw [wp_ite]
      split
      · rw [wp_bind]
        exact (getSigtrapInfo_mild known).mono (fun _ _ _ => trivial) fun _ _ failed => failed.1
      · trivial

theorem raises_stopMessage {elf : Elf} {reason : StopReason} {w : World κ}
    (known : Reportable reason w) :
    Raises Escaping (stopMessage elf reason) w ↔ Unprintable elf reason w := by
  unfold stopMessage Unprintable
  cases reason.reason with
  | stopped => simp [raises_getSignalStopReason known]
  | running => simp
  | exited => simp
  | terminated =>
    dsimp only
    rw [raises_bind, raises_liftFault, escapes_cStringArgument]
    simp

theorem raises_handleStop (small : SmallAllocations P) {reason : StopReason}
    (known : Reportable reason d.world) :
    Raises Escaping (handleStop P L reason) d ↔ Unprintable d.elf reason d.world := by
  have printed : Raises Escaping (printStopReason reason) d ↔
      Unprintable d.elf reason d.world := by
    unfold printStopReason
    rw [raises_get_bind, raises_onProcess_bind, raises_stopMessage known]
    refine or_iff_left fun h => ?_
    obtain ⟨msg, w, _, raised⟩ := h
    exact print_quiet _ raised
  have decodable : ¬ Undecodable P 5 := by
    refine not_or.2 ⟨?_, small.bytes (by norm_num)⟩
    unfold Unallocatable sizeofInstruction maxSize
    simp [small 200 le_rfl]
  unfold handleStop
  rw [raises_bind, printed]
  refine or_iff_left fun h => ?_
  obtain ⟨_, t, _, raised⟩ := h
  split at raised
  · rw [raises_bind_of_ok (onProcess_ok (getPc_eq t.world))] at raised
    exact decodable (raises_printDisassembly.1 raised)
  · exact (raises_pure _).1 raised

theorem preserves_getSigtrapInfo {I : World κ → Prop} (reason : StopReason) :
    Preserves I (getSigtrapInfo reason) := by
  unfold getSigtrapInfo
  split
  · exact (Registers.preserves_readByIdAsU64 _).bind fun _ => Preserves.get.bind fun _ =>
      (preserves_liftFault _).bind fun _ => (preserves_liftFault _).bind fun _ => Preserves.pure _
  · refine preserves_getCurrentHardwareStoppoint.bind fun id => ?_
    cases id with
    | inl id => exact Preserves.pure _
    | inr id =>
      exact Preserves.get.bind fun _ => (preserves_liftFault _).bind fun _ =>
        (preserves_liftFault _).bind fun _ => Preserves.pure _
  · exact Preserves.pure _
  · split
    · exact preserves_liftFault _
    · exact Preserves.throw _
  · exact Preserves.pure _

theorem preserves_stopMessage {I : World κ → Prop} (elf : Elf) (reason : StopReason) :
    Preserves I (stopMessage elf reason) := by
  unfold stopMessage getSignalStopReason
  split
  · refine (Registers.preserves_readByIdAsU64 _).bind fun _ => (preserves_liftFault _).bind
      fun _ => (preserves_liftFault _).bind fun _ => ?_
    dsimp only
    split
    · exact (preserves_getSigtrapInfo reason).bind fun _ => Preserves.pure _
    · exact Preserves.pure _
  · exact Preserves.pure _
  · exact Preserves.pure _
  · exact (preserves_liftFault _).bind fun _ => Preserves.pure _

theorem preserves_handleStop (reason : StopReason) :
    Preserves Debugger.Sound (handleStop P L reason) := by
  have printed : Preserves Debugger.Sound (printStopReason reason : Cli κ Unit) :=
    Preserves.get.bind fun d => (preserves_onProcess (preserves_stopMessage d.elf reason)).bind
      fun _ => preserves_print _
  refine printed.bind fun _ => Preserves.ite ?_ (Preserves.pure _)
  exact (tame_onProcess tame_getPc).preserves.bind fun pc => preserves_printDisassembly pc 5

/-! ### Running the inferior -/

/-- The stop that `continue` waits for, or what comes before it, cannot be told. -/
def ContinueHazard (P : Platform κ) (fuel : Nat) (d : Debugger κ) : Prop :=
  ∃ w, resume P d.world = .ok () w ∧
    (MeetsBlankTrap P fuel w ∨
      ∃ reason t, waitOnSignal P fuel w = .ok reason t ∧ Unprintable d.elf reason t)

/-- The stop that `step` waits for cannot be told. -/
def StepHazard (P : Platform κ) (fuel : Nat) (d : Debugger κ) : Prop :=
  (∃ site w, startStep P d.world = .ok site w ∧ MeetsBlankTrap P fuel w) ∨
    ∃ reason t, stepInstruction P fuel d.world = .ok reason t ∧ Unprintable d.elf reason t

theorem raises_step (small : SmallAllocations P) (fuel : Nat) (sound : d.Sound) :
    Raises Escaping (do
        let reason ← onProcess (stepInstruction P fuel)
        handleStop P L reason) d ↔ StepHazard P fuel d := by
  have held := Sound.held sound
  rw [raises_onProcess_bind, raises_stepInstruction small fuel held]
  refine or_congr_right (exists_congr fun reason => exists_congr fun t => and_congr_right ?_)
  intro run
  have reported := (wp_of_ok run _ _).1 (stepInstruction_reportable small fuel _ held)
  exact raises_handleStop (d := { d with world := t }) small reported.2

theorem raises_continue (small : SmallAllocations P) (fuel : Nat) (sound : d.Sound) :
    Raises Escaping (do
        onProcess (resume P)
        let reason ← onProcess (waitOnSignal P fuel)
        handleStop P L reason) d ↔ ContinueHazard P fuel d := by
  have held := Sound.held sound
  rw [raises_onProcess_bind, or_iff_right (tame_resume.not_raises held), exists_comm]
  refine exists_congr fun w => ?_
  have waited : ∀ u, resume P d.world = .ok u w → (Raises Escaping (do
      let reason ← onProcess (waitOnSignal P fuel)
      handleStop P L reason) { d with world := w } ↔ MeetsBlankTrap P fuel w ∨
        ∃ reason t, waitOnSignal P fuel w = .ok reason t ∧ Unprintable d.elf reason t) := by
    intro u run
    have kept := tame_resume.of_ok held run
    rw [raises_onProcess_bind, raises_waitOnSignal small fuel kept]
    refine or_congr_right (exists_congr fun reason => exists_congr fun t => and_congr_right ?_)
    intro run
    have reported := (wp_of_ok run _ _).1 (waitOnSignal_reportable small fuel w kept)
    exact raises_handleStop (d := { d with world := t }) small reported.2
  constructor
  · intro h
    obtain ⟨u, run, raised⟩ := h
    exact ⟨run, (waited u run).1 raised⟩
  · intro h
    exact ⟨(), h.1, (waited () h.1).2 h.2⟩

/-! ### All commands -/

/-- What makes a command line raise something else than `sdb::error`. -/
def Hazard (P : Platform κ) (L : Libraries) (fuel : Nat) (line : Text) (d : Debugger κ) : Prop :=
  let args := split ' ' line
  let command := arg args 0
  if isPrefix command "continue" then ContinueHazard P fuel d
  else if isPrefix command "register" then RegisterHazard L args
  else if isPrefix command "breakpoint" then BreakpointHazard args d
  else if isPrefix command "step" then StepHazard P fuel d
  else if isPrefix command "memory" then MemoryHazard P args
  else if isPrefix command "disassemble" then DisassembleHazard P args d
  else if isPrefix command "watchpoint" then WatchpointHazard P args d
  else isPrefix command "catchpoint" = true ∧ CatchpointHazard args

theorem split_ne_nil {delimiter : Char} {line : Text} (some_char : line ≠ []) :
    split delimiter line ≠ [] := by
  cases line with
  | nil => exact absurd rfl some_char
  | cons c cs =>
    unfold split
    split
    · exact List.cons_ne_nil _ _
    · split
      · exact List.cons_ne_nil _ _
      · exact List.cons_ne_nil _ _

theorem raises_handleCommand (small : SmallAllocations P) (fuel : Nat) {line : Text}
    (some_char : line ≠ []) (sound : d.Sound) :
    Raises Escaping (handleCommand P L fuel line) d ↔ Hazard P L fuel line d := by
  have words := @split_ne_nil ' ' _ some_char
  unfold handleCommand Hazard
  cases args : split ' ' line with
  | nil => exact absurd args words
  | cons command rest =>
    refine raises_ite (fun _ => raises_continue small fuel sound) fun _ => ?_
    refine raises_ite (fun _ => raises_handleRegisterCommand _ sound) fun _ => ?_
    refine raises_ite (fun _ => raises_handleBreakpointCommand _ sound) fun _ => ?_
    refine raises_ite (fun _ => raises_step small fuel sound) fun _ => ?_
    refine raises_ite (fun _ => raises_handleMemoryCommand small _ sound) fun _ => ?_
    refine raises_ite (fun _ => raises_handleDisassembleCommand _ sound) fun _ => ?_
    refine raises_ite (fun _ => raises_handleWatchpointCommand _ sound) fun _ => ?_
    split
    · next catches =>
      rw [raises_handleCatchpointCommand _ sound]
      exact (and_iff_right catches).symm
    · next other =>
      refine iff_of_false ?_ fun h => other h.1
      split
      · exact (tame_printHelp _).not_raises sound
      · exact printErr_quiet _

theorem preserves_handleCommand (small : SmallAllocations P) (fuel : Nat) (line : Text) :
    Preserves Debugger.Sound (handleCommand P L fuel line) := by
  have resumed : Preserves SdbDebugger.Sound (resume P) := fun w sound =>
    (tame_resume w (Sound.held sound)).mono (fun _ _ held => Held.sound held)
      fun _ _ failed => Held.sound failed.2
  have waited : Preserves SdbDebugger.Sound (waitOnSignal P fuel) := fun w sound =>
    (waitOnSignal_reportable small fuel w (Sound.held sound)).mono
      (fun _ _ done => Held.sound done.1) fun _ _ held => Held.sound held
  have stepped : Preserves SdbDebugger.Sound (stepInstruction P fuel) := fun w sound =>
    (stepInstruction_reportable small fuel w (Sound.held sound)).mono
      (fun _ _ done => Held.sound done.1) fun _ _ held => Held.sound held
  unfold handleCommand
  split
  · exact Preserves.throw _
  · refine Preserves.ite ?_ (Preserves.ite (preserves_handleRegisterCommand _)
      (Preserves.ite (preserves_handleBreakpointCommand _) (Preserves.ite ?_ (Preserves.ite
        (preserves_handleMemoryCommand small _) (Preserves.ite
          (preserves_handleDisassembleCommand _) (Preserves.ite
            (preserves_handleWatchpointCommand _) (Preserves.ite
              (preserves_handleCatchpointCommand _) (Preserves.ite (tame_printHelp _).preserves
                (preserves_printErr _)))))))))
    · exact (preserves_onProcess resumed).bind fun _ => (preserves_onProcess waited).bind
        preserves_handleStop
    · exact (preserves_onProcess stepped).bind preserves_handleStop

/-- One command line, after which the command line goes on unless the session has ended. -/
def lineStep (P : Platform κ) (L : Libraries) (fuel : Nat) (line : Text) :
    Debugger κ → Option (Debugger κ) := survive Fault.isFatal (handleCommand P L fuel line)

/-- After any command lines, the next one raises something else than `sdb::error` exactly if it
meets one of the hazards. -/
theorem escapes_after_commands (small : SmallAllocations P) (fuel : Nat) {d' : Debugger κ}
    (noSites : d.world.breakpointSites = []) (noWatchpoints : d.world.watchpoints = [])
    {lines : List Text} (reach : run (lineStep P L fuel) lines d = some d') {line : Text}
    (some_char : line ≠ []) :
    ¬ Raises Escaping (handleCommand P L fuel line) d' ↔ ¬ Hazard P L fuel line d' := by
  have fresh : d.Sound := by
    refine ⟨fun site member => ?_, fun point member => ?_⟩
    · rw [noSites] at member
      exact absurd member List.not_mem_nil
    · rw [noWatchpoints] at member
      exact absurd member List.not_mem_nil
  have sound : d'.Sound := run_invariant (fun line s t kept alive =>
    survive_invariant (preserves_handleCommand small fuel line) kept alive) fresh reach
  exact not_congr (raises_handleCommand small fuel some_char sound)

/-- Nothing decodes, and no text is a floating-point number. -/
def noLibraries : Libraries where
  disassembleATT _ _ := none
  fromCharsDouble _ := ⟨0, none⟩
  fromCharsLongDouble _ := ⟨0, none⟩
  formatFloat _ := ""
  formatDouble _ := ""
  formatLongDouble _ := ""

def emptyElf : Elf := ⟨[], ⟨0, 0, 0, 0, 0⟩, [], [], 0, [], .empty⟩

/-- A debugger that has just launched its target. -/
def scriptedDebugger : Debugger Scripted := ⟨scriptedWorld [] [], emptyElf, 1, [], []⟩

theorem escapes_after_commands_breakpoint :
    ∃ d, run (lineStep scriptedPlatform noLibraries 1) ["breakpoint set 0x1000".toList]
        scriptedDebugger = some d ∧
      (¬ Raises Escaping (handleCommand scriptedPlatform noLibraries 1
          "breakpoint list".toList) d ↔
        ¬ Hazard scriptedPlatform noLibraries 1 "breakpoint list".toList d) := by
  obtain ⟨d, reach⟩ := Option.isSome_iff_exists.1 (show (run (lineStep scriptedPlatform noLibraries 1)
    ["breakpoint set 0x1000".toList] scriptedDebugger).isSome = true by decide +kernel)
  exact ⟨d, reach, escapes_after_commands (fun _ _ => rfl) 1 rfl rfl reach (by decide)⟩

/-- A system call number with a letter behind it. -/
theorem escapes_catchpoint :
    Raises Escaping (handleCommand scriptedPlatform noLibraries 1
      "catchpoint syscall 1x".toList) scriptedDebugger := by
  decide +kernel

end SdbDebugger
