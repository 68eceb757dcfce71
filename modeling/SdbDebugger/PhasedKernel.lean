import SdbDebugger.ScriptedKernel

/-! The scripted kernel with the phase of the inferior kept beside it. A scripted stop
that ptrace(2) does not allow after the last request is never reported. -/

namespace SdbDebugger

structure Phased where
  machine : Scripted
  phase : Phase
  lastStop : StopKind

namespace Phased

def view (k : Phased) : SyscallView := ⟨k.phase, k.lastStop⟩

def esrch : Errno := ⟨3, "No such process"⟩

def lift {α : Type} (f : Scripted → α × Scripted) (k : Phased) : α × Phased :=
  ((f k.machine).1, { k with machine := (f k.machine).2 })

def resume (request : ResumeRequest) (k : Phased) : Except Errno Unit × Phased :=
  match k.phase with
  | .stopped inCall =>
    (.ok (), ⟨(scriptedPlatform.resume request k.machine).2, .running request inCall, k.lastStop⟩)
  | _ => (.error esrch, k)

/-- What kind of stop a signal means, if it may come at all. -/
def kindOf (request : ResumeRequest) (inCall : Bool) (signal : Byte) : Option StopKind :=
  match request, inCall with
  | .syscall, true => if signal = syscallTrap then some .exit else none
  | .syscall, false => if signal = syscallTrap then some .entry else some .other
  | _, _ => if signal = syscallTrap then none else some .other

def waitpid (k : Phased) : Option (Except Errno WaitStatus) × Phased :=
  match k.phase, k.machine.stops with
  | .running request inCall, stop :: _ =>
    match stop.status with
    | .stopped signal =>
      match kindOf request inCall signal with
      | some kind =>
        (some (.ok (.stopped signal)),
          ⟨(Scripted.waitpid k.machine).2, .stopped (decide (kind = .entry)), kind⟩)
      | none => (none, k)
    | status => (some (.ok status), ⟨(Scripted.waitpid k.machine).2, .dead, k.lastStop⟩)
  | _, _ => (none, k)

end Phased

def phasedPlatform : Platform Phased where
  peekData a := Phased.lift (scriptedPlatform.peekData a)
  pokeData a v := Phased.lift (scriptedPlatform.pokeData a v)
  peekUser off := Phased.lift (scriptedPlatform.peekUser off)
  pokeUser off v := Phased.lift (scriptedPlatform.pokeUser off v)
  getRegs := Phased.lift scriptedPlatform.getRegs
  getFpRegs := Phased.lift scriptedPlatform.getFpRegs
  setFpRegs fprs := Phased.lift (scriptedPlatform.setFpRegs fprs)
  getSigInfo := Phased.lift scriptedPlatform.getSigInfo
  resume := Phased.resume
  waitpid := Phased.waitpid
  processVmReadv iovs := Phased.lift (scriptedPlatform.processVmReadv iovs)
  toDouble := scriptedPlatform.toDouble
  toLongDouble := scriptedPlatform.toLongDouble
  canAllocate := scriptedPlatform.canAllocate

/-- A launched process that traces every system call. -/
def phasedWorld (stops : List KernelStop) : World Phased where
  isAttached := true
  syscallCatchPolicy := .catchAll
  expectingSyscallExit := false
  state := .stopped
  data := fun _ => 0
  breakpointSites := []
  watchpoints := []
  breakpointSiteId := 0
  watchpointId := 0
  kernel := ⟨(scriptedWorld [] stops).kernel, .stopped false, .other⟩

namespace Phased

theorem kindOf_follows {request : ResumeRequest} {inCall : Bool} {signal : Byte} {kind : StopKind}
    (h : kindOf request inCall signal = some kind) :
    kind.Follows request inCall ∧ (signal = syscallTrap ↔ kind ≠ .other) := by
  unfold kindOf at h
  split at h
  · split at h
    · cases h
      exact ⟨.exit, by simpa⟩
    · contradiction
  · split at h
    · cases h
      exact ⟨.entry, by simpa⟩
    · cases h
      exact ⟨.other fun _ => rfl, by simpa⟩
  · next notCall notEntry =>
    split at h
    · contradiction
    · next plain =>
      cases h
      refine ⟨.other fun traced => ?_, by simpa⟩
      cases inCall with
      | true => exact absurd rfl (notCall traced)
      | false => rfl

/-- What `waitpid` reports, and where it leaves the inferior. -/
inductive Waited (k : Phased) : Option (Except Errno WaitStatus) → Phased → Prop where
  | stopped {request : ResumeRequest} {inCall : Bool} {signal : Byte} {kind : StopKind}
      {machine : Scripted} (running : k.phase = .running request inCall)
      (allowed : kindOf request inCall signal = some kind) :
      Waited k (some (.ok (.stopped signal))) ⟨machine, .stopped (decide (kind = .entry)), kind⟩
  | ended {status : WaitStatus} {machine : Scripted} (final : ∀ signal, status ≠ .stopped signal) :
      Waited k (some (.ok status)) ⟨machine, .dead, k.lastStop⟩
  | nothing : Waited k none k

theorem waited (k : Phased) : Waited k (waitpid k).1 (waitpid k).2 := by
  unfold waitpid
  split
  · next running _ =>
    split
    · split
      · next allowed => exact .stopped running allowed
      · exact .nothing
    · next final => exact .ended final
  · exact .nothing

theorem syscallStopLaws : SyscallStopLaws phasedPlatform.toKernel view where
  waitpid_stopped k signal k' h := by
    have outcome := waited k
    rw [show waitpid k = _ from h] at outcome
    cases outcome with
    | stopped running allowed =>
      have kind := kindOf_follows allowed
      exact ⟨_, _, running, kind.1, kind.2, .inl rfl⟩
    | ended final => exact absurd rfl (final signal)
  waitpid_ended k status k' h final := by
    have outcome := waited k
    rw [show waitpid k = _ from h] at outcome
    cases outcome with
    | stopped => exact absurd rfl (final _)
    | ended => rfl
  waitpid_failed k r k' h failed := by
    have outcome := waited k
    rw [show waitpid k = _ from h] at outcome
    cases outcome with
    | stopped => exact absurd rfl (failed _)
    | ended => exact absurd rfl (failed _)
    | nothing => exact .inl rfl
  resume_accepted r k k' h := by
    change resume r k = _ at h
    unfold resume at h
    split at h
    · next inCall stopped =>
      cases h
      exact .inl ⟨inCall, stopped, rfl⟩
    · cases h
  resume_refused r k e k' h := by
    change resume r k = _ at h
    unfold resume at h
    split at h
    · cases h
    · cases h
      exact .inl rfl
  getRegs_refused _ _ _ _ h _ := nomatch h
  getFpRegs_refused _ _ _ _ h _ := nomatch h
  peekUser_refused _ _ _ _ _ _ h _ := nomatch h
  getSigInfo_refused _ _ _ _ h _ := nomatch h
  getRegs _ := .inl rfl
  getFpRegs _ := .inl rfl
  setFpRegs _ _ := .inl rfl
  peekUser _ _ := .inl rfl
  pokeUser _ _ _ := .inl rfl
  peekData _ _ := .inl rfl
  pokeData _ _ _ := .inl rfl
  getSigInfo _ := .inl rfl
  processVmReadv _ _ := .inl rfl

end Phased

end SdbDebugger
