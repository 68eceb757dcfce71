import SdbDebugger.Host

/-! A kernel that is the tracee itself. What the inferior does while it runs is laid down: each
entry of `ends` is one report, `true` for its end and `false` for a stop. -/

namespace SdbDebugger

structure Hosted where
  tracee : Tracee
  ends : List Bool
  deriving DecidableEq, Repr

namespace Hosted

def esrch : Errno := ⟨3, "No such process"⟩
def eperm : Errno := ⟨1, "Operation not permitted"⟩
def echild : Errno := ⟨10, "No child processes"⟩

def withLife (k : Hosted) (life : Life) : Hosted := { k with tracee := { k.tracee with life := life } }

/-- Requests are for a stopped tracee. -/
def whenStopped {α : Type} (a : α) (k : Hosted) : Except Errno α × Hosted :=
  if k.tracee.life = .stopped then (.ok a, k) else (.error esrch, k)

def stopped (k : Hosted) : Option (Except Errno WaitStatus) × Hosted :=
  (some (.ok (.stopped sigtrap)),
    { k with tracee := { k.tracee with life := .stopped, stopPending := false } })

def exited (k : Hosted) : Option (Except Errno WaitStatus) × Hosted :=
  (some (.ok (.exited 0)), k.withLife .gone)

def waitpid (k : Hosted) : Option (Except Errno WaitStatus) × Hosted :=
  if k.tracee.isChild || k.tracee.traced then
    match k.tracee.life with
    | .gone => (some (.error echild), k)
    | .zombie => exited k
    | .stopped => (none, k)
    | .running =>
      if k.tracee.traced && k.tracee.stopPending then stopped k
      else
        match k.ends with
        | [] => (none, k)
        | true :: later => exited { k with ends := later }
        | false :: later => if k.tracee.traced then stopped { k with ends := later } else (none, k)
  else (some (.error echild), k)

def resume (_ : ResumeRequest) (k : Hosted) : Except Errno Unit × Hosted :=
  if k.tracee.life = .stopped then (.ok (), k.withLife .running) else (.error esrch, k)

def attach (k : Hosted) : Except Errno Unit × Hosted :=
  if (k.tracee.life = .running ∨ k.tracee.life = .stopped) ∧ k.tracee.traced = false then
    (.ok (), { k with
      tracee := { k.tracee with life := .running, traced := true, stopPending := true } })
  else (.error eperm, k)

def setOptions (k : Hosted) : Except Errno Unit × Hosted :=
  if k.tracee.life = .stopped then
    (.ok (), { k with tracee := { k.tracee with optionsSet := true } })
  else (.error esrch, k)

def detach (k : Hosted) : Except Errno Unit × Hosted :=
  ((whenStopped () k).1, { k with tracee := k.tracee.detached })

def kill (s : Signal) (k : Hosted) : Hosted := { k with tracee := k.tracee.signalled s }

end Hosted

def hostedPlatform : Host Hosted where
  peekData _ := Hosted.whenStopped 0
  pokeData _ _ := Hosted.whenStopped ()
  peekUser _ := Hosted.whenStopped 0
  pokeUser _ _ := Hosted.whenStopped ()
  getRegs := Hosted.whenStopped fun _ => 0
  getFpRegs := Hosted.whenStopped fun _ => 0
  setFpRegs _ := Hosted.whenStopped ()
  getSigInfo := Hosted.whenStopped 0
  resume := Hosted.resume
  waitpid := Hosted.waitpid
  processVmReadv _ := Hosted.whenStopped []
  toDouble _ := 0
  toLongDouble _ := 0
  canAllocate _ := true
  attach := Hosted.attach
  setOptions := Hosted.setOptions
  detach := Hosted.detach
  kill := Hosted.kill

/-- Before there is a process object. -/
def hostedWorld (tracee : Tracee) (ends : List Bool) : World Hosted where
  isAttached := false
  syscallCatchPolicy := .catchNone
  expectingSyscallExit := false
  state := .stopped
  data := fun _ => 0
  breakpointSites := []
  watchpoints := []
  breakpointSiteId := 0
  watchpointId := 0
  kernel := ⟨tracee, ends⟩

namespace Hosted

theorem whenStopped_same {α : Type} (a : α) (k : Hosted) :
    k.tracee.Settles (whenStopped a k).2.tracee := by
  unfold whenStopped
  split
  · exact .inl rfl
  · exact .inl rfl

/-- What `waitpid` reports, and where it leaves the inferior. -/
inductive Waited (k : Hosted) : Option (Except Errno WaitStatus) → Hosted → Prop where
  | stopped {ends : List Bool} (running : k.tracee.life = .running) (traced : k.tracee.traced = true) :
      Waited k (some (.ok (.stopped sigtrap)))
        ⟨{ k.tracee with life := .stopped, stopPending := false }, ends⟩
  | ended {ends : List Bool} (kept : k.tracee.life ≠ .gone) :
      Waited k (some (.ok (.exited 0))) ⟨{ k.tracee with life := .gone }, ends⟩
  | failed (nobody : k.tracee.life = .gone ∨ ¬ k.tracee.Waitable) :
      Waited k (some (.error echild)) k
  | nothing (waitable : k.tracee.Waitable)
      (silent : k.tracee.life = .stopped ∨
        k.tracee.life = .running ∧ (k.tracee.traced = true → k.tracee.stopPending = false)) :
      Waited k none k

theorem waited (k : Hosted) : Waited k (waitpid k).1 (waitpid k).2 := by
  unfold waitpid
  split
  · next mine =>
    have waitable : k.tracee.Waitable := by simpa [Tracee.Waitable] using mine
    split
    · next gone => exact .failed (.inl gone)
    · next zombie => exact .ended (by simp [zombie])
    · next stopped => exact .nothing waitable (.inl stopped)
    · next running =>
      split
      · next pending => exact .stopped running (by simp_all)
      · next quiet =>
        have silent : k.tracee.traced = true → k.tracee.stopPending = false := by simp_all
        split
        · exact .nothing waitable (.inr ⟨running, silent⟩)
        · exact .ended (by simp [running])
        · split
          · next traced => exact .stopped running traced
          · exact .nothing waitable (.inr ⟨running, silent⟩)
  · next alone => exact .failed (.inr (by simpa [Tracee.Waitable] using alone))

theorem hostLaws : HostLaws hostedPlatform Hosted.tracee where
  waitpid_stopped k signal k' h := by
    have outcome := waited k
    rw [show waitpid k = _ from h] at outcome
    cases outcome with
    | stopped running traced => exact ⟨running, traced, false, .inl rfl⟩
  waitpid_ended k status k' h final := by
    have outcome := waited k
    rw [show waitpid k = _ from h] at outcome
    cases outcome with
    | stopped => exact absurd rfl (final _)
    | ended kept => exact ⟨kept, rfl⟩
  waitpid_failed k e k' h := by
    have outcome := waited k
    rw [show waitpid k = _ from h] at outcome
    cases outcome with
    | failed nobody => exact ⟨nobody, rfl⟩
  waitpid_blocks k k' h := by
    have outcome := waited k
    rw [show waitpid k = _ from h] at outcome
    cases outcome with
    | nothing waitable silent =>
      have mine : k'.tracee.Waitable := waitable
      rcases silent with stopped | ⟨running, quiet⟩
      · have still : k'.tracee.life = .stopped := stopped
        simp [mine, still]
      · have under : k'.tracee.life = .running := running
        have silent : k'.tracee.traced = true → k'.tracee.stopPending = false := quiet
        exact ⟨mine, by simp [under], by simp [under], fun _ => silent⟩
  resume_accepted r k k' h := by
    change resume r k = _ at h
    unfold resume at h
    split at h
    · next stopped =>
      cases h
      exact ⟨stopped, .inl rfl⟩
    · cases h
  resume_refused r k e k' h := by
    change resume r k = _ at h
    unfold resume at h
    split at h
    · cases h
    · cases h
      exact .inl rfl
  attach_accepted k k' h := by
    change attach k = _ at h
    unfold attach at h
    split at h
    · next free =>
      cases h
      exact ⟨free.1, .inl rfl⟩
    · cases h
  attach_refused k e k' h := by
    change attach k = _ at h
    unfold attach at h
    split at h
    · cases h
    · cases h
      exact .inl rfl
  setOptions_accepted k k' h := by
    change setOptions k = _ at h
    unfold setOptions at h
    split at h
    · next stopped =>
      cases h
      exact ⟨stopped, .inl rfl⟩
    · cases h
  setOptions_refused k e k' h := by
    change setOptions k = _ at h
    unfold setOptions at h
    split at h
    · cases h
    · cases h
      exact .inl rfl
  detach _ := .inl rfl
  kill _ _ := .inl rfl
  getRegs k := whenStopped_same _ k
  getFpRegs k := whenStopped_same _ k
  setFpRegs _ k := whenStopped_same _ k
  peekUser _ k := whenStopped_same _ k
  pokeUser _ _ k := whenStopped_same _ k
  peekData _ k := whenStopped_same _ k
  pokeData _ _ k := whenStopped_same _ k
  getSigInfo k := whenStopped_same _ k
  processVmReadv _ k := whenStopped_same _ k

end Hosted

end SdbDebugger
