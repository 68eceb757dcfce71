import SdbDebugger.Host
import SdbDebugger.SessionRuns

/-! How a process object comes and goes: `process::attach`, `process::launch` from where its
child has become the program, and `~process`. -/

namespace SdbDebugger
open EffectRules

variable {κ α : Type} (H : Host κ)

def sendSignal (s : Signal) : Sdb κ Unit := modify fun w => { w with kernel := H.kill s w.kernel }

/-- `waitpid` whose status is not looked at, nor whether it failed. -/
def reap : Sdb κ Unit := fun w =>
  match H.waitpid w.kernel with
  | (some _, k) => .ok () { w with kernel := k }
  | (none, k) => .error .stillRunning { w with kernel := k }

/-- `PTRACE_DETACH`, whose result is not looked at. -/
def letGo : Sdb κ Unit := modify fun w => { w with kernel := (H.detach w.kernel).2 }

/-- The part of `~process` that makes a running inferior stop. -/
def bringToStop : Sdb κ Unit := do
  let w ← get
  if w.state = .running then do
    sendSignal H .stop
    reap H
  else pure ()

/-- `~process`. -/
def destroy (terminateOnEnd : Bool) : Sdb κ Unit := do
  let w ← get
  if w.isAttached then do
    bringToStop H
    letGo H
    sendSignal H .cont
  else pure ()
  if terminateOnEnd then do
    sendSignal H .kill
    reap H
  else pure ()

/-- The constructor. The registers are left as they come. -/
def newProcess (isAttached : Bool) : Sdb κ Unit :=
  modify fun w => { w with
    isAttached := isAttached
    syscallCatchPolicy := .catchNone
    expectingSyscallExit := false
    state := .stopped
    breakpointSites := []
    watchpoints := [] }

/-- What is done while the process is owned by a local variable. An `sdb::error` runs the
destructors of what it leaves; what nobody catches ends the debugger on the spot. -/
def owning (terminateOnEnd : Bool) (m : Sdb κ α) : Sdb κ α := fun w =>
  match m w with
  | .ok a t => .ok a t
  | .error e t =>
    if e.isFatal then .error e t
    else (destroy H terminateOnEnd >>= fun _ => throw e) t

/-- The first stop, and `set_ptrace_options`. -/
def takeOver (fuel : Nat) : Sdb κ Unit := do
  let _ ← waitOnSignal H.toPlatform fuel
  orSendErrno "failed to set TRACESYSGOOD option" H.setOptions

def attach (fuel : Nat) (pid : Int) : Sdb κ Unit :=
  if pid = 0 then throw (.error "invalid PID")
  else do
    orSendErrno "could not attach" H.attach
    newProcess true
    owning H false (takeOver H fuel)

/-- The end of `launch` in the parent, once the handshake has succeeded. -/
def launchDebuggee (fuel : Nat) (debug : Bool) : Sdb κ Unit := do
  newProcess debug
  if debug then owning H true (takeOver H fuel)
  else pure ()

variable {H}

theorem wp_owning {terminateOnEnd : Bool} {m : Sdb κ α} {ok : α → World κ → Prop}
    {err : Fault → World κ → Prop} {w : World κ}
    (run : wp m ok (fun e t => if e.isFatal then err e t
      else wp (destroy H terminateOnEnd) (fun _ u => err e u) err t) w) :
    wp (owning H terminateOnEnd m) ok err w := by
  unfold wp owning
  rw [wp] at run
  cases outcome : m w with
  | ok a t =>
    rw [outcome] at run
    exact run
  | error e t =>
    rw [outcome] at run
    dsimp only at run ⊢
    split at run
    · next fatal =>
      rw [if_pos fatal]
      exact run
    · next caught =>
      rw [if_neg caught]
      exact (wp_bind _ (fun _ => throw e) ok err t).2 run

theorem wp_reap {ok : Unit → World κ → Prop} {err : Fault → World κ → Prop} {w : World κ}
    (waited : ∀ r k, H.waitpid w.kernel = (some r, k) → ok () { w with kernel := k })
    (blocked : ∀ k, H.waitpid w.kernel = (none, k) → err .stillRunning { w with kernel := k }) :
    wp (reap H) ok err w := by
  unfold wp reap
  cases outcome : H.waitpid w.kernel with
  | mk r k =>
    cases r with
    | none => exact blocked k outcome
    | some r => exact waited r k outcome

/-! ### What the debugger knows of its inferior -/

variable {view : κ → Tracee} {c : Bool} {n : Nat} {idle : Prop}

/-- What the inferior may be doing when the process object says this. -/
def ProcState.Allows : ProcState → Life → Prop
  | .running, life => life = .running ∨ life = .zombie
  | .stopped, life => life ≠ .running
  | _, life => life = .gone

theorem ProcState.Allows.still {s : ProcState} {life : Life} (allowed : s.Allows life)
    (other : s ≠ .running) : life ≠ .running := by
  cases s with
  | running => exact absurd rfl other
  | stopped => exact allowed
  | exited =>
    have gone : life = .gone := allowed
    simp [gone]
  | terminated =>
    have gone : life = .gone := allowed
    simp [gone]

/-- `state_` never claims that an inferior is stopped that is running, or the other way round;
if `idle`, the inferior has not been resumed without waiting for it. -/
structure Tracked (view : κ → Tracee) (c : Bool) (n : Nat) (idle : Prop) (w : World κ) : Prop where
  attached : w.isAttached = true
  traced : (view w.kernel).traced = true
  child : (view w.kernel).isChild = c
  strays : (view w.kernel).strays = n
  follows : w.state.Allows (view w.kernel).life
  rests : idle → w.state ≠ .running

namespace Tracee

variable {v v' : Tracee}

theorem Settles.refl (v : Tracee) : v.Settles v := .inl rfl

/-- A property that being killed does not falsify. -/
theorem Settles.keeps {R : Tracee → Prop} (settles : v.Settles v') (h : R v)
    (killed : v.Alive → R { v with life := .zombie }) : R v' := by
  rcases settles with rfl | ⟨alive, rfl⟩
  · exact h
  · exact killed alive

theorem Settles.strays (settles : v.Settles v') : v'.strays = v.strays :=
  settles.keeps (R := fun u => u.strays = v.strays) rfl fun _ => rfl

theorem Settles.child (settles : v.Settles v') : v'.isChild = v.isChild :=
  settles.keeps (R := fun u => u.isChild = v.isChild) rfl fun _ => rfl

theorem Settles.gone (settles : v.Settles v') : v'.life = .gone ↔ v.life = .gone := by
  rcases settles with rfl | ⟨alive, rfl⟩
  · rfl
  · rcases alive with running | stopped
    · simp [running]
    · simp [stopped]

theorem signalled_strays (v : Tracee) (s : Signal) :
    (v.signalled s).strays = v.strays + if v.life = .gone then v.isChild.toNat else 0 := by
  cases s with
  | stop => cases life : v.life <;> simp [signalled, life]
  | cont =>
    cases life : v.life with
    | stopped =>
      simp only [signalled, life]
      split <;> rfl
    | _ => simp [signalled, life]
  | kill => cases life : v.life <;> simp [signalled, life]

theorem signalled_child (v : Tracee) (s : Signal) : (v.signalled s).isChild = v.isChild := by
  cases s with
  | stop => cases life : v.life <;> simp [signalled, life]
  | cont =>
    cases life : v.life with
    | stopped =>
      simp only [signalled, life]
      split <;> rfl
    | _ => simp [signalled, life]
  | kill => cases life : v.life <;> simp [signalled, life]

theorem detached_strays (v : Tracee) : v.detached.strays = v.strays := by
  unfold detached
  split <;> rfl

theorem detached_child (v : Tracee) : v.detached.isChild = v.isChild := by
  unfold detached
  split <;> rfl

/-- A traced inferior that is about to report something. -/
structure Stopping (v : Tracee) : Prop where
  traced : v.traced = true
  reports : v.life = .zombie ∨ v.life = .running ∧ v.stopPending = true

structure AtRest (v : Tracee) : Prop where
  traced : v.traced = true
  still : v.life ≠ .running

/-- Nobody traces it any more, if it has not ended; its end has been reported if `reported`. -/
structure Untraced (reported : Prop) (v : Tracee) : Prop where
  free : v.life = .running ∧ v.traced = false ∨ v.life = .zombie ∨ v.life = .gone
  gone : v.life = .gone ↔ reported

/-- It runs on its own, if it has not ended. -/
structure Released (reported : Prop) (v : Tracee) : Prop where
  free : v.life = .running ∧ v.traced = false ∧ v.stopPending = false ∨ v.life = .zombie ∨
    v.life = .gone
  gone : v.life = .gone ↔ reported

/-- Its end can be waited for, or has been. -/
structure Ending (v : Tracee) : Prop where
  child : v.isChild = true
  past : v.life = .zombie ∨ v.life = .gone

theorem stopping_of_signal (settles : (v.signalled .stop).Settles v') (traced : v.traced = true)
    (alive : v.life = .running ∨ v.life = .zombie) : Stopping v' := by
  refine settles.keeps ?_ fun _ => ?_
  · cases alive with
    | inl running => constructor <;> simp [signalled, running, traced]
    | inr zombie => constructor <;> simp [signalled, zombie, traced]
  · cases alive with
    | inl running => constructor <;> simp [signalled, running, traced]
    | inr zombie => constructor <;> simp [signalled, zombie, traced]

theorem AtRest.untraced (rest : AtRest v) (settles : v.detached.Settles v') :
    Untraced (v.life = .gone) v' := by
  have before : Untraced (v.life = .gone) v.detached := by
    unfold detached
    split
    · next held => exact ⟨.inl ⟨rfl, rfl⟩, by simp [held.1]⟩
    · next held =>
      refine ⟨.inr ?_, Iff.rfl⟩
      cases life : v.life with
      | running => exact absurd life rest.still
      | stopped => exact absurd ⟨life, rest.traced⟩ held
      | zombie => exact .inl rfl
      | gone => exact .inr rfl
  refine ⟨?_, settles.gone.trans before.gone⟩
  rcases settles with same | ⟨_, killed⟩
  · rw [same]
    exact before.free
  · rw [killed]
    exact .inr (.inl rfl)

theorem Untraced.released {reported : Prop} (untraced : Untraced reported v)
    (settles : (v.signalled .cont).Settles v') : Released reported v' := by
  have before : Released reported (v.signalled .cont) := by
    have gone := untraced.gone
    rcases untraced.free with ⟨running, free⟩ | zombie | gone
    · constructor <;> simp_all [signalled]
    · constructor <;> simp_all [signalled]
    · constructor <;> simp_all [signalled]
  refine ⟨?_, settles.gone.trans before.gone⟩
  rcases settles with same | ⟨_, killed⟩
  · rw [same]
    exact before.free
  · rw [killed]
    exact .inr (.inl rfl)

theorem ending_of_kill (child : v.isChild = true) (settles : (v.signalled .kill).Settles v') :
    Ending v' := by
  have before : Ending (v.signalled .kill) := by
    cases life : v.life with
    | gone => constructor <;> simp [signalled, life, child]
    | running => constructor <;> simp [signalled, life, child]
    | stopped => constructor <;> simp [signalled, life, child]
    | zombie => constructor <;> simp [signalled, life, child]
  exact settles.keeps before fun _ => ⟨before.child, .inl rfl⟩

end Tracee

section Destroy

variable (laws : HostLaws H view) {w : World κ}
include laws

/-- Waiting sends nothing, and lets go of nothing. -/
theorem waitpid_frame {k k' : κ} {r : Except Errno WaitStatus} (waited : H.waitpid k = (some r, k')) :
    (view k').traced = (view k).traced ∧ (view k').isChild = (view k).isChild ∧
      (view k').strays = (view k).strays := by
  have ended : ∀ life, view k' = { view k with life := life } →
      (view k').traced = (view k).traced ∧ (view k').isChild = (view k).isChild ∧
        (view k').strays = (view k).strays := by
    intro life same
    rw [same]
    exact ⟨rfl, rfl, rfl⟩
  cases r with
  | error e =>
    rw [(laws.waitpid_failed k e k' waited).2]
    exact ⟨rfl, rfl, rfl⟩
  | ok status =>
    cases status with
    | exited code => exact ended .gone (laws.waitpid_ended k _ k' waited (by simp)).2
    | signaled signal => exact ended .gone (laws.waitpid_ended k _ k' waited (by simp)).2
    | stopped signal =>
      obtain ⟨_, _, pending, settles⟩ := laws.waitpid_stopped k signal k' waited
      rcases settles with same | ⟨_, killed⟩
      · rw [same]
        exact ⟨rfl, rfl, rfl⟩
      · rw [killed]
        exact ⟨rfl, rfl, rfl⟩

theorem wp_reap_stopping (stopping : (view w.kernel).Stopping) :
    wp (reap H) (fun _ t => (view t.kernel).AtRest ∧
        (view t.kernel).isChild = (view w.kernel).isChild) (fun _ _ => False) w := by
  refine wp_reap (fun r k waited => ?_) fun k blocked => ?_
  · obtain ⟨traced, child, _⟩ := waitpid_frame laws waited
    refine ⟨⟨traced.trans stopping.traced, ?_⟩, child⟩
    change (view k).life ≠ .running
    cases r with
    | error e =>
      obtain ⟨nobody, _⟩ := laws.waitpid_failed _ e k waited
      cases nobody with
      | inl gone =>
        rcases stopping.reports with zombie | running
        · cases gone.symm.trans zombie
        · cases gone.symm.trans running.1
      | inr alone => exact absurd (.inr stopping.traced) alone
    | ok status =>
      by_cases stop : ∃ signal, status = .stopped signal
      · obtain ⟨signal, rfl⟩ := stop
        obtain ⟨_, _, pending, settles⟩ := laws.waitpid_stopped _ signal k waited
        exact settles.keeps (R := fun u => u.life ≠ .running) (by simp) fun _ => by simp
      · rw [(laws.waitpid_ended _ status k waited fun signal same => stop ⟨signal, same⟩).2]
        simp
  · obtain ⟨_, _, alive, silent⟩ := laws.waitpid_blocks _ k blocked
    rcases stopping.reports with zombie | running
    · exact alive zombie
    · have quiet := silent running.1 stopping.traced
      rw [running.2] at quiet
      cases quiet

theorem wp_reap_ending (ending : (view w.kernel).Ending) :
    wp (reap H) (fun _ t => (view t.kernel).life = .gone ∧
        (view t.kernel).strays = (view w.kernel).strays) (fun _ _ => False) w := by
  refine wp_reap (fun r k waited => ⟨?_, (waitpid_frame laws waited).2.2⟩) fun k blocked => ?_
  · cases r with
    | error e =>
      obtain ⟨nobody, same⟩ := laws.waitpid_failed _ e k waited
      rw [same]
      exact nobody.resolve_right fun alone => alone (.inl ending.child)
    | ok status =>
      cases status with
      | stopped signal =>
        have running := (laws.waitpid_stopped _ signal k waited).1
        rcases ending.past with zombie | gone
        · cases running.symm.trans zombie
        · cases running.symm.trans gone
      | exited code => rw [(laws.waitpid_ended _ _ k waited (by simp)).2]
      | signaled signal => rw [(laws.waitpid_ended _ _ k waited (by simp)).2]
  · obtain ⟨_, kept, alive, _⟩ := laws.waitpid_blocks _ k blocked
    exact ending.past.elim alive kept

/-- The inferior comes to rest, and the wait for it ends. -/
theorem wp_bringToStop (tracked : Tracked view c n idle w) :
    wp (bringToStop H) (fun _ t => (view t.kernel).AtRest ∧ (view t.kernel).isChild = c ∧
      (w.state ≠ .running → t = w)) (fun _ _ => False) w := by
  unfold bringToStop
  rw [wp_bind, wp_get, wp_ite]
  split
  · next running =>
    have follows := tracked.follows
    rw [running] at follows
    have settles := laws.kill .stop w.kernel
    have stopping := Tracee.stopping_of_signal settles tracked.traced follows
    rw [wp_bind]
    refine (wp_reap_stopping laws (w := { w with kernel := H.kill .stop w.kernel }) stopping).mono
      (fun _ t rest => ⟨rest.1, ?_, fun other => absurd running other⟩) fun _ _ h => h
    rw [rest.2, settles.child, Tracee.signalled_child, tracked.child]
  · next other =>
    exact ⟨⟨tracked.traced, tracked.follows.still other⟩, tracked.child, fun _ => rfl⟩

/-- Signals that `~process` sends to a pid that is no longer its inferior's. -/
def strayed (terminateOnEnd isChild : Bool) : Life → Nat
  | .gone => (if terminateOnEnd then 2 else 1) * isChild.toNat
  | _ => 0

/-- What is left of the inferior by the destructor of its process. -/
structure LeftBehind (view : κ → Tracee) (terminateOnEnd : Bool) (w t : World κ) : Prop where
  ended : terminateOnEnd = true → (view t.kernel).life = .gone
  freed : terminateOnEnd = false → ∃ reported, (view t.kernel).Released reported
  strays : w.state ≠ .running → (view t.kernel).strays =
    (view w.kernel).strays + strayed terminateOnEnd (view w.kernel).isChild (view w.kernel).life

/-- The destructor of an attached process never waits in vain: it lets go of the inferior, and
one that it is to end is ended and waited for. -/
theorem wp_destroy (tracked : Tracked view c n idle w) {terminateOnEnd : Bool}
    (own : terminateOnEnd = true → c = true) :
    wp (destroy H terminateOnEnd) (fun _ t => LeftBehind view terminateOnEnd w t)
      (fun _ _ => False) w := by
  unfold destroy
  rw [wp_bind, wp_get]
  simp only [tracked.attached, if_true]
  rw [wp_bind]
  refine (wp_bringToStop laws tracked).mono (fun _ t stopped => ?_) fun _ _ h => h
  obtain ⟨rest, child, same⟩ := stopped
  have letGo := laws.detach t.kernel
  have cont := laws.kill .cont (H.detach t.kernel).2
  have released := (rest.untraced letGo).released cont
  have strays : (view (H.kill .cont (H.detach t.kernel).2)).strays =
      (view t.kernel).strays + if (view t.kernel).life = .gone then c.toNat else 0 := by
    rw [cont.strays, Tracee.signalled_strays, letGo.strays, Tracee.detached_strays, letGo.child,
      Tracee.detached_child, child]
    simp only [(rest.untraced letGo).gone]
  change wp (if terminateOnEnd then _ else _) _ _
    { t with kernel := H.kill .cont (H.detach t.kernel).2 }
  cases terminateOnEnd with
  | false =>
    refine ⟨fun ends => absurd ends Bool.false_ne_true, fun _ => ⟨_, released⟩, fun other => ?_⟩
    rw [same other] at strays
    change (view (H.kill .cont (H.detach t.kernel).2)).strays = _
    rw [same other, strays, tracked.child]
    cases (view w.kernel).life <;> simp [strayed]
  | true =>
    have mine : (view (H.kill .cont (H.detach t.kernel).2)).isChild = true := by
      rw [cont.child, Tracee.signalled_child, letGo.child, Tracee.detached_child, child, own rfl]
    have kill := laws.kill .kill (H.kill .cont (H.detach t.kernel).2)
    rw [if_pos rfl, wp_bind]
    refine (wp_reap_ending laws (w := { t with
      kernel := H.kill .kill (H.kill .cont (H.detach t.kernel).2) })
      (Tracee.ending_of_kill mine kill)).mono (fun _ u past => ?_) fun _ _ h => h
    refine ⟨fun _ => past.1, fun frees => absurd frees.symm Bool.false_ne_true, fun other => ?_⟩
    rw [past.2, kill.strays, Tracee.signalled_strays, strays, mine]
    simp only [released.gone]
    rw [same other, tracked.child, own rfl]
    cases (view w.kernel).life <;> rfl

end Destroy

end SdbDebugger
