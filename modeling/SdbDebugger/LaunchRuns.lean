import SdbDebugger.LaunchHandshake

/-! The handshake of `process::launch` under every schedule: what its result says, that it
comes to an end, and what has been done by then. -/

namespace SdbDebugger
open ActionRuns

/-- `launch` creates its pipe to be closed on exec. -/
def launchStep (args : LaunchArgs) : LaunchEvent → Handshake → Option Handshake :=
  handshakeStep true args

structure Coherent (args : LaunchArgs) (s : Handshake) : Prop where
  child : ChildCoherent args s
  parent : ParentCoherent s

section Schedules

variable {closeOnExec : Bool} {args : LaunchArgs} {readFd writeFd : Int} {s t : Handshake}

theorem coherent_start (valid : writeFd ≠ -1) : Coherent args (.start readFd writeFd) where
  child := by constructor <;> simp [Handshake.start, ChildAt.position]
  parent := ⟨rfl, rfl, rfl, valid⟩

theorem Coherent.step {event : LaunchEvent} (h : Coherent args s)
    (step : handshakeStep closeOnExec args event s = some t) : Coherent args t := by
  cases event with
  | parent outcome =>
    have move := parentStep_move step
    exact ⟨h.child.parent h.parent move, h.parent.parent h.child move⟩
  | child outcome =>
    have move := childStep_move step
    exact ⟨h.child.move move, h.parent.move h.child move⟩
  | kill =>
    have move : ChildMove args s t := childKilled_move step
    exact ⟨h.child.move move, h.parent.move h.child move⟩

theorem coherent_of_run (valid : writeFd ≠ -1) {events : List LaunchEvent}
    (reach : run (handshakeStep closeOnExec args) events (.start readFd writeFd) = some s) :
    Coherent args s :=
  run_invariant (fun _ _ _ h step => h.step step) (coherent_start valid) reach

/-- In whatever order the calls of parent and child come, and whichever of them fail: the parent
goes on with the child exactly when the child wrote no report, which is when the program has been
started or the child was cut off; otherwise it raises the report, up to the size of the buffer, once
the child is no more. Failures of its own calls are raised with their `errno`. -/
theorem launch_agrees (valid : writeFd ≠ -1) {events : List LaunchEvent}
    (reach : run (launchStep args) events (.start readFd writeFd) = some s)
    {result : Except Fault Unit} (done : s.parent = .done result) : LaunchResult s result := by
  have parent := (coherent_of_run valid reach).parent
  unfold ParentCoherent at parent
  rwa [done] at parent

/-- A schedule in which the program does not exist. -/
def noSuchProgram (e : Errno) : List LaunchEvent :=
  [.parent none, .child none, .child none, .parent none, .child none, .child none, .child none,
    .child (some e), .child none, .parent none, .parent none, .child none, .parent none,
    .parent none]

theorem launch_agrees_noSuchProgram : ∃ s,
    run (launchStep ⟨true, some 9⟩) (noSuchProgram ⟨2, "No such file or directory"⟩)
      (.start 3 4) = some s ∧
    s.parent = .done (.error (.error "exec failed: No such file or directory")) ∧
    LaunchResult s (.error (.error "exec failed: No such file or directory")) := by
  obtain ⟨s, reach⟩ := Option.isSome_iff_exists.1 (show (run (launchStep ⟨true, some 9⟩)
    (noSuchProgram ⟨2, "No such file or directory"⟩) (.start 3 4)).isSome = true by decide +kernel)
  have done : s.parent = .done (.error (.error "exec failed: No such file or directory")) := by
    have all : ((run (launchStep ⟨true, some 9⟩) (noSuchProgram ⟨2, "No such file or directory"⟩)
        (.start 3 4)).all fun s => decide (s.parent =
          .done (.error (.error "exec failed: No such file or directory")))) = true := by
      decide +kernel
    rw [reach] at all
    simpa using all
  exact ⟨s, reach, done, launch_agrees (by decide) reach done⟩

/-! ### Termination -/

def ParentAt.remaining : ParentAt → Nat
  | .fork => 6
  | .closeWrite => 5
  | .read => 4
  | .closeRead _ => 3
  | .waitpid _ => 2
  | .leave _ => 1
  | .done _ => 0

def ChildAt.remaining : ChildAt → Nat
  | .unborn => 10
  | .setpgid => 9
  | .personality => 8
  | .closeRead => 7
  | .replaceStdout => 6
  | .traceMe => 5
  | .exec => 4
  | .report _ => 3
  | .unwind => 2
  | .exit => 2
  | .program => 1
  | .ended _ => 0

def Handshake.remaining (s : Handshake) : Nat := s.parent.remaining + s.child.remaining

theorem ChildMove.lowers (move : ChildMove args s t) : t.remaining < s.remaining := by
  unfold Handshake.remaining
  rw [move.parent, Nat.add_lt_add_iff_left]
  cases move with
  | failed here =>
    rcases here with here | here | here | here
    all_goals simp [here, ChildAt.remaining]
  | killed alive early =>
    cases here : s.child with
    | unborn => exact absurd here alive.1
    | ended executed => simp [Handshake.hasEnded, here] at alive
    | _ => simp [ChildAt.remaining]
  | _ here => simp [here, ChildAt.remaining]

theorem ParentMove.lowers (parent : ParentCoherent s) (move : ParentMove closeOnExec s t) :
    t.remaining < s.remaining := by
  unfold Handshake.remaining
  cases move with
  | fork here =>
    unfold ParentCoherent at parent
    rw [here] at parent
    simp [here, parent.1, ParentAt.remaining, ChildAt.remaining]
  | _ here => simp [here, ParentAt.remaining]

theorem Coherent.lowers {event : LaunchEvent} (h : Coherent args s)
    (step : handshakeStep closeOnExec args event s = some t) : t.remaining < s.remaining := by
  cases event with
  | parent outcome => exact (parentStep_move step).lowers h.parent
  | child outcome => exact (childStep_move step).lowers
  | kill =>
    have move : ChildMove args s t := childKilled_move step
    exact move.lowers

/-- A call of one of the two processes that succeeds. -/
def LaunchEvent.Succeeds : LaunchEvent → Prop
  | .parent none => True
  | .child none => True
  | _ => False

def Handshake.Finished (s : Handshake) : Prop := ∃ result, s.parent = .done result

/-- Before it ends or becomes the program the child has a call to make that can succeed. -/
theorem exists_childStep (born : s.child ≠ .unborn) (alive : ¬ s.child.Gone) :
    ∃ t, s.childStep args none = some t := by
  unfold Handshake.childStep
  cases here : s.child with
  | unborn => exact absurd here born
  | program => simp [here, ChildAt.Gone] at alive
  | ended executed => simp [here, ChildAt.Gone] at alive
  | _ => exact ⟨_, rfl⟩

/-- Nobody waits for the other without end: the read of the parent ends with the program's
`exec`, and its wait with the end of the child. -/
theorem exists_step (h : Coherent args s) (running : ¬ s.Finished) :
    ∃ event t, event.Succeeds ∧ launchStep args event s = some t := by
  have parent := h.parent
  unfold ParentCoherent at parent
  have own : (∃ t, s.parentStep true none = some t) →
      ∃ event t, event.Succeeds ∧ launchStep args event s = some t := by
    intro possible
    obtain ⟨t, step⟩ := possible
    exact ⟨.parent none, t, trivial, step⟩
  have child : s.child ≠ .unborn → ¬ s.child.Gone →
      ∃ event t, event.Succeeds ∧ launchStep args event s = some t := by
    intro born alive
    obtain ⟨t, step⟩ : ∃ t, s.childStep args none = some t := exists_childStep born alive
    exact ⟨.child none, t, trivial, step⟩
  unfold Handshake.parentStep at own
  cases here : s.parent with
  | done result => exact absurd ⟨result, here⟩ running
  | read =>
    rw [here] at parent own
    by_cases gone : s.child.Gone
    · refine own ?_
      have closed : s.hasWriter true = false := by
        unfold Handshake.hasWriter Handshake.childWrites
        rw [parent.2.2]
        unfold ChildAt.Gone at gone
        cases at_child : s.child with
        | program => rfl
        | ended executed => rfl
        | _ => simp [at_child] at gone
      dsimp only
      rw [closed]
      split
      · exact ⟨_, rfl⟩
      · exact ⟨_, rfl⟩
    · exact child parent.1 gone
  | waitpid data =>
    rw [here] at parent own
    obtain ⟨message, reported, _⟩ := reported_of_data parent.1 parent.2
    cases (h.child.reported message reported).2 with
    | inl exiting => exact child (by simp [exiting]) (by simp [exiting, ChildAt.Gone])
    | inr ended =>
      refine own ⟨_, if_pos ?_⟩
      rw [Handshake.hasEnded, ended]
  | _ =>
    rw [here] at own
    exact own ⟨_, rfl⟩

/-- An inherited write end would keep the parent waiting for as long as the program runs. -/
theorem blocked_inherited (valid : writeFd ≠ -1) : ∃ events s,
    run (handshakeStep false args) events (.start readFd writeFd) = some s ∧
      ¬ s.Finished ∧ ∀ event, event.Succeeds → handshakeStep false args event s = none := by
  refine ⟨[.parent none, .parent none, .child none, .child none, .child none, .child none,
    .child none, .child none], _, rfl, ?_, ?_⟩
  · intro finished
    obtain ⟨result, done⟩ := finished
    cases done
  · have kept : (Pipe.create readFd writeFd).closeRead.writeFd = writeFd :=
      (Pipe.create readFd writeFd).getFd_closeEnd .read .write
    intro event succeeds
    cases event with
    | kill => exact succeeds.elim
    | child outcome =>
      cases outcome with
      | none => rfl
      | some e => exact succeeds.elim
    | parent outcome =>
      cases outcome with
      | none =>
        refine if_pos ?_
        simp [Handshake.hasWriter, Handshake.childWrites, Handshake.start, kept, valid]
      | some e => exact succeeds.elim

/-- Every schedule of a launch is short, and can be completed by calls that succeed; the second
is what closing the pipe on `exec` is for. -/
theorem launch_completes_iff (valid : writeFd ≠ -1) :
    (∀ events s, run (handshakeStep closeOnExec args) events (.start readFd writeFd) = some s →
      events.length ≤ 16 ∧ ∃ more t, (∀ event ∈ more, event.Succeeds) ∧
        run (handshakeStep closeOnExec args) more s = some t ∧ t.Finished) ↔
      closeOnExec = true := by
  constructor
  · intro completes
    by_contra inherited
    rw [Bool.not_eq_true] at inherited
    subst inherited
    obtain ⟨events, s, reach, running, blocked⟩ := blocked_inherited valid
    obtain ⟨_, more, t, succeed, rest, finished⟩ := completes events s reach
    cases more with
    | nil =>
      cases rest
      exact running finished
    | cons event more =>
      rw [run_cons, blocked event (succeed event List.mem_cons_self)] at rest
      cases rest
  · intro closed
    subst closed
    intro events s reach
    have start : Coherent args (.start readFd writeFd) := coherent_start valid
    have length := run_length (fun _ _ _ h step => Coherent.step h step)
      (fun _ _ _ h step => Coherent.lowers h step) start reach
    refine ⟨?_, run_completes (fun _ _ _ h step => Coherent.step h step)
      (fun _ _ _ h step => Coherent.lowers h step) (fun s h running => exists_step h running) s
      (coherent_of_run valid reach)⟩
    change events.length + s.remaining ≤ 16 at length
    omega

/-! ### What has been done -/

/-- The pipe of the parent, and that it has been destroyed at the end. -/
structure ParentPipe (fds : PipeEnd → Int) (s : Handshake) : Prop where
  state : PipeState fds s.parentPipe
  destroyed : s.Finished → ∀ e, GivenUpOnce (fds e) s.parentPipe.calls

theorem ParentPipe.childMove {fds : PipeEnd → Int} (h : ParentPipe fds s)
    (move : ChildMove args s t) : ParentPipe fds t := by
  have pipe : t.parentPipe = s.parentPipe := by cases move <;> rfl
  obtain ⟨state, destroyed⟩ := h
  unfold Handshake.Finished at destroyed
  rw [← pipe] at state destroyed
  rw [← move.parent] at destroyed
  exact ⟨state, destroyed⟩

theorem ParentPipe.parentMove {fds : PipeEnd → Int} (h : ParentPipe fds s)
    (distinct : fds .read ≠ fds .write) (valid : ∀ e, fds e ≠ -1)
    (move : ParentMove closeOnExec s t) : ParentPipe fds t := by
  have unfinished {parent : ParentAt} (here : t.parent = parent)
      (other : ∀ result, parent ≠ .done result) :
      t.Finished → ∀ e, GivenUpOnce (fds e) t.parentPipe.calls := by
    intro finished
    obtain ⟨result, done⟩ := finished
    exact absurd (here.symm.trans done) (other result)
  have closing := fun e => h.state.close distinct valid e
  have reading := h.state.perform distinct valid (.transfer .read)
  cases move with
  | leave here =>
    have gone := h.state.destroy distinct valid
    exact ⟨(closing .read).close distinct valid .write, fun _ => gone⟩
  | closeWrite => exact ⟨closing .write, unfinished rfl (by simp)⟩
  | silence => exact ⟨closing .read, unfinished rfl (by simp)⟩
  | report => exact ⟨closing .read, unfinished rfl (by simp)⟩
  | read => exact ⟨reading, unfinished rfl (by simp)⟩
  | endOfFile => exact ⟨reading, unfinished rfl (by simp)⟩
  | readFailed => exact ⟨reading, unfinished rfl (by simp)⟩
  | _ => exact ⟨h.state, unfinished rfl (by simp)⟩

/-- Under every schedule the program runs only when all that was asked for has been set up, and
when the launch is over, with whatever result, the parent has given up both descriptors once. -/
theorem launch_prepares (distinct : readFd ≠ writeFd) (validRead : readFd ≠ -1)
    (validWrite : writeFd ≠ -1) {events : List LaunchEvent}
    (reach : run (launchStep args) events (.start readFd writeFd) = some s) :
    (s.executed = true → s.ownGroup = true ∧ s.stdout = args.stdoutReplacement ∧
      s.traced = args.debug) ∧
    (s.Finished → GivenUpOnce readFd s.parentPipe.calls ∧ GivenUpOnce writeFd s.parentPipe.calls) := by
  constructor
  · intro executed
    have child := (coherent_of_run validWrite reach).child
    have position : s.child.position = 6 := by
      unfold Handshake.executed at executed
      split at executed
      · next here => rw [here]; rfl
      · next here => rw [here, executed]; rfl
      · cases executed
    exact ⟨child.ownGroup (by omega), child.stdout (by omega), child.traced (by omega)⟩
  · intro finished
    have valid : ∀ e, (Pipe.create readFd writeFd).getFd e ≠ -1 := by
      intro e
      cases e with
      | read => exact validRead
      | write => exact validWrite
    have start : ParentPipe (Pipe.create readFd writeFd).getFd (.start readFd writeFd) := by
      refine ⟨.create readFd writeFd, fun finished => ?_⟩
      obtain ⟨result, done⟩ := finished
      cases done
    have pipe : ParentPipe (Pipe.create readFd writeFd).getFd s := by
      refine run_invariant (fun event s t h step => ?_) start reach
      cases event with
      | parent outcome => exact h.parentMove distinct valid (parentStep_move step)
      | child outcome => exact h.childMove (childStep_move step)
      | kill =>
        have move : ChildMove args s t := childKilled_move step
        exact h.childMove move
    exact ⟨pipe.destroyed finished .read, pipe.destroyed finished .write⟩

/-- A schedule in which the program is started. -/
def programStarted : List LaunchEvent :=
  [.parent none, .child none, .child none, .parent none, .child none, .child none, .child none,
    .child none, .parent none, .parent none, .parent none]

/-- Half way the handshake can still be completed. -/
theorem launch_completes_iff_halfWay : ∃ s,
    run (handshakeStep true ⟨true, some 9⟩) (programStarted.take 5) (.start 3 4) = some s ∧
    ¬ s.Finished ∧ ∃ more t, (∀ event ∈ more, event.Succeeds) ∧
      run (handshakeStep true ⟨true, some 9⟩) more s = some t ∧ t.Finished := by
  refine ⟨_, rfl, ?_, ((launch_completes_iff (by decide)).2 rfl (programStarted.take 5) _ rfl).2⟩
  rintro ⟨result, finished⟩
  cases finished

theorem launch_prepares_programStarted : ∃ s,
    run (launchStep ⟨true, some 9⟩) programStarted (.start 3 4) = some s ∧
    s.executed = true ∧ s.parent = .done (.ok ()) ∧
    (s.ownGroup = true ∧ s.stdout = some 9 ∧ s.traced = true) ∧
    GivenUpOnce 3 s.parentPipe.calls ∧ GivenUpOnce 4 s.parentPipe.calls := by
  have ended : ((run (launchStep ⟨true, some 9⟩) programStarted (.start 3 4)).map
      fun s => (s.executed, decide (s.parent = .done (.ok ())))) = some (true, true) := by
    decide +kernel
  obtain ⟨s, reach, same⟩ := Option.map_eq_some_iff.1 ended
  rw [Prod.mk.injEq, decide_eq_true_iff] at same
  obtain ⟨executed, done⟩ := same
  have prepared := launch_prepares (by decide) (by decide) (by decide) reach
  exact ⟨s, reach, executed, done, prepared.1 executed, prepared.2 ⟨_, done⟩⟩

end Schedules

end SdbDebugger
