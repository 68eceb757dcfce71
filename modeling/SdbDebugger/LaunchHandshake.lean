import SdbDebugger.Library.ActionRuns
import SdbDebugger.Parse
import SdbDebugger.Pipe

/-! The handshake of `process::launch`, from the pipe that has been created to where the parent has
raised or goes on with the child as its process. Parent and child are two processes with a pipe
between them; an event is the next call of one of them, with its outcome, so a list of events is
one order in which their calls may come. -/

namespace SdbDebugger
open ActionRuns

structure LaunchArgs where
  debug : Bool
  stdoutReplacement : Option Int
  deriving DecidableEq, Repr

/-- Where the child is; it goes through the calls in this order. -/
inductive ChildAt where
  | unborn
  | setpgid | personality | closeRead | replaceStdout | traceMe | exec
  /-- In `exit_with_perror`, before its write. -/
  | report (message : Text)
  /-- The write raised, and the exception leaves `launch` in the child. -/
  | unwind
  | exit
  | program
  | ended (executed : Bool)
  deriving DecidableEq, Repr

inductive ParentAt where
  | fork | closeWrite | read
  | closeRead (data : Text)
  | waitpid (data : Text)
  /-- Before the destructor of `channel`. With `.ok ()` the first stop of the child is waited for
  first, which is no part of the handshake and leaves the pipe alone. -/
  | leave (result : Except Fault Unit)
  /-- The handshake is over: it has raised, or with `.ok ()` has left the child to the rest of
  `launch`. -/
  | done (result : Except Fault Unit)
  deriving DecidableEq

/-- The two processes and what is in the pipe. `reported`, `cutOff` and `waitFailed` are history:
what the child wrote, whether it got neither to the program nor to a report, and whether the
parent's wait failed. -/
structure Handshake where
  parent : ParentAt
  parentPipe : Pipe
  child : ChildAt
  childPipe : Pipe
  buffer : Text
  ownGroup : Bool
  stdout : Option Int
  traced : Bool
  reaped : Bool
  reported : Option Text
  cutOff : Bool
  waitFailed : Bool
  deriving DecidableEq

def perrorText (what : String) (e : Errno) : Text := (what ++ ": " ++ e.message).toList

/-- The size of the buffer of `pipe::read`. -/
def pipeBufferSize : Nat := 1024

namespace Handshake

def start (readFd writeFd : Int) : Handshake where
  parent := .fork
  parentPipe := .create readFd writeFd
  child := .unborn
  childPipe := .create readFd writeFd
  buffer := []
  ownGroup := false
  stdout := none
  traced := false
  reaped := false
  reported := none
  cutOff := false
  waitFailed := false

/-- The image of the child has been replaced. -/
def executed (s : Handshake) : Bool :=
  match s.child with
  | .program => true
  | .ended executed => executed
  | _ => false

def hasEnded (s : Handshake) : Bool :=
  match s.child with
  | .ended _ => true
  | _ => false

/-- The child keeps the write end open; `exec` closes it if it was made so. -/
def childWrites (closeOnExec : Bool) (s : Handshake) : Bool :=
  match s.child with
  | .unborn => false
  | .ended _ => false
  | .program => !closeOnExec && s.childPipe.writeFd != -1
  | _ => s.childPipe.writeFd != -1

/-- A read of the empty pipe waits while somebody may still write. -/
def hasWriter (closeOnExec : Bool) (s : Handshake) : Bool :=
  s.parentPipe.writeFd != -1 || s.childWrites closeOnExec

/-- The child, whose calls succeed or fail with an `errno`. -/
def childStep (args : LaunchArgs) (outcome : Option Errno) (s : Handshake) : Option Handshake :=
  match s.child, outcome with
  | .setpgid, none => some { s with child := .personality, ownGroup := true }
  | .setpgid, some e => some { s with child := .report (perrorText "could not set pgid" e) }
  -- the result of `personality` is not looked at
  | .personality, _ => some { s with child := .closeRead }
  | .closeRead, none => some { s with child := .replaceStdout, childPipe := s.childPipe.closeRead }
  | .replaceStdout, none => some { s with child := .traceMe, stdout := args.stdoutReplacement }
  | .replaceStdout, some e =>
    if args.stdoutReplacement.isSome then
      some { s with child := .report (perrorText "stdout replacement failed" e) }
    else none
  | .traceMe, none => some { s with child := .exec, traced := args.debug }
  | .traceMe, some e =>
    if args.debug then some { s with child := .report (perrorText "tracing failed" e) } else none
  | .exec, none => some { s with child := .program }
  | .exec, some e => some { s with child := .report (perrorText "exec failed" e) }
  | .report message, none =>
    some { s with child := .exit, childPipe := s.childPipe.transferEnd .write,
                  buffer := s.buffer ++ message, reported := some message }
  | .report _, some _ =>
    some { s with child := .unwind, childPipe := s.childPipe.transferEnd .write, cutOff := true }
  | .unwind, none => some { s with child := .ended false, childPipe := s.childPipe.destroy }
  | .exit, none => some { s with child := .ended false }
  | _, _ => none

/-- A signal from elsewhere ends the child, or the program ends. -/
def childKilled (s : Handshake) : Option Handshake :=
  match s.child with
  | .unborn => none
  | .ended _ => none
  | .program => some { s with child := .ended true }
  | .exit => some { s with child := .ended false }
  | _ => some { s with child := .ended false, cutOff := true }

/-- The parent. The outcome of its `waitpid` is not looked at. -/
def parentStep (closeOnExec : Bool) (outcome : Option Errno) (s : Handshake) : Option Handshake :=
  match s.parent, outcome with
  | .fork, none =>
    some { s with parent := .closeWrite, child := .setpgid, childPipe := s.parentPipe }
  | .fork, some e => some { s with parent := .leave (.error (.sendErrno "fork failed" e)) }
  | .closeWrite, none => some { s with parent := .read, parentPipe := s.parentPipe.closeWrite }
  | .read, none =>
    if s.buffer ≠ [] then
      some { s with parent := .closeRead (s.buffer.take pipeBufferSize),
                    buffer := s.buffer.drop pipeBufferSize,
                    parentPipe := s.parentPipe.transferEnd .read }
    else if s.hasWriter closeOnExec then none
    else some { s with parent := .closeRead [], parentPipe := s.parentPipe.transferEnd .read }
  | .read, some e =>
    some { s with parent := .leave (.error (.sendErrno "could not read from pipe" e)),
                  parentPipe := s.parentPipe.transferEnd .read }
  | .closeRead data, none =>
    some { s with parent := if data ≠ [] then .waitpid data else .leave (.ok ()),
                  parentPipe := s.parentPipe.closeRead }
  | .waitpid data, none =>
    if s.hasEnded then
      some { s with parent := .leave (.error (.error (String.ofList data))), reaped := true }
    else none
  | .waitpid data, some _ =>
    some { s with parent := .leave (.error (.error (String.ofList data))), waitFailed := true }
  | .leave result, none => some { s with parent := .done result, parentPipe := s.parentPipe.destroy }
  | _, _ => none

end Handshake

inductive LaunchEvent where
  | parent (outcome : Option Errno)
  | child (outcome : Option Errno)
  | kill
  deriving DecidableEq, Repr

/-- `launch` itself creates its pipe with `closeOnExec`. -/
def handshakeStep (closeOnExec : Bool) (args : LaunchArgs) :
    LaunchEvent → Handshake → Option Handshake
  | .parent outcome => Handshake.parentStep closeOnExec outcome
  | .child outcome => Handshake.childStep args outcome
  | .kill => Handshake.childKilled

/-! ### What the two processes agree on -/

/-- A message of `exit_with_perror`. -/
inductive IsReport : Text → Prop where
  | setpgid (e : Errno) : IsReport (perrorText "could not set pgid" e)
  | replaceStdout (e : Errno) : IsReport (perrorText "stdout replacement failed" e)
  | traceMe (e : Errno) : IsReport (perrorText "tracing failed" e)
  | exec (e : Errno) : IsReport (perrorText "exec failed" e)

theorem perrorText_ne_nil (what : String) (e : Errno) : perrorText what e ≠ [] := by
  simp [perrorText]

theorem IsReport.ne_nil {message : Text} (report : IsReport message) : message ≠ [] := by
  cases report
  all_goals exact perrorText_ne_nil _ _

/-- How many of its calls are behind the child on its way to the program. -/
def ChildAt.position : ChildAt → Nat
  | .personality => 1
  | .closeRead => 2
  | .replaceStdout => 3
  | .traceMe => 4
  | .exec => 5
  | .program => 6
  | .ended true => 6
  | _ => 0

/-- The child can no longer write into the pipe without having done so. -/
def ChildAt.Gone : ChildAt → Prop
  | .program => True
  | .ended _ => True
  | _ => False

structure ChildCoherent (args : LaunchArgs) (s : Handshake) : Prop where
  ownGroup : 1 ≤ s.child.position → s.ownGroup = true
  stdout : 4 ≤ s.child.position → s.stdout = args.stdoutReplacement
  traced : 5 ≤ s.child.position → s.traced = args.debug
  writes : s.child ≠ .unborn → ¬ s.child.Gone → s.childPipe.writeFd ≠ -1
  message : ∀ m, s.child = .report m → IsReport m
  reported : ∀ m, s.reported = some m → IsReport m ∧ (s.child = .exit ∨ s.child = .ended false)
  exits : s.child = .exit → s.reported.isSome
  unwinds : s.child = .unwind → s.cutOff = true
  ended : s.child = .ended false → s.reported.isSome ∨ s.cutOff = true
  cut : s.cutOff = true → s.reported = none ∧ (s.child = .unwind ∨ s.child = .ended false)

/-- Every way the handshake can end, seen from both sides. -/
inductive LaunchResult (s : Handshake) : Except Fault Unit → Prop where
  | launched (silent : s.reported = none) (gone : s.executed = true ∨ s.cutOff = true) :
      LaunchResult s (.ok ())
  | refused {message : Text} (reported : s.reported = some message) (report : IsReport message)
      (notExecuted : s.child = .ended false ∧ s.reaped = true ∨ s.waitFailed = true) :
      LaunchResult s (.error (.error (String.ofList (message.take pipeBufferSize))))
  | forkFailed (e : Errno) (unborn : s.child = .unborn) :
      LaunchResult s (.error (.sendErrno "fork failed" e))
  | readFailed (e : Errno) : LaunchResult s (.error (.sendErrno "could not read from pipe" e))

/-- What the parent knows where it is. -/
def ParentCoherent (s : Handshake) : Prop :=
  match s.parent with
  | .fork => s.child = .unborn ∧ s.reported = none ∧ s.buffer = [] ∧ s.parentPipe.writeFd ≠ -1
  | .closeWrite => s.child ≠ .unborn ∧ s.buffer = s.reported.getD []
  | .read => s.child ≠ .unborn ∧ s.buffer = s.reported.getD [] ∧ s.parentPipe.writeFd = -1
  | .closeRead data => data = (s.reported.getD []).take pipeBufferSize ∧ (data = [] → s.child.Gone)
  | .waitpid data => data ≠ [] ∧ data = (s.reported.getD []).take pipeBufferSize
  | .leave result => LaunchResult s result
  | .done result => LaunchResult s result

/-! ### Steps of the child -/

/-- Before a call whose failure is reported. -/
def ChildAt.Reports (c : ChildAt) : Prop :=
  c = .setpgid ∨ c = .replaceStdout ∨ c = .traceMe ∨ c = .exec

/-- Everything that can happen to the child. -/
inductive ChildMove (args : LaunchArgs) (s : Handshake) : Handshake → Prop where
  | setpgid (here : s.child = .setpgid) :
      ChildMove args s { s with child := .personality, ownGroup := true }
  | personality (here : s.child = .personality) : ChildMove args s { s with child := .closeRead }
  | closeRead (here : s.child = .closeRead) : ChildMove args s
      { s with child := .replaceStdout, childPipe := s.childPipe.closeRead }
  | replaceStdout (here : s.child = .replaceStdout) : ChildMove args s
      { s with child := .traceMe, stdout := args.stdoutReplacement }
  | traceMe (here : s.child = .traceMe) : ChildMove args s
      { s with child := .exec, traced := args.debug }
  | exec (here : s.child = .exec) : ChildMove args s { s with child := .program }
  | failed {message : Text} (here : s.child.Reports) (report : IsReport message) :
      ChildMove args s { s with child := .report message }
  | report {message : Text} (here : s.child = .report message) : ChildMove args s
      { s with child := .exit, childPipe := s.childPipe.transferEnd .write,
               buffer := s.buffer ++ message, reported := some message }
  | unheard {message : Text} (here : s.child = .report message) : ChildMove args s
      { s with child := .unwind, childPipe := s.childPipe.transferEnd .write, cutOff := true }
  | unwind (here : s.child = .unwind) : ChildMove args s
      { s with child := .ended false, childPipe := s.childPipe.destroy }
  | exit (here : s.child = .exit) : ChildMove args s { s with child := .ended false }
  | ended (here : s.child = .program) : ChildMove args s { s with child := .ended true }
  | killed (alive : s.child ≠ .unborn ∧ s.hasEnded = false) (early : s.child ≠ .program ∧ s.child ≠ .exit) :
      ChildMove args s { s with child := .ended false, cutOff := true }

section Child

variable {args : LaunchArgs} {outcome : Option Errno} {s t : Handshake}

theorem childStep_move (step : s.childStep args outcome = some t) : ChildMove args s t := by
  unfold Handshake.childStep at step
  split at step
  · next here =>
    cases step
    exact .setpgid here
  · next e here =>
    cases step
    exact .failed (.inl here) (.setpgid e)
  · next here =>
    cases step
    exact .personality here
  · next here =>
    cases step
    exact .closeRead here
  · next here =>
    cases step
    exact .replaceStdout here
  · next e here =>
    split at step
    · cases step
      exact .failed (.inr (.inl here)) (.replaceStdout e)
    · cases step
  · next here =>
    cases step
    exact .traceMe here
  · next e here =>
    split at step
    · cases step
      exact .failed (.inr (.inr (.inl here))) (.traceMe e)
    · cases step
  · next here =>
    cases step
    exact .exec here
  · next e here =>
    cases step
    exact .failed (.inr (.inr (.inr here))) (.exec e)
  · next here =>
    cases step
    exact .report here
  · next here =>
    cases step
    exact .unheard here
  · next here =>
    cases step
    exact .unwind here
  · next here =>
    cases step
    exact .exit here
  · cases step

theorem childKilled_move (step : s.childKilled = some t) : ChildMove args s t := by
  unfold Handshake.childKilled at step
  split at step
  · cases step
  · cases step
  · next here =>
    cases step
    exact .ended here
  · next here =>
    cases step
    exact .exit here
  · next unborn ended program exit =>
    cases step
    refine .killed ⟨unborn, ?_⟩ ⟨program, exit⟩
    unfold Handshake.hasEnded
    split
    · next here => exact absurd here (ended _)
    · rfl

/-- Nothing has been reported where a report may still come. -/
theorem ChildCoherent.silent (h : ChildCoherent args s) (running : s.child ≠ .exit)
    (alive : s.child ≠ .ended false) : s.reported = none := by
  rw [Option.eq_none_iff_forall_ne_some]
  intro message some
  cases (h.reported message some).2 with
  | inl here => exact running here
  | inr here => exact alive here

theorem ChildCoherent.move (h : ChildCoherent args s) (move : ChildMove args s t) :
    ChildCoherent args t := by
  have silent := h.silent
  obtain ⟨ownGroup, stdout, traced, writes, message, reported, exits, unwinds, ended, cut⟩ := h
  cases move with
  | setpgid here => constructor <;> simp_all [ChildAt.position, ChildAt.Gone]
  | personality here => constructor <;> simp_all [ChildAt.position, ChildAt.Gone]
  | closeRead here =>
    have kept : s.childPipe.closeRead.writeFd = s.childPipe.writeFd :=
      s.childPipe.getFd_closeEnd .read .write
    constructor <;> simp_all [ChildAt.position, ChildAt.Gone]
  | replaceStdout here => constructor <;> simp_all [ChildAt.position, ChildAt.Gone]
  | traceMe here => constructor <;> simp_all [ChildAt.position, ChildAt.Gone]
  | exec here => constructor <;> simp_all [ChildAt.position, ChildAt.Gone]
  | failed here report =>
    rcases here with here | here | here | here
    all_goals constructor <;> simp_all [ChildAt.position, ChildAt.Gone]
  | report here =>
    constructor <;> simp_all [ChildAt.position, ChildAt.Gone, Pipe.transferEnd, Pipe.call]
  | unheard here =>
    constructor <;> simp_all [ChildAt.position, ChildAt.Gone, Pipe.transferEnd, Pipe.call]
  | unwind here => constructor <;> simp_all [ChildAt.position, ChildAt.Gone]
  | exit here => constructor <;> simp_all [ChildAt.position, ChildAt.Gone]
  | ended here => constructor <;> simp_all [ChildAt.position, ChildAt.Gone]
  | killed alive early =>
    have running : s.child ≠ .ended false := by
      intro here
      simp [Handshake.hasEnded, here] at alive
    have none_yet := silent early.2 running
    constructor <;> simp_all [ChildAt.position, ChildAt.Gone]

/-- A move of the child that can no longer write is the end of the program. -/
theorem ChildMove.gone (move : ChildMove args s t) (gone : s.child.Gone) :
    s.child = .program ∧ t = { s with child := .ended true } := by
  cases move with
  | ended here => exact ⟨here, rfl⟩
  | failed here => rcases here with here | here | here | here <;> simp [here, ChildAt.Gone] at gone
  | killed alive early =>
    unfold ChildAt.Gone at gone
    split at gone
    · next here => exact absurd here early.1
    · next here => simp [Handshake.hasEnded, here] at alive
    · exact gone.elim
  | _ here => simp [here, ChildAt.Gone] at gone

theorem ChildMove.parent (move : ChildMove args s t) : t.parent = s.parent := by
  cases move <;> rfl

theorem ChildMove.born (move : ChildMove args s t) : s.child ≠ .unborn ∧ t.child ≠ .unborn := by
  cases move with
  | failed here => rcases here with here | here | here | here <;> simp [here]
  | killed alive => exact ⟨alive.1, by simp⟩
  | _ here => simp [here]

/-- What is in the pipe changes only together with what has been reported. -/
theorem ChildMove.writes (move : ChildMove args s t) :
    t.reported = s.reported ∧ t.buffer = s.buffer ∨
      ∃ message, s.child = .report message ∧ t.reported = some message ∧
        t.buffer = s.buffer ++ message := by
  cases move with
  | report here => exact .inr ⟨_, here, rfl, rfl⟩
  | _ => exact .inl ⟨rfl, rfl⟩

/-- The result of the launch holds whatever the child still does. -/
theorem LaunchResult.move {result : Except Fault Unit} (child : ChildCoherent args s)
    (h : LaunchResult s result) (move : ChildMove args s t) : LaunchResult t result := by
  cases h with
  | launched silent gone =>
    cases gone with
    | inl executed =>
      have image : s.child.Gone := by
        unfold Handshake.executed at executed
        unfold ChildAt.Gone
        split at executed <;> simp_all
      obtain ⟨_, rfl⟩ := move.gone image
      exact .launched silent (.inl rfl)
    | inr cut =>
      have stuck := child.cut cut
      cases move with
      | unwind => exact .launched silent (.inr cut)
      | killed => exact .launched silent (.inr rfl)
      | failed here => rcases here with here | here | here | here <;> simp [here] at stuck
      | _ here => simp [here] at stuck
  | refused reported report notExecuted =>
    have past := (child.reported _ reported).2
    cases move with
    | exit =>
      refine .refused reported report (notExecuted.imp_left fun h => ?_)
      exact ⟨rfl, h.2⟩
    | killed alive early =>
      cases past with
      | inl exiting => exact absurd exiting early.2
      | inr ended => simp [Handshake.hasEnded, ended] at alive
    | failed here => rcases here with here | here | here | here <;> simp [here] at past
    | _ here => simp [here] at past
  | forkFailed e unborn => exact absurd unborn move.born.1
  | readFailed e => exact .readFailed e

theorem ParentCoherent.move (child : ChildCoherent args s) (h : ParentCoherent s)
    (move : ChildMove args s t) : ParentCoherent t := by
  have same := move.parent
  have pipe : t.parentPipe = s.parentPipe := by cases move <;> rfl
  -- what has been read was all there is to come
  have final : ∀ data : Text, data = (s.reported.getD []).take pipeBufferSize →
      (data = [] → s.child.Gone) → t.reported = s.reported := by
    intro data read empty
    rcases move.writes with same | ⟨message, here, _, _⟩
    · exact same.1
    · have silent := child.silent (by simp [here]) (by simp [here])
      have gone := empty (by rw [read, silent]; rfl)
      simp [here, ChildAt.Gone] at gone
  have unread : s.buffer = s.reported.getD [] → t.buffer = t.reported.getD [] := by
    intro whole
    rcases move.writes with ⟨reported, buffer⟩ | ⟨message, here, reported, buffer⟩
    · rw [reported, buffer, whole]
    · have silent := child.silent (by simp [here]) (by simp [here])
      rw [buffer, whole, silent, reported]
      rfl
  unfold ParentCoherent at h ⊢
  rw [same]
  cases at_parent : s.parent with
  | fork =>
    rw [at_parent] at h
    exact absurd h.1 move.born.1
  | closeWrite =>
    rw [at_parent] at h
    exact ⟨move.born.2, unread h.2⟩
  | read =>
    rw [at_parent] at h
    exact ⟨move.born.2, unread h.2.1, by rw [pipe]; exact h.2.2⟩
  | closeRead data =>
    rw [at_parent] at h
    refine ⟨by rw [final data h.1 h.2, h.1], fun empty => ?_⟩
    obtain ⟨_, rfl⟩ := move.gone (h.2 empty)
    trivial
  | waitpid data =>
    rw [at_parent] at h
    exact ⟨h.1, by rw [final data h.2 fun empty => absurd empty h.1, h.2]⟩
  | leave result =>
    rw [at_parent] at h
    exact LaunchResult.move child h move
  | done result =>
    rw [at_parent] at h
    exact LaunchResult.move child h move

end Child

/-! ### Steps of the parent -/

section Parent

variable {closeOnExec : Bool} {args : LaunchArgs} {outcome : Option Errno} {s t : Handshake}

/-- Everything that can happen to the parent. -/
inductive ParentMove (closeOnExec : Bool) (s : Handshake) : Handshake → Prop where
  | fork (here : s.parent = .fork) : ParentMove closeOnExec s
      { s with parent := .closeWrite, child := .setpgid, childPipe := s.parentPipe }
  | forkFailed (here : s.parent = .fork) (e : Errno) : ParentMove closeOnExec s
      { s with parent := .leave (.error (.sendErrno "fork failed" e)) }
  | closeWrite (here : s.parent = .closeWrite) : ParentMove closeOnExec s
      { s with parent := .read, parentPipe := s.parentPipe.closeWrite }
  | read (here : s.parent = .read) (some_data : s.buffer ≠ []) : ParentMove closeOnExec s
      { s with parent := .closeRead (s.buffer.take pipeBufferSize),
               buffer := s.buffer.drop pipeBufferSize,
               parentPipe := s.parentPipe.transferEnd .read }
  | endOfFile (here : s.parent = .read) (empty : s.buffer = [])
      (closed : s.hasWriter closeOnExec = false) : ParentMove closeOnExec s
      { s with parent := .closeRead [], parentPipe := s.parentPipe.transferEnd .read }
  | readFailed (here : s.parent = .read) (e : Errno) : ParentMove closeOnExec s
      { s with parent := .leave (.error (.sendErrno "could not read from pipe" e)),
               parentPipe := s.parentPipe.transferEnd .read }
  | silence (here : s.parent = .closeRead []) : ParentMove closeOnExec s
      { s with parent := .leave (.ok ()), parentPipe := s.parentPipe.closeRead }
  | report {data : Text} (here : s.parent = .closeRead data) (some_data : data ≠ []) :
      ParentMove closeOnExec s
        { s with parent := .waitpid data, parentPipe := s.parentPipe.closeRead }
  | waitpid {data : Text} (here : s.parent = .waitpid data) (ended : s.hasEnded = true) :
      ParentMove closeOnExec s
        { s with parent := .leave (.error (.error (String.ofList data))), reaped := true }
  | waitFailed {data : Text} (here : s.parent = .waitpid data) : ParentMove closeOnExec s
      { s with parent := .leave (.error (.error (String.ofList data))), waitFailed := true }
  | leave {result : Except Fault Unit} (here : s.parent = .leave result) :
      ParentMove closeOnExec s
        { s with parent := .done result, parentPipe := s.parentPipe.destroy }

theorem parentStep_move (step : s.parentStep closeOnExec outcome = some t) :
    ParentMove closeOnExec s t := by
  unfold Handshake.parentStep at step
  split at step
  · next here =>
    cases step
    exact .fork here
  · next e here =>
    cases step
    exact .forkFailed here e
  · next here =>
    cases step
    exact .closeWrite here
  · next here =>
    split at step
    · next some_data =>
      cases step
      exact .read here some_data
    · next empty =>
      split at step
      · cases step
      · next closed =>
        cases step
        exact .endOfFile here (not_not.1 empty) (Bool.eq_false_iff.2 closed)
  · next e here =>
    cases step
    exact .readFailed here e
  · next data here =>
    cases step
    by_cases empty : data = []
    · subst empty
      exact .silence here
    · rw [if_pos empty]
      exact .report here empty
  · next here =>
    split at step
    · next ended =>
      cases step
      exact .waitpid here ended
    · cases step
  · next here =>
    cases step
    exact .waitFailed here
  · next here =>
    cases step
    exact .leave here
  · cases step

/-- The parent changes nothing that the child has done. -/
theorem ChildCoherent.parent (h : ChildCoherent args s) (parent : ParentCoherent s)
    (move : ParentMove closeOnExec s t) : ChildCoherent args t := by
  cases move with
  | fork here =>
    unfold ParentCoherent at parent
    rw [here] at parent
    obtain ⟨unborn, silent, _, open_end⟩ := parent
    have whole := h.cut
    constructor <;> simp_all [ChildAt.position, ChildAt.Gone]
  | _ => exact ⟨h.1, h.2, h.3, h.4, h.5, h.6, h.7, h.8, h.9, h.10⟩

/-- With the write ends closed the child has either got to the program or is no more. -/
theorem gone_of_no_writer (child : ChildCoherent args s) (born : s.child ≠ .unborn)
    (closed : s.hasWriter closeOnExec = false) : s.child.Gone := by
  by_contra alive
  have open_end := child.writes born alive
  have silent : s.childWrites closeOnExec = false := (Bool.or_eq_false_iff.1 closed).2
  unfold Handshake.childWrites at silent
  unfold ChildAt.Gone at alive
  cases here : s.child with
  | unborn => exact born here
  | program => simp [here] at alive
  | ended executed => simp [here] at alive
  | _ => simp [here, open_end] at silent

/-- Data that has been read is the beginning of a report. -/
theorem reported_of_data {data : Text} (some_data : data ≠ [])
    (read : data = (s.reported.getD []).take pipeBufferSize) :
    ∃ message, s.reported = some message ∧ data = message.take pipeBufferSize := by
  cases reported : s.reported with
  | none =>
    rw [reported] at read
    exact absurd read some_data
  | some message =>
    rw [reported] at read
    exact ⟨message, rfl, read⟩

/-- The end of the file without data is the program, or a child that was cut off. -/
theorem launched_of_silence (child : ChildCoherent args s) (gone : s.child.Gone)
    (read : (s.reported.getD []).take pipeBufferSize = []) :
    s.reported = none ∧ (s.executed = true ∨ s.cutOff = true) := by
  have silent : s.reported = none := by
    rw [Option.eq_none_iff_forall_ne_some]
    intro message reported
    rw [reported, Option.getD_some, List.take_eq_nil_iff] at read
    exact (child.reported message reported).1.ne_nil (read.resolve_left (by decide))
  refine ⟨silent, ?_⟩
  unfold ChildAt.Gone at gone
  cases here : s.child with
  | program => exact .inl (by rw [Handshake.executed, here])
  | ended executed =>
    cases executed with
    | true => exact .inl (by rw [Handshake.executed, here])
    | false =>
      have past := child.ended here
      rw [silent] at past
      exact .inr (past.resolve_left (by simp))
  | _ => simp [here] at gone

theorem ParentCoherent.parent (child : ChildCoherent args s) (h : ParentCoherent s)
    (move : ParentMove closeOnExec s t) : ParentCoherent t := by
  unfold ParentCoherent at h
  cases move with
  | fork here =>
    rw [here] at h
    exact ⟨by simp, by rw [h.2.1]; exact h.2.2.1⟩
  | forkFailed here e =>
    rw [here] at h
    exact .forkFailed e h.1
  | closeWrite here =>
    rw [here] at h
    exact ⟨h.1, h.2, s.parentPipe.getFd_closeEnd .write .write⟩
  | read here some_data =>
    rw [here] at h
    refine ⟨by rw [h.2.1], fun empty => absurd ?_ some_data⟩
    have short : pipeBufferSize = 0 ∨ s.buffer = [] := List.take_eq_nil_iff.1 empty
    exact short.resolve_left (by decide)
  | endOfFile here empty closed =>
    rw [here] at h
    have gone := gone_of_no_writer child h.1 closed
    refine ⟨?_, fun _ => gone⟩
    change [] = (s.reported.getD []).take pipeBufferSize
    rw [← h.2.1, empty]
    rfl
  | readFailed here e => exact .readFailed e
  | silence here =>
    rw [here] at h
    obtain ⟨silent, past⟩ := launched_of_silence child (h.2 rfl) h.1.symm
    exact .launched silent past
  | report here some_data =>
    rw [here] at h
    exact ⟨some_data, h.1⟩
  | waitpid here ended =>
    rw [here] at h
    obtain ⟨message, reported, rfl⟩ := reported_of_data h.1 h.2
    have report := child.reported message reported
    refine .refused reported report.1 (.inl ⟨report.2.resolve_left fun exiting => ?_, rfl⟩)
    simp [Handshake.hasEnded, exiting] at ended
  | waitFailed here =>
    rw [here] at h
    obtain ⟨message, reported, rfl⟩ := reported_of_data h.1 h.2
    exact .refused reported (child.reported message reported).1 (.inr rfl)
  | leave here =>
    rw [here] at h
    cases h with
    | launched silent gone => exact .launched silent gone
    | refused reported report notExecuted => exact .refused reported report notExecuted
    | forkFailed e unborn => exact .forkFailed e unborn
    | readFailed e => exact .readFailed e

end Parent

end SdbDebugger
