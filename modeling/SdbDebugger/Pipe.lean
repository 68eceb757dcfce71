import SdbDebugger.Kernel
import Mathlib.Tactic.Common

/-! The two descriptors of a pipe: `pipe.hpp` and `pipe.cpp`. The numbers of descriptors are
used again once they are closed, so what matters is which calls are made on which number. -/

namespace SdbDebugger

inductive PipeEnd where
  | read | write
  deriving DecidableEq, Repr

/-- What is done with a descriptor. A caller it is handed over to owns it from then on. -/
inductive FdCall where
  | transfer (fd : Int)
  | close (fd : Int)
  | handOver (fd : Int)
  deriving DecidableEq, Repr

namespace FdCall

def fd : FdCall → Int
  | transfer fd => fd
  | close fd => fd
  | handOver fd => fd

/-- After this the descriptor is somebody else's. -/
def givesUp : FdCall → Bool
  | transfer _ => false
  | _ => true

end FdCall

/-- `fds_`, and the calls made so far. An end that is not owned any more is -1. -/
structure Pipe where
  readFd : Int
  writeFd : Int
  calls : List FdCall
  deriving DecidableEq, Repr

namespace Pipe

/-- The descriptors that `pipe2` returned. -/
def create (readFd writeFd : Int) : Pipe := ⟨readFd, writeFd, []⟩

def getFd (p : Pipe) : PipeEnd → Int
  | .read => p.readFd
  | .write => p.writeFd

def setFd (p : Pipe) : PipeEnd → Int → Pipe
  | .read, fd => { p with readFd := fd }
  | .write, fd => { p with writeFd := fd }

def call (p : Pipe) (c : FdCall) : Pipe := { p with calls := p.calls ++ [c] }

def closeEnd (p : Pipe) (e : PipeEnd) : Pipe :=
  if p.getFd e ≠ -1 then (p.call (.close (p.getFd e))).setFd e (-1) else p

def closeRead (p : Pipe) : Pipe := p.closeEnd .read
def closeWrite (p : Pipe) : Pipe := p.closeEnd .write

/-- `std::exchange` with -1; the number goes to the caller. -/
def releaseEnd (p : Pipe) (e : PipeEnd) : Int × Pipe :=
  (p.getFd e, (p.call (.handOver (p.getFd e))).setFd e (-1))

def releaseRead (p : Pipe) : Int × Pipe := p.releaseEnd .read
def releaseWrite (p : Pipe) : Int × Pipe := p.releaseEnd .write

/-- The system call of `read` or `write`, whatever it does with the bytes. -/
def transferEnd (p : Pipe) (e : PipeEnd) : Pipe := p.call (.transfer (p.getFd e))

/-- `~pipe`. -/
def destroy (p : Pipe) : Pipe := p.closeRead.closeWrite

variable {p : Pipe} {e e' : PipeEnd} {fd : Int}

@[simp] theorem getFd_call (c : FdCall) : (p.call c).getFd e = p.getFd e := by
  cases e <;> rfl

@[simp] theorem calls_call (c : FdCall) : (p.call c).calls = p.calls ++ [c] := rfl

@[simp] theorem getFd_setFd : (p.setFd e fd).getFd e' = if e' = e then fd else p.getFd e' := by
  cases e <;> cases e' <;> rfl

@[simp] theorem calls_setFd : (p.setFd e fd).calls = p.calls := by
  cases e <;> rfl

theorem getFd_closeEnd (p : Pipe) (e e' : PipeEnd) :
    (p.closeEnd e).getFd e' = if e' = e then -1 else p.getFd e' := by
  unfold closeEnd
  by_cases owned : p.getFd e = -1
  · rw [if_neg (not_not.2 owned)]
    by_cases same : e' = e
    · rw [if_pos same, same, owned]
    · rw [if_neg same]
  · rw [if_pos owned, getFd_setFd, getFd_call]

end Pipe

/-! ### Each descriptor is given up once -/

/-- The calls made on one number. -/
def callsOn (fd : Int) (calls : List FdCall) : List FdCall := calls.filter fun c => c.fd == fd

theorem callsOn_concat (fd : Int) (calls : List FdCall) (c : FdCall) :
    callsOn fd (calls ++ [c]) = if c.fd = fd then callsOn fd calls ++ [c] else callsOn fd calls := by
  rw [callsOn, List.filter_append]
  split
  · next same => simp [callsOn, same]
  · next other => simp [callsOn, other]

/-- Transfers, and then one call that closes the descriptor or hands it over. -/
def GivenUpOnce (fd : Int) (calls : List FdCall) : Prop :=
  ∃ transfers last, callsOn fd calls = transfers ++ [last] ∧
    (∀ c ∈ transfers, c.givesUp = false) ∧ last.givesUp = true

/-- Where an end of the pipe stands whose descriptor was `fd`. -/
inductive EndState (fd : Int) (e : PipeEnd) (p : Pipe) : Prop where
  | owned (held : p.getFd e = fd) (unspent : ∀ c ∈ callsOn fd p.calls, c.givesUp = false)
  | givenUp (spent : p.getFd e = -1) (once : GivenUpOnce fd p.calls)

namespace EndState

variable {fd : Int} {e e' : PipeEnd} {p : Pipe} {c : FdCall}

theorem create (readFd writeFd : Int) (e : PipeEnd) :
    EndState ((Pipe.create readFd writeFd).getFd e) e (Pipe.create readFd writeFd) :=
  .owned rfl fun _ member => absurd member List.not_mem_nil

/-- A call on another number, which may change the other end. -/
theorem elsewhere {p' : Pipe} (state : EndState fd e p) (kept : p'.getFd e = p.getFd e)
    (calls : callsOn fd p'.calls = callsOn fd p.calls) : EndState fd e p' := by
  cases state with
  | owned held unspent => exact .owned (kept.trans held) (by rwa [calls])
  | givenUp spent once =>
    refine .givenUp (kept.trans spent) ?_
    rwa [GivenUpOnce, calls]

/-- The end makes one more transfer. -/
theorem transfer (state : EndState fd e p) (valid : fd ≠ -1) : EndState fd e (p.transferEnd e) := by
  cases state with
  | owned held unspent =>
    refine .owned (by rw [Pipe.transferEnd, Pipe.getFd_call, held]) ?_
    intro c member
    rw [Pipe.transferEnd, Pipe.calls_call, callsOn_concat, held, if_pos (by rfl),
      List.mem_append] at member
    cases member with
    | inl earlier => exact unspent c earlier
    | inr now =>
      cases List.mem_singleton.1 now
      rfl
  | givenUp spent once =>
    refine .givenUp (by rw [Pipe.transferEnd, Pipe.getFd_call, spent]) ?_
    rw [GivenUpOnce, Pipe.transferEnd, Pipe.calls_call, callsOn_concat, spent,
      if_neg (by exact valid.symm)]
    exact once

/-- The end closes its descriptor or hands it over. -/
theorem giveUp (state : EndState fd e p) (valid : fd ≠ -1) (on : c.fd = p.getFd e)
    (final : c.givesUp = true) : EndState fd e ((p.call c).setFd e (-1)) := by
  have spent : ((p.call c).setFd e (-1)).getFd e = -1 := by
    rw [Pipe.getFd_setFd, if_pos rfl]
  refine .givenUp spent ?_
  unfold GivenUpOnce
  rw [Pipe.calls_setFd, Pipe.calls_call, callsOn_concat]
  cases state with
  | owned held unspent =>
    rw [if_pos (on.trans held)]
    exact ⟨_, c, rfl, unspent, final⟩
  | givenUp spent once =>
    rw [if_neg (by rw [on, spent]; exact valid.symm)]
    exact once

theorem close (state : EndState fd e p) (valid : fd ≠ -1) : EndState fd e (p.closeEnd e) := by
  unfold Pipe.closeEnd
  split
  · exact state.giveUp valid rfl rfl
  · exact state

/-- After its own close the end has been given up. -/
theorem once (state : EndState fd e p) (valid : fd ≠ -1) (spent : p.getFd e = -1) :
    GivenUpOnce fd p.calls := by
  cases state with
  | owned held _ => exact absurd (held.symm.trans spent) valid
  | givenUp _ once => exact once

end EndState

/-- A member function called on a pipe. -/
inductive PipeOp where
  | close (e : PipeEnd)
  | release (e : PipeEnd)
  | transfer (e : PipeEnd)
  deriving DecidableEq, Repr

def PipeOp.perform (p : Pipe) : PipeOp → Pipe
  | .close e => p.closeEnd e
  | .release e => (p.releaseEnd e).2
  | .transfer e => p.transferEnd e

/-- Where the pipe stands for which `pipe2` returned `fds`. -/
structure PipeState (fds : PipeEnd → Int) (p : Pipe) : Prop where
  ends : ∀ e, EndState (fds e) e p
  /-- A number that is not one of the two is -1, and is never closed. -/
  others : ∀ c ∈ p.calls, (∃ e, c.fd = fds e) ∨ c.fd = -1 ∧ c ≠ .close (-1)

namespace PipeState

variable {fds : PipeEnd → Int} {p : Pipe}

theorem create (readFd writeFd : Int) :
    PipeState (Pipe.create readFd writeFd).getFd (Pipe.create readFd writeFd) where
  ends e := .create readFd writeFd e
  others _ member := absurd member List.not_mem_nil

/-- One call of an end, which may give the end up. -/
theorem step (state : PipeState fds p) (distinct : fds .read ≠ fds .write)
    (valid : ∀ e, fds e ≠ -1) {p' : Pipe} {e : PipeEnd} {c : FdCall} (on : c.fd = p.getFd e)
    (calls : p'.calls = p.calls ++ [c]) (kept : ∀ e', e' ≠ e → p'.getFd e' = p.getFd e')
    (own : EndState (fds e) e p') (closing : ∀ fd, c = .close fd → fd ≠ -1) : PipeState fds p' where
  ends e' := by
    by_cases same : e' = e
    · rwa [same]
    · refine (state.ends e').elsewhere (kept e' same) ?_
      have apart : fds e ≠ fds e' := by
        cases e <;> cases e' <;> first | exact absurd rfl same | exact distinct | exact distinct.symm
      rw [calls, callsOn_concat, if_neg]
      rw [on]
      cases state.ends e with
      | owned held _ => rwa [held]
      | givenUp spent _ =>
        rw [spent]
        exact (valid e').symm
  others c' member := by
    rw [calls, List.mem_append] at member
    cases member with
    | inl earlier => exact state.others c' earlier
    | inr now =>
      rw [List.mem_singleton.1 now]
      cases state.ends e with
      | owned held _ => exact .inl ⟨e, on.trans held⟩
      | givenUp spent _ => exact .inr ⟨on.trans spent, fun h => closing _ h rfl⟩

theorem close (state : PipeState fds p) (distinct : fds .read ≠ fds .write)
    (valid : ∀ e, fds e ≠ -1) (e : PipeEnd) : PipeState fds (p.closeEnd e) := by
  by_cases owned : p.getFd e = -1
  · rw [Pipe.closeEnd, if_neg (not_not.2 owned)]
    exact state
  · have closed : p.closeEnd e = (p.call (.close (p.getFd e))).setFd e (-1) := if_pos owned
    refine state.step (c := .close (p.getFd e)) distinct valid rfl ?_ ?_
      ((state.ends e).close (valid e)) ?_
    · rw [closed, Pipe.calls_setFd, Pipe.calls_call]
    · intro e' other
      rw [Pipe.getFd_closeEnd, if_neg other]
    · intro fd same
      cases same
      exact owned

theorem perform (state : PipeState fds p) (distinct : fds .read ≠ fds .write)
    (valid : ∀ e, fds e ≠ -1) (op : PipeOp) : PipeState fds (op.perform p) := by
  cases op with
  | close e => exact state.close distinct valid e
  | release e =>
    refine state.step (c := .handOver (p.getFd e)) distinct valid rfl ?_ ?_
      ((state.ends e).giveUp (valid e) rfl rfl) (by simp)
    · rw [PipeOp.perform, Pipe.releaseEnd, Pipe.calls_setFd, Pipe.calls_call]
    · intro e' other
      rw [PipeOp.perform, Pipe.releaseEnd, Pipe.getFd_setFd, if_neg other, Pipe.getFd_call]
  | transfer e =>
    refine state.step (c := .transfer (p.getFd e)) distinct valid rfl rfl ?_
      ((state.ends e).transfer (valid e)) (by simp)
    intro e' _
    exact Pipe.getFd_call _

theorem run (state : PipeState fds p) (distinct : fds .read ≠ fds .write)
    (valid : ∀ e, fds e ≠ -1) (ops : List PipeOp) : PipeState fds (ops.foldl PipeOp.perform p) := by
  induction ops generalizing p with
  | nil => exact state
  | cons op ops ih => exact ih (state.perform distinct valid op)

/-- The destructor gives up what is still owned. -/
theorem destroy (state : PipeState fds p) (distinct : fds .read ≠ fds .write)
    (valid : ∀ e, fds e ≠ -1) (e : PipeEnd) : GivenUpOnce (fds e) p.destroy.calls := by
  have closed := (state.close distinct valid .read).close distinct valid .write
  refine (closed.ends e).once (valid e) ?_
  cases e with
  | read => rw [Pipe.getFd_closeEnd, if_neg (by decide), Pipe.getFd_closeEnd, if_pos rfl]
  | write => rw [Pipe.getFd_closeEnd, if_pos rfl]

end PipeState

/-- Whatever is done with a pipe, and in whatever order: once it is destroyed, each of its two
descriptors has been closed or handed over exactly once, and not been touched after that, and no
other descriptor has been touched. -/
theorem pipe_givesUp_once (readFd writeFd : Int) (distinct : readFd ≠ writeFd)
    (validRead : readFd ≠ -1) (validWrite : writeFd ≠ -1) (ops : List PipeOp) :
    let calls := (ops.foldl PipeOp.perform (Pipe.create readFd writeFd)).destroy.calls
    GivenUpOnce readFd calls ∧ GivenUpOnce writeFd calls ∧
      ∀ c ∈ calls, c.fd = readFd ∨ c.fd = writeFd ∨ c.fd = -1 ∧ c ≠ .close (-1) := by
  have valid : ∀ e, (Pipe.create readFd writeFd).getFd e ≠ -1 := by
    intro e
    cases e with
    | read => exact validRead
    | write => exact validWrite
  have state := (PipeState.create readFd writeFd).run distinct valid ops
  refine ⟨state.destroy distinct valid .read, state.destroy distinct valid .write, ?_⟩
  intro c member
  have closed := (state.close distinct valid .read).close distinct valid .write
  rcases closed.others c member with ⟨e, same⟩ | other
  · cases e with
    | read => exact .inl same
    | write => exact .inr (.inl same)
  · exact .inr (.inr other)

theorem pipe_givesUp_once_released :
    let calls := ([PipeOp.release .write, .transfer .read, .transfer .write, .close .read].foldl
      PipeOp.perform (Pipe.create 3 4)).destroy.calls
    calls = [.handOver 4, .transfer 3, .transfer (-1), .close 3] ∧
      GivenUpOnce 3 calls ∧ GivenUpOnce 4 calls :=
  have once := pipe_givesUp_once 3 4 (by decide) (by decide) (by decide)
    [.release .write, .transfer .read, .transfer .write, .close .read]
  ⟨by decide, once.1, once.2.1⟩

end SdbDebugger
