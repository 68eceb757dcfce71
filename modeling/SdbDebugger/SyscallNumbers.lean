import SdbDebugger.StopCounts
import SdbDebugger.SyscallFilter

/-! On which numbers `catch_some` is decided. A number has 64 bits in `orig_rax` and 16 in
`syscall_information`, and the policy lists integers. -/

namespace SdbDebugger
open EffectRules ByteSpace

variable {κ : Type} {P : Platform κ} {view : κ → StreamView} {reports : κ → ReportView}

/-- The number of the system call: all of `orig_rax`. -/
def KernelStop.syscallNumber (stop : KernelStop) : Nat := (load stop.user 120 8 : Word).toNat

theorem KernelStop.syscallId_eq (stop : KernelStop) :
    stop.syscallId.toNat = stop.syscallNumber % 2 ^ 16 := by
  rw [syscallId, BitVec.toNat_setWidth, syscallNumber]

/-- What a call of `wait_on_signal` returns when it has been told of the next stop only. -/
def ReturnsNext (P : Platform κ) (reports : κ → ReportView) (w : World κ) (r : StopReason) : Prop :=
  ∃ fuel t, waitOnSignal P fuel w = .ok r t ∧
    (reports t.kernel).reports = (reports w.kernel).reports + 1

/-- The next stop, of system call `number`, is returned if that number is listed and not
otherwise, and it is the number that is reported. -/
structure CatchesByNumber (P : Platform κ) (reports : κ → ReportView) (w : World κ) (number : Nat) :
    Prop where
  decided : ∀ toCatch, w.syscallCatchPolicy = .catchSome toCatch →
    ((∃ r, ReturnsNext P reports w r) ↔ (number : Int) ∈ toCatch)
  reported : ∀ r, ReturnsNext P reports w r →
    ∃ info, r.syscallInfo = some info ∧ info.id.toNat = number

/-- The policy does not tell the number from its low 16 bits. -/
def SyscallCatchPolicy.Determines (policy : SyscallCatchPolicy) (number : Nat) : Prop :=
  number < 2 ^ 16 ∨ policy.mode = .some ∧ (number : Int) ∉ policy.toCatch ∧
    ((number % 2 ^ 16 : Nat) : Int) ∉ policy.toCatch

/-- A system call that is to be caught is returned as it is. -/
theorem respond_caught {reason : StopReason} {info : SyscallInformation} {t : World κ}
    (attended : Attended reason t) (cause : reason.trapReason = some .syscall)
    (syscall : reason.syscallInfo = some info)
    (listed : t.syscallCatchPolicy.mode = .some →
      (info.id.toNat : Int) ∈ t.syscallCatchPolicy.toCatch) (wait : Sdb κ StopReason) :
    respond P wait reason t = .ok reason t := by
  rw [respond_call attended cause]
  by_cases mode : t.syscallCatchPolicy.mode = .some
  · have found : t.syscallCatchPolicy.toCatch.contains (info.id.toNat : Int) = true := by
      simpa using listed mode
    rw [maybeResumeFromSyscall_some mode syscall, if_pos found]
    rfl
  · exact maybeResumeFromSyscall_other mode wait reason

/-- A syscall stop has been told of, and nothing else. -/
structure ToldSyscall (P : Platform κ) (reports : κ → ReportView) (stop : KernelStop)
    (w t : World κ) : Prop where
  arrival : arrive P w = .ok (stop.reason w.expectingSyscallExit) t
  policy : t.syscallCatchPolicy = w.syscallCatchPolicy
  counted : (reports t.kernel).reports = (reports w.kernel).reports + 1
  attended : Attended (stop.reason w.expectingSyscallExit) t
  cause : (stop.reason w.expectingSyscallExit).trapReason = some .syscall
  info : (stop.reason w.expectingSyscallExit).syscallInfo =
    some (stop.syscallInfo w.expectingSyscallExit)

section Told

variable {stop : KernelStop} {w t : World κ}

theorem ToldSyscall.returned (told : ToldSyscall P reports stop w t)
    (listed : w.syscallCatchPolicy.mode = .some →
      (stop.syscallId.toNat : Int) ∈ w.syscallCatchPolicy.toCatch) (fuel : Nat) :
    waitOnSignal P (fuel + 1) w = .ok (stop.reason w.expectingSyscallExit) t := by
  rw [waitOnSignal_succ, bind_ok told.arrival]
  refine respond_caught told.attended told.cause told.info ?_ _
  rw [told.policy, stop.syscallInfo_id]
  exact listed

/-- A call that is not listed goes on, and whatever is returned comes later. -/
theorem ToldSyscall.later (told : ToldSyscall P reports stop w t)
    (counting : ReportLaws P.toKernel reports) (mode : w.syscallCatchPolicy.mode = .some)
    (unlisted : (stop.syscallId.toNat : Int) ∉ w.syscallCatchPolicy.toCatch) {fuel : Nat}
    {r : StopReason} {u : World κ} (run : waitOnSignal P (fuel + 1) w = .ok r u) :
    (reports w.kernel).reports + 1 < (reports u.kernel).reports := by
  have ignored : Ignored (stop.reason w.expectingSyscallExit) t := by
    refine ⟨told.attended, told.cause, by rw [told.policy, mode], _, told.info, ?_⟩
    rw [told.policy, stop.syscallInfo_id]
    simpa using unlisted
  rw [waitOnSignal_succ, bind_ok told.arrival, respond_ignored ignored] at run
  have going := atLeast_resume (P := P) (n := (reports t.kernel).reports) counting
  obtain ⟨_, v, resumed, waited⟩ := bind_inv run
  have more : (reports t.kernel).reports + 1 ≤ (reports u.kernel).reports :=
    (wp_of_ok waited _ _).1 (wp_waitOnSignal_atLeast counting fuel
      (going.of_ok (le_refl (reports t.kernel).reports) resumed))
  rw [told.counted] at more
  exact more

end Told

section Next

variable {stop : KernelStop} {rest : List KernelStop} {w : World κ}
  (laws : StopStreamLaws P.toKernel view) (counting : ReportLaws P.toKernel reports)
  (next : (view w.kernel).stops = stop :: rest) (syscall : stop.isSyscallStop = true)
  (attached : w.isAttached = true)
include laws counting next syscall attached

theorem exists_toldSyscall : ∃ t, ToldSyscall P reports stop w t := by
  obtain ⟨t, arrival, arrived⟩ := arrive_eq laws next fun _ => attached
  obtain ⟨d, k, shape⟩ := arrived.frame
  have counted : (reports t.kernel).reports = (reports w.kernel).reports + 1 :=
    (wp_of_ok arrival _ _).1 (wp_arrive_counted (P := P) counting
      (R := (· = (reports w.kernel).reports)) (S := (· = (reports w.kernel).reports + 1))
      (fun n same => by omega) rfl)
  have reason := stop.reason_of_syscall w.expectingSyscallExit
    (KernelStop.status_of_isSyscallStop syscall)
  have attended : Attended (stop.reason w.expectingSyscallExit) t := by
    refine ⟨?_, ?_, ?_⟩
    · rw [shape, attached]
    · rw [reason]
    · rw [reason]
  exact ⟨t, arrival, by rw [shape], counted, attended, by rw [reason], by rw [reason]⟩

/-- What is returned for the stop is its reason, and only an unlisted id keeps it back. -/
theorem returnsNext_iff (r : StopReason) :
    ReturnsNext P reports w r ↔ r = stop.reason w.expectingSyscallExit ∧
      (w.syscallCatchPolicy.mode = .some →
        (stop.syscallId.toNat : Int) ∈ w.syscallCatchPolicy.toCatch) := by
  obtain ⟨t, told⟩ := exists_toldSyscall laws counting next syscall attached
  constructor
  · intro returns
    obtain ⟨fuel, u, run, once⟩ := returns
    cases fuel with
    | zero => cases run
    | succ fuel =>
      have listed : w.syscallCatchPolicy.mode = .some →
          (stop.syscallId.toNat : Int) ∈ w.syscallCatchPolicy.toCatch := by
        intro mode
        by_contra unlisted
        exact absurd once (told.later counting mode unlisted run).ne'
      cases (told.returned listed fuel).symm.trans run
      exact ⟨rfl, listed⟩
  · intro same
    obtain ⟨rfl, listed⟩ := same
    exact ⟨1, t, told.returned listed 0, told.counted⟩

/-- For every value of `orig_rax` at the next stop and every policy, catching and reporting go
by the number exactly if the policy cannot confuse it with its low 16 bits. -/
theorem catchesByNumber_iff :
    CatchesByNumber P reports w stop.syscallNumber ↔
      w.syscallCatchPolicy.Determines stop.syscallNumber := by
  have returns := returnsNext_iff laws counting next syscall attached
  have id_eq := stop.syscallId_eq
  constructor
  · intro catches
    by_cases listed : w.syscallCatchPolicy.mode = .some →
        (stop.syscallId.toNat : Int) ∈ w.syscallCatchPolicy.toCatch
    · left
      obtain ⟨info, told, same⟩ := catches.reported _ ((returns _).2 ⟨rfl, listed⟩)
      rw [stop.reason_of_syscall _ (KernelStop.status_of_isSyscallStop syscall),
        Option.some.injEq] at told
      rw [← same, ← told, stop.syscallInfo_id]
      exact stop.syscallId.isLt
    · right
      obtain ⟨mode, unlisted⟩ := Classical.not_imp.1 listed
      refine ⟨mode, fun member => ?_, by rw [← id_eq]; exact unlisted⟩
      have policy : w.syscallCatchPolicy = .catchSome w.syscallCatchPolicy.toCatch := by
        rw [SyscallCatchPolicy.catchSome, ← mode]
      obtain ⟨r, returned⟩ := (catches.decided _ policy).2 member
      exact unlisted (((returns r).1 returned).2 mode)
  · intro determines
    rcases determines with small | ⟨mode, unlisted, unlisted'⟩
    · have same : stop.syscallId.toNat = stop.syscallNumber := by
        rw [id_eq, Nat.mod_eq_of_lt small]
      refine ⟨fun toCatch policy => ?_, fun r returned => ?_⟩
      · rw [policy, same] at returns
        constructor
        · intro caught
          obtain ⟨r, returned⟩ := caught
          exact ((returns r).1 returned).2 rfl
        · intro member
          exact ⟨_, (returns _).2 ⟨rfl, fun _ => member⟩⟩
      · rw [((returns r).1 returned).1,
          stop.reason_of_syscall _ (KernelStop.status_of_isSyscallStop syscall)]
        exact ⟨_, rfl, by rw [stop.syscallInfo_id, same]⟩
    · have kept : ∀ r, ¬ ReturnsNext P reports w r := by
        intro r returned
        have listed := ((returns r).1 returned).2 mode
        rw [id_eq] at listed
        exact unlisted' listed
      refine ⟨fun toCatch policy => ?_, fun r returned => absurd returned (kept r)⟩
      rw [policy] at unlisted
      exact iff_of_false (fun caught => caught.elim fun r returned => kept r returned) unlisted

end Next

/-- A syscall stop with the given `orig_rax`. -/
def callStop (number : Word) : KernelStop :=
  ⟨.stopped syscallTrap, store (fun _ => 0) 120 8 number, 0⟩

def callWorld (toCatch : List Int) (number : Word) : World Scripted :=
  catchesOnly toCatch (scriptedWorld [] [callStop number])

theorem callStop_number (k : Scripted) (number : Word) :
    ({ callStop number with user := k.stopUser (callStop number) } : KernelStop).syscallNumber =
      number.toNat := by
  have outside : ∀ i < 8, ¬ Scripted.inSlots (120 + BitVec.ofNat 64 i) := by
    unfold Scripted.inSlots
    decide
  have same : (load (k.stopUser (callStop number)) 120 8 : Word) =
      load (callStop number).user 120 8 :=
    ofBytes_congr fun i hi => k.stopUser_of_not_inSlots _ (outside i hi)
  rw [KernelStop.syscallNumber, same]
  exact congrArg BitVec.toNat (load_store _ _ _ _ (by decide))

theorem catchesByNumber_iff_write :
    CatchesByNumber scriptedPlatform Scripted.reportView (callWorld [1] 1) 1 := by
  have number := callStop_number (callWorld [1] 1).kernel 1
  have catches := (catchesByNumber_iff Scripted.stopStreamLaws Scripted.reportLaws
    (w := callWorld [1] 1) rfl rfl rfl).2 (by rw [number]; exact .inl (by decide))
  rw [number] at catches
  exact catches

/-- The x32 number of `write` is caught as the other one. -/
theorem not_catchesByNumber_x32 :
    ¬ CatchesByNumber scriptedPlatform Scripted.reportView (callWorld [1] 0x40000001)
      0x40000001 := by
  intro catches
  have number := callStop_number (callWorld [1] 0x40000001).kernel 0x40000001
  have determines := catchesByNumber_iff Scripted.stopStreamLaws Scripted.reportLaws
    (w := callWorld [1] 0x40000001) rfl rfl rfl
  rw [number] at determines
  rcases determines.1 catches with small | ⟨_, _, unlisted⟩
  · exact absurd small (by decide)
  · exact unlisted (by decide)

end SdbDebugger
