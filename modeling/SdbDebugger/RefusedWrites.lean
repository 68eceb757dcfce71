import SdbDebugger.RefusingKernel
import SdbDebugger.RegisterAliasing

/-! Register writes that the kernel refuses. `write` changes the cached struct before it asks,
and does not change it back. -/

namespace SdbDebugger
open EffectRules ByteSpace

variable {κ : Type} {P : Platform κ}

/-- The kernel accepts what `write` asks of it once the struct is changed. -/
def WriteAccepted (P : Platform κ) (info : RegisterInfo) (d : UserArea) (k : κ) : Prop :=
  if info.type = .fpr then ∃ k', P.setFpRegs (Registers.i387 d) k = (.ok (), k')
  else ∃ k', P.pokeUser (info.offset &&& ~~~0b111) (load d (info.offset &&& ~~~0b111) 8) k = (.ok (), k')

/-- The register has the bytes of the value already. -/
def AlreadyHeld (P : Platform κ) (info : RegisterInfo) (val : Value) (d : UserArea) : Prop :=
  ∀ i < info.size, widen P info val i = d (info.offset + BitVec.ofNat 64 i)

/-- A write that raises leaves the cached struct as it was. -/
def FailsUnchanged (P : Platform κ) (info : RegisterInfo) (val : Value) (w : World κ) : Prop :=
  ∀ e t, Registers.write P info val w = .error e t → t.data = w.data

theorem orSendErrno_cases {α : Type} (what : String) (op : κ → Except Errno α × κ) (w : World κ) :
    (∃ a, (∃ k, op w.kernel = (.ok a, k)) ∧ ∃ t, orSendErrno what op w = .ok a t) ∨
      (¬ ∃ a k, op w.kernel = (.ok a, k)) ∧ ∃ e t, orSendErrno what op w = .error e t := by
  rcases answer : op w.kernel with ⟨e | a, k⟩
  · exact .inr ⟨by simp, _, _, orSendErrno_error answer⟩
  · exact .inl ⟨a, ⟨k, rfl⟩, _, orSendErrno_ok answer⟩

theorem writeBack_raises_iff (info : RegisterInfo) {w : World κ} :
    (∃ e t, Registers.writeBack P info w = .error e t) ↔ ¬ WriteAccepted P info w.data w.kernel := by
  have request : ∀ {what : String} {op : κ → Except Errno Unit × κ},
      (∃ e t, orSendErrno what op w = .error e t) ↔ ¬ ∃ k, op w.kernel = (.ok (), k) := by
    intro what op
    rcases orSendErrno_cases what op w with ⟨_, accepted, t, run⟩ | ⟨none, raised⟩
    · simp [run, accepted]
    · exact iff_of_true raised fun ⟨k, run⟩ => none ⟨_, k, run⟩
  change (∃ e t, (if info.type = .fpr then _ else _ : Sdb κ Unit) w = .error e t) ↔ _
  unfold WriteAccepted
  split
  · exact request
  · exact request

/-- The struct is as before exactly if the kernel accepts the write or there was nothing to change. -/
theorem failsUnchanged_iff (P : Platform κ) (info : RegisterInfo) (listed : info ∈ gRegisterInfos)
    (val : Value) (fits : val.size ≤ info.size) (w : World κ) :
    FailsUnchanged P info val w ↔
      WriteAccepted P info (overwrite w.data info.offset info.size (widen P info val)) w.kernel ∨
        AlreadyHeld P info val w.data := by
  have inside := (regular_of_mem info listed).inside
  unfold sizeofUser at inside
  have changed : overwrite w.data info.offset info.size (widen P info val) =
      overwrite w.data info.offset 0 (widen P info val) ↔ ∀ i, 0 ≤ i → i < info.size →
        widen P info val i = w.data (info.offset + BitVec.ofNat _ i) :=
    overwrite_prefix_iff (Nat.zero_le _) (by omega)
  rw [overwrite_zero] at changed
  unfold FailsUnchanged
  rw [Registers.write_eq fits]
  have refused := writeBack_raises_iff (P := P) info (w := { w with
    data := overwrite w.data info.offset info.size (widen P info val) })
  by_cases accepted : WriteAccepted P info
      (overwrite w.data info.offset info.size (widen P info val)) w.kernel
  · refine iff_of_true (fun e t raised => ?_) (.inl accepted)
    exact absurd accepted (refused.1 ⟨e, t, raised⟩)
  · obtain ⟨e, t, raised⟩ := refused.2 accepted
    have kept := (Registers.preserves_writeBack info _).of_error rfl raised
    rw [or_iff_right accepted]
    constructor
    · intro unchanged i hi
      have same := unchanged e t raised
      rw [kept] at same
      exact changed.1 same i (Nat.zero_le i) hi
    · intro held e' t' raised'
      rw [(Registers.preserves_writeBack info _).of_error rfl raised']
      exact changed.2 fun i _ hi => held i hi

/-- A control register that is written with what it holds. -/
theorem failsUnchanged_iff_sameValue :
    FailsUnchanged refusingPlatform (dr .dr7 "dr7" 7) (.i32 0) (scriptedWorld [true] []) :=
  (failsUnchanged_iff refusingPlatform _ (by decide +kernel) _ (by decide) _).2
    (.inr fun i hi => by
      change i < 8 at hi
      interval_cases i <;> rfl)

/-- The refused write of one to `rax` stays in the struct. -/
theorem not_failsUnchanged_refusedPoke :
    ¬ FailsUnchanged refusingPlatform (gpr64 .rax "rax" 0 .rax) (.u64 1)
      (scriptedWorld [true] []) := by
  intro unchanged
  have same := congrFun (unchanged _ _ rfl) 80
  revert same
  decide +kernel

end SdbDebugger
