import SdbDebugger.Library.ActionRuns
import SdbDebugger.ScriptedKernel
import Mathlib.Data.Set.Basic

/-! The cached registers and the kernel's copy of them. A read of all registers
makes them agree; a write changes the cache and then pushes the word, or the
whole floating-point struct, in which the register lies. -/

namespace SdbDebugger
open EffectRules ActionRuns ByteSpace

variable {κ : Type} {P : Platform κ} {user : κ → UserArea}

def block (start : BitVec 64) (size : Nat) : Set (BitVec 64) := {off | (off - start).toNat < size}

/-- The offsets of `regs`, `i387` and `u_debugreg` in the user area. -/
def cachedOffsets : Set (BitVec 64) :=
  block (BitVec.ofNat 64 offsetofRegs) sizeofRegs ∪
    block (BitVec.ofNat 64 offsetofI387) sizeofI387 ∪ block (BitVec.ofNat 64 offsetofDebugreg) (8 * 8)

/-- On these offsets the cache holds what the kernel holds. -/
def Agree (user : κ → UserArea) (offsets : Set (BitVec 64)) (w : World κ) : Prop :=
  ∀ off ∈ offsets, w.data off = user w.kernel off

/-- A word of the general registers, read from a cache that holds those of a stop. -/
theorem load_cached {d user : UserArea} (cached : ∀ off ∈ cachedOffsets, d off = user off)
    {off : BitVec 64} (inside : off.toNat + 8 ≤ sizeofRegs) :
    (load d off 8 : Word) = load user off 8 := by
  unfold sizeofRegs at inside
  apply ofBytes_congr
  intro j hj
  refine cached _ (.inl (.inl ?_))
  change (off + BitVec.ofNat 64 j - 0).toNat < 216
  rw [sub_zero, BitVec.toNat_add, BitVec.toNat_ofNat]
  omega

theorem distance_triangle {a b x : BitVec 64} {m n : Nat} (inside : (a - b).toNat + m ≤ n)
    (h : (x - a).toNat < m) : (x - b).toNat < n := by
  have split : x - b = (x - a) + (a - b) := (sub_add_sub_cancel x a b).symm
  have bound : (x - b).toNat ≤ (x - a).toNat + (a - b).toNat := by
    rw [split, BitVec.toNat_add]
    exact Nat.mod_le _ _
  omega

/-- A change of the cache followed by a push of the block around it. -/
theorem Agree.push {offsets : Set (BitVec 64)} {w w' : World κ} (agree : Agree user offsets w)
    {a b : BitVec 64} {m n : Nat} {src : Nat → Byte} (inside : (a - b).toNat + m ≤ n)
    (data : w'.data = overwrite w.data a m src)
    (pushed : user w'.kernel =
      overwrite (user w.kernel) b n fun i => w'.data (b + BitVec.ofNat 64 i)) :
    Agree user offsets w' := by
  intro off member
  by_cases within : (off - b).toNat < n
  · rw [pushed, overwrite_of_lt within, add_distance]
  · have outside : m ≤ (off - a).toNat := by
      by_contra near
      exact within (distance_triangle inside (by omega))
    rw [pushed, overwrite_of_le (by omega), data, overwrite_of_le outside, agree off member]

section Table

theorem word_contains_register : ∀ info ∈ gRegisterInfos, info.type ≠ .fpr →
    (info.offset - (info.offset &&& ~~~0b111)).toNat + info.size ≤ 8 := by decide +kernel

theorem i387_contains_register : ∀ info ∈ gRegisterInfos, info.type = .fpr →
    (info.offset - BitVec.ofNat 64 offsetofI387).toNat + info.size ≤ sizeofI387 := by
  decide +kernel

end Table

namespace Registers

/-- What a successful write does to the cache and to the kernel's copy. -/
theorem wp_write (stores : RegisterStores P.toKernel user) {info : RegisterInfo} {val : Value}
    (listed : info ∈ gRegisterInfos) {offsets : Set (BitVec 64)} {w : World κ}
    (agree : Agree user offsets w) :
    wp (write P info val) (fun _ t => Agree user offsets t) (fun _ _ => True) w := by
  unfold write setValue writeBack
  rw [wp_bind, wp_ite]
  split
  · simp only [wp_modify, wp_bind, wp_get]
    rw [wp_ite]
    split
    · next fpr =>
      rw [writeFprs, wp_orSendErrno]
      refine ⟨fun u k stored => ?_, fun _ _ _ => trivial⟩
      refine agree.push (i387_contains_register info listed fpr) rfl ?_
      rw [stores.setFpRegs _ _ _ _ stored]
      apply overwrite_congr
      intro i _
      rw [i387, BitVec.ofNat_add]
    · next other =>
      rw [writeUserArea, wp_orSendErrno]
      refine ⟨fun u k stored => ?_, fun _ _ _ => trivial⟩
      refine agree.push (word_contains_register info listed other) rfl ?_
      rw [stores.pokeUser _ _ _ _ _ stored, store]
      exact overwrite_congr fun i hi => byteOf_load hi
  · trivial

end Registers

/-! ### Reading everything -/

theorem Agree.fill {offsets : Set (BitVec 64)} {w w' : World κ} (agree : Agree user offsets w)
    {a : BitVec 64} {n : Nat} {src : Nat → Byte} (data : w'.data = overwrite w.data a n src)
    (kept : user w'.kernel = user w.kernel)
    (value : ∀ i < n, src i = user w.kernel (a + BitVec.ofNat 64 i)) :
    Agree user (offsets ∪ block a n) w' := by
  intro off member
  rw [data, kept]
  by_cases within : (off - a).toNat < n
  · rw [overwrite_of_lt within, value _ within, add_distance]
  · rw [overwrite_of_le (by omega)]
    cases member with
    | inl old => exact agree off old
    | inr new => exact absurd new within

theorem Agree.mono {offsets offsets' : Set (BitVec 64)} {w : World κ}
    (agree : Agree user offsets w) (sub : offsets' ⊆ offsets) : Agree user offsets' w :=
  fun off member => agree off (sub member)

def debugBlocks (indices : List Nat) : Set (BitVec 64) :=
  {off | ∃ i ∈ indices, off ∈ block (debugOffset i) 8}

theorem debugBlocks_cover {indices : List Nat} (all : ∀ i < 8, i ∈ indices) :
    block (BitVec.ofNat 64 offsetofDebugreg) (8 * 8) ⊆ debugBlocks indices := by
  intro off member
  have inside : (off - BitVec.ofNat 64 offsetofDebugreg).toNat < 8 * 8 := member
  refine ⟨(off - BitVec.ofNat 64 offsetofDebugreg).toNat / 8, all _ (by omega), ?_⟩
  have shift := distance_shift (a := BitVec.ofNat 64 offsetofDebugreg) (x := off)
    (m := 8 * ((off - BitVec.ofNat 64 offsetofDebugreg).toNat / 8)) (by omega)
  rw [← BitVec.ofNat_add] at shift
  change (off - BitVec.ofNat 64 (offsetofDebugreg + _)).toNat < 8
  omega

/-- The outcome of reading registers: only the cache and the kernel's bookkeeping
change, and the cache agrees with the kernel on `offsets`. -/
def Refreshed (user : κ → UserArea) (offsets : Set (BitVec 64)) (w t : World κ) : Prop :=
  ∃ d k, t = { w with data := d, kernel := k } ∧ user k = user w.kernel ∧ Agree user offsets t

theorem wp_readDebugRegisters (loads : RegisterLoads P.toKernel user) {indices : List Nat}
    (valid : ∀ i ∈ indices, i < 8) {offsets : Set (BitVec 64)} {w : World κ}
    (agree : Agree user offsets w) :
    wp (Registers.readDebugRegisters P indices)
      (fun _ t => Refreshed user (offsets ∪ debugBlocks indices) w t) (fun _ _ => True) w := by
  induction indices generalizing w offsets with
  | nil =>
    refine ⟨w.data, w.kernel, rfl, rfl, agree.mono ?_⟩
    intro off member
    cases member with
    | inl old => exact old
    | inr new => simp [debugBlocks] at new
  | cons i rest ih =>
    obtain ⟨info, found, offset, _⟩ := (wholeWord_dr (valid i (by simp))).info
    unfold Registers.readDebugRegisters
    rw [found, liftFault_ok, pure_bind, offset, wp_bind, wp_orSendErrno]
    refine ⟨fun v k peek => ?_, fun _ _ _ => trivial⟩
    have value := loads.peekUser_value _ _ _ _ peek
    have kept := loads.peekUser_user (debugOffset i) w.kernel
    rw [peek] at kept
    rw [wp_bind, wp_modify]
    have filled : Agree user (offsets ∪ block (debugOffset i) 8)
        { w with data := store w.data (debugOffset i) 8 v, kernel := k } :=
      agree.fill rfl kept fun j hj => by rw [value, byteOf_load hj]
    refine (ih (fun j later => valid j (List.mem_cons_of_mem i later)) filled).mono ?_
      fun _ _ _ => trivial
    intro _ t fresh
    obtain ⟨d, k', rfl, same, all⟩ := fresh
    refine ⟨d, k', rfl, same.trans kept, all.mono ?_⟩
    intro off member
    rcases member with old | ⟨j, later, inside⟩
    · exact .inl (.inl old)
    · rcases List.mem_cons.1 later with rfl | later
      · exact .inl (.inr inside)
      · exact .inr ⟨j, later, inside⟩

theorem wp_readAllRegisters (loads : RegisterLoads P.toKernel user) (w : World κ) :
    wp (Registers.readAllRegisters P) (fun _ t => Refreshed user cachedOffsets w t)
      (fun _ _ => True) w := by
  unfold Registers.readAllRegisters
  rw [wp_bind, wp_orSendErrno]
  refine ⟨fun regs k got => ?_, fun _ _ _ => trivial⟩
  have kept := loads.getRegs_user w.kernel
  rw [got] at kept
  have nothing : Agree user ∅ w := fun off member => absurd member (Set.notMem_empty off)
  have general : Agree user (∅ ∪ block (BitVec.ofNat 64 offsetofRegs) sizeofRegs)
      { w with
        data := overwrite w.data (BitVec.ofNat 64 offsetofRegs) sizeofRegs regs
        kernel := k } :=
    nothing.fill rfl kept (loads.getRegs_value _ _ _ got)
  rw [wp_bind, wp_modify, wp_bind, wp_orSendErrno]
  refine ⟨fun fprs k' got' => ?_, fun _ _ _ => trivial⟩
  have kept' := loads.getFpRegs_user k
  rw [got'] at kept'
  rw [wp_bind, wp_modify]
  have floating : Agree user (∅ ∪ block (BitVec.ofNat 64 offsetofRegs) sizeofRegs ∪
      block (BitVec.ofNat 64 offsetofI387) sizeofI387)
      { w with
        data := overwrite (overwrite w.data (BitVec.ofNat 64 offsetofRegs) sizeofRegs regs)
          (BitVec.ofNat 64 offsetofI387) sizeofI387 fprs
        kernel := k' } :=
    general.fill rfl kept' (loads.getFpRegs_value _ _ _ got')
  refine (wp_readDebugRegisters loads (by decide) floating).mono ?_ fun _ _ _ => trivial
  intro _ t fresh
  obtain ⟨d, k'', rfl, same, all⟩ := fresh
  refine ⟨d, k'', rfl, same.trans (kept'.trans kept), all.mono ?_⟩
  intro off member
  rcases member with (general | floating) | debug
  · exact .inl (.inl (.inr general))
  · exact .inl (.inr floating)
  · exact .inr (debugBlocks_cover (by decide) debug)

/-! ### Runs of writes -/

/-- A call of `write` as the sources make it: a register of the table and a value
that fits it. -/
structure RegisterWrite where
  info : RegisterInfo
  value : Value
  listed : info ∈ gRegisterInfos
  fits : value.size ≤ info.size

/-- A write that fails ends the run. -/
def registerStep (P : Platform κ) (op : RegisterWrite) : World κ → Option (World κ) :=
  survive (fun _ => true) (Registers.write P op.info op.value)

/-- Successful writes, to whatever registers, keep the cache equal to the kernel's
copy. -/
theorem agree_of_registerWrites (stores : RegisterStores P.toKernel user)
    (ops : List RegisterWrite) (w w' : World κ) (start : Agree user cachedOffsets w)
    (reach : run (registerStep P) ops w = some w') : Agree user cachedOffsets w' := by
  refine run_invariant (fun op s t agree step => ?_) start reach
  have written := survive_wp (Registers.wp_write stores op.listed agree) step
  rcases written with ⟨_, kept⟩ | ⟨_, mild, _⟩
  · exact kept
  · contradiction

/-- A high byte, a whole vector register, a sub-register of the first and a debug register. -/
def aliasingWrites : List RegisterWrite :=
  [⟨gpr8H .ah "ah" .rax, .u8 0x12, by decide +kernel, by decide⟩,
    ⟨fpXmm .xmm3 "xmm3" 3, .double 0x3ff0000000000000, by decide +kernel, by decide⟩,
    ⟨gpr32 .eax "eax" .rax, .i16 0x8000, by decide +kernel, by decide⟩,
    ⟨dr .dr7 "dr7" 7, .u64 0x701, by decide +kernel, by decide⟩]

theorem agree_of_registerWrites_aliasing :
    ∃ w', run (registerStep scriptedPlatform) aliasingWrites (scriptedWorld [] []) = some w' ∧
      Agree Scripted.user cachedOffsets w' := by
  obtain ⟨w', reach⟩ := Option.isSome_iff_exists.1 (show (run (registerStep scriptedPlatform)
    aliasingWrites (scriptedWorld [] [])).isSome = true by decide +kernel)
  exact ⟨w', reach, agree_of_registerWrites Scripted.registerStores _ _ _ (fun _ _ => rfl) reach⟩

end SdbDebugger
