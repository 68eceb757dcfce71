import SdbDebugger.MemoryWrites
import SdbDebugger.TrapRuns

/-! Writes by the user among breakpoint operations. `write_memory` knows nothing of
traps, so a byte written over one replaces the trap and not the byte saved for it. -/

namespace SdbDebugger
open EffectRules ActionRuns ByteSpace Overlay StoppointCollection

variable {κ : Type} {P : Platform κ} {mem : κ → Memory} {readable : κ → VirtAddr → Prop}
  {M : Memory}

/-! ### One write over traps -/

/-- Every trap that the write covers is written with a trap byte. -/
def TrapsRewritten (w : World κ) (address : VirtAddr) (data : List Byte) : Prop :=
  ∀ site ∈ w.breakpointSites, site.armed = true → (site.address - address).toNat < data.length →
    data.getD (site.address - address).toNat 0 = BreakpointSite.int3

/-- Every trap that the write covers stands for a trap byte of the program. -/
def TrapsOfProgram (w : World κ) (address : VirtAddr) (data : List Byte) : Prop :=
  ∀ site ∈ w.breakpointSites, site.armed = true → (site.address - address).toNat < data.length →
    site.savedData = BreakpointSite.int3

instance (w : World κ) (address : VirtAddr) (data : List Byte) :
    Decidable (TrapsRewritten w address data) :=
  inferInstanceAs (Decidable (∀ _ ∈ _, _))

instance (w : World κ) (address : VirtAddr) (data : List Byte) :
    Decidable (TrapsOfProgram w address data) :=
  inferInstanceAs (Decidable (∀ _ ∈ _, _))

/-- The program's memory after a write: under a trap it is what it was. -/
noncomputable def writtenAround (traps : Set VirtAddr) (m : Memory) (address : VirtAddr)
    (data : List Byte) : Memory :=
  open Classical in fun x => if x ∈ traps then m x else written m address data x

theorem TrapInvariant.write {w t : World κ} {address : VirtAddr} {data : List Byte}
    (inv : TrapInvariant mem M w) (sites : t.breakpointSites = w.breakpointSites)
    (memory : mem t.kernel = written (mem w.kernel) address data)
    (traps : TrapsRewritten w address data) :
    TrapInvariant mem (writtenAround (trapAddresses w.breakpointSites) M address data) t := by
  refine ⟨sites ▸ inv.distinct, ?_, ?_⟩
  · rw [memory, sites, inv.memory]
    funext x
    by_cases trapped : x ∈ trapAddresses w.breakpointSites
    · rw [patch_of_mem trapped]
      by_cases covered : (x - address).toNat < data.length
      · obtain ⟨site, member, armed, rfl⟩ := trapped
        rw [written, overwrite_of_lt covered]
        exact traps site member armed covered
      · rw [written, overwrite_of_le (by omega), patch_of_mem trapped]
    · rw [patch_of_not_mem trapped, writtenAround, if_neg trapped]
      by_cases covered : (x - address).toNat < data.length
      · rw [written, written, overwrite_of_lt covered, overwrite_of_lt covered]
      · rw [written, written, overwrite_of_le (by omega), overwrite_of_le (by omega),
          patch_of_not_mem trapped]
  · intro site member armed
    rw [sites] at member
    have trapped : site.address ∈ trapAddresses w.breakpointSites := ⟨site, member, armed, rfl⟩
    rw [writtenAround, if_pos trapped]
    exact inv.saved site member armed

theorem writtenAround_eq {w : World κ} {address : VirtAddr} {data : List Byte}
    (inv : TrapInvariant mem M w) (rewritten : TrapsRewritten w address data)
    (program : TrapsOfProgram w address data) :
    writtenAround (trapAddresses w.breakpointSites) M address data = written M address data := by
  funext x
  unfold writtenAround
  split
  · next trapped =>
    obtain ⟨site, member, armed, rfl⟩ := trapped
    by_cases covered : (site.address - address).toNat < data.length
    · rw [written, overwrite_of_lt covered, rewritten site member armed covered,
        ← inv.saved site member armed, program site member armed covered]
    · rw [written, overwrite_of_le (by omega)]
  · rfl

/-- The masked read after a write finds the user's bytes. -/
theorem TrapInvariant.readMemoryWithoutTraps_written {w : World κ} {m : Memory}
    {address : VirtAddr} {data : List Byte}
    (inv : TrapInvariant mem (written M address data) w) (fits : data.length ≤ maxSize 1)
    (memory : mem w.kernel = written m address data)
    (reads : ReadsRange P mem w address data.length) :
    ∃ k, readMemoryWithoutTraps P address data.length w = .ok data { w with kernel := k } := by
  have small : data.length < 2 ^ 64 := fits.trans_lt (by decide)
  have already : MaskedBy (getInRegion w.breakpointSites address
      (address + BitVec.ofNat 64 data.length)) (written M address data) address
      (cells (mem w.kernel) address data.length) := by
    intro i hi
    rw [length_cells] at hi
    have both : ∀ m' : Memory, written m' address data (address + BitVec.ofNat 64 i) =
        data.getD i 0 := fun m' => overwrite_add hi (by omega)
    left
    rw [getElem?_cells hi, memory, both, both]
  obtain ⟨k, _, done⟩ := inv.readMemoryWithoutTraps_of_masked small already reads
  rw [cells_written M address small.le] at done
  exact ⟨k, done⟩

/-! ### Runs -/

inductive MemoryOp where
  | stoppoint (op : StoppointOp)
  | write (address : VirtAddr) (data : List Byte)
  deriving DecidableEq, Repr

/-- A write that fails ends the run. -/
def memoryStep (P : Platform κ) : MemoryOp → World κ → Option (World κ)
  | .stoppoint op => stoppointStep P op
  | .write address data => survive (fun _ => true) (writeMemory P address data)

def MemoryOp.program : MemoryOp → Memory → Memory
  | .stoppoint _, m => m
  | .write address data, m => written m address data

/-- At each address the last byte written there, or the initial byte. -/
def lastWritten (ops : List MemoryOp) (m : Memory) : Memory :=
  ops.foldl (fun m op => op.program m) m

def MemoryOp.Admitted (P : Platform κ) (readable : κ → VirtAddr → Prop) :
    MemoryOp → World κ → Prop
  | .stoppoint _, _ => True
  | .write address data, w => WriteEnvironment P readable w address data ∧
      TrapsRewritten w address data ∧ TrapsOfProgram w address data

instance [∀ k a, Decidable (readable k a)] :
    ∀ (op : MemoryOp) (w : World κ), Decidable (op.Admitted P readable w)
  | .stoppoint _, _ => .isTrue trivial
  | .write _ _, _ => inferInstanceAs (Decidable (_ ∧ _ ∧ _))

/-- What a user expects of writes and breakpoints together, after a run from `start`. -/
structure WritesCommute (P : Platform κ) (mem : κ → Memory) (start : Memory)
    (ops : List MemoryOp) (w : World κ) : Prop where
  masked : ∀ before address data, ops = before ++ [.write address data] →
    ∃ k, readMemoryWithoutTraps P address data.length w = .ok data { w with kernel := k }
  trapped : ∀ site ∈ w.breakpointSites, site.armed = true →
    mem w.kernel site.address = BreakpointSite.int3
  restored : (∀ site ∈ w.breakpointSites, site.armed = false) →
    mem w.kernel = lastWritten ops start

theorem write_done {w t : World κ} {address : VirtAddr} {data : List Byte}
    (step : memoryStep P (.write address data) w = some t) :
    writeMemory P address data w = .ok () t := by
  rcases survive_eq_some.1 step with ⟨_, done⟩ | ⟨_, mild, _⟩
  · exact done
  · contradiction

section Runs

variable (laws : MemoryLaws P.toKernel mem) (refused : KeepsRefused P.toKernel mem)
  (transfers : TransfersReadable P.toKernel mem readable) (mapping : MappingLaws P.toKernel readable)
include laws refused transfers mapping

theorem TrapInvariant.after_memoryStep (op : MemoryOp) {w t : World κ} (inv : TrapInvariant mem M w)
    (admitted : op.Admitted P readable w) (step : memoryStep P op w = some t) :
    TrapInvariant mem (op.program M) t := by
  cases op with
  | stoppoint op => exact survive_invariant (preserves_perform laws refused op) inv step
  | write address data =>
    obtain ⟨env, rewritten, program⟩ := admitted
    obtain ⟨sites, memory, _⟩ := writeMemory_eq laws transfers mapping env (write_done step)
    have kept := inv.write sites memory rewritten
    rwa [writtenAround_eq inv rewritten program] at kept

theorem TrapInvariant.run_memory {ops : List MemoryOp} {w w' : World κ}
    (inv : TrapInvariant mem M w)
    (admitted : Along (memoryStep P) (MemoryOp.Admitted P readable) ops w)
    (reach : run (memoryStep P) ops w = some w') :
    TrapInvariant mem (lastWritten ops M) w' :=
  run_tracks (fun op _ _ _ kept here step =>
    kept.after_memoryStep laws refused transfers mapping op here step) inv admitted reach

theorem writesCommute_of_admitted (ops : List MemoryOp) {w w' : World κ}
    (fresh : w.breakpointSites = [])
    (admitted : Along (memoryStep P) (MemoryOp.Admitted P readable) ops w)
    (reach : run (memoryStep P) ops w = some w') : WritesCommute P mem (mem w.kernel) ops w' := by
  have start : TrapInvariant mem (mem w.kernel) w := TrapInvariant.fresh fresh
  have inv := start.run_memory laws refused transfers mapping admitted reach
  refine ⟨fun before address data last => ?_, fun site member armed => ?_, inv.untrapped⟩
  · subst last
    rw [run_concat, Option.bind_eq_some_iff] at reach
    obtain ⟨s, reach, step⟩ := reach
    have admitted_s := (along_concat reach).1 admitted
    obtain ⟨env, _, _⟩ := admitted_s.2
    obtain ⟨_, memory, reads⟩ := writeMemory_eq laws transfers mapping env (write_done step)
    have before_s := start.run_memory laws refused transfers mapping admitted_s.1 reach
    have after_write := before_s.after_memoryStep laws refused transfers mapping _ admitted_s.2 step
    exact after_write.readMemoryWithoutTraps_written env.fits memory reads
  · have trapped : site.address ∈ trapAddresses w'.breakpointSites := ⟨site, member, armed, rfl⟩
    rw [inv.memory, patch_of_mem trapped]

end Runs

/-- A write next to a trap, one over a trap on a trap byte of the program. -/
def writesBesideTraps : List MemoryOp :=
  [.stoppoint (.createSite 0x10cc false false), .stoppoint (.enableSite 0),
    .write 0x10c8 [0x01, 0x02, 0x03], .write 0x10cb [0x04, 0xcc, 0x05]]

/-- A write over the trap at the start of an instruction. -/
def writeOverTrap : List MemoryOp :=
  [.stoppoint (.createSite 0x1000 false false), .stoppoint (.enableSite 0), .write 0x1000 [0x90]]

end SdbDebugger
