import SdbDebugger.MemoryReads
import SdbDebugger.TrapInvariant
import SdbDebugger.StoppointRuns
import SdbDebugger.PagedKernel

/-! Runs of breakpoint operations keep the program's memory: what the inferior
holds differs from it only at enabled software sites, and a read that masks the
traps returns it. -/

namespace SdbDebugger
open EffectRules ActionRuns ByteSpace Overlay KeyedList StoppointCollection

variable {κ : Type} {P : Platform κ} {mem : κ → Memory} {M : Memory}

namespace TrapInvariant

theorem registerBlind (laws : MemoryLaws P.toKernel mem) :
    RegisterBlind P fun w : World κ => TrapInvariant mem M w where
  data _ _ inv := inv.congr rfl rfl
  pokeUser w off v inv := inv.congr rfl (laws.pokeUser_mem off v w.kernel)
  setFpRegs w fprs inv := inv.congr rfl (laws.setFpRegs_mem fprs w.kernel)

theorem preserves_createWatchpoint (laws : MemoryLaws P.toKernel mem) (address : VirtAddr)
    (mode : StoppointMode) (size : BitVec 64) :
    Preserves (TrapInvariant mem M) (createWatchpoint P address mode size) := by
  refine Preserves.get.bind fun w => Preserves.ite (Preserves.throw _) ?_
  refine Preserves.ite (Preserves.throw _) ((preserves_liftFault _).bind fun id => ?_)
  refine (Preserves.modify fun w inv => inv.congr rfl rfl).bind fun _ => ?_
  refine (preserves_readMemory P (fun w iovs inv =>
    inv.congr rfl (laws.processVmReadv_mem iovs w.kernel)) _ _).bind fun read => ?_
  refine Preserves.ite (Preserves.throw _) ?_
  exact (Preserves.modify fun w inv => inv.congr rfl rfl).bind fun _ => Preserves.pure _

theorem preserves_watchpointEnable (laws : MemoryLaws P.toKernel mem) (i : Nat) :
    Preserves (TrapInvariant mem M) (Watchpoint.enable P i) := by
  refine Preserves.bind (Preserves.get.bind fun w => preserves_liftFault _) fun point => ?_
  refine Preserves.ite (Preserves.pure _) ?_
  refine (preserves_setHardwareStoppoint P (registerBlind laws) _ _ _).bind fun index => ?_
  exact Preserves.modify fun w inv => inv.congr rfl rfl

theorem preserves_watchpointDisable (laws : MemoryLaws P.toKernel mem) (i : Nat) :
    Preserves (TrapInvariant mem M) (Watchpoint.disable P i) := by
  refine Preserves.bind (Preserves.get.bind fun w => preserves_liftFault _) fun point => ?_
  refine Preserves.ite (Preserves.pure _) ?_
  refine (preserves_clearHardwareStoppoint P (registerBlind laws) _).bind fun _ => ?_
  exact Preserves.modify fun w inv => inv.congr rfl rfl

theorem preserves_removeWatchpoint (laws : MemoryLaws P.toKernel mem) (found : Option Nat) :
    Preserves (TrapInvariant mem M) (removeWatchpoint P found) :=
  (preserves_liftFault _).bind fun i => (preserves_watchpointDisable laws i).bind fun _ =>
    Preserves.modify fun _ inv => inv.congr rfl rfl

/-- One lemma for every operation: whatever it does, and wherever it fails. -/
theorem preserves_perform (laws : MemoryLaws P.toKernel mem)
    (refused : KeepsRefused P.toKernel mem) (op : StoppointOp) :
    Preserves (TrapInvariant mem M) (op.perform P) := by
  cases op with
  | createSite address hardware internal =>
    exact (preserves_createBreakpointSite address hardware internal).bind fun _ => Preserves.pure _
  | enableSite i => exact preserves_enable laws refused i
  | disableSite i => exact preserves_disable laws refused i
  | removeSiteById id => exact Preserves.get.bind fun w => preserves_removeSite laws refused _
  | removeSiteByAddress address => exact Preserves.get.bind fun w => preserves_removeSite laws refused _
  | createWatchpoint address mode size =>
    exact (preserves_createWatchpoint laws address mode size).bind fun _ => Preserves.pure _
  | enableWatchpoint i => exact preserves_watchpointEnable laws i
  | disableWatchpoint i => exact preserves_watchpointDisable laws i
  | removeWatchpointById id => exact Preserves.get.bind fun w => preserves_removeWatchpoint laws _
  | removeWatchpointByAddress address =>
    exact Preserves.get.bind fun w => preserves_removeWatchpoint laws _

theorem run_stoppoints (laws : MemoryLaws P.toKernel mem) (refused : KeepsRefused P.toKernel mem)
    {ops : List StoppointOp} {w w' : World κ}
    (inv : TrapInvariant mem M w) (reach : run (stoppointStep P) ops w = some w') :
    TrapInvariant mem M w' :=
  run_invariant
    (fun op _ _ kept alive => survive_invariant (preserves_perform laws refused op) kept alive)
    inv reach

end TrapInvariant

theorem not_armed {site : BreakpointSite} (h : site.isHardware = false → site.isEnabled = false) :
    site.armed = false := by
  cases hard : site.isHardware
  · simp [BreakpointSite.armed, h hard]
  · simp [BreakpointSite.armed, hard]

/-- After any run of operations on stoppoints, failing or not, memory is the
initial memory with a trap byte at every enabled software site; so it is the
initial memory once none is enabled. A word that was refused must not have been
written in part. -/
theorem breakpointMemory_of_run (laws : MemoryLaws P.toKernel mem)
    (refused : KeepsRefused P.toKernel mem) (ops : List StoppointOp) (w w' : World κ)
    (fresh : w.breakpointSites = [])
    (reach : run (stoppointStep P) ops w = some w') :
    (∀ a, (∃ site ∈ w'.breakpointSites,
        site.isEnabled = true ∧ site.isHardware = false ∧ site.address = a) →
      mem w'.kernel a = 0xcc) ∧
    (∀ a, (¬ ∃ site ∈ w'.breakpointSites,
        site.isEnabled = true ∧ site.isHardware = false ∧ site.address = a) →
      mem w'.kernel a = mem w.kernel a) ∧
    (∀ site ∈ w'.breakpointSites, site.isEnabled = true → site.isHardware = false →
      site.savedData = mem w.kernel site.address) ∧
    ((∀ site ∈ w'.breakpointSites, site.isHardware = false → site.isEnabled = false) →
      mem w'.kernel = mem w.kernel) := by
  have inv := (TrapInvariant.fresh fresh).run_stoppoints laws refused reach
  have armed : ∀ site : BreakpointSite,
      site.armed = true ↔ site.isEnabled = true ∧ site.isHardware = false := by
    intro site
    simp [BreakpointSite.armed]
  refine ⟨fun a trapped => ?_, fun a clear => ?_, fun site member on soft => ?_, fun off => ?_⟩
  · obtain ⟨site, member, on, soft, here⟩ := trapped
    rw [inv.memory, patch_of_mem
      (mem_trapAddresses.2 ⟨site, member, (armed site).2 ⟨on, soft⟩, here⟩)]
    rfl
  · rw [inv.memory, patch_of_not_mem]
    rintro ⟨site, member, on, here⟩
    exact clear ⟨site, member, ((armed site).1 on).1, ((armed site).1 on).2, here⟩
  · exact inv.saved site member ((armed site).2 ⟨on, soft⟩)
  · exact inv.untrapped fun site member => not_armed (off site member)

/-- Two sites three bytes apart; the first attempt to enable one is refused, and
so is the first attempt to remove it. -/
def overlappingSites : List StoppointOp :=
  [.createSite 0x1000 false false, .createSite 0x1003 false false, .enableSite 0, .enableSite 0,
    .enableSite 1, .removeSiteById 1, .removeSiteById 1]

theorem breakpointMemory_of_run_overlapping :
    ∃ w', run (stoppointStep scriptedPlatform) overlappingSites
        (scriptedWorld [true, false, false, false, false, false, true, false, false] []) = some w' ∧
      ∀ a, (∃ site ∈ w'.breakpointSites,
        site.isEnabled = true ∧ site.isHardware = false ∧ site.address = a) →
        w'.kernel.memory a = 0xcc := by
  obtain ⟨w', reach⟩ := Option.isSome_iff_exists.1 (show (run (stoppointStep scriptedPlatform)
    overlappingSites (scriptedWorld [true, false, false, false, false, false, true, false, false]
      [])).isSome = true by decide)
  exact ⟨w', reach,
    (breakpointMemory_of_run Scripted.memoryLaws Scripted.keepsRefused _ _ _ rfl reach).1⟩

/-- A site on the last byte of a page that can be written: its word runs into the next page. -/
def siteAtPageEnd : List StoppointOp :=
  [.createSite 0x1fff false false, .enableSite 0, .enableSite 0, .removeSiteById 1]

/-- The refused word has left the trap byte in the page, and the second attempt saves that byte. -/
theorem not_breakpointMemory_pageEnd :
    MemoryLaws tornPlatform.toKernel Scripted.memory ∧
    ∃ w', run (stoppointStep tornPlatform) siteAtPageEnd (pagedWorld 0x2000) = some w' ∧
      w'.breakpointSites = [] ∧ w'.kernel.memory 0x1fff = 0xcc ∧
      (pagedWorld 0x2000).kernel.memory 0x1fff = 0xff := by
  have final : ((run (stoppointStep tornPlatform) siteAtPageEnd (pagedWorld 0x2000)).map
      fun w => (w.breakpointSites, w.kernel.memory 0x1fff)) = some ([], 0xcc) := by decide +kernel
  obtain ⟨w', reach, same⟩ := Option.map_eq_some_iff.1 final
  rw [Prod.mk.injEq] at same
  exact ⟨Torn.memoryLaws, w', reach, same.1, same.2, by decide⟩

/-! ### Reads that mask the traps -/

/-- The bytes that the kernel reads are the program's, or belong to a trap. -/
theorem TrapInvariant.maskedBy {w : World κ} (inv : TrapInvariant mem M w) {address : VirtAddr}
    {amount : Nat} (nowrap : address.toNat + amount ≤ 2 ^ 64 - 1) :
    MaskedBy (getInRegion w.breakpointSites address (address + BitVec.ofNat 64 amount)) M address
      (cells (mem w.kernel) address amount) := by
  intro i hi
  rw [length_cells] at hi
  rw [getElem?_cells hi, inv.memory]
  by_cases trapped : address + BitVec.ofNat 64 i ∈ trapAddresses w.breakpointSites
  · obtain ⟨site, member, armed, here⟩ := trapped
    have offset : (site.address - address).toNat = i := by
      rw [here, distance_add address (by omega)]
    exact .inr ⟨site, mem_getInRegion_of_lt nowrap member (by omega), armed, offset⟩
  · rw [patch_of_not_mem trapped]
    exact .inl rfl

theorem TrapInvariant.readMemoryWithoutTraps_of_masked {w : World κ}
    (inv : TrapInvariant mem M w) {address : VirtAddr} {amount : Nat} (fits : amount < 2 ^ 64)
    (masked : MaskedBy (getInRegion w.breakpointSites address (address + BitVec.ofNat 64 amount))
      M address (cells (mem w.kernel) address amount))
    (reads : ReadsRange P mem w address amount) :
    ∃ k, mem k = mem w.kernel ∧
      readMemoryWithoutTraps P address amount w = .ok (cells M address amount)
        { w with kernel := k } := by
  obtain ⟨k, same, read⟩ := reads
  refine ⟨k, same, ?_⟩
  have done := maskTraps_eq _ _ masked
    (fun site member => by
      rw [length_cells]
      exact offset_lt_of_mem_getInRegion fits member)
    (fun site member => inv.saved site (mem_getInRegion.1 member).1)
  rw [length_cells] at done
  rw [readMemoryWithoutTraps, bind_ok read]
  change liftFault (maskTraps address _ _) _ = _
  rw [done]
  rfl

theorem TrapInvariant.readMemoryWithoutTraps_eq {w : World κ} (inv : TrapInvariant mem M w)
    {address : VirtAddr} {amount : Nat} (nowrap : address.toNat + amount ≤ 2 ^ 64 - 1)
    (reads : ReadsRange P mem w address amount) :
    ∃ k, mem k = mem w.kernel ∧
      readMemoryWithoutTraps P address amount w = .ok (cells M address amount)
        { w with kernel := k } :=
  inv.readMemoryWithoutTraps_of_masked (by omega) (inv.maskedBy nowrap) reads

end SdbDebugger
