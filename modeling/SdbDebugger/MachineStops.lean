import SdbDebugger.Machine
import SdbDebugger.RegisterCache
import SdbDebugger.SiteList
import SdbDebugger.StopArrival
import SdbDebugger.TrapInvariant

/-! What breakpoint sites, single steps and waits do to the machine, in terms of the
native execution of the program under the traps. -/

namespace SdbDebugger
open EffectRules ActionRuns ByteSpace Overlay FirstHit KeyedList StoppointCollection

variable {exec : Core → Core} (budget : Nat) {start : Core} {sites : List BreakpointSite}

/-! ### Sites of the machine -/

section Sites

variable {w : World Inferior} {i : Nat} {site : BreakpointSite}

/-- Disabling a software site puts its saved byte back. -/
theorem disable_machine (stopped : w.kernel.request = none)
    (at_i : w.breakpointSites[i]? = some site) (on : site.isEnabled = true)
    (soft : site.isHardware = false) :
    BreakpointSite.disable (machinePlatform exec budget) i w = .ok () { w with
      breakpointSites := w.breakpointSites.modify i fun s => { s with isEnabled := false }
      kernel := { w.kernel with core := { w.kernel.core with
        memory := Function.update w.kernel.core.memory site.address site.savedData } } } := by
  unfold BreakpointSite.disable
  rw [bind_ok (siteAt_eq at_i), on]
  change (BreakpointSite.uninstall (machinePlatform exec budget) i site >>= _) w = _
  unfold BreakpointSite.uninstall
  rw [soft, if_neg Bool.false_ne_true]
  have peek : orSendErrno "disabling breakpoint site failed"
      ((machinePlatform exec budget).peekData site.address) w =
        .ok (load w.kernel.core.memory site.address 8) w := whenStopped_run stopped _ _
  rw [bind_assoc, bind_ok peek]
  have poke := whenStopped_run stopped "disabling breakpoint site failed"
    (Inferior.pokeData site.address
      (((load w.kernel.core.memory site.address 8 : Word) &&& ~~~0xff) ||| site.savedData.setWidth 64))
  refine (bind_ok poke _).trans ?_
  rw [Inferior.pokeData, store_replace_low]
  rfl

/-- Enabling a software site saves the byte it replaces. -/
theorem enable_machine (stopped : w.kernel.request = none)
    (at_i : w.breakpointSites[i]? = some site) (off : site.isEnabled = false)
    (soft : site.isHardware = false) :
    BreakpointSite.enable (machinePlatform exec budget) i w = .ok () { w with
      breakpointSites := w.breakpointSites.modify i fun s =>
        { s with savedData := w.kernel.core.memory site.address, isEnabled := true }
      kernel := { w.kernel with core := { w.kernel.core with
        memory := Function.update w.kernel.core.memory site.address BreakpointSite.int3 } } } := by
  unfold BreakpointSite.enable
  rw [bind_ok (siteAt_eq at_i), off]
  change (BreakpointSite.install (machinePlatform exec budget) i site >>= _) w = _
  unfold BreakpointSite.install
  rw [soft, if_neg Bool.false_ne_true]
  have peek : orSendErrno "enabling breakpoint site failed"
      ((machinePlatform exec budget).peekData site.address) w =
        .ok (load w.kernel.core.memory site.address 8) w := whenStopped_run stopped _ _
  rw [bind_assoc, bind_ok peek, low_byte, bind_assoc]
  let saved : World Inferior := { w with
    breakpointSites := w.breakpointSites.modify i fun s =>
      { s with savedData := w.kernel.core.memory site.address } }
  have save : (modifySite i fun s =>
      { s with savedData := w.kernel.core.memory site.address } : Sdb Inferior Unit) w =
        .ok () saved := rfl
  have poke := whenStopped_run (w := saved) stopped "enabling breakpoint site failed"
    (Inferior.pokeData site.address (((load w.kernel.core.memory site.address 8 : Word) &&& ~~~0xff) |||
      BreakpointSite.int3.setWidth 64))
  refine (bind_ok save _).trans ((bind_ok poke _).trans ?_)
  rw [Inferior.pokeData, store_replace_low]
  change EStateM.Result.ok () _ = _
  simp only [saved, List.modify_modify_eq]
  rfl

end Sites

/-! ### Native execution and the machine at a step of it -/

/-- The native state after `k` steps. -/
def native (exec : Core → Core) (start : Core) (k : Nat) : Core := exec^[k] start

theorem native_succ (k : Nat) : native exec start (k + 1) = exec (native exec start k) :=
  Function.iterate_succ_apply' exec k start

/-- Native execution comes to an enabled site at step `k`. -/
def Visits (exec : Core → Core) (start : Core) (sites : List BreakpointSite) (k : Nat) : Prop :=
  (native exec start k).pc ∈ trapAddresses sites

/-- A program that has no traps of its own and does not look at the sites' bytes, with
software sites whose saved bytes are the program's. -/
structure Debuggee (exec : Core → Core) (start : Core) (sites : List BreakpointSite) : Prop where
  distinct : DistinctAddresses sites
  software : ∀ site ∈ sites, site.isEnabled = true → site.isHardware = false
  saved : ∀ site ∈ sites, site.armed = true → site.savedData = start.memory site.address
  unaware : ∀ k, Unaware exec (trapAddresses sites) (native exec start k)

/-- The machine is stopped at step `k`, with trap bytes at `traps`. -/
structure Paused (exec : Core → Core) (start : Core) (sites : List BreakpointSite)
    (traps : Set VirtAddr) (k : Nat) (w : World Inferior) : Prop where
  attached : w.isAttached = true
  listed : w.breakpointSites = sites
  stopped : w.kernel.request = none
  core : w.kernel.core = (native exec start k).patched traps

/-- The machine is stopped at step `k` and the debugger knows its registers. -/
structure AtStep (exec : Core → Core) (start : Core) (sites : List BreakpointSite) (k : Nat)
    (w : World Inferior) : Prop extends Paused exec start sites (trapAddresses sites) k w where
  cached : Agree Inferior.user cachedOffsets w

/-- The machine has been let go at step `k`. -/
structure Running (exec : Core → Core) (start : Core) (sites : List BreakpointSite) (k : Nat)
    (w : World Inferior) : Prop where
  attached : w.isAttached = true
  listed : w.breakpointSites = sites
  running : ∃ request, w.kernel.request = some request ∧ request ≠ .singleStep
  core : w.kernel.core = (native exec start k).patched (trapAddresses sites)

def disarmed (sites : List BreakpointSite) (i : Nat) : List BreakpointSite :=
  sites.modify i fun s => { s with isEnabled := false }

namespace Debuggee

variable (d : Debuggee exec start sites)
include d

/-- The program never changes a byte under a trap. -/
theorem memory_at {a : VirtAddr} (trapped : a ∈ trapAddresses sites) (k : Nat) :
    (native exec start k).memory a = start.memory a := by
  induction k with
  | zero => rfl
  | succ k ih => rw [native_succ, (d.unaware k).unwritten trapped, ih]

theorem not_enabled_of_not_mem {a : VirtAddr} (outside : a ∉ trapAddresses sites) :
    enabledStoppointAtAddress sites a = .ok false := by
  cases found : findByAddress sites a with
  | none => simp [enabledStoppointAtAddress, containsAddress, found, pure, Except.pure]
  | some i =>
    obtain ⟨site, at_i, here⟩ := findByAddress_eq_some found
    rw [enabledStoppointAtAddress_of_find found at_i]
    have member := List.mem_of_getElem? at_i
    have off : site.isEnabled = false := by
      rw [← Bool.not_eq_true]
      intro on
      exact outside ⟨site, member, by simp [BreakpointSite.armed, on, d.software site member on], here⟩
    rw [show Stoppoint.isEnabled site = false from off]

theorem enabled_of_mem {a : VirtAddr} (trapped : a ∈ trapAddresses sites) :
    enabledStoppointAtAddress sites a = .ok true := by
  obtain ⟨site, member, armed, here⟩ := trapped
  obtain ⟨i, at_i⟩ := List.mem_iff_getElem?.1 member
  have found : findByAddress sites a = some i := by
    rw [← here]
    exact findByAddress_of_distinct d.distinct at_i
  have on : site.isEnabled = true := by
    simp [BreakpointSite.armed] at armed
    exact armed.1
  rw [enabledStoppointAtAddress_of_find found at_i, show Stoppoint.isEnabled site = true from on]

section AtSite

variable {i k : Nat} {site : BreakpointSite} {w : World Inferior}

theorem disable_paused (at_i : sites[i]? = some site) (on : site.isEnabled = true)
    (paused : Paused exec start sites (trapAddresses sites) k w) :
    ∃ t, BreakpointSite.disable (machinePlatform exec budget) i w = .ok () t ∧
      Paused exec start (disarmed sites i) (trapAddresses sites \ {site.address}) k t := by
  have member := List.mem_of_getElem? at_i
  have soft := d.software site member on
  have armed : site.armed = true := by simp [BreakpointSite.armed, on, soft]
  have trapped : site.address ∈ trapAddresses sites := ⟨site, member, armed, rfl⟩
  refine ⟨_, disable_machine budget paused.stopped (by rw [paused.listed]; exact at_i) on soft,
    paused.attached, by rw [disarmed, paused.listed], paused.stopped, ?_⟩
  change { w.kernel.core with
    memory := Function.update w.kernel.core.memory site.address site.savedData } = _
  rw [paused.core, d.saved site member armed, ← d.memory_at trapped k, Core.patched, Core.patched,
    patch_diff_singleton]

theorem enable_paused (at_i : sites[i]? = some site) (on : site.isEnabled = true)
    (paused : Paused exec start (disarmed sites i) (trapAddresses sites \ {site.address}) k w) :
    ∃ t, BreakpointSite.enable (machinePlatform exec budget) i w = .ok () t ∧ t.data = w.data ∧
      Paused exec start sites (trapAddresses sites) k t := by
  have member := List.mem_of_getElem? at_i
  have soft := d.software site member on
  have armed : site.armed = true := by simp [BreakpointSite.armed, on, soft]
  have trapped : site.address ∈ trapAddresses sites := ⟨site, member, armed, rfl⟩
  have idle : w.breakpointSites[i]? = some { site with isEnabled := false } := by
    rw [paused.listed]
    simp [disarmed, at_i]
  have byte : w.kernel.core.memory site.address = site.savedData := by
    rw [paused.core, d.saved site member armed, ← d.memory_at trapped k]
    exact patch_of_not_mem (by simp)
  refine ⟨_, enable_machine budget paused.stopped idle rfl soft, rfl, paused.attached, ?_,
    paused.stopped, ?_⟩
  · change w.breakpointSites.modify i (fun s =>
      { s with savedData := w.kernel.core.memory site.address, isEnabled := true }) = sites
    rw [byte, paused.listed, disarmed, List.modify_modify_eq]
    refine modify_of_fixed at_i ?_
    rw [← on]
    rfl
  · change { w.kernel.core with
      memory := Function.update w.kernel.core.memory site.address BreakpointSite.int3 } = _
    rw [paused.core, Core.patched, Core.patched, ← patch_insert, Set.insert_sdiff_singleton,
      Set.insert_eq_of_mem trapped]

end AtSite

section Waitpid

open Classical in
/-- A single step of the machine is a native step. -/
theorem waitpid_step {k : Nat} {traps : Set VirtAddr} {inferior : Inferior}
    (fewer : traps ⊆ trapAddresses sites) (elsewhere : (native exec start k).pc ∉ traps)
    (core : inferior.core = (native exec start k).patched traps)
    (stepping : inferior.request = some .singleStep) :
    Inferior.waitpid exec budget inferior =
      Inferior.stopAt ((native exec start (k + 1)).patched traps) 2 := by
  have untrapped : inferior.core.atTrap = false := by
    rw [core, Core.atTrap_patched (d.unaware k).noTrap]
    simp [elsewhere]
  rw [Inferior.waitpid, stepping, native_succ, ← (d.unaware k).exec_patched fewer elsewhere, ← core]
  change (if inferior.core.atTrap = true then _ else _) = _
  rw [untrapped, if_neg Bool.false_ne_true]

open Classical in
/-- The machine runs to the next step that visits a site. -/
theorem waitpid_run {k : Nat} {inferior : Inferior} {request : ResumeRequest}
    (core : inferior.core = (native exec start k).patched (trapAddresses sites))
    (running : inferior.request = some request) (free : request ≠ .singleStep) :
    Inferior.waitpid exec budget inferior =
      match runUntil (· + 1) (fun k => decide (Visits exec start sites k)) budget k with
      | some k' => Inferior.trap ((native exec start k').patched (trapAddresses sites))
      | none => (none, inferior) := by
  have simulates : runUntil exec Core.atTrap budget inferior.core =
      (runUntil (· + 1) (fun k => decide (Visits exec start sites k)) budget k).map
        fun k => (native exec start k).patched (trapAddresses sites) := by
    rw [core]
    refine runUntil_map (r := fun k => (native exec start k).patched (trapAddresses sites))
      (fun k => ?_) fun k away => ?_
    · exact Core.atTrap_patched (d.unaware k).noTrap
    · rw [native_succ]
      exact (d.unaware k).exec_patched (Set.Subset.refl _) (of_decide_eq_false away)
  rw [Inferior.waitpid, running]
  cases request with
  | singleStep => exact absurd rfl free
  | cont =>
    rw [simulates]
    cases runUntil (· + 1) (fun k => decide (Visits exec start sites k)) budget k <;> rfl
  | syscall =>
    rw [simulates]
    cases runUntil (· + 1) (fun k => decide (Visits exec start sites k)) budget k <;> rfl

end Waitpid

end Debuggee

/-! ### Waiting for the machine -/

section Waiting

variable {w : World Inferior} {inferior : Inferior}

theorem readAllRegisters_machine (stopped : w.kernel.request = none) :
    ∃ data, Registers.readAllRegisters (machinePlatform exec budget) w =
        .ok () { w with data := data } ∧
      ∀ off ∈ cachedOffsets, data off = w.kernel.core.user off := by
  have quiet : Keeps (fun t : World Inferior => t.kernel = w.kernel) (fun _ => False)
      (Registers.readAllRegisters (machinePlatform exec budget)) := by
    have read : ∀ {α : Type} (what : String) (f : Inferior → α), Keeps
        (fun t : World Inferior => t.kernel = w.kernel) (fun _ => False)
        (orSendErrno what (Inferior.whenStopped fun k => (f k, k))) := by
      intro α what f t same
      have run := whenStopped_run (w := t) (by rw [same, stopped]) what fun k => (f k, k)
      exact (wp_of_ok run _ _).2 same
    exact keeps_readAllRegisters (fun _ _ same => same) (read _ _) (read _ _)
      fun i _ => read _ _
  have loads : RegisterLoads (machinePlatform exec budget).toKernel Inferior.user :=
    registerLoads_machine
  have refreshed := wp_readAllRegisters loads w
  obtain ⟨_, t, run, ⟨data, k, rfl, _, agree⟩, same⟩ :=
    exists_ok_of_wp ((refreshed.and (quiet w rfl)).mono (fun _ _ h => h) fun _ _ h => h.2)
  refine ⟨data, ?_, ?_⟩
  · rw [run, show k = w.kernel from same]
  · intro off member
    rw [show data off = Inferior.user k off from agree off member, show k = w.kernel from same]
    rfl

/-- The arrival of a trap of the machine. -/
theorem arrive_machine (attached : w.isAttached = true) {s : Core} {siCode : Int}
    (reported : Inferior.waitpid exec budget w.kernel = Inferior.stopAt s siCode) :
    ∃ data, (∀ off ∈ cachedOffsets, data off = s.user off) ∧
      arrive (machinePlatform exec budget) w =
        .ok ⟨.stopped, sigtrap, some (trapTypeOf siCode), none⟩ { w with
          state := .stopped
          expectingSyscallExit := false
          data := data
          kernel := ⟨s, siCode, none⟩ } := by
  let arrived : World Inferior := { w with state := .stopped, kernel := ⟨s, siCode, none⟩ }
  have stopped : arrived.kernel.request = none := rfl
  obtain ⟨data, read, same⟩ := readAllRegisters_machine budget stopped
  refine ⟨data, same, ?_⟩
  have waited : waitpid (machinePlatform exec budget) w =
      .ok (.stopped sigtrap) { w with kernel := ⟨s, siCode, none⟩ } := by
    rw [waitpid, show (machinePlatform exec budget).waitpid w.kernel = _ from reported]
    rfl
  have attended : (w.isAttached && (StopReason.ofStatus (.stopped sigtrap)).reason == .stopped) =
      true := by
    rw [attached]
    rfl
  have asked := whenStopped_run (w := { arrived with data := data }) rfl
    "failed to get signal info" fun k => (k.siCode, k)
  unfold arrive
  rw [bind_ok waited]
  change (if (w.isAttached && (StopReason.ofStatus (.stopped sigtrap)).reason == .stopped) = true
    then _ else _ : Sdb Inferior StopReason) arrived = _
  rw [if_pos attended, bind_ok read]
  exact (bind_ok asked _).trans rfl

/-- The stop after a single step is returned as it is. -/
theorem waitOnSignal_step (attached : w.isAttached = true) {s : Core}
    (reported : Inferior.waitpid exec budget w.kernel = Inferior.stopAt s 2) (fuel : Nat) :
    ∃ data, (∀ off ∈ cachedOffsets, data off = s.user off) ∧
      waitOnSignal (machinePlatform exec budget) (fuel + 1) w =
        .ok ⟨.stopped, sigtrap, some .singleStep, none⟩ { w with
          state := .stopped
          expectingSyscallExit := false
          data := data
          kernel := ⟨s, 2, none⟩ } := by
  obtain ⟨data, same, arrival⟩ := arrive_machine budget attached reported
  refine ⟨data, same, ?_⟩
  rw [waitOnSignal_succ, bind_ok arrival]
  unfold respond
  change (if (w.isAttached && true) = true then _ else _ : Sdb Inferior StopReason) _ = _
  rw [if_pos (by rw [attached]; rfl), bind_ok (getPc_eq _)]
  rfl

/-- A trap at an enabled site is returned with the pc on the site. -/
theorem waitOnSignal_trap (attached : w.isAttached = true) {s : Core}
    (enabled : enabledStoppointAtAddress w.breakpointSites s.pc = .ok true)
    (reported : Inferior.waitpid exec budget w.kernel = Inferior.trap s) (fuel : Nat) :
    ∃ data, (∀ off ∈ cachedOffsets, data off = s.user off) ∧
      waitOnSignal (machinePlatform exec budget) (fuel + 1) w =
        .ok ⟨.stopped, sigtrap, some .softwareBreak, none⟩ { w with
          state := .stopped
          expectingSyscallExit := false
          data := data
          kernel := ⟨s, 0x80, none⟩ } := by
  obtain ⟨d, same, arrival⟩ := arrive_machine budget attached reported
  have back : store (s.setPc (s.pc + 1)).user 128 8 s.pc = s.user := store_store_load _ _ _ _
  have pc_eq : (load d 128 8 : Word) = s.pc + 1 :=
    (load_cached same (by decide)).trans (load_store _ _ _ _ (by decide))
  refine ⟨store d 128 8 s.pc, fun off member => ?_, ?_⟩
  · rw [← back, store, store, overwrite, overwrite, same off member]
  · let trapped : World Inferior := { w with
      state := .stopped
      expectingSyscallExit := false
      data := d
      kernel := ⟨s.setPc (s.pc + 1), 0x80, none⟩ }
    obtain ⟨i, _, _, _, _, found⟩ := enabledSiteAt_of_enabled (w := trapped) enabled
    have moved : setPc (machinePlatform exec budget) s.pc trapped = .ok () { trapped with
        data := store d 128 8 s.pc
        kernel := ⟨s, 0x80, none⟩ } := by
      have written := whenStopped_run (w := { trapped with data := store d 128 8 s.pc }) rfl
        "could not write to user area" (Inferior.pokeUser 128 s.pc)
      rw [setPc_eq]
      refine Eq.trans written ?_
      change EStateM.Result.ok _ ({ trapped with
        data := store d 128 8 s.pc
        kernel := ⟨⟨store (s.setPc (s.pc + 1)).user 128 8 s.pc, s.memory⟩, 0x80, none⟩ } :
          World Inferior) = _
      rw [back]
    rw [waitOnSignal_succ, bind_ok arrival]
    unfold respond
    change (if (w.isAttached && true) = true then _ else _ : Sdb Inferior StopReason) trapped = _
    rw [if_pos (by rw [attached]; rfl), bind_ok (getPc_eq _), if_pos rfl]
    change handleSigtrap _ _ _ ((load d 128 8 : Word) - 1) trapped = _
    rw [pc_eq, add_sub_cancel_right]
    change (enabledSiteAt s.pc >>= _) trapped = _
    rw [bind_ok found]
    exact bind_ok moved _

/-- The machine has not come to a stop. -/
theorem waitOnSignal_running
    (silent : Inferior.waitpid exec budget w.kernel = (none, w.kernel)) (fuel : Nat) :
    waitOnSignal (machinePlatform exec budget) (fuel + 1) w = .error .stillRunning w := by
  have waiting : waitpid (machinePlatform exec budget) w = .error .stillRunning w := by
    rw [waitpid, show (machinePlatform exec budget).waitpid w.kernel = _ from silent]
  rw [waitOnSignal]
  exact bind_error waiting _

end Waiting

end SdbDebugger
