import SdbDebugger.MachineStops
import Mathlib.Algebra.Group.Basic
import Mathlib.Algebra.Group.Nat.Defs

/-! Breakpoints do not show: whatever is stepped over, hit and rewound, the stops of a
debugged machine are states of its native execution. -/

namespace SdbDebugger
open EffectRules ActionRuns ByteSpace Overlay FirstHit StoppointCollection

variable {exec : Core → Core} (budget : Nat) {start : Core} {sites : List BreakpointSite}

inductive Command where
  | cont
  | step
  deriving DecidableEq, Repr

/-- `continue` and `step` as the command line runs them. -/
def Command.perform {κ : Type} (P : Platform κ) (fuel : Nat) : Command → Sdb κ StopReason
  | .cont => do
    resume P
    waitOnSignal P fuel
  | .step => stepInstruction P fuel

theorem Command.perform_cont {κ : Type} (P : Platform κ) (fuel : Nat) :
    Command.perform P fuel .cont = (resume P >>= fun _ => waitOnSignal P fuel) := rfl

/-- Where a command issued at step `k` has to stop. -/
def Stops (exec : Core → Core) (start : Core) (sites : List BreakpointSite) :
    Command → Nat → Nat → Prop
  | .step, k, k' => k' = k + 1
  | .cont, k, k' => k < k' ∧ Visits exec start sites k' ∧
      ∀ j, k < j → j < k' → ¬ Visits exec start sites j

section Commands

variable {k : Nat} {w : World Inferior}

theorem AtStep.getPc (here : AtStep exec start sites k w) :
    getPc w = .ok (native exec start k).pc w := by
  have cached : ∀ off ∈ cachedOffsets, w.data off = (native exec start k).user off := by
    intro off member
    rw [here.cached off member, Inferior.user, here.core]
    rfl
  rw [getPc_eq, load_cached cached (by decide)]
  rfl

variable (d : Debuggee exec start sites)
include d

/-- A single step under traps that are elsewhere. -/
theorem step_paused {listed : List BreakpointSite} {traps : Set VirtAddr}
    (paused : Paused exec start listed traps k w) (fewer : traps ⊆ trapAddresses sites)
    (elsewhere : (native exec start k).pc ∉ traps) (fuel : Nat) :
    ∃ u r t, orSendErrno "could not single step"
        ((machinePlatform exec budget).resume .singleStep) w = .ok () u ∧
      waitOnSignal (machinePlatform exec budget) (fuel + 1) u = .ok r t ∧
      Paused exec start listed traps (k + 1) t ∧ Agree Inferior.user cachedOffsets t := by
  let requested : Inferior := (Inferior.resume .singleStep w.kernel).2
  have reported : Inferior.waitpid exec budget requested =
      Inferior.stopAt ((native exec start (k + 1)).patched traps) 2 :=
    d.waitpid_step budget fewer elsewhere paused.core rfl
  obtain ⟨data, same, returned⟩ := waitOnSignal_step budget (w := { w with kernel := requested })
    paused.attached reported fuel
  refine ⟨_, _, _, whenStopped_run paused.stopped _ _, returned, ?_, same⟩
  exact ⟨paused.attached, paused.listed, rfl, rfl⟩

/-- A step command moves the machine one native step on, past a site if it is on one. -/
theorem stepInstruction_machine (here : AtStep exec start sites k w) (fuel : Nat) :
    ∃ r t, stepInstruction (machinePlatform exec budget) (fuel + 1) w = .ok r t ∧
      AtStep exec start sites (k + 1) t := by
  unfold stepInstruction
  rw [bind_ok here.getPc]
  by_cases visits : Visits exec start sites k
  · obtain ⟨i, site, at_i, at_pc, on, found⟩ := enabledSiteAt_of_enabled (w := w)
      (by rw [here.listed]; exact d.enabled_of_mem visits)
    rw [here.listed] at at_i
    obtain ⟨w₁, disabled, bare⟩ := d.disable_paused budget at_i on here.toPaused
    obtain ⟨w₂, r, w₃, requested, stepped, moved, cached⟩ := step_paused budget d bare
      Set.sdiff_subset (by simp [at_pc]) fuel
    obtain ⟨w₄, enabled, data, back⟩ := d.enable_paused budget at_i on moved
    refine ⟨r, w₄, ?_, back, fun off member => ?_⟩
    · refine (bind_ok found _).trans ((bind_ok disabled _).trans ?_)
      refine (bind_ok requested _).trans ((bind_ok stepped _).trans ?_)
      exact bind_ok enabled _
    · rw [data, cached off member, Inferior.user, Inferior.user, moved.core, back.core]
      rfl
  · have found : enabledSiteAt (native exec start k).pc w = .ok none w :=
      enabledSiteAt_of_disabled (by rw [here.listed]; exact d.not_enabled_of_not_mem visits)
    obtain ⟨w₁, r, w₂, requested, stepped, moved, cached⟩ := step_paused budget d
      here.toPaused (Set.Subset.refl _) visits fuel
    refine ⟨r, w₂, ?_, moved, cached⟩
    refine (bind_ok found _).trans ?_
    refine (bind_ok requested _).trans ((bind_ok stepped _).trans ?_)
    rfl

/-- Stepping over a site is one native step. -/
theorem stepOver_machine {i : Nat} {site : BreakpointSite} (at_i : sites[i]? = some site)
    (on : site.isEnabled = true) (at_pc : site.address = (native exec start k).pc)
    (paused : Paused exec start sites (trapAddresses sites) k w) :
    ∃ t, stepOver (machinePlatform exec budget) i w = .ok () t ∧
      Paused exec start sites (trapAddresses sites) (k + 1) t := by
  obtain ⟨w₁, disabled, bare⟩ := d.disable_paused budget at_i on paused
  let requested : Inferior := (Inferior.resume .singleStep w₁.kernel).2
  let w₂ : World Inferior := { w₁ with
    kernel :=
      ⟨(native exec start (k + 1)).patched (trapAddresses sites \ {site.address}), 2, none⟩ }
  have reported : Inferior.waitpid exec budget requested =
      Inferior.stopAt ((native exec start (k + 1)).patched
        (trapAddresses sites \ {site.address})) 2 :=
    d.waitpid_step budget Set.sdiff_subset (by simp [at_pc]) bare.core rfl
  have waited : waitpid (machinePlatform exec budget) { w₁ with kernel := requested } =
      .ok (.stopped sigtrap) w₂ := by
    rw [waitpid, show (machinePlatform exec budget).waitpid requested = _ from reported]
    rfl
  obtain ⟨w₃, enabled, _, back⟩ := d.enable_paused budget (w := w₂) at_i on
    ⟨bare.attached, bare.listed, rfl, rfl⟩
  refine ⟨w₃, ?_, back⟩
  unfold stepOver
  rw [bind_ok disabled]
  refine (bind_ok (whenStopped_run bare.stopped _ _) _).trans ?_
  exact (bind_ok waited _).trans enabled

omit d in
/-- Whatever system calls are caught, the machine is let go. -/
theorem Paused.release (paused : Paused exec start sites (trapAddresses sites) k w) :
    ∃ t, (do
        let w ← get
        orSendErrno "could not resume"
          ((machinePlatform exec budget).resume (resumeRequest w.syscallCatchPolicy))
        modify fun w => { w with state := .running } : Sdb Inferior Unit) w = .ok () t ∧
      Running exec start sites k t := by
  have requested := whenStopped_run paused.stopped "could not resume"
    (Inferior.resume (resumeRequest w.syscallCatchPolicy))
  refine ⟨_, (bind_ok requested _).trans rfl, paused.attached, paused.listed, ⟨_, rfl, ?_⟩,
    paused.core⟩
  rw [resumeRequest]
  split
  · simp
  · simp

open Classical in
/-- The step from which the machine runs once `resume` is past the site it may be on. -/
noncomputable def leaves (exec : Core → Core) (start : Core) (sites : List BreakpointSite)
    (k : Nat) : Nat :=
  if Visits exec start sites k then k + 1 else k

theorem resume_machine (here : AtStep exec start sites k w) :
    ∃ t, resume (machinePlatform exec budget) w = .ok () t ∧
      Running exec start sites (leaves exec start sites k) t := by
  unfold resume
  rw [bind_ok here.getPc]
  by_cases visits : Visits exec start sites k
  · obtain ⟨i, site, at_i, at_pc, on, found⟩ := enabledSiteAt_of_enabled (w := w)
      (by rw [here.listed]; exact d.enabled_of_mem visits)
    rw [here.listed] at at_i
    obtain ⟨w₁, passed, past⟩ := stepOver_machine budget d at_i on at_pc here.toPaused
    obtain ⟨t, released, running⟩ := past.release budget
    rw [bind_ok found, leaves, if_pos visits]
    exact ⟨t, (bind_ok passed _).trans released, running⟩
  · have found : enabledSiteAt (native exec start k).pc w = .ok none w :=
      enabledSiteAt_of_disabled (by rw [here.listed]; exact d.not_enabled_of_not_mem visits)
    obtain ⟨t, released, running⟩ := here.release budget
    rw [bind_ok found, leaves, if_neg visits]
    exact ⟨t, released, running⟩

omit d in
/-- A site is met from there on when it is met after step `k`. -/
theorem leaves_le_iff {j : Nat} (visit : Visits exec start sites j) :
    leaves exec start sites k ≤ j ↔ k < j := by
  unfold leaves
  split
  · exact Nat.succ_le_iff
  · next elsewhere =>
    have other : k ≠ j := by
      intro same
      exact elsewhere (same ▸ visit)
    omega

open Classical in
omit d in
/-- The search from there finds the first site after step `k`. -/
theorem runUntil_leaves {k' : Nat} :
    runUntil (· + 1) (fun k => decide (Visits exec start sites k)) budget
        (leaves exec start sites k) = some k' ↔
      Stops exec start sites .cont k k' ∧ k' < leaves exec start sites k + budget := by
  rw [runUntil_eq_some]
  simp only [Hits, add_right_iterate_apply, Nat.nsmul_eq_mul, mul_one, decide_eq_true_eq,
    decide_eq_false_iff_not]
  constructor
  · intro h
    obtain ⟨n, less, ⟨hit, earlier⟩, rfl⟩ := h
    refine ⟨⟨(leaves_le_iff hit).1 (by omega), hit, fun j after before visit => ?_⟩, by omega⟩
    have from_there := (leaves_le_iff visit).2 after
    refine earlier (j - leaves exec start sites k) (by omega) ?_
    rwa [Nat.add_sub_cancel' from_there]
  · intro h
    obtain ⟨⟨after, hit, between⟩, less⟩ := h
    have from_there := (leaves_le_iff hit).2 after
    refine ⟨k' - leaves exec start sites k, by omega, ⟨?_, fun m less visit => ?_⟩, by omega⟩
    · rwa [Nat.add_sub_cancel' from_there]
    · exact between _ ((leaves_le_iff visit).1 (by omega)) (by omega) visit

/-- A continue command stops at the next site, if there is one that the machine reaches. -/
theorem continue_machine (here : AtStep exec start sites k w) (fuel : Nat) :
    (∃ k' r t, Command.perform (machinePlatform exec budget) (fuel + 1) .cont w = .ok r t ∧
      Stops exec start sites .cont k k' ∧ AtStep exec start sites k' t) ∨
    (∃ e t, Command.perform (machinePlatform exec budget) (fuel + 1) .cont w = .error e t) ∧
      ∀ k', Stops exec start sites .cont k k' → leaves exec start sites k + budget ≤ k' := by
  classical
  obtain ⟨u, resumed, running⟩ := resume_machine budget d here
  obtain ⟨request, requested, free⟩ := running.running
  have reported := d.waitpid_run budget running.core requested free
  rw [Command.perform_cont, bind_ok resumed]
  cases search : runUntil (· + 1) (fun k => decide (Visits exec start sites k)) budget
      (leaves exec start sites k) with
  | some k' =>
    rw [search] at reported
    obtain ⟨stops, _⟩ := (runUntil_leaves budget).1 search
    have enabled : enabledStoppointAtAddress u.breakpointSites
        ((native exec start k').patched (trapAddresses sites)).pc = .ok true := by
      rw [running.listed]
      exact d.enabled_of_mem stops.2.1
    obtain ⟨data, same, returned⟩ := waitOnSignal_trap budget running.attached enabled reported fuel
    exact .inl ⟨k', _, _, returned, stops, ⟨running.attached, running.listed, rfl, rfl⟩, same⟩
  | none =>
    rw [search] at reported
    refine .inr ⟨⟨.stillRunning, u, ?_⟩, fun k' stops => ?_⟩
    · exact waitOnSignal_running budget reported fuel
    · rw [← Nat.not_lt]
      intro within
      rw [(runUntil_leaves budget).2 ⟨stops, within⟩] at search
      simp at search

/-- Every command that returns does so at the stop it has to make. -/
theorem perform_machine (here : AtStep exec start sites k w) (c : Command) {fuel : Nat}
    {r : StopReason} {t : World Inferior}
    (returned : c.perform (machinePlatform exec budget) (fuel + 1) w = .ok r t) :
    ∃ k', Stops exec start sites c k k' ∧ AtStep exec start sites k' t := by
  cases c with
  | step =>
    obtain ⟨_, _, run, moved⟩ := stepInstruction_machine budget d here fuel
    cases run.symm.trans returned
    exact ⟨k + 1, rfl, moved⟩
  | cont =>
    rcases continue_machine budget d here fuel with
      ⟨k', _, _, run, stops, moved⟩ | ⟨⟨_, _, run⟩, _⟩
    · cases run.symm.trans returned
      exact ⟨k', stops, moved⟩
    · cases run.symm.trans returned

/-- A command returns if the machine is given the time for the native steps it takes. -/
theorem perform_machine_returns (here : AtStep exec start sites k w) (c : Command) (fuel : Nat)
    {k' : Nat} (stops : Stops exec start sites c k k') (time : k' < k + budget) :
    ∃ r t, c.perform (machinePlatform exec budget) (fuel + 1) w = .ok r t := by
  cases c with
  | step =>
    obtain ⟨r, t, run, _⟩ := stepInstruction_machine budget d here fuel
    exact ⟨r, t, run⟩
  | cont =>
    rcases continue_machine budget d here fuel with
      ⟨_, r, t, run, _⟩ | ⟨_, late⟩
    · exact ⟨r, t, run⟩
    · have after : k ≤ leaves exec start sites k := by
        unfold leaves
        split
        · omega
        · omega
      have := late k' stops
      omega

end Commands

/-! ### Sessions -/

/-- A command of a session; a session ends where a command does not return. -/
def commandStep (P : Platform κ) (fuel : Nat) (c : Command) : World κ → Option (World κ) :=
  survive (fun _ => true) (c.perform P fuel)

/-- Where a sequence of commands has to stop. -/
def StopsAfter (exec : Core → Core) (start : Core) (sites : List BreakpointSite) :
    List Command → Nat → Nat → Prop
  | [], k, k' => k' = k
  | c :: cs, k, k' => ∃ j, Stops exec start sites c k j ∧ StopsAfter exec start sites cs j k'

/-- Memory with each trap byte replaced by the byte its site saved. -/
def restored (sites : List BreakpointSite) (memory : Memory) : Memory := fun a =>
  match sites.find? fun site => site.armed && site.address == a with
  | some site => site.savedData
  | none => memory a

/-- What a user sees of a stop at step `k`. -/
structure Shows (exec : Core → Core) (start : Core) (sites : List BreakpointSite) (k : Nat)
    (w : World Inferior) : Prop where
  pc : getPc w = .ok (native exec start k).pc w
  user : w.kernel.core.user = (native exec start k).user
  cached : ∀ off ∈ cachedOffsets, w.data off = (native exec start k).user off
  memory : restored w.breakpointSites w.kernel.core.memory = (native exec start k).memory
  sites : w.breakpointSites = sites

section Sessions

variable (d : Debuggee exec start sites)
include d

theorem Debuggee.restored_patched (k : Nat) :
    restored sites ((native exec start k).patched (trapAddresses sites)).memory =
      (native exec start k).memory := by
  funext a
  unfold restored
  split
  · next site found =>
    have marked := List.find?_some found
    simp only [Bool.and_eq_true, beq_iff_eq] at marked
    obtain ⟨armed, here⟩ := marked
    have member := List.mem_of_find?_eq_some found
    rw [d.saved site member armed, here, d.memory_at ⟨site, member, armed, here⟩ k]
  · next absent =>
    refine patch_of_not_mem fun trapped => ?_
    obtain ⟨site, member, armed, here⟩ := trapped
    have clear := List.find?_eq_none.1 absent site member
    simp [armed, here] at clear

theorem AtStep.shows {k : Nat} {w : World Inferior} (here : AtStep exec start sites k w) :
    Shows exec start sites k w where
  pc := here.getPc
  user := by
    rw [here.core]
    rfl
  cached off member := by
    rw [here.cached off member, Inferior.user, here.core]
    rfl
  memory := by
    rw [here.listed, here.core, d.restored_patched]
  sites := here.listed

/-- The simulation along a session. -/
theorem session_machine {cs : List Command} {k fuel : Nat} {w t : World Inferior}
    (here : AtStep exec start sites k w)
    (reach : run (commandStep (machinePlatform exec budget) (fuel + 1)) cs w = some t) :
    ∃ k', StopsAfter exec start sites cs k k' ∧ AtStep exec start sites k' t := by
  induction cs generalizing k w with
  | nil =>
    cases reach
    exact ⟨k, rfl, here⟩
  | cons c cs ih =>
    rw [run_cons, Option.bind_eq_some_iff] at reach
    obtain ⟨u, first, rest⟩ := reach
    rcases survive_eq_some.1 first with ⟨r, returned⟩ | ⟨_, mild, _⟩
    · obtain ⟨j, stops, moved⟩ := perform_machine budget d here c returned
      obtain ⟨k', after, arrived⟩ := ih moved rest
      exact ⟨k', ⟨j, stops, after⟩, arrived⟩
    · simp at mild

omit d in
theorem stops_lt {c : Command} {k k' : Nat} (stops : Stops exec start sites c k k') : k < k' := by
  cases c with
  | step => exact Nat.lt_of_succ_le (Nat.le_of_eq stops.symm)
  | cont => exact stops.1

omit d in
/-- A command has one stop to make. -/
theorem stops_unique {c : Command} {k j j' : Nat} (one : Stops exec start sites c k j)
    (other : Stops exec start sites c k j') : j = j' := by
  cases c with
  | step => exact one.trans other.symm
  | cont =>
    obtain ⟨after, hit, between⟩ := one
    obtain ⟨after', hit', between'⟩ := other
    have := between' j after
    have := between j' after'
    grind

omit d in
theorem stopsAfter_le {cs : List Command} {k k' : Nat}
    (stops : StopsAfter exec start sites cs k k') : k ≤ k' := by
  induction cs generalizing k with
  | nil => exact Nat.le_of_eq stops.symm
  | cons c cs ih =>
    obtain ⟨j, first, rest⟩ := stops
    exact (stops_lt first).le.trans (ih rest)

/-- Given the time, every command of the session returns. -/
theorem session_machine_returns {cs : List Command} {k k' : Nat} (fuel : Nat)
    {w : World Inferior} (here : AtStep exec start sites k w)
    (stops : StopsAfter exec start sites cs k k') (time : k' < k + budget) :
    ∃ t, run (commandStep (machinePlatform exec budget) (fuel + 1)) cs w = some t := by
  induction cs generalizing k w with
  | nil => exact ⟨w, rfl⟩
  | cons c cs ih =>
    obtain ⟨j, first, rest⟩ := stops
    have forward := stops_lt first
    have onward := stopsAfter_le rest
    obtain ⟨r, u, returned⟩ := perform_machine_returns budget d here c fuel first
      (by omega)
    obtain ⟨j', first', moved⟩ := perform_machine budget d here c returned
    cases stops_unique first first'
    obtain ⟨t, reach⟩ := ih moved rest (by omega)
    refine ⟨t, ?_⟩
    rw [run_cons, show commandStep (machinePlatform exec budget) (fuel + 1) c w = some u from
      survive_eq_some.2 (.inl ⟨r, returned⟩)]
    exact reach

end Sessions

/-- A stopped process that is at the start of a native run, with software sites set by
the debugger over memory that is the program's. -/
structure Prepared (exec : Core → Core) (start : Core) (w : World Inferior) : Prop where
  attached : w.isAttached = true
  stopped : w.kernel.request = none
  user : w.kernel.core.user = start.user
  cached : Agree Inferior.user cachedOffsets w
  traps : TrapInvariant (fun k => k.core.memory) start.memory w
  software : ∀ site ∈ w.breakpointSites, site.isEnabled = true → site.isHardware = false
  unaware : ∀ k, Unaware exec (trapAddresses w.breakpointSites) (native exec start k)

namespace Prepared

variable {w : World Inferior} (ready : Prepared exec start w)
include ready

theorem debuggee : Debuggee exec start w.breakpointSites :=
  ⟨ready.traps.distinct, ready.software, ready.traps.saved, ready.unaware⟩

theorem atStep : AtStep exec start w.breakpointSites 0 w := by
  refine ⟨⟨ready.attached, rfl, ready.stopped, ?_⟩, ready.cached⟩
  rw [Core.patched, native, Function.iterate_zero, id, ← ready.user, ← ready.traps.memory]

end Prepared

/-- Every session of `continue` and `step` commands shows states of the native run: a step
goes to the next one, and a continue to the first later one at an enabled site. Sites stay
as they are, and a command returns when the machine gets that far. -/
theorem session_shows_native {w : World Inferior} (ready : Prepared exec start w)
    (cs : List Command) (fuel : Nat) :
    (∀ t, run (commandStep (machinePlatform exec budget) (fuel + 1)) cs w = some t →
      ∃ k, StopsAfter exec start w.breakpointSites cs 0 k ∧
        Shows exec start w.breakpointSites k t) ∧
    ∀ k, StopsAfter exec start w.breakpointSites cs 0 k → k < budget →
      ∃ t, run (commandStep (machinePlatform exec budget) (fuel + 1)) cs w = some t := by
  refine ⟨fun t reach => ?_, fun k stops time => ?_⟩
  · obtain ⟨k, stops, arrived⟩ := session_machine budget ready.debuggee ready.atStep reach
    exact ⟨k, stops, arrived.shows ready.debuggee⟩
  · exact session_machine_returns budget ready.debuggee fuel ready.atStep stops (by omega)

/-- A program of one-byte instructions, the one at 0x1003 a jump to itself. -/
def spin (s : Core) : Core := s.setPc (if s.pc = 0x1003 then 0x1003 else s.pc + 1)

def spinStart : Core := ⟨store (fun _ => 0) 128 8 (0x1001 : Word), fun _ => 0x90⟩

/-- Adjacent sites, the first one where the program starts and the last one on the jump. -/
def spinSites : List BreakpointSite :=
  [⟨1, 0x1001, true, false, false, -1, 0x90⟩, ⟨2, 0x1002, true, false, false, -1, 0x90⟩,
    ⟨3, 0x1003, true, false, false, -1, 0x90⟩]

def spinWorld : World Inferior where
  isAttached := true
  syscallCatchPolicy := .catchNone
  expectingSyscallExit := false
  state := .stopped
  data := spinStart.user
  breakpointSites := spinSites
  watchpoints := []
  breakpointSiteId := 3
  watchpointId := 0
  kernel := ⟨⟨spinStart.user, fun a => if a ∈ spinSites.map (·.address) then 0xcc else 0x90⟩, 0, none⟩

theorem spin_memory (k : Nat) : (native spin spinStart k).memory = spinStart.memory := by
  induction k with
  | zero => rfl
  | succ k ih => rw [native_succ, ← ih, spin, Core.setPc]

theorem spin_unaware {traps : Set VirtAddr} (k : Nat) :
    Unaware spin traps (native spin spinStart k) := by
  refine ⟨?_, fun memory same => ⟨rfl, fun a outside => same a (.inl outside), fun _ _ => rfl⟩⟩
  rw [Core.atTrap, spin_memory]
  rfl

theorem mem_spinSites {a : VirtAddr} :
    a ∈ trapAddresses spinSites ↔ a ∈ spinSites.map (·.address) := by
  have armed : ∀ site ∈ spinSites, site.armed = true := by decide
  rw [mem_trapAddresses, List.mem_map]
  constructor
  · rintro ⟨site, member, _, here⟩
    exact ⟨site, member, here⟩
  · rintro ⟨site, member, here⟩
    exact ⟨site, member, armed site member, here⟩

theorem spin_prepared : Prepared spin spinStart spinWorld := by
  have saved : ∀ site ∈ spinSites, site.isHardware = false ∧ site.savedData = 0x90 := by decide
  refine ⟨rfl, rfl, rfl, fun _ _ => rfl, ⟨?_, ?_, ?_⟩, ?_, spin_unaware⟩
  · change (spinSites.map _).Nodup
    decide
  · funext a
    change (if a ∈ spinSites.map (·.address) then 0xcc else spinStart.memory a) =
      patch (trapAddresses spinSites) _ _ a
    split
    · next trapped => exact (patch_of_mem (mem_spinSites.2 trapped)).symm
    · next clear => exact (patch_of_not_mem fun h => clear (mem_spinSites.1 h)).symm
  · exact fun site member _ => (saved site member).2
  · exact fun site member _ => (saved site member).1

theorem session_shows_native_spin :
    ∃ t, run (commandStep (machinePlatform spin 10) 1) [.cont, .cont, .step, .cont] spinWorld =
        some t ∧
      ∃ k, StopsAfter spin spinStart spinSites [.cont, .cont, .step, .cont] 0 k ∧
        Shows spin spinStart spinSites k t := by
  have returns : (run (commandStep (machinePlatform spin 10) 1) [.cont, .cont, .step, .cont]
    spinWorld).isSome = true := by decide +kernel
  obtain ⟨t, reach⟩ := Option.isSome_iff_exists.1 returns
  exact ⟨t, reach, (session_shows_native 10 spin_prepared _ 0).1 t reach⟩

end SdbDebugger
