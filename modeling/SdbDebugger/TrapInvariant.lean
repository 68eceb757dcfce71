import SdbDebugger.Library.ActionRuns
import SdbDebugger.KernelLaws
import SdbDebugger.SiteList

/-! Software breakpoints as an overlay: inferior memory is the program's memory
seen through a trap byte at the address of every enabled software site. Enabling
and disabling read, modify and write a whole word of eight bytes, and any of
these calls may fail. -/

namespace SdbDebugger
open EffectRules ByteSpace Overlay KeyedList StoppointCollection

section LowByte

theorem getLsbD_0xff (n : Nat) : (0xff : Word).getLsbD n = decide (n < 8) := by
  change (2 ^ 8 - 1 : Nat).testBit n = _
  rw [Nat.testBit_two_pow_sub_one]

theorem byteOf_replace_low (v : Word) (b : Byte) (i : Nat) (hi : i < 8) :
    byteOf ((v &&& ~~~0xff) ||| b.setWidth 64) i = if i = 0 then b else byteOf v i := by
  apply BitVec.eq_of_getLsbD_eq
  intro j hj
  have inside : 8 * i + j < 64 := by omega
  rw [getLsbD_byteOf, BitVec.getLsbD_or, BitVec.getLsbD_and, BitVec.getLsbD_not, getLsbD_0xff,
    BitVec.getLsbD_setWidth, decide_eq_true hj, decide_eq_true inside]
  by_cases low : i = 0
  · subst low
    simp [hj]
  · have high : ¬ 8 * i + j < 8 := by omega
    have outside : b.getLsbD (8 * i + j) = false := BitVec.getLsbD_of_ge b _ (by omega)
    rw [if_neg low, getLsbD_byteOf, outside]
    simp [high, hj]

/-- The read-modify-write of the two breakpoint operations changes one byte. -/
theorem store_replace_low (m : Memory) (a : VirtAddr) (b : Byte) :
    store m a 8 (((load m a 8 : Word) &&& ~~~0xff) ||| b.setWidth 64) = Function.update m a b := by
  have head : byteOf (((load m a 8 : Word) &&& ~~~0xff) ||| b.setWidth 64) 0 = b := by
    rw [byteOf_replace_low _ _ 0 (by omega), if_pos rfl]
  rw [store, overwrite_head m a (by omega), head]
  intro i positive small
  rw [byteOf_replace_low _ _ i small, if_neg (by omega)]
  exact byteOf_load small

theorem low_byte (m : Memory) (a : VirtAddr) :
    ((load m a 8 : Word) &&& 0xff).setWidth 8 = m a := by
  have first : byteOf (load m a 8) 0 = m a := by
    rw [byteOf_load (by omega)]
    simp
  rw [← first]
  apply BitVec.eq_of_getLsbD_eq
  intro j hj
  rw [BitVec.getLsbD_setWidth, BitVec.getLsbD_and, getLsbD_0xff, getLsbD_byteOf]
  simp [hj]

end LowByte

variable {κ : Type} {P : Platform κ} {mem : κ → Memory} {M : Memory}

/-- The program's memory is `M`; what the inferior holds is `M` under traps. -/
structure TrapInvariant (mem : κ → Memory) (M : Memory) (w : World κ) : Prop where
  distinct : DistinctAddresses w.breakpointSites
  memory : mem w.kernel = patch (trapAddresses w.breakpointSites) BreakpointSite.int3 M
  saved : ∀ site ∈ w.breakpointSites, site.armed = true → site.savedData = M site.address

namespace TrapInvariant

theorem congr {w w' : World κ} (inv : TrapInvariant mem M w)
    (sites : w'.breakpointSites = w.breakpointSites) (memory : mem w'.kernel = mem w.kernel) :
    TrapInvariant mem M w' :=
  ⟨sites ▸ inv.distinct, by rw [memory, sites, inv.memory], sites ▸ inv.saved⟩

theorem fresh {w : World κ} (none : w.breakpointSites = []) :
    TrapInvariant mem (mem w.kernel) w := by
  refine ⟨?_, ?_, ?_⟩
  · rw [none]
    exact DistinctKeys.nil
  · have empty : trapAddresses w.breakpointSites = ∅ := by
      rw [none]
      ext a
      simp [mem_trapAddresses]
    rw [empty, patch_empty]
  · rw [none]
    intro site member
    contradiction

/-- Without traps the inferior holds the program's memory. -/
theorem untrapped {w : World κ} (inv : TrapInvariant mem M w)
    (idle : ∀ site ∈ w.breakpointSites, site.armed = false) : mem w.kernel = M := by
  have empty : trapAddresses w.breakpointSites = ∅ := by
    ext a
    constructor
    · rintro ⟨site, member, armed, _⟩
      rw [idle site member] at armed
      contradiction
    · exact False.elim
  rw [inv.memory, empty, patch_empty]

section Modify

variable {w : World κ} {i : Nat} {site : BreakpointSite} {f : BreakpointSite → BreakpointSite}

theorem saved_modify (inv : TrapInvariant mem M w) (at_i : w.breakpointSites[i]? = some site)
    (new : (f site).armed = true → (f site).savedData = M (f site).address) :
    ∀ q ∈ w.breakpointSites.modify i f, q.armed = true → q.savedData = M q.address := by
  intro q member armed
  rcases mem_modify.1 member with ⟨p, hp, rfl⟩ | ⟨j, _, hq⟩
  · rw [at_i, Option.some.injEq] at hp
    subst hp
    exact new armed
  · exact inv.saved q (List.mem_of_getElem? hq) armed

/-- An idle site stays idle: nothing that matters changes. -/
theorem modify_idle (inv : TrapInvariant mem M w) (at_i : w.breakpointSites[i]? = some site)
    (idle : site.armed = false) (stays : (f site).armed = false)
    (keep : ∀ p, (f p).address = p.address) {w' : World κ}
    (sites : w'.breakpointSites = w.breakpointSites.modify i f)
    (memory : mem w'.kernel = mem w.kernel) : TrapInvariant mem M w' := by
  refine ⟨?_, ?_, ?_⟩
  · rw [sites]
    exact inv.distinct.modify keep
  · rw [memory, sites, trapAddresses_modify_idle inv.distinct at_i idle stays, inv.memory]
  · rw [sites]
    exact inv.saved_modify at_i fun armed => by rw [stays] at armed; contradiction

theorem modify_arm (inv : TrapInvariant mem M w) (at_i : w.breakpointSites[i]? = some site)
    (arms : (f site).armed = true) (keep : ∀ p, (f p).address = p.address)
    (byte : (f site).savedData = M site.address) {w' : World κ}
    (sites : w'.breakpointSites = w.breakpointSites.modify i f)
    (memory : mem w'.kernel =
      Function.update (mem w.kernel) site.address BreakpointSite.int3) :
    TrapInvariant mem M w' := by
  refine ⟨?_, ?_, ?_⟩
  · rw [sites]
    exact inv.distinct.modify keep
  · rw [memory, sites, trapAddresses_modify_armed at_i (keep site) arms, patch_insert, inv.memory]
  · rw [sites]
    exact inv.saved_modify at_i fun _ => by rw [byte, keep]

theorem modify_disarm (inv : TrapInvariant mem M w) (at_i : w.breakpointSites[i]? = some site)
    (disarms : (f site).armed = false) (keep : ∀ p, (f p).address = p.address) {w' : World κ}
    (sites : w'.breakpointSites = w.breakpointSites.modify i f)
    (memory : mem w'.kernel = Function.update (mem w.kernel) site.address (M site.address)) :
    TrapInvariant mem M w' := by
  refine ⟨?_, ?_, ?_⟩
  · rw [sites]
    exact inv.distinct.modify keep
  · rw [memory, sites, trapAddresses_modify_disarmed inv.distinct at_i disarms,
      patch_diff_singleton, inv.memory]
  · rw [sites]
    exact inv.saved_modify at_i fun armed => by rw [disarms] at armed; contradiction

end Modify

end TrapInvariant

/-! ### The operations on sites -/

section Operations

variable {w : World κ} {i : Nat} {site : BreakpointSite}

theorem wp_install_software (laws : MemoryLaws P.toKernel mem)
    (refused : KeepsRefused P.toKernel mem) (soft : site.isHardware = false) :
    wp (BreakpointSite.install P i site)
      (fun _ t =>
        t.breakpointSites = w.breakpointSites.modify i
          (fun s => { s with savedData := mem w.kernel site.address }) ∧
        mem t.kernel = Function.update (mem w.kernel) site.address BreakpointSite.int3)
      (fun _ t =>
        (t.breakpointSites = w.breakpointSites ∨
          ∃ b, t.breakpointSites = w.breakpointSites.modify i (fun s => { s with savedData := b })) ∧
        mem t.kernel = mem w.kernel) w := by
  unfold BreakpointSite.install
  rw [soft, if_neg Bool.false_ne_true]
  simp only [wp_bind, wp_orSendErrno, modifySite, wp_modify]
  refine ⟨fun v k peek => ?_, fun e k peek => ?_⟩
  · have value := laws.peekData_value _ _ _ _ peek
    have kept := laws.peekData_mem site.address w.kernel
    rw [peek] at kept
    refine ⟨fun _ k' poke => ⟨?_, ?_⟩, fun e k' poke => ⟨.inr ⟨_, rfl⟩, ?_⟩⟩
    · rw [value, low_byte]
    · rw [laws.pokeData_stored _ _ _ _ _ poke, value, kept, store_replace_low]
    · exact (refused _ _ _ _ _ poke).trans kept
  · have kept := laws.peekData_mem site.address w.kernel
    rw [peek] at kept
    exact ⟨.inl trivial, kept⟩

theorem wp_uninstall_software (laws : MemoryLaws P.toKernel mem)
    (refused : KeepsRefused P.toKernel mem) (soft : site.isHardware = false) :
    wp (BreakpointSite.uninstall P i site)
      (fun _ t =>
        t.breakpointSites = w.breakpointSites ∧
        mem t.kernel = Function.update (mem w.kernel) site.address site.savedData)
      (fun _ t => t.breakpointSites = w.breakpointSites ∧ mem t.kernel = mem w.kernel) w := by
  unfold BreakpointSite.uninstall
  rw [soft, if_neg Bool.false_ne_true]
  simp only [wp_bind, wp_orSendErrno]
  refine ⟨fun v k peek => ?_, fun e k peek => ?_⟩
  · have value := laws.peekData_value _ _ _ _ peek
    have kept := laws.peekData_mem site.address w.kernel
    rw [peek] at kept
    refine ⟨fun _ k' poke => ⟨trivial, ?_⟩, fun e k' poke => ⟨trivial, ?_⟩⟩
    · rw [laws.pokeData_stored _ _ _ _ _ poke, value, kept, store_replace_low]
    · exact (refused _ _ _ _ _ poke).trans kept
  · have kept := laws.peekData_mem site.address w.kernel
    rw [peek] at kept
    exact ⟨trivial, kept⟩

/-- The memory and the sites of a world, which debug-register traffic leaves alone. -/
theorem blind_sites (laws : MemoryLaws P.toKernel mem) (sites : List BreakpointSite) (m : Memory) :
    RegisterBlind P fun w : World κ => w.breakpointSites = sites ∧ mem w.kernel = m where
  data _ _ h := h
  pokeUser w off v h := ⟨h.1, (laws.pokeUser_mem off v w.kernel).trans h.2⟩
  setFpRegs w fprs h := ⟨h.1, (laws.setFpRegs_mem fprs w.kernel).trans h.2⟩

theorem TrapInvariant.preserves_enable (laws : MemoryLaws P.toKernel mem)
    (refused : KeepsRefused P.toKernel mem) (i : Nat) :
    Preserves (TrapInvariant mem M) (BreakpointSite.enable P i) := by
  intro w inv
  unfold BreakpointSite.enable siteAt
  simp only [wp_bind, wp_get, wp_liftFault]
  refine ⟨fun site found => ?_, fun _ _ => inv⟩
  rw [deref_eq_ok] at found
  rw [wp_ite]
  split
  · exact inv
  · next off =>
    have idle : site.armed = false := by simp [BreakpointSite.armed, off]
    rw [wp_bind]
    by_cases hard : site.isHardware = true
    · unfold BreakpointSite.install
      rw [if_pos hard, wp_bind]
      have blind := blind_sites (P := P) laws w.breakpointSites (mem w.kernel)
      refine (preserves_setHardwareStoppoint P blind _ _ _ w ⟨rfl, rfl⟩).mono
        (fun index t kept => ?_) (fun e t kept => inv.congr kept.1 kept.2)
      refine inv.modify_idle (f := fun s => { s with hardwareRegisterIndex := index, isEnabled := true })
        found idle (by simp [BreakpointSite.armed, hard]) (fun _ => rfl) ?_ kept.2
      simp [kept.1, List.modify_modify_eq, Function.comp_def]
    · have soft : site.isHardware = false := by simpa using hard
      have clean : mem w.kernel site.address = M site.address := by
        rw [inv.memory, patch_of_not_mem (address_not_trapped inv.distinct found idle)]
      refine (wp_install_software laws refused soft).mono (fun _ t done => ?_) (fun e t failed => ?_)
      · rw [modifySite, wp_modify]
        refine inv.modify_arm
          (f := fun s => { s with savedData := mem w.kernel site.address, isEnabled := true })
          found (by simp [BreakpointSite.armed, soft]) (fun _ => rfl) clean ?_ done.2
        simp [done.1, List.modify_modify_eq, Function.comp_def]
      · have memory := failed.2
        rcases failed.1 with sites | ⟨b, sites⟩
        · exact inv.congr sites memory
        · exact inv.modify_idle (f := fun s => { s with savedData := b }) found idle
            (by simp [BreakpointSite.armed, off]) (fun _ => rfl) sites memory

/-- A `disable` that returns leaves the site idle. -/
theorem TrapInvariant.wp_disable (laws : MemoryLaws P.toKernel mem)
    (refused : KeepsRefused P.toKernel mem) (i : Nat) (inv : TrapInvariant mem M w) :
    wp (BreakpointSite.disable P i)
      (fun _ t => TrapInvariant mem M t ∧
        ∃ site, t.breakpointSites[i]? = some site ∧ site.isEnabled = false)
      (fun _ t => TrapInvariant mem M t) w := by
  unfold BreakpointSite.disable siteAt
  simp only [wp_bind, wp_get, wp_liftFault]
  refine ⟨fun site found => ?_, fun _ _ => inv⟩
  rw [deref_eq_ok] at found
  rw [wp_ite]
  split
  · next off => exact ⟨inv, site, found, by simpa using off⟩
  · next on =>
    have enabled : site.isEnabled = true := by simpa using on
    rw [wp_bind]
    by_cases hard : site.isHardware = true
    · unfold BreakpointSite.uninstall
      rw [if_pos hard, wp_bind]
      have idle : site.armed = false := by simp [BreakpointSite.armed, hard]
      have blind := blind_sites (P := P) laws w.breakpointSites (mem w.kernel)
      refine (preserves_clearHardwareStoppoint P blind _ w ⟨rfl, rfl⟩).mono
        (fun _ t kept => ?_) (fun e t kept => inv.congr kept.1 kept.2)
      refine ⟨inv.modify_idle
        (f := fun s => { s with hardwareRegisterIndex := -1, isEnabled := false })
        found idle (by simp [BreakpointSite.armed]) (fun _ => rfl) ?_ kept.2, ?_⟩
      · simp [kept.1, List.modify_modify_eq, Function.comp_def]
      · exact ⟨{ site with hardwareRegisterIndex := -1, isEnabled := false },
          by simp [kept.1, found], rfl⟩
    · have soft : site.isHardware = false := by simpa using hard
      have armed : site.armed = true := by simp [BreakpointSite.armed, enabled, soft]
      have byte := inv.saved site (List.mem_of_getElem? found) armed
      refine (wp_uninstall_software laws refused soft).mono (fun _ t done => ?_)
        (fun e t kept => inv.congr kept.1 kept.2)
      rw [modifySite, wp_modify]
      refine ⟨inv.modify_disarm (f := fun s => { s with isEnabled := false }) found
        (by simp [BreakpointSite.armed]) (fun _ => rfl) ?_ (by rw [done.2, byte]), ?_⟩
      · rw [done.1]
      · exact ⟨{ site with isEnabled := false }, by simp [done.1, found], rfl⟩

theorem TrapInvariant.preserves_disable (laws : MemoryLaws P.toKernel mem)
    (refused : KeepsRefused P.toKernel mem) (i : Nat) :
    Preserves (TrapInvariant mem M) (BreakpointSite.disable P i) :=
  fun _ inv => (inv.wp_disable laws refused i).mono (fun _ _ h => h.1) (fun _ _ h => h)

theorem TrapInvariant.eraseIdx (inv : TrapInvariant mem M w)
    (at_i : w.breakpointSites[i]? = some site) (off : site.isEnabled = false) :
    TrapInvariant mem M { w with breakpointSites := w.breakpointSites.eraseIdx i } := by
  have idle : site.armed = false := by simp [BreakpointSite.armed, off]
  refine ⟨inv.distinct.eraseIdx i, ?_, fun q member armed => ?_⟩
  · change mem w.kernel = _
    rw [trapAddresses_eraseIdx inv.distinct at_i,
      Set.sdiff_singleton_eq_self (address_not_trapped inv.distinct at_i idle), inv.memory]
  · exact inv.saved q (List.mem_of_mem_eraseIdx member) armed

theorem TrapInvariant.preserves_removeSite (laws : MemoryLaws P.toKernel mem)
    (refused : KeepsRefused P.toKernel mem) (found : Option Nat) :
    Preserves (TrapInvariant mem M) (removeSite P found) := by
  refine (preserves_liftFault _).bind fun i => ?_
  intro w inv
  rw [wp_bind]
  refine (inv.wp_disable laws refused i).mono (fun _ t done => ?_) (fun _ _ h => h)
  obtain ⟨kept, site, at_i, off⟩ := done
  exact kept.eraseIdx at_i off

theorem TrapInvariant.preserves_createBreakpointSite (address : VirtAddr)
    (hardware internal : Bool) :
    Preserves (TrapInvariant mem M) (createBreakpointSite address hardware internal : Sdb κ Nat) := by
  intro w inv
  unfold createBreakpointSite
  rw [wp_bind, wp_get, wp_ite]
  split
  · exact inv
  · next absent =>
    have named := preserves_newSiteId internal
      (I := fun t => TrapInvariant mem M t ∧ t.breakpointSites = w.breakpointSites)
      fun t id h => ⟨h.1.congr rfl rfl, h.2⟩
    rw [wp_bind]
    refine (named w ⟨inv, rfl⟩).mono (fun id t made => ?_) (fun _ _ h => h.1)
    have kept := made.1
    have sites := made.2
    simp only [wp_bind, wp_modify, wp_pure]
    refine ⟨kept.distinct.append_singleton ?_, ?_, ?_⟩
    · intro q member same
      refine absent (containsAddress_iff.2 ⟨q, sites ▸ member, same⟩)
    · rw [trapAddresses_append_idle rfl]
      exact kept.memory
    · intro q member armed
      rcases List.mem_append.1 member with old | new
      · exact kept.saved q old armed
      · rw [List.mem_singleton.1 new] at armed
        contradiction

end Operations

end SdbDebugger
