import SdbDebugger.ErrorsOnly

/-! Operations on stoppoints raise nothing but `sdb::error` in the states that a session can
reach: enabled hardware stoppoints have a slot, and watchpoints are of at most eight bytes. -/

namespace SdbDebugger
open EffectRules Exceptions ByteSpace KeyedList StoppointCollection

def SlotIndex (i : Int) : Prop := 0 ≤ i ∧ i < 4

/-- An enabled hardware site has a slot. -/
def BreakpointSite.WellKept (site : BreakpointSite) : Prop :=
  site.isEnabled = true → site.isHardware = true → SlotIndex site.hardwareRegisterIndex

/-- An enabled watchpoint has a slot, and the value of every watchpoint fits a word. -/
structure Watchpoint.WellKept (point : Watchpoint) : Prop where
  slot : point.isEnabled = true → SlotIndex point.hardwareRegisterIndex
  small : point.size.toNat ≤ 8

structure WellKept (sites : List BreakpointSite) (points : List Watchpoint) : Prop where
  sites_kept : ∀ site ∈ sites, site.WellKept
  watchpoints_kept : ∀ point ∈ points, point.WellKept

/-- Well-kept stoppoints in given numbers. -/
structure Held (n m : Nat) (sites : List BreakpointSite) (points : List Watchpoint) : Prop
    extends WellKept sites points where
  sites_length : sites.length = n
  watchpoints_length : points.length = m

/-- The stoppoints of the process are well kept. -/
abbrev Sound {κ : Type} (w : World κ) : Prop := OnStoppoints WellKept w

variable {κ : Type} {P : Platform κ} {n m : Nat}

theorem Sound.held {w : World κ} (sound : Sound w) :
    OnStoppoints (Held w.breakpointSites.length w.watchpoints.length) w := ⟨sound, rfl, rfl⟩

theorem Held.sound {w : World κ} (held : OnStoppoints (Held n m) w) : Sound w := held.toWellKept

section Modify

variable {sites : List BreakpointSite} {points : List Watchpoint} {i : Nat}

theorem Held.modifySite (held : Held n m sites points) {f : BreakpointSite → BreakpointSite}
    (kept : ∀ site, sites[i]? = some site → (f site).WellKept) :
    Held n m (sites.modify i f) points := by
  refine ⟨⟨fun site member => ?_, held.watchpoints_kept⟩, ?_, held.watchpoints_length⟩
  · rcases mem_modify.1 member with ⟨old, at_i, rfl⟩ | ⟨j, _, at_j⟩
    · exact kept old at_i
    · exact held.sites_kept site (List.mem_of_getElem? at_j)
  · rw [List.length_modify, held.sites_length]

theorem Held.modifyWatchpoint (held : Held n m sites points) {f : Watchpoint → Watchpoint}
    (kept : ∀ point, points[i]? = some point → (f point).WellKept) :
    Held n m sites (points.modify i f) := by
  refine ⟨⟨held.sites_kept, fun point member => ?_⟩, held.sites_length, ?_⟩
  · rcases mem_modify.1 member with ⟨old, at_i, rfl⟩ | ⟨j, _, at_j⟩
    · exact kept old at_i
    · exact held.watchpoints_kept point (List.mem_of_getElem? at_j)
  · rw [List.length_modify, held.watchpoints_length]

theorem Held.site_at (held : Held n m sites points) (hi : i < n) :
    ∃ site, sites[i]? = some site ∧ site.WellKept := by
  have inside : i < sites.length := by rw [held.sites_length]; exact hi
  exact ⟨sites[i], List.getElem?_eq_getElem inside, held.sites_kept _ (List.getElem_mem inside)⟩

theorem Held.watchpoint_at (held : Held n m sites points) (hi : i < m) :
    ∃ point, points[i]? = some point ∧ point.WellKept := by
  have inside : i < points.length := by rw [held.watchpoints_length]; exact hi
  exact ⟨points[i], List.getElem?_eq_getElem inside, held.watchpoints_kept _ (List.getElem_mem inside)⟩

end Modify

/-! ### Debug registers -/

section Debug

variable {R : List BreakpointSite → List Watchpoint → Prop}

theorem wholeWord_dr7 : WholeWord RegisterId.dr7.toInt (debugOffset 7) :=
  wholeWord_dr (i := 7) (by omega)

theorem findFree_mild {control : Word} {e : Fault}
    (raised : findFreeStoppointRegister control = .error e) : ¬ Escaping e := by
  unfold findFreeStoppointRegister at raised
  split at raised
  · simp at raised
  · cases raised
    exact Bool.false_ne_true

theorem findFree_lt {control : Word} {i : Nat} (found : findFreeStoppointRegister control = .ok i) :
    i < 4 := by
  unfold findFreeStoppointRegister at found
  split at found
  · next j some_j =>
    cases found
    exact List.mem_range.1 (List.mem_of_find?_eq_some some_j)
  · simp at found

theorem encodeSize_mild {size : BitVec 64} {e : Fault}
    (raised : encodeHardwareStoppointSize size = .error e) : ¬ Escaping e := by
  unfold encodeHardwareStoppointSize at raised
  split_ifs at raised
  cases raised
  exact Bool.false_ne_true

theorem setHardwareStoppoint_mild (address : VirtAddr) (mode : StoppointMode) (size : BitVec 64)
    {w : World κ} (h : OnStoppoints R w) :
    wp (setHardwareStoppoint P address mode size) (fun i t => OnStoppoints R t ∧ SlotIndex i)
      (fun e t => ¬ Escaping e ∧ OnStoppoints R t) w := by
  unfold setHardwareStoppoint
  rw [wp_bind, wp_of_ok (Registers.readByIdAsU64_eq wholeWord_dr7 w), wp_bind,
    wp_liftFault]
  refine ⟨fun i found => ?_, fun e raised => ⟨findFree_mild raised, h⟩⟩
  have slot := findFree_lt found
  rw [wp_bind]
  refine (tame_writeWord (wholeWord_dr (by omega)) address w h).mono (fun _ t kept => ?_)
    fun _ _ failed => failed
  rw [wp_bind, wp_liftFault]
  refine ⟨fun flag _ => ?_, fun e raised => ⟨encodeSize_mild raised, kept⟩⟩
  rw [wp_bind]
  refine (tame_writeWord wholeWord_dr7 _ t kept).mono (fun _ u kept => ?_)
    fun _ _ failed => failed
  exact ⟨kept, by unfold SlotIndex; omega⟩

theorem tame_clearHardwareStoppoint {i : Int} (slot : SlotIndex i) :
    Tame Escaping (OnStoppoints R) (clearHardwareStoppoint P i) := by
  obtain ⟨j, rfl⟩ := Int.eq_ofNat_of_zero_le slot.1
  have small : j < 8 := by
    have := slot.2
    omega
  refine (tame_writeInt (wholeWord_dr small) 0).bind fun _ => ?_
  refine (tame_read wholeWord_dr7).bind fun control => ?_
  rw [if_pos slot.1]
  exact tame_writeWord wholeWord_dr7 _

end Debug

/-! ### Enabling and disabling -/

section Sites

variable {i : Nat}

/-- Well-kept stoppoints, with a software site at a position. -/
def SoftwareAt (n m i : Nat) (sites : List BreakpointSite) (points : List Watchpoint) : Prop :=
  Held n m sites points ∧ ∀ s, sites[i]? = some s → s.isHardware = false

/-- After a successful installation the site has a slot if it is a hardware one. -/
theorem install_mild (site : BreakpointSite) {w : World κ} (held : OnStoppoints (Held n m) w)
    (at_i : w.breakpointSites[i]? = some site) :
    wp (BreakpointSite.install P i site)
      (fun _ t => OnStoppoints (Held n m) t ∧ ∀ s, t.breakpointSites[i]? = some s →
        s.isHardware = true → SlotIndex s.hardwareRegisterIndex)
      (fun e t => ¬ Escaping e ∧ OnStoppoints (Held n m) t) w := by
  unfold BreakpointSite.install
  rw [wp_ite]
  split
  · rw [wp_bind]
    refine (setHardwareStoppoint_mild site.address .execute 1 held).mono (fun index t done => ?_)
      fun _ _ failed => failed
    obtain ⟨kept, slot⟩ := done
    refine ⟨Held.modifySite kept fun s _ _ _ => slot, fun s here _ => ?_⟩
    rw [List.getElem?_modify_eq] at here
    obtain ⟨_, _, rfl⟩ := Option.map_eq_some_iff.1 here
    exact slot
  · next soft =>
    have start : OnStoppoints (SoftwareAt n m i) w := by
      refine ⟨held, fun s here => ?_⟩
      rw [at_i, Option.some.injEq] at here
      rw [← here]
      exact Bool.eq_false_iff.2 soft
    have quiet : Tame Escaping (OnStoppoints (SoftwareAt n m i)) (do
        let data ← orSendErrno "enabling breakpoint site failed" (P.peekData site.address)
        modifySite i fun s => { s with savedData := (data &&& 0xff).setWidth 8 }
        orSendErrno "enabling breakpoint site failed"
          (P.pokeData site.address ((data &&& ~~~0xff) ||| BreakpointSite.int3.setWidth 64))) := by
      refine (tame_orSendErrno _ _).bind fun data => Tame.bind (Tame.modify ?_) fun _ =>
        tame_orSendErrno _ _
      intro t kept
      refine ⟨Held.modifySite kept.1 fun s here on hard => ?_, fun s here => ?_⟩
      · simp [kept.2 s here] at hard
      · rw [List.getElem?_modify_eq] at here
        obtain ⟨old, at_old, rfl⟩ := Option.map_eq_some_iff.1 here
        exact kept.2 old at_old
    refine (quiet w start).mono (fun _ t kept => ⟨kept.1, fun s here hard => ?_⟩)
      fun _ _ failed => ⟨failed.1, failed.2.1⟩
    simp [kept.2 s here] at hard

theorem tame_enable (hi : i < n) :
    Tame Escaping (OnStoppoints (Held n m)) (BreakpointSite.enable P i) := by
  intro w held
  obtain ⟨site, at_i, kept⟩ := Held.site_at held hi
  unfold BreakpointSite.enable
  rw [wp_bind, wp_of_ok (siteAt_eq at_i), wp_ite]
  split
  · exact held
  · rw [wp_bind]
    refine (install_mild site held at_i).mono (fun _ t done => ?_) fun _ _ failed => failed
    exact Held.modifySite done.1 fun s here _ hard => done.2 s here hard

theorem tame_disable (hi : i < n) :
    Tame Escaping (OnStoppoints (Held n m)) (BreakpointSite.disable P i) := by
  intro w held
  obtain ⟨site, at_i, kept⟩ := Held.site_at held hi
  unfold BreakpointSite.disable
  rw [wp_bind, wp_of_ok (siteAt_eq at_i), wp_ite]
  split
  · exact held
  · next on =>
    have enabled : site.isEnabled = true := by simpa using on
    have off : ∀ t : World κ, OnStoppoints (Held n m) t → OnStoppoints (Held n m) { t with
        breakpointSites := t.breakpointSites.modify i fun s => { s with isEnabled := false } } :=
      fun t kept => Held.modifySite kept fun s _ on => absurd on Bool.false_ne_true
    rw [wp_bind, BreakpointSite.uninstall, wp_ite]
    split
    · next hard =>
      rw [wp_bind]
      refine (tame_clearHardwareStoppoint (kept enabled hard) w held).mono (fun _ t held => ?_)
        fun _ _ failed => failed
      change OnStoppoints (Held n m) { t with
        breakpointSites := (t.breakpointSites.modify i _).modify i _ }
      rw [List.modify_modify_eq]
      exact Held.modifySite held fun s _ on => absurd on Bool.false_ne_true
    · have quiet := ((tame_orSendErrno (R := Held n m) "disabling breakpoint site failed"
        (P.peekData site.address)).bind fun data => tame_orSendErrno
          "disabling breakpoint site failed" (P.pokeData site.address
            ((data &&& ~~~0xff) ||| site.savedData.setWidth 64))) w held
      exact quiet.mono (fun _ t held => off t held) fun _ _ failed => failed

end Sites

section Watchpoints

variable {i : Nat}

theorem tame_watchpointEnable (hi : i < m) :
    Tame Escaping (OnStoppoints (Held n m)) (Watchpoint.enable P i) := by
  intro w held
  obtain ⟨point, at_i, kept⟩ := Held.watchpoint_at held hi
  unfold Watchpoint.enable
  rw [wp_bind, wp_of_ok (watchpointAt_eq at_i), wp_ite]
  split
  · exact held
  · rw [wp_bind]
    refine (setHardwareStoppoint_mild _ _ _ held).mono (fun index t done => ?_)
      fun _ _ failed => failed
    refine Held.modifyWatchpoint done.1 fun p here => ⟨fun _ => done.2, ?_⟩
    exact (done.1.watchpoints_kept p (List.mem_of_getElem? here)).small

theorem tame_watchpointDisable (hi : i < m) :
    Tame Escaping (OnStoppoints (Held n m)) (Watchpoint.disable P i) := by
  intro w held
  obtain ⟨point, at_i, kept⟩ := Held.watchpoint_at held hi
  unfold Watchpoint.disable
  rw [wp_bind, wp_of_ok (watchpointAt_eq at_i), wp_ite]
  split
  · exact held
  · next on =>
    rw [wp_bind]
    refine (tame_clearHardwareStoppoint (kept.slot (by simpa using on)) w held).mono
      (fun _ t held => ?_) fun _ _ failed => failed
    refine Held.modifyWatchpoint held fun p here => ⟨fun on => absurd on Bool.false_ne_true, ?_⟩
    exact (held.watchpoints_kept p (List.mem_of_getElem? here)).small

end Watchpoints

end SdbDebugger
