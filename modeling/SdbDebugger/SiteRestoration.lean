import SdbDebugger.HandledStops

/-! Which sites are enabled after `resume` and `step_instruction`. Both disable the site at the
pc and enable it again after a call that may raise, with nothing to guard it. -/

namespace SdbDebugger
open EffectRules ActionRuns ByteSpace KeyedList StoppointCollection

variable {κ α : Type} {P : Platform κ}

/-- The positions of the enabled sites; nothing here creates or removes one. -/
def enabledSites (w : World κ) : Set Nat :=
  {i | ∃ site, w.breakpointSites[i]? = some site ∧ site.isEnabled = true}

theorem mem_enabledSites {w : World κ} {i : Nat} :
    i ∈ enabledSites w ↔ ∃ site, w.breakpointSites[i]? = some site ∧ site.isEnabled = true :=
  Iff.rfl

/-- Whether the program returns or raises `sdb::error`, the sites that were enabled still are,
and no others. -/
def KeepsSites (m : Sdb κ α) (w : World κ) : Prop :=
  wp m (fun _ t => enabledSites t = enabledSites w)
    (fun e t => e.isFatal = false → enabledSites t = enabledSites w) w

/-! ### Enabling and disabling one site -/

section Sites

variable {R : Set Nat → Prop} {i : Nat}

theorem enabledSites_modify_same {w : World κ} {f : BreakpointSite → BreakpointSite}
    (kept : ∀ s, (f s).isEnabled = s.isEnabled) :
    enabledSites { w with breakpointSites := w.breakpointSites.modify i f } = enabledSites w := by
  ext j
  simp only [mem_enabledSites, List.getElem?_modify]
  by_cases here : i = j
  · simp [here, kept]
  · simp [here]

theorem enabledSites_modify_off {w : World κ} {f : BreakpointSite → BreakpointSite}
    (off : ∀ s, (f s).isEnabled = false) :
    enabledSites { w with breakpointSites := w.breakpointSites.modify i f } =
      enabledSites w \ {i} := by
  ext j
  simp only [Set.mem_sdiff, Set.mem_singleton_iff, mem_enabledSites, List.getElem?_modify]
  by_cases here : i = j
  · simp [here, off]
  · simp [here, Ne.symm here]

theorem enabledSites_modify_on {w : World κ} {f : BreakpointSite → BreakpointSite}
    {site : BreakpointSite} (at_i : w.breakpointSites[i]? = some site)
    (on : ∀ s, (f s).isEnabled = true) :
    enabledSites { w with breakpointSites := w.breakpointSites.modify i f } =
      insert i (enabledSites w) := by
  ext j
  simp only [Set.mem_insert_iff, mem_enabledSites, List.getElem?_modify]
  by_cases here : i = j
  · subst here
    simp [at_i, on]
  · simp [here, Ne.symm here]

theorem enabledSites_registers : RegisterBlind P fun w : World κ => R (enabledSites w) where
  data _ _ h := h
  pokeUser _ _ _ h := h
  setFpRegs _ _ h := h

theorem enabledSites_request (what : String) (op : κ → Except Errno α × κ) :
    Preserves (fun w : World κ => R (enabledSites w)) (orSendErrno what op) :=
  preserves_orSendErrno fun _ h => h

theorem enabledSites_modifySite {f : BreakpointSite → BreakpointSite}
    (kept : ∀ s, (f s).isEnabled = s.isEnabled) :
    Preserves (fun w : World κ => R (enabledSites w)) (modifySite i f) := by
  refine Preserves.modify fun w h => ?_
  rw [enabledSites_modify_same kept]
  exact h

theorem enabledSites_install (site : BreakpointSite) :
    Preserves (fun w : World κ => R (enabledSites w)) (BreakpointSite.install P i site) := by
  refine Preserves.ite ?_ ?_
  · exact (preserves_setHardwareStoppoint P enabledSites_registers _ _ _).bind fun _ =>
      enabledSites_modifySite (by intro; rfl)
  · exact (enabledSites_request _ _).bind fun _ =>
      (enabledSites_modifySite (by intro; rfl)).bind fun _ => enabledSites_request _ _

theorem enabledSites_uninstall (site : BreakpointSite) :
    Preserves (fun w : World κ => R (enabledSites w)) (BreakpointSite.uninstall P i site) := by
  refine Preserves.ite ?_ ?_
  · exact (preserves_clearHardwareStoppoint P enabledSites_registers _).bind fun _ =>
      enabledSites_modifySite (by intro; rfl)
  · exact (enabledSites_request _ _).bind fun _ => enabledSites_request _ _

theorem wp_disable_sites {w : World κ} (i : Nat) :
    wp (BreakpointSite.disable P i) (fun _ t => enabledSites t = enabledSites w \ {i})
      (fun _ t => enabledSites t = enabledSites w) w := by
  unfold BreakpointSite.disable siteAt
  rw [wp_bind, wp_bind, wp_get, wp_liftFault]
  refine ⟨fun site found => ?_, fun _ _ => rfl⟩
  rw [deref_eq_ok] at found
  rw [wp_ite]
  split
  · next off =>
    refine (Set.sdiff_singleton_eq_self fun enabled => ?_).symm
    obtain ⟨s, at_i, on⟩ := enabled
    rw [found, Option.some.injEq] at at_i
    simp [at_i, on] at off
  · rw [wp_bind]
    refine (enabledSites_uninstall (R := fun S => S = enabledSites w) site w rfl).mono
      (fun _ t same => ?_) fun _ _ same => same
    rw [modifySite, wp_modify, enabledSites_modify_off fun _ => rfl]
    exact congrArg (· \ {i}) same

theorem wp_enable_sites {w : World κ} (i : Nat) :
    wp (BreakpointSite.enable P i) (fun _ t => enabledSites t = insert i (enabledSites w))
      (fun _ t => enabledSites t = enabledSites w) w := by
  unfold BreakpointSite.enable siteAt
  rw [wp_bind, wp_bind, wp_get, wp_liftFault]
  refine ⟨fun site found => ?_, fun _ _ => rfl⟩
  rw [deref_eq_ok] at found
  rw [wp_ite]
  split
  · next on => exact (Set.insert_eq_of_mem (mem_enabledSites.2 ⟨site, found, on⟩)).symm
  · -- the position stays occupied while the site is installed
    have done := (enabledSites_install (P := P) (R := fun S => S = enabledSites w) (i := i)
      site w rfl).and ((keys_toggles (R := fun k => k = keys w)).preserves_install i site w rfl)
    rw [wp_bind]
    refine done.mono (fun _ t kept => ?_) fun _ _ kept => kept.1
    obtain ⟨same, keys_eq⟩ := kept
    have length : t.breakpointSites.length = w.breakpointSites.length := by
      simpa [keys] using congrArg (fun k => k.sites.length) keys_eq
    have still : i < t.breakpointSites.length := by
      rw [length]
      exact (List.getElem?_eq_some_iff.1 found).1
    rw [modifySite, wp_modify, enabledSites_modify_on (List.getElem?_eq_getElem still) fun _ => rfl]
    exact congrArg (insert i) same

/-! ### Everything else -/

theorem enabledSites_stops : StopBlind fun w : World κ => R (enabledSites w) where
  data _ _ h := h
  kernel _ _ h := h
  expecting _ _ h := h

theorem enabledSites_arrive : Preserves (fun w : World κ => R (enabledSites w)) (arrive P) :=
  enabledSites_stops.preserves_arrive fun _ _ h => h

theorem enabledSites_setPc (address : VirtAddr) :
    Preserves (fun w : World κ => R (enabledSites w)) (setPc P address) :=
  Registers.preserves_writeById P enabledSites_registers _ _

theorem enabledSites_updateData (j : Nat) :
    Preserves (fun w : World κ => R (enabledSites w)) (Watchpoint.updateData P j) :=
  preserves_updateData P (fun _ _ h => h) j fun _ => Preserves.modify fun _ h => h

end Sites

/-! ### A disabled site and what is done with it -/

section Unguarded

variable {β : Type} {w : World κ} {i : Nat} {rest : Sdb κ α}

/-- What is done while a site is disabled: it enables the site at the end, and not before. -/
def Reenables (i : Nat) (rest : Sdb κ α) : Prop :=
  ∀ u, i ∉ enabledSites u → wp rest (fun _ t => enabledSites t = insert i (enabledSites u))
    (fun _ t => i ∉ enabledSites t) u

theorem unguarded_returns (member : i ∈ enabledSites w) (spec : Reenables i rest) {a : α}
    {t : World κ} (run : (BreakpointSite.disable P i >>= fun _ => rest) w = .ok a t) :
    enabledSites t = enabledSites w := by
  obtain ⟨_, u, disabled, done⟩ := bind_inv run
  have without : enabledSites u = enabledSites w \ {i} :=
    (wp_of_ok disabled _ _).1 (wp_disable_sites i)
  have off : i ∉ enabledSites u := by
    rw [without]
    exact fun there => there.2 rfl
  rw [(wp_of_ok done _ _).1 (spec u off), without, Set.insert_sdiff_singleton,
    Set.insert_eq_of_mem member]

/-- With nothing to guard it, the site is lost exactly if the rest raises. -/
theorem keepsSites_unguarded (member : i ∈ enabledSites w) (spec : Reenables i rest) :
    KeepsSites (BreakpointSite.disable P i >>= fun _ => rest) w ↔
      ¬ ∃ u e t, BreakpointSite.disable P i w = .ok () u ∧ rest u = .error e t ∧
        e.isFatal = false := by
  have disabling := wp_disable_sites (P := P) (w := w) i
  cases disabled : BreakpointSite.disable P i w with
  | error e u =>
    rw [KeepsSites, wp_of_error (bind_error disabled _)]
    refine iff_of_true (fun _ => (wp_of_error disabled _ _).1 disabling) fun loses => ?_
    obtain ⟨v, _, _, disabled', _⟩ := loses
    cases disabled'
  | ok _ u =>
    have without : enabledSites u = enabledSites w \ {i} := (wp_of_ok disabled _ _).1 disabling
    have off : i ∉ enabledSites u := by
      rw [without]
      exact fun there => there.2 rfl
    cases done : rest u with
    | error e t =>
      have lost : i ∉ enabledSites t := (wp_of_error done _ _).1 (spec u off)
      rw [KeepsSites, wp_of_error ((bind_ok disabled _).trans done)]
      constructor
      · intro kept loses
        obtain ⟨v, e', x, disabled', raised, mild⟩ := loses
        cases disabled'
        cases done.symm.trans raised
        exact lost (kept mild ▸ member)
      · intro keeps mild
        exact absurd ⟨u, e, t, rfl, done, mild⟩ keeps
    | ok a t =>
      have run : (BreakpointSite.disable P i >>= fun _ => rest) w = .ok a t :=
        (bind_ok disabled _).trans done
      rw [KeepsSites, wp_of_ok run]
      refine iff_of_true (unguarded_returns member spec run) fun loses => ?_
      obtain ⟨v, e, x, disabled', raised, _⟩ := loses
      cases disabled'
      cases done.symm.trans raised

/-- What comes after everything is restored does not matter. -/
theorem keepsSites_then {m : Sdb κ β}
    (restored : ∀ b t, m w = .ok b t → enabledSites t = enabledSites w)
    (going : Preserves (fun t : World κ => enabledSites t = enabledSites w) rest) :
    KeepsSites (m >>= fun _ => rest) w ↔ KeepsSites m w := by
  rw [KeepsSites, KeepsSites, wp_bind]
  cases run : m w with
  | error e t => rw [wp_of_error run, wp_of_error run]
  | ok b t =>
    rw [wp_of_ok run, wp_of_ok run]
    exact iff_of_true ((going t (restored b t run)).mono (fun _ _ same => same)
      fun _ _ same _ => same) (restored b t run)

end Unguarded

/-! ### `resume` -/

/-- `resume` between disabling a site and going on. -/
def stepAndEnable (P : Platform κ) (i : Nat) : Sdb κ Unit := do
  orSendErrno "failed to single step" (P.resume .singleStep)
  let _ ← waitpid P
  BreakpointSite.enable P i

theorem stepOver_eq (i : Nat) :
    stepOver P i = BreakpointSite.disable P i >>= fun _ => stepAndEnable P i := rfl

/-- The site at the pc is disabled, and one of the calls before it is enabled again raises. -/
def ResumeLoses (P : Platform κ) (w : World κ) : Prop :=
  ∃ i u e t, enabledSiteAt (load w.data 128 8) w = .ok (some i) w ∧
    BreakpointSite.disable P i w = .ok () u ∧ stepAndEnable P i u = .error e t ∧ e.isFatal = false

section Resume

variable {w : World κ} {i : Nat}

theorem wp_stepAndEnable_sites :
    wp (stepAndEnable P i) (fun _ t => enabledSites t = insert i (enabledSites w))
      (fun _ t => enabledSites t = enabledSites w) w := by
  have stepped : Preserves (fun t : World κ => enabledSites t = enabledSites w) (do
      orSendErrno "failed to single step" (P.resume .singleStep)
      waitpid P) :=
    (enabledSites_request (R := fun S => S = enabledSites w) _ _).bind fun _ =>
      (enabledSites_stops (R := fun S => S = enabledSites w)).preserves_waitpid
  have order : stepAndEnable P i = (do
      orSendErrno "failed to single step" (P.resume .singleStep)
      waitpid P) >>= fun _ => BreakpointSite.enable P i := by
    simp only [stepAndEnable, bind_assoc]
  rw [order, wp_bind]
  refine (stepped w rfl).mono (fun _ t same => ?_) fun _ _ same => same
  rw [← same]
  exact wp_enable_sites i

theorem stepAndEnable_reenables : Reenables i (stepAndEnable P i) := by
  intro w off
  refine wp_stepAndEnable_sites.mono (fun _ _ on => on) fun _ _ same => ?_
  rw [same]
  exact off

theorem enabledSiteAt_mem {address : VirtAddr}
    (here : enabledSiteAt address w = .ok (some i) w) : i ∈ enabledSites w := by
  obtain ⟨enabled, found⟩ := enabledStoppointAtAddress_total w.breakpointSites address
  cases enabled with
  | false =>
    rw [enabledSiteAt_of_disabled found] at here
    cases here
  | true =>
    obtain ⟨j, site, at_j, _, on, run⟩ := enabledSiteAt_of_enabled found
    cases run.symm.trans here
    exact mem_enabledSites.2 ⟨site, at_j, on⟩

/-- `resume` after the site at the pc has been dealt with. -/
theorem goOn_sites {R : Set Nat → Prop} : Preserves (fun w : World κ => R (enabledSites w)) (do
    let w ← get
    orSendErrno "could not resume" (P.resume (resumeRequest w.syscallCatchPolicy))
    modify fun w : World κ => { w with state := .running }) :=
  Preserves.get.bind fun _ => (enabledSites_request _ _).bind fun _ => Preserves.modify fun _ h => h

/-- What `resume` does at an enabled site. -/
theorem resume_at (here : enabledSiteAt (load w.data 128 8) w = .ok (some i) w) :
    resume P w = (stepOver P i >>= fun _ => do
      let w ← get
      orSendErrno "could not resume" (P.resume (resumeRequest w.syscallCatchPolicy))
      modify fun w : World κ => { w with state := .running }) w := by
  rw [resume, bind_ok (getPc_eq w), bind_ok here]
  rfl

theorem resume_nowhere (here : enabledSiteAt (load w.data 128 8) w = .ok none w) :
    resume P w = (do
      let w ← get
      orSendErrno "could not resume" (P.resume (resumeRequest w.syscallCatchPolicy))
      modify fun w : World κ => { w with state := .running }) w := by
  rw [resume, bind_ok (getPc_eq w), bind_ok here]
  rfl

theorem keepsSites_resume : KeepsSites (resume P) w ↔ ¬ ResumeLoses P w := by
  obtain ⟨found, here⟩ := enabledSiteAt_total (load w.data 128 8) w
  have going := goOn_sites (P := P) (R := fun S => S = enabledSites w)
  cases found with
  | none =>
    rw [KeepsSites, wp, resume_nowhere here]
    refine iff_of_true ((going w rfl).mono (fun _ _ same => same) fun _ _ same _ => same)
      fun loses => ?_
    obtain ⟨i, u, e, t, enabled, _⟩ := loses
    cases here.symm.trans enabled
  | some i =>
    have lost : ResumeLoses P w ↔ ∃ u e t, BreakpointSite.disable P i w = .ok () u ∧
        stepAndEnable P i u = .error e t ∧ e.isFatal = false := by
      constructor
      · intro loses
        obtain ⟨j, u, e, t, enabled, rest⟩ := loses
        cases here.symm.trans enabled
        exact ⟨u, e, t, rest⟩
      · intro loses
        obtain ⟨u, e, t, rest⟩ := loses
        exact ⟨i, u, e, t, here, rest⟩
    have member := enabledSiteAt_mem here
    rw [lost, ← keepsSites_unguarded member stepAndEnable_reenables, ← stepOver_eq, KeepsSites, wp,
      resume_at here]
    refine keepsSites_then (fun _ t stepped => ?_) going
    rw [stepOver_eq] at stepped
    exact unguarded_returns member stepAndEnable_reenables stepped

/-- A call of `resume` that returns has restored what it disabled. -/
theorem resume_returns {t : World κ} (run : resume P w = .ok () t) :
    enabledSites t = enabledSites w := by
  have keeps : KeepsSites (resume P) w := by
    rw [keepsSites_resume]
    intro loses
    obtain ⟨i, u, e, x, here, disabled, raised, _⟩ := loses
    rw [resume_at here, stepOver_eq, bind_assoc, bind_ok disabled, bind_error raised] at run
    cases run
  exact (wp_of_ok run _ _).1 keeps

theorem off_of_same {u t : World κ} (off : i ∉ enabledSites u)
    (same : enabledSites t = enabledSites u) : i ∉ enabledSites t := by
  rw [same]
  exact off

/-- A disabled site stays disabled. -/
theorem preserves_resume_off (i : Nat) :
    Preserves (fun w : World κ => i ∉ enabledSites w) (resume P) := by
  intro w off
  obtain ⟨found, here⟩ := enabledSiteAt_total (load w.data 128 8) w
  rw [resume, wp_bind, wp_of_ok (getPc_eq w), wp_bind, wp_of_ok here]
  cases found with
  | none => exact goOn_sites (R := fun S => i ∉ S) w off
  | some j =>
    have other : i ≠ j := by
      rintro rfl
      exact off (enabledSiteAt_mem here)
    rw [wp_bind]
    change wp (stepOver P j) _ _ w
    rw [stepOver_eq, wp_bind]
    refine (wp_disable_sites j).mono (fun _ u without => ?_) fun _ _ same => off_of_same off same
    have off' : i ∉ enabledSites u := by
      rw [without]
      exact fun member => off member.1
    refine wp_stepAndEnable_sites.mono (fun _ t with_j => ?_) fun _ _ same =>
      off_of_same off' same
    have off'' : i ∉ enabledSites t := by
      rw [with_j]
      intro member
      exact (Set.mem_insert_iff.1 member).elim other off'
    exact goOn_sites (R := fun S => i ∉ S) t off''

end Resume

/-! ### `wait_on_signal` -/

/-- While `wait_on_signal` waits, it goes on after an ignored call, and `resume` loses a site. -/
inductive WaitLoses (P : Platform κ) : Nat → World κ → Prop where
  | here {fuel : Nat} {w t : World κ} {call : StopReason} (arrived : arrive P w = .ok call t)
      (ignored : Ignored call t) (loses : ResumeLoses P t) : WaitLoses P (fuel + 1) w
  | later {fuel : Nat} {w t u : World κ} {call : StopReason} (arrived : arrive P w = .ok call t)
      (ignored : Ignored call t) (resumed : resume P t = .ok () u) (rest : WaitLoses P fuel u) :
      WaitLoses P (fuel + 1) w

section Wait

variable {w : World κ}

theorem waitLoses_ignored {fuel : Nat} {t : World κ} {call : StopReason}
    (arrived : arrive P w = .ok call t) (ignored : Ignored call t) :
    WaitLoses P (fuel + 1) w ↔
      ResumeLoses P t ∨ ∃ u, resume P t = .ok () u ∧ WaitLoses P fuel u := by
  constructor
  · intro loses
    cases loses with
    | here arrived' _ loses =>
      cases arrived.symm.trans arrived'
      exact .inl loses
    | later arrived' _ resumed rest =>
      cases arrived.symm.trans arrived'
      exact .inr ⟨_, resumed, rest⟩
  · intro h
    rcases h with loses | ⟨u, resumed, rest⟩
    · exact .here arrived ignored loses
    · exact .later arrived ignored resumed rest

/-- After a stop that is heard nothing is resumed. -/
theorem not_waitLoses_heard {fuel : Nat} {t : World κ} {call : StopReason}
    (arrived : arrive P w = .ok call t) (heard : ¬ Ignored call t) :
    ¬ WaitLoses P (fuel + 1) w := by
  intro loses
  cases loses with
  | here arrived' ignored _ =>
    cases arrived.symm.trans arrived'
    exact heard ignored
  | later arrived' ignored _ _ =>
    cases arrived.symm.trans arrived'
    exact heard ignored

theorem not_waitLoses_failed {fuel : Nat} {e : Fault} {t : World κ}
    (failed : arrive P w = .error e t) : ¬ WaitLoses P (fuel + 1) w := by
  intro loses
  cases loses with
  | here arrived _ _ => cases failed.symm.trans arrived
  | later arrived _ _ _ => cases failed.symm.trans arrived

/-- `resume`, and then something that keeps the sites unless it loses one. -/
theorem keepsSites_resume_bind {m : Sdb κ α} {Loses : World κ → Prop}
    (after : ∀ u, KeepsSites m u ↔ ¬ Loses u) :
    KeepsSites (resume P >>= fun _ => m) w ↔
      ¬ (ResumeLoses P w ∨ ∃ u, resume P w = .ok () u ∧ Loses u) := by
  have resuming := keepsSites_resume (P := P) (w := w)
  unfold KeepsSites at resuming ⊢
  rw [wp_bind]
  cases resumed : resume P w with
  | error e u =>
    rw [wp_of_error resumed] at resuming ⊢
    rw [resuming, or_iff_left]
    intro later
    obtain ⟨v, resumed', _⟩ := later
    cases resumed'
  | ok _ u =>
    have back : enabledSites u = enabledSites w := resume_returns resumed
    have kept : ¬ ResumeLoses P w := by
      rw [← resuming, wp_of_ok resumed]
      exact back
    rw [wp_of_ok resumed, or_iff_right kept, ← back]
    change KeepsSites m u ↔ _
    rw [after, not_iff_not]
    constructor
    · intro loses
      exact ⟨u, rfl, loses⟩
    · intro later
      obtain ⟨v, resumed', loses⟩ := later
      cases resumed'
      exact loses

theorem keepsSites_waitOnSignal (fuel : Nat) :
    KeepsSites (waitOnSignal P fuel) w ↔ ¬ WaitLoses P fuel w := by
  induction fuel generalizing w with
  | zero =>
    refine iff_of_true (fun mild => ?_) fun loses => by cases loses
    contradiction
  | succ fuel ih =>
    have arriving := enabledSites_arrive (P := P) (R := fun S => S = enabledSites w) w rfl
    unfold KeepsSites
    rw [waitOnSignal_succ, wp_bind]
    cases arrived : arrive P w with
    | error e t =>
      rw [wp_of_error arrived]
      exact iff_of_true (fun _ => (wp_of_error arrived _ _).1 arriving)
        (not_waitLoses_failed arrived)
    | ok reason t =>
      have same : enabledSites t = enabledSites w := (wp_of_ok arrived _ _).1 arriving
      rw [wp_of_ok arrived, ← same]
      by_cases ignored : Ignored reason t
      · rw [waitLoses_ignored arrived ignored, wp, respond_ignored ignored]
        exact keepsSites_resume_bind fun u => ih
      · refine iff_of_true ?_ (not_waitLoses_heard arrived ignored)
        have kept := wp_respond_heard (P := P) (I := fun s => enabledSites s = enabledSites t)
          (enabledSites_setPc (R := fun S => S = enabledSites t))
          (fun _ => enabledSites_updateData (R := fun S => S = enabledSites t)) ignored
          (waitOnSignal P fuel) rfl
        exact kept.mono (fun _ _ done => done.2) fun _ _ same _ => same

/-- What was enabled is so again when `wait_on_signal` returns. -/
theorem waitOnSignal_returns {fuel : Nat} {reason : StopReason} {t : World κ}
    (run : waitOnSignal P fuel w = .ok reason t) : enabledSites t = enabledSites w := by
  induction fuel generalizing w with
  | zero => cases run
  | succ fuel ih =>
    rw [waitOnSignal_succ] at run
    obtain ⟨call, u, arrived, answered⟩ := bind_inv run
    have same : enabledSites u = enabledSites w :=
      (enabledSites_arrive (P := P) (R := fun S => S = enabledSites w)).of_ok rfl arrived
    rw [← same]
    by_cases ignored : Ignored call u
    · rw [respond_ignored ignored] at answered
      obtain ⟨_, v, resumed, waited⟩ := bind_inv answered
      rw [ih waited, resume_returns resumed]
    · have kept := wp_respond_heard (P := P) (I := fun s => enabledSites s = enabledSites u)
        (enabledSites_setPc (R := fun S => S = enabledSites u))
        (fun _ => enabledSites_updateData (R := fun S => S = enabledSites u)) ignored
        (waitOnSignal P fuel) rfl
      exact ((wp_of_ok answered _ _).1 kept).2

theorem preserves_waitOnSignal_off (fuel i : Nat) :
    Preserves (fun w : World κ => i ∉ enabledSites w) (waitOnSignal P fuel) :=
  preserves_waitOnSignal (enabledSites_arrive (R := fun S => i ∉ S))
    (enabledSites_setPc (R := fun S => i ∉ S)) (enabledSites_updateData (R := fun S => i ∉ S))
    (preserves_resume_off i) fuel

end Wait

/-! ### `step_instruction` -/

/-- `step_instruction` between disabling the site at the pc and returning. -/
def stepAndWait (P : Platform κ) (fuel i : Nat) : Sdb κ StopReason := do
  orSendErrno "could not single step" (P.resume .singleStep)
  let reason ← waitOnSignal P fuel
  BreakpointSite.enable P i
  pure reason

/-- A site is lost on the way, or, after the site at the pc is disabled, one of the calls before
it is enabled again raises. -/
def StepLoses (P : Platform κ) (fuel : Nat) (w : World κ) : Prop :=
  (∃ u, startStep P w = .ok none u ∧ WaitLoses P fuel u) ∨
    ∃ i u e t, enabledSiteAt (load w.data 128 8) w = .ok (some i) w ∧
      BreakpointSite.disable P i w = .ok () u ∧ stepAndWait P fuel i u = .error e t ∧
      e.isFatal = false

section Step

variable {w : World κ} {fuel i : Nat}

theorem stepAndWait_reenables (fuel : Nat) : Reenables i (stepAndWait P fuel i) := by
  intro w off
  unfold stepAndWait
  rw [wp_bind]
  refine (enabledSites_request (R := fun S => S = enabledSites w) _ _ w rfl).mono
    (fun _ u same => ?_) fun _ _ same => off_of_same off same
  have waiting := preserves_waitOnSignal_off (P := P) fuel i u (off_of_same off same)
  rw [wp_bind]
  cases waited : waitOnSignal P fuel u with
  | error e v =>
    rw [wp_of_error waited] at waiting ⊢
    exact waiting
  | ok reason v =>
    have kept : enabledSites v = enabledSites w := (waitOnSignal_returns waited).trans same
    rw [wp_of_ok waited, wp_bind]
    refine (wp_enable_sites i).mono (fun _ t on => ?_) fun _ _ same' =>
      off_of_same off (same'.trans kept)
    rw [wp_pure, on, kept]

theorem stepInstruction_at (here : enabledSiteAt (load w.data 128 8) w = .ok (some i) w) :
    stepInstruction P fuel w =
      (BreakpointSite.disable P i >>= fun _ => stepAndWait P fuel i) w := by
  rw [stepInstruction, bind_ok (getPc_eq w), bind_ok here]
  rfl

theorem startStep_nowhere (here : enabledSiteAt (load w.data 128 8) w = .ok none w) :
    startStep P w =
      (orSendErrno "could not single step" (P.resume .singleStep) >>= fun _ => pure none) w := by
  rw [startStep, bind_ok (getPc_eq w), bind_ok here]
  rfl

/-- Without a site at the pc only a nested call of `resume` can lose one. -/
theorem stepLoses_nowhere (here : enabledSiteAt (load w.data 128 8) w = .ok none w) :
    StepLoses P fuel w ↔ ∃ u, startStep P w = .ok none u ∧ WaitLoses P fuel u := by
  refine or_iff_left fun loses => ?_
  obtain ⟨i, u, e, t, there, _⟩ := loses
  cases here.symm.trans there

theorem stepLoses_at (here : enabledSiteAt (load w.data 128 8) w = .ok (some i) w) :
    StepLoses P fuel w ↔ ∃ u e t, BreakpointSite.disable P i w = .ok () u ∧
      stepAndWait P fuel i u = .error e t ∧ e.isFatal = false := by
  constructor
  · intro loses
    rcases loses with ⟨u, started, _⟩ | ⟨j, u, e, t, there, rest⟩
    · rw [startStep, bind_ok (getPc_eq w), bind_ok here] at started
      obtain ⟨_, v, _, stepping⟩ := bind_inv started
      obtain ⟨_, x, _, done⟩ := bind_inv stepping
      cases done
    · cases here.symm.trans there
      exact ⟨u, e, t, rest⟩
  · intro loses
    obtain ⟨u, e, t, rest⟩ := loses
    exact .inr ⟨i, u, e, t, here, rest⟩

theorem keepsSites_step_nowhere (here : enabledSiteAt (load w.data 128 8) w = .ok none w) :
    KeepsSites (stepInstruction P fuel) w ↔ ¬ StepLoses P fuel w := by
  rw [stepLoses_nowhere here, KeepsSites, stepInstruction_eq, wp_bind]
  have started := startStep_nowhere (P := P) here
  cases stepped : orSendErrno "could not single step" (P.resume .singleStep) w with
  | error e u =>
    have same : enabledSites u = enabledSites w :=
      (enabledSites_request (R := fun S => S = enabledSites w) _ _).of_error rfl stepped
    rw [bind_error stepped] at started
    rw [wp_of_error started]
    refine iff_of_true (fun _ => same) fun loses => ?_
    obtain ⟨v, run, _⟩ := loses
    cases started.symm.trans run
  | ok _ u =>
    have same : enabledSites u = enabledSites w :=
      (enabledSites_request (R := fun S => S = enabledSites w) _ _).of_ok rfl stepped
    rw [bind_ok stepped] at started
    have starts : startStep P w = .ok none u := started
    rw [wp_of_ok starts, ← same, wp_bind]
    change KeepsSites (waitOnSignal P fuel) u ↔ _
    rw [keepsSites_waitOnSignal, not_iff_not]
    constructor
    · intro loses
      exact ⟨u, starts, loses⟩
    · intro loses
      obtain ⟨v, run, loses⟩ := loses
      cases starts.symm.trans run
      exact loses

theorem keepsSites_step_at (here : enabledSiteAt (load w.data 128 8) w = .ok (some i) w) :
    KeepsSites (stepInstruction P fuel) w ↔ ¬ StepLoses P fuel w := by
  have member := enabledSiteAt_mem here
  rw [stepLoses_at here, ← keepsSites_unguarded member (stepAndWait_reenables fuel), KeepsSites,
    wp_congr (stepInstruction_at here)]
  exact Iff.rfl

theorem keepsSites_stepInstruction :
    KeepsSites (stepInstruction P fuel) w ↔ ¬ StepLoses P fuel w := by
  obtain ⟨found, here⟩ := enabledSiteAt_total (load w.data 128 8) w
  cases found with
  | none => exact keepsSites_step_nowhere here
  | some i => exact keepsSites_step_at here

end Step

/-- Started in any state, `resume` and `step_instruction` leave the sites enabled that were,
exactly unless one of the calls between disabling a site and enabling it again raises. -/
theorem keepsSites_iff (w : World κ) :
    (KeepsSites (resume P) w ↔ ¬ ResumeLoses P w) ∧
    ∀ fuel, (KeepsSites (stepInstruction P fuel) w ↔ ¬ StepLoses P fuel w) :=
  ⟨keepsSites_resume, fun _ => keepsSites_stepInstruction⟩

/-- `resume` raises and leaves the site at position `i` disabled. -/
def losesSite (i : Nat) (w : World Scripted) : Bool :=
  match resume scriptedPlatform w with
  | .ok _ _ => false
  | .error e t => !e.isFatal && w.breakpointSites[i]?.any (·.isEnabled) &&
    t.breakpointSites[i]?.all fun site => !site.isEnabled

theorem not_keepsSites_of_losesSite {i : Nat} {w : World Scripted} (h : losesSite i w = true) :
    ¬ KeepsSites (resume scriptedPlatform) w := by
  intro keeps
  unfold losesSite at h
  cases resumed : resume scriptedPlatform w with
  | ok _ t => simp [resumed] at h
  | error e t =>
    simp only [resumed, Bool.and_eq_true, Bool.not_eq_true', Option.any_eq_true,
      Option.all_eq_true] at h
    obtain ⟨⟨mild, site, at_i, on⟩, off⟩ := h
    have same := (wp_of_error resumed _ _).1 keeps mild
    have member : i ∈ enabledSites w := mem_enabledSites.2 ⟨site, at_i, on⟩
    rw [← same] at member
    obtain ⟨site', at_i', on'⟩ := mem_enabledSites.1 member
    have off' := off site' at_i'
    rw [on'] at off'
    contradiction

/-- The peek that puts the trap byte back after the step is refused. -/
theorem not_keepsSites_refusedPeek :
    ∃ w, run (sessionStep scriptedPlatform)
        [.stoppoint (.createSite 0 false false), .stoppoint (.enableSite 0)]
        (scriptedWorld [false, false, false, false, true]
          [⟨.stopped sigtrap, fun _ => 0, trapTrace⟩]) = some w ∧
      ¬ KeepsSites (resume scriptedPlatform) w := by
  obtain ⟨w, reach, loses⟩ := (Option.any_eq_true (losesSite 0) _).1 (show (run
    (sessionStep scriptedPlatform)
    [.stoppoint (.createSite 0 false false), .stoppoint (.enableSite 0)]
    (scriptedWorld [false, false, false, false, true]
      [⟨.stopped sigtrap, fun _ => 0, trapTrace⟩])).any (losesSite 0) = true by decide +kernel)
  exact ⟨w, reach, not_keepsSites_of_losesSite loses⟩

end SdbDebugger
