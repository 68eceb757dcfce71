import SdbDebugger.ScriptedKernel
import SdbDebugger.StoppointErrors
import SdbDebugger.StoppointRuns

/-! Removal from a stoppoint collection. `remove_by_id` and `remove_by_address` dereference
the iterator that the search returns, where the lookups compare it to the end first. -/

namespace SdbDebugger
open EffectRules KeyedList StoppointCollection

variable {κ α : Type}

/-- One of the two collections of a process. -/
structure Collection (κ α : Type) where
  points : World κ → List α
  put : List α → World κ → World κ
  disable : Nat → Sdb κ Unit

namespace Collection

/-- `remove_by_id` and `remove_by_address`, from the result of the search on. -/
def remove (C : Collection κ α) (found : Option Nat) : Sdb κ Unit := do
  let i ← liftFault (dereferenced found)
  C.disable i
  modify fun w => C.put ((C.points w).eraseIdx i) w

/-- `disable` changes its own stoppoint if it returns, and none if it raises. -/
structure Local (C : Collection κ α) : Prop where
  returns : ∀ i w t, C.disable i w = .ok () t → ∃ f, C.points t = (C.points w).modify i f
  raises : ∀ i w e t, C.disable i w = .error e t → C.points t = C.points w

/-- The stoppoint is disabled and only it deleted; an exception leaves all stoppoints as they
were, be it that of `disable` or the one for a key that no stoppoint has. -/
structure RemovesExactly (C : Collection κ α) (has : α → Bool) (invalid : Fault) (w : World κ)
    (outcome : EStateM.Result Fault (World κ) Unit) : Prop where
  deletes : ∀ i, IsFirst has (C.points w) i → ∀ t, C.disable i w = .ok () t →
    outcome = .ok () (C.put ((C.points w).eraseIdx i) t)
  propagates : ∀ i, IsFirst has (C.points w) i → ∀ e t, C.disable i w = .error e t →
    outcome = .error e t ∧ C.points t = C.points w
  missing : (∀ p ∈ C.points w, has p = false) → outcome = .error invalid w

variable {C : Collection κ α} {has : α → Bool} {w : World κ}

/-- Removal is exact for the keys that some stoppoint has, and for no others. -/
theorem removesExactly_iff (isLocal : C.Local) {what : String} :
    RemovesExactly C has (.error what) w (C.remove ((C.points w).findIdx? has) w) ↔
      ∃ p ∈ C.points w, has p = true := by
  cases found : (C.points w).findIdx? has with
  | none =>
    have absent := List.findIdx?_eq_none_iff.1 found
    refine iff_of_false (fun exact => ?_) ?_
    · have raised := exact.missing absent
      cases raised
    · rintro ⟨p, member, holds⟩
      simp [absent p member] at holds
  | some i =>
    have first := isFirst_of_findIdx? found
    obtain ⟨p, at_i, holds⟩ := first.holds
    refine iff_of_true ⟨fun j first' t done => ?_, fun j first' e t raised => ?_, fun absent => ?_⟩
      ⟨p, List.mem_of_getElem? at_i, holds⟩
    · cases found.symm.trans first'.findIdx?_eq
      obtain ⟨f, points⟩ := isLocal.returns i w t done
      change (C.disable i >>= _) w = _
      rw [bind_ok done]
      change EStateM.Result.ok () (C.put ((C.points t).eraseIdx i) t) = _
      rw [points, List.eraseIdx_modify_of_eq]
    · cases found.symm.trans first'.findIdx?_eq
      exact ⟨bind_error raised _, isLocal.raises i w e t raised⟩
    · simp [absent p (List.mem_of_getElem? at_i)] at holds

end Collection

/-! ### Breakpoint sites and watchpoints -/

section Stoppoints

open Collection

variable {P : Platform κ}

def siteCollection (P : Platform κ) : Collection κ BreakpointSite where
  points w := w.breakpointSites
  put sites w := { w with breakpointSites := sites }
  disable := BreakpointSite.disable P

def watchpointCollection (P : Platform κ) : Collection κ Watchpoint where
  points w := w.watchpoints
  put points w := { w with watchpoints := points }
  disable := Watchpoint.disable P

theorem uninstall_sites (i : Nat) (site : BreakpointSite) (w : World κ) :
    wp (BreakpointSite.uninstall P i site)
      (fun _ t => ∃ f, t.breakpointSites = w.breakpointSites.modify i f)
      (fun _ t => t.breakpointSites = w.breakpointSites) w := by
  have blind : RegisterBlind P fun t : World κ => t.breakpointSites = w.breakpointSites :=
    ⟨fun _ _ h => h, fun _ _ _ h => h, fun _ _ h => h⟩
  unfold BreakpointSite.uninstall
  rw [wp_ite]
  split
  · rw [wp_bind]
    refine (preserves_clearHardwareStoppoint P blind _ w rfl).mono (fun _ t same => ?_)
      fun _ _ same => same
    exact ⟨_, congrArg (List.modify · i _) same⟩
  · have quiet : Preserves (fun t : World κ => t.breakpointSites = w.breakpointSites) (do
        let data ← orSendErrno "disabling breakpoint site failed" (P.peekData site.address)
        orSendErrno "disabling breakpoint site failed"
          (P.pokeData site.address ((data &&& ~~~0xff) ||| site.savedData.setWidth 64))) :=
      (preserves_orSendErrno fun _ h => h).bind fun _ => preserves_orSendErrno fun _ h => h
    refine (quiet w rfl).mono (fun _ t same => ⟨id, ?_⟩) fun _ _ same => same
    rw [same, List.modify_id]

theorem siteDisable_local (i : Nat) (w : World κ) :
    wp (BreakpointSite.disable P i)
      (fun _ t => ∃ f, t.breakpointSites = w.breakpointSites.modify i f)
      (fun _ t => t.breakpointSites = w.breakpointSites) w := by
  unfold BreakpointSite.disable
  have named : Preserves (fun t : World κ => t = w) (siteAt i : Sdb κ BreakpointSite) :=
    Preserves.get.bind fun _ => preserves_liftFault _
  rw [wp_bind]
  refine (named w rfl).mono (fun site t same => ?_) fun _ t same => by rw [same]
  subst same
  rw [wp_ite]
  split
  · exact ⟨id, (List.modify_id _ _).symm⟩
  · rw [wp_bind]
    refine (uninstall_sites i site t).mono (fun _ u changed => ?_) fun _ _ same => same
    obtain ⟨f, sites⟩ := changed
    refine ⟨fun s => { f s with isEnabled := false }, ?_⟩
    change u.breakpointSites.modify i _ = _
    rw [sites, List.modify_modify_eq]
    rfl

theorem watchpointDisable_local (i : Nat) (w : World κ) :
    wp (Watchpoint.disable P i) (fun _ t => ∃ f, t.watchpoints = w.watchpoints.modify i f)
      (fun _ t => t.watchpoints = w.watchpoints) w := by
  have blind : RegisterBlind P fun t : World κ => t.watchpoints = w.watchpoints :=
    ⟨fun _ _ h => h, fun _ _ _ h => h, fun _ _ h => h⟩
  unfold Watchpoint.disable
  have named : Preserves (fun t : World κ => t = w) (watchpointAt i : Sdb κ Watchpoint) :=
    Preserves.get.bind fun _ => preserves_liftFault _
  rw [wp_bind]
  refine (named w rfl).mono (fun point t same => ?_) fun _ t same => by rw [same]
  subst same
  rw [wp_ite]
  split
  · exact ⟨id, (List.modify_id _ _).symm⟩
  · rw [wp_bind]
    refine (preserves_clearHardwareStoppoint P blind _ t rfl).mono (fun _ u same => ?_)
      fun _ _ same => same
    exact ⟨_, congrArg (List.modify · i _) same⟩

theorem siteCollection_local : (siteCollection P).Local where
  returns i w _ done := (wp_of_ok done _ _).1 (siteDisable_local i w)
  raises i w _ _ raised := (wp_of_error raised _ _).1 (siteDisable_local i w)

theorem watchpointCollection_local : (watchpointCollection P).Local where
  returns i w _ done := (wp_of_ok done _ _).1 (watchpointDisable_local i w)
  raises i w _ _ raised := (wp_of_error raised _ _).1 (watchpointDisable_local i w)

def invalidId : Fault := .error "invalid stoppoint id"

def invalidAddress : Fault := .error "stoppoint with given address not found"

/-- Removal by a key is exact if and only if some stoppoint of the collection has the key. -/
theorem removals_exact_iff (P : Platform κ) (w : World κ) (id : Int) (address : VirtAddr) :
    (RemovesExactly (siteCollection P) (fun s => Stoppoint.id s == id) invalidId w
        (removeSiteById P id w) ↔ ∃ s ∈ w.breakpointSites, Stoppoint.id s = id) ∧
    (RemovesExactly (siteCollection P) (fun s => atAddress s address) invalidAddress w
        (removeSiteByAddress P address w) ↔
      ∃ s ∈ w.breakpointSites, Stoppoint.address s = address) ∧
    (RemovesExactly (watchpointCollection P) (fun p => Stoppoint.id p == id) invalidId w
        (removeWatchpointById P id w) ↔ ∃ p ∈ w.watchpoints, Stoppoint.id p = id) ∧
    (RemovesExactly (watchpointCollection P) (fun p => atAddress p address) invalidAddress w
        (removeWatchpointByAddress P address w) ↔
      ∃ p ∈ w.watchpoints, Stoppoint.address p = address) := by
  refine ⟨?_, ?_, ?_, ?_⟩
  · exact (removesExactly_iff siteCollection_local).trans (by simp [siteCollection])
  · exact (removesExactly_iff siteCollection_local).trans (by simp [siteCollection, atAddress])
  · exact (removesExactly_iff watchpointCollection_local).trans (by simp [watchpointCollection])
  · exact (removesExactly_iff watchpointCollection_local).trans
      (by simp [watchpointCollection, atAddress])

end Stoppoints

/-- Nothing has been created. -/
theorem not_removesExactly_empty :
    ¬ Collection.RemovesExactly (siteCollection scriptedPlatform) (fun s => Stoppoint.id s == 1)
      invalidId (scriptedWorld [] []) (removeSiteById scriptedPlatform 1 (scriptedWorld [] [])) := by
  intro exact
  have raised := exact.missing (by decide)
  cases raised

end SdbDebugger
