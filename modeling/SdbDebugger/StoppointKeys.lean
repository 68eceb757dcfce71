import SdbDebugger.SiteList
import SdbDebugger.StoppointToggles

/-! What identifies the stoppoints of a process. Only creations and removals change it, and
over whole sessions no two stoppoints of a collection share an address, no two watchpoints
an id. -/

namespace SdbDebugger
open EffectRules ActionRuns KeyedList StoppointCollection

/-- The addresses of the sites, the ids and addresses of the watchpoints, and the last id. -/
structure StoppointKeys where
  sites : List VirtAddr
  watchpoints : List (Int × VirtAddr)
  watchpointId : Int

namespace StoppointKeys

/-- A key names one stoppoint, and the ids of watchpoints come from the counter. -/
structure Distinct (k : StoppointKeys) : Prop where
  sites : k.sites.Nodup
  addresses : (k.watchpoints.map Prod.snd).Nodup
  ids : (k.watchpoints.map Prod.fst).Nodup
  issued : ∀ p ∈ k.watchpoints, p.1 ≤ k.watchpointId

variable {k : StoppointKeys}

theorem Distinct.insertSite (distinct : k.Distinct) {address : VirtAddr}
    (fresh : address ∉ k.sites) : ({ k with sites := k.sites ++ [address] }).Distinct :=
  ⟨List.nodup_append_comm.1 (List.nodup_cons.2 ⟨fresh, distinct.sites⟩), distinct.addresses,
    distinct.ids, distinct.issued⟩

/-- The next watchpoint takes the next id. -/
theorem Distinct.insertWatchpoint (distinct : k.Distinct) {id : Int} {address : VirtAddr}
    (later : k.watchpointId < id) (fresh : address ∉ k.watchpoints.map Prod.snd) :
    (⟨k.sites, k.watchpoints ++ [(id, address)], id⟩ : StoppointKeys).Distinct := by
  have new : id ∉ k.watchpoints.map Prod.fst := by
    intro member
    obtain ⟨p, there, same⟩ := List.mem_map.1 member
    have old := distinct.issued p there
    omega
  refine ⟨distinct.sites, ?_, ?_, ?_⟩
  · rw [List.map_append]
    exact List.nodup_append_comm.1 (List.nodup_cons.2 ⟨fresh, distinct.addresses⟩)
  · rw [List.map_append]
    exact List.nodup_append_comm.1 (List.nodup_cons.2 ⟨new, distinct.ids⟩)
  · intro p member
    cases List.mem_append.1 member with
    | inl old => exact (distinct.issued p old).trans later.le
    | inr last =>
      rw [List.mem_singleton.1 last]

/-- An id may be taken by a constructor that then raises. -/
theorem Distinct.advance (distinct : k.Distinct) {id : Int} (later : k.watchpointId < id) :
    ({ k with watchpointId := id }).Distinct :=
  ⟨distinct.sites, distinct.addresses, distinct.ids,
    fun p member => (distinct.issued p member).trans later.le⟩

end StoppointKeys

variable {κ : Type} {P : Platform κ}

def keys (w : World κ) : StoppointKeys where
  sites := w.breakpointSites.map BreakpointSite.address
  watchpoints := w.watchpoints.map fun p => (p.id, p.address)
  watchpointId := w.watchpointId

theorem StoppointKeys.Distinct.of_same {w t : World κ} (distinct : (keys w).Distinct)
    (same : keys t = keys w) : (keys t).Distinct := by
  rw [same]
  exact distinct

section Distinct

variable {w : World κ} (distinct : (keys w).Distinct)
include distinct

theorem StoppointKeys.Distinct.siteAddresses : DistinctAddresses w.breakpointSites :=
  distinct.sites

theorem StoppointKeys.Distinct.watchpointAddresses : DistinctAddresses w.watchpoints := by
  have addresses := distinct.addresses
  simp only [keys, List.map_map] at addresses
  exact addresses

theorem StoppointKeys.Distinct.watchpointIds : DistinctKeys Watchpoint.id w.watchpoints := by
  have ids := distinct.ids
  simp only [keys, List.map_map] at ids
  exact ids

theorem getById_of_distinct {i : Nat} {point : Watchpoint}
    (at_i : w.watchpoints[i]? = some point) : getById w.watchpoints point.id = .ok i := by
  have found : findById w.watchpoints point.id = some i := distinct.watchpointIds.findIdx?_eq at_i
  rw [getById, found]

theorem getByAddress_site {i : Nat} {site : BreakpointSite}
    (at_i : w.breakpointSites[i]? = some site) :
    getByAddress w.breakpointSites site.address = .ok i := by
  have found : findByAddress w.breakpointSites site.address = some i :=
    findByAddress_of_distinct distinct.siteAddresses at_i
  rw [getByAddress, found]

theorem getByAddress_watchpoint {i : Nat} {point : Watchpoint}
    (at_i : w.watchpoints[i]? = some point) :
    getByAddress w.watchpoints point.address = .ok i := by
  have found : findByAddress w.watchpoints point.address = some i :=
    findByAddress_of_distinct distinct.watchpointAddresses at_i
  rw [getByAddress, found]

end Distinct

/-! ### What leaves the keys alone -/

section Kept

variable {R : StoppointKeys → Prop}

theorem keys_modifyWatchpoint {f : Watchpoint → Watchpoint}
    (kept : ∀ p, ((f p).id, (f p).address) = (p.id, p.address)) (i : Nat) :
    Preserves (fun w : World κ => R (keys w)) (modifyWatchpoint i f) := by
  refine Preserves.modify fun w h => ?_
  simpa only [keys, map_modify_of_eq (g := fun p : Watchpoint => (p.id, p.address)) kept] using h

theorem keys_toggles : ToggleBlind fun w : World κ => R (keys w) where
  data _ _ h := h
  kernel _ _ h := h
  expecting _ _ h := h
  state _ _ h := h
  sites w i f kept h := by
    simpa only [keys, map_modify_of_eq fun s => (kept s).address] using h
  watchpoints w i f kept h :=
    keys_modifyWatchpoint (fun p => Prod.ext (kept p).id (kept p).address) i w h

theorem keys_updateData (i : Nat) :
    Preserves (fun w : World κ => R (keys w)) (Watchpoint.updateData P i) :=
  preserves_updateData P (fun _ _ h => h) i fun _ => keys_modifyWatchpoint (by intro; rfl) i

end Kept

/-! ### Creations and removals -/

section Changed

theorem distinct_createSite (address : VirtAddr) (hardware internal : Bool) :
    Preserves (fun w : World κ => (keys w).Distinct)
      (createBreakpointSite address hardware internal) := by
  intro w distinct
  unfold createBreakpointSite
  rw [wp_bind, wp_get, wp_ite]
  split
  · exact distinct
  · next absent =>
    have fresh : address ∉ (keys w).sites := by
      intro member
      obtain ⟨site, there, same⟩ := List.mem_map.1 member
      exact absent (containsAddress_iff.2 ⟨site, there, same⟩)
    have kept : Preserves (fun t : World κ => keys t = keys w) (newSiteId internal) :=
      preserves_newSiteId internal fun _ _ same => same
    rw [wp_bind]
    refine (kept w rfl).mono (fun id t same => ?_) fun _ t same => ?_
    · rw [wp_bind, wp_modify]
      change (keys { t with breakpointSites := _ }).Distinct
      rw [← same] at distinct fresh
      simpa [keys] using distinct.insertSite fresh
    · exact distinct.of_same same

theorem distinct_createWatchpoint (address : VirtAddr) (mode : StoppointMode)
    (size : BitVec 64) :
    Preserves (fun w : World κ => (keys w).Distinct) (createWatchpoint P address mode size) := by
  intro w distinct
  unfold createWatchpoint
  rw [wp_bind, wp_get, wp_ite]
  split
  · exact distinct
  · next absent =>
    rw [wp_ite]
    split
    · exact distinct
    · rw [wp_bind, wp_liftFault]
      refine ⟨fun id next => ?_, fun _ _ => distinct⟩
      -- the id is taken before the value is read, which may fail
      have later : w.watchpointId < id := by
        unfold nextId at next
        split at next
        · cases next
          omega
        · simp at next
      have fresh : address ∉ (keys w).watchpoints.map Prod.snd := by
        intro member
        simp only [keys, List.map_map] at member
        obtain ⟨point, there, same⟩ := List.mem_map.1 member
        exact absent (containsAddress_iff.2 ⟨point, there, same⟩)
      have taken : (keys { w with watchpointId := id }).Distinct := distinct.advance later
      have kept : Preserves (fun t : World κ => keys t = keys { w with watchpointId := id })
          (readMemory P address size.toNat) :=
        preserves_readMemory P (fun _ _ same => same) _ _
      rw [wp_bind, wp_modify, wp_bind]
      refine (kept _ rfl).mono (fun read t same => ?_) fun _ t same => ?_
      · rw [wp_ite]
        split
        · exact taken.of_same same
        · have sites : t.breakpointSites.map BreakpointSite.address = _ :=
            congrArg StoppointKeys.sites same
          have points : t.watchpoints.map (fun p => (p.id, p.address)) = _ :=
            congrArg StoppointKeys.watchpoints same
          have last : t.watchpointId = id := congrArg StoppointKeys.watchpointId same
          change (⟨t.breakpointSites.map BreakpointSite.address, (t.watchpoints ++ [_]).map _,
            t.watchpointId⟩ : StoppointKeys).Distinct
          rw [List.map_append, sites, points, last]
          exact distinct.insertWatchpoint later fresh
      · exact taken.of_same same

theorem distinct_removeSite (found : Option Nat) :
    Preserves (fun w : World κ => (keys w).Distinct) (removeSite P found) := by
  refine (preserves_liftFault _).bind fun i => (keys_toggles.preserves_siteDisable i).bind fun _ => ?_
  refine Preserves.modify fun w distinct => ⟨?_, distinct.addresses, distinct.ids, distinct.issued⟩
  exact distinct.siteAddresses.eraseIdx i

theorem distinct_removeWatchpoint (found : Option Nat) :
    Preserves (fun w : World κ => (keys w).Distinct) (removeWatchpoint P found) := by
  refine (preserves_liftFault _).bind fun i =>
    (keys_toggles.preserves_watchpointDisable i).bind fun _ => ?_
  refine Preserves.modify fun w distinct => ⟨distinct.sites, ?_, ?_, fun p member => ?_⟩
  · simp only [keys, List.map_map]
    exact distinct.watchpointAddresses.eraseIdx i
  · simp only [keys, List.map_map]
    exact distinct.watchpointIds.eraseIdx i
  · refine distinct.issued p ?_
    have kept := ((List.eraseIdx_sublist w.watchpoints i).map
      fun p : Watchpoint => (p.id, p.address)).subset
    exact kept member

theorem distinct_perform (op : StoppointOp) :
    Preserves (fun w : World κ => (keys w).Distinct) (op.perform P) := by
  cases op with
  | createSite address hardware internal =>
    exact (distinct_createSite address hardware internal).bind fun _ => Preserves.pure _
  | enableSite i => exact keys_toggles.preserves_siteEnable i
  | disableSite i => exact keys_toggles.preserves_siteDisable i
  | removeSiteById id => exact Preserves.get.bind fun w => distinct_removeSite _
  | removeSiteByAddress address => exact Preserves.get.bind fun w => distinct_removeSite _
  | createWatchpoint address mode size =>
    exact (distinct_createWatchpoint address mode size).bind fun _ => Preserves.pure _
  | enableWatchpoint i => exact keys_toggles.preserves_watchpointEnable i
  | disableWatchpoint i => exact keys_toggles.preserves_watchpointDisable i
  | removeWatchpointById id => exact Preserves.get.bind fun w => distinct_removeWatchpoint _
  | removeWatchpointByAddress address =>
    exact Preserves.get.bind fun w => distinct_removeWatchpoint _

end Changed

theorem distinct_session (op : SessionOp) :
    Preserves (fun w : World κ => (keys w).Distinct) (op.perform P) :=
  keys_toggles.preserves_session keys_updateData (fun _ _ distinct => distinct) fun op _ =>
    distinct_perform op

/-- In every session the keys of the stoppoints stay distinct. -/
theorem distinct_of_run {ops : List SessionOp} {w w' : World κ} (start : (keys w).Distinct)
    (reach : run (sessionStep P) ops w = some w') : (keys w').Distinct :=
  run_invariant (fun op _ _ kept alive => survive_invariant (distinct_session op) kept alive)
    start reach

end SdbDebugger
