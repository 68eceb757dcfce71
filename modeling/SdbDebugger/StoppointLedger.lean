import SdbDebugger.Library.ActionRuns
import SdbDebugger.Library.ListHistory
import SdbDebugger.ScriptedKernel
import SdbDebugger.SiteList

/-! The two stoppoint collections over runs of creations and removals. A ledger
beside the process records what was created and removed; the lists, the ids and
all lookups are then functions of the ledger. -/

namespace SdbDebugger
open EffectRules ActionRuns KeyedList ListHistory StoppointCollection

inductive CollectionOp where
  | createSite (address : VirtAddr) (hardware internal : Bool)
  | removeSiteById (id : Int)
  | removeSiteByAddress (address : VirtAddr)
  | createWatchpoint (address : VirtAddr) (mode : StoppointMode) (size : BitVec 64)
  | removeWatchpointById (id : Int)
  | removeWatchpointByAddress (address : VirtAddr)
  deriving DecidableEq, Repr

variable {κ : Type} (P : Platform κ)

/-- Performs the operation and says what happened to which collection. -/
def CollectionOp.perform : CollectionOp → Sdb κ (Event BreakpointSite ⊕ Event Watchpoint)
  | .createSite address hardware internal => do
    let i ← createBreakpointSite address hardware internal
    let site ← siteAt i
    pure (.inl (.inserted site))
  | .removeSiteById id => do
    SdbDebugger.removeSiteById P id
    pure (.inl (.removed fun site => site.id == id))
  | .removeSiteByAddress address => do
    SdbDebugger.removeSiteByAddress P address
    pure (.inl (.removed fun site => site.address == address))
  | .createWatchpoint address mode size => do
    let i ← SdbDebugger.createWatchpoint P address mode size
    let point ← watchpointAt i
    pure (.inr (.inserted point))
  | .removeWatchpointById id => do
    SdbDebugger.removeWatchpointById P id
    pure (.inr (.removed fun point => point.id == id))
  | .removeWatchpointByAddress address => do
    SdbDebugger.removeWatchpointByAddress P address
    pure (.inr (.removed fun point => point.address == address))

structure Session (κ : Type) where
  world : World κ
  sites : List (Event BreakpointSite)
  watchpoints : List (Event Watchpoint)

/-- An exception of any type can be caught by the caller, who goes on. -/
def Fault.isRaised : Fault → Bool
  | .error _ | .exception _ => true
  | _ => false

def Session.record (s : Session κ) (w : World κ) :
    Event BreakpointSite ⊕ Event Watchpoint → Session κ
  | .inl event => { s with world := w, sites := s.sites ++ [event] }
  | .inr event => { s with world := w, watchpoints := s.watchpoints ++ [event] }

def collectionStep (op : CollectionOp) (s : Session κ) : Option (Session κ) :=
  match op.perform P s.world with
  | .ok event w => some (s.record w event)
  | .error e w => if e.isRaised then some { s with world := w } else none

/-! ### One collection and its ledger -/

section Registered

variable {α : Type} [Stoppoint α] {internal : α → Bool}

/-- Points whose ids come from the counter, in the order in which it gave them out. -/
def external (internal : α → Bool) (points : List α) : List α := points.filter fun p => !internal p

structure Registered (internal : α → Bool) (counter : Int) (history : List (Event α))
    (points : List α) : Prop where
  live : points = live history
  distinct : DistinctAddresses points
  positive : 0 ≤ counter
  issued : (external internal (inserted history)).Pairwise
    fun p q => Stoppoint.id p < Stoppoint.id q
  bounded : ∀ p ∈ inserted history, internal p = false →
    0 < Stoppoint.id p ∧ Stoppoint.id p ≤ counter
  hidden : ∀ p ∈ inserted history, internal p = true → Stoppoint.id p = -1
  idle : ∀ p ∈ inserted history, Stoppoint.isEnabled p = false

namespace Registered

variable {counter counter' : Int} {history : List (Event α)} {points : List α} {point : α}

theorem nil (positive : 0 ≤ counter) : Registered internal counter [] ([] : List α) :=
  ⟨rfl, DistinctKeys.nil, positive, by simp [external], by simp, by simp, by simp⟩

theorem mem_inserted (reg : Registered internal counter history points) (h : point ∈ points) :
    point ∈ inserted history := by
  rw [reg.live] at h
  exact (live_sublist history).subset h

/-- An id may be taken by a constructor that then raises. -/
theorem advance (reg : Registered internal counter history points) (later : counter ≤ counter') :
    Registered internal counter' history points :=
  { reg with
    positive := reg.positive.trans later
    bounded := fun p member ext =>
      ⟨(reg.bounded p member ext).1, (reg.bounded p member ext).2.trans later⟩ }

theorem insert (reg : Registered internal counter history points) (later : counter ≤ counter')
    (fresh : containsAddress points (Stoppoint.address point) = false)
    (ext : internal point = false → Stoppoint.id point = counter' ∧ counter < counter')
    (hide : internal point = true → Stoppoint.id point = -1)
    (off : Stoppoint.isEnabled point = false) :
    Registered internal counter' (history ++ [.inserted point]) (points ++ [point]) where
  live := by rw [live_concat, ← reg.live, Event.apply]
  distinct := by
    refine reg.distinct.append_singleton fun q member same => ?_
    have found : containsAddress points (Stoppoint.address point) = true :=
      containsAddress_iff.2 ⟨q, member, same⟩
    rw [fresh] at found
    contradiction
  positive := reg.positive.trans later
  issued := by
    cases kind : internal point with
    | true => simpa [external, kind] using reg.issued
    | false =>
      simp only [external, inserted_concat_inserted, List.filter_append, List.filter_singleton,
        kind, Bool.not_false, cond_true, List.pairwise_append, List.mem_singleton, List.mem_filter]
      refine ⟨reg.issued, List.pairwise_singleton _ _, fun p old q last => ?_⟩
      have below := (reg.bounded p old.1 (by simpa using old.2)).2
      rw [last, (ext kind).1]
      exact below.trans_lt (ext kind).2
  bounded := by
    intro p member kind
    rw [inserted_concat_inserted, List.mem_append, List.mem_singleton] at member
    cases member with
    | inl old =>
      exact ⟨(reg.bounded p old kind).1, (reg.bounded p old kind).2.trans later⟩
    | inr last =>
      subst last
      have given := ext kind
      have positive := reg.positive
      omega
  hidden := by
    intro p member kind
    rw [inserted_concat_inserted, List.mem_append, List.mem_singleton] at member
    cases member with
    | inl old => exact reg.hidden p old kind
    | inr last =>
      subst last
      exact hide kind
  idle := by
    intro p member
    rw [inserted_concat_inserted, List.mem_append, List.mem_singleton] at member
    cases member with
    | inl old => exact reg.idle p old
    | inr last =>
      subst last
      exact off

/-- Removing the first match of a search is the ledger's removal. -/
theorem erase (reg : Registered internal counter history points) {test : α → Bool} {i : Nat}
    (found : points.findIdx? test = some i) :
    Registered internal counter (history ++ [.removed test]) (points.eraseIdx i) where
  live := by
    rw [live_concat, ← reg.live, Event.apply, List.eraseP_eq_eraseIdx, found]
  distinct := reg.distinct.eraseIdx i
  positive := reg.positive
  issued := by simpa using reg.issued
  bounded := by simpa using reg.bounded
  hidden := by simpa using reg.hidden
  idle := by simpa using reg.idle

end Registered

/-- What callers see of a collection whose history is known. -/
structure Indexed (internal : α → Bool) (history : List (Event α)) (points : List α) : Prop where
  addresses_distinct : DistinctAddresses points
  ids_positive : ∀ p ∈ points, internal p = false → 0 < Stoppoint.id p
  ids_increasing : (external internal points).Pairwise fun p q => Stoppoint.id p < Stoppoint.id q
  ids_never_reused : (external internal (inserted history)).Pairwise
    fun p q => Stoppoint.id p < Stoppoint.id q
  getById : ∀ i p, points[i]? = some p → internal p = false →
    StoppointCollection.getById points (Stoppoint.id p) = .ok i ∧
      ∀ j q, points[j]? = some q → Stoppoint.id q = Stoppoint.id p → j = i
  getByAddress : ∀ i p, points[i]? = some p →
    StoppointCollection.getByAddress points (Stoppoint.address p) = .ok i ∧
      ∀ j q, points[j]? = some q → Stoppoint.address q = Stoppoint.address p → j = i
  containsId : ∀ k, StoppointCollection.containsId points k = true ↔
    ∃ p ∈ ListHistory.live history, Stoppoint.id p = k
  containsAddress : ∀ a, StoppointCollection.containsAddress points a = true ↔
    ∃ p ∈ ListHistory.live history, Stoppoint.address p = a

namespace Registered

variable {counter : Int} {history : List (Event α)} {points : List α}

theorem ids_increasing (reg : Registered internal counter history points) :
    (external internal points).Pairwise fun p q => Stoppoint.id p < Stoppoint.id q := by
  rw [reg.live]
  exact reg.issued.sublist ((live_sublist history).filter _)

/-- A stoppoint with the id of an external one is that stoppoint. -/
theorem id_unique (reg : Registered internal counter history points) {p q : α}
    (hp : p ∈ points) (hq : q ∈ points) (kind : internal p = false)
    (same : Stoppoint.id q = Stoppoint.id p) : q = p := by
  have positive := (reg.bounded p (reg.mem_inserted hp) kind).1
  have kind' : internal q = false := by
    cases other : internal q with
    | false => rfl
    | true =>
      have minus := reg.hidden q (reg.mem_inserted hq) other
      omega
  have member : ∀ r ∈ points, internal r = false → r ∈ external internal points := by
    intro r inside ext
    simp [external, inside, ext]
  have distinct : DistinctKeys Stoppoint.id (external internal points) :=
    List.pairwise_map.2 (reg.ids_increasing.imp ne_of_lt)
  exact distinct.eq_of_mem (member q hq kind') (member p hp kind) same

theorem indexed (reg : Registered internal counter history points) :
    Indexed internal history points where
  addresses_distinct := reg.distinct
  ids_positive p member kind := (reg.bounded p (reg.mem_inserted member) kind).1
  ids_increasing := reg.ids_increasing
  ids_never_reused := reg.issued
  getById i p here kind := by
    have only : ∀ j q, points[j]? = some q → Stoppoint.id q = Stoppoint.id p → j = i := by
      intro j q there same
      have equal := reg.id_unique (List.mem_of_getElem? here) (List.mem_of_getElem? there) kind same
      subst equal
      exact reg.distinct.position_unique there here rfl
    have found : findById points (Stoppoint.id p) = some i := by
      cases lookup : findById points (Stoppoint.id p) with
      | none =>
        have absent := List.findIdx?_eq_none_iff.1 lookup p (List.mem_of_getElem? here)
        simp at absent
      | some j =>
        obtain ⟨q, there, same⟩ := findById_eq_some lookup
        rw [only j q there same]
    exact ⟨by rw [StoppointCollection.getById, found], only⟩
  getByAddress i p here := by
    have found := findByAddress_of_distinct reg.distinct here
    refine ⟨by rw [StoppointCollection.getByAddress, found], fun j q there same => ?_⟩
    exact reg.distinct.position_unique there here same
  containsId k := by
    rw [← reg.live]
    exact containsId_iff
  containsAddress a := by
    rw [← reg.live]
    exact containsAddress_iff

end Registered

end Registered

/-! ### The operations -/

section Operations

variable {P} {w : World κ}

theorem wp_readMemory_frame (address : VirtAddr) (amount : Nat) :
    wp (readMemory P address amount) (fun _ t => ∃ k, t = { w with kernel := k })
      (fun _ t => ∃ k, t = { w with kernel := k }) w :=
  preserves_readMemory P (I := fun t => ∃ k, t = { w with kernel := k })
    (fun _ _ same => by
      obtain ⟨k, rfl⟩ := same
      exact ⟨_, rfl⟩)
    address amount w ⟨w.kernel, rfl⟩

/-- The id a new site gets, and the counter after it. -/
def SiteIssued (internal : Bool) (counter id counter' : Int) : Prop :=
  if internal = true then id = -1 ∧ counter' = counter else id = counter + 1 ∧ counter' = id

theorem wp_createBreakpointSite (address : VirtAddr) (hardware internal : Bool) :
    wp (createBreakpointSite address hardware internal : Sdb κ Nat)
      (fun i t => containsAddress w.breakpointSites address = false ∧ i = w.breakpointSites.length ∧
        ∃ id counter, SiteIssued internal w.breakpointSiteId id counter ∧
          t = { w with
            breakpointSites := w.breakpointSites ++
              [⟨id, address, false, hardware, internal, -1, 0⟩],
            breakpointSiteId := counter })
      (fun _ t => t = w) w := by
  unfold createBreakpointSite newSiteId
  rw [wp_bind, wp_get, wp_ite]
  split
  · trivial
  · next absent =>
    have fresh : containsAddress w.breakpointSites address = false := by simpa using absent
    rw [wp_bind, wp_ite]
    split
    · next hide =>
      exact ⟨fresh, rfl, -1, w.breakpointSiteId, by simp [SiteIssued, hide], rfl⟩
    · next ext =>
      simp only [wp_bind, wp_get, wp_liftFault, wp_modify, wp_pure]
      refine ⟨fun id next => ?_, fun _ _ => trivial⟩
      have value : id = w.breakpointSiteId + 1 := by
        unfold nextId at next
        split at next
        · exact (Except.ok.inj next).symm
        · contradiction
      exact ⟨fresh, trivial, id, id, by simp [SiteIssued, ext, value], rfl⟩

theorem wp_createWatchpoint (address : VirtAddr) (mode : StoppointMode) (size : BitVec 64) :
    wp (createWatchpoint P address mode size)
      (fun i t => containsAddress w.watchpoints address = false ∧ i = w.watchpoints.length ∧
        ∃ data k, t = { w with
          watchpoints := w.watchpoints ++
            [⟨w.watchpointId + 1, address, mode, size, false, data, 0, -1⟩],
          watchpointId := w.watchpointId + 1, kernel := k })
      (fun _ t => t = w ∨ ∃ k, t = { w with watchpointId := w.watchpointId + 1, kernel := k }) w := by
  unfold createWatchpoint
  rw [wp_bind, wp_get, wp_ite]
  split
  · exact .inl rfl
  · next absent =>
    have fresh : containsAddress w.watchpoints address = false := by simpa using absent
    rw [wp_ite]
    split
    · exact .inl rfl
    · rw [wp_bind, wp_liftFault]
      refine ⟨fun id next => ?_, fun _ _ => .inl rfl⟩
      have value : id = w.watchpointId + 1 := by
        unfold nextId at next
        split at next
        · exact (Except.ok.inj next).symm
        · contradiction
      subst value
      rw [wp_bind, wp_modify, wp_bind]
      refine (wp_readMemory_frame address size.toNat).mono (fun read t same => ?_)
        (fun _ t same => .inr same)
      obtain ⟨k, rfl⟩ := same
      rw [wp_ite]
      split
      · exact .inr ⟨k, rfl⟩
      · exact ⟨fresh, rfl, _, k, rfl⟩

/-- Removing a disabled site never reaches the kernel. -/
theorem removeSite_idle {found : Option Nat} {i : Nat} {site : BreakpointSite}
    (lookup : found = some i) (at_i : w.breakpointSites[i]? = some site)
    (off : site.isEnabled = false) :
    removeSite P found w =
      .ok () { w with breakpointSites := w.breakpointSites.eraseIdx i } := by
  have position : (siteAt i : Sdb κ BreakpointSite) w = .ok site w := by
    change liftFault (deref w.breakpointSites i) w = _
    rw [deref_eq_ok.2 at_i]
    rfl
  have disabled : BreakpointSite.disable P i w = .ok () w := by
    rw [BreakpointSite.disable, bind_ok position, off]
    rfl
  rw [removeSite, lookup, dereferenced, liftFault_ok, pure_bind, bind_ok disabled]
  rfl

theorem removeWatchpoint_idle {found : Option Nat} {i : Nat} {point : Watchpoint}
    (lookup : found = some i) (at_i : w.watchpoints[i]? = some point)
    (off : point.isEnabled = false) :
    removeWatchpoint P found w = .ok () { w with watchpoints := w.watchpoints.eraseIdx i } := by
  have position : (watchpointAt i : Sdb κ Watchpoint) w = .ok point w := by
    change liftFault (deref w.watchpoints i) w = _
    rw [deref_eq_ok.2 at_i]
    rfl
  have disabled : Watchpoint.disable P i w = .ok () w := by
    rw [Watchpoint.disable, bind_ok position, off]
    rfl
  rw [removeWatchpoint, lookup, dereferenced, liftFault_ok, pure_bind, bind_ok disabled]
  rfl

theorem wp_removeSite (found : Option Nat)
    (valid : ∀ i, found = some i → ∃ site, w.breakpointSites[i]? = some site ∧
      site.isEnabled = false) :
    wp (removeSite P found)
      (fun _ t => ∃ i, found = some i ∧
        t = { w with breakpointSites := w.breakpointSites.eraseIdx i })
      (fun e _ => e.isRaised = false) w := by
  cases lookup : found with
  | none => rfl
  | some i =>
    obtain ⟨site, at_i, off⟩ := valid i lookup
    rw [wp_of_ok (removeSite_idle rfl at_i off)]
    exact ⟨i, rfl, rfl⟩

theorem wp_removeWatchpoint (found : Option Nat)
    (valid : ∀ i, found = some i → ∃ point, w.watchpoints[i]? = some point ∧
      point.isEnabled = false) :
    wp (removeWatchpoint P found)
      (fun _ t => ∃ i, found = some i ∧ t = { w with watchpoints := w.watchpoints.eraseIdx i })
      (fun e _ => e.isRaised = false) w := by
  cases lookup : found with
  | none => rfl
  | some i =>
    obtain ⟨point, at_i, off⟩ := valid i lookup
    rw [wp_of_ok (removeWatchpoint_idle rfl at_i off)]
    exact ⟨i, rfl, rfl⟩

end Operations

/-! ### Runs -/

/-- Both collections agree with their ledgers. -/
structure Session.Consistent (s : Session κ) : Prop where
  sites : Registered BreakpointSite.isInternal s.world.breakpointSiteId s.sites
    s.world.breakpointSites
  watchpoints : Registered (fun _ => false) s.world.watchpointId s.watchpoints s.world.watchpoints

variable {P} {s : Session κ}

theorem siteAt_last {w : World κ} {before : List BreakpointSite} {site : BreakpointSite} {i : Nat}
    (sites : w.breakpointSites = before ++ [site]) (last : i = before.length) :
    (siteAt i : Sdb κ BreakpointSite) w = .ok site w := by
  change liftFault (deref w.breakpointSites i) w = _
  rw [deref_eq_ok.2 (show w.breakpointSites[i]? = some site by simp [sites, last])]
  rfl

theorem watchpointAt_last {w : World κ} {before : List Watchpoint} {point : Watchpoint} {i : Nat}
    (points : w.watchpoints = before ++ [point]) (last : i = before.length) :
    (watchpointAt i : Sdb κ Watchpoint) w = .ok point w := by
  change liftFault (deref w.watchpoints i) w = _
  rw [deref_eq_ok.2 (show w.watchpoints[i]? = some point by simp [points, last])]
  rfl

/-- What one operation has to establish of its outcome. -/
def Session.Keeps (s : Session κ) (m : Sdb κ (Event BreakpointSite ⊕ Event Watchpoint)) : Prop :=
  wp m (fun event t => (s.record t event).Consistent)
    (fun e t => e.isRaised = true → Session.Consistent { s with world := t }) s.world

namespace Session.Consistent

theorem keeps_createSite (before : s.Consistent) (address : VirtAddr) (hardware internal : Bool) :
    s.Keeps (CollectionOp.perform P (.createSite address hardware internal)) := by
  unfold Session.Keeps CollectionOp.perform
  rw [wp_bind]
  refine (wp_createBreakpointSite address hardware internal).mono (fun i t made => ?_)
    (fun _ t same _ => by subst same; exact before)
  obtain ⟨fresh, last, id, counter, issued, rfl⟩ := made
  rw [wp_bind, wp_of_ok (siteAt_last rfl last), wp_pure]
  refine ⟨?_, before.watchpoints⟩
  unfold SiteIssued at issued
  cases kind : internal with
  | true =>
    rw [if_pos kind] at issued
    exact before.sites.insert issued.2.symm.le fresh (fun ext => by simp at ext)
      (fun _ => issued.1) rfl
  | false =>
    rw [if_neg (by simp [kind])] at issued
    have later : s.world.breakpointSiteId < counter := by omega
    exact before.sites.insert later.le fresh (fun _ => ⟨issued.2.symm, later⟩)
      (fun hide => by simp at hide) rfl

theorem keeps_createWatchpoint (before : s.Consistent) (address : VirtAddr)
    (mode : StoppointMode) (size : BitVec 64) :
    s.Keeps (CollectionOp.perform P (.createWatchpoint address mode size)) := by
  have later : s.world.watchpointId < s.world.watchpointId + 1 := by omega
  unfold Session.Keeps CollectionOp.perform
  rw [wp_bind]
  refine (wp_createWatchpoint address mode size).mono (fun i t made => ?_) (fun _ t failed _ => ?_)
  · obtain ⟨fresh, last, data, k, rfl⟩ := made
    rw [wp_bind, wp_of_ok (watchpointAt_last rfl last), wp_pure]
    exact ⟨before.sites, before.watchpoints.insert later.le fresh (fun _ => ⟨rfl, later⟩)
      (fun hide => by simp at hide) rfl⟩
  · cases failed with
    | inl same =>
      subst same
      exact before
    | inr taken =>
      obtain ⟨k, rfl⟩ := taken
      exact ⟨before.sites, before.watchpoints.advance later.le⟩

theorem idle_site (before : s.Consistent) {i : Nat} {site : BreakpointSite}
    (at_i : s.world.breakpointSites[i]? = some site) : site.isEnabled = false :=
  before.sites.idle site (before.sites.mem_inserted (List.mem_of_getElem? at_i))

theorem idle_watchpoint (before : s.Consistent) {i : Nat} {point : Watchpoint}
    (at_i : s.world.watchpoints[i]? = some point) : point.isEnabled = false :=
  before.watchpoints.idle point (before.watchpoints.mem_inserted (List.mem_of_getElem? at_i))

/-- A removal by whatever search: the ledger records the same test. -/
theorem keeps_removeSite (before : s.Consistent) (test : BreakpointSite → Bool) :
    s.Keeps (do
      removeSite P (s.world.breakpointSites.findIdx? test)
      pure (.inl (.removed test))) := by
  unfold Session.Keeps
  rw [wp_bind]
  refine (wp_removeSite _ fun i found => ?_).mono (fun _ t done => ?_) (fun e t ends raised => ?_)
  · obtain ⟨inside, _⟩ := List.findIdx?_eq_some_iff_getElem.1 found
    have here := List.getElem?_eq_getElem inside
    exact ⟨_, here, before.idle_site here⟩
  · obtain ⟨i, found, rfl⟩ := done
    exact ⟨before.sites.erase found, before.watchpoints⟩
  · rw [ends] at raised
    contradiction

theorem keeps_removeWatchpoint (before : s.Consistent) (test : Watchpoint → Bool) :
    s.Keeps (do
      removeWatchpoint P (s.world.watchpoints.findIdx? test)
      pure (.inr (.removed test))) := by
  unfold Session.Keeps
  rw [wp_bind]
  refine (wp_removeWatchpoint _ fun i found => ?_).mono (fun _ t done => ?_)
    (fun e t ends raised => ?_)
  · obtain ⟨inside, _⟩ := List.findIdx?_eq_some_iff_getElem.1 found
    have here := List.getElem?_eq_getElem inside
    exact ⟨_, here, before.idle_watchpoint here⟩
  · obtain ⟨i, found, rfl⟩ := done
    exact ⟨before.sites, before.watchpoints.erase found⟩
  · rw [ends] at raised
    contradiction

theorem keeps (before : s.Consistent) (op : CollectionOp) : s.Keeps (op.perform P) := by
  cases op with
  | createSite address hardware internal =>
    exact before.keeps_createSite address hardware internal
  | removeSiteById id => exact before.keeps_removeSite fun site => site.id == id
  | removeSiteByAddress address => exact before.keeps_removeSite fun site => site.address == address
  | createWatchpoint address mode size => exact before.keeps_createWatchpoint address mode size
  | removeWatchpointById id => exact before.keeps_removeWatchpoint fun point => point.id == id
  | removeWatchpointByAddress address =>
    exact before.keeps_removeWatchpoint fun point => point.address == address

theorem step {op : CollectionOp} {t : Session κ} (before : s.Consistent)
    (taken : collectionStep P op s = some t) : t.Consistent := by
  have kept := wp_iff.1 (before.keeps (P := P) op)
  unfold collectionStep at taken
  cases outcome : op.perform P s.world with
  | ok event w =>
    simp only [outcome, Option.some.injEq] at taken
    subst taken
    exact kept.1 event w outcome
  | error e w =>
    simp only [outcome] at taken
    split at taken
    · next raised =>
      cases taken
      exact kept.2 e w outcome raised
    · contradiction

end Session.Consistent

/-- Sites and watchpoints created, refused at a used address, removed and created again. -/
def recreatedStoppoints : List CollectionOp :=
  [.createSite 0x1000 false false, .createSite 0x1000 true false, .createSite 0x2000 true true,
    .createWatchpoint 0x3000 .write 8, .removeSiteById 1, .createSite 0x1000 false false,
    .removeSiteById (-1), .createWatchpoint 0x3001 .write 8, .removeWatchpointByAddress 0x3000,
    .createWatchpoint 0x3000 .readWrite 4]

end SdbDebugger
