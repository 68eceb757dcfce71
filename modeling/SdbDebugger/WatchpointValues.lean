import SdbDebugger.PagedKernel
import SdbDebugger.TrapRuns
import SdbDebugger.WatchpointHistory
import SdbDebugger.WatchpointShapes

/-! The values that watchpoints hold. They are read with the traps in place, so a software
site in the watched range shows in them. -/

namespace SdbDebugger
open EffectRules ActionRuns ByteSpace Overlay KeyedList StoppointCollection

variable {κ : Type} {P : Platform κ} {mem : κ → Memory} {readable : κ → VirtAddr → Prop}

def Watchpoint.reading (p : Watchpoint) : Reading := ⟨p.address, p.size, p.data, p.previousData⟩

/-! ### Single reads -/

/-- The check of the constructor keeps a range of at most eight bytes on one page. -/
theorem inPage_of_mask {address size : BitVec 64} (masked : address &&& (size - 1) = 0)
    (small : size.toNat ≤ 8) : address.toNat % 4096 + size.toNat ≤ 4096 := by
  by_cases empty : size = 0
  · subst empty
    have page := Nat.mod_lt address.toNat (show 0 < 4096 by decide)
    change address.toNat % 4096 + 0 ≤ 4096
    omega
  · have positive : size.toNat ≠ 0 := fun zero => empty (BitVec.eq_of_toNat_eq zero)
    have mask : (size - 1).toNat = size.toNat - 1 := by
      have one : (1 : BitVec 64).toNat = 1 := rfl
      rw [BitVec.toNat_sub, one]
      omega
    have bits : address.toNat &&& (size.toNat - 1) = 0 := by
      have whole := congrArg BitVec.toNat masked
      rwa [BitVec.toNat_and, mask] at whole
    have low : (address.toNat % 2 ^ 3) &&& (size.toNat - 1) = 0 := by
      have eighth : size.toNat - 1 = (size.toNat - 1) % 2 ^ 3 := by omega
      rw [eighth, ← Nat.and_mod_two_pow, bits]
    have fits : ∀ r < 8, ∀ m < 8, r &&& m = 0 → r + m < 8 := by decide
    have below := fits (address.toNat % 2 ^ 3) (Nat.mod_lt _ (by decide)) (size.toNat - 1)
      (by omega) low
    omega

/-- Such a range is one chunk, and is transferred as a whole if at all. -/
theorem received_inPage (transfers : TransfersPrefix P.toKernel mem readable) {k k' : κ}
    {address : VirtAddr} {n : Nat} {received : List Byte} (page : address.toNat % 4096 + n ≤ 4096)
    (read : P.processVmReadv (remoteDescs address n) k = (.ok received, k')) :
    received = cells (mem k) address n := by
  have answer := congrArg Prod.fst read
  by_cases empty : n = 0
  · subst empty
    rw [remoteDescs_zero] at answer
    have nothing := transfers.received k [] [] (fun _ => rfl) (by simp) (by simp)
    rw [List.append_nil, answer] at nothing
    exact Except.ok.inj nothing
  · have chunk : min n (upToNextPage address) = n := by
      rw [upToNextPage_eq]
      omega
    have single : remoteDescs address n = [⟨address, n⟩] := by
      rw [remoteDescs_succ empty, chunk, Nat.sub_self, remoteDescs_zero]
    rw [single] at answer
    by_cases whole : (⟨address, n⟩ : Iovec).Whole (readable k)
    · have all := transfers.received k [⟨address, n⟩] [] (by simp) (by simpa using whole) (by simp)
      rw [List.append_nil, answer] at all
      simpa using Except.ok.inj all
    · obtain ⟨e, refused⟩ := transfers.refused k ⟨address, n⟩ [] whole
      rw [answer] at refused
      cases refused

theorem updateData_ok {w t : World κ} {i : Nat} (done : Watchpoint.updateData P i w = .ok () t) :
    ∃ point received k, w.watchpoints[i]? = some point ∧
      P.processVmReadv (remoteDescs point.address point.size.toNat) w.kernel = (.ok received, k) ∧
      t = { w with
        kernel := k
        watchpoints := w.watchpoints.modify i fun p => { p with
          previousData := p.data
          data := ofBytes 8 fun j => (readBytes received point.size.toNat).getD j 0 } } := by
  unfold Watchpoint.updateData at done
  obtain ⟨point, u, named, rest⟩ := bind_inv done
  have at_i : w.watchpoints[i]? = some point ∧ u = w := by
    change liftFault (deref w.watchpoints i) w = _ at named
    rcases found : deref w.watchpoints i with e | q
    · rw [found] at named
      cases named
    · rw [found] at named
      cases named
      exact ⟨deref_eq_ok.1 found, rfl⟩
  obtain ⟨at_i, rfl⟩ := at_i
  by_cases fails : Unallocatable P 1 point.size.toNat ∨
      ∃ e, (P.processVmReadv (remoteDescs point.address point.size.toNat) u.kernel).1 = .error e
  · obtain ⟨e, k, raised, _⟩ := readMemory_error _ fails
    cases (bind_error raised _).symm.trans rest
  · push Not at fails
    rcases read : P.processVmReadv (remoteDescs point.address point.size.toNat) u.kernel with
      ⟨e | received, k⟩
    · exact absurd (congrArg Prod.fst read) (fails.2 e)
    · refine ⟨point, received, k, at_i, read, ?_⟩
      rw [bind_ok (readMemory_ok fails.1 read)] at rest
      split at rest
      · cases rest
      · cases rest
        rfl

/-! ### Runs -/

/-- Runs with their history: the program runs to some memory, watchpoints are created, updated
and removed, and in between anything is done to breakpoint sites. -/
inductive WatchRun (P : Platform κ) (mem : κ → Memory) (initial : Memory) :
    List Moment → World κ → Prop where
  | empty {w : World κ} (none : w.watchpoints = []) (inv : TrapInvariant mem initial w) :
      WatchRun P mem initial [] w
  | program {h : List Moment} {w t : World κ} {memory : Memory}
      (prior : WatchRun P mem initial h w) (sites : t.breakpointSites = w.breakpointSites)
      (points : t.watchpoints = w.watchpoints) (inv : TrapInvariant mem memory t) :
      WatchRun P mem initial (⟨.program memory, trapAddresses w.breakpointSites⟩ :: h) t
  | created {h : List Moment} {w t : World κ} {address : VirtAddr} {mode : StoppointMode}
      {size : BitVec 64} {i : Nat} (prior : WatchRun P mem initial h w)
      (done : createWatchpoint P address mode size w = .ok i t) :
      WatchRun P mem initial
        (⟨.created address mode size, trapAddresses w.breakpointSites⟩ :: h) t
  | updated {h : List Moment} {w t : World κ} {i : Nat} (prior : WatchRun P mem initial h w)
      (done : Watchpoint.updateData P i w = .ok () t) :
      WatchRun P mem initial (⟨.updated i, trapAddresses w.breakpointSites⟩ :: h) t
  | removed {h : List Moment} {w t : World κ} {i : Nat} (prior : WatchRun P mem initial h w)
      (done : removeWatchpoint P (some i) w = .ok () t) :
      WatchRun P mem initial (⟨.removed i, trapAddresses w.breakpointSites⟩ :: h) t
  | other {h : List Moment} {w t : World κ} {op : StoppointOp}
      (prior : WatchRun P mem initial h w) (quiet : op.changesWatchpoints = false)
      (alive : stoppointStep P op w = some t) : WatchRun P mem initial h t
  | refused {h : List Moment} {w t : World κ} {op : StoppointOp} {e : Fault}
      (prior : WatchRun P mem initial h w) (raised : op.perform P w = .error e t)
      (mild : e.isFatal = false) : WatchRun P mem initial h t
  | missed {h : List Moment} {w t : World κ} {i : Nat} {e : Fault}
      (prior : WatchRun P mem initial h w) (raised : Watchpoint.updateData P i w = .error e t)
      (mild : e.isFatal = false) : WatchRun P mem initial h t

def readings (w : World κ) : List Reading := w.watchpoints.map Watchpoint.reading

/-- The world is as its history says. -/
structure Watched (mem : κ → Memory) (initial : Memory) (h : List Moment) (w : World κ) : Prop where
  traps : TrapInvariant mem (programMemory initial h) w
  inPage : ∀ s ∈ sights initial h,
    s.size.toNat ≤ 8 ∧ s.address.toNat % 4096 + s.size.toNat ≤ 4096
  readings_eq : readings w = (sights initial h).map Sight.reading

/-- What a read at this moment finds. -/
def glance (program : Memory) (w : World κ) : Glance := ⟨program, trapAddresses w.breakpointSites⟩

theorem TrapInvariant.value_eq {M : Memory} {w : World κ} (inv : TrapInvariant mem M w)
    (address : VirtAddr) (size : BitVec 64) :
    (ofBytes 8 fun j => (readBytes (cells (mem w.kernel) address size.toNat) size.toNat).getD j 0) =
      (glance M w).value address size := by
  refine ofBytes_congr fun j _ => ?_
  rw [readBytes, length_cells, Nat.sub_self, List.replicate_zero, List.append_nil,
    List.getD_eq_getElem?_getD, inv.memory]
  by_cases hj : j < size.toNat
  · rw [getElem?_cells hj, if_pos hj]
    rfl
  · rw [List.getElem?_eq_none (by simpa using hj), if_neg hj]
    rfl

section Kept

variable {L : List Reading}

theorem readings_toggled (points : List Watchpoint) (i : Nat) (f : Watchpoint → Watchpoint)
    (kept : ∀ p : Watchpoint, p.Toggled (f p)) (same : points.map Watchpoint.reading = L) :
    (points.modify i f).map Watchpoint.reading = L := by
  rw [map_modify_of_eq fun p => ?_, same]
  simp only [Watchpoint.reading, (kept p).address, (kept p).size, (kept p).data,
    (kept p).previousData]

theorem readings_removeWatchpoint (found : Option Nat) {w : World κ} (same : readings w = L) :
    wp (removeWatchpoint P found) (fun _ t => ∃ i, found = some i ∧ readings t = L.eraseIdx i)
      (fun _ t => readings t = L) w := by
  cases found with
  | none => exact same
  | some i =>
    have blind : ToggleBlind fun w : World κ => readings w = L :=
      watchpoints_toggles readings_toggled
    change wp (Watchpoint.disable P i >>= _) _ _ w
    rw [wp_bind]
    refine (blind.preserves_watchpointDisable i w same).mono (fun _ t kept => ?_) fun _ _ kept => kept
    refine ⟨i, rfl, ?_⟩
    change (t.watchpoints.eraseIdx i).map Watchpoint.reading = _
    rw [← List.eraseIdx_map]
    exact congrArg (List.eraseIdx · i) kept

theorem readings_refused {op : StoppointOp} {w t : World κ} {e : Fault} (same : readings w = L)
    (raised : op.perform P w = .error e t) (mild : e.isFatal = false) : readings t = L := by
  cases op with
  | createWatchpoint address mode size =>
    have create := (bind_eq_error fun _ _ => ⟨_, _, rfl⟩).1 raised
    by_cases declined : Declined P w address size
    · obtain ⟨_, _, again, _, _, _, rfl, _⟩ := createWatchpoint_declined mode declined
      cases again.symm.trans create
      exact same
    · obtain ⟨_, _, _, outcome⟩ := createWatchpoint_accepted mode declined
      rw [create] at outcome
      split at outcome
      · cases outcome
        cases mild
      · cases outcome
  | removeWatchpointById id =>
    exact (wp_of_error raised _ _).1 (readings_removeWatchpoint (findById w.watchpoints id) same)
  | removeWatchpointByAddress address =>
    exact (wp_of_error raised _ _).1
      (readings_removeWatchpoint (findByAddress w.watchpoints address) same)
  | _ => exact (watchpoints_perform readings_toggled rfl).of_error same raised

theorem readings_missed {i : Nat} {w t : World κ} {e : Fault} (same : readings w = L)
    (raised : Watchpoint.updateData P i w = .error e t) : readings t = L := by
  have kept : wp (Watchpoint.updateData P i) (fun _ _ => True) (fun _ t => readings t = L) w := by
    unfold Watchpoint.updateData
    rw [wp_bind]
    refine (StoppointBlind.preserves_watchpointAt i w same).mono (fun point u here => ?_)
      fun _ _ here => here
    rw [wp_bind]
    have read : Preserves (fun w : World κ => readings w = L)
        (readMemory P point.address point.size.toNat) := preserves_readMemory P (fun _ _ h => h) _ _
    refine (read u here).mono (fun bytes v there => ?_) fun _ _ there => there
    rw [wp_ite]
    split
    · exact there
    · trivial
  exact (wp_of_error raised _ _).1 kept

end Kept

/-! ### What one step does -/

namespace Watched

variable {initial : Memory} {h : List Moment} {w t : World κ}

theorem kept (watched : Watched mem initial h w)
    (traps : TrapInvariant mem (programMemory initial h) t) (same : readings t = readings w) :
    Watched mem initial h t :=
  ⟨traps, watched.inPage, same.trans watched.readings_eq⟩

variable (laws : MemoryLaws P.toKernel mem) (transfers : TransfersPrefix P.toKernel mem readable)
include laws

theorem updateData_traps (i : Nat) :
    Preserves (TrapInvariant mem (programMemory initial h)) (Watchpoint.updateData P i) :=
  preserves_updateData P (fun w iovs inv => inv.congr rfl (laws.processVmReadv_mem iovs w.kernel)) i
    fun _ => Preserves.modify fun _ inv => inv.congr rfl rfl

include transfers

theorem created {address : VirtAddr} {mode : StoppointMode} {size : BitVec 64} {i : Nat}
    (watched : Watched mem initial h w) (done : createWatchpoint P address mode size w = .ok i t) :
    Watched mem initial (⟨.created address mode size, trapAddresses w.breakpointSites⟩ :: h) t := by
  have traps := (TrapInvariant.preserves_createWatchpoint laws address mode size).of_ok
    watched.traps done
  have accepted : ¬ Declined P w address size := by
    intro declined
    obtain ⟨_, _, raised, _⟩ := createWatchpoint_declined mode declined
    cases raised.symm.trans done
  obtain ⟨received, k, read, outcome⟩ := createWatchpoint_accepted mode accepted
  rw [done] at outcome
  unfold Declined at accepted
  push Not at accepted
  split at outcome
  · cases outcome
  · next small =>
    have page := inPage_of_mask accepted.2.1 (not_lt.1 small)
    have bytes := received_inPage transfers page read
    obtain ⟨rfl, rfl⟩ := EStateM.Result.ok.inj outcome
    refine ⟨traps, fun s member => ?_, ?_⟩
    · rcases List.mem_append.1 member with old | new
      · exact watched.inPage s old
      · rw [List.mem_singleton.1 new]
        exact ⟨not_lt.1 small, page⟩
    · change (w.watchpoints ++ [_]).map Watchpoint.reading = _
      have old : w.watchpoints.map Watchpoint.reading = _ := watched.readings_eq
      rw [List.map_append, old, sights, List.map_append, bytes]
      refine congrArg (_ ++ [·]) ?_
      exact congrArg (Reading.mk address size · 0) (watched.traps.value_eq address size)

theorem updated {i : Nat} (watched : Watched mem initial h w)
    (done : Watchpoint.updateData P i w = .ok () t) :
    Watched mem initial (⟨.updated i, trapAddresses w.breakpointSites⟩ :: h) t := by
  have traps := (updateData_traps laws i).of_ok watched.traps done
  obtain ⟨point, received, k, at_i, read, rfl⟩ := updateData_ok done
  have old : w.watchpoints.map Watchpoint.reading = _ := watched.readings_eq
  have page : point.address.toNat % 4096 + point.size.toNat ≤ 4096 := by
    have here : ((sights initial h).map Sight.reading)[i]? = some point.reading := by
      rw [← old, List.getElem?_map, at_i]
      rfl
    obtain ⟨s, member, same⟩ := List.mem_map.1 (List.mem_of_getElem? here)
    have fits := (watched.inPage s member).2
    rw [show point.address = s.address from congrArg Reading.address same.symm,
      show point.size = s.size from congrArg Reading.size same.symm]
    exact fits
  refine ⟨traps, fun s member => ?_, ?_⟩
  · rcases mem_modify.1 member with ⟨prior, at_i, rfl⟩ | ⟨j, _, at_j⟩
    · exact watched.inPage prior (List.mem_of_getElem? at_i)
    · exact watched.inPage s (List.mem_of_getElem? at_j)
  · have value := watched.traps.value_eq point.address point.size
    rw [← received_inPage transfers page read] at value
    have look : ∀ p, w.watchpoints[i]? = some p →
        ({ p with previousData := p.data, data := ofBytes 8 fun j =>
          (readBytes received point.size.toNat).getD j 0 } : Watchpoint).reading =
          p.reading.look (glance (programMemory initial h) w) := by
      intro p here
      cases at_i.symm.trans here
      rw [value]
      rfl
    change (w.watchpoints.modify i _).map Watchpoint.reading = _
    rw [map_modify look, old, sights, map_modify fun s _ => Sight.reading_look _ s]
    rfl

omit transfers in
theorem removed {i : Nat} (watched : Watched mem initial h w)
    (done : removeWatchpoint P (some i) w = .ok () t) :
    Watched mem initial (⟨.removed i, trapAddresses w.breakpointSites⟩ :: h) t := by
  obtain ⟨j, same, kept⟩ :=
    (wp_of_ok done _ _).1 (readings_removeWatchpoint (some i) watched.readings_eq)
  cases same
  refine ⟨(TrapInvariant.preserves_removeWatchpoint laws (some i)).of_ok watched.traps done,
    fun s member => watched.inPage s (List.mem_of_mem_eraseIdx member), ?_⟩
  rw [kept, List.eraseIdx_map]
  rfl

/-- A run is as its history says. -/
theorem of_run (refused : KeepsRefused P.toKernel mem) (reach : WatchRun P mem initial h w) :
    Watched mem initial h w := by
  induction reach with
  | empty none inv =>
    refine ⟨inv, fun s member => by simp [sights] at member, ?_⟩
    rw [readings, none]
    rfl
  | program _ _ points inv watched =>
    exact ⟨inv, watched.inPage, by rw [readings, points]; exact watched.readings_eq⟩
  | created _ done watched => exact watched.created laws transfers done
  | updated _ done watched => exact watched.updated laws transfers done
  | removed _ done watched => exact watched.removed laws done
  | other _ quiet alive watched =>
    exact watched.kept
      (survive_invariant (TrapInvariant.preserves_perform laws refused _) watched.traps alive)
      (survive_invariant (watchpoints_perform readings_toggled quiet) rfl alive)
  | refused _ raised mild watched =>
    exact watched.kept ((TrapInvariant.preserves_perform laws refused _).of_error watched.traps raised)
      (readings_refused rfl raised mild)
  | missed _ raised _ watched =>
    exact watched.kept ((updateData_traps laws _).of_error watched.traps raised)
      (readings_missed rfl raised)

end Watched

/-! ### Two runs -/

/-- The two values of a watchpoint differ only if the program has changed what is watched
between the two reads. -/
def OwnChanges (initial : Memory) (h : List Moment) (w : World κ) : Prop :=
  ∀ (i : Nat) (p : Watchpoint) (s : Sight) (g : Glance), w.watchpoints[i]? = some p →
    (sights initial h)[i]? = some s → s.before = some g →
    p.data ≠ p.previousData → ¬ s.last.SameProgram g p.address p.size

theorem Watched.ownChanges_iff {initial : Memory} {h : List Moment} {w : World κ}
    (watched : Watched mem initial h w) :
    OwnChanges initial h w ↔ ∀ s ∈ sights initial h, s.Steady := by
  have aligned : ∀ i : Nat, (w.watchpoints[i]?).map Watchpoint.reading =
      ((sights initial h)[i]?).map Sight.reading := by
    intro i
    rw [← List.getElem?_map, ← List.getElem?_map]
    exact congrArg (·[i]?) watched.readings_eq
  constructor
  · intro changes s member
    obtain ⟨i, at_i⟩ := List.mem_iff_getElem?.1 member
    rw [← Sight.ownChange_iff (watched.inPage s member).1]
    intro g before differ
    obtain ⟨p, here, same⟩ := Option.map_eq_some_iff.1 ((aligned i).trans (by rw [at_i]; rfl))
    have changed := changes i p s g here at_i before
    rw [← same] at differ
    rw [show p.address = s.address from congrArg Reading.address same,
      show p.size = s.size from congrArg Reading.size same] at changed
    exact changed differ
  · intro steady i p s g here at_i before differ
    have same : p.reading = s.reading := by
      have equal := aligned i
      rw [here, at_i] at equal
      exact Option.some.inj equal
    have member := List.mem_of_getElem? at_i
    have change := (Sight.ownChange_iff (watched.inPage s member).1).2 (steady s member) g before
    rw [← same] at change
    rw [show p.address = s.address from congrArg Reading.address same,
      show p.size = s.size from congrArg Reading.size same]
    exact change differ

/-- Eight bytes at `0x1000` are watched. -/
def watchingBytes (data previousData : Word) : World Scripted :=
  { pagedWorld 0x3000 with
    watchpointId := 1
    watchpoints := [⟨1, 0x1000, .write, 8, false, data, previousData, -1⟩] }

theorem Paged.readMemory_eq {w : World Scripted} (address : VirtAddr) {n : Nat} (fits : n ≤ maxSize 1)
    (range : ∀ i < n, w.kernel.mapped (address + BitVec.ofNat 64 i) = true) :
    readMemory pagedPlatform address n w = .ok (cells w.kernel.memory address n) w := by
  have kernel : (pagedPlatform.processVmReadv (remoteDescs address n) w.kernel).2 = w.kernel := by
    change (if _ then _ else _ : Except Errno (List Byte) × Scripted).2 = _
    split
    · rfl
    · rfl
  have read := SdbDebugger.readMemory_eq Paged.transfersPrefix.transfersReadable (P := pagedPlatform)
    (w := w) fits rfl range
  rw [kernel] at read
  exact read

theorem createWatchpoint_watchingBytes :
    createWatchpoint pagedPlatform 0x1000 .write 8 (pagedWorld 0x3000) =
      .ok 0 (watchingBytes 0x0706050403020100 0) := by
  have read := Paged.readMemory_eq (w := { pagedWorld 0x3000 with watchpointId := 1 }) (n := 8)
    0x1000 (by decide) (by decide)
  have value : (ofBytes 8 fun j => (cells (pagedWorld 0x3000).kernel.memory 0x1000 8).getD j 0) =
      (0x0706050403020100 : Word) := by decide +kernel
  change (readMemory pagedPlatform 0x1000 8 >>= _) { pagedWorld 0x3000 with watchpointId := 1 } = _
  refine (bind_ok read _).trans ?_
  rw [watchingBytes, ← value]
  rfl

theorem updateData_watched {w : World Scripted} {data previous : Word}
    (watching : w.watchpoints = [⟨1, 0x1000, .write, 8, false, data, previous, -1⟩])
    (range : ∀ i < 8, w.kernel.mapped (0x1000 + BitVec.ofNat 64 i) = true) :
    Watchpoint.updateData pagedPlatform 0 w = .ok () { w with watchpoints :=
      [⟨1, 0x1000, .write, 8, false, load w.kernel.memory 0x1000 8, data, -1⟩] } := by
  have read := Paged.readMemory_eq (w := w) (n := 8) 0x1000 (by decide) range
  unfold Watchpoint.updateData
  rw [bind_ok (watchpointAt_eq (by rw [watching]; rfl))]
  refine (bind_ok read _).trans ?_
  have value : (ofBytes 8 fun j => (cells w.kernel.memory 0x1000 8).getD j 0) =
      load w.kernel.memory 0x1000 8 := by
    refine ofBytes_congr fun j hj => ?_
    rw [List.getD_eq_getElem?_getD, getElem?_cells hj]
    rfl
  change EStateM.Result.ok () { w with watchpoints := w.watchpoints.modify 0 _ } = _
  rw [watching, ← value]
  rfl

theorem watchRun_created : WatchRun pagedPlatform Scripted.memory (pagedWorld 0x3000).kernel.memory
    [⟨.created 0x1000 .write 8, trapAddresses []⟩] (watchingBytes 0x0706050403020100 0) :=
  (WatchRun.empty rfl (TrapInvariant.fresh rfl)).created createWatchpoint_watchingBytes

end SdbDebugger
