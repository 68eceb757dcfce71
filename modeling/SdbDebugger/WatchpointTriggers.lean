import SdbDebugger.HardwareAttribution

/-! Which watchpoints read their new value at a stop. DR6 may name several causes at once,
and a single step may be one of them; `wait_on_signal` follows the lowest bit of a hardware
break and no other. -/

namespace SdbDebugger
open EffectRules ActionRuns ByteSpace KeyedList StoppointCollection

variable {κ : Type} {P : Platform κ}

/-- The bit of the watchpoint's slot is set in DR6. -/
def Watchpoint.Triggered (point : Watchpoint) (status : Word) : Prop :=
  point.isEnabled = true ∧ 0 ≤ point.hardwareRegisterIndex ∧
    status.getLsbD point.hardwareRegisterIndex.toNat = true

instance (point : Watchpoint) (status : Word) : Decidable (point.Triggered status) :=
  inferInstanceAs (Decidable (_ ∧ _))

/-- The watchpoint that reads its new value at a hardware stop. -/
def currentWatchpoint : Sdb κ (Option Nat) := do
  let id ← getCurrentHardwareStoppoint
  match id with
  | .inl _ => pure none
  | .inr id => do
    let w ← get
    let i ← liftFault (getById w.watchpoints id)
    pure (some i)

theorem updateTriggeredWatchpoint_eq :
    updateTriggeredWatchpoint P =
      currentWatchpoint >>= fun found => found.forM (Watchpoint.updateData P) := by
  rw [updateTriggeredWatchpoint, currentWatchpoint, bind_assoc]
  congr 1
  funext id
  cases id with
  | inl _ => rfl
  | inr id =>
    simp only [bind_assoc, pure_bind]
    rfl

theorem preserves_currentWatchpoint {I : World κ → Prop} :
    Preserves I (currentWatchpoint : Sdb κ (Option Nat)) := by
  refine preserves_getCurrentHardwareStoppoint.bind fun id => ?_
  cases id with
  | inl _ => exact Preserves.pure _
  | inr id => exact Preserves.get.bind fun _ => (preserves_liftFault _).bind fun _ => Preserves.pure _

/-- The calls of `update_data` at a stop, by position. -/
def updateCalls (reason : StopReason) (w : World κ) : List Nat :=
  if reason.trapReason = some .hardwareBreak then
    match currentWatchpoint w with
    | .ok found _ => found.toList
    | .error _ _ => []
  else []

/-- A hardware break whose lowest bit names a register with the address of the watchpoint, at
which there is no breakpoint site. -/
structure Watchpoint.Answered (point : Watchpoint) (reason : StopReason) (w : World κ) : Prop where
  hardware : reason.trapReason = some .hardwareBreak
  register : ∃ i < 8, ctz (dr6 w) = .ok i ∧ debugRegister w i = point.address
  alone : ∀ site ∈ w.breakpointSites, site.address ≠ point.address

section Calls

variable {w t : World κ} {reason : StopReason}

theorem stoppointAt_eq_inr {address : VirtAddr} {id : Int}
    (found : stoppointAt w address = .ok (.inr id)) :
    (∃ point ∈ w.watchpoints, point.address = address ∧ point.id = id) ∧
      ∀ site ∈ w.breakpointSites, site.address ≠ address := by
  unfold stoppointAt at found
  split at found
  · cases here : findByAddress w.breakpointSites address with
    | none => simp [getByAddress, here, bind, Except.bind] at found
    | some i =>
      obtain ⟨site, at_i, _⟩ := findByAddress_eq_some here
      simp [getByAddress, here, deref, at_i, bind, Except.bind, pure, Except.pure] at found
  · next absent =>
    refine ⟨?_, fun site member same => absent (containsAddress_iff.2 ⟨site, member, same⟩)⟩
    cases here : findByAddress w.watchpoints address with
    | none => simp [getByAddress, here, bind, Except.bind] at found
    | some i =>
      obtain ⟨point, at_i, same⟩ := findByAddress_eq_some here
      simp [getByAddress, here, deref, at_i, bind, Except.bind, pure, Except.pure] at found
      exact ⟨point, List.mem_of_getElem? at_i, same, found⟩

theorem getCurrentHardwareStoppoint_inv {id : Int ⊕ Int}
    (named : getCurrentHardwareStoppoint w = .ok id t) :
    ∃ i < 8, ctz (dr6 w) = .ok i ∧ stoppointAt w (debugRegister w i) = .ok id ∧ t = w := by
  cases lowest : ctz (dr6 w) with
  | error e =>
    unfold getCurrentHardwareStoppoint at named
    rw [bind_ok (readDr6 w), lowest] at named
    cases named
  | ok i =>
    by_cases inside : i < 8
    · rw [getCurrentHardwareStoppoint_eq lowest inside] at named
      cases found : stoppointAt w (debugRegister w i) with
      | error e =>
        rw [found] at named
        cases named
      | ok id' =>
        rw [found] at named
        cases named
        exact ⟨i, inside, rfl, found, rfl⟩
    · unfold getCurrentHardwareStoppoint at named
      rw [bind_ok (readDr6 w), lowest, liftFault_ok, pure_bind,
        bind_error (readDebug_beyond (by omega) w)] at named
      cases named

variable (distinct : (keys w).Distinct)
include distinct

theorem currentWatchpoint_answered {j : Nat} {point : Watchpoint}
    (at_j : w.watchpoints[j]? = some point) (answered : point.Answered reason w) :
    currentWatchpoint w = .ok (some j) w := by
  obtain ⟨i, inside, lowest, register⟩ := answered.register
  have named : getCurrentHardwareStoppoint w = .ok (.inr point.id) w := by
    rw [getCurrentHardwareStoppoint_eq lowest inside, register,
      stoppointAt_watchpoint distinct (List.mem_of_getElem? at_j) answered.alone]
    rfl
  rw [currentWatchpoint, bind_ok named]
  change (liftFault (getById w.watchpoints point.id) >>= _) w = _
  rw [getById_of_distinct distinct at_j]
  rfl

theorem currentWatchpoint_inv (hardware : reason.trapReason = some .hardwareBreak) {j : Nat}
    (current : currentWatchpoint w = .ok (some j) t) :
    ∃ point, w.watchpoints[j]? = some point ∧ point.Answered reason w := by
  cases named : getCurrentHardwareStoppoint w with
  | error e u =>
    rw [currentWatchpoint, bind_error named] at current
    cases current
  | ok id u =>
    rw [currentWatchpoint, bind_ok named] at current
    obtain ⟨i, inside, lowest, found, rfl⟩ := getCurrentHardwareStoppoint_inv named
    cases id with
    | inl id => cases current
    | inr id =>
      obtain ⟨⟨point, member, register, rfl⟩, alone⟩ := stoppointAt_eq_inr found
      obtain ⟨k, at_k⟩ := List.mem_iff_getElem?.1 member
      change (liftFault (getById u.watchpoints point.id) >>= _) u = _ at current
      rw [getById_of_distinct distinct at_k] at current
      cases current
      exact ⟨point, at_k, hardware, ⟨i, inside, lowest, register.symm⟩, register ▸ alone⟩

theorem updateCalls_answered {j : Nat} {point : Watchpoint}
    (at_j : w.watchpoints[j]? = some point) (answered : point.Answered reason w) :
    updateCalls reason w = [j] := by
  rw [updateCalls, if_pos answered.hardware, currentWatchpoint_answered distinct at_j answered]
  rfl

/-- At most one call, and that on a watchpoint which is answered. -/
theorem updateCalls_cases (reason : StopReason) :
    updateCalls reason w = [] ∨ ∃ j point, w.watchpoints[j]? = some point ∧
      point.Answered reason w ∧ updateCalls reason w = [j] := by
  by_cases hardware : reason.trapReason = some .hardwareBreak
  · rw [updateCalls, if_pos hardware]
    cases current : currentWatchpoint w with
    | error e u => exact .inl rfl
    | ok found u =>
      cases found with
      | none => exact .inl rfl
      | some j =>
        obtain ⟨point, at_j, answered⟩ := currentWatchpoint_inv distinct hardware current
        exact .inr ⟨j, point, at_j, answered, rfl⟩
  · rw [updateCalls, if_neg hardware]
    exact .inl rfl

/-- A watchpoint gets one call if it is answered, and none otherwise. -/
theorem updateCalls_count {j : Nat} {point : Watchpoint}
    (at_j : w.watchpoints[j]? = some point) (reason : StopReason) (expected : Prop)
    [Decidable expected] :
    (updateCalls reason w).count j = (if expected then 1 else 0) ↔
      (expected ↔ point.Answered reason w) := by
  by_cases answered : point.Answered reason w
  · rw [updateCalls_answered distinct at_j answered]
    simp [answered]
  · have absent : (updateCalls reason w).count j = 0 := by
      cases updateCalls_cases distinct reason with
      | inl none => simp [none]
      | inr some =>
        obtain ⟨k, q, at_k, answered', calls⟩ := some
        rw [calls, List.count_singleton]
        have other : k ≠ j := by
          rintro rfl
          rw [at_k, Option.some.injEq] at at_j
          exact answered (at_j ▸ answered')
        simp [other]
    rw [absent]
    simp [answered]

end Calls

/-! ### What the calls record -/

section Record

variable {w t u : World κ} {reason r : StopReason} {wait : Sdb κ StopReason}

theorem updateData_inv {j : Nat} {point : Watchpoint} (at_j : t.watchpoints[j]? = some point)
    (run : Watchpoint.updateData P j t = .ok () u) :
    ∃ read s, readMemory P point.address point.size.toNat t = .ok read s ∧
      u.watchpoints = t.watchpoints.modify j fun p =>
        { p with previousData := p.data, data := ofBytes 8 fun k => read.getD k 0 } := by
  rw [Watchpoint.updateData, bind_ok (watchpointAt_eq at_j)] at run
  cases reading : readMemory P point.address point.size.toNat t with
  | error e s =>
    rw [bind_error reading] at run
    cases run
  | ok read s =>
    have kept : s.watchpoints = t.watchpoints :=
      (preserves_readMemory (I := fun w : World κ => w.watchpoints = t.watchpoints) P
        (fun _ _ same => same) _ _).of_ok rfl reading
    rw [bind_ok reading] at run
    refine ⟨read, s, rfl, ?_⟩
    split at run
    · cases run
    · cases run
      change s.watchpoints.modify j _ = _
      rw [kept]

/-- Answering a stop at which nothing is to be updated, and no call ignored. -/
theorem keeps_watchpoints (heard : ¬ Ignored reason t)
    (other : reason.trapReason ≠ some .hardwareBreak) (run : respond P wait reason t = .ok r u) :
    u.watchpoints = t.watchpoints := by
  have blind : RegisterBlind P fun w : World κ => w.watchpoints = t.watchpoints :=
    ⟨fun _ _ same => same, fun _ _ _ same => same, fun _ _ same => same⟩
  have kept := wp_respond_heard (fun pc => Registers.preserves_writeById P blind _ _)
    (fun hardware => absurd hardware other) heard wait rfl
  exact ((wp_of_ok run _ _).1 kept).2

/-- A stop that is answered: nothing changes, or the one call of `update_data` is made. -/
theorem respond_updates (attended : Attended reason t) (heard : ¬ Ignored reason t)
    (run : respond P wait reason t = .ok r u) :
    (updateCalls reason t = [] ∧ u.watchpoints = t.watchpoints) ∨
      ∃ j, updateCalls reason t = [j] ∧ Watchpoint.updateData P j t = .ok () u := by
  by_cases hardware : reason.trapReason = some .hardwareBreak
  · rw [respond_hardware attended hardware, updateTriggeredWatchpoint_eq, bind_assoc] at run
    rw [updateCalls, if_pos hardware]
    obtain ⟨found, s, current, rest⟩ := bind_inv run
    have still : s = t :=
      preserves_currentWatchpoint.of_ok (I := fun w : World κ => w = t) rfl current
    subst still
    rw [current]
    obtain ⟨_, v, updated, done⟩ := bind_inv rest
    cases done
    cases found with
    | none =>
      cases updated
      exact .inl ⟨rfl, rfl⟩
    | some j => exact .inr ⟨j, rfl, updated⟩
  · exact .inl ⟨by rw [updateCalls, if_neg hardware], keeps_watchpoints heard hardware run⟩

end Record

/-! ### Sessions -/

/-- At the SIGTRAP stop `reason` every triggered watchpoint has `update_data` called once, so
that it has its old value and the one read, and every other watchpoint stays as it is. -/
structure TriggersRecorded (P : Platform κ) (reason : StopReason) (t : World κ) : Prop where
  calls : ∀ (j : Nat) (point : Watchpoint), t.watchpoints[j]? = some point →
    (updateCalls reason t).count j = if point.Triggered (dr6 t) then 1 else 0
  recorded : ¬ Ignored reason t → ∀ fuel w left r u, Handles P fuel w left reason t →
    waitOnSignal P fuel w = .ok r u →
    ∀ (j : Nat) (point : Watchpoint), t.watchpoints[j]? = some point →
      (point.Triggered (dr6 t) →
        ∃ read s, readMemory P point.address point.size.toNat t = .ok read s ∧
          u.watchpoints[j]? = some { point with
            previousData := point.data, data := ofBytes 8 fun k => read.getD k 0 }) ∧
      (¬ point.Triggered (dr6 t) → u.watchpoints[j]? = some point)

section Sessions

variable {w t : World κ} {reason : StopReason}

theorem recorded_of_calls (distinct : (keys t).Distinct) (attended : Attended reason t)
    (calls : ∀ (j : Nat) (point : Watchpoint), t.watchpoints[j]? = some point →
      (updateCalls reason t).count j = if point.Triggered (dr6 t) then 1 else 0) :
    TriggersRecorded P reason t := by
  refine ⟨calls, fun heard fuel w left r u handles run j point at_j => ?_⟩
  rw [handles.run] at run
  have count := calls j point at_j
  rcases respond_updates attended heard run with ⟨none, same⟩ | ⟨k, one, updated⟩
  · -- nothing is updated, so nothing was triggered
    have untouched : ¬ point.Triggered (dr6 t) := by
      intro triggered
      simp [none, triggered] at count
    exact ⟨fun triggered => absurd triggered untouched, fun _ => by rw [same, at_j]⟩
  · rw [one, List.count_singleton] at count
    by_cases here : k = j
    · subst here
      have triggered : point.Triggered (dr6 t) := by
        by_contra untouched
        simp [untouched] at count
      obtain ⟨read, s, reading, points⟩ := updateData_inv at_j updated
      refine ⟨fun _ => ⟨read, s, reading, ?_⟩, fun untouched => absurd triggered untouched⟩
      rw [points, List.getElem?_modify_eq, at_j]
      rfl
    · have untouched : ¬ point.Triggered (dr6 t) := by
        intro triggered
        simp [triggered, here] at count
      refine ⟨fun triggered => absurd triggered untouched, fun _ => ?_⟩
      obtain ⟨q, at_k⟩ : ∃ q, t.watchpoints[k]? = some q := by
        rcases updateCalls_cases distinct reason with none | ⟨i, q, at_i, _, calls⟩
        · simp [none] at one
        · cases calls.symm.trans one
          exact ⟨q, at_i⟩
      obtain ⟨read, s, _, points⟩ := updateData_inv at_k updated
      simp [points, here, at_j]

/-- In every session, at every SIGTRAP stop: the triggered watchpoints are recorded exactly if
they are the ones that are answered. -/
theorem triggersRecorded_iff {ops : List SessionOp} {op : SessionOp} {w w' t : World κ}
    {reason : StopReason} (noSites : w.breakpointSites = []) (noWatchpoints : w.watchpoints = [])
    (reach : run (sessionStep P) ops w = some w') (handled : HandledBy P op w' reason t)
    (attended : Attended reason t) :
    TriggersRecorded P reason t ↔
      ∀ point ∈ t.watchpoints, (point.Triggered (dr6 t) ↔ point.Answered reason t) := by
  have start : (keys w).Distinct := by
    refine ⟨?_, ?_, ?_, ?_⟩
    all_goals simp [keys, noSites, noWatchpoints]
  have distinct := handled.keys_distinct (distinct_of_run start reach)
  constructor
  · intro recorded point member
    obtain ⟨j, at_j⟩ := List.mem_iff_getElem?.1 member
    exact (updateCalls_count distinct at_j reason _).1 (recorded.calls j point at_j)
  · intro exact_answers
    refine recorded_of_calls distinct attended fun j point at_j => ?_
    exact (updateCalls_count distinct at_j reason _).2
      (exact_answers point (List.mem_of_getElem? at_j))

end Sessions

theorem triggersRecorded_iff_watchedData :
    ∃ w' reason t, run (sessionStep scriptedPlatform) watchedData
        (scriptedWorld [] [hardwareStop 2]) = some w' ∧
      HandledBy scriptedPlatform (.waitOnSignal 1) w' reason t ∧
      TriggersRecorded scriptedPlatform reason t := by
  obtain ⟨w', reason, t, reach, handled, facts⟩ := stopAfter_spec (show (stopAfter watchedData
    [hardwareStop 2]).any (fun stop => decide (stop.1.trapReason = some .hardwareBreak ∧
      ctz (dr6 stop.2) = .ok 1 ∧ ∀ point ∈ stop.2.watchpoints, point.Triggered (dr6 stop.2) ∧
        debugRegister stop.2 1 = point.address ∧
        ∀ site ∈ stop.2.breakpointSites, site.address ≠ point.address)) = true by decide +kernel)
  obtain ⟨hardware, lowest, points⟩ := of_decide_eq_true facts
  have recorded := triggersRecorded_iff (P := scriptedPlatform) rfl rfl reach handled
    (handled.attended hardware)
  refine ⟨w', reason, t, reach, handled, recorded.2 fun point member => ?_⟩
  obtain ⟨triggered, register, alone⟩ := points point member
  exact iff_of_true triggered ⟨hardware, ⟨1, by omega, lowest, register⟩, alone⟩

/-- Two watchpoints on overlapping ranges. -/
def overlappingRanges : List SessionOp :=
  [.stoppoint (.createWatchpoint 0x3000 .write 8), .stoppoint (.enableWatchpoint 0),
    .stoppoint (.createWatchpoint 0x3004 .write 4), .stoppoint (.enableWatchpoint 1), .resume]

/-- One write to both; only the first reads its new value. -/
theorem not_triggersRecorded_overlappingRanges :
    ∃ w' reason t, run (sessionStep scriptedPlatform) overlappingRanges
        (scriptedWorld [] [hardwareStop 3]) = some w' ∧
      HandledBy scriptedPlatform (.waitOnSignal 1) w' reason t ∧ Attended reason t ∧
      ¬ TriggersRecorded scriptedPlatform reason t := by
  obtain ⟨w', reason, t, reach, handled, facts⟩ := stopAfter_spec (show (stopAfter
    overlappingRanges [hardwareStop 3]).any (fun stop => decide (
      stop.1.trapReason = some .hardwareBreak ∧
      ∃ point ∈ stop.2.watchpoints[1]?, point.Triggered (dr6 stop.2) ∧
        (updateCalls stop.1 stop.2).count 1 = 0)) = true by decide +kernel)
  obtain ⟨hardware, point, at_1, triggered, missed⟩ := of_decide_eq_true facts
  refine ⟨w', reason, t, reach, handled, handled.attended hardware, fun recorded => ?_⟩
  have count := recorded.calls 1 point at_1
  rw [missed, if_pos triggered] at count
  contradiction

end SdbDebugger
