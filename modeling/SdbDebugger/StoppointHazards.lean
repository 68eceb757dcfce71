import SdbDebugger.CommandErrors

/-! What can leave the commands on breakpoints, watchpoints and catchpoints. -/

namespace SdbDebugger
open EffectRules Exceptions ByteSpace KeyedList StoppointCollection

variable {κ : Type} {P : Platform κ} {n m : Nat} {d : Debugger κ}

/-! ### Ids -/

/-- The next id would overflow. -/
def Exhausted (id : Int) : Prop := 2 ^ 31 ≤ id + 1

theorem nextId_error {id : Int} {e : Fault} (raised : nextId id = .error e) :
    Exhausted id ∧ Escaping e := by
  unfold nextId at raised
  split at raised
  · simp at raised
  · next large =>
    cases raised
    exact ⟨not_lt.1 large, rfl⟩

section Lookup

variable {β : Type} [Stoppoint β] {points : List β} {id : Int}

theorem findById_lt {i : Nat} (found : findById points id = some i) : i < points.length := by
  obtain ⟨point, at_i, _⟩ := findById_eq_some found
  exact (List.getElem?_eq_some_iff.1 at_i).1

end Lookup

/-! ### Stoppoints under an id -/

section ById

variable {id : Int}

theorem tame_siteById {f : Nat → Sdb κ Unit}
    (tame : ∀ n m i, i < n → Tame Escaping (OnStoppoints (Held n m)) (f i)) :
    Tame Escaping SdbDebugger.Sound (siteById id >>= f) := by
  intro w sound
  change wp (liftFault (getById w.breakpointSites id) >>= f) _ _ w
  rw [wp_bind, wp_liftFault]
  refine ⟨fun i found => ?_, fun e raised => ⟨getById_mild raised, sound⟩⟩
  exact (tame _ _ i (getById_lt found) w (Sound.held sound)).mono (fun _ _ held => Held.sound held)
    fun _ _ failed => ⟨failed.1, Held.sound failed.2⟩

theorem tame_watchpointById {f : Nat → Sdb κ Unit}
    (tame : ∀ n m i, i < m → Tame Escaping (OnStoppoints (Held n m)) (f i)) :
    Tame Escaping SdbDebugger.Sound (watchpointById id >>= f) := by
  intro w sound
  change wp (liftFault (getById w.watchpoints id) >>= f) _ _ w
  rw [wp_bind, wp_liftFault]
  refine ⟨fun i found => ?_, fun e raised => ⟨getById_mild raised, sound⟩⟩
  exact (tame _ _ i (getById_lt found) w (Sound.held sound)).mono (fun _ _ held => Held.sound held)
    fun _ _ failed => ⟨failed.1, Held.sound failed.2⟩

theorem raises_removeSite {found : Option Nat} {w : World κ} (held : OnStoppoints (Held n m) w)
    (inside : ∀ i ∈ found, i < n) :
    Raises Escaping (removeSite P found) w ↔ found = none := by
  cases found with
  | none => exact iff_of_true ((raises_throw _).2 rfl) rfl
  | some i =>
    refine iff_of_false ?_ (by simp)
    refine (tame_disable (inside i rfl)).not_raises_bind held fun _ t _ _ => ?_
    exact raises_of_ok (a := ()) rfl

theorem raises_removeWatchpoint {found : Option Nat} {w : World κ}
    (held : OnStoppoints (Held n m) w) (inside : ∀ i ∈ found, i < m) :
    Raises Escaping (removeWatchpoint P found) w ↔ found = none := by
  cases found with
  | none => exact iff_of_true ((raises_throw _).2 rfl) rfl
  | some i =>
    refine iff_of_false ?_ (by simp)
    refine (tame_watchpointDisable (inside i rfl)).not_raises_bind held fun _ t _ _ => ?_
    exact raises_of_ok (a := ()) rfl

end ById

/-! ### New stoppoints -/

section Create

variable {address : VirtAddr} {w : World κ}

theorem Held.addSite {sites : List BreakpointSite} {points : List Watchpoint}
    (held : Held n m sites points) {site : BreakpointSite} (kept : site.WellKept) :
    Held (n + 1) m (sites ++ [site]) points := by
  refine ⟨⟨fun s member => ?_, held.watchpoints_kept⟩, ?_, held.watchpoints_length⟩
  · rcases List.mem_append.1 member with old | new
    · exact held.sites_kept s old
    · exact List.mem_singleton.1 new ▸ kept
  · rw [List.length_append, held.sites_length, List.length_singleton]

theorem Held.addWatchpoint {sites : List BreakpointSite} {points : List Watchpoint}
    (held : Held n m sites points) {point : Watchpoint} (kept : point.WellKept) :
    Held n (m + 1) sites (points ++ [point]) := by
  refine ⟨⟨held.sites_kept, fun p member => ?_⟩, held.sites_length, ?_⟩
  · rcases List.mem_append.1 member with old | new
    · exact held.watchpoints_kept p old
    · exact List.mem_singleton.1 new ▸ kept
  · rw [List.length_append, held.watchpoints_length, List.length_singleton]

theorem createBreakpointSite_held (hardware : Bool) (held : OnStoppoints (Held n m) w) :
    wp (createBreakpointSite address hardware false)
      (fun i t => OnStoppoints (Held (n + 1) m) t ∧ i < n + 1)
      (fun e t => OnStoppoints (Held n m) t ∧
        (Escaping e → containsAddress w.breakpointSites address = false ∧
          Exhausted w.breakpointSiteId)) w := by
  unfold createBreakpointSite
  rw [wp_bind, wp_get, wp_ite]
  split
  · exact ⟨held, fun escaping => absurd escaping Bool.false_ne_true⟩
  · next fresh =>
    rw [wp_bind, newSiteId, if_neg Bool.false_ne_true, wp_bind, wp_get, wp_bind, wp_liftFault]
    refine ⟨fun id _ => ⟨Held.addSite held fun on => absurd on Bool.false_ne_true, ?_⟩,
      fun e raised => ⟨held, fun _ => ?_⟩⟩
    · rw [held.sites_length]
      exact n.lt_succ_self
    · exact ⟨Bool.eq_false_iff.2 fresh, (nextId_error raised).1⟩

theorem raises_createBreakpointSite (hardware : Bool) (held : OnStoppoints (Held n m) w) :
    Raises Escaping (createBreakpointSite address hardware false) w ↔
      containsAddress w.breakpointSites address = false ∧ Exhausted w.breakpointSiteId := by
  constructor
  · intro h
    obtain ⟨e, t, run, escaping⟩ := h
    exact ((wp_of_error run _ _).1 (createBreakpointSite_held hardware held)).2 escaping
  · intro h
    obtain ⟨fresh, exhausted⟩ := h
    have overflow : nextId w.breakpointSiteId =
        .error (.undefinedBehaviour "signed overflow of an id") := if_neg (not_lt.2 exhausted)
    refine ⟨.undefinedBehaviour "signed overflow of an id", w, ?_, rfl⟩
    unfold createBreakpointSite
    rw [get_bind, if_neg (by simp [fresh])]
    refine bind_error ?_ _
    rw [newSiteId, if_neg Bool.false_ne_true]
    change (liftFault (nextId w.breakpointSiteId) >>= _) w = _
    rw [overflow]
    rfl

/-- No watchpoint is made, and not because of the checks that are there for it. -/
def Uncreatable (P : Platform κ) (w : World κ) (address : VirtAddr) (size : BitVec 64) : Prop :=
  containsAddress w.watchpoints address = false ∧ address &&& (size - 1) = 0 ∧
    (Exhausted w.watchpointId ∨ Unallocatable P 1 size.toNat ∨ 8 < size.toNat ∧
      ∃ data, (P.processVmReadv (remoteDescs address size.toNat) w.kernel).1 = .ok data)

theorem createWatchpoint_held (mode : StoppointMode) (size : BitVec 64)
    (held : OnStoppoints (Held n m) w) :
    wp (createWatchpoint P address mode size)
      (fun i t => OnStoppoints (Held n (m + 1)) t ∧ i < m + 1)
      (fun e t => OnStoppoints (Held n m) t ∧ (Escaping e → Uncreatable P w address size)) w := by
  unfold createWatchpoint
  rw [wp_bind, wp_get, wp_ite]
  split
  · exact ⟨held, fun escaping => absurd escaping Bool.false_ne_true⟩
  · next fresh =>
    rw [wp_ite]
    split
    · exact ⟨held, fun escaping => absurd escaping Bool.false_ne_true⟩
    · next aligned =>
      have checked : containsAddress w.watchpoints address = false ∧ address &&& (size - 1) = 0 :=
        ⟨Bool.eq_false_iff.2 fresh, not_not.1 aligned⟩
      rw [wp_bind, wp_liftFault]
      refine ⟨fun id _ => ?_, fun e raised => ⟨held, fun _ => ?_⟩⟩
      · rw [wp_bind, wp_modify, wp_bind, readMemory, wp_bind]
        by_cases possible : Unallocatable P 1 size.toNat
        · obtain ⟨e, run, _⟩ := newVector_error possible { w with watchpointId := id }
          rw [wp_of_error run]
          exact ⟨held, fun _ => ⟨checked.1, checked.2, .inr (.inl possible)⟩⟩
        · rw [wp_of_ok (newVector_ok possible _), wp_bind, wp_orSendErrno]
          refine ⟨fun data k run => ?_, fun e k _ => ⟨held, fun escaping => ?_⟩⟩
          · change wp (if 8 < size.toNat then _ else _) _ _ _
            rw [wp_ite]
            split
            · next large =>
              exact ⟨held, fun _ => ⟨checked.1, checked.2, .inr (.inr ⟨large, data, by rw [run]⟩)⟩⟩
            · next small =>
              refine ⟨Held.addWatchpoint held ⟨fun on => absurd on Bool.false_ne_true,
                not_lt.1 small⟩, ?_⟩
              rw [held.watchpoints_length]
              exact m.lt_succ_self
          · exact absurd escaping Bool.false_ne_true
      · exact ⟨checked.1, checked.2, .inl (nextId_error raised).1⟩

theorem raises_createWatchpoint (mode : StoppointMode) (size : BitVec 64)
    (held : OnStoppoints (Held n m) w) :
    Raises Escaping (createWatchpoint P address mode size) w ↔ Uncreatable P w address size := by
  constructor
  · intro h
    obtain ⟨e, t, run, escaping⟩ := h
    exact ((wp_of_error run _ _).1 (createWatchpoint_held mode size held)).2 escaping
  · intro h
    obtain ⟨fresh, aligned, cause⟩ := h
    unfold createWatchpoint
    rw [raises_get_bind, if_neg (by simp [fresh]), if_neg (not_not_intro aligned)]
    by_cases exhausted : Exhausted w.watchpointId
    · rw [nextId, if_neg (not_lt.2 exhausted)]
      exact (raises_throw _).2 rfl
    · rw [nextId, if_pos (not_le.1 exhausted), liftFault_ok, pure_bind, raises_modify_bind]
      by_cases possible : Unallocatable P 1 size.toNat
      · exact (raises_bind _).2 (.inl (raises_readMemory.2 possible))
      · obtain ⟨large, data, read⟩ := (cause.resolve_left exhausted).resolve_left possible
        have run := readMemory_ok (w := { w with watchpointId := w.watchpointId + 1 }) possible
          (Prod.ext read rfl)
        rw [raises_bind_of_ok run, if_pos large]
        exact (raises_throw _).2 rfl

end Create

/-! ### The handlers -/

/-- `breakpoint set` at an address that is left unset, or with an id that overflows. -/
def BreakpointSetHazard (args : List Text) (d : Debugger κ) : Prop :=
  (∃ hardware, hardwareOption args = .ok hardware) ∧
    (toIntegral .uint64 (arg args 2) 16 = .unset ∨
      ∃ address, toIntegral .uint64 (arg args 2) 16 = .value address ∧
        containsAddress d.world.breakpointSites (BitVec.ofInt 64 address) = false ∧
        Exhausted d.world.breakpointSiteId)

/-- An id that is left unset, or is that of no stoppoint to delete. -/
def IdHazard (verb : Text) (id : Parsed Int) (gone : Int → Prop) : Prop :=
  if isPrefix verb "enable" then id = .unset
  else if isPrefix verb "disable" then id = .unset
  else isPrefix verb "delete" = true ∧ (id = .unset ∨ ∃ v, id = .value v ∧ gone v)

/-- The hazards of the subcommands of `breakpoint`. -/
def BreakpointHazard (args : List Text) (d : Debugger κ) : Prop :=
  3 ≤ args.length ∧ isPrefix (arg args 1) "list" = false ∧
    if isPrefix (arg args 1) "set" then BreakpointSetHazard args d
    else
      IdHazard (arg args 1) (toIntegral .int (arg args 2) 10) fun id =>
        findById d.world.breakpointSites id = none

theorem raises_idCommand {verb : Text} {id : Parsed Int} {text : String} {gone : Int → Prop}
    {enable disable delete : Int → Cli κ Unit} (enabling : ∀ v, ¬ Raises Escaping (enable v) d)
    (disabling : ∀ v, ¬ Raises Escaping (disable v) d)
    (deleting : ∀ v, Raises Escaping (delete v) d ↔ gone v) :
    Raises Escaping (if !id.hasValue then printErr text
      else if isPrefix verb "enable" then evaluate id.deref >>= enable
      else if isPrefix verb "disable" then evaluate id.deref >>= disable
      else if isPrefix verb "delete" then evaluate id.deref >>= delete
      else pure () : Cli κ Unit) d ↔ IdHazard verb id gone := by
  unfold IdHazard
  by_cases holds : id.hasValue = true
  · rw [if_neg (by simp [holds])]
    split
    · exact raises_withQuiet holds enabling
    · split
      · exact raises_withQuiet holds disabling
      · split
        · next deletes =>
          rw [raises_withValue holds, and_iff_right deletes]
          exact or_congr_right (exists_congr fun v => and_congr_right fun _ => deleting v)
        · next other => exact iff_of_false (raises_pure ()).1 fun h => other h.1
  · rw [if_pos (by simp [holds])]
    have absent : id ≠ .unset ∧ ∀ v, id ≠ .value v := by
      cases id with
      | nullopt => simp
      | unset => exact absurd rfl holds
      | value v => exact absurd rfl holds
    refine iff_of_false (printErr_quiet _) fun h => ?_
    split_ifs at h
    · exact absent.1 h
    · exact absent.1 h
    · rcases h.2 with unset | ⟨v, same, _⟩
      · exact absent.1 unset
      · exact absent.2 v same

theorem hardwareOption_mild (args : List Text) : ¬ Fails Escaping (hardwareOption args) := by
  unfold hardwareOption
  split_ifs
  all_goals simp [Escaping, Fault.escapes]

/-- A new site is enabled at once. -/
theorem raises_setSite (address : VirtAddr) (hardware : Bool) (sound : d.Sound) :
    Raises Escaping (do
        let i ← onProcess (createBreakpointSite address hardware false)
        onProcess (BreakpointSite.enable P i)) d ↔
      containsAddress d.world.breakpointSites address = false ∧
        Exhausted d.world.breakpointSiteId := by
  have held := Sound.held sound
  rw [raises_onProcess_bind, raises_createBreakpointSite hardware held]
  refine or_iff_left fun h => ?_
  obtain ⟨i, w, run, raised⟩ := h
  have made := (wp_of_ok run _ _).1 (createBreakpointSite_held hardware held)
  exact (tame_enable made.2).not_raises made.1 (raises_onProcess.1 raised)

theorem raises_handleBreakpointSet (args : List Text) (sound : d.Sound) :
    Raises Escaping (handleBreakpointSet P args) d ↔ BreakpointSetHazard args d := by
  unfold handleBreakpointSet BreakpointSetHazard
  generalize toIntegral .uint64 (arg args 2) 16 = parsed
  by_cases holds : parsed.hasValue = true
  · dsimp only
    rw [if_neg (by simp [holds]), raises_evaluate_bind, or_iff_right (hardwareOption_mild args),
      ← exists_and_right]
    refine exists_congr fun hardware => and_congr_right fun _ => ?_
    rw [raises_withValue holds]
    exact or_congr_right (exists_congr fun address => and_congr_right fun _ =>
      raises_setSite _ hardware sound)
  · dsimp only
    rw [if_pos (by simp [holds])]
    refine iff_of_false (printErr_quiet _) fun h => holds ?_
    rcases h.2 with rfl | ⟨address, rfl, _⟩
    · rfl
    · rfl

theorem tame_listBreakpoints : Tame Escaping Debugger.Sound (listBreakpoints : Cli κ Unit) := by
  refine Tame.get.bind fun d => ?_
  split
  · exact tame_print _
  · exact (tame_print _).bind fun _ => tame_print _

theorem raises_handleBreakpointCommand (args : List Text) (sound : d.Sound) :
    Raises Escaping (handleBreakpointCommand P args) d ↔ BreakpointHazard args d := by
  have held := Sound.held sound
  unfold handleBreakpointCommand BreakpointHazard
  by_cases few : args.length < 2
  · rw [if_pos few]
    exact iff_of_false ((tame_helpOn _).not_raises sound) fun h => by omega
  rw [if_neg few]
  by_cases lists : isPrefix (arg args 1) "list" = true
  · rw [if_pos lists]
    exact iff_of_false (tame_listBreakpoints.not_raises sound) fun h => by simp [lists] at h
  rw [if_neg lists]
  by_cases short : args.length < 3
  · rw [if_pos short]
    exact iff_of_false ((tame_helpOn _).not_raises sound) fun h => by omega
  rw [if_neg short]
  have enough : 3 ≤ args.length := not_lt.1 short
  have other : isPrefix (arg args 1) "list" = false := Bool.eq_false_iff.2 lists
  simp only [enough, other, true_and]
  by_cases sets : isPrefix (arg args 1) "set" = true
  · rw [if_pos sets, if_pos sets, raises_handleBreakpointSet args sound]
  rw [if_neg sets, if_neg sets]
  refine raises_idCommand
    (fun v => (tame_onProcess (tame_siteById fun _ _ _ => tame_enable)).not_raises sound)
    (fun v => (tame_onProcess (tame_siteById fun _ _ _ => tame_disable)).not_raises sound)
    fun v => ?_
  rw [raises_onProcess]
  exact raises_removeSite held fun i found => held.sites_length ▸ findById_lt found

/-- `watchpoint set` with a number that is left unset, or of what cannot be made. -/
def WatchpointSetHazard (P : Platform κ) (args : List Text) (d : Debugger κ) : Prop :=
  args.length = 5 ∧ (∃ mode, watchpointMode (arg args 3) = some mode) ∧
    (toIntegral .uint64 (arg args 2) 16).hasValue = true ∧
    (toIntegral .uint64 (arg args 4) 10).hasValue = true ∧
    (toIntegral .uint64 (arg args 2) 16 = .unset ∨ toIntegral .uint64 (arg args 4) 10 = .unset ∨
      ∃ address size, toIntegral .uint64 (arg args 2) 16 = .value address ∧
        toIntegral .uint64 (arg args 4) 10 = .value size ∧
        Uncreatable P d.world (BitVec.ofInt 64 address) (BitVec.ofInt 64 size))

/-- The hazards of the subcommands of `watchpoint`. -/
def WatchpointHazard (P : Platform κ) (args : List Text) (d : Debugger κ) : Prop :=
  2 ≤ args.length ∧ isPrefix (arg args 1) "list" = false ∧
    if isPrefix (arg args 1) "set" then WatchpointSetHazard P args d
    else 3 ≤ args.length ∧
      IdHazard (arg args 1) (toIntegral .int (arg args 2) 10) fun id =>
        findById d.world.watchpoints id = none

theorem raises_addWatchpoint (address : VirtAddr) (mode : StoppointMode) (size : BitVec 64)
    (sound : d.Sound) :
    Raises Escaping (do
        let i ← onProcess (createWatchpoint P address mode size)
        onProcess (Watchpoint.enable P i)) d ↔ Uncreatable P d.world address size := by
  have held := Sound.held sound
  rw [raises_onProcess_bind, raises_createWatchpoint mode size held]
  refine or_iff_left fun h => ?_
  obtain ⟨i, w, run, raised⟩ := h
  have made := (wp_of_ok run _ _).1 (createWatchpoint_held mode size held)
  exact (tame_watchpointEnable made.2).not_raises made.1 (raises_onProcess.1 raised)

theorem raises_handleWatchpointSet (args : List Text) (sound : d.Sound) :
    Raises Escaping (handleWatchpointSet P args) d ↔ WatchpointSetHazard P args d := by
  have help : ¬ Raises Escaping (helpOn "watchpoint" : Cli κ Unit) d :=
    (tame_helpOn _).not_raises sound
  unfold handleWatchpointSet WatchpointSetHazard
  by_cases five : args.length = 5
  · rw [if_neg (not_not_intro five), and_iff_right five]
    generalize toIntegral .uint64 (arg args 2) 16 = address
    generalize toIntegral .uint64 (arg args 4) 10 = size
    dsimp only
    cases known : watchpointMode (arg args 3) with
    | none => exact iff_of_false help fun h => by simp at h
    | some mode =>
      by_cases holds : address.hasValue = true ∧ size.hasValue = true
      · obtain ⟨first, second⟩ := holds
        dsimp only
        rw [if_neg (by simp [first, second]), raises_withValue first, and_iff_right ⟨mode, rfl⟩,
          and_iff_right first, and_iff_right second]
        cases address with
        | nullopt => simp [Parsed.hasValue] at first
        | unset => exact iff_of_true (.inl rfl) (.inl rfl)
        | value a =>
          refine or_congr_right ⟨fun h => ?_, fun h => ?_⟩
          · obtain ⟨_, same, raised⟩ := h
            cases same
            refine ((raises_withValue second).1 raised).imp_right fun h => ?_
            obtain ⟨s, rfl, raised⟩ := h
            exact ⟨a, s, rfl, rfl, (raises_addWatchpoint _ mode _ sound).1 raised⟩
          · refine ⟨a, rfl, (raises_withValue second).2 (h.imp_right fun h => ?_)⟩
            obtain ⟨_, s, same, rfl, uncreatable⟩ := h
            cases same
            exact ⟨s, rfl, (raises_addWatchpoint _ mode _ sound).2 uncreatable⟩
      · dsimp only
        rw [if_pos (by simpa [or_iff_not_imp_left] using holds)]
        exact iff_of_false help fun h => holds ⟨h.2.1, h.2.2.1⟩
  · rw [if_pos five]
    exact iff_of_false help fun h => five h.1

theorem tame_handleWatchpointList :
    Tame Escaping Debugger.Sound (handleWatchpointList : Cli κ Unit) := by
  refine Tame.get.bind fun d => ?_
  split
  · exact tame_print _
  · exact (tame_print _).bind fun _ => tame_print _

theorem raises_handleWatchpointCommand (args : List Text) (sound : d.Sound) :
    Raises Escaping (handleWatchpointCommand P args) d ↔ WatchpointHazard P args d := by
  have held := Sound.held sound
  unfold handleWatchpointCommand WatchpointHazard
  by_cases few : args.length < 2
  · rw [if_pos few]
    exact iff_of_false ((tame_helpOn _).not_raises sound) fun h => by omega
  rw [if_neg few, and_iff_right (not_lt.1 few)]
  by_cases lists : isPrefix (arg args 1) "list" = true
  · rw [if_pos lists]
    exact iff_of_false (tame_handleWatchpointList.not_raises sound) fun h => by simp [lists] at h
  rw [if_neg lists, and_iff_right (Bool.eq_false_iff.2 lists)]
  by_cases sets : isPrefix (arg args 1) "set" = true
  · rw [if_pos sets, if_pos sets, raises_handleWatchpointSet args sound]
  rw [if_neg sets, if_neg sets]
  by_cases short : args.length < 3
  · rw [if_pos short]
    exact iff_of_false ((tame_helpOn _).not_raises sound) fun h => by omega
  rw [if_neg short, and_iff_right (not_lt.1 short)]
  refine raises_idCommand
    (fun v => (tame_onProcess (tame_watchpointById fun _ _ _ => tame_watchpointEnable)).not_raises
      sound)
    (fun v => (tame_onProcess (tame_watchpointById fun _ _ _ => tame_watchpointDisable)).not_raises
      sound) fun v => ?_
  rw [raises_onProcess]
  exact raises_removeWatchpoint held fun i found => held.watchpoints_length ▸ findById_lt found

/-- A list of system calls with, after elements that are known, one that begins with a digit and
is not a number that fits. -/
def CatchpointHazard (args : List Text) : Prop :=
  3 ≤ args.length ∧ isPrefix (arg args 1) "syscall" = true ∧
    ¬ (args.length = 3 ∧ arg args 2 = "none".toList) ∧
    ∃ before item after, split ',' (arg args 2) = before ++ item :: after ∧
      (∀ syscall ∈ before, ∃ id, syscallArgument syscall = .ok id) ∧
      isDecimalDigit (peek item) = true ∧ ∀ id, toIntegral .int item 10 ≠ .value id

theorem escapes_syscallArgument {syscall : Text} :
    Fails Escaping (syscallArgument syscall) ↔
      isDecimalDigit (peek syscall) = true ∧ ∀ id, toIntegral .int syscall 10 ≠ .value id := by
  unfold syscallArgument
  split
  · next digit => rw [escapes_get, and_iff_right digit]
  · next other =>
    refine iff_of_false ?_ fun h => other h.1
    unfold syscallNameToId
    split
    · simp
    · simp [Escaping, Fault.escapes]

theorem raises_handleCatchpointCommand (args : List Text) (sound : d.Sound) :
    Raises Escaping (handleCatchpointCommand args : Cli κ Unit) d ↔ CatchpointHazard args := by
  unfold handleCatchpointCommand CatchpointHazard
  by_cases few : args.length < 2
  · rw [if_pos few]
    exact iff_of_false ((tame_helpOn _).not_raises sound) fun h => by omega
  rw [if_neg few]
  by_cases syscall : isPrefix (arg args 1) "syscall" = true
  · rw [if_pos syscall, handleSyscallCatchpointCommand, raises_evaluate_bind]
    have quiet : ∀ policy, ¬ Raises Escaping (onProcess (setSyscallCatchPolicy policy)) d :=
      fun policy => raises_of_ok (a := ()) rfl
    rw [or_iff_left fun h => quiet _ h.choose_spec.2, syscallPolicy, fails_ite]
    split
    · next nothing => exact iff_of_false (fails_ok _).1 fun h => h.2.2.1 nothing
    · next listed =>
      rw [fails_ite]
      split
      · next enough =>
        rw [fails_map, fails_mapM, and_iff_right enough, and_iff_right syscall,
          and_iff_right listed]
        refine exists_congr fun before => exists_congr fun item => exists_congr fun after => ?_
        rw [escapes_syscallArgument]
      · next short => exact iff_of_false (fails_ok _).1 fun h => short h.1
  · rw [if_neg syscall]
    exact iff_of_false (raises_pure _).1 fun h => syscall h.2.1

/-! ### What the handlers leave behind -/

theorem preserves_removeSiteById (id : Int) : Preserves SdbDebugger.Sound (removeSiteById P id) := by
  intro w sound
  change wp (removeSite P (findById w.breakpointSites id)) _ _ w
  cases found : findById w.breakpointSites id with
  | none => exact sound
  | some i =>
    change wp (BreakpointSite.disable P i >>= _) _ _ w
    rw [wp_bind]
    refine (tame_disable (findById_lt found) w (Sound.held sound)).mono (fun _ t held => ?_)
      fun _ _ failed => Held.sound failed.2
    refine ⟨fun site member => ?_, held.watchpoints_kept⟩
    exact held.sites_kept site (List.mem_of_mem_eraseIdx member)

theorem preserves_removeWatchpointById (id : Int) :
    Preserves SdbDebugger.Sound (removeWatchpointById P id) := by
  intro w sound
  change wp (removeWatchpoint P (findById w.watchpoints id)) _ _ w
  cases found : findById w.watchpoints id with
  | none => exact sound
  | some i =>
    change wp (Watchpoint.disable P i >>= _) _ _ w
    rw [wp_bind]
    refine (tame_watchpointDisable (findById_lt found) w (Sound.held sound)).mono
      (fun _ t held => ?_) fun _ _ failed => Held.sound failed.2
    refine ⟨held.sites_kept, fun point member => ?_⟩
    exact held.watchpoints_kept point (List.mem_of_mem_eraseIdx member)

theorem preserves_setSite (address : VirtAddr) (hardware : Bool) :
    Preserves Debugger.Sound (do
      let i ← onProcess (createBreakpointSite address hardware false)
      onProcess (BreakpointSite.enable P i)) := by
  intro d sound
  have held := Sound.held sound
  rw [wp_bind, wp_onProcess]
  refine (createBreakpointSite_held hardware held).mono (fun i w made => ?_)
    fun _ _ failed => Held.sound failed.1
  rw [wp_onProcess]
  exact (tame_enable made.2 w made.1).mono (fun _ _ held => Held.sound held)
    fun _ _ failed => Held.sound failed.2

theorem preserves_addWatchpoint (address : VirtAddr) (mode : StoppointMode) (size : BitVec 64) :
    Preserves Debugger.Sound (do
      let i ← onProcess (createWatchpoint P address mode size)
      onProcess (Watchpoint.enable P i)) := by
  intro d sound
  have held := Sound.held sound
  rw [wp_bind, wp_onProcess]
  refine (createWatchpoint_held mode size held).mono (fun i w made => ?_)
    fun _ _ failed => Held.sound failed.1
  rw [wp_onProcess]
  exact (tame_watchpointEnable made.2 w made.1).mono (fun _ _ held => Held.sound held)
    fun _ _ failed => Held.sound failed.2

theorem preserves_handleBreakpointCommand (args : List Text) :
    Preserves Debugger.Sound (handleBreakpointCommand P args) := by
  unfold handleBreakpointCommand handleBreakpointSet
  refine Preserves.ite (preserves_helpOn _) (Preserves.ite tame_listBreakpoints.preserves
    (Preserves.ite (preserves_helpOn _) (Preserves.ite ?_ ?_)))
  · refine Preserves.ite (preserves_printErr _) ?_
    exact preserves_evaluate.bind fun hardware => preserves_evaluate.bind fun address =>
      preserves_setSite _ hardware
  · refine Preserves.ite (preserves_printErr _) (Preserves.ite ?_ (Preserves.ite ?_
      (Preserves.ite ?_ (Preserves.pure _))))
    · exact preserves_evaluate.bind fun id =>
        (tame_onProcess (tame_siteById fun _ _ _ => tame_enable)).preserves
    · exact preserves_evaluate.bind fun id =>
        (tame_onProcess (tame_siteById fun _ _ _ => tame_disable)).preserves
    · exact preserves_evaluate.bind fun id => preserves_onProcess (preserves_removeSiteById id)

theorem preserves_handleWatchpointCommand (args : List Text) :
    Preserves Debugger.Sound (handleWatchpointCommand P args) := by
  unfold handleWatchpointCommand handleWatchpointSet
  refine Preserves.ite (preserves_helpOn _) (Preserves.ite tame_handleWatchpointList.preserves
    (Preserves.ite (Preserves.ite (preserves_helpOn _) ?_) (Preserves.ite (preserves_helpOn _) ?_)))
  · dsimp only
    split
    · exact preserves_helpOn _
    · refine Preserves.ite (preserves_helpOn _) ?_
      exact preserves_evaluate.bind fun address => preserves_evaluate.bind fun size =>
        preserves_addWatchpoint _ _ _
  · refine Preserves.ite (preserves_printErr _) (Preserves.ite ?_ (Preserves.ite ?_
      (Preserves.ite ?_ (Preserves.pure _))))
    · exact preserves_evaluate.bind fun id =>
        (tame_onProcess (tame_watchpointById fun _ _ _ => tame_watchpointEnable)).preserves
    · exact preserves_evaluate.bind fun id =>
        (tame_onProcess (tame_watchpointById fun _ _ _ => tame_watchpointDisable)).preserves
    · exact preserves_evaluate.bind fun id =>
        preserves_onProcess (preserves_removeWatchpointById id)

theorem preserves_handleCatchpointCommand (args : List Text) :
    Preserves Debugger.Sound (handleCatchpointCommand args : Cli κ Unit) := by
  unfold handleCatchpointCommand
  refine Preserves.ite (preserves_helpOn _) (Preserves.ite ?_ (Preserves.pure _))
  exact preserves_evaluate.bind fun policy =>
    preserves_onProcess (Preserves.modify fun _ sound => sound)

end SdbDebugger
