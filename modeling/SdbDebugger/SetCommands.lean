import SdbDebugger.CommandHazards
import SdbDebugger.HardwareFailures
import SdbDebugger.PagedKernel
import SdbDebugger.StoppointToggles
import SdbDebugger.WatchpointShapes

/-! `breakpoint set` and `watchpoint set`. The new stoppoint is in the collection before it is
enabled, and it stays there if that fails. -/

namespace SdbDebugger
open EffectRules ByteSpace StoppointCollection

variable {κ : Type} {P : Platform κ} {mem : κ → Memory} {debug : κ → Nat → Word}

/-- Stoppoints, slot registers and memory are as before. -/
structure NoTrace (mem : κ → Memory) (debug : κ → Nat → Word) (w t : World κ) : Prop extends
    HardwareUntouched debug w t where
  memory : mem t.kernel = mem w.kernel

/-- What is raised is an exception, and all is as before. -/
structure RaisesCleanly (mem : κ → Memory) (debug : κ → Nat → Word) (w : World κ) (e : Fault)
    (t : World κ) : Prop where
  defined : ∀ reason, e ≠ .undefinedBehaviour reason
  kept : NoTrace mem debug w t

/-- A command that raises leaves no trace. Where its behaviour is undefined, nothing is known. -/
def FailsWithoutTrace (mem : κ → Memory) (debug : κ → Nat → Word) (m : Cli κ Unit)
    (d : Debugger κ) : Prop :=
  ∀ e d', m d = .error e d' → RaisesCleanly mem debug d.world e d'.world

theorem NoTrace.refl (w : World κ) : NoTrace mem debug w w := ⟨.refl w, rfl⟩

/-! ### Requests that are accepted -/

/-- The trap byte can be written. -/
def WordAccepted (P : Platform κ) (k : κ) (address : VirtAddr) : Prop :=
  ∃ v k' k'', P.peekData address k = (.ok v, k') ∧
    P.pokeData address ((v &&& ~~~0xff) ||| BreakpointSite.int3.setWidth 64) k' = (.ok (), k'')

/-- A slot is free, its two registers can be written and it can have the size. -/
def SlotAccepted (P : Platform κ) (w : World κ) (address : VirtAddr) (mode : StoppointMode)
    (size : BitVec 64) : Prop :=
  ∃ i k flag k', findFreeStoppointRegister (cachedControl w) = .ok i ∧
    P.pokeUser (debugOffset i) address w.kernel = (.ok (), k) ∧
    encodeHardwareStoppointSize size = .ok flag ∧
    P.pokeUser (debugOffset 7) (setControl (cachedControl w) i (encodeHardwareStoppointMode mode) flag)
      k = (.ok (), k')

section Accepted

variable {w : World κ} {address : VirtAddr} {mode : StoppointMode} {size : BitVec 64}

theorem setHardware_raises_iff :
    (∃ e t, setHardwareStoppoint P address mode size w = .error e t) ↔
      ¬ SlotAccepted P w address mode size := by
  constructor
  · rintro ⟨e, t, raised⟩ ⟨i, k, flag, k', found, poke, encoded, poke'⟩
    cases (setHardware_done found poke encoded poke').symm.trans raised
  · intro lacking
    rcases found : findFreeStoppointRegister (cachedControl w) with what | i
    · exact ⟨_, _, setHardware_full found⟩
    rcases poke : P.pokeUser (debugOffset i) address w.kernel with ⟨e | _, k⟩
    · exact ⟨_, _, setHardware_addressRefused found poke⟩
    rcases encoded : encodeHardwareStoppointSize size with what | flag
    · exact ⟨_, _, setHardware_unencodable found poke encoded⟩
    rcases poke' : P.pokeUser (debugOffset 7) (setControl (cachedControl w) i
        (encodeHardwareStoppointMode mode) flag) k with ⟨e | _, k'⟩
    · exact ⟨_, _, setHardware_controlRefused found poke encoded poke'⟩
    · exact absurd ⟨i, k, flag, k', found, poke, encoded, poke'⟩ lacking

end Accepted

section Enable

variable {w : World κ} {i : Nat}

theorem install_software_raises_iff {site : BreakpointSite} (soft : site.isHardware = false) :
    (∃ e t, BreakpointSite.install P i site w = .error e t) ↔
      ¬ WordAccepted P w.kernel site.address := by
  unfold BreakpointSite.install
  rw [soft, if_neg Bool.false_ne_true]
  rcases peek : P.peekData site.address w.kernel with ⟨e | v, k⟩
  · refine iff_of_true ⟨_, _, bind_error (orSendErrno_error peek) _⟩ ?_
    rintro ⟨v, k', k'', again, _⟩
    cases peek.symm.trans again
  · rw [bind_ok (orSendErrno_ok peek)]
    rcases poke : P.pokeData site.address
        ((v &&& ~~~0xff) ||| BreakpointSite.int3.setWidth 64) k with ⟨e | _, k'⟩
    · refine iff_of_true ⟨_, _, orSendErrno_error poke⟩ ?_
      rintro ⟨v', k', k'', again, stored⟩
      cases peek.symm.trans again
      cases poke.symm.trans stored
    · refine iff_of_false ?_ (not_not_intro ⟨v, k, k', peek, poke⟩)
      rintro ⟨e, t, raised⟩
      cases (orSendErrno_ok poke).symm.trans raised

/-- What the enabling of a new site needs. -/
def SiteAccepted (P : Platform κ) (w : World κ) (address : VirtAddr) (hardware : Bool) : Prop :=
  if hardware then SlotAccepted P w address .execute 1 else WordAccepted P w.kernel address

theorem siteEnable_raises_iff {site : BreakpointSite} (at_i : w.breakpointSites[i]? = some site)
    (off : site.isEnabled = false) :
    (∃ e t, BreakpointSite.enable P i w = .error e t) ↔
      ¬ SiteAccepted P w site.address site.isHardware := by
  unfold SiteAccepted
  cases hard : site.isHardware with
  | true =>
    rw [if_pos rfl, ← setHardware_raises_iff]
    exact exists₂_congr fun _ _ => siteEnable_raises at_i off hard
  | false =>
    rw [if_neg Bool.false_ne_true, ← install_software_raises_iff hard]
    unfold BreakpointSite.enable
    rw [bind_ok (siteAt_eq at_i), off, if_neg Bool.false_ne_true]
    exact exists₂_congr fun _ _ => bind_eq_error fun _ _ => ⟨_, _, rfl⟩

theorem watchpointEnable_raises_iff {point : Watchpoint} (at_i : w.watchpoints[i]? = some point)
    (off : point.isEnabled = false) :
    (∃ e t, Watchpoint.enable P i w = .error e t) ↔
      ¬ SlotAccepted P w point.address point.mode point.size := by
  rw [← setHardware_raises_iff]
  exact exists₂_congr fun _ _ => watchpointEnable_raises at_i off

end Enable

/-! ### Created, then enabled -/

section Set

variable {w : World κ} {address : VirtAddr} {mode : StoppointMode} {size : BitVec 64}

/-- The enabling of a stoppoint that was not there before: what it leaves behind is at least the
stoppoint. -/
theorem siteEnable_length {e : Fault} {t : World κ} {i : Nat}
    (raised : BreakpointSite.enable P i w = .error e t) :
    t.breakpointSites.length = w.breakpointSites.length := by
  have blind : ToggleBlind fun t : World κ => t.breakpointSites.length = w.breakpointSites.length :=
    ⟨⟨fun _ _ h => h, fun _ _ h => h, fun _ _ h => h⟩, fun _ _ h => h,
      fun t i f _ h => (List.length_modify f _ i).trans h, fun _ _ _ _ h => h⟩
  exact (blind.preserves_siteEnable i).of_error rfl raised

theorem watchpointEnable_length {e : Fault} {t : World κ} {i : Nat}
    (raised : Watchpoint.enable P i w = .error e t) : t.watchpoints.length = w.watchpoints.length := by
  have blind : ToggleBlind fun t : World κ => t.watchpoints.length = w.watchpoints.length :=
    ⟨⟨fun _ _ h => h, fun _ _ h => h, fun _ _ h => h⟩, fun _ _ h => h, fun _ _ _ _ h => h,
      fun t i f _ h => (List.length_modify f _ i).trans h⟩
  exact (blind.preserves_watchpointEnable i).of_error rfl raised

theorem createBreakpointSite_taken (hardware : Bool)
    (taken : containsAddress w.breakpointSites address = true) :
    createBreakpointSite address hardware false w =
      .error (.error ("breakpoint site already created at address " ++ toString address.toNat)) w := by
  unfold createBreakpointSite
  rw [get_bind, if_pos taken]
  rfl

theorem createBreakpointSite_exhausted (hardware : Bool)
    (fresh : ¬ containsAddress w.breakpointSites address = true)
    (exhausted : Exhausted w.breakpointSiteId) :
    createBreakpointSite address hardware false w =
      .error (.undefinedBehaviour "signed overflow of an id") w := by
  unfold createBreakpointSite
  rw [get_bind, if_neg fresh, newSiteId, if_neg Bool.false_ne_true]
  have overflow : nextId w.breakpointSiteId =
      .error (.undefinedBehaviour "signed overflow of an id") := if_neg (not_lt.2 exhausted)
  refine bind_error ?_ _
  change (liftFault (nextId w.breakpointSiteId) >>= _) w = _
  rw [overflow]
  rfl

theorem createBreakpointSite_accepted (hardware : Bool)
    (fresh : ¬ containsAddress w.breakpointSites address = true)
    (ids : ¬ Exhausted w.breakpointSiteId) :
    createBreakpointSite address hardware false w = .ok w.breakpointSites.length { w with
      breakpointSiteId := w.breakpointSiteId + 1
      breakpointSites := w.breakpointSites ++
        [⟨w.breakpointSiteId + 1, address, false, hardware, false, -1, 0⟩] } := by
  unfold createBreakpointSite
  rw [get_bind, if_neg fresh, newSiteId, if_neg Bool.false_ne_true]
  have next : nextId w.breakpointSiteId = .ok (w.breakpointSiteId + 1) := if_pos (not_le.1 ids)
  change ((liftFault (nextId w.breakpointSiteId) >>= _) >>= _ : Sdb κ Nat) w = _
  rw [next]
  rfl

/-- Where every exception leaves a trace, none may be raised. -/
theorem wp_raisesCleanly_iff {m : Sdb κ Unit} {s : World κ}
    (leaves : ∀ e t, m s = .error e t → ¬ NoTrace mem debug w t) :
    wp m (fun _ _ => True) (RaisesCleanly mem debug w) s ↔ ¬ ∃ e t, m s = .error e t := by
  rw [wp_iff]
  constructor
  · rintro ⟨_, clean⟩ ⟨e, t, raised⟩
    exact leaves e t raised (clean e t raised).kept
  · intro returns
    exact ⟨fun _ _ _ => trivial, fun e t raised => absurd ⟨e, t, raised⟩ returns⟩

theorem not_raisesCleanly {reason : String} {t : World κ} :
    ¬ RaisesCleanly mem debug w (.undefinedBehaviour reason) t := fun clean => clean.defined reason rfl

/-- A new site that cannot be enabled is a trace. -/
theorem setSite_clean_iff (hardware : Bool) :
    wp (createBreakpointSite address hardware false >>= BreakpointSite.enable P)
      (fun _ _ => True) (RaisesCleanly mem debug w) w ↔
    containsAddress w.breakpointSites address = true ∨
      ¬ Exhausted w.breakpointSiteId ∧ SiteAccepted P w address hardware := by
  by_cases taken : containsAddress w.breakpointSites address = true
  · rw [wp_of_error (bind_error (createBreakpointSite_taken hardware taken) _)]
    exact iff_of_true ⟨nofun, .refl w⟩ (.inl taken)
  rw [or_iff_right taken]
  by_cases exhausted : Exhausted w.breakpointSiteId
  · rw [wp_of_error (bind_error (createBreakpointSite_exhausted hardware taken exhausted) _)]
    exact iff_of_false not_raisesCleanly fun accepted => accepted.1 exhausted
  · rw [and_iff_right exhausted, wp, bind_ok (createBreakpointSite_accepted hardware taken exhausted)]
    refine (wp_raisesCleanly_iff fun e t raised kept => ?_).trans ?_
    · have length := siteEnable_length raised
      rw [kept.sites, List.length_append] at length
      simp at length
    · have new : (w.breakpointSites ++
          [(⟨w.breakpointSiteId + 1, address, false, hardware, false, -1, 0⟩ : BreakpointSite)])[
            w.breakpointSites.length]? = some _ := List.getElem?_concat_length
      exact (not_congr (siteEnable_raises_iff new rfl)).trans not_not

section Laws

variable (laws : MemoryLaws P.toKernel mem) (slots : SlotRequestLaws P.toKernel debug)
include laws slots

theorem Spent.noTrace {t : World κ} (spent : Spent P w t address size) : NoTrace mem debug w t := by
  obtain ⟨id, k, rfl, kernel⟩ := spent
  have kept : SlotsKept debug w.kernel k ∧ mem k = mem w.kernel := by
    rcases kernel with rfl | rfl
    · exact ⟨fun _ _ => rfl, rfl⟩
    · exact ⟨slots.processVmReadv_kept _ _, laws.processVmReadv_mem _ _⟩
  exact ⟨⟨fun _ _ => rfl, kept.1, rfl, rfl, rfl⟩, kept.2⟩

/-- A new watchpoint that cannot be enabled is a trace. -/
theorem setWatchpoint_clean_iff :
    wp (createWatchpoint P address mode size >>= Watchpoint.enable P)
      (fun _ _ => True) (RaisesCleanly mem debug w) w ↔
    CreationRefused P w address size ∨ ¬ Exhausted w.watchpointId ∧ size.toNat ≤ 8 ∧
      SlotAccepted P (afterValueRead w
        (P.processVmReadv (remoteDescs address size.toNat) w.kernel).2) address mode size := by
  by_cases refused : CreationRefused P w address size
  · obtain ⟨e, t, raised, mild, spent⟩ := createWatchpoint_refused mode refused
    rw [wp_of_error (bind_error raised _)]
    exact iff_of_true ⟨mild, spent.noTrace laws slots⟩ (.inl refused)
  rw [or_iff_right refused]
  unfold CreationRefused at refused
  rw [not_or, not_or, not_and, not_not] at refused
  obtain ⟨fresh, aligned, other⟩ := refused
  by_cases exhausted : Exhausted w.watchpointId
  · rw [wp_of_error (bind_error (createWatchpoint_exhausted mode fresh aligned exhausted) _)]
    exact iff_of_false not_raisesCleanly fun accepted => accepted.1 exhausted
  have created : ¬ Declined P w address size := by
    rintro (taken | odd | none | unread)
    · exact fresh taken
    · exact odd aligned
    · exact exhausted none
    · exact other exhausted unread
  obtain ⟨received, k, read, outcome⟩ := createWatchpoint_accepted mode created
  rw [and_iff_right exhausted, read]
  by_cases large : 8 < size.toNat
  · rw [if_pos large] at outcome
    rw [wp_of_error (bind_error outcome _)]
    exact iff_of_false not_raisesCleanly fun accepted => absurd accepted.1 (not_le.2 large)
  · rw [if_neg large] at outcome
    rw [and_iff_right (not_lt.1 large), wp, bind_ok outcome]
    refine (wp_raisesCleanly_iff fun e t raised kept => ?_).trans ?_
    · have length := watchpointEnable_length raised
      rw [kept.watchpoints, List.length_append] at length
      simp at length
    · exact (not_congr (watchpointEnable_raises_iff List.getElem?_concat_length rfl)).trans not_not

end Laws

end Set

/-! ### The commands -/

theorem failsWithoutTrace_iff {m : Cli κ Unit} {d : Debugger κ} :
    FailsWithoutTrace mem debug m d ↔
      wp m (fun _ _ => True) (fun e d' => RaisesCleanly mem debug d.world e d'.world) d := by
  rw [wp_iff]
  exact ⟨fun clean => ⟨fun _ _ _ => trivial, clean⟩, fun clean => clean.2⟩

/-- Two calls of the process in a row. -/
theorem wp_onProcess_seq {α : Type} {m : Sdb κ α} {f : α → Sdb κ Unit} {d : Debugger κ}
    {R : Fault → World κ → Prop} :
    wp (onProcess m >>= fun a => onProcess (f a)) (fun _ _ => True) (fun e d' => R e d'.world) d ↔
      wp (m >>= f) (fun _ _ => True) R d.world := by
  rw [wp_bind, wp_onProcess, wp_bind]
  have second : ∀ a w, wp (onProcess (f a)) (fun _ _ => True) (fun e d' => R e d'.world)
      { d with world := w } ↔ wp (f a) (fun _ _ => True) R w :=
    fun _ _ => wp_onProcess
  simp only [second]

/-- What `breakpoint set` needs in order not to leave a site behind. -/
def BreakpointSetClean (P : Platform κ) (args : List Text) (w : World κ) : Prop :=
  ∀ hardware, hardwareOption args = .ok hardware →
    toIntegral .uint64 (arg args 2) 16 ≠ .unset ∧
    ∀ address, toIntegral .uint64 (arg args 2) 16 = .value address →
      containsAddress w.breakpointSites (BitVec.ofInt 64 address) = true ∨
        ¬ Exhausted w.breakpointSiteId ∧ SiteAccepted P w (BitVec.ofInt 64 address) hardware

theorem hardwareOption_cases (args : List Text) :
    (∃ what, hardwareOption args = .error (.error what)) ∨
      ∃ hardware, hardwareOption args = .ok hardware := by
  unfold hardwareOption
  split_ifs
  · exact .inr ⟨true, rfl⟩
  · exact .inl ⟨_, rfl⟩
  · exact .inr ⟨false, rfl⟩

theorem handleBreakpointSet_clean_iff (args : List Text) (d : Debugger κ) :
    FailsWithoutTrace mem debug (handleBreakpointSet P args) d ↔
      BreakpointSetClean P args d.world := by
  rw [failsWithoutTrace_iff]
  unfold handleBreakpointSet BreakpointSetClean
  generalize toIntegral .uint64 (arg args 2) 16 = parsed
  dsimp only
  cases parsed with
  | nullopt => exact iff_of_true trivial fun _ _ => ⟨nofun, nofun⟩
  | unset =>
    rcases hardwareOption_cases args with ⟨what, option⟩ | ⟨hardware, option⟩
    · rw [option]
      exact iff_of_true ⟨nofun, .refl d.world⟩ nofun
    · rw [option]
      exact iff_of_false not_raisesCleanly fun clean => (clean hardware rfl).1 rfl
  | value address =>
    rcases hardwareOption_cases args with ⟨what, option⟩ | ⟨hardware, option⟩
    · rw [option]
      exact iff_of_true ⟨nofun, .refl d.world⟩ nofun
    · rw [option]
      refine (wp_onProcess_seq.trans (setSite_clean_iff hardware)).trans
        ⟨fun clean => ?_, fun clean => ?_⟩
      · intro _ same
        cases same
        refine ⟨nofun, fun _ same => ?_⟩
        cases same
        exact clean
      · exact (clean hardware rfl).2 address rfl

/-- What `watchpoint set` needs in order not to leave a watchpoint behind. -/
def WatchpointSetClean (P : Platform κ) (args : List Text) (w : World κ) : Prop :=
  ∀ mode, args.length = 5 → watchpointMode (arg args 3) = some mode →
    toIntegral .uint64 (arg args 2) 16 ≠ .nullopt → toIntegral .uint64 (arg args 4) 10 ≠ .nullopt →
    ∃ address size, toIntegral .uint64 (arg args 2) 16 = .value address ∧
      toIntegral .uint64 (arg args 4) 10 = .value size ∧
      (CreationRefused P w (BitVec.ofInt 64 address) (BitVec.ofInt 64 size) ∨
        ¬ Exhausted w.watchpointId ∧ (BitVec.ofInt 64 size).toNat ≤ 8 ∧
          SlotAccepted P (afterValueRead w (P.processVmReadv
            (remoteDescs (BitVec.ofInt 64 address) (BitVec.ofInt 64 size).toNat) w.kernel).2)
            (BitVec.ofInt 64 address) mode (BitVec.ofInt 64 size))

theorem handleWatchpointSet_clean_iff (laws : MemoryLaws P.toKernel mem)
    (slots : SlotRequestLaws P.toKernel debug) (args : List Text) (d : Debugger κ) :
    FailsWithoutTrace mem debug (handleWatchpointSet P args) d ↔
      WatchpointSetClean P args d.world := by
  rw [failsWithoutTrace_iff]
  have help : wp (helpOn "watchpoint" : Cli κ Unit) (fun _ _ => True)
      (fun e d' => RaisesCleanly mem debug d.world e d'.world) d := trivial
  unfold handleWatchpointSet WatchpointSetClean
  by_cases five : args.length = 5
  · rw [if_neg (not_not_intro five)]
    generalize toIntegral .uint64 (arg args 2) 16 = parsed
    generalize toIntegral .uint64 (arg args 4) 10 = number
    dsimp only
    cases watchpointMode (arg args 3) with
    | none => exact iff_of_true help nofun
    | some mode =>
      cases parsed with
      | nullopt => exact iff_of_true help fun _ _ _ some => absurd rfl some
      | unset =>
        cases number with
        | nullopt => exact iff_of_true help fun _ _ _ _ some => absurd rfl some
        | unset =>
          refine iff_of_false not_raisesCleanly fun clean => ?_
          obtain ⟨_, _, read, _⟩ := clean mode five rfl nofun nofun
          cases read
        | value size =>
          refine iff_of_false not_raisesCleanly fun clean => ?_
          obtain ⟨_, _, read, _⟩ := clean mode five rfl nofun nofun
          cases read
      | value address =>
        cases number with
        | nullopt => exact iff_of_true help fun _ _ _ _ some => absurd rfl some
        | unset =>
          refine iff_of_false not_raisesCleanly fun clean => ?_
          obtain ⟨_, _, _, read, _⟩ := clean mode five rfl nofun nofun
          cases read
        | value size =>
          refine (wp_onProcess_seq.trans (setWatchpoint_clean_iff laws slots)).trans
            ⟨fun clean => ?_, fun clean => ?_⟩
          · intro _ _ same _ _
            cases same
            exact ⟨address, size, rfl, rfl, clean⟩
          · obtain ⟨_, _, same, same', clean⟩ := clean mode five rfl nofun nofun
            cases same
            cases same'
            exact clean
  · rw [if_pos five]
    exact iff_of_true help fun _ h => absurd h five

/-- The `set` commands leave no trace when they fail, exactly if nothing can go wrong behind the
creation. -/
theorem setCommands_clean_iff (laws : MemoryLaws P.toKernel mem)
    (slots : SlotRequestLaws P.toKernel debug) (args : List Text) (d : Debugger κ) :
    (FailsWithoutTrace mem debug (handleBreakpointSet P args) d ↔
      BreakpointSetClean P args d.world) ∧
    (FailsWithoutTrace mem debug (handleWatchpointSet P args) d ↔
      WatchpointSetClean P args d.world) :=
  ⟨handleBreakpointSet_clean_iff args d, handleWatchpointSet_clean_iff laws slots args d⟩

/-- A misaligned watchpoint is refused before anything is inserted. -/
theorem setCommands_clean_iff_misaligned :
    FailsWithoutTrace Scripted.memory Scripted.debug (handleWatchpointSet refusingPlatform
      ["watchpoint".toList, "set".toList, "0x1001".toList, "write".toList, "2".toList])
      scriptedDebugger := by
  refine (setCommands_clean_iff Refusing.memoryLaws Refusing.slotRequestLaws _ _).2.2 ?_
  intro mode _ _ _ _
  have first : toIntegral .uint64 "0x1001".toList 16 = .value 0x1001 := by decide +kernel
  have second : toIntegral .uint64 "2".toList 10 = .value 2 := by decide +kernel
  exact ⟨0x1001, 2, first, second, .inl (.inr (.inl (by decide)))⟩

/-- A process of which the first three pages are mapped. -/
def pagedDebugger : Debugger Scripted := ⟨pagedWorld 0x3000, emptyElf, 1, [], []⟩

/-- The site at an address that is not mapped stays, and blocks the next attempt. -/
theorem not_failsWithoutTrace_unmapped :
    ¬ FailsWithoutTrace Scripted.memory Scripted.debug (handleBreakpointSet pagedPlatform
      ["breakpoint".toList, "set".toList, "0x5000".toList]) pagedDebugger ∧
    ∃ d d', handleBreakpointSet pagedPlatform
        ["breakpoint".toList, "set".toList, "0x5000".toList] pagedDebugger =
          .error (.error "enabling breakpoint site failed: Input/output error") d ∧
      handleBreakpointSet pagedPlatform
        ["breakpoint".toList, "set".toList, "0x5000".toList] d =
          .error (.error "breakpoint site already created at address 20480") d' := by
  refine ⟨fun clean => ?_, _, _, rfl, rfl⟩
  have left := (clean _ _ rfl).kept.sites
  revert left
  decide +kernel

end SdbDebugger
