import SdbDebugger.Auxv
import SdbDebugger.ElfAddresses
import SdbDebugger.ElfContents
import SdbDebugger.LifetimeRuns
import SdbDebugger.SectionNumbering
import SdbDebugger.StopReport

/-! `target`: a process together with the file it runs. Where the file was loaded to is worked
out from its entry point and the auxiliary vector. -/

namespace SdbDebugger
open EffectRules ActionRuns Exceptions

def atEntry : Int := 9

/-- `create_loaded_elf`. An entry of the map that is missing is made, and is zero. -/
def createLoadedElf (fuel : Nat) (calls : FileCalls) (canAllocate : Nat → Bool)
    (auxv : Option (List Byte)) (data : List Byte) : Except Fault Elf := do
  let auxv ← getAuxv fuel auxv
  let obj ← Elf.load calls canAllocate data
  pure (obj.notifyLoaded ((auxv atEntry).getD 0 - obj.header.eEntry))

/-- The files of a process, as they are read in a state of the kernel. -/
structure TargetFiles (κ : Type) where
  calls : FileCalls
  auxv : κ → Option (List Byte)
  program : κ → List Byte

section Target

variable {κ : Type} (H : Host κ) (files : TargetFiles κ)

def loadElf (fuel : Nat) : Sdb κ Elf := do
  let w ← get
  liftFault (createLoadedElf fuel files.calls H.canAllocate (files.auxv w.kernel)
    (files.program w.kernel))

namespace Target

/-- `target::launch`, from where the child of `process::launch` has become the program. -/
def launch (fuel : Nat) : Sdb κ Elf := do
  launchDebuggee H fuel true
  owning H true (loadElf H files fuel)

/-- `target::attach`. -/
def attach (fuel : Nat) (pid : Int) : Sdb κ Elf := do
  SdbDebugger.attach H fuel pid
  owning H false (loadElf H files fuel)

end Target

end Target

/-! ### The object -/

section Loaded

variable {calls : FileCalls} {canAllocate : Nat → Bool} {auxv : Option (List Byte)}
  {data : List Byte} {elf : Elf}

theorem getAuxv_eq_ok {file : Option (List Byte)} {map : MapMacroAuxv} :
    (∃ fuel, getAuxv fuel file = .ok map) ↔
      ∃ k, FirstNull (file.getD []) k ∧ map = mapOf (entriesTo (file.getD []) k) := by
  constructor
  · rintro ⟨fuel, run⟩
    have null : ∃ k, wordAt (file.getD []) (2 * k) = some atNull := by
      by_contra absent
      exact getAuxv_endless (fun k null => absent ⟨k, null⟩) fuel map run
    obtain ⟨k, first⟩ := exists_firstNull null
    cases file with
    | none => exact absurd first.null (not_wordAt_nil _)
    | some content =>
      have here : FirstNull content k := first
      rw [getAuxv_null here] at run
      split at run
      · exact ⟨k, first, (Except.ok.inj run).symm⟩
      · cases run
  · rintro ⟨k, first, rfl⟩
    cases file with
    | none => exact absurd first.null (not_wordAt_nil _)
    | some content =>
      have here : FirstNull content k := first
      refine ⟨k + 1, ?_⟩
      rw [getAuxv_null here, if_pos (Nat.lt_succ_self k)]
      rfl

/-- The bias that the entry point has been moved by. -/
def entryBias (auxv data : List Byte) (k : Nat) : VirtAddr :=
  (mapOf (entriesTo auxv k) atEntry).getD 0 - (File.header data).eEntry

theorem mapped_of_load (loaded : Elf.load calls canAllocate data = .ok elf) :
    mapFile calls data = .ok () := by
  obtain ⟨⟨⟩, mapped, _⟩ := bind_eq_ok.1 loaded
  exact mapped

/-- The object is made exactly of the files that can be mapped and read in, in processes whose
vector ends; it holds what is in the file. -/
theorem createLoadedElf_iff (calls : FileCalls) (canAllocate : Nat → Bool)
    (auxv : Option (List Byte)) (data : List Byte) (elf : Elf) :
    (∃ fuel, createLoadedElf fuel calls canAllocate auxv data = .ok elf) ↔
      mapFile calls data = .ok () ∧ Loadable canAllocate data ∧
        ∃ k, FirstNull (auxv.getD []) k ∧
          elf = (File.loaded data).notifyLoaded (entryBias (auxv.getD []) data k) := by
  constructor
  · rintro ⟨fuel, run⟩
    obtain ⟨map, read, rest⟩ := bind_eq_ok.1 run
    obtain ⟨obj, load, made⟩ := bind_eq_ok.1 rest
    have mapped := mapped_of_load load
    obtain ⟨loadable, rfl⟩ := (load_eq_ok mapped).1 load
    obtain ⟨k, first, rfl⟩ := getAuxv_eq_ok.1 ⟨fuel, read⟩
    exact ⟨mapped, loadable, k, first, (Except.ok.inj made).symm⟩
  · rintro ⟨mapped, loadable, k, first, rfl⟩
    obtain ⟨fuel, read⟩ := getAuxv_eq_ok.2 ⟨k, first, rfl⟩
    refine ⟨fuel, bind_eq_ok.2 ⟨_, read, bind_eq_ok.2 ⟨_, (load_eq_ok mapped).2 ⟨loadable, rfl⟩, ?_⟩⟩⟩
    rfl

/-- The kernel has moved the file by `base`, and its vector says so. -/
structure MovedBy (base : VirtAddr) (auxv data : List Byte) (k : Nat) : Prop where
  first : FirstNull auxv k
  small : ∀ e ∈ entriesTo auxv k, e.1.toNat < 2 ^ 31
  entry : lastValue (entriesTo auxv k) atEntry = some (base + (File.header data).eEntry)

theorem MovedBy.entryBias {base : VirtAddr} {auxv : List Byte} {k : Nat}
    (moved : MovedBy base auxv data k) : entryBias auxv data k = base := by
  have found : mapOf (entriesTo auxv k) atEntry = some (base + (File.header data).eEntry) :=
    ((mapOf_eq_lastValue_iff _).2 moved.small atEntry).trans moved.entry
  rw [SdbDebugger.entryBias, found]
  exact BitVec.add_sub_cancel base _

theorem noWrap_zero {base : VirtAddr} (noWrap : NoWrap elf base) : NoWrap elf 0 := by
  intro sect member
  have file := (noWrap sect member).1
  refine ⟨file, ?_⟩
  have zero : (0 : VirtAddr).toNat = 0 := rfl
  omega

theorem functionMessage_congr {one other : Elf} {pc there : VirtAddr} (data : one.data = other.data)
    (sections : one.sectionMap = other.sectionMap)
    (symbol : one.symbolContainingAddress pc = other.symbolContainingAddress there) :
    functionMessage one pc = functionMessage other there := by
  unfold functionMessage Elf.getString Elf.stringTable Elf.getSection
  rw [symbol, data, sections]

/-- Wherever the kernel has moved the file, a run-time address means what the address that was
moved there means in the file, and a stop there names the same function; the other addresses
mean nothing. -/
theorem createLoadedElf_locates {fuel k : Nat} {base : VirtAddr} {content : List Byte}
    (run : createLoadedElf fuel calls canAllocate (some content) data = .ok elf)
    (moved : MovedBy base content data k) (noWrap : NoWrap (File.loaded data) base) :
    (∀ f, InSection (File.loaded data) f →
      elf.toVirtAddr (some f) = .ok (f + base) ∧ elf.toFileAddr (f + base) = some f ∧
      elf.symbolContainingAddress (f + base) =
        (File.loaded data).symbolContainingFileAddr (some f) ∧
      functionMessage elf (f + base) = functionMessage (File.loaded data) f) ∧
    ∀ v, (∀ f, InSection (File.loaded data) f → v ≠ f + base) →
      elf.toFileAddr v = none ∧ functionMessage elf v = .ok "" := by
  obtain ⟨_, _, k', first, made⟩ := (createLoadedElf_iff calls canAllocate _ data elf).1 ⟨fuel, run⟩
  obtain rfl : k' = k := first.unique moved.first
  have placed : elf = (File.loaded data).notifyLoaded base := by
    rw [made]
    exact congrArg _ moved.entryBias
  subst placed
  constructor
  · intro f inside
    have back := toFileAddr_of_inSection noWrap inside
    have unmoved := toFileAddr_of_inSection (noWrap_zero noWrap) inside
    have symbol : ((File.loaded data).notifyLoaded base).symbolContainingAddress (f + base) =
        (File.loaded data).symbolContainingFileAddr (some f) := by
      rw [Elf.symbolContainingAddress, back]
      rfl
    refine ⟨toVirtAddr_of_inSection noWrap inside, back, symbol, ?_⟩
    refine functionMessage_congr rfl rfl (symbol.trans ?_)
    have same : f + 0 = f := by simp
    rw [same] at unmoved
    exact (congrArg (File.loaded data).symbolContainingFileAddr unmoved).symm
  · intro v outside
    have nothing : ((File.loaded data).notifyLoaded base).toFileAddr v = none := by
      cases back : ((File.loaded data).notifyLoaded base).toFileAddr v with
      | none => rfl
      | some f =>
        obtain ⟨inside, here⟩ := inSection_of_toFileAddr noWrap back
        exact absurd here (outside f inside)
    refine ⟨nothing, ?_⟩
    unfold functionMessage Elf.symbolContainingAddress
    rw [nothing]
    rfl

end Loaded

/-! ### A function in a file, moved -/

/-- A header of a section with an address, all below 65536. -/
def placedSection (name type address offset size link entsize : Byte)
    (addressHigh offsetHigh : Byte) : List Byte :=
  [name, 0, 0, 0, type, 0, 0, 0] ++ List.replicate 8 0 ++ [address, addressHigh] ++
    List.replicate 6 0 ++ [offset, offsetHigh] ++ List.replicate 6 0 ++ (size :: List.replicate 7 0) ++
    [link, 0, 0, 0, 0, 0, 0, 0] ++ List.replicate 8 0 ++ (entsize :: List.replicate 7 0)

/-- Sixteen bytes of `.text` at 0x1000, with the function `f` in the last eight. -/
def functionFile : List Byte :=
  (fileHeader 0x40 4 3).set 25 0x10 ++ List.replicate 64 0 ++
    placedSection 1 1 0 0 0x10 0 0 0x10 0 ++ placedSection 7 2 0x40 0x40 0x30 3 0x18 0 1 ++
    placedSection 15 3 0 0x70 0x19 0 0 0 1 ++
    List.replicate 24 0 ++ [23, 0, 0, 0, 0x12, 0, 1, 0] ++ [8, 0x10, 0, 0, 0, 0, 0, 0] ++
    (8 :: List.replicate 7 0) ++
    [0, 0x2e, 0x74, 0x65, 0x78, 0x74, 0, 0x2e, 0x73, 0x79, 0x6d, 0x74, 0x61, 0x62, 0,
      0x2e, 0x73, 0x74, 0x72, 0x74, 0x61, 0x62, 0, 0x66, 0]

example : functionMessage (File.loaded functionFile) 0x1009 = .ok " (f)" := by decide +kernel

def allSucceed : FileCalls := ⟨none, none, none⟩

/-- The size of a page, and the entry point of a file that has been moved by 0x5555000. -/
def movedVector : List Byte :=
  [6, 0, 0, 0, 0, 0, 0, 0, 0, 0x10, 0, 0, 0, 0, 0, 0] ++
    [9, 0, 0, 0, 0, 0, 0, 0, 0, 0x60, 0x55, 5, 0, 0, 0, 0] ++ List.replicate 8 0

theorem movedBy_movedVector : MovedBy 0x5555000 movedVector functionFile 2 where
  first := ⟨by decide +kernel, by decide +kernel⟩
  small e member := by
    have entries : entriesTo movedVector 2 = [(6, 0x1000), (9, 0x5556000)] := by decide +kernel
    rw [entries] at member
    rcases List.mem_pair.1 member with rfl | rfl
    · exact of_decide_eq_true rfl
    · exact of_decide_eq_true rfl
  entry := by decide +kernel

theorem createLoadedElf_locates_function :
    ∃ elf, createLoadedElf 3 allSucceed (fun _ => true) (some movedVector) functionFile = .ok elf ∧
      functionMessage elf 0x5556009 = functionMessage (File.loaded functionFile) 0x1009 := by
  obtain ⟨elf, run⟩ : ∃ elf, createLoadedElf 3 allSucceed (fun _ => true) (some movedVector)
      functionFile = .ok elf := by
    have isOk : (createLoadedElf 3 allSucceed (fun _ => true) (some movedVector)
        functionFile).toOption.isSome = true := by decide +kernel
    cases outcome : createLoadedElf 3 allSucceed (fun _ => true) (some movedVector) functionFile with
    | error e =>
      rw [outcome] at isOk
      cases isOk
    | ok elf => exact ⟨elf, rfl⟩
  have sections : (File.loaded functionFile).sectionHeaders = [⟨0, 0, 0, 0, 0, 0, 0, 0⟩,
      ⟨1, 1, 0, 0x1000, 0, 0x10, 0, 0⟩, ⟨7, 2, 0, 0x40, 0x140, 0x30, 3, 0x18⟩,
      ⟨15, 3, 0, 0, 0x170, 0x19, 0, 0⟩] := by decide +kernel
  have noWrap : NoWrap (File.loaded functionFile) 0x5555000 := by
    unfold NoWrap
    rw [sections]
    decide
  have inside : InSection (File.loaded functionFile) 0x1009 := by
    unfold InSection
    decide +kernel
  exact ⟨elf, run, ((createLoadedElf_locates run movedBy_movedVector noWrap).1 0x1009 inside).2.2.2⟩

/-! ### The target -/

section Outcome

variable {κ : Type} {H : Host κ} {view : κ → Tracee} (laws : HostLaws H view)
include laws

omit laws in
/-- What a target is made with. -/
def Equipped (H : Host κ) (files : TargetFiles κ) (fuel : Nat) (elf : Elf) (t : World κ) : Prop :=
  createLoadedElf fuel files.calls H.canAllocate (files.auxv t.kernel) (files.program t.kernel) =
    .ok elf

theorem wp_owning_loadElf {files : TargetFiles κ} {c terminateOnEnd : Bool} {n : Nat}
    (own : terminateOnEnd = true → c = true) (fuel : Nat) {w : World κ}
    (tracked : Tracked view c n True w) :
    wp (owning H terminateOnEnd (loadElf H files fuel))
      (fun elf t => t = w ∧ Equipped H files fuel elf t)
      (fun e t => Unreturned e ∨ ∃ s, LeftBehind view terminateOnEnd s t) w := by
  refine wp_owning ?_
  unfold loadElf
  rw [wp_bind, wp_get, wp_liftFault]
  refine ⟨fun elf made => ⟨rfl, made⟩, fun e _ => ?_⟩
  split
  · next fatal => exact .inl fatal
  · exact (wp_destroy laws tracked own).mono (fun _ u left => .inr ⟨w, left⟩) fun _ _ h => h.elim

/-- A process that has been taken over, and then its file. `R` is what may be left where
either is refused. -/
theorem wp_withFile {files : TargetFiles κ} {make : Sdb κ Unit} {c terminateOnEnd : Bool} {n : Nat}
    {R : Tracee → Prop} (own : terminateOnEnd = true → c = true) (fuel : Nat) {w : World κ}
    (made : wp make (fun _ t => Tracked view c n True t ∧ (view t.kernel).optionsSet = true)
      (fun e t => Unreturned e ∨ R (view t.kernel)) w)
    (left : ∀ s t, LeftBehind view terminateOnEnd s t → R (view t.kernel)) :
    wp (make >>= fun _ => owning H terminateOnEnd (loadElf H files fuel))
      (fun elf t => Tracked view c n True t ∧ (view t.kernel).optionsSet = true ∧
        Equipped H files fuel elf t)
      (fun e t => Unreturned e ∨ R (view t.kernel)) w := by
  rw [wp_bind]
  refine made.mono (fun _ s made => ?_) fun _ _ h => h
  refine (wp_owning_loadElf laws own fuel made.1).mono (fun elf t loaded => ?_) fun e t failed => ?_
  · obtain ⟨rfl, equipped⟩ := loaded
    exact ⟨made.1, made.2, equipped⟩
  · exact failed.imp_right fun ⟨u, behind⟩ => left u t behind

/-- `target::launch` gives a process under control and the object of its file, or no child is left,
also where it is the file that is refused. -/
theorem target_launch_outcome (files : TargetFiles κ) (fuel : Nat) (w : World κ)
    (child : (view w.kernel).isChild = true) (traced : (view w.kernel).traced = true) :
    wp (Target.launch H files fuel)
      (fun elf t => Tracked view true (view w.kernel).strays True t ∧
        (view t.kernel).optionsSet = true ∧ Equipped H files fuel elf t)
      (fun e t => Unreturned e ∨ (view t.kernel).life = .gone) w :=
  wp_withFile laws (R := fun v => v.life = .gone) (fun _ => rfl) fuel
    (wp_launchDebuggee laws fuel w child traced) fun _ _ behind => behind.ended rfl

/-- `target::attach` gives a process under control and the object of its file, or leaves the
inferior alone: as it was, or running untraced again. -/
theorem target_attach_outcome (files : TargetFiles κ) (fuel : Nat) (pid : Int) (w : World κ) :
    wp (Target.attach H files fuel pid)
      (fun elf t => Tracked view (view w.kernel).isChild (view w.kernel).strays True t ∧
        (view t.kernel).optionsSet = true ∧ Equipped H files fuel elf t)
      (fun e t => Unreturned e ∨ (view w.kernel).Settles (view t.kernel) ∨
        ∃ reported, (view t.kernel).Released reported) w :=
  wp_withFile laws (R := fun v => (view w.kernel).Settles v ∨ ∃ reported, v.Released reported)
    (fun ends => by cases ends) fuel (wp_attach laws fuel pid w)
    fun _ _ behind => .inr (behind.freed rfl)

end Outcome

/-- The files of a process whose program has been deleted since. -/
def deletedProgram : TargetFiles Hosted where
  calls := ⟨some ⟨2, "No such file or directory"⟩, none, none⟩
  auxv _ := some movedVector
  program _ := []

/-- The child is ended when its file cannot be opened. -/
theorem target_launch_outcome_deleted :
    ∃ e t, Target.launch hostedPlatform deletedProgram 3 (freshChild []) = .error e t ∧
      t.kernel.tracee.life = .gone := by
  obtain ⟨e, t, raised, mild⟩ := exists_mild_error (m := Target.launch hostedPlatform deletedProgram 3)
    (s := freshChild []) (by decide +kernel) (show (survive Fault.isFatal _ _).isSome = true by
      decide +kernel)
  have child : (freshChild []).kernel.tracee.isChild = true := rfl
  have traced : (freshChild []).kernel.tracee.traced = true := rfl
  generalize freshChild [] = w at raised child traced ⊢
  have outcome := target_launch_outcome Hosted.hostLaws deletedProgram 3 w child traced
  rw [wp_of_error raised] at outcome
  refine ⟨e, t, raised, outcome.resolve_left fun fatal => ?_⟩
  rw [Unreturned, mild] at fatal
  cases fatal

/-- The program that was attached to goes on when its file cannot be opened. -/
theorem target_attach_outcome_deleted :
    ∃ e t, Target.attach hostedPlatform deletedProgram 3 7
        (hostedWorld ⟨.running, false, false, false, false, 0⟩ []) = .error e t ∧
      (Tracee.Settles ⟨.running, false, false, false, false, 0⟩ t.kernel.tracee ∨
        ∃ reported, t.kernel.tracee.Released reported) := by
  have start : (hostedWorld ⟨.running, false, false, false, false, 0⟩ []).kernel.tracee =
      ⟨.running, false, false, false, false, 0⟩ := rfl
  obtain ⟨e, t, raised, mild⟩ := exists_mild_error
    (m := Target.attach hostedPlatform deletedProgram 3 7)
    (s := hostedWorld ⟨.running, false, false, false, false, 0⟩ []) (by decide +kernel)
    (show (survive Fault.isFatal _ _).isSome = true by decide +kernel)
  generalize hostedWorld ⟨.running, false, false, false, false, 0⟩ [] = w at raised start ⊢
  have outcome := target_attach_outcome Hosted.hostLaws deletedProgram 3 7 w
  rw [wp_of_error raised, start] at outcome
  refine ⟨e, t, raised, outcome.resolve_left fun fatal => ?_⟩
  rw [Unreturned, mild] at fatal
  cases fatal

end SdbDebugger
