import SdbDebugger.CommandErrors

/-! What can leave the commands on memory and the printing of code. -/

namespace SdbDebugger
open EffectRules Exceptions ByteSpace KeyedList StoppointCollection

variable {κ : Type} {P : Platform κ} {L : Libraries} {d : Debugger κ}

/-! ### Byte vectors -/

/-- After elements that are bytes there is one that is not. -/
inductive BadElement : Text → Prop
  | here {c : Text} (more : peek c ≠ ']') (bad : ∀ byte, toByte (window c) 16 ≠ .value byte) :
      BadElement c
  | later {c : Text} {byte : Byte} (more : peek c ≠ ']') (first : toByte (window c) 16 = .value byte)
      (comma : peek (c.drop 4) = ',') (rest : BadElement (c.drop 4).tail) : BadElement c

theorem parseElements_end {c : Text} (done : peek c = ']') :
    ¬ Fails Escaping (parseElements c) := by
  rw [parseElements, if_pos done]
  split
  · simp [Escaping, Fault.escapes]
  · simp

theorem parseElements_bad {c : Text} {e : Fault} (more : peek c ≠ ']')
    (failed : (toByte (window c) 16).get = .error e) : parseElements c = .error e := by
  rw [parseElements, if_neg more]
  split
  · next e' h =>
    rw [failed] at h
    cases h
    rfl
  · next byte h => simp [failed] at h

theorem parseElements_byte {c : Text} {byte : Byte} (more : peek c ≠ ']')
    (first : toByte (window c) 16 = .value byte) :
    parseElements c =
      if peek (c.drop 4) = ',' then (byte :: ·) <$> parseElements (c.drop 4).tail
      else if peek (c.drop 4) ≠ ']' then .error (.error "invalid format")
      else (byte :: ·) <$> parseElements (c.drop 4) := by
  have read : (toByte (window c) 16).get = .ok byte := by rw [first, Parsed.get]
  rw [parseElements, if_neg more]
  split
  · next e h => simp [read] at h
  · next byte' h =>
    rw [read] at h
    cases h
    rfl

theorem escapes_parseElements (c : Text) : Fails Escaping (parseElements c) ↔ BadElement c := by
  by_cases done : peek c = ']'
  · refine iff_of_false (parseElements_end done) fun h => ?_
    cases h with
    | here more => exact more done
    | later more => exact more done
  · by_cases known : ∃ byte, toByte (window c) 16 = .value byte
    · obtain ⟨byte, first⟩ := known
      have read : (toByte (window c) 16).get = .ok byte := by rw [first, Parsed.get]
      have shorter := length_drop_window read
      have here : BadElement c ↔ peek (c.drop 4) = ',' ∧ BadElement (c.drop 4).tail := by
        constructor
        · intro h
          cases h with
          | here _ bad => exact absurd first (bad byte)
          | later _ _ comma rest => exact ⟨comma, rest⟩
        · exact fun h => .later done first h.1 h.2
      rw [parseElements_byte done first, here]
      split
      · next comma => rw [fails_map, escapes_parseElements (c.drop 4).tail, and_iff_right comma]
      · next other =>
        refine iff_of_false ?_ fun h => other h.1
        split
        · simp [Escaping, Fault.escapes]
        · next last => rw [fails_map]; exact parseElements_end (not_not.1 last)
    · have bad : ∀ byte, toByte (window c) 16 ≠ .value byte := fun byte h => known ⟨byte, h⟩
      obtain ⟨e, failed, escaping⟩ := escapes_get.2 bad
      rw [parseElements_bad done failed]
      exact iff_of_true ((fails_error _).2 escaping) (.here done bad)
termination_by c.length
decreasing_by
  rw [List.length_tail]
  omega

theorem escapes_parseVector {text : Text} :
    Fails Escaping (parseVector text) ↔ peek text = '[' ∧ BadElement text.tail := by
  unfold parseVector
  split
  · next other =>
    refine iff_of_false ?_ fun h => other h.1
    simp [Escaping, Fault.escapes]
  · next bracket => rw [escapes_parseElements, and_iff_right (not_not.1 bracket)]

/-! ### Reading and writing -/

section Writes

variable {R : List BreakpointSite → List Watchpoint → Prop}

theorem tame_nextWord (small : SmallAllocations P) (address : VirtAddr) (data : List Byte)
    (written : Nat) : Tame Escaping (OnStoppoints R) (nextWord P address data written) := by
  unfold nextWord
  dsimp only
  split
  · exact Tame.pure _
  · exact (tame_readMemory (small.bytes (by omega)) _).bind fun _ => Tame.pure _

theorem tame_writeMemoryLoop (small : SmallAllocations P) (address : VirtAddr)
    (data : List Byte) (written : Nat) :
    Tame Escaping (OnStoppoints R) (writeMemoryLoop P address data written) := by
  unfold writeMemoryLoop
  split
  · exact (tame_nextWord small address data written).bind fun _ =>
      (tame_orSendErrno _ _).bind fun _ => tame_writeMemoryLoop small address data (written + 8)
  · exact Tame.pure _
termination_by data.length - written

theorem tame_writeMemory (small : SmallAllocations P) (address : VirtAddr) (data : List Byte) :
    Tame Escaping (OnStoppoints R) (writeMemory P address data) :=
  tame_writeMemoryLoop small address data 0

end Writes

/-- `memory read` with a number that is left unset, or of more bytes than there is room for. -/
def MemoryReadHazard (P : Platform κ) (args : List Text) : Prop :=
  (toIntegral .uint64 (arg args 2) 16).hasValue = true ∧
    (args.length = 4 ∧ toIntegral .uint64 (arg args 3) 10 = .unset ∨
      ∃ n, bytesToRead args = .ok n ∧
        (toIntegral .uint64 (arg args 2) 16 = .unset ∨ Unallocatable P 1 (toSize n)))

/-- `memory write` with a number that is left unset, or of elements that are no bytes. -/
def MemoryWriteHazard (args : List Text) : Prop :=
  args.length = 4 ∧ (toIntegral .uint64 (arg args 2) 16).hasValue = true ∧
    (peek (arg args 3) = '[' ∧ BadElement (arg args 3).tail ∨
      (∃ data, parseVector (arg args 3) = .ok data) ∧
        toIntegral .uint64 (arg args 2) 16 = .unset)

/-- The hazards of the subcommands of `memory`. -/
def MemoryHazard (P : Platform κ) (args : List Text) : Prop :=
  3 ≤ args.length ∧
    if isPrefix (arg args 1) "read" then MemoryReadHazard P args
    else isPrefix (arg args 1) "write" = true ∧ MemoryWriteHazard args

theorem escapes_bytesToRead {args : List Text} :
    Fails Escaping (bytesToRead args) ↔
      args.length = 4 ∧ toIntegral .uint64 (arg args 3) 10 = .unset := by
  unfold bytesToRead
  split
  · next four =>
    rw [and_iff_right four]
    generalize toIntegral .uint64 (arg args 3) 10 = count
    dsimp only
    by_cases holds : count.hasValue = true
    · rw [if_neg (by simp [holds]), fails_map, escapes_deref holds]
    · rw [if_pos (by simp [holds])]
      refine iff_of_false (by simp [Escaping, Fault.escapes]) fun unset => holds ?_
      rw [unset]
      rfl
  · next other => exact iff_of_false (fails_ok _).1 fun h => other h.1

theorem send_quiet (what : String) : ¬ Raises Escaping (send what : Cli κ α) d :=
  (raises_throw _).not.2 Bool.false_ne_true

theorem print_quiet (text : String) : ¬ Raises Escaping (print text : Cli κ Unit) d :=
  raises_of_ok (a := ()) rfl

theorem raises_handleMemoryReadCommand (args : List Text) :
    Raises Escaping (handleMemoryReadCommand P args) d ↔ MemoryReadHazard P args := by
  unfold handleMemoryReadCommand MemoryReadHazard
  generalize toIntegral .uint64 (arg args 2) 16 = address
  dsimp only
  by_cases holds : address.hasValue = true
  · rw [if_neg (by simp [holds]), raises_evaluate_bind, escapes_bytesToRead, and_iff_right holds]
    refine or_congr_right (exists_congr fun n => and_congr_right fun _ => ?_)
    rw [raises_withValue holds]
    cases address with
    | nullopt => simp [Parsed.hasValue] at holds
    | unset => exact iff_of_true (.inl rfl) (.inl rfl)
    | value a =>
      have read : Raises Escaping (do
          let data ← onProcess (readMemory P (BitVec.ofInt 64 a) (toSize n))
          print (String.join (memoryRows (BitVec.ofInt 64 a) data))) d ↔
            Unallocatable P 1 (toSize n) := by
        rw [raises_onProcess_bind, raises_readMemory]
        refine or_iff_left fun h => ?_
        obtain ⟨data, w, _, raised⟩ := h
        exact print_quiet _ raised
      rw [← read]
      simp
  · rw [if_pos (by simp [holds])]
    exact iff_of_false (send_quiet _) fun h => holds h.1

theorem raises_handleMemoryWriteCommand (small : SmallAllocations P) (args : List Text)
    (sound : d.Sound) :
    Raises Escaping (handleMemoryWriteCommand P args) d ↔ MemoryWriteHazard args := by
  unfold handleMemoryWriteCommand MemoryWriteHazard
  by_cases four : args.length = 4
  · rw [if_neg (not_not_intro four), and_iff_right four]
    generalize toIntegral .uint64 (arg args 2) 16 = address
    dsimp only
    by_cases holds : address.hasValue = true
    · rw [if_neg (by simp [holds]), raises_evaluate_bind, escapes_parseVector, and_iff_right holds,
        ← exists_and_right]
      refine or_congr_right (exists_congr fun data => and_congr_right fun _ => ?_)
      exact raises_withQuiet holds fun a =>
        (tame_onProcess (tame_writeMemory small _ data)).not_raises sound
    · rw [if_pos (by simp [holds])]
      exact iff_of_false (send_quiet _) fun h => holds h.1
  · rw [if_pos four]
    exact iff_of_false ((tame_helpOn _).not_raises sound) fun h => four h.1

theorem raises_handleMemoryCommand (small : SmallAllocations P) (args : List Text)
    (sound : d.Sound) :
    Raises Escaping (handleMemoryCommand P args) d ↔ MemoryHazard P args := by
  have help : ¬ Raises Escaping (helpOn "memory" : Cli κ Unit) d := (tame_helpOn _).not_raises sound
  unfold handleMemoryCommand MemoryHazard
  by_cases few : args.length < 3
  · rw [if_pos few]
    exact iff_of_false help fun h => by omega
  rw [if_neg few, and_iff_right (not_lt.1 few)]
  split
  · exact raises_handleMemoryReadCommand args
  · split
    · next writes => rw [raises_handleMemoryWriteCommand small args sound, and_iff_right writes]
    · next other => exact iff_of_false help fun h => other h.1

theorem preserves_handleMemoryCommand (small : SmallAllocations P) (args : List Text) :
    Preserves Debugger.Sound (handleMemoryCommand P args) := by
  have read : ∀ w iovs, SdbDebugger.Sound w →
      SdbDebugger.Sound { w with kernel := (P.processVmReadv iovs w.kernel).2 } := fun _ _ h => h
  unfold handleMemoryCommand handleMemoryReadCommand handleMemoryWriteCommand
  refine Preserves.ite (preserves_helpOn _) (Preserves.ite (Preserves.ite (Preserves.throw _) ?_)
    (Preserves.ite (Preserves.ite (preserves_helpOn _) (Preserves.ite (Preserves.throw _) ?_))
      (preserves_helpOn _)))
  · exact preserves_evaluate.bind fun n => preserves_evaluate.bind fun address =>
      (preserves_onProcess (preserves_readMemory P read _ _)).bind fun _ => preserves_print _
  · exact preserves_evaluate.bind fun data => preserves_evaluate.bind fun address =>
      (tame_onProcess (tame_writeMemory small _ data)).preserves

/-! ### Disassembly -/

/-- Room for the instructions, or for the bytes that are decoded, is more than there is. -/
def Undecodable (P : Platform κ) (nInstructions : Nat) : Prop :=
  Unallocatable P sizeofInstruction nInstructions ∨
    Unallocatable P 1 (nInstructions * 15 % 2 ^ 64)

theorem raises_readMemoryWithoutTraps {address : VirtAddr} {amount : Nat} {w : World κ}
    (fits : amount < 2 ^ 64) :
    Raises Escaping (readMemoryWithoutTraps P address amount) w ↔ Unallocatable P 1 amount := by
  constructor
  · intro raised
    by_contra possible
    exact (tame_readMemoryWithoutTraps (R := fun _ _ => True) possible fits address).not_raises
      trivial raised
  · intro impossible
    exact (raises_bind _).2 (.inl (raises_readMemory.2 impossible))

theorem raises_disassemble {address : VirtAddr} {nInstructions : Nat} {w : World κ} :
    Raises Escaping (disassemble P L nInstructions (some address)) w ↔
      Undecodable P nInstructions := by
  have fits : nInstructions * 15 % 2 ^ 64 < 2 ^ 64 := Nat.mod_lt _ (by norm_num)
  have decode : Raises Escaping (do
      let code ← readMemoryWithoutTraps P address (nInstructions * 15 % 2 ^ 64)
      pure (disassembleLoop L nInstructions address code)) w ↔
        Unallocatable P 1 (nInstructions * 15 % 2 ^ 64) := by
    rw [raises_bind, raises_readMemoryWithoutTraps fits]
    exact or_iff_left fun h => (raises_pure _).1 h.choose_spec.choose_spec.2
  unfold disassemble Undecodable
  by_cases possible : Unallocatable P sizeofInstruction nInstructions
  · exact iff_of_true ((raises_bind _).2 (.inl (raises_newVector.2 possible))) (.inl possible)
  · rw [raises_bind_of_ok (newVector_ok possible w), or_iff_right possible, ← decode]
    rfl

theorem raises_printDisassembly {address : VirtAddr} {nInstructions : Nat} :
    Raises Escaping (printDisassembly P L address nInstructions) d ↔
      Undecodable P nInstructions := by
  unfold printDisassembly
  rw [raises_onProcess_bind, raises_disassemble]
  refine or_iff_left fun h => ?_
  obtain ⟨instructions, w, _, raised⟩ := h
  exact print_quiet _ raised

/-- A number that is left unset comes before anything else that is wrong with the options. -/
def UnsetOption : List Text → Prop
  | option :: value :: args =>
    if option = "-a".toList then
      toIntegral .uint64 value 16 = .unset ∨
        (∃ v, toIntegral .uint64 value 16 = .value v) ∧ UnsetOption args
    else option = "-c".toList ∧
      (toIntegral .uint64 value 10 = .unset ∨
        (∃ v, toIntegral .uint64 value 10 = .value v) ∧ UnsetOption args)
  | _ => False

/-- `disassemble` with a number that is left unset, or of more than there is room for. -/
def DisassembleHazard (P : Platform κ) (args : List Text) (d : Debugger κ) : Prop :=
  UnsetOption args.tail ∨ ∃ address n,
    disassembleOptions args.tail (load d.world.data 128 8) 5 = .ok (some (address, n)) ∧
      Undecodable P n

/-- One number option, and the options after it. -/
theorem escapes_numberOption {α : Type} {p : Parsed Int} {what : String} {rest : Int → Except Fault α}
    {unset : Prop} (later : ∀ v, Fails Escaping (rest v) ↔ unset) :
    Fails Escaping (if !p.hasValue then .error (.error what) else p.deref >>= rest) ↔
      p = .unset ∨ (∃ v, p = .value v) ∧ unset := by
  cases p with
  | nullopt =>
    refine iff_of_false ?_ (by simp)
    simp [Parsed.hasValue, Escaping, Fault.escapes]
  | unset => exact iff_of_true ⟨_, rfl, rfl⟩ (.inl rfl)
  | value v =>
    change Fails Escaping (rest v) ↔ _
    rw [later v]
    simp

theorem escapes_disassembleOptions : ∀ (args : List Text) (address : VirtAddr) (n : Nat),
    Fails Escaping (disassembleOptions args address n) ↔ UnsetOption args
  | [], _, _ => iff_of_false (fails_ok _).1 id
  | [_], _, _ => iff_of_false (fails_ok _).1 id
  | option :: value :: args, address, n => by
    unfold disassembleOptions UnsetOption
    by_cases start : option = "-a".toList
    · rw [if_pos start, if_pos start]
      exact escapes_numberOption fun v => escapes_disassembleOptions args _ n
    · rw [if_neg start, if_neg start]
      by_cases count : option = "-c".toList
      · rw [if_pos count, and_iff_right count]
        exact escapes_numberOption fun v => escapes_disassembleOptions args address v.toNat
      · rw [if_neg count]
        exact iff_of_false (fails_ok _).1 fun h => count h.1

theorem raises_handleDisassembleCommand (args : List Text) (sound : d.Sound) :
    Raises Escaping (handleDisassembleCommand P L args) d ↔ DisassembleHazard P args d := by
  unfold handleDisassembleCommand DisassembleHazard
  have pc := onProcess_ok (d := d) (getPc_eq d.world)
  rw [raises_bind_of_ok pc, raises_evaluate_bind, escapes_disassembleOptions]
  refine or_congr_right ⟨fun h => ?_, fun h => ?_⟩
  · obtain ⟨options, run, raised⟩ := h
    cases options with
    | none => exact absurd raised ((tame_helpOn _).not_raises sound)
    | some request =>
      exact ⟨request.1, request.2, run, raises_printDisassembly.1 raised⟩
  · obtain ⟨address, n, run, undecodable⟩ := h
    exact ⟨_, run, raises_printDisassembly.2 undecodable⟩

theorem preserves_newVector {I : World κ → Prop} (elementSize amount : Nat) :
    Preserves I (newVector P elementSize amount) :=
  Preserves.ite (Preserves.throw _) (Preserves.ite (Preserves.pure _) (Preserves.throw _))

theorem preserves_printDisassembly (address : VirtAddr) (nInstructions : Nat) :
    Preserves Debugger.Sound (printDisassembly P L address nInstructions) := by
  have read : ∀ w iovs, SdbDebugger.Sound w →
      SdbDebugger.Sound { w with kernel := (P.processVmReadv iovs w.kernel).2 } := fun _ _ h => h
  unfold printDisassembly disassemble readMemoryWithoutTraps
  refine (preserves_onProcess ?_).bind fun _ => preserves_print _
  refine (preserves_newVector _ _).bind fun _ => (Preserves.pure address).bind fun address => ?_
  have code := (preserves_readMemory P read address (nInstructions * 15 % 2 ^ 64)).bind fun memory =>
    Preserves.get.bind fun w => preserves_liftFault (maskTraps address (getInRegion
      w.breakpointSites address (address + BitVec.ofNat 64 (nInstructions * 15 % 2 ^ 64))) memory)
  exact code.bind fun _ => Preserves.pure _

theorem preserves_handleDisassembleCommand (args : List Text) :
    Preserves Debugger.Sound (handleDisassembleCommand P L args) := by
  unfold handleDisassembleCommand
  refine (tame_onProcess tame_getPc).preserves.bind fun pc => preserves_evaluate.bind fun options => ?_
  cases options with
  | none => exact preserves_helpOn _
  | some request => exact preserves_printDisassembly request.1 request.2

end SdbDebugger
