import SdbDebugger.Commands
import SdbDebugger.StopErrors

/-! What can leave the handlers of the single commands besides `sdb::error`. For each
handler that can fail so, its hazard says exactly when, in terms of the arguments and of
the state before the command. -/

namespace SdbDebugger
open EffectRules Exceptions ByteSpace KeyedList StoppointCollection

variable {κ α : Type} {P : Platform κ} {L : Libraries} {d : Debugger κ}

/-- The stoppoints of the debugged process are well kept. -/
def Debugger.Sound (d : Debugger κ) : Prop := SdbDebugger.Sound d.world

/-! ### Calls from the command line -/

section Calls

variable {m : Sdb κ α}

theorem wp_onProcess {ok : α → Debugger κ → Prop} {err : Fault → Debugger κ → Prop} :
    wp (onProcess m) ok err d ↔
      wp m (fun a w => ok a { d with world := w }) (fun e w => err e { d with world := w })
        d.world := by
  unfold wp onProcess
  cases m d.world with
  | ok a w => rfl
  | error e w => rfl

theorem onProcess_ok {a : α} {w : World κ} (run : m d.world = .ok a w) :
    onProcess m d = .ok a { d with world := w } := by
  rw [onProcess, run]

theorem raises_onProcess : Raises Escaping (onProcess m) d ↔ Raises Escaping m d.world := by
  cases run : m d.world with
  | ok a w => rw [iff_false_intro (raises_of_ok run), iff_false_intro (raises_of_ok (onProcess_ok run))]
  | error e w =>
    have raised : onProcess m d = .error e { d with world := w } := by rw [onProcess, run]
    rw [raises_of_error run, raises_of_error raised]

theorem raises_onProcess_bind {β : Type} {f : α → Cli κ β} :
    Raises Escaping (onProcess m >>= f) d ↔
      Raises Escaping m d.world ∨
        ∃ a w, m d.world = .ok a w ∧ Raises Escaping (f a) { d with world := w } := by
  rw [raises_bind, raises_onProcess]
  refine or_congr_right (exists_congr fun a => ⟨fun h => ?_, fun h => ?_⟩)
  · obtain ⟨t, run, raised⟩ := h
    cases outcome : m d.world with
    | error e w => simp [onProcess, outcome] at run
    | ok b w =>
      rw [onProcess_ok outcome] at run
      cases run
      exact ⟨w, rfl, raised⟩
  · obtain ⟨w, run, raised⟩ := h
    exact ⟨_, onProcess_ok run, raised⟩

theorem tame_onProcess (tame : Tame Escaping SdbDebugger.Sound m) :
    Tame Escaping Debugger.Sound (onProcess m) :=
  fun d sound => wp_onProcess.2 (tame d.world sound)

theorem preserves_onProcess (kept : Preserves SdbDebugger.Sound m) :
    Preserves Debugger.Sound (onProcess m) := fun d sound => wp_onProcess.2 (kept d.world sound)

theorem evaluate_ok (a : α) : (evaluate (.ok a) : Cli κ α) = pure a := rfl

theorem evaluate_error (e : Fault) : (evaluate (.error e) : Cli κ α) = throw e := rfl

theorem raises_evaluate {x : Except Fault α} :
    Raises Escaping (evaluate x : Cli κ α) d ↔ Fails Escaping x := by
  cases x with
  | ok a => simp [evaluate_ok]
  | error e => simp [evaluate_error]

theorem raises_evaluate_bind {β : Type} {x : Except Fault α} {f : α → Cli κ β} :
    Raises Escaping (evaluate x >>= f) d ↔
      Fails Escaping x ∨ ∃ a, x = .ok a ∧ Raises Escaping (f a) d := by
  cases x with
  | ok a => simp [evaluate_ok]
  | error e =>
    have run : (evaluate (.error e) >>= f) d = .error e d := rfl
    rw [raises_of_error run]
    simp

theorem preserves_evaluate {I : Debugger κ → Prop} {x : Except Fault α} :
    Preserves I (evaluate x : Cli κ α) := by
  cases x with
  | ok a => exact Preserves.pure a
  | error e => exact Preserves.throw e

theorem tame_evaluate {x : Except Fault α} (mild : ¬ Fails Escaping x) :
    Tame Escaping Debugger.Sound (evaluate x : Cli κ α) :=
  Tame.of_preserves preserves_evaluate fun _ _ => mt raises_evaluate.1 mild

theorem tame_print (text : String) : Tame Escaping Debugger.Sound (print text : Cli κ Unit) :=
  Tame.modify fun _ h => h

theorem tame_printErr (text : String) :
    Tame Escaping Debugger.Sound (printErr text : Cli κ Unit) := Tame.modify fun _ h => h

/-- The handler of `sdb::error` sees none of the other exceptions. -/
theorem raises_catchError {m : Cli κ Unit} {handler : String → Cli κ Unit}
    (quiet : ∀ what t, ¬ Raises Escaping (handler what) t) :
    Raises Escaping (catchError m handler) d ↔ Raises Escaping m d := by
  cases run : m d with
  | ok a t =>
    rw [iff_false_intro (raises_of_ok (catchError_of_ok run)), iff_false_intro (raises_of_ok run)]
  | error e t =>
    rw [raises_of_error run]
    by_cases caught : ∃ what, e = .error what
    · obtain ⟨what, rfl⟩ := caught
      rw [Raises, catchError_of_error run]
      exact iff_of_false (quiet what t) Bool.false_ne_true
    · exact raises_of_error (catchError_of_other (fun what same => caught ⟨what, same⟩) run)

theorem preserves_catchError {I : Debugger κ → Prop} {m : Cli κ Unit}
    {handler : String → Cli κ Unit} (body : Preserves I m)
    (rest : ∀ what, Preserves I (handler what)) : Preserves I (catchError m handler) := by
  intro d h
  cases run : m d with
  | ok a t => exact (wp_of_ok (catchError_of_ok run) _ _).2 (body.of_ok h run)
  | error e t =>
    have kept := body.of_error h run
    by_cases caught : ∃ what, e = .error what
    · obtain ⟨what, rfl⟩ := caught
      rw [wp, catchError_of_error run]
      exact rest what t kept
    · refine (wp_of_error (catchError_of_other (fun what same => caught ⟨what, same⟩) run) _ _).2 kept

end Calls

/-! ### Help and registers -/

theorem tame_printHelp (args : List Text) :
    Tame Escaping Debugger.Sound (printHelp args : Cli κ Unit) := by
  unfold printHelp
  split_ifs
  all_goals exact tame_printErr _

theorem tame_helpOn (command : String) :
    Tame Escaping Debugger.Sound (helpOn command : Cli κ Unit) := tame_printHelp _

theorem read_mild (data : UserArea) (info : RegisterInfo) :
    ¬ Fails Escaping (Registers.read data info) := by
  unfold Registers.read
  split
  · split
    all_goals simp [Escaping, Fault.escapes]
  · simp
  · simp
  · split
    all_goals simp

theorem tame_printRegister (info : RegisterInfo) :
    Tame Escaping Debugger.Sound (printRegister L info : Cli κ Unit) :=
  Tame.get.bind fun _ => (tame_evaluate (read_mild _ _)).bind fun _ => tame_print _

theorem tame_printRegisters (all : Bool) (infos : List RegisterInfo) :
    Tame Escaping Debugger.Sound (printRegisters L all infos : Cli κ Unit) := by
  induction infos with
  | nil => exact Tame.pure _
  | cons info infos ih =>
    unfold printRegisters
    split
    · exact (tame_printRegister info).bind fun _ => ih
    · exact ih

theorem registerInfoByName_mild (name : String) : ¬ Fails Escaping (registerInfoByName name) := by
  unfold registerInfoByName registerInfoBy
  split
  · simp
  · simp [Escaping, Fault.escapes]

theorem mem_of_registerInfoByName {name : String} {info : RegisterInfo}
    (found : registerInfoByName name = .ok info) : info ∈ gRegisterInfos := by
  unfold registerInfoByName registerInfoBy at found
  split at found
  · next h =>
    cases found
    exact List.mem_of_find?_eq_some h
  · simp at found

theorem printErr_quiet (text : String) : ¬ Raises Escaping (printErr text : Cli κ Unit) d :=
  raises_of_ok (a := ()) rfl

theorem tame_handleRegisterRead (args : List Text) :
    Tame Escaping Debugger.Sound (handleRegisterRead L args : Cli κ Unit) := by
  unfold handleRegisterRead
  have body : Tame Escaping Debugger.Sound (do
      let info ← evaluate (registerInfoByName (String.ofList (arg args 2)))
      printRegister L info : Cli κ Unit) :=
    (tame_evaluate (registerInfoByName_mild _)).bind tame_printRegister
  refine Tame.ite (tame_printRegisters _ _) (Tame.ite ?_ (tame_helpOn _))
  refine Tame.of_preserves (preserves_catchError body.preserves fun _ =>
    (tame_printErr _).preserves) fun d sound => ?_
  rw [raises_catchError fun _ _ => printErr_quiet _]
  exact body.not_raises sound

/-! ### Numbers and byte vectors -/

/-- What the handlers of `parse_register_value` let through. -/
def Fault.uncaught : Fault → Bool
  | .error _ | .exception _ | .stillRunning => false
  | _ => true

abbrev Uncaught (e : Fault) : Prop := e.uncaught = true

section Parsed

variable {β : Type} {p : Parsed β}

theorem uncaught_get : Fails Uncaught p.get ↔ p = .unset := by
  cases p with
  | nullopt => simp [Parsed.get, Uncaught, Fault.uncaught]
  | unset => simp [Parsed.get, Uncaught, Fault.uncaught]
  | value v => simp [Parsed.get]

theorem escapes_get : Fails Escaping p.get ↔ ∀ v, p ≠ .value v := by
  cases p with
  | nullopt => simp [Parsed.get, Escaping, Fault.escapes]
  | unset => simp [Parsed.get, Escaping, Fault.escapes]
  | value v => simp [Parsed.get]

/-- The handlers dereference only what has a value. -/
theorem escapes_deref (holds : p.hasValue = true) : Fails Escaping p.deref ↔ p = .unset := by
  cases p with
  | nullopt => simp [Parsed.hasValue] at holds
  | unset => simp [Parsed.deref, Escaping, Fault.escapes]
  | value v => simp [Parsed.deref]

theorem get_eq_ok {v : β} : p.get = .ok v ↔ p = .value v := by
  cases p with
  | nullopt => simp [Parsed.get]
  | unset => simp [Parsed.get]
  | value v => simp [Parsed.get]

theorem deref_eq_value {v : β} : p.deref = .ok v ↔ p = .value v := by
  cases p with
  | nullopt => simp [Parsed.deref]
  | unset => simp [Parsed.deref]
  | value v => simp [Parsed.deref]

end Parsed

/-- A call on the number that was parsed. -/
theorem raises_withValue {p : Parsed Int} (holds : p.hasValue = true) {f : Int → Cli κ Unit} :
    Raises Escaping (evaluate p.deref >>= f) d ↔
      p = .unset ∨ ∃ v, p = .value v ∧ Raises Escaping (f v) d := by
  rw [raises_evaluate_bind, escapes_deref holds]
  exact or_congr_right (exists_congr fun v => and_congr_left fun _ => deref_eq_value)

/-- A call that is quiet on every number. -/
theorem raises_withQuiet {p : Parsed Int} (holds : p.hasValue = true) {f : Int → Cli κ Unit}
    (quiet : ∀ v, ¬ Raises Escaping (f v) d) :
    Raises Escaping (evaluate p.deref >>= f) d ↔ p = .unset := by
  rw [raises_withValue holds]
  exact or_iff_left fun h => quiet _ h.choose_spec.2

/-- Among an element and the `n` after it there is one of too many digits, and the elements
before it are bytes. -/
inductive UnsetElement : Nat → Text → Prop
  | here {n : Nat} {c : Text} (wide : toByte (window c) 16 = .unset) : UnsetElement n c
  | later {n : Nat} {c : Text} {byte : Byte} (first : toByte (window c) 16 = .value byte)
      (comma : peek (c.drop 4) = ',') (rest : UnsetElement n (c.drop 4).tail) :
      UnsetElement (n + 1) c

theorem parseLeading_value {n : Nat} {c : Text} {byte : Byte}
    (first : toByte (window c) 16 = .value byte) :
    parseLeading (n + 1) c =
      if peek (c.drop 4) ≠ ',' then .error (.error "Invalid format")
      else (fun r => (byte :: r.1, r.2)) <$> parseLeading n (c.drop 4).tail := by
  rw [parseLeading, first]
  rfl

theorem parseLeading_error {n : Nat} {c : Text} {e : Fault}
    (first : (toByte (window c) 16).get = .error e) : parseLeading (n + 1) c = .error e := by
  rw [parseLeading, first]
  rfl

theorem not_unsetElement {n : Nat} {c : Text} (none : toByte (window c) 16 = .nullopt) :
    ¬ UnsetElement n c := by
  intro h
  cases h with
  | here wide => simp [none] at wide
  | later byte => simp [none] at byte

theorem unsetElement_value {n : Nat} {c : Text} {byte : Byte}
    (first : toByte (window c) 16 = .value byte) :
    UnsetElement (n + 1) c ↔ peek (c.drop 4) = ',' ∧ UnsetElement n (c.drop 4).tail := by
  constructor
  · intro h
    cases h with
    | here wide => simp [first] at wide
    | later _ comma rest => exact ⟨comma, rest⟩
  · exact fun h => .later first h.1 h.2

/-- Elements that raise `sdb::error` leave no variable unset. -/
theorem not_uncaught_of_error {n : Nat} {c : Text} {e : Fault} (mild : ¬ Uncaught e)
    (run : parseLeading n c = .error e) :
    ¬ (Fails Uncaught (parseLeading n c) ∨
      ∃ r, parseLeading n c = .ok r ∧ toByte (window r.2) 16 = .unset) := by
  rw [run, fails_error]
  intro h
  rcases h with uncaught | ⟨r, same, _⟩
  · exact mild uncaught
  · cases same

theorem uncaught_elements {n : Nat} {c : Text} :
    (Fails Uncaught (parseLeading n c) ∨
      ∃ r, parseLeading n c = .ok r ∧ toByte (window r.2) 16 = .unset) ↔ UnsetElement n c := by
  induction n generalizing c with
  | zero =>
    rw [parseLeading]
    constructor
    · intro h
      rcases h with failed | ⟨r, same, wide⟩
      · simp at failed
      · cases same
        exact .here wide
    · intro h
      cases h with
      | here wide => exact .inr ⟨_, rfl, wide⟩
  | succ n ih =>
    cases first : toByte (window c) 16 with
    | nullopt =>
      have raised := parseLeading_error (n := n) (by rw [first, Parsed.get])
      exact iff_of_false (not_uncaught_of_error (by simp [Uncaught, Fault.uncaught]) raised)
        (not_unsetElement first)
    | unset =>
      rw [parseLeading_error (by rw [first, Parsed.get])]
      exact iff_of_true (.inl ((fails_error _).2 rfl)) (.here first)
    | value byte =>
      rw [unsetElement_value first]
      by_cases comma : peek (c.drop 4) = ','
      · rw [parseLeading_value first, if_neg (not_not_intro comma), fails_map,
          and_iff_right comma, ← ih]
        refine or_congr_right ⟨fun h => ?_, fun h => ?_⟩
        · obtain ⟨r, same, wide⟩ := h
          obtain ⟨r', run, rfl⟩ := map_eq_ok.1 same
          exact ⟨r', run, wide⟩
        · obtain ⟨r, run, wide⟩ := h
          exact ⟨_, map_eq_ok.2 ⟨r, run, rfl⟩, wide⟩
      · have raised := parseLeading_value (n := n) first
        rw [if_pos comma] at raised
        exact iff_of_false (not_uncaught_of_error (by simp [Uncaught, Fault.uncaught]) raised)
          fun h => comma h.1

theorem uncaught_parseVectorN {n : Nat} {text : Text} :
    Fails Uncaught (parseVectorN n text) ↔ peek text = '[' ∧ UnsetElement (n - 1) text.tail := by
  unfold parseVectorN
  by_cases bracket : peek text = '['
  · rw [if_neg (not_not_intro bracket), fails_bind, ← uncaught_elements]
    simp only [bracket, true_and]
    refine or_congr_right (exists_congr fun r => and_congr_right fun _ => ?_)
    rw [fails_bind, uncaught_get]
    refine or_iff_left fun h => ?_
    obtain ⟨last, _, failed⟩ := h
    split_ifs at failed
    all_goals simp [Uncaught, Fault.uncaught] at failed
  · rw [if_pos bracket]
    simp [Uncaught, Fault.uncaught, bracket]

/-! ### Writing a register -/

/-- `parse_register_value` returns a variable to which nothing was assigned. -/
def UnsetValue (L : Libraries) (info : RegisterInfo) (text : Text) : Prop :=
  match info.format, info.size with
  | .uint, 1 => toIntegral .uint8 text 16 = .unset
  | .uint, 2 => toIntegral .uint16 text 16 = .unset
  | .uint, 4 => toIntegral .uint32 text 16 = .unset
  | .uint, 8 => toIntegral .uint64 text 16 = .unset
  | .doubleFloat, _ => toFloat text (L.fromCharsDouble text) = .unset
  | .longDouble, _ => toFloat text (L.fromCharsLongDouble text) = .unset
  | .vector, 8 => peek text = '[' ∧ UnsetElement 7 text.tail
  | .vector, 16 => peek text = '[' ∧ UnsetElement 15 text.tail
  | _, _ => False

theorem uncaught_registerValue {info : RegisterInfo} {text : Text} :
    Fails Uncaught (registerValue L info text) ↔ UnsetValue L info text := by
  unfold registerValue UnsetValue
  generalize info.format = format
  generalize info.size = size
  split
  · exact fails_map.trans uncaught_get
  · exact fails_map.trans uncaught_get
  · exact fails_map.trans uncaught_get
  · exact fails_map.trans uncaught_get
  · exact fails_map.trans uncaught_get
  · exact fails_map.trans uncaught_get
  · exact fails_map.trans uncaught_parseVectorN
  · exact fails_map.trans uncaught_parseVectorN
  · simp [Uncaught, Fault.uncaught]

theorem escapes_parseRegisterValue {info : RegisterInfo} {text : Text} :
    Fails Escaping (parseRegisterValue L info text) ↔ UnsetValue L info text := by
  rw [← uncaught_registerValue]
  unfold parseRegisterValue
  cases registerValue L info text with
  | ok v => simp
  | error e =>
    cases e with
    | error what => simp [Escaping, Fault.escapes, Uncaught, Fault.uncaught]
    | exception e => simp [Escaping, Fault.escapes, Uncaught, Fault.uncaught]
    | terminate message => simp [Escaping, Fault.escapes, Uncaught, Fault.uncaught]
    | undefinedBehaviour reason => simp [Escaping, Fault.escapes, Uncaught, Fault.uncaught]
    | stillRunning => simp [Escaping, Fault.escapes, Uncaught, Fault.uncaught]

theorem size_registerValue {info : RegisterInfo} {text : Text} {v : Value}
    (known : info ∈ gRegisterInfos) (parsed : registerValue L info text = .ok v) :
    v.size ≤ info.size := by
  have floats : ∀ info ∈ gRegisterInfos, (info.format = .doubleFloat → 8 ≤ info.size) ∧
      (info.format = .longDouble → 16 ≤ info.size) := by decide +kernel
  unfold registerValue at parsed
  split at parsed
  · next h => obtain ⟨_, _, rfl⟩ := map_eq_ok.1 parsed; exact h.ge
  · next h => obtain ⟨_, _, rfl⟩ := map_eq_ok.1 parsed; exact h.ge
  · next h => obtain ⟨_, _, rfl⟩ := map_eq_ok.1 parsed; exact h.ge
  · next h => obtain ⟨_, _, rfl⟩ := map_eq_ok.1 parsed; exact h.ge
  · next h => obtain ⟨_, _, rfl⟩ := map_eq_ok.1 parsed; exact (floats info known).1 h
  · next h => obtain ⟨_, _, rfl⟩ := map_eq_ok.1 parsed; exact (floats info known).2 h
  · next h => obtain ⟨_, _, rfl⟩ := map_eq_ok.1 parsed; exact h.ge
  · next h => obtain ⟨_, _, rfl⟩ := map_eq_ok.1 parsed; exact h.ge
  · simp at parsed

theorem registerValue_of_parse {info : RegisterInfo} {text : Text} {v : Value}
    (parsed : parseRegisterValue L info text = .ok v) : registerValue L info text = .ok v := by
  unfold parseRegisterValue at parsed
  split at parsed
  · simp at parsed
  · simp at parsed
  · exact parsed

theorem tame_write {R : List BreakpointSite → List Watchpoint → Prop} {info : RegisterInfo}
    {v : Value} (fits : v.size ≤ info.size) :
    Tame Escaping (OnStoppoints R) (Registers.write P info v) := by
  unfold Registers.write Registers.setValue
  rw [if_pos fits]
  refine (tame_setData _).bind fun _ => Tame.get.bind fun w => Tame.ite ?_ ?_
  · exact tame_orSendErrno _ _
  · exact tame_orSendErrno _ _

/-- `register write` of a known register, with a value that is left unset. -/
def RegisterHazard (L : Libraries) (args : List Text) : Prop :=
  isPrefix (arg args 1) "read" = false ∧ isPrefix (arg args 1) "write" = true ∧
    args.length = 4 ∧ ∃ info, registerInfoByName (String.ofList (arg args 2)) = .ok info ∧
      UnsetValue L info (arg args 3)

theorem preserves_print (text : String) :
    Preserves Debugger.Sound (print text : Cli κ Unit) := (tame_print text).preserves

theorem preserves_printErr (text : String) :
    Preserves Debugger.Sound (printErr text : Cli κ Unit) := (tame_printErr text).preserves

theorem preserves_helpOn (command : String) :
    Preserves Debugger.Sound (helpOn command : Cli κ Unit) := (tame_helpOn command).preserves

theorem preserves_handleRegisterCommand (args : List Text) :
    Preserves Debugger.Sound (handleRegisterCommand P L args) := by
  have blind : RegisterBlind P SdbDebugger.Sound :=
    ⟨fun _ _ h => h, fun _ _ _ h => h, fun _ _ h => h⟩
  unfold handleRegisterCommand handleRegisterWrite
  refine Preserves.ite (preserves_helpOn _) (Preserves.ite (tame_handleRegisterRead _).preserves
    (Preserves.ite (Preserves.ite (preserves_helpOn _) ?_) (preserves_helpOn _)))
  refine preserves_catchError ?_ fun _ => preserves_printErr _
  exact preserves_evaluate.bind fun info => preserves_evaluate.bind fun value =>
    preserves_onProcess (Registers.preserves_write P blind info value)

theorem raises_handleRegisterWrite (args : List Text) (sound : d.Sound) :
    Raises Escaping (handleRegisterWrite P L args) d ↔ args.length = 4 ∧
      ∃ info, registerInfoByName (String.ofList (arg args 2)) = .ok info ∧
        UnsetValue L info (arg args 3) := by
  unfold handleRegisterWrite
  by_cases few : args.length = 4
  · rw [if_neg (not_not_intro few), raises_catchError fun _ _ => printErr_quiet _,
      raises_evaluate_bind, or_iff_right (registerInfoByName_mild _), and_iff_right few]
    refine exists_congr fun info => and_congr_right fun found => ?_
    rw [raises_evaluate_bind, escapes_parseRegisterValue]
    refine or_iff_left fun h => ?_
    obtain ⟨value, parsed, raised⟩ := h
    have fits := size_registerValue (mem_of_registerInfoByName found) (registerValue_of_parse parsed)
    exact (tame_onProcess (tame_write fits)).not_raises sound raised
  · rw [if_pos few]
    exact iff_of_false ((tame_helpOn _).not_raises sound) fun h => few h.1

theorem raises_handleRegisterCommand (args : List Text) (sound : d.Sound) :
    Raises Escaping (handleRegisterCommand P L args) d ↔ RegisterHazard L args := by
  have help : ¬ Raises Escaping (helpOn "register" : Cli κ Unit) d :=
    (tame_helpOn _).not_raises sound
  unfold handleRegisterCommand RegisterHazard
  split
  · next few => exact iff_of_false help fun h => by omega
  · split
    · next reads =>
      exact iff_of_false ((tame_handleRegisterRead _).not_raises sound) fun h => by simp [reads] at h
    · next other =>
      split
      · next writes => rw [raises_handleRegisterWrite args sound]; simp [other, writes]
      · next neither => exact iff_of_false help fun h => neither h.2.1

end SdbDebugger
