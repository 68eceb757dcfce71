import SdbDebugger.CommandErrors
import SdbDebugger.RegisterText

/-! The language of the prompt. A line that spells a request does what the request says, and a
line that spells none leaves the process as it is. -/

namespace SdbDebugger
open EffectRules Exceptions

/-! ### Keywords -/

/-- The commands, in the order in which `handle_command` compares. -/
inductive Keyword where
  | continue | register | breakpoint | step | memory | disassemble | watchpoint | catchpoint | help
  deriving DecidableEq, Repr

namespace Keyword

def all : List Keyword :=
  [.continue, .register, .breakpoint, .step, .memory, .disassemble, .watchpoint, .catchpoint, .help]

def name : Keyword → String
  | .continue => "continue"
  | .register => "register"
  | .breakpoint => "breakpoint"
  | .step => "step"
  | .memory => "memory"
  | .disassemble => "disassemble"
  | .watchpoint => "watchpoint"
  | .catchpoint => "catchpoint"
  | .help => "help"

end Keyword

/-- The command that a word stands for: the first one it abbreviates. The empty word abbreviates
everything. -/
def keyword (word : Text) : Option Keyword := Keyword.all.find? fun k => isPrefix word k.name

/-- What is done with stoppoints, in the order of the comparisons. -/
inductive Verb where
  | list | set | enable | disable | delete
  deriving DecidableEq, Repr

namespace Verb

def all : List Verb := [.list, .set, .enable, .disable, .delete]

def name : Verb → String
  | .list => "list"
  | .set => "set"
  | .enable => "enable"
  | .disable => "disable"
  | .delete => "delete"

end Verb

def verb (word : Text) : Option Verb := Verb.all.find? fun v => isPrefix word v.name

/-- What is done with registers and memory. -/
inductive Access where
  | read | write
  deriving DecidableEq, Repr

namespace Access

def all : List Access := [.read, .write]

def name : Access → String
  | .read => "read"
  | .write => "write"

end Access

def access (word : Text) : Option Access := Access.all.find? fun a => isPrefix word a.name

example : keyword "c".toList = some .continue ∧ keyword "ca".toList = some .catchpoint ∧
    keyword [] = some .continue ∧ verb "d".toList = some .disable ∧ verb [] = some .list := by decide

/-! ### Requests -/

/-- A change of a stoppoint that is there. -/
inductive Change where
  | enable | disable | delete
  deriving DecidableEq, Repr

def Change.verb : Change → Verb
  | .enable => .enable
  | .disable => .disable
  | .delete => .delete

/-- What a line can ask of the process. -/
inductive Request where
  | continue
  | step
  | setBreakpoint (address : VirtAddr) (hardware : Bool)
  | breakpoint (change : Change) (id : Int)
  | setWatchpoint (address : VirtAddr) (mode : StoppointMode) (size : BitVec 64)
  | watchpoint (change : Change) (id : Int)
  | catchSyscalls (policy : SyscallCatchPolicy)
  | writeRegister (info : RegisterInfo) (value : Value)
  | readMemory (address : VirtAddr) (amount : Nat)
  | writeMemory (address : VirtAddr) (data : List Byte)
  | disassemble (address : Option VirtAddr) (nInstructions : Nat)

variable {κ : Type} (P : Platform κ) (L : Libraries) (fuel : Nat)

def Change.breakpoint (id : Int) : Change → Sdb κ Unit
  | .enable => siteById id >>= BreakpointSite.enable P
  | .disable => siteById id >>= BreakpointSite.disable P
  | .delete => removeSiteById P id

def Change.watchpoint (id : Int) : Change → Sdb κ Unit
  | .enable => watchpointById id >>= Watchpoint.enable P
  | .disable => watchpointById id >>= Watchpoint.disable P
  | .delete => removeWatchpointById P id

/-- What is done with the process, and what is shown of it. -/
def Request.perform : Request → Cli κ Unit
  | .continue => do
    onProcess (resume P)
    let reason ← onProcess (waitOnSignal P fuel)
    handleStop P L reason
  | .step => do
    let reason ← onProcess (stepInstruction P fuel)
    handleStop P L reason
  | .setBreakpoint address hardware => do
    let i ← onProcess (createBreakpointSite address hardware false)
    onProcess (BreakpointSite.enable P i)
  | .breakpoint change id => onProcess (change.breakpoint P id)
  | .setWatchpoint address mode size => do
    let i ← onProcess (createWatchpoint P address mode size)
    onProcess (Watchpoint.enable P i)
  | .watchpoint change id => onProcess (change.watchpoint P id)
  | .catchSyscalls policy => onProcess (setSyscallCatchPolicy policy)
  | .writeRegister info value =>
    catchError (onProcess (Registers.write P info value)) fun what => printErr (what ++ "\n")
  | .readMemory address amount => do
    let data ← onProcess (SdbDebugger.readMemory P address amount)
    print (String.join (memoryRows address data))
  | .writeMemory address data => onProcess (SdbDebugger.writeMemory P address data)
  | .disassemble address nInstructions => do
    let pc ← onProcess getPc
    printDisassembly P L (address.getD pc) nInstructions

/-! ### Spelling -/

/-- An element of the list of a catchpoint: a number, or the name of a system call. -/
inductive SpellsSyscall : Text → Int → Prop where
  | number {word : Text} {id : Int} (digit : isDecimalDigit (peek word) = true)
      (denotes : Denotes .int 10 word id) : SpellsSyscall word id
  | name {word : Text} {id : Int} (other : isDecimalDigit (peek word) = false)
      (named : syscallNameToId (String.ofList word) = .ok id) : SpellsSyscall word id

/-- The options of `disassemble`; of several of a kind, the last one counts. -/
inductive SpellsOptions : List Text → Option VirtAddr × Nat → Option VirtAddr × Nat → Prop where
  | nil (given : Option VirtAddr × Nat) : SpellsOptions [] given given
  | address {word : Text} {v : Int} {options : List Text} {given result : Option VirtAddr × Nat}
      (denotes : Denotes .uint64 16 word v)
      (rest : SpellsOptions options (some (BitVec.ofInt 64 v), given.2) result) :
      SpellsOptions ("-a".toList :: word :: options) given result
  | count {word : Text} {v : Int} {options : List Text} {given result : Option VirtAddr × Nat}
      (denotes : Denotes .uint64 10 word v)
      (rest : SpellsOptions options (given.1, v.toNat) result) :
      SpellsOptions ("-c".toList :: word :: options) given result

/-- The words of a line that asks for something. Words that no command looks at may follow. -/
inductive Spells (L : Libraries) : List Text → Request → Prop where
  | continue {c : Text} {rest : List Text} (command : keyword c = some .continue) :
      Spells L (c :: rest) .continue
  | step {c : Text} {rest : List Text} (command : keyword c = some .step) :
      Spells L (c :: rest) .step
  | setBreakpoint {c s a : Text} {rest : List Text} {v : Int}
      (command : keyword c = some .breakpoint) (set : verb s = some .set)
      (address : Denotes .uint64 16 a v) (several : rest.length ≠ 1) :
      Spells L (c :: s :: a :: rest) (.setBreakpoint (BitVec.ofInt 64 v) false)
  | setHardwareBreakpoint {c s a : Text} {v : Int} (command : keyword c = some .breakpoint)
      (set : verb s = some .set) (address : Denotes .uint64 16 a v) :
      Spells L [c, s, a, "-h".toList] (.setBreakpoint (BitVec.ofInt 64 v) true)
  | breakpoint {c s i : Text} {rest : List Text} {id : Int} (change : Change)
      (command : keyword c = some .breakpoint) (asked : verb s = some change.verb)
      (number : Denotes .int 10 i id) : Spells L (c :: s :: i :: rest) (.breakpoint change id)
  | setWatchpoint {c s a m n : Text} {v size : Int} {mode : StoppointMode}
      (command : keyword c = some .watchpoint) (set : verb s = some .set)
      (address : Denotes .uint64 16 a v) (kind : watchpointMode m = some mode)
      (width : Denotes .uint64 10 n size) :
      Spells L [c, s, a, m, n] (.setWatchpoint (BitVec.ofInt 64 v) mode (BitVec.ofInt 64 size))
  | watchpoint {c s i : Text} {rest : List Text} {id : Int} (change : Change)
      (command : keyword c = some .watchpoint) (asked : verb s = some change.verb)
      (number : Denotes .int 10 i id) : Spells L (c :: s :: i :: rest) (.watchpoint change id)
  | catchAll {c s : Text} (command : keyword c = some .catchpoint)
      (syscall : isPrefix s "syscall" = true) : Spells L [c, s] (.catchSyscalls .catchAll)
  | catchNone {c s : Text} (command : keyword c = some .catchpoint)
      (syscall : isPrefix s "syscall" = true) :
      Spells L [c, s, "none".toList] (.catchSyscalls .catchNone)
  | catchSome {c s l : Text} {rest : List Text} {ids : List Int}
      (command : keyword c = some .catchpoint) (syscall : isPrefix s "syscall" = true)
      (other : rest = [] → l ≠ "none".toList)
      (list : List.Forall₂ SpellsSyscall (split ',' l) ids) :
      Spells L (c :: s :: l :: rest) (.catchSyscalls (.catchSome ids))
  | writeRegister {c s n text : Text} {info : RegisterInfo} {value : Value}
      (command : keyword c = some .register) (write : access s = some .write)
      (named : registerInfoByName (String.ofList n) = .ok info)
      (parsed : parseRegisterValue L info text = .ok value) :
      Spells L [c, s, n, text] (.writeRegister info value)
  | readMemory {c s a : Text} {rest : List Text} {v : Int} (command : keyword c = some .memory)
      (read : access s = some .read) (address : Denotes .uint64 16 a v)
      (several : rest.length ≠ 1) :
      Spells L (c :: s :: a :: rest) (.readMemory (BitVec.ofInt 64 v) 32)
  | readMemoryCount {c s a n : Text} {v count : Int} (command : keyword c = some .memory)
      (read : access s = some .read) (address : Denotes .uint64 16 a v)
      (number : Denotes .uint64 10 n count) :
      Spells L [c, s, a, n] (.readMemory (BitVec.ofInt 64 v) (toSize (BitVec.ofInt 32 count)))
  | writeMemory {c s a text : Text} {v : Int} {data : List Byte}
      (command : keyword c = some .memory) (write : access s = some .write)
      (address : Denotes .uint64 16 a v) (bytes : parseVector text = .ok data) :
      Spells L [c, s, a, text] (.writeMemory (BitVec.ofInt 64 v) data)
  | disassemble {c : Text} {options : List Text} {address : Option VirtAddr} {n : Nat}
      (command : keyword c = some .disassemble)
      (given : SpellsOptions options (none, 5) (address, n)) :
      Spells L (c :: options) (.disassemble address n)

/-! ### The comparisons -/

section Dispatch

variable {P L} {word : Text}

theorem toIntegral_eq_value {ty : IntType} {base : Nat} {sv : Text} {v : Int} :
    toIntegral ty sv base = .value v ↔ Denotes ty base sv v := by
  refine ⟨fun read => ?_, toIntegral_denotes⟩
  by_cases readable : Readable ty base sv
  · have exact : AcceptsExactly (Denotes ty base sv) id ((toIntegral ty sv base).map id) :=
      readable.acceptsExactly
    rw [Parsed.map_id] at exact
    obtain ⟨_, denotes, rfl⟩ := (exact.value v).1 read
    exact denotes
  · by_cases nothing : withoutPrefix sv base = []
    · rw [toIntegral_empty nothing] at read
      cases read
    · by_cases some : ∃ v, Numeral ty base (withoutPrefix sv base) v
      · obtain ⟨v', numeral⟩ := some
        rw [toIntegral_numeral numeral] at read
        split at read
        · next inside =>
          cases read
          exact ⟨_, stripped_withoutPrefix base sv, numeral, inside⟩
        · cases read
      · rw [toIntegral_other nothing fun v numeral => some ⟨v, numeral⟩] at read
        cases read

theorem denotes_of_deref {ty : IntType} {base : Nat} {sv : Text} {v : Int}
    (read : (toIntegral ty sv base).deref = .ok v) : Denotes ty base sv v := by
  cases parsed : toIntegral ty sv base with
  | value v' =>
    rw [parsed] at read
    cases read
    exact toIntegral_eq_value.1 parsed
  | nullopt =>
    rw [parsed] at read
    cases read
  | unset =>
    rw [parsed] at read
    cases read

/-- A search is a chain of comparisons. -/
theorem elim_find_cons {α β : Type} {p : α → Bool} (a : α) (all : List α) (b : β) (f : α → β) :
    ((a :: all).find? p).elim b f = if p a then f a else (all.find? p).elim b f := by
  rw [List.find?_cons]
  cases p a <;> rfl

/-- What `handle_command` does after the comparisons. -/
def Keyword.handle (P : Platform κ) (L : Libraries) (fuel : Nat) (args : List Text) :
    Keyword → Cli κ Unit
  | .continue => Request.perform P L fuel .continue
  | .register => handleRegisterCommand P L args
  | .breakpoint => handleBreakpointCommand P args
  | .step => Request.perform P L fuel .step
  | .memory => handleMemoryCommand P args
  | .disassemble => handleDisassembleCommand P L args
  | .watchpoint => handleWatchpointCommand P args
  | .catchpoint => handleCatchpointCommand args
  | .help => printHelp args

theorem handleCommand_keyword {line : Text} {rest : List Text}
    (words : split ' ' line = word :: rest) :
    handleCommand P L fuel line = (keyword word).elim (printErr "unknown command\n")
      (Keyword.handle P L fuel (word :: rest)) := by
  rw [handleCommand, words]
  simp only [keyword, Keyword.all, elim_find_cons, List.find?_nil, Option.elim_none]
  rfl

/-- An argument that has to be the id of a stoppoint. -/
def withId (message : String) (word : Text) (f : Int → Cli κ Unit) : Cli κ Unit :=
  if !(toIntegral .int word 10).hasValue then printErr message
  else do
    let id ← evaluate (toIntegral .int word 10).deref
    f id

theorem withId_denotes {message : String} {f : Int → Cli κ Unit} {id : Int}
    (number : Denotes .int 10 word id) : withId message word f = f id := by
  rw [withId, toIntegral_denotes number]
  exact pure_bind id f

variable {c s : Text}

theorem handleRegisterCommand_access (rest : List Text) :
    handleRegisterCommand P L (c :: s :: rest) = (access s).elim (helpOn "register") fun
      | .read => handleRegisterRead L (c :: s :: rest)
      | .write => handleRegisterWrite P L (c :: s :: rest) := by
  simp only [access, Access.all, elim_find_cons, List.find?_nil, Option.elim_none]
  exact if_neg (by simp)

theorem handleMemoryCommand_access (a : Text) (rest : List Text) :
    handleMemoryCommand P (c :: s :: a :: rest) = (access s).elim (helpOn "memory") fun
      | .read => handleMemoryReadCommand P (c :: s :: a :: rest)
      | .write => handleMemoryWriteCommand P (c :: s :: a :: rest) := by
  simp only [access, Access.all, elim_find_cons, List.find?_nil, Option.elim_none]
  exact if_neg (by simp)

/-- The comparisons of `handle_breakpoint_command`, where there is something to do it to. -/
theorem handleBreakpointCommand_verb (i : Text) (rest : List Text) :
    handleBreakpointCommand P (c :: s :: i :: rest) =
      (verb s).elim (if !(toIntegral .int i 10).hasValue then
          printErr "command expects breakpoint id" else pure ()) fun
        | .list => listBreakpoints
        | .set => handleBreakpointSet P (c :: s :: i :: rest)
        | .enable => withId "command expects breakpoint id" i
            fun id => onProcess (Change.breakpoint P id .enable)
        | .disable => withId "command expects breakpoint id" i
            fun id => onProcess (Change.breakpoint P id .disable)
        | .delete => withId "command expects breakpoint id" i
            fun id => onProcess (Change.breakpoint P id .delete) := by
  have two : ¬ (c :: s :: i :: rest).length < 2 := by simp
  have three : ¬ (c :: s :: i :: rest).length < 3 := by simp
  simp only [verb, Verb.all, elim_find_cons, List.find?_nil, Option.elim_none]
  rw [handleBreakpointCommand, if_neg two, if_neg three]
  cases number : (toIntegral .int i 10).hasValue with
  | true =>
    simp only [withId, arg, List.getD_cons_succ, List.getD_cons_zero, number]
    rfl
  | false =>
    simp only [withId, arg, List.getD_cons_succ, List.getD_cons_zero, number, Bool.not_false,
      if_true, ite_self]
    rfl

theorem handleWatchpointCommand_verb (i : Text) (rest : List Text) :
    handleWatchpointCommand P (c :: s :: i :: rest) =
      (verb s).elim (if !(toIntegral .int i 10).hasValue then
          printErr "command expects watchpoint id" else pure ()) fun
        | .list => handleWatchpointList
        | .set => handleWatchpointSet P (c :: s :: i :: rest)
        | .enable => withId "command expects watchpoint id" i
            fun id => onProcess (Change.watchpoint P id .enable)
        | .disable => withId "command expects watchpoint id" i
            fun id => onProcess (Change.watchpoint P id .disable)
        | .delete => withId "command expects watchpoint id" i
            fun id => onProcess (Change.watchpoint P id .delete) := by
  have two : ¬ (c :: s :: i :: rest).length < 2 := by simp
  have three : ¬ (c :: s :: i :: rest).length < 3 := by simp
  simp only [verb, Verb.all, elim_find_cons, List.find?_nil, Option.elim_none]
  rw [handleWatchpointCommand, if_neg two, if_neg three]
  cases number : (toIntegral .int i 10).hasValue with
  | true =>
    simp only [withId, arg, List.getD_cons_succ, List.getD_cons_zero, number]
    rfl
  | false =>
    simp only [withId, arg, List.getD_cons_succ, List.getD_cons_zero, number, Bool.not_false,
      if_true, ite_self]
    rfl

/-! ### A line that asks for something -/

theorem hardwareOption_several {a : Text} {rest : List Text} (several : rest.length ≠ 1) :
    hardwareOption (c :: s :: a :: rest) = .ok false := by
  rw [hardwareOption, if_neg (by simpa using several)]

theorem bytesToRead_several {a : Text} {rest : List Text} (several : rest.length ≠ 1) :
    bytesToRead (c :: s :: a :: rest) = .ok 32 := by
  rw [bytesToRead, if_neg (by simpa using several)]

theorem handleBreakpointSet_denotes {a : Text} {rest : List Text} {v : Int} {hardware : Bool}
    (address : Denotes .uint64 16 a v)
    (option : hardwareOption (c :: s :: a :: rest) = .ok hardware) :
    handleBreakpointSet P (c :: s :: a :: rest) =
      Request.perform P L fuel (.setBreakpoint (BitVec.ofInt 64 v) hardware) := by
  have place : toIntegral .uint64 (arg (c :: s :: a :: rest) 2) 16 = .value v :=
    toIntegral_denotes address
  unfold handleBreakpointSet
  simp only [place, option]
  rfl

theorem handleMemoryReadCommand_denotes {a : Text} {rest : List Text} {v : Int} {n : BitVec 32}
    (address : Denotes .uint64 16 a v) (count : bytesToRead (c :: s :: a :: rest) = .ok n) :
    handleMemoryReadCommand P (c :: s :: a :: rest) =
      Request.perform P L fuel (.readMemory (BitVec.ofInt 64 v) (toSize n)) := by
  have place : toIntegral .uint64 (arg (c :: s :: a :: rest) 2) 16 = .value v :=
    toIntegral_denotes address
  unfold handleMemoryReadCommand
  simp only [place, count]
  rfl

theorem handleWatchpointSet_denotes {a m n : Text} {v size : Int} {mode : StoppointMode}
    (address : Denotes .uint64 16 a v) (kind : watchpointMode m = some mode)
    (width : Denotes .uint64 10 n size) : handleWatchpointSet P [c, s, a, m, n] =
      Request.perform P L fuel
        (.setWatchpoint (BitVec.ofInt 64 v) mode (BitVec.ofInt 64 size)) := by
  have place : toIntegral .uint64 (arg [c, s, a, m, n] 2) 16 = .value v :=
    toIntegral_denotes address
  have number : toIntegral .uint64 (arg [c, s, a, m, n] 4) 10 = .value size :=
    toIntegral_denotes width
  have mode : watchpointMode (arg [c, s, a, m, n] 3) = some mode := kind
  unfold handleWatchpointSet
  simp only [place, number, mode]
  rfl

theorem syscallArgument_iff {id : Int} : syscallArgument word = .ok id ↔ SpellsSyscall word id := by
  unfold syscallArgument
  split
  · next digit =>
    constructor
    · intro read
      refine .number digit (toIntegral_eq_value.1 ?_)
      cases parsed : toIntegral .int word 10 with
      | value v =>
        rw [parsed] at read
        cases read
        rfl
      | nullopt =>
        rw [parsed] at read
        cases read
      | unset =>
        rw [parsed] at read
        cases read
    · intro spelled
      cases spelled with
      | number _ denotes =>
        rw [toIntegral_denotes denotes]
        rfl
      | name other _ =>
        rw [other] at digit
        cases digit
  · next other =>
    constructor
    · exact fun named => .name (Bool.eq_false_iff.2 other) named
    · intro spelled
      cases spelled with
      | number digit _ => exact absurd digit other
      | name _ named => exact named

theorem mapM_syscallArgument {words : List Text} {ids : List Int} :
    words.mapM syscallArgument = .ok ids ↔ List.Forall₂ SpellsSyscall words ids := by
  rw [mapM_eq_ok]
  simp only [syscallArgument_iff]

theorem disassembleOptions_spelled {options : List Text} {given result : Option VirtAddr × Nat}
    (spelled : SpellsOptions options given result) (pc : VirtAddr) :
    disassembleOptions options (given.1.getD pc) given.2 =
      .ok (some (result.1.getD pc, result.2)) := by
  induction spelled with
  | nil given => rfl
  | address denotes rest ih =>
    rw [disassembleOptions, if_pos rfl, toIntegral_denotes denotes]
    exact ih
  | count denotes rest ih =>
    rw [disassembleOptions, if_neg (by decide), if_pos rfl, toIntegral_denotes denotes]
    exact ih

/-- Both options have a number behind them. -/
theorem parsedOption {ty : IntType} {base : Nat} {value : Text} {α : Type} {refused : Fault}
    {f : Int → Except Fault α} {a : α}
    (read : (if !(toIntegral ty value base).hasValue then .error refused
      else (toIntegral ty value base).deref >>= f) = .ok a) :
    ∃ v, Denotes ty base value v ∧ f v = .ok a := by
  split at read
  · cases read
  · obtain ⟨v, number, rest⟩ := bind_eq_ok.1 read
    exact ⟨v, denotes_of_deref number, rest⟩

theorem spellsOptions_of_read {options : List Text} (given : Option VirtAddr × Nat) (pc : VirtAddr)
    {a : VirtAddr} {n : Nat}
    (read : disassembleOptions options (given.1.getD pc) given.2 = .ok (some (a, n))) :
    ∃ result, SpellsOptions options given result := by
  match options with
  | [] => exact ⟨given, .nil given⟩
  | [_] => cases read
  | option :: value :: options =>
    rw [disassembleOptions] at read
    split at read
    · next here =>
      obtain ⟨v, denotes, rest⟩ := parsedOption read
      obtain ⟨result, spelled⟩ :=
        spellsOptions_of_read (some (BitVec.ofInt 64 v), given.2) pc rest
      exact ⟨result, here ▸ .address denotes spelled⟩
    · split at read
      · next here =>
        obtain ⟨v, denotes, rest⟩ := parsedOption read
        obtain ⟨result, spelled⟩ :=
          spellsOptions_of_read (given.1, v.toNat) pc rest
        exact ⟨result, here ▸ .count denotes spelled⟩
      · cases read

theorem handleMemoryWriteCommand_denotes {a text : Text} {v : Int} {data : List Byte}
    (address : Denotes .uint64 16 a v) (bytes : parseVector text = .ok data) :
    handleMemoryWriteCommand P [c, s, a, text] =
      Request.perform P L fuel (.writeMemory (BitVec.ofInt 64 v) data) := by
  have place : toIntegral .uint64 (arg [c, s, a, text] 2) 16 = .value v := toIntegral_denotes address
  have parsed : parseVector (arg [c, s, a, text] 3) = .ok data := bytes
  unfold handleMemoryWriteCommand
  simp only [place, parsed]
  rfl

theorem bytesToRead_count {a n : Text} {count : Int} (number : Denotes .uint64 10 n count) :
    bytesToRead [c, s, a, n] = .ok (BitVec.ofInt 32 count) := by
  have read : toIntegral .uint64 (arg [c, s, a, n] 3) 10 = .value count := toIntegral_denotes number
  unfold bytesToRead
  simp only [read]
  rfl

theorem handleRegisterWrite_parsed {n text : Text} {info : RegisterInfo} {value : Value}
    (named : registerInfoByName (String.ofList n) = .ok info)
    (parsed : parseRegisterValue L info text = .ok value) :
    handleRegisterWrite P L [c, s, n, text] =
      Request.perform P L fuel (.writeRegister info value) := by
  have found : registerInfoByName (String.ofList (arg [c, s, n, text] 2)) = .ok info := named
  have read : parseRegisterValue L info (arg [c, s, n, text] 3) = .ok value := parsed
  unfold handleRegisterWrite
  simp only [found, evaluate_ok, pure_bind, read]
  rfl

theorem syscallPolicy_list {l : Text} {rest : List Text} {ids : List Int}
    (other : rest = [] → l ≠ "none".toList)
    (list : List.Forall₂ SpellsSyscall (split ',' l) ids) :
    syscallPolicy (c :: s :: l :: rest) = .ok (.catchSome ids) := by
  have some : ¬ ((c :: s :: l :: rest).length = 3 ∧ arg (c :: s :: l :: rest) 2 = "none".toList) := by
    rintro ⟨three, none⟩
    exact other (List.length_eq_zero_iff.1 (by simpa using three)) none
  have parsed : (split ',' (arg (c :: s :: l :: rest) 2)).mapM syscallArgument = .ok ids :=
    mapM_syscallArgument.2 list
  rw [syscallPolicy, if_neg some, if_pos (by simp), parsed]
  rfl

theorem handleDisassembleCommand_spelled {options : List Text} {address : Option VirtAddr} {n : Nat}
    (given : SpellsOptions options (none, 5) (address, n)) :
    handleDisassembleCommand P L (c :: options) =
      Request.perform P L fuel (.disassemble address n) := by
  unfold handleDisassembleCommand
  refine bind_congr fun pc => ?_
  have read : disassembleOptions (c :: options).tail pc 5 = .ok (some (address.getD pc, n)) :=
    disassembleOptions_spelled given pc
  rw [read, evaluate_ok, pure_bind]

theorem handleCommand_of_keyword {line : Text} {rest : List Text} {k : Keyword}
    (words : split ' ' line = word :: rest) (command : keyword word = some k) :
    handleCommand P L fuel line = k.handle P L fuel (word :: rest) := by
  rw [handleCommand_keyword fuel words, command]
  rfl

theorem handleBreakpointCommand_change {i : Text} {rest : List Text} {id : Int} (change : Change)
    (asked : verb s = some change.verb) (number : Denotes .int 10 i id) :
    handleBreakpointCommand P (c :: s :: i :: rest) =
      Request.perform P L fuel (.breakpoint change id) := by
  rw [handleBreakpointCommand_verb, asked]
  cases change with
  | enable => exact withId_denotes number
  | disable => exact withId_denotes number
  | delete => exact withId_denotes number

theorem handleWatchpointCommand_change {i : Text} {rest : List Text} {id : Int} (change : Change)
    (asked : verb s = some change.verb) (number : Denotes .int 10 i id) :
    handleWatchpointCommand P (c :: s :: i :: rest) =
      Request.perform P L fuel (.watchpoint change id) := by
  rw [handleWatchpointCommand_verb, asked]
  cases change with
  | enable => exact withId_denotes number
  | disable => exact withId_denotes number
  | delete => exact withId_denotes number

theorem handleCatchpointCommand_policy {rest : List Text} {policy : SyscallCatchPolicy}
    (syscall : isPrefix s "syscall" = true) (read : syscallPolicy (c :: s :: rest) = .ok policy) :
    handleCatchpointCommand (c :: s :: rest) =
      Request.perform P L fuel (.catchSyscalls policy) := by
  rw [handleCatchpointCommand, if_neg (by simp)]
  change (if isPrefix s "syscall" = true then _ else _) = _
  rw [if_pos syscall, handleSyscallCatchpointCommand, read, evaluate_ok, pure_bind]
  rfl

/-- A line that spells a request is that request. -/
theorem handleCommand_spelled {line : Text} {request : Request}
    (spelled : Spells L (split ' ' line) request) :
    handleCommand P L fuel line = request.perform P L fuel := by
  generalize words : split ' ' line = args at spelled
  cases spelled with
  | «continue» command => exact handleCommand_of_keyword fuel words command
  | step command => exact handleCommand_of_keyword fuel words command
  | setBreakpoint command set address several =>
    refine (handleCommand_of_keyword fuel words command).trans
      ((handleBreakpointCommand_verb _ _).trans ?_)
    rw [set]
    exact handleBreakpointSet_denotes fuel address (hardwareOption_several several)
  | setHardwareBreakpoint command set address =>
    refine (handleCommand_of_keyword fuel words command).trans
      ((handleBreakpointCommand_verb _ _).trans ?_)
    rw [set]
    exact handleBreakpointSet_denotes fuel address rfl
  | breakpoint change command asked number =>
    exact (handleCommand_of_keyword fuel words command).trans
      (handleBreakpointCommand_change fuel change asked number)
  | setWatchpoint command set address kind width =>
    refine (handleCommand_of_keyword fuel words command).trans
      ((handleWatchpointCommand_verb _ _).trans ?_)
    rw [set]
    exact handleWatchpointSet_denotes fuel address kind width
  | watchpoint change command asked number =>
    exact (handleCommand_of_keyword fuel words command).trans
      (handleWatchpointCommand_change fuel change asked number)
  | catchAll command syscall =>
    exact (handleCommand_of_keyword fuel words command).trans
      (handleCatchpointCommand_policy fuel syscall rfl)
  | catchNone command syscall =>
    exact (handleCommand_of_keyword fuel words command).trans
      (handleCatchpointCommand_policy fuel syscall rfl)
  | catchSome command syscall other list =>
    exact (handleCommand_of_keyword fuel words command).trans
      (handleCatchpointCommand_policy fuel syscall (syscallPolicy_list other list))
  | writeRegister command write named parsed =>
    refine (handleCommand_of_keyword fuel words command).trans
      ((handleRegisterCommand_access _).trans ?_)
    rw [write]
    exact handleRegisterWrite_parsed fuel named parsed
  | readMemory command read address several =>
    refine (handleCommand_of_keyword fuel words command).trans
      ((handleMemoryCommand_access _ _).trans ?_)
    rw [read]
    exact handleMemoryReadCommand_denotes fuel address (bytesToRead_several several)
  | readMemoryCount command read address number =>
    refine (handleCommand_of_keyword fuel words command).trans
      ((handleMemoryCommand_access _ _).trans ?_)
    rw [read]
    exact handleMemoryReadCommand_denotes fuel address (bytesToRead_count number)
  | writeMemory command write address bytes =>
    refine (handleCommand_of_keyword fuel words command).trans
      ((handleMemoryCommand_access _ _).trans ?_)
    rw [write]
    exact handleMemoryWriteCommand_denotes fuel address bytes
  | disassemble command given =>
    exact (handleCommand_of_keyword fuel words command).trans
      (handleDisassembleCommand_spelled fuel given)

/-! ### A line that asks for something asks for one thing -/

theorem denotes_unique {ty : IntType} {base : Nat} {v v' : Int}
    (one : Denotes ty base word v) (other : Denotes ty base word v') : v = v' :=
  Parsed.value.inj ((toIntegral_denotes one).symm.trans (toIntegral_denotes other))

theorem spellsSyscalls_unique {words : List Text} {ids ids' : List Int}
    (one : List.Forall₂ SpellsSyscall words ids) (other : List.Forall₂ SpellsSyscall words ids') :
    ids = ids' :=
  Except.ok.inj ((mapM_syscallArgument.2 one).symm.trans (mapM_syscallArgument.2 other))

theorem spellsOptions_unique {options : List Text} {given result result' : Option VirtAddr × Nat}
    (one : SpellsOptions options given result) (other : SpellsOptions options given result') :
    result = result' := by
  induction one with
  | nil =>
    cases other
    rfl
  | address denotes _ ih =>
    cases other with
    | address denotes' rest =>
      cases denotes_unique denotes denotes'
      exact ih rest
  | count denotes _ ih =>
    cases other with
    | count denotes' rest =>
      cases denotes_unique denotes denotes'
      exact ih rest

theorem change_unique {change change' : Change} (one : verb word = some change.verb)
    (other : verb word = some change'.verb) : change = change' := by
  rw [one] at other
  cases change <;> cases change' <;> first | rfl | cases other

/-- The first words tell the requests apart, and numbers and names do the rest. -/
theorem spells_unique {words : List Text} {request request' : Request}
    (one : Spells L words request) (other : Spells L words request') : request = request' := by
  have number := @denotes_unique
  have change := @change_unique
  have changes : ∀ change : Change, change.verb ≠ .set := fun change => by cases change <;> nofun
  cases one with
  | catchSome command syscall other' list =>
    cases other with
    | catchSome _ _ _ list' => rw [spellsSyscalls_unique list list']
    | _ => grind
  | disassemble command given =>
    cases other with
    | disassemble _ given' =>
      cases spellsOptions_unique given given'
      rfl
    | _ => grind
  | _ => cases other <;> grind

/-! ### A line that means nothing -/

abbrev Undefined (e : Fault) : Prop := ∃ reason, e = .undefinedBehaviour reason

/-- The words of a line that has no meaning: there are none, or a number fits no variable of the
command. The command goes on with a variable that was never set. -/
inductive Meaningless (L : Libraries) : List Text → Prop where
  | nothing : Meaningless L []
  | setBreakpoint {c s a : Text} {rest : List Text} (command : keyword c = some .breakpoint)
      (set : verb s = some .set) (address : toIntegral .uint64 a 16 = .unset) :
      Meaningless L (c :: s :: a :: rest)
  | breakpoint {c s i : Text} {rest : List Text} (change : Change)
      (command : keyword c = some .breakpoint) (asked : verb s = some change.verb)
      (id : toIntegral .int i 10 = .unset) : Meaningless L (c :: s :: i :: rest)
  | setWatchpoint {c s a m n : Text} (command : keyword c = some .watchpoint)
      (set : verb s = some .set)
      (number : toIntegral .uint64 a 16 = .unset ∨ toIntegral .uint64 n 10 = .unset) :
      Meaningless L [c, s, a, m, n]
  | watchpoint {c s i : Text} {rest : List Text} (change : Change)
      (command : keyword c = some .watchpoint) (asked : verb s = some change.verb)
      (id : toIntegral .int i 10 = .unset) : Meaningless L (c :: s :: i :: rest)
  | catchSome {c s l word : Text} {rest : List Text} (command : keyword c = some .catchpoint)
      (syscall : isPrefix s "syscall" = true) (element : word ∈ split ',' l)
      (id : toIntegral .int word 10 = .unset) : Meaningless L (c :: s :: l :: rest)
  | writeRegister {c s n text : Text} {info : RegisterInfo} (command : keyword c = some .register)
      (write : access s = some .write) (named : registerInfoByName (String.ofList n) = .ok info)
      (value : UnsetValue L info text) : Meaningless L [c, s, n, text]
  | readMemory {c s a : Text} {rest : List Text} (command : keyword c = some .memory)
      (read : access s = some .read) (address : toIntegral .uint64 a 16 = .unset) :
      Meaningless L (c :: s :: a :: rest)
  | readMemoryCount {c s a n : Text} (command : keyword c = some .memory)
      (read : access s = some .read) (count : toIntegral .uint64 n 10 = .unset) :
      Meaningless L [c, s, a, n]
  | writeMemory {c s a text : Text} (command : keyword c = some .memory)
      (write : access s = some .write)
      (number : toIntegral .uint64 a 16 = .unset ∨ Fails Undefined (parseVector text)) :
      Meaningless L [c, s, a, text]
  | disassemble {c : Text} {options : List Text} (command : keyword c = some .disassemble)
      (number : UnsetOption options) : Meaningless L (c :: options)

/-! ### A line that asks for nothing -/

/-- Command code that leaves the process alone, whether it raises or not, and raises nothing bad. -/
abbrev Idle {α : Type} (bad : Fault → Prop) (m : Cli κ α) : Prop :=
  ∀ w : World κ, Tame bad (fun d => d.world = w) m

section Idle

variable {α β : Type} {bad : Fault → Prop} (undefined : ∀ e, bad e → Undefined e)

theorem idle_print (text : String) : Idle bad (print text : Cli κ Unit) :=
  fun _ => Tame.modify fun _ h => h

theorem idle_printErr (text : String) : Idle bad (printErr text : Cli κ Unit) :=
  fun _ => Tame.modify fun _ h => h

theorem idle_get : Idle bad (get : Cli κ (Debugger κ)) := fun _ => Tame.get

theorem idle_pure (a : α) : Idle bad (pure a : Cli κ α) := fun _ => Tame.pure a

theorem idle_bind {m : Cli κ α} {f : α → Cli κ β} (hm : Idle bad m) (hf : ∀ a, Idle bad (f a)) :
    Idle bad (m >>= f) := fun w => (hm w).bind fun a => hf a w

theorem idle_ite {c : Prop} [Decidable c] {m m' : Cli κ α} (hm : Idle bad m) (hm' : Idle bad m') :
    Idle bad (if c then m else m') := fun w => (hm w).ite (hm' w)

theorem idle_evaluate {x : Except Fault α} {f : α → Cli κ β} (mild : ¬ Fails bad x)
    (rest : ∀ a, x = .ok a → Idle bad (f a)) : Idle bad (evaluate x >>= f) := by
  cases x with
  | ok a =>
    rw [evaluate_ok, pure_bind]
    exact rest a rfl
  | error e =>
    intro w d h
    rw [evaluate_error, wp_bind, wp_throw]
    exact ⟨fun isBad => mild ((fails_error e).2 isBad), h⟩

theorem idle_catchError {m : Cli κ Unit} {handler : String → Cli κ Unit} (body : Idle bad m)
    (rest : ∀ what, Idle bad (handler what)) : Idle bad (catchError m handler) := by
  intro w d h
  have first := wp_iff.1 (body w d h)
  cases run : m d with
  | ok a t => exact (wp_of_ok (catchError_of_ok run) _ _).2 (first.1 a t run)
  | error e t =>
    have raised := first.2 e t run
    by_cases caught : ∃ what, e = .error what
    · obtain ⟨what, rfl⟩ := caught
      rw [wp, catchError_of_error run]
      exact rest what w t raised.2
    · exact (wp_of_error (catchError_of_other (fun what same => caught ⟨what, same⟩) run) _ _).2
        raised

theorem idle_printHelp (args : List Text) : Idle bad (printHelp args : Cli κ Unit) := by
  unfold printHelp
  split_ifs
  all_goals exact idle_printErr _

theorem idle_helpOn (command : String) : Idle bad (helpOn command : Cli κ Unit) :=
  idle_printHelp _

theorem idle_listBreakpoints : Idle bad (listBreakpoints : Cli κ Unit) := by
  refine idle_bind idle_get fun d => ?_
  split
  · exact idle_print _
  · exact idle_bind (idle_print _) fun _ => idle_print _

theorem idle_handleWatchpointList : Idle bad (handleWatchpointList : Cli κ Unit) := by
  refine idle_bind idle_get fun d => ?_
  split
  · exact idle_print _
  · exact idle_bind (idle_print _) fun _ => idle_print _

/-- A number is looked at only where the parser has accepted it. -/
theorem mild_deref {p : Parsed α} (holds : p.hasValue = true) (set : p = .unset → ∀ e, ¬ bad e) :
    ¬ Fails bad p.deref := by
  cases p with
  | nullopt => cases holds
  | unset => exact fun ⟨e, _, isBad⟩ => set rfl e isBad
  | value v => exact (fails_ok v).1

/-- An argument is not looked at further where it is not a number. -/
theorem idle_withId {message : String} {f : Int → Cli κ Unit}
    (other : ∀ id, ¬ Denotes .int 10 word id)
    (set : toIntegral .int word 10 = .unset → ∀ e, ¬ bad e) : Idle bad (withId message word f) := by
  unfold withId
  cases parsed : toIntegral .int word 10 with
  | value v => exact absurd (toIntegral_eq_value.1 parsed) (other v)
  | nullopt => exact idle_printErr _
  | unset => exact idle_evaluate (mild_deref rfl fun _ => set parsed) fun _ read => by cases read

theorem idle_handleWatchpointSet {a : Text} {rest : List Text}
    (other : ∀ m n v size mode, rest = [m, n] → Denotes .uint64 16 a v →
      Denotes .uint64 10 n size → watchpointMode m ≠ some mode)
    (set : ∀ m n, rest = [m, n] →
      (toIntegral .uint64 a 16 = .unset ∨ toIntegral .uint64 n 10 = .unset) → ∀ e, ¬ bad e) :
    Idle bad (handleWatchpointSet P (c :: s :: a :: rest)) := by
  unfold handleWatchpointSet
  dsimp only
  split
  · exact idle_helpOn _
  · next five =>
    obtain ⟨m, n, rfl⟩ := List.length_eq_two.1 (show rest.length = 2 by simpa using five)
    split
    · exact idle_helpOn _
    · next mode kind =>
      split
      · exact idle_helpOn _
      · next holds =>
        have numbers : (toIntegral .uint64 a 16).hasValue = true ∧
            (toIntegral .uint64 n 10).hasValue = true := by simpa [arg] using holds
        exact idle_evaluate (mild_deref numbers.1 fun unset => set m n rfl (.inl unset))
          fun v place =>
            idle_evaluate (mild_deref numbers.2 fun unset => set m n rfl (.inr unset))
              fun size width =>
                absurd kind (other m n v size mode rfl (denotes_of_deref place)
                  (denotes_of_deref width))

include undefined

/-- What can not end the debugger is not undefined either. -/
theorem mild_of_caught {x : Except Fault α} (caught : ¬ Fails Escaping x) : ¬ Fails bad x := by
  rintro ⟨e, rfl, isBad⟩
  obtain ⟨reason, rfl⟩ := undefined e isBad
  exact caught ((fails_error _).2 rfl)

theorem idle_printRegister (info : RegisterInfo) :
    Idle bad (printRegister L info : Cli κ Unit) :=
  idle_bind idle_get fun _ =>
    idle_evaluate (mild_of_caught undefined (read_mild _ _)) fun _ _ => idle_print _

theorem idle_printRegisters (all : Bool) (infos : List RegisterInfo) :
    Idle bad (printRegisters L all infos : Cli κ Unit) := by
  induction infos with
  | nil => exact idle_pure _
  | cons info infos ih =>
    rw [printRegisters]
    split
    · exact idle_bind (idle_printRegister undefined info) fun _ => ih
    · exact ih

theorem idle_handleRegisterRead (args : List Text) :
    Idle bad (handleRegisterRead L args : Cli κ Unit) := by
  unfold handleRegisterRead
  split_ifs
  · exact idle_printRegisters undefined _ _
  · exact idle_catchError
      (idle_evaluate (mild_of_caught undefined (registerInfoByName_mild _)) fun _ _ =>
        idle_printRegister undefined _) fun _ => idle_printErr _
  · exact idle_helpOn _

theorem idle_send (what : String) : Idle bad (send what : Cli κ α) := by
  refine fun w => Tame.throw fun isBad => ?_
  obtain ⟨reason, same⟩ := undefined _ isBad
  cases same

theorem idle_handleBreakpointSet {a : Text} {rest : List Text}
    (other : ∀ v hardware, Denotes .uint64 16 a v →
      hardwareOption (c :: s :: a :: rest) ≠ .ok hardware)
    (set : toIntegral .uint64 a 16 = .unset → ∀ e, ¬ bad e) :
    Idle bad (handleBreakpointSet P (c :: s :: a :: rest)) := by
  have option : ¬ Fails Escaping (hardwareOption (c :: s :: a :: rest)) := by
    unfold hardwareOption
    split_ifs
    all_goals simp [Escaping, Fault.escapes]
  unfold handleBreakpointSet
  dsimp only
  split
  · exact idle_printErr _
  · next holds =>
    have number : (toIntegral .uint64 a 16).hasValue = true := by simpa [arg] using holds
    exact idle_evaluate (mild_of_caught undefined option) fun hardware option =>
      idle_evaluate (mild_deref number set) fun v read =>
        absurd option (other v hardware (denotes_of_deref read))

theorem idle_handleMemoryReadCommand {a : Text} {rest : List Text}
    (other : ∀ v n, Denotes .uint64 16 a v → bytesToRead (c :: s :: a :: rest) ≠ .ok n)
    (set : toIntegral .uint64 a 16 = .unset → ∀ e, ¬ bad e)
    (counted : ∀ n, rest = [n] → toIntegral .uint64 n 10 = .unset → ∀ e, ¬ bad e) :
    Idle bad (handleMemoryReadCommand P (c :: s :: a :: rest)) := by
  have count : ¬ Fails bad (bytesToRead (c :: s :: a :: rest)) := by
    intro fails
    by_cases escapes : Fails Escaping (bytesToRead (c :: s :: a :: rest))
    · obtain ⟨four, unset⟩ := escapes_bytesToRead.1 escapes
      obtain ⟨n, rfl⟩ := List.length_eq_one_iff.1 (show rest.length = 1 by simpa using four)
      obtain ⟨e, _, isBad⟩ := fails
      exact counted n rfl unset e isBad
    · exact mild_of_caught undefined escapes fails
  unfold handleMemoryReadCommand
  dsimp only
  split
  · exact idle_send undefined _
  · next holds =>
    have number : (toIntegral .uint64 a 16).hasValue = true := by simpa [arg] using holds
    exact idle_evaluate count fun n count => idle_evaluate (mild_deref number set) fun v read =>
      absurd count (other v n (denotes_of_deref read))

theorem idle_handleMemoryWriteCommand {a : Text} {rest : List Text}
    (other : ∀ text v data, rest = [text] → Denotes .uint64 16 a v → parseVector text ≠ .ok data)
    (set : ∀ text, rest = [text] →
      (toIntegral .uint64 a 16 = .unset ∨ Fails Undefined (parseVector text)) → ∀ e, ¬ bad e) :
    Idle bad (handleMemoryWriteCommand P (c :: s :: a :: rest)) := by
  unfold handleMemoryWriteCommand
  dsimp only
  split
  · exact idle_helpOn _
  · next four =>
    obtain ⟨text, rfl⟩ := List.length_eq_one_iff.1 (show rest.length = 1 by simpa using four)
    split
    · exact idle_send undefined _
    · next holds =>
      have number : (toIntegral .uint64 a 16).hasValue = true := by simpa [arg] using holds
      have vector : ¬ Fails bad (parseVector text) := fun ⟨e, failed, isBad⟩ =>
        set text rfl (.inr ⟨e, failed, undefined e isBad⟩) e isBad
      exact idle_evaluate vector fun data parsed =>
        idle_evaluate (mild_deref number fun unset => set text rfl (.inl unset)) fun v read =>
          absurd parsed (other text v data rfl (denotes_of_deref read))

theorem idle_handleRegisterWrite {rest : List Text}
    (other : ∀ n text info value, rest = [n, text] →
      registerInfoByName (String.ofList n) = .ok info → parseRegisterValue L info text ≠ .ok value)
    (set : ∀ n text info, rest = [n, text] → registerInfoByName (String.ofList n) = .ok info →
      UnsetValue L info text → ∀ e, ¬ bad e) :
    Idle bad (handleRegisterWrite P L (c :: s :: rest)) := by
  unfold handleRegisterWrite
  split
  · exact idle_helpOn _
  · next four =>
    obtain ⟨n, text, rfl⟩ := List.length_eq_two.1 (show rest.length = 2 by simpa using four)
    refine idle_catchError ?_ fun _ => idle_printErr _
    refine idle_evaluate (mild_of_caught undefined (registerInfoByName_mild _)) fun info named => ?_
    refine idle_evaluate (fun fails => ?_) fun value parsed =>
      absurd parsed (other n text info value rfl named)
    by_cases unset : UnsetValue L info text
    · obtain ⟨e, _, isBad⟩ := fails
      exact set n text info rfl named unset e isBad
    · exact mild_of_caught undefined (mt escapes_parseRegisterValue.1 unset) fails

end Idle

/-! ### Every line -/

theorem hardwareOption_eq_ok {a : Text} {rest : List Text} {hardware : Bool}
    (option : hardwareOption (c :: s :: a :: rest) = .ok hardware) :
    rest = ["-h".toList] ∧ hardware = true ∨ rest.length ≠ 1 ∧ hardware = false := by
  by_cases one : rest.length = 1
  · obtain ⟨word, rfl⟩ := List.length_eq_one_iff.1 one
    rw [hardwareOption, if_pos (by simp)] at option
    split at option
    · next here =>
      cases option
      exact .inl ⟨congrArg (fun w => [w]) here, rfl⟩
    · cases option
  · rw [hardwareOption_several one] at option
    cases option
    exact .inr ⟨one, rfl⟩

theorem bytesToRead_eq_ok {a : Text} {rest : List Text} {n : BitVec 32}
    (read : bytesToRead (c :: s :: a :: rest) = .ok n) :
    (∃ word count, rest = [word] ∧ Denotes .uint64 10 word count ∧ n = BitVec.ofInt 32 count) ∨
      rest.length ≠ 1 ∧ n = 32 := by
  by_cases one : rest.length = 1
  · obtain ⟨word, rfl⟩ := List.length_eq_one_iff.1 one
    rw [bytesToRead, if_pos (by simp)] at read
    dsimp only at read
    split at read
    · cases read
    · obtain ⟨count, number, made⟩ := map_eq_ok.1 read
      exact .inl ⟨word, count, rfl, denotes_of_deref number, made.symm⟩
  · rw [bytesToRead_several one] at read
    cases read
    exact .inr ⟨one, rfl⟩

theorem spells_catchpoint {rest : List Text} {policy : SyscallCatchPolicy}
    (command : keyword c = some .catchpoint) (syscall : isPrefix s "syscall" = true)
    (read : syscallPolicy (c :: s :: rest) = .ok policy) :
    Spells L (c :: s :: rest) (.catchSyscalls policy) := by
  unfold syscallPolicy at read
  split at read
  · next none =>
    cases read
    obtain ⟨word, rfl⟩ := List.length_eq_one_iff.1 (show rest.length = 1 by simpa using none.1)
    obtain rfl : word = "none".toList := none.2
    exact .catchNone command syscall
  · next some =>
    split at read
    · next three =>
      cases rest with
      | nil => simp at three
      | cons l rest =>
        obtain ⟨ids, parsed, rfl⟩ := map_eq_ok.1 read
        refine .catchSome command syscall (fun last here => some ?_) (mapM_syscallArgument.1 parsed)
        subst last
        exact ⟨rfl, here⟩
    · next three =>
      cases read
      cases rest with
      | nil => exact .catchAll command syscall
      | cons l rest => simp at three

/-- A list of which the numbers fit raises nothing undefined. -/
theorem unset_of_syscallPolicy {rest : List Text} {bad : Fault → Prop}
    (undefined : ∀ e, bad e → Undefined e) (fails : Fails bad (syscallPolicy (c :: s :: rest))) :
    ∃ l later word, rest = l :: later ∧ word ∈ split ',' l ∧ toIntegral .int word 10 = .unset := by
  unfold syscallPolicy at fails
  split_ifs at fails with none some
  · exact absurd fails (fails_ok _).1
  · obtain ⟨l, later, rfl⟩ := List.exists_cons_of_length_pos (show 1 ≤ rest.length by simpa using some)
    rw [fails_map, fails_mapM] at fails
    obtain ⟨before, word, after, shape, _, e, failed, isBad⟩ := fails
    obtain ⟨reason, rfl⟩ := undefined e isBad
    refine ⟨l, later, word, rfl, ?_, ?_⟩
    · change split ',' l = _ at shape
      rw [shape]
      simp
    · unfold syscallArgument at failed
      split at failed
      · cases number : toIntegral .int word 10 with
        | unset => rfl
        | nullopt =>
          rw [number] at failed
          cases failed
        | value v =>
          rw [number] at failed
          cases failed
      · unfold syscallNameToId at failed
        split at failed
        all_goals cases failed
  · exact absurd fails (fails_ok _).1

section Unspelled

variable {rest : List Text} {bad : Fault → Prop} (undefined : ∀ e, bad e → Undefined e)
  (none : ∀ request, ¬ Spells L (c :: rest) request)
  (set : Meaningless L (c :: rest) → ∀ e, ¬ bad e)
include undefined none set

theorem idle_handleRegisterCommand (command : keyword c = some .register) :
    Idle bad (handleRegisterCommand P L (c :: rest)) := by
  cases rest with
  | nil =>
    rw [handleRegisterCommand, if_pos (by simp)]
    exact idle_helpOn _
  | cons s rest =>
    rw [handleRegisterCommand_access]
    cases asked : access s with
    | none => exact idle_helpOn _
    | some a =>
      cases a with
      | read => exact idle_handleRegisterRead undefined _
      | write =>
        refine idle_handleRegisterWrite undefined (fun n text info value shape named parsed => ?_)
          (fun n text info shape named unset => ?_)
        · subst shape
          exact none _ (.writeRegister command asked named parsed)
        · subst shape
          exact set (.writeRegister command asked named unset)

theorem idle_handleMemoryCommand (command : keyword c = some .memory) :
    Idle bad (handleMemoryCommand P (c :: rest)) := by
  match rest, none, set with
  | [], _, _ =>
    rw [handleMemoryCommand, if_pos (by simp)]
    exact idle_helpOn _
  | [_], _, _ =>
    rw [handleMemoryCommand, if_pos (by simp)]
    exact idle_helpOn _
  | s :: a :: rest, none, set =>
    rw [handleMemoryCommand_access]
    cases asked : access s with
    | none => exact idle_helpOn _
    | some access =>
      cases access with
      | read =>
        refine idle_handleMemoryReadCommand undefined (fun v n address count => ?_)
          (fun unset => set (.readMemory command asked unset)) (fun n shape unset => ?_)
        · rcases bytesToRead_eq_ok count with ⟨word, m, rfl, number, rfl⟩ | ⟨several, rfl⟩
          · exact none _ (.readMemoryCount command asked address number)
          · exact none _ (.readMemory command asked address several)
        · subst shape
          exact set (.readMemoryCount command asked unset)
      | write =>
        refine idle_handleMemoryWriteCommand undefined (fun text v data shape address bytes => ?_)
          (fun text shape unset => ?_)
        · subst shape
          exact none _ (.writeMemory command asked address bytes)
        · subst shape
          exact set (.writeMemory command asked unset)

omit undefined in
/-- The id of a change has to be a number. -/
theorem idle_breakpoint_change {s i : Text} {later : List Text} (shape : rest = s :: i :: later)
    (command : keyword c = some .breakpoint) (change : Change) (asked : verb s = some change.verb) :
    Idle bad (handleBreakpointCommand P (c :: rest)) := by
  subst shape
  have other : ∀ id, ¬ Denotes .int 10 i id := fun id number =>
    none _ (.breakpoint change command asked number)
  have fits : toIntegral .int i 10 = .unset → ∀ e, ¬ bad e := fun unset =>
    set (.breakpoint change command asked unset)
  rw [handleBreakpointCommand_verb, asked]
  cases change with
  | enable => exact idle_withId other fits
  | disable => exact idle_withId other fits
  | delete => exact idle_withId other fits

theorem idle_handleBreakpointCommand (command : keyword c = some .breakpoint) :
    Idle bad (handleBreakpointCommand P (c :: rest)) := by
  match rest, none, set with
  | [], _, _ =>
    rw [handleBreakpointCommand, if_pos (by simp)]
    exact idle_helpOn _
  | [s], _, _ =>
    have short : [c, s].length < 3 := by simp
    rw [handleBreakpointCommand, if_neg (by simp), if_pos short]
    exact idle_ite idle_listBreakpoints (idle_helpOn _)
  | s :: i :: later, none, set =>
    cases asked : verb s with
    | none =>
      rw [handleBreakpointCommand_verb, asked]
      exact idle_ite (idle_printErr _) (idle_pure _)
    | some v =>
      cases v with
      | list =>
        rw [handleBreakpointCommand_verb, asked]
        exact idle_listBreakpoints
      | set =>
        rw [handleBreakpointCommand_verb, asked]
        refine idle_handleBreakpointSet undefined (fun v hardware address option => ?_)
          fun unset => set (.setBreakpoint command asked unset)
        rcases hardwareOption_eq_ok option with ⟨rfl, rfl⟩ | ⟨several, rfl⟩
        · exact none _ (.setHardwareBreakpoint command asked address)
        · exact none _ (.setBreakpoint command asked address several)
      | enable => exact idle_breakpoint_change none set rfl command .enable asked
      | disable => exact idle_breakpoint_change none set rfl command .disable asked
      | delete => exact idle_breakpoint_change none set rfl command .delete asked

omit undefined in
theorem idle_watchpoint_change {s i : Text} {later : List Text} (shape : rest = s :: i :: later)
    (command : keyword c = some .watchpoint) (change : Change) (asked : verb s = some change.verb) :
    Idle bad (handleWatchpointCommand P (c :: rest)) := by
  subst shape
  have other : ∀ id, ¬ Denotes .int 10 i id := fun id number =>
    none _ (.watchpoint change command asked number)
  have fits : toIntegral .int i 10 = .unset → ∀ e, ¬ bad e := fun unset =>
    set (.watchpoint change command asked unset)
  rw [handleWatchpointCommand_verb, asked]
  cases change with
  | enable => exact idle_withId other fits
  | disable => exact idle_withId other fits
  | delete => exact idle_withId other fits

omit undefined in
theorem idle_handleWatchpointCommand (command : keyword c = some .watchpoint) :
    Idle bad (handleWatchpointCommand P (c :: rest)) := by
  match rest, none, set with
  | [], _, _ =>
    rw [handleWatchpointCommand, if_pos (by simp)]
    exact idle_helpOn _
  | [s], _, _ =>
    have bare : Idle bad (handleWatchpointSet P [c, s]) := by
      rw [handleWatchpointSet, if_pos (by simp)]
      exact idle_helpOn _
    have short : [c, s].length < 3 := by simp
    rw [handleWatchpointCommand, if_neg (by simp), if_pos short]
    exact idle_ite idle_handleWatchpointList (idle_ite bare (idle_helpOn _))
  | s :: i :: later, none, set =>
    cases asked : verb s with
    | none =>
      rw [handleWatchpointCommand_verb, asked]
      exact idle_ite (idle_printErr _) (idle_pure _)
    | some v =>
      cases v with
      | list =>
        rw [handleWatchpointCommand_verb, asked]
        exact idle_handleWatchpointList
      | set =>
        rw [handleWatchpointCommand_verb, asked]
        refine idle_handleWatchpointSet (fun m n v size mode shape address width kind => ?_)
          (fun m n shape unset => ?_)
        · subst shape
          exact none _ (.setWatchpoint command asked address kind width)
        · subst shape
          exact set (.setWatchpoint command asked unset)
      | enable => exact idle_watchpoint_change none set rfl command .enable asked
      | disable => exact idle_watchpoint_change none set rfl command .disable asked
      | delete => exact idle_watchpoint_change none set rfl command .delete asked

theorem idle_handleCatchpointCommand (command : keyword c = some .catchpoint) :
    Idle bad (handleCatchpointCommand (c :: rest) : Cli κ Unit) := by
  cases rest with
  | nil =>
    rw [handleCatchpointCommand, if_pos (by simp)]
    exact idle_helpOn _
  | cons s rest =>
    rw [handleCatchpointCommand, if_neg (by simp)]
    split
    · next syscall =>
      refine idle_evaluate (fun fails => ?_) fun policy read =>
        absurd (spells_catchpoint command syscall read) (none _)
      obtain ⟨l, later, word, rfl, element, unset⟩ := unset_of_syscallPolicy undefined fails
      obtain ⟨e, _, isBad⟩ := fails
      exact set (.catchSome command syscall element unset) e isBad
    · exact idle_pure _

theorem idle_handleDisassembleCommand (command : keyword c = some .disassemble) :
    Idle bad (handleDisassembleCommand P L (c :: rest)) := by
  refine idle_bind (fun w => ?_) fun pc => idle_evaluate (fun fails => ?_) fun options read => ?_
  · intro d same
    rw [wp_of_ok (onProcess_ok (d := d) (getPc_eq d.world))]
    exact same
  · by_cases unset : UnsetOption rest
    · obtain ⟨e, _, isBad⟩ := fails
      exact set (.disassemble command unset) e isBad
    · exact mild_of_caught undefined (mt (escapes_disassembleOptions _ _ _).1 unset) fails
  · cases options with
    | none => exact idle_helpOn _
    | some place =>
      obtain ⟨result, given⟩ := spellsOptions_of_read (Option.none, 5) pc read
      exact absurd (.disassemble command given) (none _)

/-- A line that spells no request leaves the process alone. -/
theorem idle_handle (fuel : Nat) {k : Keyword} (command : keyword c = some k) :
    Idle bad (k.handle P L fuel (c :: rest)) := by
  cases k with
  | «continue» => exact absurd (.continue command) (none _)
  | register => exact idle_handleRegisterCommand undefined none set command
  | breakpoint => exact idle_handleBreakpointCommand undefined none set command
  | step => exact absurd (.step command) (none _)
  | memory => exact idle_handleMemoryCommand undefined none set command
  | disassemble => exact idle_handleDisassembleCommand undefined none set command
  | watchpoint => exact idle_handleWatchpointCommand none set command
  | catchpoint => exact idle_handleCatchpointCommand undefined none set command
  | help => exact idle_printHelp _

end Unspelled

theorem idle_handleCommand (fuel : Nat) {line : Text} {bad : Fault → Prop}
    (undefined : ∀ e, bad e → Undefined e)
    (none : ∀ request, ¬ Spells L (split ' ' line) request)
    (set : Meaningless L (split ' ' line) → ∀ e, ¬ bad e) :
    Idle bad (handleCommand P L fuel line) := by
  cases words : split ' ' line with
  | nil =>
    rw [words] at set
    rw [handleCommand, words]
    exact fun _ => Tame.throw (set .nothing _)
  | cons c rest =>
    rw [words] at none set
    cases command : keyword c with
    | none =>
      rw [handleCommand_keyword fuel words, command]
      exact idle_printErr _
    | some k =>
      rw [handleCommand_of_keyword fuel words command]
      exact idle_handle undefined none set fuel command

/-- Of all lines, those that spell a request, which is the only one, do what it says. The others
that have a meaning leave the process as it is, and do nothing undefined. -/
theorem handleCommand_understands (P : Platform κ) (L : Libraries) (fuel : Nat) (line : Text) :
    (∀ request, Spells L (split ' ' line) request →
      handleCommand P L fuel line = request.perform P L fuel ∧
      ∀ other, Spells L (split ' ' line) other → other = request) ∧
    ((∀ request, ¬ Spells L (split ' ' line) request) → ¬ Meaningless L (split ' ' line) →
      Idle Undefined (handleCommand P L fuel line)) :=
  ⟨fun _ spelled => ⟨handleCommand_spelled fuel spelled, fun _ other => spells_unique other spelled⟩,
    fun none meant => idle_handleCommand fuel (fun _ h => h) none fun h => absurd h meant⟩

end Dispatch

end SdbDebugger
