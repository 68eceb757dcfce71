import SdbDebugger.StopReport

/-! The commands of `sdb.cpp`, from `print_help` to `handle_command`. -/

namespace SdbDebugger
open EffectRules StoppointCollection

variable {κ : Type} (P : Platform κ) (L : Libraries)

/-! ### Help -/

def commandsHelp : String := "Available commands:
breakpoint  - Commands for operating on breakpoints
catchpoint  - Commands for operating on catchpoints
continue    - Resume the process
disassemble - Disassemble machine code to assembly
memory      - Commands for operating on memory
register    - Commands for operating on registers
step        - Step over a single instruction
watchpoint  - Commands for operating on watchpoints
"

def registerHelp : String := "Available commands:
read
read <register>
read all
write <register> <value>
"

def breakpointHelp : String := "Available commands:
list
delete <id>
disable <id>
enable <id>
set <address>
set <address> -h
"

def memoryHelp : String := "Available commands:
read <address>
read <address> <number of bytes>
write <address> <bytes>
"

def disassembleHelp : String := "Available options:
-c <number of instructions>
-a <start address>
"

def watchpointHelp : String := "Available commands:
list
delete <id>
disable <id>
enable <id>
set <address> <write|rw|execute> <size>
"

def catchpointHelp : String := "Available commands:
syscall
syscall none
syscall <list of syscall IDs or names>
"

/-- An element of `args`; the handlers check the size first. -/
def arg (args : List Text) (i : Nat) : Text := args.getD i []

def printHelp (args : List Text) : Cli κ Unit :=
  if args.length = 1 then printErr commandsHelp
  else if isPrefix (arg args 1) "register" then printErr registerHelp
  else if isPrefix (arg args 1) "breakpoint" then printErr breakpointHelp
  else if isPrefix (arg args 1) "memory" then printErr memoryHelp
  else if isPrefix (arg args 1) "disassemble" then printErr disassembleHelp
  else if isPrefix (arg args 1) "watchpoint" then printErr watchpointHelp
  else if isPrefix (arg args 1) "catchpoint" then printErr catchpointHelp
  else printErr "no help available on that command\n"

def helpOn (command : String) : Cli κ Unit := printHelp ["help".toList, command.toList]

/-! ### Registers -/

def formatBytes (bytes : List Byte) : String :=
  "[" ++ join "," (bytes.map fun b => formatPadded 4 b.toNat) ++ "]"

/-- `{:#0{}x}` with the width of the type; a sign comes before the prefix. -/
def formatIntegral (size : Nat) (v : Int) : String :=
  if v < 0 then "-" ++ formatPadded (size * 2 + 1) v.natAbs
  else formatPadded (size * 2 + 2) v.natAbs

def formatValue : Value → String
  | .u8 v => formatIntegral 1 v.toNat
  | .u16 v => formatIntegral 2 v.toNat
  | .u32 v => formatIntegral 4 v.toNat
  | .u64 v => formatIntegral 8 v.toNat
  | .i8 v => formatIntegral 1 v.toInt
  | .i16 v => formatIntegral 2 v.toInt
  | .i32 v => formatIntegral 4 v.toInt
  | .i64 v => formatIntegral 8 v.toInt
  | .float v => L.formatFloat v
  | .double v => L.formatDouble v
  | .longDouble v => L.formatLongDouble v
  | .byte64 v => formatBytes v.toList
  | .byte128 v => formatBytes v.toList

def printRegister (info : RegisterInfo) : Cli κ Unit := do
  let d ← get
  let value ← evaluate (Registers.read d.world.data info)
  print (info.name ++ ":\t" ++ formatValue L value ++ "\n")

/-- The loop of `handle_register_read`. -/
def printRegisters (all : Bool) : List RegisterInfo → Cli κ Unit
  | [] => pure ()
  | info :: infos => do
    if (all || info.type == .gpr) && info.name != "orig_rax" then printRegister L info
    else pure ()
    printRegisters all infos

def handleRegisterRead (args : List Text) : Cli κ Unit :=
  if args.length = 2 ∨ (args.length = 3 ∧ arg args 2 = "all".toList) then
    printRegisters L (args.length == 3) gRegisterInfos
  else if args.length = 3 then
    catchError (do
        let info ← evaluate (registerInfoByName (String.ofList (arg args 2)))
        printRegister L info)
      fun _ => printErr "no such register\n"
  else helpOn "register"

/-- `to_float`. -/
def toFloat {α : Type} (text : Text) (result : FromChars α) : Parsed α := wholeMatch text result

/-- `std::array<std::byte, N>` from the bytes parsed. -/
def toArray (n : Nat) (bytes : List Byte) : Vector Byte n := Vector.ofFn fun i => bytes.getD i 0

/-- What the `try` block of `parse_register_value` returns or raises, at its end nothing. -/
def registerValue (info : RegisterInfo) (text : Text) : Except Fault Value :=
  match info.format, info.size with
  | .uint, 1 => (fun v => .u8 (BitVec.ofInt 8 v)) <$> (toIntegral .uint8 text 16).get
  | .uint, 2 => (fun v => .u16 (BitVec.ofInt 16 v)) <$> (toIntegral .uint16 text 16).get
  | .uint, 4 => (fun v => .u32 (BitVec.ofInt 32 v)) <$> (toIntegral .uint32 text 16).get
  | .uint, 8 => (fun v => .u64 (BitVec.ofInt 64 v)) <$> (toIntegral .uint64 text 16).get
  | .doubleFloat, _ => .double <$> (toFloat text (L.fromCharsDouble text)).get
  | .longDouble, _ => .longDouble <$> (toFloat text (L.fromCharsLongDouble text)).get
  | .vector, 8 => (fun bytes => .byte64 (toArray 8 bytes)) <$> parseVectorN 8 text
  | .vector, 16 => (fun bytes => .byte128 (toArray 16 bytes)) <$> parseVectorN 16 text
  | _, _ => .error (.error "invalid format")

/-- Every exception becomes an `sdb::error`. -/
def parseRegisterValue (info : RegisterInfo) (text : Text) : Except Fault Value :=
  match registerValue L info text with
  | .error (.error _) | .error (.exception _) => .error (.error "invalid format")
  | outcome => outcome

def handleRegisterWrite (args : List Text) : Cli κ Unit :=
  if args.length ≠ 4 then helpOn "register"
  else
    catchError (do
        let info ← evaluate (registerInfoByName (String.ofList (arg args 2)))
        let value ← evaluate (parseRegisterValue L info (arg args 3))
        onProcess (Registers.write P info value))
      fun what => printErr (what ++ "\n")

def handleRegisterCommand (args : List Text) : Cli κ Unit :=
  if args.length < 2 then helpOn "register"
  else if isPrefix (arg args 1) "read" then handleRegisterRead L args
  else if isPrefix (arg args 1) "write" then handleRegisterWrite P L args
  else helpOn "register"

/-! ### Breakpoints and watchpoints -/

def enabledText (enabled : Bool) : String := if enabled then "enabled" else "disabled"

def siteLine (site : BreakpointSite) : String :=
  toString site.id ++ ": address = " ++ formatHex site.address.toNat ++ ", " ++
    enabledText site.isEnabled ++ "\n"

def listBreakpoints : Cli κ Unit := do
  let d ← get
  if d.world.breakpointSites.isEmpty then print "no breakpoints set\n"
  else do
    print "current breakpoints:\n"
    print (String.join ((d.world.breakpointSites.filter fun site => !site.isInternal).map siteLine))

/-- The `-h` of `breakpoint set`. -/
def hardwareOption (args : List Text) : Except Fault Bool :=
  if args.length = 4 then
    if arg args 3 = "-h".toList then .ok true
    else .error (.error "invalid breakpoint command argument")
  else .ok false

def handleBreakpointSet (args : List Text) : Cli κ Unit :=
  let address := toIntegral .uint64 (arg args 2) 16
  if !address.hasValue then
    printErr "breakpoint command expects address in hexadecimal, prefixed with '0x'\n"
  else do
    let hardware ← evaluate (hardwareOption args)
    let address ← evaluate address.deref
    let i ← onProcess (createBreakpointSite (BitVec.ofInt 64 address) hardware false)
    onProcess (BreakpointSite.enable P i)

/-- The reference that `get_by_id` returns. -/
def siteById (id : Int) : Sdb κ Nat := do
  let w ← get
  liftFault (getById w.breakpointSites id)

def watchpointById (id : Int) : Sdb κ Nat := do
  let w ← get
  liftFault (getById w.watchpoints id)

def handleBreakpointCommand (args : List Text) : Cli κ Unit :=
  if args.length < 2 then helpOn "breakpoint"
  else if isPrefix (arg args 1) "list" then listBreakpoints
  else if args.length < 3 then helpOn "breakpoint"
  else if isPrefix (arg args 1) "set" then handleBreakpointSet P args
  else
    let id := toIntegral .int (arg args 2) 10
    if !id.hasValue then printErr "command expects breakpoint id"
    else if isPrefix (arg args 1) "enable" then do
      let id ← evaluate id.deref
      onProcess (siteById id >>= BreakpointSite.enable P)
    else if isPrefix (arg args 1) "disable" then do
      let id ← evaluate id.deref
      onProcess (siteById id >>= BreakpointSite.disable P)
    else if isPrefix (arg args 1) "delete" then do
      let id ← evaluate id.deref
      onProcess (removeSiteById P id)
    else pure ()

def modeText : StoppointMode → String
  | .execute => "execute"
  | .write => "write"
  | .readWrite => "read_write"

def watchpointLine (point : Watchpoint) : String :=
  toString point.id ++ ": address = " ++ formatHex point.address.toNat ++ ", mode = " ++
    modeText point.mode ++ ", size = " ++ toString point.size.toNat ++ ", " ++
    enabledText point.isEnabled ++ "\n"

def handleWatchpointList : Cli κ Unit := do
  let d ← get
  if d.world.watchpoints.isEmpty then print "no watchpoints set\n"
  else do
    print "current watchpoints:\n"
    print (String.join (d.world.watchpoints.map watchpointLine))

def watchpointMode (text : Text) : Option StoppointMode :=
  if text = "write".toList then some .write
  else if text = "rw".toList then some .readWrite
  else if text = "execute".toList then some .execute
  else none

def handleWatchpointSet (args : List Text) : Cli κ Unit :=
  if args.length ≠ 5 then helpOn "watchpoint"
  else
    let address := toIntegral .uint64 (arg args 2) 16
    let size := toIntegral .uint64 (arg args 4) 10
    match watchpointMode (arg args 3) with
    | none => helpOn "watchpoint"
    | some mode =>
      if !address.hasValue || !size.hasValue then helpOn "watchpoint"
      else do
        let address ← evaluate address.deref
        let size ← evaluate size.deref
        let i ← onProcess (createWatchpoint P (BitVec.ofInt 64 address) mode (BitVec.ofInt 64 size))
        onProcess (Watchpoint.enable P i)

def handleWatchpointCommand (args : List Text) : Cli κ Unit :=
  if args.length < 2 then helpOn "watchpoint"
  else if isPrefix (arg args 1) "list" then handleWatchpointList
  else if isPrefix (arg args 1) "set" then handleWatchpointSet P args
  else if args.length < 3 then helpOn "watchpoint"
  else
    let id := toIntegral .int (arg args 2) 10
    if !id.hasValue then printErr "command expects watchpoint id"
    else if isPrefix (arg args 1) "enable" then do
      let id ← evaluate id.deref
      onProcess (watchpointById id >>= Watchpoint.enable P)
    else if isPrefix (arg args 1) "disable" then do
      let id ← evaluate id.deref
      onProcess (watchpointById id >>= Watchpoint.disable P)
    else if isPrefix (arg args 1) "delete" then do
      let id ← evaluate id.deref
      onProcess (removeWatchpointById P id)
    else pure ()

/-! ### Catchpoints -/

/-- `isdigit`. -/
def isDecimalDigit (c : Char) : Bool := '0' ≤ c && c ≤ '9'

/-- The lambda of `handle_syscall_catchpoint_command`. -/
def syscallArgument (syscall : Text) : Except Fault Int :=
  if isDecimalDigit (peek syscall) then (toIntegral .int syscall 10).get
  else syscallNameToId (String.ofList syscall)

def syscallPolicy (args : List Text) : Except Fault SyscallCatchPolicy :=
  if args.length = 3 ∧ arg args 2 = "none".toList then .ok .catchNone
  else if 3 ≤ args.length then .catchSome <$> (split ',' (arg args 2)).mapM syscallArgument
  else .ok .catchAll

def handleSyscallCatchpointCommand (args : List Text) : Cli κ Unit := do
  let policy ← evaluate (syscallPolicy args)
  onProcess (setSyscallCatchPolicy policy)

def handleCatchpointCommand (args : List Text) : Cli κ Unit :=
  if args.length < 2 then helpOn "catchpoint"
  else if isPrefix (arg args 1) "syscall" then handleSyscallCatchpointCommand args
  else pure ()

/-! ### Memory -/

/-- The variable is an `int`, so it holds the low half of the number. -/
def bytesToRead (args : List Text) : Except Fault (BitVec 32) :=
  if args.length = 4 then
    let count := toIntegral .uint64 (arg args 3) 10
    if !count.hasValue then .error (.error "invalid number of bytes")
    else BitVec.ofInt 32 <$> count.deref
  else .ok 32

/-- The conversion of an `int` to `std::size_t`. -/
def toSize (n : BitVec 32) : Nat := (n.signExtend 64).toNat

/-- The printing loop, sixteen bytes to a line. -/
def memoryRows (address : VirtAddr) (data : List Byte) : List String :=
  if data = [] then []
  else
    (formatPadded 16 address.toNat ++ ": " ++
        join " " ((data.take 16).map fun b => zeroPadded 2 b.toNat) ++ "\n") ::
      memoryRows (address + 16) (data.drop 16)
termination_by data.length
decreasing_by
  have positive := List.length_pos_of_ne_nil ‹data ≠ []›
  rw [List.length_drop]
  omega

def handleMemoryReadCommand (args : List Text) : Cli κ Unit :=
  let address := toIntegral .uint64 (arg args 2) 16
  if !address.hasValue then send "invalid address format"
  else do
    let nBytes ← evaluate (bytesToRead args)
    let address ← evaluate address.deref
    let data ← onProcess (readMemory P (BitVec.ofInt 64 address) (toSize nBytes))
    print (String.join (memoryRows (BitVec.ofInt 64 address) data))

def handleMemoryWriteCommand (args : List Text) : Cli κ Unit :=
  if args.length ≠ 4 then helpOn "memory"
  else
    let address := toIntegral .uint64 (arg args 2) 16
    if !address.hasValue then send "invalid address format"
    else do
      let data ← evaluate (parseVector (arg args 3))
      let address ← evaluate address.deref
      onProcess (writeMemory P (BitVec.ofInt 64 address) data)

def handleMemoryCommand (args : List Text) : Cli κ Unit :=
  if args.length < 3 then helpOn "memory"
  else if isPrefix (arg args 1) "read" then handleMemoryReadCommand P args
  else if isPrefix (arg args 1) "write" then handleMemoryWriteCommand P args
  else helpOn "memory"

/-! ### Disassembly -/

/-- The loop over the options; without a result it prints the help text. -/
def disassembleOptions : List Text → VirtAddr → Nat → Except Fault (Option (VirtAddr × Nat))
  | [], address, n => .ok (some (address, n))
  | [_], _, _ => .ok none
  | option :: value :: args, address, n =>
    if option = "-a".toList then
      let parsed := toIntegral .uint64 value 16
      if !parsed.hasValue then .error (.error "invalid address format")
      else do
        let address ← parsed.deref
        disassembleOptions args (BitVec.ofInt 64 address) n
    else if option = "-c".toList then
      let parsed := toIntegral .uint64 value 10
      if !parsed.hasValue then .error (.error "invalid instruction count")
      else do
        let n ← parsed.deref
        disassembleOptions args address n.toNat
    else .ok none

def handleDisassembleCommand (args : List Text) : Cli κ Unit := do
  let pc ← onProcess getPc
  let options ← evaluate (disassembleOptions args.tail pc 5)
  match options with
  | none => helpOn "disassemble"
  | some (address, n) => printDisassembly P L address n

/-! ### Commands -/

/-- `fuel` bounds the stops that one command waits for. -/
def handleCommand (fuel : Nat) (line : Text) : Cli κ Unit :=
  match split ' ' line with
  | [] => throw (.undefinedBehaviour "index outside the vector")
  | command :: rest =>
    let args := command :: rest
    if isPrefix command "continue" then do
      onProcess (resume P)
      let reason ← onProcess (waitOnSignal P fuel)
      handleStop P L reason
    else if isPrefix command "register" then handleRegisterCommand P L args
    else if isPrefix command "breakpoint" then handleBreakpointCommand P args
    else if isPrefix command "step" then do
      let reason ← onProcess (stepInstruction P fuel)
      handleStop P L reason
    else if isPrefix command "memory" then handleMemoryCommand P args
    else if isPrefix command "disassemble" then handleDisassembleCommand P L args
    else if isPrefix command "watchpoint" then handleWatchpointCommand P args
    else if isPrefix command "catchpoint" then handleCatchpointCommand args
    else if isPrefix command "help" then printHelp args
    else printErr "unknown command\n"

end SdbDebugger
