import SdbDebugger.Console
import SdbDebugger.StopHandling
import SdbDebugger.SyscallNames

/-! What `sdb.cpp` prints about a stop: `get_sigtrap_info`, `get_signal_stop_reason`,
`print_stop_reason` and `handle_stop`. -/

namespace SdbDebugger
open EffectRules StoppointCollection

def signalNames : List String :=
  ["HUP", "INT", "QUIT", "ILL", "TRAP", "ABRT", "BUS", "FPE", "KILL", "USR1", "SEGV", "USR2",
    "PIPE", "ALRM", "TERM", "STKFLT", "CHLD", "CONT", "STOP", "TSTP", "TTIN", "TTOU", "URG",
    "XCPU", "XFSZ", "VTALRM", "PROF", "WINCH", "POLL", "PWR", "SYS"]

/-- `sigabbrev_np`, null for what is no signal and for real-time signals. -/
def sigabbrevNp (signal : Byte) : Option String :=
  if signal = 0 then none else signalNames[signal.toNat - 1]?

variable {κ : Type} (P : Platform κ) (L : Libraries)

/-- A `const char *` argument of `fmt::format`, which refuses null pointers. -/
def cStringArgument (s : Option String) : Except Fault String :=
  match s with
  | some text => .ok text
  | none => .error (.exception .formatError)

def syscallMessage (info : SyscallInformation) : Except Fault String :=
  match info.entry, info.payload with
  | true, .args values => do
    let name ← syscallIdToName info.id.toNat
    let args := join "," (values.map fun v => formatHex v.toNat)
    pure (" (syscall entry)\nsyscall: " ++ name ++ "(" ++ args ++ ")")
  | false, .ret value =>
    pure (" (syscall exit)\nsyscall returned: " ++ formatHexSigned value.toInt)
  | _, _ => .error (.undefinedBehaviour "inactive member of a union read")

def watchpointMessage (wp : Watchpoint) : String :=
  " (watchpoint " ++ toString wp.id ++ ")" ++
    if wp.data = wp.previousData then "\nValue: " ++ formatHex wp.data.toNat
    else
      "\nOld value: " ++ formatHex wp.previousData.toNat ++
        "\nNew value: " ++ formatHex wp.data.toNat

def getSigtrapInfo (reason : StopReason) : Sdb κ String :=
  match reason.trapReason with
  | some .softwareBreak => do
    let pc ← getPc
    let w ← get
    let i ← liftFault (getByAddress w.breakpointSites pc)
    let site ← liftFault (deref w.breakpointSites i)
    pure (" (breakpoint " ++ toString site.id ++ ")")
  | some .hardwareBreak => do
    let id ← getCurrentHardwareStoppoint
    match id with
    | .inl id => pure (" (breakpoint " ++ toString id ++ ")")
    | .inr id => do
      let w ← get
      let i ← liftFault (getById w.watchpoints id)
      let wp ← liftFault (deref w.watchpoints i)
      pure (watchpointMessage wp)
  | some .singleStep => pure " (single step)"
  | some .syscall =>
    match reason.syscallInfo with
    | some info => liftFault (syscallMessage info)
    | none => throw (.undefinedBehaviour "empty optional dereferenced")
  | _ => pure ""

/-- The function around an address, as a stop message shows it. -/
def functionMessage (elf : Elf) (pc : VirtAddr) : Except Fault String :=
  match elf.symbolContainingAddress pc with
  | some symbol =>
    if elf64StType symbol.stInfo = sttFunc then do
      let name ← elf.getString symbol.stName.toNat
      pure (" (" ++ String.ofList name ++ ")")
    else pure ""
  | none => pure ""

def getSignalStopReason (elf : Elf) (reason : StopReason) : Sdb κ String := do
  let pc ← getPc
  let signal ← liftFault (cStringArgument (sigabbrevNp reason.info))
  let func ← liftFault (functionMessage elf pc)
  let info ← if reason.info = sigtrap then getSigtrapInfo reason else pure ""
  pure ("stopped with signal " ++ signal ++ " at " ++ formatHex pc.toNat ++ func ++ info)

def stopMessage (elf : Elf) (reason : StopReason) : Sdb κ String :=
  match reason.reason with
  | .stopped => getSignalStopReason elf reason
  | .running => pure "is running"
  | .exited => pure ("exited with status " ++ toString reason.info.toNat)
  | .terminated => do
    let signal ← liftFault (cStringArgument (sigabbrevNp reason.info))
    pure ("terminated with signal " ++ signal)

def printStopReason (reason : StopReason) : Cli κ Unit := do
  let d ← get
  let msg ← onProcess (stopMessage d.elf reason)
  print ("process " ++ toString d.pid ++ " " ++ msg ++ "\n")

def printDisassembly (address : VirtAddr) (nInstructions : Nat) : Cli κ Unit := do
  let instructions ← onProcess (disassemble P L nInstructions (some address))
  print (String.join (instructions.map fun instr =>
    formatPadded 18 instr.address.toNat ++ ": " ++ instr.text ++ "\n"))

def handleStop (reason : StopReason) : Cli κ Unit := do
  printStopReason reason
  if reason.reason = .stopped then do
    let pc ← onProcess getPc
    printDisassembly P L pc 5
  else pure ()

end SdbDebugger
