import SdbDebugger.StopHandling
import SdbDebugger.MemoryReads
import SdbDebugger.TrapRuns
import SdbDebugger.UserWrites
import SdbDebugger.RegisterCache
import SdbDebugger.StoppointLedger
import SdbDebugger.DebugSlots
import SdbDebugger.HardwareInvariant
import SdbDebugger.HardwareRuns
import SdbDebugger.SyscallFilter
import SdbDebugger.SyscallReports
import SdbDebugger.SyscallNumbers
import SdbDebugger.ScriptedKernel
import SdbDebugger.BreakpointTransparency
import SdbDebugger.Library.Exceptions
import SdbDebugger.Commands
import SdbDebugger.CommandHazards
import SdbDebugger.WatchpointTriggers
import SdbDebugger.StepOverStops
import SdbDebugger.SiteRestoration
import SdbDebugger.MemoryWrites
import SdbDebugger.PartialReads
import SdbDebugger.ReadLimits
import SdbDebugger.RefusedWrites
import SdbDebugger.HardwareFailures
import SdbDebugger.WatchpointShapes
import SdbDebugger.WatchpointValues
import SdbDebugger.Removals
import SdbDebugger.SetCommands
import SdbDebugger.Numerals
import SdbDebugger.ByteVectors
import SdbDebugger.TailWrites
import SdbDebugger.ElfBounds
import SdbDebugger.ElfAddresses
import SdbDebugger.RegisterText
import SdbDebugger.VectorPointers
import SdbDebugger.SymbolLookup
import SdbDebugger.SectionNumbering
import SdbDebugger.SymbolNames
import SdbDebugger.NameMap
import SdbDebugger.LoadedSections
import SdbDebugger.Auxv
import SdbDebugger.DisassemblyWindow
import SdbDebugger.PageChunks
import SdbDebugger.MemoryDump
import SdbDebugger.MainLoop
import SdbDebugger.StopDisplay
import SdbDebugger.LaunchRuns
import SdbDebugger.Target
import SdbDebugger.CommandLanguage
import SdbDebugger.CommandCalls
import SdbDebugger.TypedSessions
import SdbDebugger.RequestText
import SdbDebugger.RegisterFreshness
