import SdbDebugger.Disassembler
import SdbDebugger.Elf

/-! The debugger behind its prompt: the target, what has been printed so far, and the text
handling at the top of `sdb.cpp`. -/

namespace SdbDebugger

/-- The target of the command line, and its two output streams. -/
structure Debugger (κ : Type) where
  world : World κ
  elf : Elf
  pid : Int
  out : List String
  err : List String

abbrev Cli (κ : Type) := EStateM Fault (Debugger κ)

variable {κ α : Type}

/-- A call of a member of the process. -/
def onProcess (m : Sdb κ α) : Cli κ α := fun d =>
  match m d.world with
  | .ok a w => .ok a { d with world := w }
  | .error e w => .error e { d with world := w }

def evaluate (x : Except Fault α) : Cli κ α := onProcess (liftFault x)

/-- `error::send`. -/
def send (what : String) : Cli κ α := throw (.error what)

/-- `fmt::print`. -/
def print (text : String) : Cli κ Unit := modify fun d => { d with out := d.out ++ [text] }

def printErr (text : String) : Cli κ Unit := modify fun d => { d with err := d.err ++ [text] }

/-- `catch (sdb::error &err)`. -/
def catchError (m : Cli κ Unit) (handler : String → Cli κ Unit) : Cli κ Unit := fun d =>
  match m d with
  | .error (.error what) d' => handler what d'
  | outcome => outcome

section Catch

variable {m : Cli κ Unit} {handler : String → Cli κ Unit} {d t : Debugger κ}

theorem catchError_of_ok (run : m d = .ok () t) : catchError m handler d = .ok () t := by
  rw [catchError, run]

theorem catchError_of_error {what : String} (run : m d = .error (.error what) t) :
    catchError m handler d = handler what t := by
  rw [catchError, run]

theorem catchError_of_other {e : Fault} (other : ∀ what, e ≠ .error what)
    (run : m d = .error e t) : catchError m handler d = .error e t := by
  rw [catchError, run]
  cases e with
  | error what => exact absurd rfl (other what)
  | _ => rfl

end Catch

/-! ### Text -/

def split (delimiter : Char) : Text → List Text
  | [] => []
  | c :: cs =>
    if c = delimiter then [] :: split delimiter cs
    else
      match split delimiter cs with
      | [] => [[c]]
      | item :: items => (c :: item) :: items

def isPrefix (str : Text) (of : String) : Bool := str.isPrefixOf of.toList

def hexDigits (n : Nat) : String := String.ofList (Nat.toDigits 16 n)

/-- `{:#x}`. -/
def formatHex (n : Nat) : String := "0x" ++ hexDigits n

/-- `{:#x}` of a signed integer. -/
def formatHexSigned (v : Int) : String :=
  if v < 0 then "-" ++ formatHex v.natAbs else formatHex v.natAbs

/-- Hexadecimal digits behind zeros, up to the given width. -/
def zeroPadded (width n : Nat) : String :=
  String.ofList ((Nat.toDigits 16 n).leftpad width '0')

/-- `{:#0wx}`, whose width counts the prefix. -/
def formatPadded (width n : Nat) : String := "0x" ++ zeroPadded (width - 2) n

/-- `fmt::join`. -/
def join (separator : String) (items : List String) : String := separator.intercalate items

end SdbDebugger
