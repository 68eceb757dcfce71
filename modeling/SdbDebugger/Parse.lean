import SdbDebugger.Process

/-! `parse.hpp`. A `std::string` or `std::string_view` is the list of its characters; the
character after the last one is the terminator. -/

namespace SdbDebugger

abbrev Text := List Char

def nul : Char := Char.ofNat 0

/-- `*c` for a pointer into a terminated string, given as what is left of it. -/
def peek (c : Text) : Char := c.headD nul

@[simp] theorem peek_cons (x : Char) (c : Text) : peek (x :: c) = x := rfl

/-- An optional that may hold a variable to which nothing was ever assigned. -/
inductive Parsed (α : Type) where
  | nullopt
  | unset
  | value (v : α)
  deriving DecidableEq, Repr

namespace Parsed

variable {α β : Type}

def map (f : α → β) : Parsed α → Parsed β
  | nullopt => nullopt
  | unset => unset
  | value v => value (f v)

/-- `has_value()`. -/
def hasValue : Parsed α → Bool
  | nullopt => false
  | _ => true

/-- `value()`. -/
def get : Parsed α → Except Fault α
  | nullopt => .error (.exception .badOptionalAccess)
  | unset => .error (.undefinedBehaviour "uninitialized variable read")
  | value v => .ok v

/-- `operator*`. -/
def deref : Parsed α → Except Fault α
  | nullopt => .error (.undefinedBehaviour "empty optional dereferenced")
  | unset => .error (.undefinedBehaviour "uninitialized variable read")
  | value v => .ok v

end Parsed

structure IntType where
  bits : Nat
  signed : Bool
  deriving DecidableEq, Repr

namespace IntType

def uint8 : IntType := ⟨8, false⟩
def uint16 : IntType := ⟨16, false⟩
def uint32 : IntType := ⟨32, false⟩
def uint64 : IntType := ⟨64, false⟩
def int : IntType := ⟨32, true⟩

def min (ty : IntType) : Int := if ty.signed then -2 ^ (ty.bits - 1) else 0

def max (ty : IntType) : Int := if ty.signed then 2 ^ (ty.bits - 1) - 1 else 2 ^ ty.bits - 1

end IntType

/-- `std::from_chars_result` and the variable; `ptr` counts from the first character. -/
structure FromChars (α : Type) where
  ptr : Nat
  value : Option α
  deriving DecidableEq, Repr

/-- The value of a digit of a base up to 36, letters in either case. -/
def digitValue (base : Nat) (c : Char) : Option Nat :=
  let d :=
    if '0' ≤ c ∧ c ≤ '9' then c.toNat - '0'.toNat
    else if 'a' ≤ c ∧ c ≤ 'z' then c.toNat - 'a'.toNat + 10
    else if 'A' ≤ c ∧ c ≤ 'Z' then c.toNat - 'A'.toNat + 10
    else base
  if d < base then some d else none

def isDigitOf (base : Nat) (c : Char) : Bool := (digitValue base c).isSome

def valueOf (base : Nat) (digits : Text) : Nat :=
  digits.foldl (fun n c => n * base + (digitValue base c).getD 0) 0

/-- `std::from_chars` for an integer type: on no match the pointer stays, on overflow it is
after the digits, and in both cases the variable is left alone. -/
def fromChars (ty : IntType) (base : Nat) (sv : Text) : FromChars Int :=
  let negative := ty.signed && peek sv == '-'
  let body := if negative then sv.tail else sv
  let digits := body.takeWhile (isDigitOf base)
  if digits = [] then ⟨0, none⟩
  else
    let v : Int := if negative then -(valueOf base digits) else valueOf base digits
    let ptr := if negative then digits.length + 1 else digits.length
    ⟨ptr, if ty.min ≤ v ∧ v ≤ ty.max then some v else none⟩

/-- The optional returned after a call of `std::from_chars` on all of `sv`. -/
def wholeMatch {α : Type} (sv : Text) (result : FromChars α) : Parsed α :=
  if result.ptr ≠ sv.length then .nullopt
  else
    match result.value with
    | none => .unset
    | some v => .value v

def withoutPrefix (sv : Text) (base : Nat) : Text :=
  if base = 16 ∧ 1 < sv.length ∧ sv.take 2 = ['0', 'x'] then sv.drop 2 else sv

def toIntegral (ty : IntType) (sv : Text) (base : Nat) : Parsed Int :=
  let digits := withoutPrefix sv base
  wholeMatch digits (fromChars ty base digits)

/-- The specialization for `std::byte`. -/
def toByte (sv : Text) (base : Nat) : Parsed Byte :=
  (toIntegral .uint8 sv base).map (BitVec.ofInt 8)

/-- `{c, 4}`; whoever reads it stops at the terminator. -/
def window (c : Text) : Text := (c ++ List.replicate 4 nul).take 4

/-- The loop of the first `parse_vector`, over all bytes but the last. -/
def parseLeading : Nat → Text → Except Fault (List Byte × Text)
  | 0, c => .ok ([], c)
  | n + 1, c => do
    let byte ← (toByte (window c) 16).get
    let c := c.drop 4
    if peek c ≠ ',' then .error (.error "Invalid format")
    else do
      let (bytes, c) ← parseLeading n c.tail
      pure (byte :: bytes, c)

/-- `parse_vector<N>`. -/
def parseVectorN (n : Nat) (text : Text) : Except Fault (List Byte) :=
  if peek text ≠ '[' then .error (.error "Invalid format")
  else do
    let (bytes, c) ← parseLeading (n - 1) text.tail
    let last ← (toByte (window c) 16).get
    let c := c.drop 4
    if peek c ≠ ']' then .error (.error "Invalid format")
    else if c.tail ≠ [] then .error (.error "Invalid format")
    else pure (bytes ++ [last])

theorem window_nil : (toByte (window []) 16).get = .error (.exception .badOptionalAccess) := by
  decide

theorem length_drop_window {c : Text} {byte : Byte} (h : (toByte (window c) 16).get = .ok byte) :
    (c.drop 4).length < c.length := by
  cases c with
  | nil =>
    rw [window_nil] at h
    contradiction
  | cons head tail =>
    rw [List.length_drop, List.length_cons]
    omega

/-- The loop of the second `parse_vector` and the test after it. -/
def parseElements (c : Text) : Except Fault (List Byte) :=
  if peek c = ']' then
    if c.tail ≠ [] then .error (.error "invalid format") else .ok []
  else
    match _h : (toByte (window c) 16).get with
    | .error e => .error e
    | .ok byte =>
      if peek (c.drop 4) = ',' then (byte :: ·) <$> parseElements (c.drop 4).tail
      else if peek (c.drop 4) ≠ ']' then .error (.error "invalid format")
      else (byte :: ·) <$> parseElements (c.drop 4)
termination_by c.length
decreasing_by
  · have shorter := length_drop_window _h
    rw [List.length_tail]
    omega
  · exact length_drop_window _h

/-- `parse_vector`. -/
def parseVector (text : Text) : Except Fault (List Byte) :=
  if peek text ≠ '[' then .error (.error "invalid format")
  else parseElements text.tail

end SdbDebugger
