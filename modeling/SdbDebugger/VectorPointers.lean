import SdbDebugger.ByteVectors

/-! The two `parse_vector` with their pointers. A pointer into the text is an index; the character
at the index of the length is the terminator, and there is none to read behind it. -/

namespace SdbDebugger
open Exceptions

variable {text : Text}

def pastTerminator : Fault := .undefinedBehaviour "read past the terminator"

def charAt (text : Text) (i : Nat) : Except Fault Char :=
  if i ≤ text.length then .ok (peek (text.drop i)) else .error pastTerminator

/-- The digits that `std::from_chars` reads; it stops behind the first other character. -/
def scanDigits (text : Text) (base : Nat) : Nat → Nat → Except Fault Text
  | _, 0 => .ok []
  | i, size + 1 => do
    let c ← charAt text i
    if isDigitOf base c then (c :: ·) <$> scanDigits text base (i + 1) size
    else pure []

/-- The length of the prefix that `to_integral` skips. -/
def prefixAt (text : Text) (start size base : Nat) : Except Fault Nat :=
  if base = 16 ∧ 1 < size then do
    let first ← charAt text start
    if first ≠ '0' then pure 0
    else do
      let second ← charAt text (start + 1)
      pure (if second = 'x' then 2 else 0)
  else pure 0

/-- What is returned once the digits of `size` characters are read. -/
def parsedDigits (digits : Text) (size base : Nat) : Parsed Byte :=
  let result := fromChars .uint8 base digits
  if result.ptr ≠ size then .nullopt
  else
    match result.value with
    | none => .unset
    | some v => .value (BitVec.ofInt 8 v)

/-- `to_integral<std::byte>({c, size}, base)`. -/
def toByteAt (text : Text) (c size base : Nat) : Except Fault (Parsed Byte) := do
  let skipped ← prefixAt text c size base
  let digits ← scanDigits text base (c + skipped) (size - skipped)
  pure (parsedDigits digits (size - skipped) base)

/-- `value()`, where a variable that was never assigned has what lies at its place. -/
def valueOr (junk : Byte) : Parsed Byte → Except Fault Byte
  | .nullopt => .error (.exception .badOptionalAccess)
  | .unset => .ok junk
  | .value b => .ok b

theorem length_of_charAt {i : Nat} {c : Char} (read : charAt text i = .ok c) : i ≤ text.length := by
  unfold charAt at read
  split at read
  · next inside => exact inside
  · cases read

variable (junk : Nat → Byte)

/-- The loop of `parse_vector` and what follows it. -/
def parseElementsAt (text : Text) (c : Nat) : Except Fault (List Byte) :=
  match _h : charAt text c with
  | .error e => .error e
  | .ok here =>
    if here = ']' then
      if c + 1 ≠ text.length then .error (.error "invalid format") else .ok []
    else do
      let byte ← toByteAt text c 4 16 >>= valueOr (junk c)
      let next ← charAt text (c + 4)
      if next = ',' then (byte :: ·) <$> parseElementsAt text (c + 4 + 1)
      else if next ≠ ']' then .error (.error "invalid format")
      else (byte :: ·) <$> parseElementsAt text (c + 4)
termination_by text.length + 1 - c
decreasing_by
  · have inside := length_of_charAt _h
    omega
  · have inside := length_of_charAt _h
    omega

def parseVectorAt (text : Text) : Except Fault (List Byte) := do
  let first ← charAt text 0
  if first ≠ '[' then .error (.error "invalid format")
  else parseElementsAt junk text 1

def parseLeadingAt (text : Text) : Nat → Nat → Except Fault (List Byte × Nat)
  | 0, c => .ok ([], c)
  | n + 1, c => do
    let byte ← toByteAt text c 4 16 >>= valueOr (junk c)
    let next ← charAt text (c + 4)
    if next ≠ ',' then .error (.error "Invalid format")
    else do
      let (bytes, c) ← parseLeadingAt text n (c + 4 + 1)
      pure (byte :: bytes, c)

/-- What follows the loop of `parse_vector<N>`. -/
def closeAt (text : Text) (bytes : List Byte) (c : Nat) : Except Fault (List Byte) := do
  let last ← toByteAt text c 4 16 >>= valueOr (junk c)
  let next ← charAt text (c + 4)
  if next ≠ ']' then .error (.error "Invalid format")
  else if c + 4 + 1 ≠ text.length then .error (.error "Invalid format")
  else pure (bytes ++ [last])

/-- `parse_vector<N>`. -/
def parseVectorNAt (n : Nat) (text : Text) : Except Fault (List Byte) := do
  let first ← charAt text 0
  if first ≠ '[' then .error (.error "Invalid format")
  else do
    let r ← parseLeadingAt junk text (n - 1) 1
    closeAt junk text r.1 r.2

/-! ### One element -/

section Element

variable {base c : Nat}

theorem charAt_eq (inside : c ≤ text.length) : charAt text c = .ok (peek (text.drop c)) :=
  if_pos inside

theorem nul_not_digit (base : Nat) : isDigitOf base nul = false := by
  simp [isDigitOf, digitValue, nul]

/-- The terminator is no digit, so the scan ends there at the latest. -/
theorem scanDigits_eq (inside : c ≤ text.length) (size : Nat) : scanDigits text base c size =
    .ok (((text.drop c).take size).takeWhile (isDigitOf base)) := by
  induction size generalizing c with
  | zero => rfl
  | succ size ih =>
    rw [scanDigits, charAt_eq inside]
    cases rest : text.drop c with
    | nil =>
      change (if isDigitOf base nul = true then _ else _ : Except Fault Text) = _
      rw [nul_not_digit]
      rfl
    | cons x rest' =>
      have more : c + 1 ≤ text.length := by
        have some := congrArg List.length rest
        rw [List.length_drop, List.length_cons] at some
        omega
      have next : text.drop (c + 1) = rest' := by
        rw [← List.drop_drop, rest]
        rfl
      change (if isDigitOf base x = true then _ else _ : Except Fault Text) = _
      rw [ih more, next, List.take_succ_cons, List.takeWhile_cons]
      cases isDigitOf base x with
      | false => rfl
      | true => rfl

/-- Padding adds no digits. -/
theorem takeWhile_padded (l : Text) (m n : Nat) :
    ((l ++ List.replicate m nul).take n).takeWhile (isDigitOf base) =
      (l.take n).takeWhile (isDigitOf base) := by
  induction l generalizing n with
  | nil =>
    cases n with
    | zero => rfl
    | succ n =>
      cases m with
      | zero => rfl
      | succ m => simp [List.replicate_succ, nul_not_digit]
  | cons x l ih =>
    cases n with
    | zero => rfl
    | succ n => rw [List.cons_append, List.take_succ_cons, List.take_succ_cons,
        List.takeWhile_cons, List.takeWhile_cons, ih]

/-- For an unsigned type only the digits count. -/
theorem fromChars_takeWhile (base : Nat) (sv : Text) :
    fromChars .uint8 base (sv.takeWhile (isDigitOf base)) = fromChars .uint8 base sv := by
  have again : (sv.takeWhile (isDigitOf base)).takeWhile (isDigitOf base) =
      sv.takeWhile (isDigitOf base) :=
    List.takeWhile_eq_self_iff.2 fun _ member => List.mem_takeWhile_imp member
  simp only [fromChars, IntType.uint8, Bool.false_and, Bool.false_eq_true, if_false, again]

theorem parsedDigits_eq {sv : Text} {size : Nat} (length : (withoutPrefix sv base).length = size) :
    parsedDigits ((withoutPrefix sv base).takeWhile (isDigitOf base)) size base = toByte sv base := by
  rw [parsedDigits, fromChars_takeWhile, toByte, toIntegral, wholeMatch, length]
  split
  · rfl
  · cases (fromChars .uint8 base (withoutPrefix sv base)).value with
    | none => rfl
    | some v => rfl

theorem prefixAt_hex {rest : Text} (here : text.drop c = '0' :: 'x' :: rest) :
    prefixAt text c 4 16 = .ok 2 := by
  have length := congrArg List.length here
  simp only [List.length_drop, List.length_cons] at length
  have next : text.drop (c + 1) = 'x' :: rest := by
    rw [← List.drop_drop, here]
    rfl
  rw [prefixAt, if_pos ⟨rfl, by decide⟩, charAt_eq (by omega), charAt_eq (by omega), here, next]
  rfl

/-- The second character is read only behind a zero, which is not the terminator. -/
theorem prefixAt_other (inside : c ≤ text.length)
    (other : ∀ rest, text.drop c ≠ '0' :: 'x' :: rest) : prefixAt text c 4 16 = .ok 0 := by
  rw [prefixAt, if_pos ⟨rfl, by decide⟩, charAt_eq inside]
  by_cases zero : peek (text.drop c) = '0'
  · have here := eq_cons_of_peek zero (by decide)
    have length := congrArg List.length here
    simp only [List.length_drop, List.length_cons] at length
    have next : text.drop (c + 1) = (text.drop c).tail := by rw [List.tail_drop]
    have second : peek (text.drop c).tail ≠ 'x' := by
      intro x
      have there := eq_cons_of_peek x (by decide)
      rw [there] at here
      exact other _ here
    rw [charAt_eq (by omega), next, zero]
    change Except.ok (if peek (text.drop c).tail = 'x' then 2 else 0) = _
    rw [if_neg second]
  · change (if peek (text.drop c) ≠ '0' then _ else _ : Except Fault Nat) = _
    rw [if_pos zero]
    rfl

theorem withoutPrefix_window {rest : Text} (other : ∀ r, rest ≠ '0' :: 'x' :: r) :
    withoutPrefix (window rest) 16 = window rest := by
  refine if_neg fun hex => ?_
  obtain ⟨_, _, start⟩ := hex
  rw [window, List.take_take] at start
  rcases rest with _ | ⟨x, _ | ⟨y, r⟩⟩
  · simp [nul] at start
  · simp [nul] at start
  · obtain ⟨rfl, rfl⟩ : x = '0' ∧ y = 'x' := by simpa using start
    exact other r rfl

theorem toByteAt_eq (inside : c ≤ text.length) :
    toByteAt text c 4 16 = .ok (toByte (window (text.drop c)) 16) := by
  rw [toByteAt]
  by_cases hex : ∃ rest, text.drop c = '0' :: 'x' :: rest
  · obtain ⟨rest, here⟩ := hex
    have later : c + 2 ≤ text.length := by
      have some := congrArg List.length here
      simp only [List.length_drop, List.length_cons] at some
      omega
    have body : withoutPrefix (window (text.drop c)) 16 =
        (rest ++ List.replicate 4 nul).take 2 := by
      rw [here]
      exact if_pos (by simp [window])
    have next : text.drop (c + 2) = rest := by
      rw [← List.drop_drop, here]
      rfl
    have length : (withoutPrefix (window (text.drop c)) 16).length = 2 := by
      rw [body]
      simp
    have parsed := parsedDigits_eq length
    rw [body, takeWhile_padded] at parsed
    rw [prefixAt_hex here, ← parsed, ← next]
    exact bind_eq_ok.2 ⟨2, rfl, bind_eq_ok.2 ⟨_, scanDigits_eq later 2, rfl⟩⟩
  · have other : ∀ rest, text.drop c ≠ '0' :: 'x' :: rest := fun rest here => hex ⟨rest, here⟩
    have body := withoutPrefix_window other
    have digits : (window (text.drop c)).takeWhile (isDigitOf 16) =
        ((text.drop c).take 4).takeWhile (isDigitOf 16) := takeWhile_padded _ _ _
    have length : (withoutPrefix (window (text.drop c)) 16).length = 4 := by
      rw [body, length_window]
    have parsed := parsedDigits_eq length
    rw [body, digits] at parsed
    rw [prefixAt_other inside other, ← parsed]
    exact bind_eq_ok.2 ⟨0, rfl, bind_eq_ok.2 ⟨_, scanDigits_eq inside 4, rfl⟩⟩

end Element

/-! ### The loops -/

section Refines

variable {α β : Type}

/-- What `get` raises where a variable was never assigned. -/
def unsetRead : Fault := .undefinedBehaviour "uninitialized variable read"

/-- A run with pointers that reads nothing past the terminator, and returns or raises what the
other one does unless that one ends at a variable that was never assigned. -/
structure Refines (run model : Except Fault α) : Prop where
  inside : run ≠ .error pastTerminator
  same : run = model ∨ model = .error unsetRead

theorem Refines.ok (a : α) : Refines (.ok a) (.ok a) := ⟨nofun, .inl rfl⟩

theorem Refines.raised {e : Fault} (other : e ≠ pastTerminator) :
    Refines (.error e : Except Fault α) (.error e) :=
  ⟨fun same => other (Except.error.inj same), .inl rfl⟩

theorem Refines.map {run model : Except Fault α} (f : α → β) (refines : Refines run model) :
    Refines (f <$> run) (f <$> model) := by
  constructor
  · intro past
    cases run with
    | ok a => cases past
    | error e =>
      cases past
      exact refines.inside rfl
  · rcases refines.same with rfl | unset
    · exact .inl rfl
    · rw [unset]
      exact .inr rfl

variable {c : Nat} {junk : Nat → Byte}

/-- One element, and what comes behind it. If it is read at all its four characters are in the
text. -/
theorem element_refines (inside : c ≤ text.length) {next next' : Byte → Except Fault α}
    (later : ∀ byte, c + 4 ≤ text.length → Refines (next byte) (next' byte)) :
    Refines (toByteAt text c 4 16 >>= valueOr (junk c) >>= next)
      ((toByte (window (text.drop c)) 16).get >>= next') := by
  rw [toByteAt_eq inside]
  have long : ∀ e rest, text.drop c = e ++ rest → e.length = 4 → c + 4 ≤ text.length := by
    intro e rest split four
    have length := congrArg List.length split
    rw [List.length_drop, List.length_append, four] at length
    omega
  cases first : toByte (window (text.drop c)) 16 with
  | nullopt => exact .raised (by simp [pastTerminator])
  | unset =>
    obtain ⟨e, rest, split, wide⟩ := wide_of_unset first
    exact ⟨(later (junk c) (long e rest split wide.four)).inside, .inr rfl⟩
  | value byte =>
    obtain ⟨leak, e, rest, split, element⟩ := element_of_value first
    exact later byte (long e rest split element.length_eq)

end Refines

section Loops

variable {c : Nat} {junk : Nat → Byte}

theorem parseElements_eq {rest : Text} (more : peek rest ≠ ']') :
    parseElements rest = (toByte (window rest) 16).get >>= fun byte =>
      if peek (rest.drop 4) = ',' then (byte :: ·) <$> parseElements (rest.drop 4).tail
      else if peek (rest.drop 4) ≠ ']' then .error (.error "invalid format")
      else (byte :: ·) <$> parseElements (rest.drop 4) := by
  cases first : (toByte (window rest) 16).get with
  | error e => exact parseElements_bad more first
  | ok byte => exact parseElements_byte more (get_eq_ok.1 first)

theorem lt_of_peek {x : Char} (here : peek (text.drop c) = x) (other : x ≠ nul) :
    c < text.length := by
  by_contra past
  rw [List.drop_eq_nil_of_le (not_lt.1 past)] at here
  exact other here.symm

theorem parseElementsAt_eq (inside : c ≤ text.length) (more : peek (text.drop c) ≠ ']') :
    parseElementsAt junk text c = toByteAt text c 4 16 >>= valueOr (junk c) >>= fun byte =>
      charAt text (c + 4) >>= fun next =>
        if next = ',' then (byte :: ·) <$> parseElementsAt junk text (c + 4 + 1)
        else if next ≠ ']' then .error (.error "invalid format")
        else (byte :: ·) <$> parseElementsAt junk text (c + 4) := by
  rw [parseElementsAt]
  split
  · next e read => cases (charAt_eq inside).symm.trans read
  · next here read =>
    cases (charAt_eq inside).symm.trans read
    rw [if_neg more]

theorem parseElementsAt_bracket (here : peek (text.drop c) = ']') :
    parseElementsAt junk text c =
      if c + 1 ≠ text.length then .error (.error "invalid format") else .ok [] := by
  have inside := lt_of_peek here (by decide)
  rw [parseElementsAt]
  split
  · next e read => cases (charAt_eq inside.le).symm.trans read
  · next first read =>
    cases (charAt_eq inside.le).symm.trans read
    rw [if_pos here]

/-- Nothing stands behind the bracket. -/
theorem atLast_iff (bracket : peek (text.drop c) = ']') :
    c + 1 ≠ text.length ↔ (text.drop c).tail ≠ [] := by
  have length := congrArg List.length (eq_cons_of_peek bracket (by decide))
  rw [List.length_drop, List.length_cons] at length
  rw [not_iff_not, ← List.length_eq_zero_iff]
  omega

theorem parseElementsAt_refines {c : Nat} (inside : c ≤ text.length) :
    Refines (parseElementsAt junk text c) (parseElements (text.drop c)) := by
  by_cases done : peek (text.drop c) = ']'
  · have list := eq_cons_of_peek done (by decide)
    rw [parseElementsAt_bracket done, list, parseElements_bracket,
      if_congr (atLast_iff done) rfl rfl]
    split
    · exact .raised (by simp [pastTerminator])
    · exact .ok []
  · rw [parseElementsAt_eq inside done, parseElements_eq done]
    refine element_refines inside fun byte four => ?_
    rw [charAt_eq four, List.drop_drop]
    change Refines (if _ then _ else _) _
    split
    · next comma =>
      have shorter := lt_of_peek comma (by decide)
      rw [List.tail_drop]
      exact (parseElementsAt_refines shorter).map _
    · split
      · exact .raised (by simp [pastTerminator])
      · exact (parseElementsAt_refines four).map _
termination_by text.length - c

theorem parseVectorAt_refines : Refines (parseVectorAt junk text) (parseVector text) := by
  rw [parseVectorAt, parseVector, charAt_eq (Nat.zero_le _), List.drop_zero]
  change Refines (if _ then _ else _) _
  split
  · exact .raised (by simp [pastTerminator])
  · next bracket =>
    have first : 1 ≤ text.length := lt_of_peek (c := 0) (not_not.1 bracket) (by decide)
    rw [← List.drop_one]
    exact parseElementsAt_refines first

section Leading

variable {n : Nat} {α : Type}

/-- One more element with a comma behind it. -/
theorem parseLeadingAt_bind (next : List Byte → Nat → Except Fault α) :
    parseLeadingAt junk text (n + 1) c >>= (fun r => next r.1 r.2) =
      toByteAt text c 4 16 >>= valueOr (junk c) >>= fun byte =>
        charAt text (c + 4) >>= fun x =>
          if x ≠ ',' then .error (.error "Invalid format")
          else parseLeadingAt junk text n (c + 4 + 1) >>= fun r => next (byte :: r.1) r.2 := by
  rw [parseLeadingAt, bind_assoc]
  refine bind_congr fun byte => ?_
  rw [bind_assoc]
  refine bind_congr fun x => ?_
  split
  · rfl
  · rw [bind_assoc]
    rfl

theorem parseLeading_bind (rest : Text) (next : List Byte → Text → Except Fault α) :
    parseLeading (n + 1) rest >>= (fun r => next r.1 r.2) =
      (toByte (window rest) 16).get >>= fun byte =>
        if peek (rest.drop 4) ≠ ',' then .error (.error "Invalid format")
        else parseLeading n (rest.drop 4).tail >>= fun r => next (byte :: r.1) r.2 := by
  rw [parseLeading, bind_assoc]
  refine bind_congr fun byte => ?_
  dsimp only
  split
  · rfl
  · rw [bind_assoc]
    rfl

end Leading

/-- The elements with a comma behind them, and what comes after them. -/
theorem parseLeadingAt_refines {n c : Nat} {next : List Byte → Nat → Except Fault (List Byte)}
    {next' : List Byte → Text → Except Fault (List Byte)}
    (later : ∀ bytes c, c ≤ text.length → Refines (next bytes c) (next' bytes (text.drop c)))
    (inside : c ≤ text.length) :
    Refines (parseLeadingAt junk text n c >>= fun r => next r.1 r.2)
      (parseLeading n (text.drop c) >>= fun r => next' r.1 r.2) := by
  induction n generalizing c next next' with
  | zero => exact later [] c inside
  | succ n ih =>
    rw [parseLeadingAt_bind, parseLeading_bind]
    refine element_refines inside fun byte four => ?_
    rw [charAt_eq four, List.drop_drop]
    change Refines (if _ then _ else _) _
    split
    · exact .raised (by simp [pastTerminator])
    · next comma =>
      have shorter := lt_of_peek (not_not.1 comma) (by decide)
      rw [List.tail_drop]
      exact ih (fun bytes c => later (byte :: bytes) c) shorter

/-- The list that `closeAt` looks at. -/
def closeVector (bytes : List Byte) (c : Text) : Except Fault (List Byte) := do
  let last ← (toByte (window c) 16).get
  if peek (c.drop 4) ≠ ']' then .error (.error "Invalid format")
  else if (c.drop 4).tail ≠ [] then .error (.error "Invalid format")
  else pure (bytes ++ [last])

theorem closeAt_refines (bytes : List Byte) (inside : c ≤ text.length) :
    Refines (closeAt junk text bytes c) (closeVector bytes (text.drop c)) := by
  refine element_refines inside fun byte four => ?_
  rw [charAt_eq four, List.drop_drop]
  change Refines (if _ then _ else _) _
  split
  · exact .raised (by simp [pastTerminator])
  · next bracket =>
    rw [if_congr (atLast_iff (not_not.1 bracket)) rfl rfl]
    split
    · exact .raised (by simp [pastTerminator])
    · exact .ok _

theorem parseVectorNAt_refines {n : Nat} :
    Refines (parseVectorNAt junk n text) (parseVectorN n text) := by
  have model : parseVectorN n text =
      if peek text ≠ '[' then .error (.error "Invalid format")
      else parseLeading (n - 1) text.tail >>= fun r => closeVector r.1 r.2 := rfl
  rw [parseVectorNAt, model, charAt_eq (Nat.zero_le _), List.drop_zero]
  change Refines (if _ then _ else _) _
  split
  · exact .raised (by simp [pastTerminator])
  · next bracket =>
    have first : 1 ≤ text.length := lt_of_peek (c := 0) (not_not.1 bracket) (by decide)
    rw [← List.drop_one]
    exact parseLeadingAt_refines (fun bytes c inside => closeAt_refines bytes inside) first

end Loops

/-- Whatever the text and whatever lies where a variable was never assigned, the two parsers read
nothing past the terminator. -/
theorem vectorParsers_inside (junk : Nat → Byte) (text : Text) :
    Refines (parseVectorAt junk text) (parseVector text) ∧
    ∀ n, 1 ≤ n → Refines (parseVectorNAt junk n text) (parseVectorN n text) :=
  ⟨parseVectorAt_refines, fun _ _ => parseVectorNAt_refines⟩

theorem vectorParsers_inside_truncated :
    Refines (parseVectorNAt (fun _ => 0xff) 8 "[0x12,0xfff".toList)
      (parseVectorN 8 "[0x12,0xfff".toList) :=
  (vectorParsers_inside (fun _ => 0xff) "[0x12,0xfff".toList).2 8 (by decide)

end SdbDebugger
