import SdbDebugger.MemoryHazards
import SdbDebugger.Numerals
import SdbDebugger.StoppointLedger

/-! What the two `parse_vector` accept. Both hand each window of four characters to
`to_integral`, which wants no prefix, and the one for vectors also ends behind a comma. -/

namespace SdbDebugger
open Exceptions

/-- Four characters of an element and its byte; `bare` ones have no prefix. -/
inductive VectorElement : Bool → Text → Byte → Prop where
  | prefixed {digits : Text} (two : digits.length = 2) (all : ∀ c ∈ digits, isDigitOf 16 c = true) :
      VectorElement false ('0' :: 'x' :: digits) (BitVec.ofInt 8 (numberOf 16 digits))
  | bare {digits : Text} (four : digits.length = 4) (all : ∀ c ∈ digits, isDigitOf 16 c = true)
      (small : numberOf 16 digits < 256) :
      VectorElement true digits (BitVec.ofInt 8 (numberOf 16 digits))

/-- Four digits without a prefix that no byte is large enough for. -/
structure WideElement (e : Text) : Prop where
  four : e.length = 4
  all : ∀ c ∈ e, isDigitOf 16 c = true
  large : 256 ≤ numberOf 16 e

/-- The grammar: elements with prefix between brackets, a comma between any two of them. -/
def InGrammar (text : Text) (bytes : List Byte) : Prop :=
  ∃ es : List Text, text = '[' :: ([','].intercalate es ++ [']']) ∧
    List.Forall₂ (VectorElement false) es bytes

/-! ### Elements -/

section Elements

variable {e : Text} {leak : Bool} {b : Byte}

theorem VectorElement.length_eq (element : VectorElement leak e b) : e.length = 4 := by
  cases element with
  | prefixed two _ => simp [two]
  | bare four _ _ => exact four

theorem digitValue_lt {base d : Nat} {c : Char} (digit : digitValue base c = some d) : d < base := by
  obtain ⟨less, same⟩ := Option.ite_none_right_eq_some.1 digit
  rwa [← Option.some.inj same]

theorem numberOf_lt (digits : Text) (all : ∀ c ∈ digits, isDigitOf 16 c = true) :
    numberOf 16 digits < 16 ^ digits.length := by
  have bound := Nat.ofDigits_lt_base_pow_length (b := 16)
    (l := digits.reverse.map fun c => (digitValue 16 c).getD 0) (by decide) fun x member => ?_
  · rwa [List.length_map, List.length_reverse] at bound
  · obtain ⟨c, inside, rfl⟩ := List.mem_map.1 member
    obtain ⟨d, digit⟩ := Option.isSome_iff_exists.1 (all c (List.mem_reverse.1 inside))
    rw [digit]
    exact digitValue_lt digit

/-- An unsigned numeral has no sign. -/
theorem Numeral.uint8_digits {s : Text} {v : Int} (numeral : Numeral .uint8 16 s v) :
    ∀ c ∈ s, isDigitOf 16 c = true := by
  cases numeral with
  | plain _ all => exact all
  | minus signed _ _ => cases signed

theorem toByte_digits {s : Text} (stripped : Stripped 16 e s) (some : s ≠ [])
    (all : ∀ c ∈ s, isDigitOf 16 c = true) : toByte e 16 =
      if numberOf 16 s < 256 then .value (BitVec.ofInt 8 (numberOf 16 s)) else .unset := by
  have range : IntType.uint8.min ≤ (numberOf 16 s : Int) ∧
      (numberOf 16 s : Int) ≤ IntType.uint8.max ↔ numberOf 16 s < 256 := by
    simp only [IntType.min, IntType.max, IntType.uint8]
    norm_num
    omega
  have plain : Numeral .uint8 16 s (numberOf 16 s) := .plain some all
  have numeral : Numeral .uint8 16 (withoutPrefix e 16) (numberOf 16 s) := by
    rwa [withoutPrefix_of_stripped stripped plain]
  rw [toByte, toIntegral_numeral numeral, if_congr range rfl rfl]
  split
  · rfl
  · rfl

theorem toByte_other (some : withoutPrefix e 16 ≠ [])
    (other : ¬ ∀ c ∈ withoutPrefix e 16, isDigitOf 16 c = true) : toByte e 16 = .nullopt := by
  have none : toIntegral .uint8 e 16 = .nullopt :=
    toIntegral_other some fun _ numeral => other numeral.uint8_digits
  rw [toByte, none]
  rfl

theorem VectorElement.toByte_eq (element : VectorElement leak e b) : toByte e 16 = .value b := by
  cases element with
  | @prefixed digits two all =>
    have some : digits ≠ [] := List.ne_nil_of_length_pos (by omega)
    have small : numberOf 16 digits < 256 := by
      have bound := numberOf_lt digits all
      rwa [two] at bound
    rw [toByte_digits (.inr ⟨rfl, rfl⟩) some all, if_pos small]
  | bare four all small =>
    have some : e ≠ [] := List.ne_nil_of_length_pos (by omega)
    rw [toByte_digits (.inl rfl) some all, if_pos small]

theorem WideElement.toByte_eq (wide : WideElement e) : toByte e 16 = .unset := by
  have some : e ≠ [] := List.ne_nil_of_length_pos (by rw [wide.four]; decide)
  rw [toByte_digits (.inl rfl) some wide.all, if_neg (not_lt.2 wide.large)]

/-- What `to_integral` makes of four characters. -/
theorem toByte_four (four : e.length = 4) :
    (∃ leak b, VectorElement leak e b) ∨ WideElement e ∨ toByte e 16 = .nullopt := by
  by_cases all : ∀ c ∈ withoutPrefix e 16, isDigitOf 16 c = true
  · rcases stripped_withoutPrefix 16 e with same | ⟨_, same⟩
    · rw [← same] at all
      by_cases small : numberOf 16 e < 256
      · exact .inl ⟨true, _, .bare four all small⟩
      · exact .inr (.inl ⟨four, all, not_lt.1 small⟩)
    · generalize withoutPrefix e 16 = digits at same all
      subst same
      exact .inl ⟨false, _, .prefixed (by simpa using four) all⟩
  · have some : withoutPrefix e 16 ≠ [] := by
      rw [Ne, withoutPrefix_eq_nil]
      rintro (rfl | ⟨_, rfl⟩)
      · cases four
      · cases four
    exact .inr (.inr (toByte_other some all))

theorem not_all_prefixed (digits : Text) : ¬ ∀ c ∈ '0' :: 'x' :: digits, isDigitOf 16 c = true := by
  intro all
  have x := all 'x' (by simp)
  rw [x_not_digit] at x
  cases x

/-- An element is what it is in one way. -/
theorem VectorElement.unique {leak' : Bool} {b' : Byte} (element : VectorElement leak e b)
    (element' : VectorElement leak' e b') : leak = leak' := by
  cases element with
  | prefixed _ _ =>
    cases element' with
    | prefixed _ _ => rfl
    | bare _ all _ => exact absurd all (not_all_prefixed _)
  | bare _ all _ =>
    cases element' with
    | prefixed _ _ => exact absurd all (not_all_prefixed _)
    | bare _ _ _ => rfl

/-! ### Windows -/

theorem window_append (four : e.length = 4) (rest : Text) : window (e ++ rest) = e := by
  rw [window, List.append_assoc, List.take_append_of_le_length (by omega),
    List.take_of_length_le (by omega)]

theorem VectorElement.toByte_window (element : VectorElement leak e b) (rest : Text) :
    toByte (window (e ++ rest)) 16 = .value b := by
  rw [window_append element.length_eq, element.toByte_eq]

theorem length_window (c : Text) : (window c).length = 4 := by
  simp [window]

/-- Past the end of the text there are no digits. -/
theorem split_of_last_digit {c : Text} (last : ∀ x ∈ (window c).getLast?, isDigitOf 16 x = true) :
    c = window c ++ c.drop 4 := by
  have long : 4 ≤ c.length := by
    by_contra short
    have padded : (window c).getLast? = some nul := by
      rw [List.getLast?_eq_getElem?, length_window, window, List.getElem?_take_of_lt (by decide),
        List.getElem?_append_right (by omega), List.getElem?_replicate_of_lt (by omega)]
    have digit := last nul padded
    cases digit
  rw [window, List.take_append_of_le_length long, List.take_append_drop]

theorem VectorElement.last_digit (element : VectorElement leak e b) :
    ∀ x ∈ e.getLast?, isDigitOf 16 x = true := by
  intro x last
  cases element with
  | @prefixed digits two all =>
    have some : digits ≠ [] := List.ne_nil_of_length_pos (by omega)
    rw [List.getLast?_cons_cons, List.getLast?_cons_of_ne_nil some] at last
    exact all x (List.mem_of_getLast? last)
  | bare _ all _ => exact all x (List.mem_of_getLast? last)

theorem element_of_value {c : Text} (value : toByte (window c) 16 = .value b) :
    ∃ leak e rest, c = e ++ rest ∧ VectorElement leak e b := by
  rcases toByte_four (length_window c) with ⟨leak, b', element⟩ | wide | none
  · obtain rfl : b' = b := Parsed.value.inj (element.toByte_eq.symm.trans value)
    exact ⟨leak, window c, c.drop 4, split_of_last_digit element.last_digit, element⟩
  · rw [wide.toByte_eq] at value
    cases value
  · rw [none] at value
    cases value

theorem wide_of_unset {c : Text} (unset : toByte (window c) 16 = .unset) :
    ∃ e rest, c = e ++ rest ∧ WideElement e := by
  rcases toByte_four (length_window c) with ⟨_, _, element⟩ | wide | none
  · rw [element.toByte_eq] at unset
    cases unset
  · exact ⟨window c, c.drop 4,
      split_of_last_digit fun x last => wide.all x (List.mem_of_getLast? last), wide⟩
  · rw [none] at unset
    cases unset

theorem peek_append (some : e ≠ []) (rest : Text) : peek (e ++ rest) = peek e := by
  cases e with
  | nil => exact absurd rfl some
  | cons x e => rfl

theorem peek_digits_append (some : e ≠ []) (all : ∀ x ∈ e, isDigitOf 16 x = true) (rest : Text) :
    peek (e ++ rest) ≠ ']' := by
  rw [peek_append some]
  exact peek_digits_ne all rfl (by decide)

theorem VectorElement.peek_ne (element : VectorElement leak e b) (rest : Text) :
    peek (e ++ rest) ≠ ']' := by
  cases element with
  | prefixed _ _ => exact show '0' ≠ ']' by decide
  | bare four all _ =>
    have some : e ≠ [] := List.ne_nil_of_length_pos (by omega)
    exact peek_digits_append some all rest

theorem WideElement.peek_ne (wide : WideElement e) (rest : Text) : peek (e ++ rest) ≠ ']' :=
  peek_digits_append (List.ne_nil_of_length_pos (by rw [wide.four]; decide)) wide.all rest

/-- One round of the first loop over what is an element. -/
theorem parseElements_element (element : VectorElement leak e b) (rest : Text) :
    parseElements (e ++ rest) =
      if peek rest = ',' then (b :: ·) <$> parseElements rest.tail
      else if peek rest ≠ ']' then .error (.error "invalid format")
      else (b :: ·) <$> parseElements rest := by
  rw [parseElements_byte (element.peek_ne rest) (element.toByte_window rest),
    List.drop_left' element.length_eq]

theorem parseLeading_element (element : VectorElement leak e b) (n : Nat) (rest : Text) :
    parseLeading (n + 1) (e ++ rest) =
      if peek rest ≠ ',' then .error (.error "Invalid format")
      else (fun r => (b :: r.1, r.2)) <$> parseLeading n rest.tail := by
  rw [parseLeading_value (element.toByte_window rest), List.drop_left' element.length_eq]

end Elements

/-! ### The list behind the bracket -/

/-- What the first loop accepts. The flag tells that an element has no prefix or that a comma
ends the list. -/
inductive VectorTail : Bool → Text → List Byte → Prop where
  | done : VectorTail false [']'] []
  | last {leak : Bool} {e : Text} {b : Byte} (element : VectorElement leak e b) :
      VectorTail leak (e ++ [']']) [b]
  | more {leak leak' : Bool} {e c : Text} {b : Byte} {bytes : List Byte}
      (element : VectorElement leak e b) (rest : VectorTail leak' c bytes) :
      VectorTail (leak || leak' || bytes.isEmpty) (e ++ ',' :: c) (b :: bytes)

/-- Elements with commas behind them lead to one that no byte is large enough for. -/
inductive Overflows : Text → Prop where
  | here {e rest : Text} (wide : WideElement e) : Overflows (e ++ rest)
  | later {leak : Bool} {e c : Text} {b : Byte} (element : VectorElement leak e b)
      (rest : Overflows c) : Overflows (e ++ ',' :: c)

theorem parseElements_bracket (c : Text) :
    parseElements (']' :: c) = if c ≠ [] then .error (.error "invalid format") else .ok [] := by
  rw [parseElements, if_pos (peek_cons _ _)]
  rfl

/-- What stands at the bracket. -/
theorem eq_cons_of_peek {c : Text} {x : Char} (here : peek c = x) (other : x ≠ nul) :
    c = x :: c.tail := by
  cases c with
  | nil => exact absurd here.symm other
  | cons y c =>
    obtain rfl : y = x := here
    rfl

theorem VectorTail.parseElements_eq {leak : Bool} {c : Text} {bytes : List Byte}
    (tail : VectorTail leak c bytes) : parseElements c = .ok bytes := by
  induction tail with
  | done => rw [parseElements_bracket, if_neg (not_not_intro rfl)]
  | last element =>
    rw [parseElements_element element, if_neg (by decide), if_neg (by decide),
      parseElements_bracket, if_neg (not_not_intro rfl)]
    rfl
  | more element _ ih =>
    rw [parseElements_element element, if_pos (peek_cons _ _), List.tail_cons, ih]
    rfl

theorem Overflows.parseElements_eq {c : Text} (overflow : Overflows c) :
    ∃ e, parseElements c = .error e ∧ e.isRaised = false := by
  induction overflow with
  | @here e rest wide =>
    have unset : toByte (window (e ++ rest)) 16 = .unset := by
      rw [window_append wide.four, wide.toByte_eq]
    exact ⟨_, parseElements_bad (wide.peek_ne rest) (by rw [unset]; rfl), rfl⟩
  | later element _ ih =>
    obtain ⟨e, raised, escapes⟩ := ih
    refine ⟨e, ?_, escapes⟩
    rw [parseElements_element element, if_pos (peek_cons _ _), List.tail_cons, raised]
    rfl

/-- The first loop accepts, overflows or raises. -/
theorem parseElements_cases (c : Text) :
    (∃ leak bytes, VectorTail leak c bytes) ∨ Overflows c ∨
      ∃ e, parseElements c = .error e ∧ e.isRaised = true := by
  by_cases done : peek c = ']'
  · obtain ⟨c, rfl⟩ : ∃ c', c = ']' :: c' := ⟨_, eq_cons_of_peek done (by decide)⟩
    by_cases last : c = []
    · obtain rfl := last
      exact .inl ⟨_, _, .done⟩
    · refine .inr (.inr ⟨.error "invalid format", ?_, rfl⟩)
      rw [parseElements_bracket, if_pos last]
  · cases first : toByte (window c) 16 with
    | nullopt => exact .inr (.inr ⟨_, parseElements_bad done (by rw [first]; rfl), rfl⟩)
    | unset =>
      obtain ⟨e, rest, rfl, wide⟩ := wide_of_unset first
      exact .inr (.inl (.here wide))
    | value b =>
      obtain ⟨leak, e, rest, parts, element⟩ := element_of_value first
      by_cases comma : peek rest = ','
      · have list : c = e ++ ',' :: rest.tail := by
          rw [parts, ← eq_cons_of_peek comma (by decide)]
        have shorter : rest.tail.length < c.length := by
          rw [list, List.length_append, List.length_cons]
          omega
        rw [list, parseElements_element element, if_pos (peek_cons _ _), List.tail_cons]
        rcases parseElements_cases rest.tail with ⟨_, _, tail⟩ | overflow | ⟨e', raised, here⟩
        · exact .inl ⟨_, _, .more element tail⟩
        · exact .inr (.inl (.later element overflow))
        · exact .inr (.inr ⟨e', by rw [raised]; rfl, here⟩)
      · rw [parts, parseElements_element element, if_neg comma]
        by_cases close : peek rest = ']'
        · rw [if_neg (not_not_intro close), eq_cons_of_peek close (by decide),
            parseElements_bracket]
          by_cases last : rest.tail = []
          · rw [last]
            exact .inl ⟨_, _, .last element⟩
          · exact .inr (.inr ⟨.error "invalid format", by rw [if_pos last]; rfl, rfl⟩)
        · rw [if_pos close]
          exact .inr (.inr ⟨.error "invalid format", rfl, rfl⟩)
termination_by c.length
decreasing_by exact shorter

theorem parseElements_eq_ok {c : Text} {bytes : List Byte} :
    parseElements c = .ok bytes ↔ ∃ leak, VectorTail leak c bytes := by
  constructor
  · intro accepted
    rcases parseElements_cases c with ⟨leak, bytes', tail⟩ | overflow | ⟨e, raised, _⟩
    · obtain rfl : bytes' = bytes := Except.ok.inj (tail.parseElements_eq.symm.trans accepted)
      exact ⟨leak, tail⟩
    · obtain ⟨e, failed, _⟩ := overflow.parseElements_eq
      rw [failed] at accepted
      cases accepted
    · rw [raised] at accepted
      cases accepted
  · intro h
    obtain ⟨leak, tail⟩ := h
    exact tail.parseElements_eq

/-- What can follow an element. -/
theorem VectorTail.after_element {leak leak' : Bool} {e c : Text} {b : Byte} {bytes : List Byte}
    (element : VectorElement leak e b) (tail : VectorTail leak' (e ++ c) bytes) :
    c = [']'] ∧ leak' = leak ∨
      ∃ rest lost bytes', c = ',' :: rest ∧ VectorTail lost rest bytes' ∧
        leak' = (leak || lost || bytes'.isEmpty) ∧ bytes.tail = bytes' := by
  generalize text : e ++ c = text at tail
  cases tail with
  | done =>
    refine absurd ?_ (element.peek_ne c)
    rw [text, peek_cons]
  | last element' =>
    obtain ⟨rfl, rfl⟩ := List.append_inj text (by rw [element.length_eq, element'.length_eq])
    exact .inl ⟨rfl, element'.unique element⟩
  | more element' rest =>
    obtain ⟨rfl, rfl⟩ := List.append_inj text (by rw [element.length_eq, element'.length_eq])
    exact .inr ⟨_, _, _, rfl, rest, by rw [element'.unique element], rfl⟩

/-- The text settles the flag. -/
theorem VectorTail.unique {leak leak' : Bool} {c : Text} {bytes bytes' : List Byte}
    (tail : VectorTail leak c bytes) (tail' : VectorTail leak' c bytes') : leak = leak' := by
  obtain rfl : bytes = bytes' :=
    Except.ok.inj (tail.parseElements_eq.symm.trans tail'.parseElements_eq)
  induction tail generalizing leak' with
  | done =>
    generalize [']'] = c at tail'
    cases tail' with
    | done => rfl
  | last element =>
    rcases tail'.after_element element with ⟨_, same⟩ | ⟨_, _, _, text, _⟩
    · exact same.symm
    · cases text
  | more element _ ih =>
    rcases tail'.after_element element with ⟨text, _⟩ | ⟨_, _, _, text, rest, same, rfl⟩
    · cases text
    · cases text
      rw [same, ih rest]
      rfl

/-! ### The fixed width -/

theorem parseLeading_succ {n : Nat} {c : Text} {r : List Byte × Text}
    (leading : parseLeading (n + 1) c = .ok r) : ∃ leak e b rest r', c = e ++ ',' :: rest ∧
      VectorElement leak e b ∧ parseLeading n rest = .ok r' ∧ r = (b :: r'.1, r'.2) := by
  cases first : toByte (window c) 16 with
  | nullopt =>
    rw [parseLeading_error (by rw [first]; rfl)] at leading
    cases leading
  | unset =>
    rw [parseLeading_error (by rw [first]; rfl)] at leading
    cases leading
  | value b =>
    obtain ⟨leak, e, rest, rfl, element⟩ := element_of_value first
    rw [parseLeading_element element] at leading
    by_cases comma : peek rest = ','
    · rw [if_neg (not_not_intro comma)] at leading
      obtain ⟨r', inner, same⟩ := map_eq_ok.1 leading
      have list : rest = ',' :: rest.tail := eq_cons_of_peek comma (by decide)
      exact ⟨leak, e, b, rest.tail, r', by rw [← list], element, inner, same.symm⟩
    · rw [if_pos comma] at leading
      cases leading

theorem parseLeading_tail {n : Nat} {c rest : Text} {init bytes : List Byte} {leak : Bool}
    (leading : parseLeading n c = .ok (init, rest)) (tail : VectorTail leak rest bytes) :
    ∃ leak', VectorTail leak' c (init ++ bytes) ∧ init.length = n := by
  induction n generalizing c init with
  | zero =>
    cases leading
    exact ⟨leak, tail, rfl⟩
  | succ n ih =>
    obtain ⟨_, e, b, c, r', rfl, element, inner, same⟩ := parseLeading_succ leading
    cases same
    obtain ⟨_, whole, length⟩ := ih inner
    exact ⟨_, .more element whole, by rw [List.length_cons, length]⟩

/-- The last element of the second loop, and the end behind it. -/
theorem parseVectorN_eq_ok {n : Nat} {c : Text} {bytes : List Byte} :
    parseVectorN n ('[' :: c) = .ok bytes ↔
      ∃ init leak e b, parseLeading (n - 1) c = .ok (init, e ++ [']']) ∧
        VectorElement leak e b ∧ bytes = init ++ [b] := by
  rw [parseVectorN, if_neg (not_not_intro (peek_cons _ _)), List.tail_cons]
  constructor
  · intro accepted
    obtain ⟨⟨init, rest⟩, leading, after⟩ := bind_eq_ok.1 accepted
    obtain ⟨b, read, close⟩ := bind_eq_ok.1 after
    obtain ⟨leak, e, rest, rfl, element⟩ := element_of_value (get_eq_ok.1 read)
    rw [List.drop_left' element.length_eq] at close
    dsimp only at close
    split_ifs at close with unclosed longer
    obtain rfl : rest = [']'] := by
      rw [eq_cons_of_peek (not_not.1 unclosed) (by decide), not_not.1 longer]
    cases close
    exact ⟨init, leak, e, b, leading, element, rfl⟩
  · intro h
    obtain ⟨init, leak, e, b, leading, element, rfl⟩ := h
    have read := get_eq_ok.2 (element.toByte_window [']'])
    refine bind_eq_ok.2 ⟨_, leading, bind_eq_ok.2 ⟨b, read, ?_⟩⟩
    rw [List.drop_left' element.length_eq]
    rfl

theorem VectorTail.parseLeading_eq {leak : Bool} {c : Text} {bytes : List Byte}
    (tail : VectorTail leak c bytes) (clean : leak = false) (some : bytes ≠ []) :
    ∃ init e b, parseLeading (bytes.length - 1) c = .ok (init, e ++ [']']) ∧
      VectorElement false e b ∧ bytes = init ++ [b] := by
  induction tail with
  | done => exact absurd rfl some
  | last element =>
    obtain rfl := clean
    exact ⟨[], _, _, rfl, element, rfl⟩
  | @more leak leak' e c b bytes element _ ih =>
    simp only [Bool.or_eq_false_iff] at clean
    obtain ⟨⟨rfl, rest⟩, more⟩ := clean
    have some : bytes ≠ [] := by simpa using more
    obtain ⟨init, e', b', leading, element', rfl⟩ := ih rest some
    refine ⟨b :: init, e', b', ?_, element', rfl⟩
    have length : (b :: (init ++ [b'])).length - 1 = (init ++ [b']).length - 1 + 1 := by simp
    rw [length, parseLeading_element element, if_neg (not_not_intro (peek_cons _ _)),
      List.tail_cons, leading]
    rfl

theorem VectorTail.parseVectorN_eq {c : Text} {bytes : List Byte}
    (tail : VectorTail false c bytes) (some : bytes ≠ []) :
    parseVectorN bytes.length ('[' :: c) = .ok bytes := by
  obtain ⟨init, e, b, leading, element, same⟩ := tail.parseLeading_eq rfl some
  exact parseVectorN_eq_ok.2 ⟨init, false, e, b, leading, element, same⟩

/-! ### The grammar -/

theorem vectorTail_of_forall₂ {es : List Text} {bytes : List Byte}
    (elements : List.Forall₂ (VectorElement false) es bytes) :
    VectorTail false ([','].intercalate es ++ [']']) bytes := by
  induction elements with
  | nil => exact .done
  | cons element rest ih =>
    cases rest with
    | nil =>
      rw [List.intercalate_singleton]
      exact .last element
    | cons _ _ =>
      rw [List.intercalate_cons_cons, List.append_assoc, List.append_assoc]
      exact .more element ih

theorem VectorTail.elements {leak : Bool} {c : Text} {bytes : List Byte}
    (tail : VectorTail leak c bytes) (clean : leak = false) :
    ∃ es, c = [','].intercalate es ++ [']'] ∧ List.Forall₂ (VectorElement false) es bytes := by
  induction tail with
  | done => exact ⟨[], rfl, .nil⟩
  | @last _ e _ element =>
    obtain rfl := clean
    exact ⟨[e], by rw [List.intercalate_singleton], .cons element .nil⟩
  | @more _ _ e _ _ _ element _ ih =>
    simp only [Bool.or_eq_false_iff] at clean
    obtain ⟨⟨rfl, rest⟩, more⟩ := clean
    obtain ⟨es, rfl, elements⟩ := ih rest
    cases elements with
    | nil => cases more
    | @cons e' _ es _ element' elements =>
      refine ⟨e :: e' :: es, ?_, .cons element (.cons element' elements)⟩
      rw [List.intercalate_cons_cons, List.append_assoc, List.append_assoc]
      rfl

theorem inGrammar_iff {c : Text} {bytes : List Byte} :
    InGrammar ('[' :: c) bytes ↔ VectorTail false c bytes := by
  constructor
  · intro h
    obtain ⟨es, text, elements⟩ := h
    obtain rfl := (List.cons.inj text).2
    exact vectorTail_of_forall₂ elements
  · intro tail
    obtain ⟨es, rfl, elements⟩ := tail.elements rfl
    exact ⟨es, rfl, elements⟩

theorem not_inGrammar {text : Text} {bytes : List Byte} (other : peek text ≠ '[') :
    ¬ InGrammar text bytes := by
  intro h
  obtain ⟨es, rfl, _⟩ := h
  exact other rfl

/-- A list that only an element without prefix or a comma at its end keeps from the grammar, or
one that leads to four digits too large for a byte. -/
def Leaky (text : Text) : Prop :=
  ∃ c, text = '[' :: c ∧ ((∃ bytes, VectorTail true c bytes) ∨ Overflows c)

/-- Both `parse_vector` accept what the grammar has and raise on everything else. -/
structure ParsesGrammar (text : Text) : Prop where
  accepts : ∀ bytes, parseVector text = .ok bytes ↔ InGrammar text bytes
  raises : (∀ bytes, ¬ InGrammar text bytes) →
    ∃ e, parseVector text = .error e ∧ e.isRaised = true
  fixed : ∀ n bytes, 1 ≤ n →
    (parseVectorN n text = .ok bytes ↔ parseVector text = .ok bytes ∧ bytes.length = n)

theorem parseVector_bracket (c : Text) : parseVector ('[' :: c) = parseElements c := by
  rw [parseVector, if_neg (not_not_intro (peek_cons _ _)), List.tail_cons]

theorem parsesGrammar_of_other {text : Text} (other : peek text ≠ '[') : ParsesGrammar text := by
  have any : parseVector text = .error (.error "invalid format") := by
    rw [parseVector, if_pos other]
  refine ⟨fun bytes => ?_, fun _ => ⟨_, any, rfl⟩, fun n bytes _ => ?_⟩
  · refine iff_of_false ?_ (not_inGrammar other)
    simp [any]
  · refine iff_of_false ?_ ?_
    · simp [parseVectorN, other]
    · simp [any]

/-- Whatever the second loop accepts the first one does. -/
theorem vectorTail_of_parseVectorN {n : Nat} {c : Text} {bytes : List Byte} (some : 1 ≤ n)
    (accepted : parseVectorN n ('[' :: c) = .ok bytes) :
    ∃ leak, VectorTail leak c bytes ∧ bytes.length = n := by
  obtain ⟨init, leak, e, b, leading, element, rfl⟩ := parseVectorN_eq_ok.1 accepted
  obtain ⟨leak', tail, length⟩ := parseLeading_tail leading (.last element)
  refine ⟨leak', tail, ?_⟩
  rw [List.length_append, length, List.length_singleton]
  omega

theorem parsesGrammar_of_not_leaky {c : Text} (tight : ¬ Leaky ('[' :: c)) :
    ParsesGrammar ('[' :: c) := by
  have clean : ∀ leak bytes, VectorTail leak c bytes → VectorTail false c bytes := by
    intro leak bytes tail
    cases leak with
    | false => exact tail
    | true => exact absurd ⟨c, rfl, .inl ⟨bytes, tail⟩⟩ tight
  refine ⟨fun bytes => ?_, fun none => ?_, fun n bytes some => ?_⟩
  · rw [parseVector_bracket, parseElements_eq_ok, inGrammar_iff]
    exact ⟨fun h => clean _ _ h.choose_spec, fun tail => ⟨_, tail⟩⟩
  · rw [parseVector_bracket]
    rcases parseElements_cases c with ⟨leak, bytes, tail⟩ | overflow | raised
    · exact absurd (inGrammar_iff.2 (clean leak bytes tail)) (none bytes)
    · exact absurd ⟨c, rfl, .inr overflow⟩ tight
    · exact raised
  · rw [parseVector_bracket, parseElements_eq_ok]
    constructor
    · intro accepted
      obtain ⟨leak, tail, length⟩ := vectorTail_of_parseVectorN some accepted
      exact ⟨⟨leak, tail⟩, length⟩
    · intro h
      obtain ⟨⟨leak, tail⟩, rfl⟩ := h
      exact (clean leak bytes tail).parseVectorN_eq (List.ne_nil_of_length_pos some)

theorem not_parsesGrammar_of_leaky {text : Text} (leaky : Leaky text) : ¬ ParsesGrammar text := by
  intro grammar
  obtain ⟨c, rfl, ⟨bytes, tail⟩ | overflow⟩ := leaky
  · have accepted : parseVector ('[' :: c) = .ok bytes := by
      rw [parseVector_bracket, tail.parseElements_eq]
    have clean := inGrammar_iff.1 ((grammar.accepts bytes).1 accepted)
    cases tail.unique clean
  · obtain ⟨e, failed, escapes⟩ := overflow.parseElements_eq
    rw [← parseVector_bracket] at failed
    have none : ∀ bytes, ¬ InGrammar ('[' :: c) bytes := by
      intro bytes inside
      have accepted := (grammar.accepts bytes).2 inside
      rw [failed] at accepted
      cases accepted
    obtain ⟨e', raised, here⟩ := grammar.raises none
    rw [failed] at raised
    cases raised
    rw [escapes] at here
    cases here

/-- The two `parse_vector` agree on the grammar unless a comma ends the list, an element has no
prefix or four digits are too large for a byte. -/
theorem parsesGrammar_iff (text : Text) : ParsesGrammar text ↔ ¬ Leaky text := by
  constructor
  · exact fun grammar leaky => not_parsesGrammar_of_leaky leaky grammar
  · intro tight
    by_cases bracket : peek text = '['
    · have list := eq_cons_of_peek bracket (by decide)
      rw [list] at tight ⊢
      exact parsesGrammar_of_not_leaky tight
    · exact parsesGrammar_of_other bracket

/-- A comma at the end, an element without prefix, and one that leaves its byte unset. -/
theorem not_parsesGrammar_leaks :
    ¬ ParsesGrammar "[0x01,]".toList ∧ ¬ ParsesGrammar "[0012]".toList ∧
      ¬ ParsesGrammar "[1234]".toList := by
  have one : VectorElement false "0x01".toList 1 := .prefixed rfl (List.all_eq_true.1 rfl)
  have twelve : VectorElement true "0012".toList 0x12 :=
    .bare rfl (List.all_eq_true.1 rfl) (by decide +kernel)
  have wide : WideElement "1234".toList := ⟨rfl, List.all_eq_true.1 rfl, by decide +kernel⟩
  refine ⟨not_parsesGrammar_of_leaky ⟨_, rfl, .inl ⟨_, .more one .done⟩⟩,
    not_parsesGrammar_of_leaky ⟨_, rfl, .inl ⟨_, .last twelve⟩⟩,
    not_parsesGrammar_of_leaky ⟨_, rfl, .inr (.here wide)⟩⟩

end SdbDebugger
