import SdbDebugger.Parse
import Mathlib.Data.List.TakeWhile
import Mathlib.Data.Nat.Digits.Lemmas

/-! What `to_integral` accepts. It compares the pointer that `std::from_chars` returns to the
end of the text and never looks at the error code. -/

namespace SdbDebugger

/-- Digits in their places. -/
def numberOf (base : Nat) (digits : Text) : Nat :=
  Nat.ofDigits base (digits.reverse.map fun c => (digitValue base c).getD 0)

/-- Digits of a base, for a signed type after an optional minus sign. -/
inductive Numeral (ty : IntType) (base : Nat) : Text → Int → Prop where
  | plain {digits : Text} (some : digits ≠ []) (all : ∀ c ∈ digits, isDigitOf base c = true) :
      Numeral ty base digits (numberOf base digits)
  | minus {digits : Text} (signed : ty.signed = true) (some : digits ≠ [])
      (all : ∀ c ∈ digits, isDigitOf base c = true) :
      Numeral ty base ('-' :: digits) (-numberOf base digits)

/-- What may be left of a text: all of it, or what follows a hexadecimal prefix. -/
def Stripped (base : Nat) (sv body : Text) : Prop := sv = body ∨ base = 16 ∧ sv = '0' :: 'x' :: body

/-- A text that is a numeral of a value of the type. -/
def Denotes (ty : IntType) (base : Nat) (sv : Text) (v : Int) : Prop :=
  ∃ body, Stripped base sv body ∧ Numeral ty base body v ∧ ty.min ≤ v ∧ v ≤ ty.max

/-- A parser returns what a text denotes, and `nullopt` if it denotes nothing. -/
structure AcceptsExactly {α : Type} (denotes : Int → Prop) (make : Int → α) (result : Parsed α) :
    Prop where
  value : ∀ a, result = .value a ↔ ∃ v, denotes v ∧ make v = a
  otherwise : (∀ v, ¬ denotes v) → result = .nullopt

theorem Parsed.map_id {α : Type} (p : Parsed α) : p.map id = p := by
  cases p with
  | nullopt => rfl
  | unset => rfl
  | value v => rfl

variable {ty : IntType} {base : Nat} {s : Text}

theorem valueOf_eq_numberOf (base : Nat) (digits : Text) : valueOf base digits = numberOf base digits := by
  have shifted : ∀ n, digits.foldl (fun n c => n * base + (digitValue base c).getD 0) n =
      n * base ^ digits.length + numberOf base digits := by
    induction digits with
    | nil => simp [numberOf]
    | cons c digits ih =>
      intro n
      rw [List.foldl_cons, ih, numberOf, numberOf, List.reverse_cons, List.map_append,
        Nat.ofDigits_append, List.length_map, List.length_reverse, List.length_cons]
      simp only [List.map_cons, List.map_nil, Nat.ofDigits_singleton]
      ring
  have whole := shifted 0
  rwa [Nat.zero_mul, Nat.zero_add] at whole

theorem minus_not_digit (base : Nat) : isDigitOf base '-' = false := by
  simp [isDigitOf, digitValue]

theorem x_not_digit : isDigitOf 16 'x' = false := by decide

/-! ### `std::from_chars` -/

/-- No other character is at the head of digits. -/
theorem peek_digits_ne {digits : Text} {x : Char} (all : ∀ c ∈ digits, isDigitOf base c = true)
    (other : isDigitOf base x = false) (printed : x ≠ nul) : peek digits ≠ x := by
  cases digits with
  | nil => exact printed.symm
  | cons c digits =>
    intro same
    have digit := all c (.head digits)
    rw [show c = x from same, other] at digit
    cases digit

theorem fromChars_numeral {v : Int} (numeral : Numeral ty base s v) :
    fromChars ty base s = ⟨s.length, if ty.min ≤ v ∧ v ≤ ty.max then some v else none⟩ := by
  cases numeral with
  | plain some all =>
    have span : s.takeWhile (isDigitOf base) = s := List.takeWhile_eq_self_iff.2 all
    have unsigned : peek s ≠ '-' := peek_digits_ne all (minus_not_digit base) (by decide)
    simp [fromChars, unsigned, span, some, valueOf_eq_numberOf]
  | @minus digits signed some all =>
    have span : digits.takeWhile (isDigitOf base) = digits := List.takeWhile_eq_self_iff.2 all
    simp [fromChars, peek, signed, span, some, valueOf_eq_numberOf]

/-- The pointer is at the end only after a numeral. -/
theorem fromChars_other (nonempty : s ≠ []) (other : ∀ v, ¬ Numeral ty base s v) :
    (fromChars ty base s).ptr ≠ s.length := by
  intro whole
  have positive : s.length ≠ 0 := fun none => nonempty (List.length_eq_zero_iff.1 none)
  -- the digits are all of the text behind the sign
  have spans : ∀ body : Text, (body.takeWhile (isDigitOf base)).length = body.length →
      ∀ c ∈ body, isDigitOf base c = true := fun body equal =>
    List.takeWhile_eq_self_iff.1 ((List.takeWhile_prefix _).eq_of_length equal)
  unfold fromChars at whole
  by_cases negative : (ty.signed && peek s == '-') = true
  · obtain ⟨signed, sign⟩ := Bool.and_eq_true_iff.1 negative
    simp only [negative, if_true] at whole
    obtain ⟨c, body, rfl⟩ := List.exists_cons_of_ne_nil nonempty
    have minus : c = '-' := eq_of_beq sign
    subst minus
    rw [List.tail_cons] at whole
    split at whole
    · exact positive whole.symm
    · next some =>
      have all := spans body (by simpa using whole)
      rw [List.takeWhile_eq_self_iff.2 all] at some
      exact other _ (.minus signed some all)
  · simp only [Bool.eq_false_iff.2 negative, Bool.false_eq_true, if_false] at whole
    split at whole
    · exact positive whole.symm
    · exact other _ (.plain nonempty (spans s whole))

/-! ### The prefix -/

theorem stripped_withoutPrefix (base : Nat) (sv : Text) : Stripped base sv (withoutPrefix sv base) := by
  unfold withoutPrefix
  split
  · next hex =>
    obtain ⟨sixteen, _, start⟩ := hex
    refine .inr ⟨sixteen, ?_⟩
    calc sv = sv.take 2 ++ sv.drop 2 := (List.take_append_drop 2 sv).symm
      _ = '0' :: 'x' :: sv.drop 2 := by rw [start]; rfl
  · exact .inl rfl

theorem withoutPrefix_of_stripped {sv body : Text} {v : Int} (stripped : Stripped base sv body)
    (numeral : Numeral ty base body v) : withoutPrefix sv base = body := by
  rcases stripped with rfl | ⟨rfl, rfl⟩
  · refine if_neg fun hex => ?_
    obtain ⟨rfl, _, start⟩ := hex
    have shape : sv = '0' :: 'x' :: sv.drop 2 := by
      calc sv = sv.take 2 ++ sv.drop 2 := (List.take_append_drop 2 sv).symm
        _ = '0' :: 'x' :: sv.drop 2 := by rw [start]; rfl
    rw [shape] at numeral
    cases numeral with
    | plain _ all =>
      have digit := all 'x' (by simp)
      rw [x_not_digit] at digit
      cases digit
  · exact if_pos (by simp)

/-! ### Acceptance -/

section Accept

variable {sv : Text}

theorem toIntegral_numeral {v : Int} (numeral : Numeral ty base (withoutPrefix sv base) v) :
    toIntegral ty sv base = if ty.min ≤ v ∧ v ≤ ty.max then .value v else .unset := by
  rw [toIntegral, fromChars_numeral numeral]
  by_cases inside : ty.min ≤ v ∧ v ≤ ty.max
  · simp [wholeMatch, inside]
  · simp [wholeMatch, inside]

theorem toIntegral_empty (nothing : withoutPrefix sv base = []) : toIntegral ty sv base = .unset := by
  have start : fromChars ty base [] = ⟨0, none⟩ := by simp [fromChars, peek, nul]
  rw [toIntegral, nothing, start]
  rfl

theorem toIntegral_other (nonempty : withoutPrefix sv base ≠ [])
    (other : ∀ v, ¬ Numeral ty base (withoutPrefix sv base) v) : toIntegral ty sv base = .nullopt :=
  if_pos (fromChars_other nonempty other)

theorem withoutPrefix_eq_nil : withoutPrefix sv base = [] ↔ sv = [] ∨ base = 16 ∧ sv = ['0', 'x'] := by
  constructor
  · intro nothing
    have stripped := stripped_withoutPrefix base sv
    rwa [nothing] at stripped
  · rintro (rfl | ⟨rfl, rfl⟩)
    · exact if_neg (by simp)
    · rfl

/-- There are digits to read, and a numeral is one of a value of the type. -/
structure Readable (ty : IntType) (base : Nat) (sv : Text) : Prop where
  nonempty : sv ≠ []
  behindPrefix : base = 16 → sv ≠ ['0', 'x']
  inRange : ∀ body v, Stripped base sv body → Numeral ty base body v → ty.min ≤ v ∧ v ≤ ty.max

theorem Readable.withoutPrefix_ne_nil (readable : Readable ty base sv) : withoutPrefix sv base ≠ [] := by
  rw [Ne, withoutPrefix_eq_nil]
  rintro (rfl | ⟨rfl, rfl⟩)
  · exact readable.nonempty rfl
  · exact readable.behindPrefix rfl rfl

theorem Denotes.numeral {v : Int} (denotes : Denotes ty base sv v) :
    Numeral ty base (withoutPrefix sv base) v := by
  obtain ⟨body, stripped, numeral, _⟩ := denotes
  rwa [withoutPrefix_of_stripped stripped numeral]

theorem toIntegral_denotes {v : Int} (denotes : Denotes ty base sv v) :
    toIntegral ty sv base = .value v := by
  have numeral := denotes.numeral
  obtain ⟨_, _, _, inside⟩ := denotes
  rw [toIntegral_numeral numeral, if_pos inside]

variable {α : Type} {make : Int → α}

theorem AcceptsExactly.set
    (exact : AcceptsExactly (Denotes ty base sv) make ((toIntegral ty sv base).map make)) :
    toIntegral ty sv base ≠ .unset := by
  intro unset
  by_cases some : ∃ v, Denotes ty base sv v
  · obtain ⟨v, denotes⟩ := some
    rw [toIntegral_denotes denotes] at unset
    cases unset
  · have none := exact.otherwise fun v denotes => some ⟨v, denotes⟩
    rw [unset] at none
    cases none

theorem Readable.acceptsExactly (readable : Readable ty base sv) :
    AcceptsExactly (Denotes ty base sv) make ((toIntegral ty sv base).map make) := by
  have stripped := stripped_withoutPrefix base sv
  by_cases some : ∃ v, Numeral ty base (withoutPrefix sv base) v
  · obtain ⟨v, numeral⟩ := some
    have denotes : Denotes ty base sv v :=
      ⟨_, stripped, numeral, readable.inRange _ v stripped numeral⟩
    refine ⟨fun a => ⟨fun same => ?_, fun read => ?_⟩, fun none => absurd denotes (none v)⟩
    · rw [toIntegral_denotes denotes] at same
      exact ⟨v, denotes, Parsed.value.inj same⟩
    · obtain ⟨v', denotes', rfl⟩ := read
      rw [toIntegral_denotes denotes']
      rfl
  · have none := toIntegral_other readable.withoutPrefix_ne_nil fun v numeral => some ⟨v, numeral⟩
    rw [none]
    refine ⟨fun a => iff_of_false (fun same => by cases same) ?_, fun _ => rfl⟩
    rintro ⟨v, denotes, _⟩
    exact some ⟨v, denotes.numeral⟩

/-- A text is read as what it denotes, unless nothing but a prefix is there or a numeral is too
large. -/
theorem acceptsExactly_iff (make : Int → α) :
    AcceptsExactly (Denotes ty base sv) make ((toIntegral ty sv base).map make) ↔
      Readable ty base sv := by
  refine ⟨fun exact => ⟨fun empty => ?_, fun hex bare => ?_, fun body v stripped numeral => ?_⟩,
    fun readable => readable.acceptsExactly⟩
  · exact exact.set (toIntegral_empty (withoutPrefix_eq_nil.2 (.inl empty)))
  · exact exact.set (toIntegral_empty (withoutPrefix_eq_nil.2 (.inr ⟨hex, bare⟩)))
  · rw [← withoutPrefix_of_stripped stripped numeral] at numeral
    by_contra outside
    have unset := toIntegral_numeral numeral
    rw [if_neg outside] at unset
    exact exact.set unset

end Accept

/-- `to_integral` accepts the numerals of its type, for every type and for bytes, exactly on the
texts that leave no variable unset. -/
theorem toIntegral_acceptsExactly_iff (ty : IntType) (base : Nat) (sv : Text) :
    (AcceptsExactly (Denotes ty base sv) id (toIntegral ty sv base) ↔ Readable ty base sv) ∧
    (AcceptsExactly (Denotes .uint8 base sv) (BitVec.ofInt 8) (toByte sv base) ↔
      Readable .uint8 base sv) := by
  refine ⟨?_, acceptsExactly_iff (BitVec.ofInt 8)⟩
  rw [← acceptsExactly_iff id, Parsed.map_id]

/-- The address of `breakpoint set 0x`, and the id of `breakpoint delete 99999999999`. -/
theorem not_toIntegral_acceptsExactly :
    ¬ AcceptsExactly (Denotes .uint64 16 "0x".toList) id (toIntegral .uint64 "0x".toList 16) ∧
    ¬ AcceptsExactly (Denotes .int 10 "99999999999".toList) id
      (toIntegral .int "99999999999".toList 10) := by
  rw [← Parsed.map_id (toIntegral .uint64 _ _), ← Parsed.map_id (toIntegral .int _ _)]
  exact ⟨fun exact => exact.set (by decide +kernel), fun exact => exact.set (by decide +kernel)⟩

end SdbDebugger
