import SdbDebugger.CommandLanguage
import SdbDebugger.MainLoop
import SdbDebugger.MemoryDump

/-! Requests as text. Each request has a line that spells it, so that whatever the handlers can do
can be typed. -/

namespace SdbDebugger
open EffectRules ActionRuns

/-! ### Words in a line -/

section Split

variable {delimiter : Char} {word : Text}

theorem split_word (free : delimiter ∉ word) (some : word ≠ []) : split delimiter word = [word] := by
  induction word with
  | nil => exact absurd rfl some
  | cons c word ih =>
    rw [List.mem_cons, not_or] at free
    rw [split, if_neg (Ne.symm free.1)]
    cases word with
    | nil => rfl
    | cons c' word => rw [ih free.2 (List.cons_ne_nil c' word)]

theorem split_append_cons (free : delimiter ∉ word) (rest : Text) :
    split delimiter (word ++ delimiter :: rest) = word :: split delimiter rest := by
  induction word with
  | nil => exact if_pos rfl
  | cons c word ih =>
    rw [List.mem_cons, not_or] at free
    rw [List.cons_append, split, if_neg (Ne.symm free.1), ih free.2]

/-- A word that can be typed between two delimiters. -/
structure Plain (delimiter : Char) (word : Text) : Prop where
  some : word ≠ []
  free : delimiter ∉ word

/-- `std::getline` takes apart what has been joined. -/
theorem split_intercalate {words : List Text} (plain : ∀ word ∈ words, Plain delimiter word) :
    split delimiter ([delimiter].intercalate words) = words := by
  induction words with
  | nil => rfl
  | cons word words ih =>
    have here := plain word List.mem_cons_self
    cases words with
    | nil =>
      rw [List.intercalate_singleton]
      exact split_word here.free here.some
    | cons next words =>
      rw [List.intercalate_cons_cons, List.append_assoc, List.singleton_append,
        split_append_cons here.free, ih fun w member => plain w (.tail word member)]

end Split

/-! ### Numbers -/

theorem digitValue_of_base {base d : Nat} (most : base ≤ 16) (small : d < base) :
    digitValue base d.digitChar = some d := by
  have table : ∀ base ≤ 16, ∀ d < base, digitValue base d.digitChar = some d := by decide
  exact table base most d small

section Decimal

variable {base : Nat} (least : 1 < base) (most : base ≤ 16)
include least most

theorem isDigitOf_base (n : Nat) : ∀ c ∈ Nat.toDigits base n, isDigitOf base c = true := by
  induction n using Nat.strong_induction_on with
  | h n ih =>
    rw [Nat.toDigits_eq_if least]
    intro c member
    split at member
    · next small =>
      rw [List.mem_singleton.1 member, isDigitOf, digitValue_of_base most small]
      rfl
    · next large =>
      rcases List.mem_append.1 member with high | low
      · exact ih (n / base) (Nat.div_lt_self (by omega) least) c high
      · rw [List.mem_singleton.1 low, isDigitOf, digitValue_of_base most (Nat.mod_lt n (by omega))]
        rfl

theorem numberOf_base (n : Nat) : numberOf base (Nat.toDigits base n) = n := by
  induction n using Nat.strong_induction_on with
  | h n ih =>
    rw [Nat.toDigits_eq_if least]
    split
    · next small => simp [numberOf, digitValue_of_base most small]
    · next large =>
      have later := ih (n / base) (Nat.div_lt_self (by omega) least)
      have last := digitValue_of_base most (Nat.mod_lt n (show 0 < base by omega))
      simp only [numberOf] at later ⊢
      simp only [List.reverse_append, List.reverse_singleton, List.singleton_append, List.map_cons,
        Nat.ofDigits_cons, later, last, Option.getD_some]
      exact Nat.mod_add_div n base

end Decimal

def numeral (v : Int) : Text :=
  if v < 0 then '-' :: Nat.toDigits 10 v.natAbs else Nat.toDigits 10 v.natAbs

def hexNumeral (a : VirtAddr) : Text := (formatPadded 18 a.toNat).toList

theorem denotes_numeral {ty : IntType} {v : Int} (inside : ty.min ≤ v ∧ v ≤ ty.max)
    (signed : v < 0 → ty.signed = true) : Denotes ty 10 (numeral v) v := by
  have digits : ∀ n, Nat.toDigits 10 n ≠ [] := fun n => Nat.toDigits_ne_nil
  have ten : 1 < 10 ∧ 10 ≤ 16 := by decide
  have all := isDigitOf_base ten.1 ten.2 v.natAbs
  have number := numberOf_base ten.1 ten.2 v.natAbs
  refine ⟨numeral v, .inl rfl, ?_, inside⟩
  unfold numeral
  split
  · next negative =>
    have minus : Numeral ty 10 _ _ := .minus (signed negative) (digits v.natAbs) all
    rwa [number, show -(v.natAbs : Int) = v by omega] at minus
  · next positive =>
    have plain : Numeral ty 10 _ _ := .plain (digits v.natAbs) all
    rwa [number, show (v.natAbs : Int) = v by omega] at plain

theorem plain_numeral {delimiter : Char} {v : Int} (other : isDigitOf 10 delimiter = false)
    (sign : delimiter ≠ '-') : Plain delimiter (numeral v) := by
  have free : delimiter ∉ Nat.toDigits 10 v.natAbs := by
    intro member
    rw [isDigitOf_base (by decide) (by decide) _ _ member] at other
    cases other
  unfold numeral
  split
  · exact ⟨List.cons_ne_nil _ _, fun member => (List.mem_cons.1 member).elim sign free⟩
  · exact ⟨Nat.toDigits_ne_nil, free⟩

theorem denotes_hexNumeral (a : VirtAddr) : Denotes .uint64 16 (hexNumeral a) a.toNat :=
  toIntegral_eq_value.1 (toIntegral_formatPadded rfl a.isLt)

/-! ### Requests -/

def modeWord : StoppointMode → Text
  | .write => "write".toList
  | .readWrite => "rw".toList
  | .execute => "execute".toList

/-- The word behind `catchpoint syscall`, if there is one. -/
def policyWords (policy : SyscallCatchPolicy) : List Text :=
  match policy.mode with
  | .all => []
  | .none => ["none".toList]
  | .some => [[','].intercalate (policy.toCatch.map numeral)]

/-- The words that ask for something. -/
def Request.words (L : Libraries) : Request → List Text
  | .continue => ["continue".toList]
  | .step => ["step".toList]
  | .setBreakpoint address hardware =>
    ["breakpoint".toList, "set".toList, hexNumeral address] ++
      if hardware then ["-h".toList] else []
  | .breakpoint change id => ["breakpoint".toList, change.verb.name.toList, numeral id]
  | .setWatchpoint address mode size =>
    ["watchpoint".toList, "set".toList, hexNumeral address, modeWord mode, numeral size.toNat]
  | .watchpoint change id => ["watchpoint".toList, change.verb.name.toList, numeral id]
  | .catchSyscalls policy => ["catchpoint".toList, "syscall".toList] ++ policyWords policy
  | .writeRegister info value =>
    ["register".toList, "write".toList, info.name.toList, (formatValue L value).toList]
  | .readMemory address amount =>
    ["memory".toList, "read".toList, hexNumeral address, numeral amount]
  | .writeMemory address data =>
    ["memory".toList, "write".toList, hexNumeral address, (formatBytes data).toList]
  | .disassemble address nInstructions =>
    "disassemble".toList :: (address.toList.flatMap fun a => ["-a".toList, hexNumeral a]) ++
      ["-c".toList, numeral nInstructions]

def Request.text (L : Libraries) (request : Request) : Text :=
  [' '].intercalate (request.words L)

/-- The number fits the variable that the handler reads it into. -/
def FitsInt (v : Int) : Prop := IntType.int.min ≤ v ∧ v ≤ IntType.int.max

instance decidableFitsInt (v : Int) : Decidable (FitsInt v) := inferInstanceAs (Decidable (_ ∧ _))

/-- A request whose numbers fit the variables of the handlers. Of a catchpoint's ids there has to be
one, and a negative one would be taken for a name; floating-point values are not typed. -/
def Request.Typable : Request → Prop
  | .breakpoint _ id => FitsInt id
  | .watchpoint _ id => FitsInt id
  | .catchSyscalls policy =>
    match policy.mode with
    | .some => policy.toCatch ≠ [] ∧ ∀ id ∈ policy.toCatch, 0 ≤ id ∧ FitsInt id
    | _ => policy.toCatch = []
  | .writeRegister info value => info ∈ gRegisterInfos ∧ HeldBy info value
  | .readMemory _ amount => amount < 2 ^ 31
  | .disassemble _ nInstructions => nInstructions < 2 ^ 64
  | _ => True

section Typed

variable {κ : Type} {L : Libraries}

theorem toSize_typed {n : Nat} (few : n < 2 ^ 31) : toSize (BitVec.ofInt 32 n) = n := by
  rw [BitVec.ofInt_natCast]
  exact (toSize_ofNat_iff (by omega)).2 few

theorem registerInfoByName_listed {info : RegisterInfo} (listed : info ∈ gRegisterInfos) :
    registerInfoByName info.name = .ok info := by
  have table : ∀ info ∈ gRegisterInfos, registerInfoByName info.name = .ok info := by decide +kernel
  exact table info listed

theorem denotes_uint64 {n : Nat} (small : n < 2 ^ 64) : Denotes .uint64 10 (numeral n) n := by
  refine denotes_numeral ⟨?_, ?_⟩ fun negative => absurd negative (by omega)
  · exact Int.natCast_nonneg n
  · change (n : Int) ≤ 2 ^ 64 - 1
    omega

theorem spellsOptions_words (address : Option VirtAddr) {n : Nat} (small : n < 2 ^ 64) :
    SpellsOptions ((address.toList.flatMap fun a => ["-a".toList, hexNumeral a]) ++
      ["-c".toList, numeral n]) (none, 5) (address, n) := by
  cases address with
  | none => exact .count (denotes_uint64 small) (.nil _)
  | some a =>
    refine .address (denotes_hexNumeral a) ?_
    rw [ofInt_toNat]
    exact .count (denotes_uint64 small) (.nil _)

theorem keyword_name (k : Keyword) : keyword k.name.toList = some k := by
  cases k <;> decide

theorem verb_name (v : Verb) : verb v.name.toList = some v := by
  cases v <;> decide

theorem access_name (a : Access) : access a.name.toList = some a := by
  cases a <;> decide

theorem watchpointMode_word (mode : StoppointMode) : watchpointMode (modeWord mode) = some mode := by
  cases mode <;> decide

theorem FitsInt.denotes {v : Int} (fits : FitsInt v) : Denotes .int 10 (numeral v) v :=
  denotes_numeral fits fun _ => rfl

theorem isDecimalDigit_of_digit : ∀ d < 10, isDecimalDigit (Nat.digitChar d) = true := by decide

theorem head_toDigits (n : Nat) : ∃ d < 10, ∃ rest, Nat.toDigits 10 n = Nat.digitChar d :: rest := by
  induction n using Nat.strong_induction_on with
  | h n ih =>
    rw [Nat.toDigits_eq_if (by decide)]
    split
    · next small => exact ⟨n, small, [], rfl⟩
    · next large =>
      obtain ⟨d, small, rest, here⟩ := ih (n / 10) (by omega)
      exact ⟨d, small, rest ++ [Nat.digitChar (n % 10)], by rw [here]; rfl⟩

theorem peek_numeral {v : Int} (positive : 0 ≤ v) : isDecimalDigit (peek (numeral v)) = true := by
  obtain ⟨d, small, rest, here⟩ := head_toDigits v.natAbs
  rw [numeral, if_neg (by omega), here]
  exact isDecimalDigit_of_digit d small

theorem peek_intercalate {ids : List Int} (several : ids ≠ []) (positive : ∀ id ∈ ids, 0 ≤ id) :
    isDecimalDigit (peek ([','].intercalate (ids.map numeral))) = true := by
  obtain ⟨id, ids, rfl⟩ := List.exists_cons_of_ne_nil several
  have first := peek_numeral (positive id List.mem_cons_self)
  have plain : Plain ',' (numeral id) := plain_numeral (by decide) (by decide)
  cases ids with
  | nil =>
    rw [List.map_singleton, List.intercalate_singleton]
    exact first
  | cons next ids =>
    rw [List.map_cons, List.map_cons, List.intercalate_cons_cons, List.append_assoc,
      peek_append plain.some]
    exact first

theorem spells_catchSyscalls {policy : SyscallCatchPolicy}
    (typable : (Request.catchSyscalls policy).Typable) :
    Spells L ((Request.catchSyscalls policy).words L) (.catchSyscalls policy) := by
  have command := keyword_name .catchpoint
  obtain ⟨mode, toCatch⟩ := policy
  cases mode with
  | all =>
    obtain rfl : toCatch = [] := typable
    exact .catchAll command (by decide)
  | none =>
    obtain rfl : toCatch = [] := typable
    exact .catchNone command (by decide)
  | some =>
    obtain ⟨several, numbers⟩ : toCatch ≠ [] ∧ ∀ id ∈ toCatch, 0 ≤ id ∧ FitsInt id := typable
    have plain : ∀ word ∈ toCatch.map numeral, Plain ',' word := by
      intro word member
      obtain ⟨id, listed, rfl⟩ := List.mem_map.1 member
      exact plain_numeral (by decide) (by decide)
    refine .catchSome command (by decide) (fun _ same => ?_) ?_
    · have digit := peek_intercalate several fun id member => (numbers id member).1
      rw [same] at digit
      exact absurd digit (by decide)
    · rw [split_intercalate plain, List.forall₂_map_left_iff]
      exact List.forall₂_same.2 fun id member =>
        .number (peek_numeral (numbers id member).1) (FitsInt.denotes (numbers id member).2)

theorem spells_words {request : Request} (typable : request.Typable) :
    Spells L (request.words L) request := by
  cases request with
  | «continue» => exact .continue (keyword_name .continue)
  | step => exact .step (keyword_name .step)
  | setBreakpoint address hardware =>
    have command := keyword_name .breakpoint
    have set := verb_name .set
    have place := denotes_hexNumeral address
    cases hardware with
    | false =>
      have spelled : Spells L [_, _, _] _ := .setBreakpoint command set place (by simp)
      rwa [ofInt_toNat] at spelled
    | true =>
      have spelled : Spells L _ _ := .setHardwareBreakpoint command set place
      rwa [ofInt_toNat] at spelled
  | breakpoint change id =>
    exact .breakpoint change (keyword_name .breakpoint) (verb_name _) (FitsInt.denotes typable)
  | setWatchpoint address mode size =>
    have spelled : Spells L _ _ := .setWatchpoint (keyword_name .watchpoint) (verb_name .set)
      (denotes_hexNumeral address) (watchpointMode_word mode) (denotes_uint64 size.isLt)
    rwa [ofInt_toNat, ofInt_toNat] at spelled
  | watchpoint change id =>
    exact .watchpoint change (keyword_name .watchpoint) (verb_name _) (FitsInt.denotes typable)
  | catchSyscalls policy => exact spells_catchSyscalls typable
  | writeRegister info value =>
    refine .writeRegister (keyword_name .register) (access_name .write) ?_
      (parseRegisterValue_formatValue typable.2)
    rw [String.ofList_toList]
    exact registerInfoByName_listed typable.1
  | readMemory address amount =>
    have small : amount < 2 ^ 64 := lt_trans typable (by decide)
    have spelled : Spells L _ _ := .readMemoryCount (keyword_name .memory) (access_name .read)
      (denotes_hexNumeral address) (denotes_uint64 small)
    rwa [ofInt_toNat, toSize_typed typable] at spelled
  | writeMemory address data =>
    have spelled : Spells L _ _ := .writeMemory (keyword_name .memory) (access_name .write)
      (denotes_hexNumeral address) (parseVector_formatBytes data)
    rwa [ofInt_toNat] at spelled
  | disassemble address nInstructions =>
    exact .disassemble (keyword_name .disassemble) (spellsOptions_words address typable)

/-! ### Lines -/

theorem not_mem_intercalate {c : Char} {separator : Text} {words : List Text} (outside : c ∉ separator)
    (free : ∀ word ∈ words, c ∉ word) : c ∉ separator.intercalate words := by
  induction words with
  | nil => exact List.not_mem_nil
  | cons word words ih =>
    have here := free word List.mem_cons_self
    have later := ih fun w member => free w (.tail word member)
    cases words with
    | nil => rwa [List.intercalate_singleton]
    | cons next words =>
      rw [List.intercalate_cons_cons, List.mem_append, List.mem_append]
      rintro ((first | between) | rest)
      · exact here first
      · exact outside between
      · exact later rest

theorem plain_formatPadded (width n : Nat) : Plain ' ' (formatPadded width n).toList := by
  rw [toList_formatPadded]
  refine ⟨List.cons_ne_nil _ _, fun member => ?_⟩
  rcases List.mem_cons.1 member with zero | member
  · cases zero
  · rcases List.mem_cons.1 member with x | digit
    · cases x
    · exact absurd (isDigitOf_padded ' ' digit) (by decide)

theorem plain_formatBytes (bytes : List Byte) : Plain ' ' (formatBytes bytes).toList := by
  have shape : (formatBytes bytes).toList = '[' ::
      ([','].intercalate ((bytes.map fun b => formatPadded 4 b.toNat).map String.toList) ++ [']']) := by
    simp [formatBytes, join]
  rw [shape]
  refine ⟨List.cons_ne_nil _ _, fun member => ?_⟩
  rcases List.mem_cons.1 member with opening | member
  · cases opening
  · rcases List.mem_append.1 member with inside | closing
    · refine not_mem_intercalate (by decide) (fun word listed => ?_) inside
      rw [List.map_map, List.mem_map] at listed
      obtain ⟨b, _, rfl⟩ := listed
      exact (plain_formatPadded 4 b.toNat).free
    · cases List.mem_singleton.1 closing

theorem plain_formatValue {info : RegisterInfo} {value : Value} (held : HeldBy info value) :
    Plain ' ' (formatValue L value).toList := by
  cases held with
  | byte64 format size v => exact plain_formatBytes v.toList
  | byte128 format size v => exact plain_formatBytes v.toList
  | _ =>
    simp only [formatValue]
    rw [formatIntegral_natCast]
    exact plain_formatPadded _ _

theorem plain_name {info : RegisterInfo} (listed : info ∈ gRegisterInfos) :
    Plain ' ' info.name.toList := by
  have table : ∀ info ∈ gRegisterInfos, info.name.toList ≠ [] ∧ ' ' ∉ info.name.toList := by
    decide +kernel
  exact ⟨(table info listed).1, (table info listed).2⟩

theorem plain_policyWords (policy : SyscallCatchPolicy)
    (typable : (Request.catchSyscalls policy).Typable) :
    ∀ word ∈ policyWords policy, Plain ' ' word := by
  obtain ⟨mode, toCatch⟩ := policy
  intro word member
  cases mode with
  | all => cases member
  | none =>
    rw [List.mem_singleton.1 member]
    exact ⟨by decide, by decide⟩
  | some =>
    obtain ⟨several, numbers⟩ : toCatch ≠ [] ∧ ∀ id ∈ toCatch, 0 ≤ id ∧ FitsInt id := typable
    rw [List.mem_singleton.1 member]
    constructor
    · intro nothing
      have digit := peek_intercalate several fun id member => (numbers id member).1
      rw [nothing] at digit
      exact absurd digit (by decide)
    · refine not_mem_intercalate (by decide) fun number listed => ?_
      obtain ⟨id, _, rfl⟩ := List.mem_map.1 listed
      exact (plain_numeral (by decide) (by decide)).free

theorem plain_keyword (k : Keyword) : Plain ' ' k.name.toList := by
  cases k <;> exact ⟨by decide, by decide⟩

theorem plain_verb (v : Verb) : Plain ' ' v.name.toList := by
  cases v <;> exact ⟨by decide, by decide⟩

theorem plain_access (a : Access) : Plain ' ' a.name.toList := by
  cases a <;> exact ⟨by decide, by decide⟩

theorem plain_modeWord (mode : StoppointMode) : Plain ' ' (modeWord mode) := by
  cases mode <;> exact ⟨by decide, by decide⟩

theorem plain_hexNumeral (a : VirtAddr) : Plain ' ' (hexNumeral a) := plain_formatPadded 18 a.toNat

theorem Plain.cons {delimiter : Char} {word : Text} {words : List Text}
    (first : Plain delimiter word) (rest : ∀ w ∈ words, Plain delimiter w) :
    ∀ w ∈ word :: words, Plain delimiter w :=
  List.forall_mem_cons.2 ⟨first, rest⟩

theorem plain_words {request : Request} (typable : request.Typable) :
    ∀ word ∈ request.words L, Plain ' ' word := by
  have nothing : ∀ word ∈ ([] : List Text), Plain ' ' word := List.forall_mem_nil _
  have number : ∀ v : Int, Plain ' ' (numeral v) := fun v => plain_numeral (by decide) (by decide)
  have hex := plain_hexNumeral
  cases request with
  | «continue» => exact (plain_keyword .continue).cons nothing
  | step => exact (plain_keyword .step).cons nothing
  | setBreakpoint address hardware =>
    refine (plain_keyword .breakpoint).cons ((plain_verb .set).cons ((hex address).cons ?_))
    cases hardware with
    | false => exact nothing
    | true => exact Plain.cons ⟨by decide, by decide⟩ nothing
  | breakpoint change id =>
    exact (plain_keyword .breakpoint).cons ((plain_verb _).cons ((number id).cons nothing))
  | setWatchpoint address mode size =>
    exact (plain_keyword .watchpoint).cons ((plain_verb .set).cons ((hex address).cons
      ((plain_modeWord mode).cons ((number _).cons nothing))))
  | watchpoint change id =>
    exact (plain_keyword .watchpoint).cons ((plain_verb _).cons ((number id).cons nothing))
  | catchSyscalls policy =>
    exact (plain_keyword .catchpoint).cons
      (Plain.cons ⟨by decide, by decide⟩ (plain_policyWords policy typable))
  | writeRegister info value =>
    exact (plain_keyword .register).cons ((plain_access .write).cons
      ((plain_name typable.1).cons ((plain_formatValue typable.2).cons nothing)))
  | readMemory address amount =>
    exact (plain_keyword .memory).cons ((plain_access .read).cons
      ((hex address).cons ((number _).cons nothing)))
  | writeMemory address data =>
    exact (plain_keyword .memory).cons ((plain_access .write).cons
      ((hex address).cons ((plain_formatBytes data).cons nothing)))
  | disassemble address nInstructions =>
    have count : ∀ word ∈ ["-c".toList, numeral nInstructions], Plain ' ' word :=
      Plain.cons ⟨by decide, by decide⟩ ((number _).cons nothing)
    refine (plain_keyword .disassemble).cons ?_
    cases address with
    | none => exact count
    | some a => exact Plain.cons ⟨by decide, by decide⟩ ((hex a).cons count)

/-- What is typed for a request is that request. -/
theorem handleCommand_text (P : Platform κ) (L : Libraries) (fuel : Nat) {request : Request}
    (typable : request.Typable) :
    handleCommand P L fuel (request.text L) = request.perform P L fuel := by
  refine handleCommand_spelled fuel ?_
  rw [Request.text, split_intercalate (plain_words typable)]
  exact spells_words typable

end Typed

/-! ### Sessions -/

section Session

variable {κ η : Type} (P : Platform κ) (L : Libraries) (fuel : Nat)

/-- The requests one after another, each in the `try` block of `main_loop`. -/
def Request.performAll : List Request → Cli κ Unit
  | [] => pure ()
  | request :: requests => do
    catchError (request.perform P L fuel) fun what => print (what ++ "\n")
    performAll requests

theorem Request.text_ne_nil {request : Request} (typable : request.Typable) :
    request.text L ≠ [] := by
  have plain := plain_words (L := L) typable
  rw [Request.text]
  cases words : request.words L with
  | nil => cases request <;> cases words
  | cons word rest =>
    rw [words] at plain
    have first := (plain word List.mem_cons_self).some
    cases rest with
    | nil => rwa [List.intercalate_singleton]
    | cons next rest =>
      rw [List.intercalate_cons_cons, List.append_assoc]
      exact List.append_ne_nil_of_left_ne_nil first _

variable {P L fuel} {hist : HistoryList η}

theorem wp_tryCommand {handle : Text → Cli κ Unit} {line : Text} {s : Prompt κ η}
    {ok : Debugger κ → Prop} {err : Fault → Debugger κ → Prop} :
    wp (tryCommand handle line) (fun _ t => ok t.debugger) (fun e t => err e t.debugger) s ↔
      wp (catchError (handle line) fun what => print (what ++ "\n")) (fun _ d => ok d) err
        s.debugger := by
  unfold wp tryCommand
  cases catchError (handle line) (fun what => print (what ++ "\n")) s.debugger <;> exact Iff.rfl

/-- A session can be typed: at the prompt, the lines of the requests do what the requests do one
after another, where an `sdb::error` of one does not keep the next from being run. -/
theorem mainLoop_texts {requests : List Request} (typable : ∀ request ∈ requests, request.Typable)
    (s : Prompt κ η) (ok : Debugger κ → Prop) (err : Fault → Debugger κ → Prop) :
    wp (mainLoop hist (handleCommand P L fuel) (requests.map (Request.text L)))
        (fun _ t => ok t.debugger) (fun e t => err e t.debugger) s ↔
      wp (Request.performAll P L fuel requests) (fun _ d => ok d) err s.debugger := by
  induction requests generalizing s with
  | nil => exact Iff.rfl
  | cons request requests ih =>
    have this := typable request List.mem_cons_self
    have line := Request.text_ne_nil L this
    have later := ih fun r member => typable r (.tail request member)
    have typed := handleCommand_text P L fuel this
    rw [List.map_cons, mainLoop, Request.performAll, wp_bind, wp_bind, ← typed]
    simp only [later]
    rw [wp, promptLine_text line]
    exact wp_tryCommand (s := { s with history := hist.addHistory _ s.history })

/-- The second request is refused, and the third is performed. -/
theorem mainLoop_texts_refused :
    wp (mainLoop listHistory (handleCommand scriptedPlatform noLibraries 1)
        ["breakpoint set 0x0000000000001000".toList, "breakpoint set 0x0000000000001000".toList,
          "catchpoint syscall 0,231".toList])
      (fun _ t => t.debugger.world.syscallCatchPolicy = .catchSome [0, 231] ∧
        t.debugger.world.breakpointSites.length = 1)
      (fun _ _ => False) scriptedPrompt := by
  have texts : ["breakpoint set 0x0000000000001000".toList,
      "breakpoint set 0x0000000000001000".toList, "catchpoint syscall 0,231".toList] =
      [Request.setBreakpoint 0x1000 false, .setBreakpoint 0x1000 false,
        .catchSyscalls (.catchSome [0, 231])].map (Request.text noLibraries) := by decide
  rw [texts]
  have numbers : (Request.catchSyscalls (.catchSome [0, 231])).Typable :=
    show [0, 231] ≠ [] ∧ ∀ id ∈ [0, 231], 0 ≤ id ∧ FitsInt id by decide
  refine (mainLoop_texts ?_ scriptedPrompt (fun d =>
    d.world.syscallCatchPolicy = .catchSome [0, 231] ∧
      d.world.breakpointSites.length = 1) fun _ _ => False).2 ?_
  · simpa [Request.Typable] using numbers
  · exact wp_of_survive (by decide +kernel)

end Session

end SdbDebugger
