import Mathlib.Data.List.Find
import SdbDebugger.ElfLoad

/-! `get_auxv`. The loop ends when it has read `AT_NULL`, and does not ask whether it could read. -/

namespace SdbDebugger

def atNull : Word := 0

/-! ### The loop -/

/-- An `ifstream`, as what is left of its file and `fail()`. -/
structure InputStream where
  rest : List Byte
  failed : Bool

/-- The file, or a stream that could not be opened. -/
def InputStream.ofFile (file : Option (List Byte)) : InputStream := ⟨file.getD [], file.isNone⟩

/-- `read` of a 64-bit variable, which is `none` before it is set. A read that fails leaves the
variable as it is. -/
def InputStream.read (s : InputStream) (into : Option Word) : InputStream × Option Word :=
  if s.failed ∨ s.rest.length < 8 then (⟨[], true⟩, into)
  else (⟨s.rest.drop 8, false⟩, some (member 8 s.rest 0))

/-- `std::unordered_map<int, std::uint64_t>`. -/
abbrev MapMacroAuxv := Int → Option Word

/-- A 64-bit integer as an `int`. -/
def toInt (id : Word) : Int := (id.setWidth 32).toInt

/-- `ret[id] = value`. -/
def MapMacroAuxv.assign (ret : MapMacroAuxv) (id value : Word) : MapMacroAuxv :=
  Function.update ret (toInt id) (some value)

/-- The variables of the loop, after `id` has been read. -/
structure AuxvState where
  auxv : InputStream
  id : Option Word
  value : Option Word
  ret : MapMacroAuxv

def auxvLoop : Nat → AuxvState → Except Fault MapMacroAuxv
  | 0, _ => .error .stillRunning
  | fuel + 1, s =>
    match s.id with
    | none => .error (.undefinedBehaviour "id is not set")
    | some id =>
      if id = atNull then .ok s.ret
      else
        let (auxv, value) := s.auxv.read s.value
        match value with
        | none => .error (.undefinedBehaviour "value is not set")
        | some v =>
          let (auxv, next) := auxv.read s.id
          auxvLoop fuel ⟨auxv, next, value, s.ret.assign id v⟩

def getAuxv (fuel : Nat) (file : Option (List Byte)) : Except Fault MapMacroAuxv :=
  let (auxv, id) := (InputStream.ofFile file).read none
  auxvLoop fuel ⟨auxv, id, none, fun _ => none⟩

/-! ### What the file says -/

/-- The 64-bit words of a file, as far as they are complete. -/
def wordAt (content : List Byte) (i : Nat) : Option Word :=
  if 8 * i + 8 ≤ content.length then some (member 8 content (8 * i)) else none

/-- Entry `k` is the first one that is `AT_NULL`. -/
structure FirstNull (content : List Byte) (k : Nat) : Prop where
  null : wordAt content (2 * k) = some atNull
  before : ∀ i < k, wordAt content (2 * i) ≠ some atNull

/-- The first entries, as keys and values. -/
def entriesTo (content : List Byte) (k : Nat) : List (Word × Word) :=
  (List.range k).map fun i => (member 8 content (8 * (2 * i)), member 8 content (8 * (2 * i + 1)))

/-- The last value of a key. -/
def lastValue (entries : List (Word × Word)) (key : Int) : Option Word :=
  (entries.reverse.find? fun e => (e.1.toNat : Int) = key).map (·.2)

/-- The loop ends, with the map that the file says if it has an `AT_NULL`. -/
def AuxvRight (file : Option (List Byte)) : Prop :=
  ∃ fuel map, getAuxv fuel file = .ok map ∧
    ∀ k, FirstNull (file.getD []) k → ∀ key, map key = lastValue (entriesTo (file.getD []) k) key

section Words

variable {content : List Byte} {s : InputStream} {into : Option Word}

theorem member_drop (content : List Byte) (n j i : Nat) :
    member n (content.drop j) i = member n content (j + i) := by
  unfold member
  refine congrArg (ByteSpace.ofBytes n) (funext fun k => ?_)
  rw [List.getD_eq_getElem?_getD, List.getD_eq_getElem?_getD, List.getElem?_drop, Nat.add_assoc]

theorem wordAt_drop (content : List Byte) (j i : Nat) :
    wordAt (content.drop (8 * j)) i = wordAt content (j + i) := by
  unfold wordAt
  rw [List.length_drop, member_drop, ← Nat.mul_add]
  by_cases inside : 8 * (j + i) + 8 ≤ content.length
  · rw [if_pos inside, if_pos (by omega)]
  · rw [if_neg inside, if_neg (by omega)]

/-- A read takes the next word, if there is one. -/
theorem read_open {rest : List Byte} {word : Word} (next : wordAt rest 0 = some word) :
    InputStream.read ⟨rest, false⟩ into = (⟨rest.drop 8, false⟩, some word) := by
  unfold wordAt at next
  split at next
  · next inside =>
    have enough : ¬ ((false : Bool) = true ∨ rest.length < 8) := by
      rintro (impossible | short)
      · cases impossible
      · omega
    rw [InputStream.read, if_neg enough, Option.some.inj next]
  · cases next

theorem read_failed (stopped : s.failed = true ∨ wordAt s.rest 0 = none) :
    s.read into = (⟨[], true⟩, into) := by
  refine if_pos (stopped.imp id fun none => ?_)
  unfold wordAt at none
  split at none
  · cases none
  · omega

theorem wordAt_of_le {i j : Nat} (le : i ≤ j) {word : Word} (there : wordAt content j = some word) :
    wordAt content i = some (member 8 content (8 * i)) := by
  unfold wordAt at there
  split at there
  · exact if_pos (by omega)
  · cases there

end Words

/-! ### A file with an `AT_NULL` -/

section Runs

variable {content : List Byte} {k : Nat}

/-- The map after some entries. -/
def mapOf (entries : List (Word × Word)) : MapMacroAuxv :=
  entries.foldl (fun ret e => ret.assign e.1 e.2) fun _ => none

theorem mapOf_apply (entries : List (Word × Word)) (key : Int) :
    mapOf entries key = (entries.reverse.find? fun e => toInt e.1 = key).map (·.2) := by
  induction entries using List.reverseRecOn with
  | nil => rfl
  | append_singleton entries e ih =>
    rw [mapOf, List.foldl_append, List.reverse_append, List.reverse_singleton, List.singleton_append,
      List.find?_cons]
    change Function.update (mapOf entries) (toInt e.1) (some e.2) key = _
    by_cases here : toInt e.1 = key
    · rw [decide_eq_true here, here, Function.update_self]
      rfl
    · rw [decide_eq_false here, Function.update_of_ne (Ne.symm here), ih]

theorem mapOf_entriesTo_succ (content : List Byte) (n : Nat) : mapOf (entriesTo content (n + 1)) =
    (mapOf (entriesTo content n)).assign (member 8 content (8 * (2 * n)))
      (member 8 content (8 * (2 * n + 1))) := by
  rw [mapOf, entriesTo, List.range_succ, List.map_append, List.foldl_append]
  rfl

/-- A round in which the value and the next id can be read. -/
theorem auxvLoop_step {rest : List Byte} {id v next : Word} (other : id ≠ atNull)
    (first : wordAt rest 0 = some v) (second : wordAt rest 1 = some next) (fuel : Nat)
    (value : Option Word) (ret : MapMacroAuxv) :
    auxvLoop (fuel + 1) ⟨⟨rest, false⟩, some id, value, ret⟩ =
      auxvLoop fuel ⟨⟨rest.drop 16, false⟩, some next, some v, ret.assign id v⟩ := by
  have second' : wordAt (rest.drop 8) 0 = some next := (wordAt_drop rest 1 0).trans second
  have shorter : (rest.drop 8).drop 8 = rest.drop 16 := List.drop_drop ..
  rw [auxvLoop]
  dsimp only
  rw [if_neg other, read_open first]
  dsimp only
  rw [read_open second', shorter]

/-- The loop stops at the first `AT_NULL`, if it is allowed to go that far. -/
theorem auxvLoop_null (first : FirstNull content k) (fuel : Nat) {n : Nat} (le : n ≤ k)
    (value : Option Word) :
    auxvLoop fuel ⟨⟨content.drop (8 * (2 * n + 1)), false⟩, wordAt content (2 * n), value,
      mapOf (entriesTo content n)⟩ =
        if k < n + fuel then .ok (mapOf (entriesTo content k)) else .error .stillRunning := by
  induction fuel generalizing n value with
  | zero => exact (if_neg (by omega)).symm
  | succ fuel ih =>
    rcases Nat.eq_or_lt_of_le le with rfl | less
    · rw [first.null, if_pos (by omega)]
      rfl
    · have word := fun i (before : i ≤ 2 * k) => wordAt_of_le before first.null
      have here := word (2 * n) (by omega)
      have other : member 8 content (8 * (2 * n)) ≠ atNull := fun null =>
        first.before n less (null ▸ here)
      have value' : wordAt (content.drop (8 * (2 * n + 1))) 0 =
          some (member 8 content (8 * (2 * n + 1))) := by
        rw [wordAt_drop]
        exact word (2 * n + 1) (by omega)
      have next : wordAt (content.drop (8 * (2 * n + 1))) 1 =
          some (member 8 content (8 * (2 * (n + 1)))) := by
        rw [wordAt_drop]
        exact word (2 * (n + 1)) (by omega)
      have rest : 8 * (2 * n + 1) + 16 = 8 * (2 * (n + 1) + 1) := by omega
      have fuels : n + (fuel + 1) = n + 1 + fuel := by omega
      rw [here, auxvLoop_step other value' next, List.drop_drop, rest, ← mapOf_entriesTo_succ,
        ← word (2 * (n + 1)) (by omega), ih less, fuels]

end Runs

/-! ### A file without -/

/-- Every second word of what is left, from a word on, is not `AT_NULL`. -/
def NoNullFrom (s : InputStream) (start : Nat) : Prop :=
  s.failed = true ∨ ∀ i, wordAt s.rest (start + 2 * i) ≠ some atNull

section Endless

variable {s : InputStream} {into : Option Word} {start : Nat}

theorem read_cases (s : InputStream) (into : Option Word) :
    s.read into = (⟨[], true⟩, into) ∨ ∃ word, s.failed = false ∧ wordAt s.rest 0 = some word ∧
      s.read into = (⟨s.rest.drop 8, false⟩, some word) := by
  cases failed : s.failed with
  | true => exact .inl (read_failed (.inl failed))
  | false =>
    cases next : wordAt s.rest 0 with
    | none => exact .inl (read_failed (.inr next))
    | some word =>
      have opened : s = ⟨s.rest, false⟩ := by rw [← failed]
      refine .inr ⟨word, rfl, rfl, ?_⟩
      rw [opened]
      exact read_open next

theorem NoNullFrom.read (noNull : NoNullFrom s (start + 1)) :
    NoNullFrom (s.read into).1 start := by
  rcases read_cases s into with stopped | ⟨word, opened, _, step⟩
  · rw [stopped]
    exact .inl rfl
  · rw [step]
    have others := noNull.resolve_left (by simp [opened])
    refine .inr fun i => ?_
    have shifted := wordAt_drop s.rest 1 (start + 2 * i)
    have place : 1 + (start + 2 * i) = start + 1 + 2 * i := by omega
    rw [place] at shifted
    exact fun null => others i (shifted ▸ null)

theorem NoNullFrom.skip (noNull : NoNullFrom s start) : NoNullFrom s (start + 2) := by
  refine noNull.imp_right fun others i => ?_
  have place : start + 2 + 2 * i = start + 2 * (i + 1) := by omega
  exact place ▸ others (i + 1)

theorem NoNullFrom.read_ne (noNull : NoNullFrom s 0) (other : into ≠ some atNull) :
    (s.read into).2 ≠ some atNull := by
  rcases read_cases s into with stopped | ⟨word, opened, next, step⟩
  · rw [stopped]
    exact other
  · rw [step, ← next]
    exact noNull.resolve_left (by simp [opened]) 0

/-- The id that was read last stays in its variable, and the loop goes on. -/
theorem auxvLoop_endless (fuel : Nat) {s : AuxvState} (other : s.id ≠ some atNull)
    (noNull : NoNullFrom s.auxv 1) (map : MapMacroAuxv) : auxvLoop fuel s ≠ .ok map := by
  induction fuel generalizing s with
  | zero => exact fun ok => nomatch ok
  | succ fuel ih =>
    obtain ⟨auxv, id, value, ret⟩ := s
    cases id with
    | none => exact fun ok => nomatch ok
    | some id =>
      have first : NoNullFrom (auxv.read value).1 0 := noNull.read
      have differs : id ≠ atNull := fun null => other (congrArg some null)
      rw [auxvLoop]
      dsimp only
      rw [if_neg differs]
      cases (auxv.read value).2 with
      | none => exact fun ok => nomatch ok
      | some v => exact ih (first.read_ne other) (first.skip.read)

theorem getAuxv_endless {file : Option (List Byte)}
    (noNull : ∀ k, wordAt (file.getD []) (2 * k) ≠ some atNull) (fuel : Nat)
    (map : MapMacroAuxv) : getAuxv fuel file ≠ .ok map := by
  have start : NoNullFrom (InputStream.ofFile file) 0 := by
    refine .inr fun i => ?_
    rw [Nat.zero_add]
    exact noNull i
  have id : ((InputStream.ofFile file).read none).2 ≠ some atNull := start.read_ne nofun
  have rest : NoNullFrom ((InputStream.ofFile file).read none).1 1 := start.skip.read
  exact auxvLoop_endless fuel (s := ⟨_, _, none, fun _ => none⟩) id rest map

/-- An error of the stream is not noticed. -/
theorem auxvLoop_failed {id v : Word} (other : id ≠ atNull) (fuel : Nat) (ret : MapMacroAuxv) :
    auxvLoop fuel ⟨⟨[], true⟩, some id, some v, ret⟩ = .error .stillRunning := by
  induction fuel generalizing ret with
  | zero => rfl
  | succ fuel ih =>
    have stopped : ∀ into, InputStream.read ⟨[], true⟩ into = (⟨[], true⟩, into) := fun into =>
      read_failed (.inl rfl)
    rw [auxvLoop]
    dsimp only
    rw [if_neg other, stopped]
    dsimp only
    rw [stopped]
    exact ih _

end Endless

/-! ### Both -/

section Right

variable {content : List Byte} {k : Nat}

theorem getAuxv_null (first : FirstNull content k) (fuel : Nat) :
    getAuxv fuel (some content) =
      if k < fuel then .ok (mapOf (entriesTo content k)) else .error .stillRunning := by
  have word := wordAt_of_le (Nat.zero_le (2 * k)) first.null
  have loop := auxvLoop_null first fuel (Nat.zero_le k) none
  have start : (InputStream.ofFile (some content)).read none =
      (⟨content.drop 8, false⟩, some (member 8 content (8 * 0))) := read_open word
  have fuels : 0 + fuel = fuel := Nat.zero_add fuel
  rw [word, fuels] at loop
  rw [getAuxv, start]
  exact loop

theorem FirstNull.unique {j : Nat} (one : FirstNull content j) (other : FirstNull content k) :
    j = k := by
  rcases Nat.lt_trichotomy j k with less | same | more
  · exact absurd one.null (other.before j less)
  · exact same
  · exact absurd other.null (one.before k more)

theorem not_wordAt_nil (i : Nat) {word : Word} : wordAt [] i ≠ some word := by
  simp [wordAt]

theorem exists_firstNull (null : ∃ k, wordAt content (2 * k) = some atNull) :
    ∃ k, FirstNull content k := by
  classical
  exact ⟨Nat.find null, Nat.find_spec null, fun i before => Nat.find_min null before⟩

theorem toInt_of_small {id : Word} (small : id.toNat < 2 ^ 31) : toInt id = id.toNat := by
  have kept : (id.setWidth 32).toNat = id.toNat := by
    rw [BitVec.toNat_setWidth]
    omega
  rw [toInt, BitVec.toInt_eq_toNat_of_lt (by omega), kept]

theorem toInt_lt (id : Word) : toInt id < 2 ^ 31 := BitVec.toInt_lt

/-- An `int` has room for the keys that are read exactly if they are below `2 ^ 31`. -/
theorem mapOf_eq_lastValue_iff (entries : List (Word × Word)) :
    (∀ key, mapOf entries key = lastValue entries key) ↔ ∀ e ∈ entries, e.1.toNat < 2 ^ 31 := by
  constructor
  · intro same e member
    by_contra large
    have there : ∃ v, lastValue entries e.1.toNat = some v := by
      have known : (entries.reverse.find? fun x => (x.1.toNat : Int) = e.1.toNat).isSome :=
        List.find?_isSome.2 ⟨e, List.mem_reverse.2 member, decide_eq_true rfl⟩
      obtain ⟨x, found⟩ := Option.isSome_iff_exists.1 known
      exact ⟨x.2, by rw [lastValue, found, Option.map_some]⟩
    obtain ⟨v, there⟩ := there
    rw [← same, mapOf_apply, Option.map_eq_some_iff] at there
    obtain ⟨x, found, _⟩ := there
    have equal : toInt x.1 = e.1.toNat := by simpa using List.find?_some found
    have bound := toInt_lt x.1
    omega
  · intro small key
    rw [mapOf_apply, lastValue]
    refine congrArg (Option.map _) (List.find?_congr fun e member => decide_eq_decide.2 ?_)
    rw [toInt_of_small (small e (List.mem_reverse.1 member))]

/-- `get_auxv` ends with the right map exactly if the file has an `AT_NULL` and no key before it
is too large for an `int`. -/
theorem auxvRight_iff (file : Option (List Byte)) : AuxvRight file ↔
    ∃ k, FirstNull (file.getD []) k ∧ ∀ e ∈ entriesTo (file.getD []) k, e.1.toNat < 2 ^ 31 := by
  constructor
  · rintro ⟨fuel, map, run, right⟩
    have null : ∃ k, wordAt (file.getD []) (2 * k) = some atNull := by
      by_contra absent
      exact getAuxv_endless (fun k null => absent ⟨k, null⟩) fuel map run
    obtain ⟨k, first⟩ := exists_firstNull null
    refine ⟨k, first, (mapOf_eq_lastValue_iff _).1 fun key => ?_⟩
    cases file with
    | none => exact absurd first.null (not_wordAt_nil _)
    | some content =>
      have here : FirstNull content k := first
      rw [getAuxv_null here] at run
      split at run
      · cases run
        exact right k first key
      · cases run
  · rintro ⟨k, first, small⟩
    cases file with
    | none => exact absurd first.null (not_wordAt_nil _)
    | some content =>
      refine ⟨k + 1, mapOf (entriesTo content k), ?_, fun j other key => ?_⟩
      · have here : FirstNull content k := first
        rw [getAuxv_null here, if_pos (Nat.lt_succ_self k)]
      · rw [other.unique first]
        exact (mapOf_eq_lastValue_iff _).2 small key

end Right

/-- `AT_PAGESZ`, and then the end of the file. -/
def pageSizeOnly : List Byte := [6, 0, 0, 0, 0, 0, 0, 0, 0, 0x10, 0, 0, 0, 0, 0, 0]

/-- The loop goes on for ever after the one entry, and an empty file leaves the id unset. -/
theorem not_auxvRight :
    (∀ fuel, getAuxv fuel (some pageSizeOnly) = .error .stillRunning) ∧
      ¬ AuxvRight (some pageSizeOnly) ∧ ¬ AuxvRight (some []) := by
  have endless : ∀ fuel, getAuxv fuel (some pageSizeOnly) = .error .stillRunning := by
    intro fuel
    cases fuel with
    | zero => rfl
    | succ fuel =>
      have set : (6 : Word) ≠ atNull := by decide
      exact auxvLoop_failed set fuel _
  refine ⟨endless, ?_, ?_⟩
  · rintro ⟨fuel, map, run, _⟩
    rw [endless] at run
    cases run
  · rintro ⟨fuel, map, run, _⟩
    cases fuel with
    | zero => cases run
    | succ fuel => cases run

end SdbDebugger
