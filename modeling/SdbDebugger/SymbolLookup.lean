import SdbDebugger.ElfLoad
import SdbDebugger.Library.Exceptions

/-! Symbols by their addresses. What `build_symbol_maps` keeps of a start is the first symbol
there, and the search for the symbol around an address looks at one start, the nearest below. -/

namespace SdbDebugger
open Exceptions

/-- What `build_symbol_maps` enters into `symbol_addr_map_`. -/
def Elf64Sym.addressable (symbol : Elf64Sym) : Bool :=
  symbol.stValue ≠ 0 ∧ symbol.stName ≠ 0 ∧ elf64StType symbol.stInfo ≠ sttTls

/-- The symbols with an address, in the order of the table. -/
def Elf.addressed (elf : Elf) : List Elf64Sym := elf.symbolTable.filter Elf64Sym.addressable

/-- Of the symbols at or below an address, the first one of the greatest start. -/
structure Nearest (symbols : List Elf64Sym) (address : Word) (symbol : Elf64Sym) : Prop where
  below : symbol.stValue ≤ address
  greatest : ∀ other ∈ symbols, other.stValue ≤ address → other.stValue ≤ symbol.stValue
  first : symbols.find? (fun other => other.stValue = symbol.stValue) = some symbol

/-! ### The map that is built -/

def rangeOf (symbol : Elf64Sym) : Nat × (Word × Elf64Sym) :=
  (symbol.stValue.toNat, symbol.stValue + symbol.stSize, symbol)

section Built

variable {elf unbuilt : Elf} {a : Word} {s : Elf64Sym}

theorem sameStart : (fun s : Elf64Sym => decide (s.stValue.toNat = a.toNat)) =
    fun s => decide (s.stValue = a) :=
  funext fun _ => decide_eq_decide.2 BitVec.toNat_inj

theorem addAddress_eq (symbol : Elf64Sym) (map : OrderedMap Nat (Word × Elf64Sym)) :
    Elf.addAddress symbol map =
      if symbol.addressable then map.insert (rangeOf symbol).1 (rangeOf symbol).2 else map := by
  simp only [Elf.addAddress, Elf64Sym.addressable, decide_eq_true_eq]
  rfl

theorem addSymbols_eq {symbols : List Elf64Sym} {map map' : OrderedMap Nat (Word × Elf64Sym)}
    (added : elf.addSymbols symbols map = .ok map') :
    map' = map.insertAll ((symbols.filter Elf64Sym.addressable).map rangeOf) := by
  induction symbols generalizing map with
  | nil => exact (Except.ok.inj added).symm
  | cons symbol rest ih =>
    obtain ⟨_, _, later⟩ := bind_eq_ok.1 added
    have kept := ih later
    rw [addAddress_eq] at kept
    rw [List.filter_cons]
    by_cases entered : symbol.addressable
    · rw [if_pos entered] at kept ⊢
      exact kept
    · rw [if_neg entered] at kept ⊢
      exact kept

theorem symbolAddrMap_eq (built : unbuilt.buildSymbolMaps = .ok elf) :
    elf.symbolAddrMap = OrderedMap.empty.insertAll (elf.addressed.map rangeOf) := by
  obtain ⟨map, added, same⟩ := bind_eq_ok.1 built
  cases same
  exact addSymbols_eq added

/-- The first symbol of a start is the one in the map. -/
theorem symbolAddrMap_find? (built : unbuilt.buildSymbolMaps = .ok elf) (k : Nat) :
    elf.symbolAddrMap.find? k =
      (elf.addressed.find? fun s => s.stValue.toNat = k).map fun s => (rangeOf s).2 := by
  rw [symbolAddrMap_eq built, OrderedMap.find?_insertAll, OrderedMap.find?_empty, Option.none_or,
    List.find?_map, Option.map_map]
  rfl

theorem symbolAddrMap_find?_eq_some (built : unbuilt.buildSymbolMaps = .ok elf) {k : Nat}
    {stop : Word} : elf.symbolAddrMap.find? k = some (stop, s) ↔
      k = s.stValue.toNat ∧ stop = s.stValue + s.stSize ∧
        elf.addressed.find? (fun t => t.stValue = s.stValue) = some s := by
  rw [symbolAddrMap_find? built, Option.map_eq_some_iff]
  constructor
  · rintro ⟨t, found, same⟩
    cases same
    have here : s.stValue.toNat = k := by simpa using List.find?_some found
    rw [← here, sameStart] at found
    exact ⟨here.symm, rfl, found⟩
  · rintro ⟨rfl, rfl, found⟩
    rw [sameStart]
    exact ⟨s, found, rfl⟩

theorem symbolAtFileAddr_eq (built : unbuilt.buildSymbolMaps = .ok elf) :
    elf.symbolAtFileAddr (some a) = elf.addressed.find? fun s => s.stValue = a := by
  rw [Elf.symbolAtFileAddr, symbolAddrMap_find? built, Option.map_map, sameStart]
  exact Option.map_id' ..

/-- A symbol that starts at the address is the nearest one, and the one found. -/
theorem nearest_at : (Nearest elf.addressed a s ∧ s.stValue = a) ↔
    elf.addressed.find? (fun t => t.stValue = a) = some s := by
  constructor
  · rintro ⟨nearest, rfl⟩
    exact nearest.first
  · intro found
    have here : s.stValue = a := by simpa using List.find?_some found
    subst here
    exact ⟨⟨BitVec.le_refl _, fun _ _ below => below, found⟩, rfl⟩

theorem Nearest.mem {symbols : List Elf64Sym} (nearest : Nearest symbols a s) : s ∈ symbols :=
  List.mem_of_find?_eq_some nearest.first

theorem Nearest.unique {symbols : List Elf64Sym} {t : Elf64Sym} (one : Nearest symbols a s)
    (other : Nearest symbols a t) : s = t := by
  have same : s.stValue = t.stValue :=
    BitVec.le_antisymm (other.greatest s one.mem one.below) (one.greatest t other.mem other.below)
  have first := one.first
  rw [same, other.first] at first
  exact (Option.some.inj first).symm

/-- Where no symbol starts at the address, the one before it is the nearest one. -/
theorem before_eq_some (built : unbuilt.buildSymbolMaps = .ok elf) {start : Nat} {stop : Word} :
    (elf.symbolAddrMap.before a.toNat).getLast? = some (start, stop, s) ∧ start < a.toNat ↔
      start = s.stValue.toNat ∧ stop = s.stValue + s.stSize ∧ s.stValue < a ∧
        elf.addressed.find? (fun t => t.stValue = s.stValue) = some s ∧
        ∀ t ∈ elf.addressed, t.stValue < a → t.stValue ≤ s.stValue := by
  rw [OrderedMap.before_getLast?, symbolAddrMap_find?_eq_some built]
  constructor
  · rintro ⟨⟨⟨rfl, rfl, first⟩, below, greatest⟩, _⟩
    refine ⟨rfl, rfl, below, first, fun t member less => ?_⟩
    have known : (elf.addressed.find? fun u => u.stValue = t.stValue).isSome :=
      List.find?_isSome.2 ⟨t, member, decide_eq_true rfl⟩
    obtain ⟨u, found⟩ := Option.isSome_iff_exists.1 known
    have here : u.stValue = t.stValue := by simpa using List.find?_some found
    rw [← here] at found less ⊢
    exact greatest u.stValue.toNat _ ((symbolAddrMap_find?_eq_some built).2 ⟨rfl, rfl, found⟩) less
  · rintro ⟨rfl, rfl, below, first, greatest⟩
    refine ⟨⟨⟨rfl, rfl, first⟩, below, fun y w there less => ?_⟩, below⟩
    have known : elf.symbolAddrMap.find? y = some (w.1, w.2) := there
    obtain ⟨rfl, _, found⟩ := (symbolAddrMap_find?_eq_some built).1 known
    exact greatest w.2 (List.mem_of_find?_eq_some found) less

/-- The last test, on the entry before the one found. -/
theorem stepBack_eq_some {last : Option (Nat × Word × Elf64Sym)} :
    (last.bind fun e => if e.1 < a.toNat ∧ e.2.1 > a then some e.2.2 else none) = some s ↔
      ∃ start stop, last = some (start, stop, s) ∧ start < a.toNat ∧ stop > a := by
  rcases last with _ | ⟨start, stop, symbol⟩
  · simp
  · by_cases inside : start < a.toNat ∧ stop > a
    · simp [inside]
    · simp only [Option.bind_some, if_neg inside, reduceCtorEq, false_iff]
      rintro ⟨_, _, same, low, high⟩
      cases same
      exact inside ⟨low, high⟩

/-- What the search looks at first. -/
theorem onwards_addressed (built : unbuilt.buildSymbolMaps = .ok elf) :
    ((elf.symbolAddrMap.onwards a.toNat).head?.filter fun e => e.1 = a.toNat) =
      (elf.addressed.find? fun s => s.stValue = a).map rangeOf := by
  rw [OrderedMap.onwards_head?, symbolAddrMap_find? built, Option.map_map, sameStart]
  refine Option.map_congr fun t there => ?_
  have here : t.stValue = a := by simpa using List.find?_some there
  subst here
  rfl

/-- A symbol at the address is returned whatever its size is. -/
theorem symbolContaining_at (built : unbuilt.buildSymbolMaps = .ok elf)
    (there : elf.addressed.find? (fun s => s.stValue = a) = some s) :
    elf.symbolContainingFileAddr (some a) = some s := by
  rw [Elf.symbolContainingFileAddr, onwards_addressed built, there]
  rfl

theorem symbolContaining_before (built : unbuilt.buildSymbolMaps = .ok elf)
    (absent : elf.addressed.find? (fun s => s.stValue = a) = none) :
    elf.symbolContainingFileAddr (some a) =
      (elf.symbolAddrMap.before a.toNat).getLast?.bind fun e =>
        if e.1 < a.toNat ∧ e.2.1 > a then some e.2.2 else none := by
  rw [Elf.symbolContainingFileAddr, onwards_addressed built, absent]
  cases (elf.symbolAddrMap.before a.toNat).getLast? <;> rfl

/-- The search takes the nearest symbol, if it starts at the address or spans past it. -/
theorem symbolContainingFileAddr_eq_some (built : unbuilt.buildSymbolMaps = .ok elf) :
    elf.symbolContainingFileAddr (some a) = some s ↔
      Nearest elf.addressed a s ∧ (s.stValue = a ∨ a < s.stValue + s.stSize) := by
  cases there : elf.addressed.find? fun s => s.stValue = a with
  | some t =>
    obtain ⟨nearest, here⟩ := nearest_at.2 there
    rw [symbolContaining_at built there]
    constructor
    · rintro same
      cases same
      exact ⟨nearest, .inl here⟩
    · rintro ⟨other, _⟩
      exact congrArg some (nearest.unique other)
  | none =>
    have absent : ∀ t ∈ elf.addressed, t.stValue ≠ a := fun t member here =>
      List.find?_eq_none.1 there t member (decide_eq_true here)
    have strict : ∀ t ∈ elf.addressed, t.stValue ≤ a ↔ t.stValue < a := fun t member =>
      ⟨fun below => BitVec.lt_of_le_ne below (absent t member), BitVec.le_of_lt⟩
    rw [symbolContaining_before built there, stepBack_eq_some]
    constructor
    · rintro ⟨start, stop, last, low, high⟩
      obtain ⟨_, rfl, below, first, greatest⟩ := (before_eq_some built).1 ⟨last, low⟩
      refine ⟨⟨BitVec.le_of_lt below, fun t member reached => ?_, first⟩, .inr high⟩
      exact greatest t member ((strict t member).1 reached)
    · rintro ⟨nearest, spans⟩
      have below := (strict s nearest.mem).1 nearest.below
      have high := spans.resolve_left (absent s nearest.mem)
      obtain ⟨last, low⟩ := (before_eq_some built).2 ⟨rfl, rfl, below, nearest.first,
        fun t member less => nearest.greatest t member (BitVec.le_of_lt less)⟩
      exact ⟨_, _, last, low, high⟩

end Built

/-! ### The comparisons -/

/-- `file_addr::operator<`. There is one file, so `elf_` is that file or null. -/
def FileAddr.less : FileAddr → FileAddr → Except Fault Bool
  | some x, some y => .ok (x < y)
  | none, none => .ok false
  | _, _ => .error (.terminate "elf_ == other.elf_")

abbrev FileRange := FileAddr × FileAddr

/-- `elf::range_comparator`. -/
def rangeComparator (lhs rhs : FileRange) : Except Fault Bool := FileAddr.less lhs.1 rhs.1

abbrev RangeMap := List (FileRange × Elf64Sym)

/-- `insert`, which leaves an entry that is neither before nor after the new one. -/
def insertRange (key : FileRange) (symbol : Elf64Sym) : RangeMap → Except Fault RangeMap
  | [] => .ok [(key, symbol)]
  | e :: rest => do
    if ← rangeComparator key e.1 then pure ((key, symbol) :: e :: rest)
    else if ← rangeComparator e.1 key then (e :: ·) <$> insertRange key symbol rest
    else pure (e :: rest)

/-- `lower_bound`, as the entries before its result and those from it on. -/
def lowerBound (key : FileRange) : RangeMap → Except Fault (RangeMap × RangeMap)
  | [] => .ok ([], [])
  | e :: rest => do
    if ← rangeComparator e.1 key then
      let found ← lowerBound key rest
      pure (e :: found.1, found.2)
    else pure ([], e :: rest)

def Elf64Sym.range (symbol : Elf64Sym) : FileRange :=
  (some symbol.stValue, some (symbol.stValue + symbol.stSize))

/-- `symbol_addr_map_` as `build_symbol_maps` fills it. -/
def addRanges : List Elf64Sym → RangeMap → Except Fault RangeMap
  | [], map => .ok map
  | symbol :: rest, map => do
    let map ← if symbol.addressable then insertRange symbol.range symbol map else pure map
    addRanges rest map

/-- `get_symbol_at_address`, with `find` as the standard has it. -/
def symbolAt (map : RangeMap) (address : Word) : Except Fault (Option Elf64Sym) := do
  let found ← lowerBound (some address, none) map
  match found.2 with
  | [] => pure none
  | e :: _ => do
    if ← rangeComparator (some address, none) e.1 then pure none
    else pure (some e.2)

/-- `get_symbol_containing_address`. -/
def symbolContaining (map : RangeMap) (address : Word) : Except Fault (Option Elf64Sym) := do
  if map.isEmpty then pure none
  else
    let found ← lowerBound (some address, none) map
    match found.2.head?.filter fun e => e.1.1 = some address with
    | some e => pure (some e.2)
    | none =>
      match found.1.getLast? with
      | none => pure none
      | some e => do
        if ← FileAddr.less e.1.1 (some address) then
          if ← FileAddr.less (some address) e.1.2 then pure (some e.2) else pure none
        else pure none

/-- The keys that are compared: those of the symbols, and the one that is looked up. -/
def comparedKeys (elf : Elf) (address : Word) : List FileRange :=
  (some address, none) :: elf.addressed.map Elf64Sym.range

section Compared

variable {elf unbuilt : Elf} {a : Word} {s : Elf64Sym}

theorem rangeComparator_compared {k l : FileRange} (left : k ∈ comparedKeys elf a)
    (right : l ∈ comparedKeys elf a) :
    ∃ x y, k.1 = some x ∧ l.1 = some y ∧ rangeComparator k l = .ok (decide (x < y)) := by
  have known : ∀ key ∈ comparedKeys elf a, ∃ x, key.1 = some x := by
    intro key member
    rcases List.mem_cons.1 member with rfl | member
    · exact ⟨a, rfl⟩
    · obtain ⟨s, _, rfl⟩ := List.mem_map.1 member
      exact ⟨s.stValue, rfl⟩
  obtain ⟨x, first⟩ := known k left
  obtain ⟨y, second⟩ := known l right
  refine ⟨x, y, first, second, ?_⟩
  rw [rangeComparator, first, second]
  rfl

def rangeEntry (symbol : Elf64Sym) : FileRange × Elf64Sym := (symbol.range, symbol)

theorem insertRange_cons (s head : Elf64Sym) (rest : RangeMap) :
    insertRange s.range s (rangeEntry head :: rest) =
      if s.stValue < head.stValue then .ok (rangeEntry s :: rangeEntry head :: rest)
      else if head.stValue < s.stValue then
        (rangeEntry head :: ·) <$> insertRange s.range s rest
      else .ok (rangeEntry head :: rest) := by
  have start : rangeComparator s.range (rangeEntry head).1 =
      .ok (decide (s.stValue < head.stValue)) := rfl
  have stop : rangeComparator (rangeEntry head).1 s.range =
      .ok (decide (head.stValue < s.stValue)) := rfl
  rw [insertRange, start, stop]
  by_cases before : s.stValue < head.stValue
  · rw [decide_eq_true before, if_pos before]
    rfl
  rw [decide_eq_false before, if_neg before]
  by_cases after : head.stValue < s.stValue
  · rw [decide_eq_true after, if_pos after]
    rfl
  · rw [decide_eq_false after, if_neg after]
    rfl

/-- Both maps are images of one list of symbols, and stay so. -/
theorem insertRange_eq (s : Elf64Sym) (l : List Elf64Sym) : ∃ l' : List Elf64Sym,
    insertRange s.range s (l.map rangeEntry) = .ok (l'.map rangeEntry) ∧
      OrderedMap.insertEntry (rangeOf s).1 (rangeOf s).2 (l.map rangeOf) = l'.map rangeOf := by
  induction l with
  | nil => exact ⟨[s], rfl, rfl⟩
  | cons head rest ih =>
    rw [List.map_cons, List.map_cons, insertRange_cons, OrderedMap.insertEntry]
    by_cases before : s.stValue < head.stValue
    · exact ⟨s :: head :: rest, if_pos before, if_pos before⟩
    by_cases after : head.stValue < s.stValue
    · obtain ⟨l', inserted, entered⟩ := ih
      refine ⟨head :: l', ?_, ?_⟩
      · rw [if_neg before, if_pos after, inserted]
        rfl
      · rw [entered]
        exact (if_neg before).trans (if_pos after)
    · exact ⟨head :: rest, (if_neg before).trans (if_neg after),
        (if_neg before).trans (if_neg after)⟩

/-- The assertion holds all through the loop, and the map is the one without it. -/
theorem addRanges_eq (symbols l : List Elf64Sym) (map : OrderedMap Nat (Word × Elf64Sym))
    (same : map.entries = l.map rangeOf) : ∃ l' : List Elf64Sym,
    addRanges symbols (l.map rangeEntry) = .ok (l'.map rangeEntry) ∧
      (map.insertAll ((symbols.filter Elf64Sym.addressable).map rangeOf)).entries =
        l'.map rangeOf := by
  induction symbols generalizing l map with
  | nil => exact ⟨l, rfl, same⟩
  | cons symbol rest ih =>
    rw [addRanges, List.filter_cons]
    by_cases entered : symbol.addressable
    · obtain ⟨l', inserted, kept⟩ := insertRange_eq symbol l
      rw [if_pos entered, if_pos entered, inserted]
      refine ih l' (map.insert (rangeOf symbol).1 (rangeOf symbol).2) ?_
      rw [← kept, ← same]
      rfl
    · rw [if_neg entered, if_neg entered]
      exact ih l map same

theorem lowerBound_eq (a : Word) (l : List Elf64Sym) :
    lowerBound (some a, none) (l.map rangeEntry) =
      .ok ((l.takeWhile fun s => s.stValue < a).map rangeEntry,
        (l.dropWhile fun s => s.stValue < a).map rangeEntry) := by
  induction l with
  | nil => rfl
  | cons head rest ih =>
    have compared : rangeComparator (rangeEntry head).1 (some a, none) =
        .ok (decide (head.stValue < a)) := rfl
    rw [List.map_cons, lowerBound, compared, ih]
    by_cases below : head.stValue < a
    · rw [List.takeWhile_cons, List.dropWhile_cons, decide_eq_true below]
      rfl
    · rw [List.takeWhile_cons, List.dropWhile_cons, decide_eq_false below]
      rfl

/-- The two comparisons with the entry before. -/
theorem spanTest_eq (s : Elf64Sym) (a : Word) :
    (FileAddr.less (rangeEntry s).1.1 (some a) >>= fun starts =>
      if starts then
        FileAddr.less (some a) (rangeEntry s).1.2 >>= fun spans =>
          if spans then pure (some s) else pure none
      else pure none) =
    .ok (if (rangeOf s).1 < a.toNat ∧ (rangeOf s).2.1 > a then some s else none) := by
  have starts : FileAddr.less (rangeEntry s).1.1 (some a) = .ok (decide (s.stValue < a)) := rfl
  have spans : FileAddr.less (some a) (rangeEntry s).1.2 =
      .ok (decide (a < s.stValue + s.stSize)) := rfl
  rw [starts, spans]
  by_cases low : s.stValue < a
  · rw [decide_eq_true low]
    by_cases high : a < s.stValue + s.stSize
    · rw [decide_eq_true high, if_pos ⟨low, high⟩]
      rfl
    · rw [decide_eq_false high, if_neg fun h => high h.2]
      rfl
  · rw [decide_eq_false low, if_neg fun h => low h.1]
    rfl

section Lookups

variable {l : List Elf64Sym} (same : elf.symbolAddrMap.entries = l.map rangeOf)
include same

theorem onwards_eq : elf.symbolAddrMap.onwards a.toNat =
    (l.dropWhile fun s => s.stValue < a).map rangeOf := by
  rw [OrderedMap.onwards, same, List.dropWhile_map]
  rfl

theorem before_eq : elf.symbolAddrMap.before a.toNat =
    (l.takeWhile fun s => s.stValue < a).map rangeOf := by
  rw [OrderedMap.before, same, List.takeWhile_map]
  rfl

theorem onwards_head_eq :
    ((elf.symbolAddrMap.onwards a.toNat).head?.filter fun e => e.1 = a.toNat) =
      ((l.dropWhile fun s => s.stValue < a).head?.filter fun s => s.stValue = a).map rangeOf := by
  rw [onwards_eq same, List.head?_map, Option.filter_map, ← sameStart]
  rfl

theorem symbolAt_eq : symbolAt (l.map rangeEntry) a = .ok (elf.symbolAtFileAddr (some a)) := by
  have found : elf.symbolAtFileAddr (some a) =
      (l.dropWhile fun s => s.stValue < a).head?.filter fun s => s.stValue = a := by
    have head := congrArg (Option.map fun e => e.2.2) (onwards_head_eq (a := a) same)
    rw [OrderedMap.onwards_head?, Option.map_map, Option.map_map] at head
    exact head.trans (Option.map_id' ..)
  rw [symbolAt, lowerBound_eq, found]
  have reached := List.head?_dropWhile_not (fun s : Elf64Sym => decide (s.stValue < a)) l
  cases rest : l.dropWhile fun s => s.stValue < a with
  | nil => rfl
  | cons head tail =>
    rw [rest] at reached
    have notBelow : ¬ head.stValue < a := of_decide_eq_false reached
    have compared : rangeComparator (some a, none) head.range =
        .ok (decide (a < head.stValue)) := rfl
    change (rangeComparator (some a, none) head.range >>= fun above =>
      if above then pure none else pure (some head)) = .ok (Option.filter _ (some head))
    rw [compared, Option.filter_some]
    by_cases here : head.stValue = a
    · rw [decide_eq_true here, decide_eq_false (here ▸ BitVec.lt_irrefl a)]
      rfl
    · have above : a < head.stValue :=
        BitVec.lt_of_le_ne (BitVec.not_lt.1 notBelow) (Ne.symm here)
      rw [decide_eq_false here, decide_eq_true above]
      rfl

theorem symbolContaining_eq :
    symbolContaining (l.map rangeEntry) a = .ok (elf.symbolContainingFileAddr (some a)) := by
  rw [Elf.symbolContainingFileAddr, onwards_head_eq same, before_eq same, List.getLast?_map]
  cases l with
  | nil => rfl
  | cons first rest =>
    have nonempty : ¬ ((first :: rest).map rangeEntry).isEmpty = true := Bool.false_ne_true
    rw [symbolContaining, if_neg nonempty, lowerBound_eq]
    generalize (first :: rest).takeWhile (fun s => decide (s.stValue < a)) = below
    generalize (first :: rest).dropWhile (fun s => decide (s.stValue < a)) = reached
    have starts : ((reached.map rangeEntry).head?.filter fun e => e.1.1 = some a) =
        (reached.head?.filter fun s => s.stValue = a).map rangeEntry := by
      rw [List.head?_map, Option.filter_map]
      refine congrArg (fun p => Option.map rangeEntry (Option.filter p _)) (funext fun s => ?_)
      exact decide_eq_decide.2 Option.some_inj
    dsimp only [bind, Except.bind]
    rw [starts, List.getLast?_map]
    cases reached.head?.filter fun s => s.stValue = a with
    | some s => rfl
    | none =>
      cases below.getLast? with
      | none => rfl
      | some s => exact spanTest_eq s a

end Lookups

end Compared

/-- What the two lookups return, at every address of the file, and that no comparison they or
the map make, in whatever order, violates the assertion of `file_addr::operator<`. -/
theorem symbolLookup_spec {unbuilt elf : Elf} (built : unbuilt.buildSymbolMaps = .ok elf)
    (a : Word) :
    elf.symbolAtFileAddr (some a) = elf.addressed.find? (fun s => s.stValue = a) ∧
    (∀ s, elf.symbolContainingFileAddr (some a) = some s ↔
      Nearest elf.addressed a s ∧ (s.stValue = a ∨ a < s.stValue + s.stSize)) ∧
    (∀ s, elf.symbolAtFileAddr (some a) = some s →
      elf.symbolContainingFileAddr (some a) = some s) ∧
    (∀ s, elf.symbolAtFileAddr (some a) = some s ∨
      elf.symbolContainingFileAddr (some a) = some s → s.stValue ≤ a) ∧
    (∃ map, addRanges elf.symbolTable [] = .ok map ∧
      symbolAt map a = .ok (elf.symbolAtFileAddr (some a)) ∧
      symbolContaining map a = .ok (elf.symbolContainingFileAddr (some a))) ∧
    ∀ k ∈ comparedKeys elf a, ∀ l ∈ comparedKeys elf a, ∃ less, rangeComparator k l = .ok less := by
  have startsAt : ∀ s, elf.symbolAtFileAddr (some a) = some s ↔
      Nearest elf.addressed a s ∧ s.stValue = a := fun s => by
    rw [symbolAtFileAddr_eq built]
    exact nearest_at.symm
  have containing := fun s => symbolContainingFileAddr_eq_some (a := a) (s := s) built
  refine ⟨symbolAtFileAddr_eq built, containing, fun s found => ?_, fun s found => ?_, ?_,
    fun k left l right => ?_⟩
  · obtain ⟨nearest, here⟩ := (startsAt s).1 found
    exact (containing s).2 ⟨nearest, .inl here⟩
  · rcases found with found | found
    · exact ((startsAt s).1 found).1.below
    · exact ((containing s).1 found).1.below
  · obtain ⟨l, ranges, entries⟩ := addRanges_eq elf.symbolTable [] .empty rfl
    have same : elf.symbolAddrMap.entries = l.map rangeOf := by
      rw [symbolAddrMap_eq built]
      exact entries
    exact ⟨l.map rangeEntry, ranges, symbolAt_eq same, symbolContaining_eq same⟩
  · obtain ⟨x, y, _, _, compared⟩ := rangeComparator_compared left right
    exact ⟨_, compared⟩

/-- A string table of one name, at the start of the file. -/
def nameSection : Elf64Shdr := ⟨0, 3, 0, 0, 0, 3, 0, 0⟩

/-- A file of two functions, in this order. -/
def twoSymbols (first second : Elf64Sym) : Elf where
  data := [0, 0x66, 0]
  header := ⟨0, 0, 64, 1, 0⟩
  sectionHeaders := [nameSection]
  sectionMap := [(".strtab".toList, nameSection)]
  loadBias := 0
  symbolTable := [first, second]
  symbolAddrMap := .empty

def function (value size : Word) : Elf64Sym := ⟨1, 0x12, value, size⟩

def twoFunctions : Elf := twoSymbols (function 0x1000 0x10) (function 0x1010 4)

theorem symbolLookup_spec_twoFunctions : ∃ elf, twoFunctions.buildSymbolMaps = .ok elf ∧
    elf.symbolAtFileAddr (some 0x1010) = some (function 0x1010 4) ∧
    elf.symbolContainingFileAddr (some 0x1010) = some (function 0x1010 4) :=
  have spec := @symbolLookup_spec twoFunctions _ rfl 0x1010
  ⟨_, rfl, spec.1, spec.2.2.1 _ spec.1⟩

/-! ### Symbols around an address -/

/-- The address is in the symbol's range, which does not wrap around. -/
def Elf64Sym.Contains (s : Elf64Sym) (a : Word) : Prop :=
  s.stValue.toNat ≤ a.toNat ∧ a.toNat < s.stValue.toNat + s.stSize.toNat ∧
    s.stValue.toNat + s.stSize.toNat < 2 ^ 64

instance Elf64Sym.decidableContains (s : Elf64Sym) (a : Word) : Decidable (s.Contains a) :=
  inferInstanceAs (Decidable (_ ∧ _))

/-- If any symbol contains the address, the search returns one that does. -/
def FindsContaining (elf : Elf) (a : Word) : Prop :=
  (∃ s ∈ elf.addressed, s.Contains a) →
    ∃ t, elf.symbolContainingFileAddr (some a) = some t ∧ t.Contains a

theorem Elf64Sym.Contains.spans {s : Elf64Sym} {a : Word} (inside : s.Contains a) :
    a < s.stValue + s.stSize := by
  obtain ⟨low, high, noWrap⟩ := inside
  rw [BitVec.lt_def, BitVec.toNat_add, Nat.mod_eq_of_lt noWrap]
  exact high

/-- The search can only find the nearest symbol. -/
theorem findsContaining_iff {unbuilt elf : Elf} (built : unbuilt.buildSymbolMaps = .ok elf)
    (a : Word) : FindsContaining elf a ↔
      ((∃ s ∈ elf.addressed, s.Contains a) →
        ∃ t, Nearest elf.addressed a t ∧ t.Contains a) := by
  refine imp_congr_right fun _ => exists_congr fun t => ?_
  rw [symbolContainingFileAddr_eq_some built, and_assoc]
  exact and_congr_right fun _ => and_iff_right_of_imp fun inside => .inr inside.spans

/-- Different symbols start at different addresses, and none reaches into another one. -/
def Apart (symbols : List Elf64Sym) : Prop :=
  ∀ s ∈ symbols, ∀ t ∈ symbols, s ≠ t → s.stValue ≠ t.stValue ∧
    (s.stValue.toNat + s.stSize.toNat ≤ t.stValue.toNat ∨
      t.stValue.toNat + t.stSize.toNat ≤ s.stValue.toNat)

instance (symbols : List Elf64Sym) : Decidable (Apart symbols) :=
  inferInstanceAs (Decidable (∀ s ∈ symbols, ∀ t ∈ symbols, _))

theorem Apart.nearest {symbols : List Elf64Sym} (apart : Apart symbols) {s : Elf64Sym}
    (member : s ∈ symbols) {a : Word} (inside : s.Contains a) : Nearest symbols a s where
  below := inside.1
  greatest t there reached := by
    by_cases same : s = t
    · exact same ▸ BitVec.le_refl _
    have disjoint := (apart s member t there same).2
    have low : t.stValue.toNat ≤ a.toNat := reached
    have high := inside.2.1
    rw [BitVec.le_def]
    omega
  first := by
    have known : (symbols.find? fun t => t.stValue = s.stValue).isSome :=
      List.find?_isSome.2 ⟨s, member, decide_eq_true rfl⟩
    obtain ⟨t, found⟩ := Option.isSome_iff_exists.1 known
    have here : t.stValue = s.stValue := by simpa using List.find?_some found
    have same : s = t := by
      by_contra other
      exact (apart s member t (List.mem_of_find?_eq_some found) other).1 here.symm
    exact same ▸ found

/-- Symbols as a compiler lays them out are all found. -/
theorem findsContaining_iff_twoFunctions : ∃ elf, twoFunctions.buildSymbolMaps = .ok elf ∧
    Apart elf.addressed ∧ ∀ a, FindsContaining elf a := by
  obtain ⟨elf, built, apart⟩ : ∃ elf, twoFunctions.buildSymbolMaps = .ok elf ∧
      Apart elf.addressed := ⟨_, rfl, by decide⟩
  refine ⟨elf, built, apart, fun a => (findsContaining_iff built a).2 ?_⟩
  rintro ⟨s, member, inside⟩
  exact ⟨s, apart.nearest member inside, inside⟩

/-- A symbol inside of another one hides its rest, and a label that comes first hides all of it. -/
theorem not_findsContaining :
    (∃ elf, (twoSymbols (function 0x1000 0x100) (function 0x1010 4)).buildSymbolMaps = .ok elf ∧
      ¬ FindsContaining elf 0x1050) ∧
    ∃ elf, (twoSymbols (function 0x1000 0) (function 0x1000 0x100)).buildSymbolMaps = .ok elf ∧
      ¬ FindsContaining elf 0x1004 := by
  refine ⟨⟨_, rfl, fun finds => ?_⟩, ⟨_, rfl, fun finds => ?_⟩⟩
  · obtain ⟨t, found, _⟩ := finds ⟨function 0x1000 0x100, by decide, by decide⟩
    cases found
  · obtain ⟨t, found, _⟩ := finds ⟨function 0x1000 0x100, by decide, by decide⟩
    cases found

end SdbDebugger
