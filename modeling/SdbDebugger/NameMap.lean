import SdbDebugger.Library.BlockHeap
import SdbDebugger.ElfContents
import SdbDebugger.SymbolLookup

/-! `symbol_name_map_`. Its keys are views: of a symbol's name into the mapped file, of the
demangled name into a buffer that is freed when the key has been inserted. -/

namespace SdbDebugger
open Exceptions BlockHeap

abbrev Heap := BlockHeap Char

/-- `abi::__cxa_demangle`, where it succeeds; its results are C strings. -/
structure Demangler where
  run : Text → Option Text
  terminated : ∀ name text, run name = some text → nul ∉ text

/-- The allocator, and what the rest of the process does to the heap. -/
structure Environment where
  block : Heap → Nat
  fresh : ∀ heap, block heap ∉ heap.live
  run : Heap → Heap
  later : ∀ heap, Later heap (run heap)

/-- The block of the mapping. -/
def mapping : Nat := 0

def fileText (data : List Byte) : Text := data.map fun b => Char.ofNat b.toNat

/-- The file is mapped, as it is while the object exists. -/
def Mapped (elf : Elf) (heap : Heap) : Prop :=
  mapping ∈ heap.live ∧ heap.contents mapping = fileText elf.data

/-- An entry of the map, with what its key read as when it was inserted. -/
structure NameEntry where
  key : View
  inserted : Text
  symbol : Elf64Sym

def strlen (text : Text) : Nat := (text.takeWhile fun c => c ≠ nul).length

namespace Elf

variable (elf : Elf) (demangler : Demangler) (env : Environment)

/-- `get_string`, as the view that it returns. -/
def getStringView (index : Nat) : Except Fault View :=
  match elf.stringTable with
  | none => .ok ⟨mapping, 0, 0⟩
  | some strtab =>
    (fun text => ⟨mapping, strtab.shOffset.toNat + index, text.length⟩) <$>
      cString (elf.data.drop (strtab.shOffset.toNat + index))

/-- The insertion of the demangled name, and the release of its buffer. -/
def insertDemangled (symbol : Elf64Sym) (name : Text) (heap : Heap) : Heap × List NameEntry :=
  match demangler.run name with
  | none => (heap, [])
  | some demangled =>
    let block := env.block heap
    let heap := heap.allocate block (demangled ++ [nul])
    let key : View := ⟨block, 0, strlen (heap.contents block)⟩
    ((env.run heap).release block, [⟨key, heap.read key, symbol⟩])

/-- The part of the loop of `build_symbol_maps` about names. -/
def addNames : List Elf64Sym → Heap → Except Fault (Heap × List NameEntry)
  | [], heap => .ok (heap, [])
  | symbol :: symbols, heap => do
    let key ← elf.getStringView symbol.stName.toNat
    let (heap, demangled) := insertDemangled demangler env symbol (heap.read key) heap
    let (heap', entries) ← addNames symbols (env.run heap)
    pure (heap', demangled ++ ⟨key, heap.read key, symbol⟩ :: entries)

end Elf

/-- `get_symbols_by_name`. An entry is in the bucket of the name it was inserted under, and is
compared by what its key reads as. -/
def getSymbolsByName (hash : Text → Nat) (heap : Heap) (entries : List NameEntry) (name : Text) :
    List Elf64Sym :=
  (entries.filter fun e => hash e.inserted = hash name ∧ heap.read e.key = name).map (·.symbol)

/-! ### What the map is for -/

def Elf.nameOf (elf : Elf) (symbol : Elf64Sym) : Option Text :=
  (elf.getString symbol.stName.toNat).toOption

def Elf.demangledOf (elf : Elf) (demangler : Demangler) (symbol : Elf64Sym) : Option Text :=
  (elf.nameOf symbol).bind demangler.run

/-- What is inserted for one symbol, the demangled name first. -/
def Elf.namePairs (elf : Elf) (demangler : Demangler) (symbol : Elf64Sym) : List (Text × Elf64Sym) :=
  (elf.demangledOf demangler symbol).toList.map (·, symbol) ++
    (elf.nameOf symbol).toList.map (·, symbol)

/-- Whatever the process does, every key reads as what it was inserted under, and a name finds
the symbols of that name and of that demangled name. -/
def FindsNames (elf : Elf) (demangler : Demangler) : Prop :=
  ∀ (env : Environment) (hash : Text → Nat) (heap : Heap), Mapped elf heap →
    ∃ built entries, elf.addNames demangler env elf.symbolTable heap = .ok (built, entries) ∧
      ∀ later, Later built later →
        (∀ e ∈ entries, later.read e.key = e.inserted) ∧
        ∀ name, (getSymbolsByName hash later entries name).Perm
          ((elf.symbolTable.filter fun s => elf.demangledOf demangler s = some name) ++
            elf.symbolTable.filter fun s => elf.nameOf s = some name)

section Loop

variable {elf : Elf} {heap heap' : Heap} (demangler : Demangler) (env : Environment)

theorem Mapped.later (mapped : Mapped elf heap) (later : Later heap heap') : Mapped elf heap' := by
  obtain ⟨live, same⟩ := later mapping mapped.1
  exact ⟨live, same.trans mapped.2⟩

theorem fileText_take (data : List Byte) (start : Nat) :
    ((fileText data).drop start).take (textFrom (data.drop start)).length =
      textFrom (data.drop start) := by
  rw [fileText, ← List.map_drop, ← List.map_take, textFrom, List.length_map]
  exact congrArg (List.map _) (List.prefix_iff_eq_take.1 (List.takeWhile_prefix _)).symm

/-- The view of a name reads as the name, as long as the file is mapped. -/
theorem getStringView_of_ok {index : Nat} {name : Text} (read : elf.getString index = .ok name) :
    ∃ key, elf.getStringView index = .ok key ∧ ∀ heap, Mapped elf heap → heap.read key = name := by
  unfold Elf.getString at read
  unfold Elf.getStringView
  cases table : elf.stringTable with
  | none =>
    rw [table] at read
    cases read
    exact ⟨_, rfl, fun _ _ => List.take_zero⟩
  | some strtab =>
    rw [table] at read
    have text := (cString_eq_ok.1 read).2
    refine ⟨_, map_eq_ok.2 ⟨name, read, rfl⟩, fun heap mapped => ?_⟩
    rw [BlockHeap.read, mapped.2, text]
    exact fileText_take elf.data _

theorem strlen_cString {text : Text} (terminated : nul ∉ text) :
    strlen (text ++ [nul]) = text.length := by
  have whole : (text ++ [nul]).takeWhile (fun c => c ≠ nul) = text := by
    rw [List.takeWhile_append_of_pos, List.takeWhile_cons_of_neg (by simp), List.append_nil]
    exact fun c member => decide_eq_true fun same => terminated (same ▸ member)
  rw [strlen, whole]

/-- The entry of a demangled name is in a block that is not live any more. -/
structure Dangling (heap : Heap) (symbol : Elf64Sym) (text : Text) (e : NameEntry) : Prop where
  inserted : e.inserted = text
  symbol : e.symbol = symbol
  length : e.key.length = text.length
  fresh : e.key.block ∉ heap.live

theorem insertDemangled_none {symbol : Elf64Sym} {name : Text} (failed : demangler.run name = none) :
    Elf.insertDemangled demangler env symbol name heap = (heap, []) := by
  rw [Elf.insertDemangled, failed]

theorem insertDemangled_some (heap : Heap) (symbol : Elf64Sym) {name text : Text}
    (demangled : demangler.run name = some text) :
    ∃ e, Dangling heap symbol text e ∧
      Elf.insertDemangled demangler env symbol name heap =
        ((env.run (heap.allocate (env.block heap) (text ++ [nul]))).release (env.block heap), [e]) := by
  rw [Elf.insertDemangled, demangled]
  have held : (heap.allocate (env.block heap) (text ++ [nul])).contents (env.block heap) =
      text ++ [nul] := Function.update_self ..
  have length := strlen_cString (demangler.terminated name text demangled)
  refine ⟨_, ⟨?_, rfl, ?_, env.fresh heap⟩, rfl⟩
  · rw [BlockHeap.read, held, length]
    exact List.take_left
  · rw [held]
    exact length

theorem later_insertDemangled (heap : Heap) (symbol : Elf64Sym) (name : Text) :
    Later heap (Elf.insertDemangled demangler env symbol name heap).1 := by
  cases result : demangler.run name with
  | none =>
    rw [insertDemangled_none demangler env result]
    exact .refl heap
  | some text =>
    obtain ⟨e, _, step⟩ := insertDemangled_some demangler env heap symbol result
    rw [step]
    exact Later.release (env.fresh heap) (env.later _)

theorem insertDemangled_entries (heap : Heap) (symbol : Elf64Sym) (name : Text) :
    (Elf.insertDemangled demangler env symbol name heap).2.map (fun e => (e.inserted, e.symbol)) =
        (demangler.run name).toList.map (·, symbol) ∧
      ∀ e ∈ (Elf.insertDemangled demangler env symbol name heap).2, ∃ text,
        demangler.run name = some text ∧ Dangling heap symbol text e := by
  cases result : demangler.run name with
  | none =>
    rw [insertDemangled_none demangler env result]
    exact ⟨rfl, fun e member => absurd member List.not_mem_nil⟩
  | some text =>
    obtain ⟨e, dangling, step⟩ := insertDemangled_some demangler env heap symbol result
    rw [step]
    refine ⟨?_, fun e' member => ⟨text, rfl, List.mem_singleton.1 member ▸ dangling⟩⟩
    rw [List.map_singleton, dangling.inserted, dangling.symbol]
    rfl

/-- One round of the loop. -/
theorem addNames_cons {symbol : Elf64Sym} {name : Text} (mapped : Mapped elf heap)
    (read : elf.getString symbol.stName.toNat = .ok name) (symbols : List Elf64Sym) :
    ∃ key, (∀ heap, Mapped elf heap → heap.read key = name) ∧
      elf.addNames demangler env (symbol :: symbols) heap =
        (fun rest => (rest.1, (Elf.insertDemangled demangler env symbol name heap).2 ++
          ⟨key, name, symbol⟩ :: rest.2)) <$>
        elf.addNames demangler env symbols
          (env.run (Elf.insertDemangled demangler env symbol name heap).1) := by
  obtain ⟨key, viewed, reads⟩ := getStringView_of_ok read
  refine ⟨key, reads, ?_⟩
  have after := reads _ (mapped.later
    (later_insertDemangled demangler env heap symbol name))
  have step : elf.addNames demangler env (symbol :: symbols) heap =
      (elf.addNames demangler env symbols
        (env.run (Elf.insertDemangled demangler env symbol (heap.read key) heap).1) >>= fun rest =>
          pure (rest.1, (Elf.insertDemangled demangler env symbol (heap.read key) heap).2 ++
            ⟨key, (Elf.insertDemangled demangler env symbol (heap.read key) heap).1.read key,
              symbol⟩ :: rest.2)) := by
    rw [Elf.addNames, viewed]
    rfl
  rw [step, reads heap mapped, after]
  cases elf.addNames demangler env symbols
    (env.run (Elf.insertDemangled demangler env symbol name heap).1) <;> rfl

theorem nameOf_of_ok {symbol : Elf64Sym} {name : Text}
    (read : elf.getString symbol.stName.toNat = .ok name) :
    elf.nameOf symbol = some name ∧ elf.demangledOf demangler symbol = demangler.run name := by
  have named : elf.nameOf symbol = some name := by
    rw [Elf.nameOf, read]
    rfl
  exact ⟨named, by rw [Elf.demangledOf, named, Option.bind_some]⟩

/-- The whole loop: what is inserted, and that only the key of a demangled name can change. -/
theorem addNames_spec (symbols : List Elf64Sym) (mapped : Mapped elf heap)
    (readable : ∀ s ∈ symbols, ∃ name, elf.getString s.stName.toNat = .ok name) :
    ∃ built entries, elf.addNames demangler env symbols heap = .ok (built, entries) ∧
      Mapped elf built ∧
      entries.map (fun e => (e.inserted, e.symbol)) = symbols.flatMap (elf.namePairs demangler) ∧
      ∀ e ∈ entries, (∀ heap, Mapped elf heap → heap.read e.key = e.inserted) ∨
        ∃ s ∈ symbols, elf.demangledOf demangler s = some e.inserted ∧
          e.key.length = e.inserted.length := by
  induction symbols generalizing heap with
  | nil => exact ⟨heap, [], rfl, mapped, rfl, fun e member => absurd member List.not_mem_nil⟩
  | cons symbol symbols ih =>
    obtain ⟨⟨name, read⟩, readable⟩ := List.forall_mem_cons.1 readable
    obtain ⟨key, reads, step⟩ := addNames_cons demangler env mapped read symbols
    have later := (later_insertDemangled demangler env heap symbol name).trans (env.later _)
    obtain ⟨built, entries, run, mapped', pairs, stable⟩ := ih (mapped.later later) readable
    obtain ⟨named, demangled⟩ := nameOf_of_ok demangler read
    obtain ⟨first, dangling⟩ := insertDemangled_entries demangler env heap symbol name
    rw [run] at step
    refine ⟨_, _, step, mapped', ?_, fun e member => ?_⟩
    · rw [List.map_append, List.map_cons, first, pairs, List.flatMap_cons, Elf.namePairs, named,
        demangled, List.append_assoc]
      rfl
    · rcases List.mem_append.1 member with here | member
      · obtain ⟨text, result, entry⟩ := dangling e here
        refine .inr ⟨symbol, List.mem_cons_self, ?_, ?_⟩
        · rw [demangled, result, entry.inserted]
        · rw [entry.length, entry.inserted]
      rcases List.mem_cons.1 member with rfl | member
      · exact .inl reads
      · refine (stable e member).imp_right ?_
        rintro ⟨s, there, rest⟩
        exact ⟨s, List.mem_cons_of_mem _ there, rest⟩

/-! ### Lookups -/

theorem filter_toList (o : Option Text) (symbol : Elf64Sym) (name : Text) :
    ((o.toList.map (·, symbol)).filter fun p => p.1 = name).map (·.2) =
      if o = some name then [symbol] else [] := by
  cases o with
  | none => rfl
  | some text => by_cases same : text = name <;> simp [same]

theorem filter_cons_append {α : Type} (p : α → Bool) (x : α) (l : List α) :
    (x :: l).filter p = (if p x then [x] else []) ++ l.filter p := by
  rw [List.filter_cons]
  split <;> rfl

/-- The pairs of a name, as the symbols of that demangled name and of that name. -/
theorem namePairs_perm (symbols : List Elf64Sym) (name : Text) :
    (((symbols.flatMap (elf.namePairs demangler)).filter fun p => p.1 = name).map (·.2)).Perm
      ((symbols.filter fun s => elf.demangledOf demangler s = some name) ++
        symbols.filter fun s => elf.nameOf s = some name) := by
  induction symbols with
  | nil => exact .nil
  | cons symbol symbols ih =>
    rw [List.flatMap_cons, List.filter_append, List.map_append, Elf.namePairs, List.filter_append,
      List.map_append, filter_toList, filter_toList, filter_cons_append, filter_cons_append]
    simp only [decide_eq_true_eq]
    generalize (if elf.demangledOf demangler symbol = some name then [symbol] else []) = first
    generalize (if elf.nameOf symbol = some name then [symbol] else []) = second
    rw [List.append_assoc, List.append_assoc]
    refine List.Perm.append_left first ((ih.append_left second).trans ?_)
    rw [← List.append_assoc, ← List.append_assoc]
    exact List.perm_append_comm.append_right _

/-- Where all keys read as they were inserted, a lookup selects by the name. -/
theorem getSymbolsByName_eq {entries : List NameEntry} (hash : Text → Nat)
    (kept : ∀ e ∈ entries, heap.read e.key = e.inserted) (name : Text) :
    getSymbolsByName hash heap entries name =
      ((entries.map fun e => (e.inserted, e.symbol)).filter fun p => p.1 = name).map (·.2) := by
  rw [List.filter_map, List.map_map, getSymbolsByName]
  refine congrArg (List.map _) (List.filter_congr fun e member => decide_eq_decide.2 ?_)
  rw [kept e member]
  exact ⟨fun h => h.2, fun same => ⟨congrArg hash same, same⟩⟩

/-! ### A process that does nothing else -/

def quiet : Environment := ⟨unused, unused_fresh, id, .refl⟩

theorem insertDemangled_quiet (heap : Heap) (symbol : Elf64Sym) (name : Text) :
    (Elf.insertDemangled demangler quiet symbol name heap).1.live = heap.live := by
  cases result : demangler.run name with
  | none => rw [insertDemangled_none demangler quiet result]
  | some text =>
    obtain ⟨e, _, step⟩ := insertDemangled_some demangler quiet heap symbol result
    rw [step]
    exact live_release_allocate (unused_fresh heap)

theorem addNames_quiet {symbols : List Elf64Sym} {entries : List NameEntry}
    (mapped : Mapped elf heap)
    (readable : ∀ s ∈ symbols, ∃ name, elf.getString s.stName.toNat = .ok name)
    (run : elf.addNames demangler quiet symbols heap = .ok (heap', entries)) :
    heap'.live = heap.live ∧ ∀ s ∈ symbols, ∀ text, elf.demangledOf demangler s = some text →
      ∃ e ∈ entries, Dangling heap s text e := by
  induction symbols generalizing heap entries with
  | nil =>
    cases run
    exact ⟨rfl, fun s member => absurd member List.not_mem_nil⟩
  | cons symbol symbols ih =>
    obtain ⟨⟨name, read⟩, readable⟩ := List.forall_mem_cons.1 readable
    obtain ⟨key, _, step⟩ := addNames_cons demangler quiet mapped read symbols
    rw [step] at run
    obtain ⟨⟨built, rest⟩, others, same⟩ := map_eq_ok.1 run
    cases same
    have live := insertDemangled_quiet demangler heap symbol name
    have mapped' := mapped.later (later_insertDemangled demangler quiet heap symbol name)
    obtain ⟨kept, dangling⟩ := ih mapped' readable others
    refine ⟨kept.trans live, fun s member text demangled => ?_⟩
    rcases List.mem_cons.1 member with rfl | member
    · rw [(nameOf_of_ok demangler read).2] at demangled
      obtain ⟨e, entry, step⟩ := insertDemangled_some demangler quiet heap s demangled
      refine ⟨e, List.mem_append_left _ ?_, entry⟩
      rw [step]
      exact List.mem_singleton.2 rfl
    · obtain ⟨e, there, entry⟩ := dangling s member text demangled
      refine ⟨e, List.mem_append_right _ (List.mem_cons_of_mem _ there), ?_⟩
      exact ⟨entry.inserted, entry.symbol, entry.length, live ▸ entry.fresh⟩

end Loop

/-- The loop has read the names it reads for the addresses. -/
theorem readable_of_addSymbols {elf : Elf} {symbols : List Elf64Sym}
    {map map' : OrderedMap Nat (Word × Elf64Sym)} (added : elf.addSymbols symbols map = .ok map') :
    ∀ s ∈ symbols, ∃ name, elf.getString s.stName.toNat = .ok name := by
  induction symbols generalizing map with
  | nil => exact fun s member => absurd member List.not_mem_nil
  | cons symbol symbols ih =>
    obtain ⟨name, read, rest⟩ := bind_eq_ok.1 added
    exact List.forall_mem_cons.2 ⟨⟨name, read⟩, ih rest⟩

/-- The buffer of a name that is not empty can be used for something else. -/
theorem empty_of_findsNames {elf : Elf} {demangler : Demangler}
    (readable : ∀ s ∈ elf.symbolTable, ∃ name, elf.getString s.stName.toNat = .ok name)
    (finds : FindsNames elf demangler) {s : Elf64Sym} (member : s ∈ elf.symbolTable)
    {name text : Text} (read : elf.getString s.stName.toNat = .ok name)
    (result : demangler.run name = some text) : text = [] := by
  have start : Mapped elf ⟨[mapping], fun _ => fileText elf.data⟩ :=
    ⟨List.mem_singleton.2 rfl, rfl⟩
  obtain ⟨heap, entries, run, lookups⟩ := finds quiet (fun _ => 0) _ start
  obtain ⟨live, dangling⟩ := addNames_quiet demangler start readable run
  have demangled : elf.demangledOf demangler s = some text := by
    rw [(nameOf_of_ok demangler read).2, result]
  obtain ⟨e, there, entry⟩ := dangling s member text demangled
  obtain ⟨later, possible, reads⟩ := exists_later_read_nil (live ▸ entry.fresh)
  rw [← entry.inserted, ← (lookups later possible).1 e there, reads]

/-- The map is right exactly if no symbol has a demangled name that is not empty. -/
theorem findsNames_iff {elf built : Elf} (ok : elf.buildSymbolMaps = .ok built)
    (demangler : Demangler) : FindsNames elf demangler ↔
      ∀ s ∈ elf.symbolTable, ∀ name text, elf.getString s.stName.toNat = .ok name →
        demangler.run name = some text → text = [] := by
  obtain ⟨map, added, _⟩ := bind_eq_ok.1 ok
  have readable := readable_of_addSymbols added
  constructor
  · intro finds s member name text read result
    exact empty_of_findsNames readable finds member read result
  · intro empty env hash heap mapped
    obtain ⟨built, entries, run, mapped', pairs, stable⟩ :=
      addNames_spec demangler env elf.symbolTable mapped readable
    refine ⟨built, entries, run, fun later possible => ?_⟩
    have kept : ∀ e ∈ entries, later.read e.key = e.inserted := by
      intro e member
      rcases stable e member with reads | ⟨s, there, demangled, length⟩
      · exact reads later (mapped'.later possible)
      · obtain ⟨name, read⟩ := readable s there
        rw [(nameOf_of_ok demangler read).2] at demangled
        have none := empty s there name e.inserted read demangled
        rw [BlockHeap.read, length, none]
        exact List.take_zero
    refine ⟨kept, fun name => ?_⟩
    rw [getSymbolsByName_eq hash kept, pairs]
    exact namePairs_perm demangler elf.symbolTable name

/-- A file with one symbol of this name. -/
def oneName (name : Text) : Elf where
  data := 0 :: name.map (fun c => BitVec.ofNat 8 c.toNat) ++ [0]
  header := ⟨0, 0, 64, 1, 0⟩
  sectionHeaders := [nameSection]
  sectionMap := [(".strtab".toList, nameSection)]
  loadBias := 0
  symbolTable := [function 0x1000 4]
  symbolAddrMap := .empty

def oneDemangler : Demangler where
  run name := if name = "_Z1fv".toList then some "f()".toList else none
  terminated name text result := by
    split at result
    · cases result
      decide
    · cases result

/-- The name of a function in C is not demangled. -/
theorem findsNames_start : FindsNames (oneName "_start".toList) oneDemangler := by
  refine (@findsNames_iff (oneName "_start".toList) _ rfl oneDemangler).2 ?_
  intro s member name text read result
  cases List.mem_singleton.1 member
  cases read
  cases result

theorem not_findsNames_f : (∃ built, (oneName "_Z1fv".toList).buildSymbolMaps = .ok built) ∧
    ¬ FindsNames (oneName "_Z1fv".toList) oneDemangler := by
  refine ⟨⟨_, rfl⟩, fun finds => ?_⟩
  have readable : ∀ s ∈ (oneName "_Z1fv".toList).symbolTable, ∃ name,
      (oneName "_Z1fv".toList).getString s.stName.toNat = .ok name := by
    intro s member
    cases List.mem_singleton.1 member
    exact ⟨_, rfl⟩
  have empty := empty_of_findsNames readable finds (List.mem_singleton.2 rfl) rfl rfl
  cases empty

end SdbDebugger
