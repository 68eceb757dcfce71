import Mathlib.Data.BitVec
import Mathlib.Tactic.IntervalCases

/-! Address spaces of `w`-bit addresses, and little-endian words laid out in
them. Addresses wrap around, so a range is described by the distance of an
address from its start. -/

namespace ByteSpace

variable {w : Nat} {β : Type}

/-- `n` cells from `a` replaced by the values of `src`, all others kept. -/
def overwrite (f : BitVec w → β) (a : BitVec w) (n : Nat) (src : Nat → β) : BitVec w → β :=
  fun x => if (x - a).toNat < n then src (x - a).toNat else f x

theorem overwrite_of_lt {f : BitVec w → β} {a x : BitVec w} {n : Nat} {src : Nat → β}
    (h : (x - a).toNat < n) : overwrite f a n src x = src (x - a).toNat := if_pos h

theorem overwrite_of_le {f : BitVec w → β} {a x : BitVec w} {n : Nat} {src : Nat → β}
    (h : n ≤ (x - a).toNat) : overwrite f a n src x = f x := if_neg (by omega)

@[simp] theorem overwrite_zero (f : BitVec w → β) (a : BitVec w) (src : Nat → β) :
    overwrite f a 0 src = f := rfl

theorem add_distance (a x : BitVec w) : a + BitVec.ofNat w (x - a).toNat = x := by
  rw [BitVec.ofNat_toNat, BitVec.setWidth_eq, add_comm, sub_add_cancel]

theorem distance_add {i : Nat} (a : BitVec w) (h : i < 2 ^ w) :
    (a + BitVec.ofNat w i - a).toNat = i := by
  rw [add_sub_cancel_left, BitVec.toNat_ofNat, Nat.mod_eq_of_lt h]

theorem overwrite_add {f : BitVec w → β} {a : BitVec w} {n i : Nat} {src : Nat → β}
    (hi : i < n) (hw : i < 2 ^ w) : overwrite f a n src (a + BitVec.ofNat w i) = src i := by
  have distance := distance_add a hw
  rw [overwrite_of_lt (by omega), distance]

theorem overwrite_congr {f : BitVec w → β} {a : BitVec w} {n : Nat} {src src' : Nat → β}
    (h : ∀ i < n, src i = src' i) : overwrite f a n src = overwrite f a n src' := by
  funext x
  by_cases inside : (x - a).toNat < n
  · rw [overwrite_of_lt inside, overwrite_of_lt inside, h _ inside]
  · rw [overwrite_of_le (by omega), overwrite_of_le (by omega)]

/-- Writing back what is already there changes nothing. -/
theorem overwrite_self (f : BitVec w → β) (a : BitVec w) (n : Nat) :
    overwrite f a n (fun i => f (a + BitVec.ofNat w i)) = f := by
  funext x
  by_cases inside : (x - a).toNat < n
  · rw [overwrite_of_lt inside, add_distance]
  · rw [overwrite_of_le (by omega)]

/-- A range that differs from its old contents only in its first cell. -/
theorem overwrite_head [DecidableEq (BitVec w)] (f : BitVec w → β) (a : BitVec w) {n : Nat}
    (hn : 0 < n) {src : Nat → β}
    (tail : ∀ i, 0 < i → i < n → src i = f (a + BitVec.ofNat w i)) :
    overwrite f a n src = Function.update f a (src 0) := by
  funext x
  by_cases head : x = a
  · subst head
    rw [Function.update_self, overwrite_of_lt (by simpa using hn), sub_self]
    rfl
  · rw [Function.update_of_ne head]
    by_cases inside : (x - a).toNat < n
    · have positive : 0 < (x - a).toNat := by
        apply Nat.pos_of_ne_zero
        intro zero
        apply head
        rw [← add_distance a x, zero]
        simp
      rw [overwrite_of_lt inside, tail _ positive inside, add_distance]
    · rw [overwrite_of_le (by omega)]

theorem distance_shift {a x : BitVec w} {m : Nat} (h : m ≤ (x - a).toNat) :
    (x - (a + BitVec.ofNat w m)).toNat = (x - a).toNat - m := by
  have bound := (x - a).isLt
  have small : m % 2 ^ w = m := Nat.mod_eq_of_lt (by omega)
  rw [sub_add_eq_sub_sub, BitVec.toNat_sub, BitVec.toNat_ofNat, small,
    show 2 ^ w - m + (x - a).toNat = ((x - a).toNat - m) + 2 ^ w by omega,
    Nat.add_mod_right, Nat.mod_eq_of_lt (by omega)]

theorem distance_shift_of_lt {a x : BitVec w} {m n : Nat} (h : (x - a).toNat < m)
    (hw : m + n ≤ 2 ^ w) : n ≤ (x - (a + BitVec.ofNat w m)).toNat := by
  by_cases whole : m = 2 ^ w
  · omega
  · have small : m % 2 ^ w = m := Nat.mod_eq_of_lt (by omega)
    rw [sub_add_eq_sub_sub, BitVec.toNat_sub, BitVec.toNat_ofNat, small,
      Nat.mod_eq_of_lt (by omega)]
    omega

/-- Two adjacent ranges written one after the other are one range. -/
theorem overwrite_append (f : BitVec w → β) (a : BitVec w) {m n : Nat} (src rest : Nat → β)
    (hw : m + n ≤ 2 ^ w) :
    overwrite (overwrite f a m src) (a + BitVec.ofNat w m) n rest =
      overwrite f a (m + n) (fun i => if i < m then src i else rest (i - m)) := by
  funext x
  by_cases first : (x - a).toNat < m
  · rw [overwrite_of_le (distance_shift_of_lt first hw), overwrite_of_lt first,
      overwrite_of_lt (by omega), if_pos first]
  · have shift := distance_shift (a := a) (x := x) (m := m) (by omega)
    by_cases second : (x - a).toNat < m + n
    · rw [overwrite_of_lt (by omega), overwrite_of_lt second, if_neg first, shift]
    · rw [overwrite_of_le (by omega), overwrite_of_le (by omega), overwrite_of_le (by omega)]

theorem add_ofNat_assoc (a : BitVec w) (m n : Nat) :
    a + BitVec.ofNat w m + BitVec.ofNat w n = a + BitVec.ofNat w (m + n) := by
  rw [add_assoc, BitVec.ofNat_add]

/-- A range of one source up to `stop`, of which the first `step` cells are written before. -/
theorem overwrite_step (f : BitVec w → β) (a : BitVec w) {start step stop : Nat} (src : Nat → β)
    (inside : start + step ≤ stop) (hw : stop - start ≤ 2 ^ w) :
    overwrite (overwrite f (a + BitVec.ofNat w start) step fun i => src (start + i))
        (a + BitVec.ofNat w (start + step)) (stop - (start + step))
        (fun i => src (start + step + i)) =
      overwrite f (a + BitVec.ofNat w start) (stop - start) fun i => src (start + i) := by
  have split : step + (stop - (start + step)) = stop - start := by omega
  rw [← add_ofNat_assoc, overwrite_append _ _ _ _ (by omega), split]
  refine overwrite_congr fun i _ => ?_
  by_cases first : i < step
  · rw [if_pos first]
  · rw [if_neg first]
    congr 1
    omega

/-- A source that agrees with the old contents from `k` on writes `k` cells only. -/
theorem overwrite_prefix {f : BitVec w → β} {a : BitVec w} {k n : Nat} {src : Nat → β}
    (hk : k ≤ n) (same : ∀ i, k ≤ i → i < n → src i = f (a + BitVec.ofNat w i)) :
    overwrite f a n src = overwrite f a k src := by
  funext x
  by_cases first : (x - a).toNat < k
  · rw [overwrite_of_lt first, overwrite_of_lt (by omega)]
  · rw [overwrite_of_le (n := k) (by omega)]
    by_cases inside : (x - a).toNat < n
    · rw [overwrite_of_lt inside, same _ (by omega) inside, add_distance]
    · rw [overwrite_of_le (by omega)]

/-- Writing `n` cells is writing the first `k` exactly if the others are there already. -/
theorem overwrite_prefix_iff {f : BitVec w → β} {a : BitVec w} {k n : Nat} {src : Nat → β}
    (hk : k ≤ n) (hw : n ≤ 2 ^ w) : overwrite f a n src = overwrite f a k src ↔
      ∀ i, k ≤ i → i < n → src i = f (a + BitVec.ofNat w i) := by
  constructor
  · intro same i later inside
    have there := congrFun same (a + BitVec.ofNat w i)
    have distance := distance_add (i := i) a (by omega)
    rwa [overwrite_add inside (by omega), overwrite_of_le (by omega)] at there
  · exact overwrite_prefix hk

/-- The `n` cells from `a`, in order. -/
def cells (f : BitVec w → β) (a : BitVec w) (n : Nat) : List β :=
  (List.range n).map fun i => f (a + BitVec.ofNat w i)

@[simp] theorem length_cells (f : BitVec w → β) (a : BitVec w) (n : Nat) :
    (cells f a n).length = n := by
  simp [cells]

theorem getElem?_cells {f : BitVec w → β} {a : BitVec w} {n i : Nat} (hi : i < n) :
    (cells f a n)[i]? = some (f (a + BitVec.ofNat w i)) := by
  simp [cells, hi]

theorem cells_append (f : BitVec w → β) (a : BitVec w) (m n : Nat) :
    cells f a m ++ cells f (a + BitVec.ofNat w m) n = cells f a (m + n) := by
  rw [cells, cells, cells, List.range_add, List.map_append, List.map_map]
  congr 2
  funext i
  rw [Function.comp_apply, add_ofNat_assoc]

/-! ### Little-endian values -/

/-- Byte `i` of a value, least significant first. -/
def byteOf {m : Nat} (v : BitVec m) (i : Nat) : BitVec 8 := v.extractLsb' (8 * i) 8

def ofBytes : (n : Nat) → (Nat → BitVec 8) → BitVec (8 * n)
  | 0, _ => 0#0
  | n + 1, src => (ofBytes n (fun i => src (i + 1)) ++ src 0).cast (by omega)

theorem getLsbD_ofBytes (n : Nat) (src : Nat → BitVec 8) (j : Nat) :
    (ofBytes n src).getLsbD j = (decide (j < 8 * n) && (src (j / 8)).getLsbD (j % 8)) := by
  induction n generalizing src j with
  | zero => simp [ofBytes]
  | succ n ih =>
    rw [ofBytes, BitVec.getLsbD_cast, BitVec.getLsbD_append]
    by_cases low : j < 8
    · have quotient : j / 8 = 0 := by omega
      have remainder : j % 8 = j := by omega
      have inside : j < 8 * (n + 1) := by omega
      simp [low, quotient, remainder, inside]
    · have quotient : (j - 8) / 8 + 1 = j / 8 := by omega
      have remainder : (j - 8) % 8 = j % 8 := by omega
      have inside : j - 8 < 8 * n ↔ j < 8 * (n + 1) := by omega
      simp [low, ih, quotient, remainder, inside]

theorem getLsbD_byteOf {m : Nat} (v : BitVec m) (i j : Nat) :
    (byteOf v i).getLsbD j = (decide (j < 8) && v.getLsbD (8 * i + j)) := by
  rw [byteOf, BitVec.getLsbD_extractLsb']

theorem byteOf_ofBytes {n i : Nat} (src : Nat → BitVec 8) (hi : i < n) :
    byteOf (ofBytes n src) i = src i := by
  apply BitVec.eq_of_getLsbD_eq
  intro j hj
  have quotient : (8 * i + j) / 8 = i := by omega
  have remainder : (8 * i + j) % 8 = j := by omega
  have inside : 8 * i + j < 8 * n := by omega
  rw [getLsbD_byteOf, getLsbD_ofBytes, quotient, remainder, decide_eq_true hj,
    decide_eq_true inside, Bool.true_and, Bool.true_and]

theorem ofBytes_byteOf {n : Nat} (v : BitVec (8 * n)) : ofBytes n (byteOf v) = v := by
  apply BitVec.eq_of_getLsbD_eq
  intro j hj
  have position : 8 * (j / 8) + j % 8 = j := by omega
  have remainder : j % 8 < 8 := by omega
  rw [getLsbD_ofBytes, getLsbD_byteOf, position, decide_eq_true hj,
    decide_eq_true remainder, Bool.true_and, Bool.true_and]

theorem ofBytes_congr {n : Nat} {src src' : Nat → BitVec 8} (h : ∀ i < n, src i = src' i) :
    ofBytes n src = ofBytes n src' := by
  apply BitVec.eq_of_getLsbD_eq
  intro j hj
  have inside : j / 8 < n := by omega
  rw [getLsbD_ofBytes, getLsbD_ofBytes, h _ inside]

theorem ofBytes_eq_ofBytes_iff {n : Nat} {src src' : Nat → BitVec 8} :
    ofBytes n src = ofBytes n src' ↔ ∀ i < n, src i = src' i := by
  refine ⟨fun same i hi => ?_, ofBytes_congr⟩
  rw [← byteOf_ofBytes src hi, same, byteOf_ofBytes src' hi]

/-- The value stored little-endian in the `n` cells from `a`. -/
def load (f : BitVec w → BitVec 8) (a : BitVec w) (n : Nat) : BitVec (8 * n) :=
  ofBytes n fun i => f (a + BitVec.ofNat w i)

def store (f : BitVec w → BitVec 8) (a : BitVec w) {m : Nat} (n : Nat) (v : BitVec m) :
    BitVec w → BitVec 8 :=
  overwrite f a n (byteOf v)

theorem load_store (f : BitVec w → BitVec 8) (a : BitVec w) (n : Nat) (v : BitVec (8 * n))
    (hw : n ≤ 2 ^ w) : load (store f a n v) a n = v := by
  calc load (store f a n v) a n = ofBytes n (byteOf v) := by
        apply ofBytes_congr
        intro i hi
        rw [store, overwrite_add hi (by omega)]
    _ = v := ofBytes_byteOf v

/-- A load does not see a store to cells that are all elsewhere. -/
theorem load_overwrite_disjoint {f : BitVec w → BitVec 8} {a b : BitVec w} {m n : Nat}
    {src : Nat → BitVec 8}
    (apart : ∀ i < n, m ≤ (a + BitVec.ofNat w i - b).toNat) :
    load (overwrite f b m src) a n = load f a n := by
  apply ofBytes_congr
  intro i hi
  rw [overwrite_of_le (apart i hi)]

theorem overwrite_overwrite (f : BitVec w → β) (a : BitVec w) (n : Nat) (src src' : Nat → β) :
    overwrite (overwrite f a n src) a n src' = overwrite f a n src' := by
  funext x
  by_cases inside : (x - a).toNat < n
  · rw [overwrite_of_lt inside, overwrite_of_lt inside]
  · rw [overwrite_of_le (by omega), overwrite_of_le (by omega), overwrite_of_le (by omega)]

/-- Storing what was there before undoes a store. -/
theorem store_store_load (f : BitVec w → BitVec 8) (a : BitVec w) {m : Nat} (n : Nat) (v : BitVec m) :
    store (store f a n v) a n (load f a n) = f := by
  rw [store, store, overwrite_overwrite, load, overwrite_congr fun i hi => byteOf_ofBytes _ hi,
    overwrite_self]

theorem byteOf_load {f : BitVec w → BitVec 8} {a : BitVec w} {n i : Nat} (hi : i < n) :
    byteOf (load f a n) i = f (a + BitVec.ofNat w i) :=
  byteOf_ofBytes _ hi

end ByteSpace
