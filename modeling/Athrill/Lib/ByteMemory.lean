import Mathlib.Algebra.Group.Nat.Defs
import Mathlib.Data.List.Basic
import Mathlib.Data.List.Nodup
import Mathlib.Data.Nat.Init
import Mathlib.Logic.Function.Basic

/-!
# Bytes and words of a memory

A memory is a function from addresses to bytes.  A word is stored with its
lowest byte first, and a range of addresses may wrap around.

* `load`, `store`: numbers of any length.
* `load_store`: a number is loaded as it was stored.
* `store_outside`: what a store leaves alone.
* `push`: a stack of 32-bit words that grows down.
* `loadWord_push`, `push_outside`: the words of the stack, and the rest.
* `pop`, `pop_push`: what was pushed comes back.
-/

namespace ByteMemory

variable {w : Nat}

abbrev Memory (w : Nat) := BitVec w → BitVec 8

/-- The address is one of the `n` from `addr` on. -/
def Within (addr : BitVec w) (n : Nat) (a : BitVec w) : Prop :=
  (a - addr).toNat < n

instance (addr : BitVec w) (n : Nat) (a : BitVec w) : Decidable (Within addr n a) :=
  inferInstanceAs (Decidable (_ < _))

theorem toNat_add_sub {n i : Nat} (hi : i < n) (hn : n ≤ 2 ^ w) (addr : BitVec w) :
    (addr + BitVec.ofNat w i - addr).toNat = i := by
  have hsub : addr + BitVec.ofNat w i - addr = BitVec.ofNat w i := by
    rw [BitVec.add_comm]
    exact BitVec.add_sub_cancel _ _
  rw [hsub, BitVec.toNat_ofNat, Nat.mod_eq_of_lt (by omega)]

/-! ## Numbers -/

/-- Byte `i` of a number. -/
def byteOf (value i : Nat) : BitVec 8 :=
  BitVec.ofNat 8 (value / 256 ^ i)

/-- The number in the `n` bytes from `addr` on. -/
def load (mem : Memory w) (addr : BitVec w) : Nat → Nat
  | 0 => 0
  | n + 1 => load mem addr n + 256 ^ n * (mem (addr + BitVec.ofNat w n)).toNat

/-- The `n` bytes from `addr` on become those of the number. -/
def store (mem : Memory w) (addr : BitVec w) (n value : Nat) : Memory w :=
  fun a => if Within addr n a then byteOf value (a - addr).toNat else mem a

section Store

variable {addr : BitVec w} {n : Nat} (mem : Memory w) (value : Nat)

theorem store_inside (hn : n ≤ 2 ^ w) {i : Nat} (hi : i < n) :
    store mem addr n value (addr + BitVec.ofNat w i) = byteOf value i := by
  have hsub := toNat_add_sub hi hn addr
  have hin : Within addr n (addr + BitVec.ofNat w i) := by
    unfold Within
    omega
  unfold store
  rw [if_pos hin, hsub]

theorem store_outside {a : BitVec w} (ha : ¬ Within addr n a) :
    store mem addr n value a = mem a :=
  if_neg ha

/-- A load depends on its own bytes alone. -/
theorem load_congr {mem mem' : Memory w}
    (h : ∀ i, i < n → mem (addr + BitVec.ofNat w i) = mem' (addr + BitVec.ofNat w i)) :
    load mem addr n = load mem' addr n := by
  induction n with
  | zero => rfl
  | succ n ih =>
    have hlow := ih fun i hi => h i (by omega)
    have hlast := h n (by omega)
    unfold load
    rw [hlow, hlast]

/-- A prefix of what was stored. -/
theorem load_store_le (hn : n ≤ 2 ^ w) {k : Nat} (hk : k ≤ n) :
    load (store mem addr n value) addr k = value % 256 ^ k := by
  induction k with
  | zero =>
    unfold load
    rw [Nat.pow_zero, Nat.mod_one]
  | succ k ih =>
    have hbyte : (byteOf value k).toNat = value / 256 ^ k % 256 := by
      unfold byteOf
      rw [BitVec.toNat_ofNat]
    unfold load
    rw [ih (by omega), store_inside mem value hn (by omega), hbyte, ← Nat.mod_pow_succ]

theorem load_store (hn : n ≤ 2 ^ w) :
    load (store mem addr n value) addr n = value % 256 ^ n :=
  load_store_le mem value hn (Nat.le_refl n)

/-- A load and what a store has put in its first `k` bytes. -/
theorem load_store_add (hn : n ≤ 2 ^ w) {k : Nat} (hk : k ≤ n) :
    load (store mem addr k value) addr n + load mem addr k =
      value % 256 ^ k + load mem addr n := by
  induction n, hk using Nat.le_induction with
  | base => rw [load_store mem value hn]
  | succ n hk ih =>
    have hout : ¬ Within addr k (addr + BitVec.ofNat w n) := by
      have hsub := toNat_add_sub (show n < n + 1 by omega) hn addr
      unfold Within
      omega
    have hbefore := ih (by omega)
    have hload : load (store mem addr k value) addr (n + 1) =
        load (store mem addr k value) addr n +
          256 ^ n * (store mem addr k value (addr + BitVec.ofNat w n)).toNat := rfl
    have hload' : load mem addr (n + 1) =
        load mem addr n + 256 ^ n * (mem (addr + BitVec.ofNat w n)).toNat := rfl
    rw [hload, hload', store_outside mem value hout]
    omega

/-- A store that reaches none of the bytes of a load. -/
theorem load_store_of_not_within {addr' : BitVec w} {k : Nat}
    (hout : ∀ i, i < n → ¬ Within addr' k (addr + BitVec.ofNat w i)) :
    load (store mem addr' k value) addr n = load mem addr n :=
  load_congr fun i hi => store_outside mem value (hout i hi)

end Store

theorem load_lt (mem : Memory w) (addr : BitVec w) (n : Nat) : load mem addr n < 256 ^ n := by
  induction n with
  | zero => exact Nat.zero_lt_one
  | succ n ih =>
    have hbyte : (mem (addr + BitVec.ofNat w n)).toNat < 2 ^ 8 := BitVec.isLt _
    have hmul : 256 ^ n * (mem (addr + BitVec.ofNat w n)).toNat ≤ 256 ^ n * 255 :=
      Nat.mul_le_mul_left _ (by omega)
    have hpow : 256 ^ (n + 1) = 256 ^ n * 256 := Nat.pow_succ _ _
    unfold load
    omega

/-- The low bytes of a load. -/
theorem load_mod (mem : Memory w) (addr : BitVec w) {k n : Nat} (hk : k ≤ n) :
    load mem addr n % 256 ^ k = load mem addr k := by
  induction n, hk using Nat.le_induction with
  | base => exact Nat.mod_eq_of_lt (load_lt mem addr k)
  | succ n hk ih =>
    obtain ⟨d, rfl⟩ : ∃ d, n = k + d := ⟨n - k, by omega⟩
    have hload : load mem addr (k + d + 1) =
        load mem addr (k + d) + 256 ^ k * (256 ^ d * (mem (addr + BitVec.ofNat w (k + d))).toNat) := by
      rw [← Nat.mul_assoc, ← Nat.pow_add]
      rfl
    rw [hload, Nat.add_mul_mod_self_left, ih]

/-! ## A stack of words -/

/-- The address `k` words below `top`. -/
def below (top : BitVec w) (k : Nat) : BitVec w :=
  top - BitVec.ofNat w (4 * k)

def loadWord (mem : Memory w) (addr : BitVec w) : BitVec 32 :=
  BitVec.ofNat 32 (load mem addr 4)

def storeWord (mem : Memory w) (addr : BitVec w) (value : BitVec 32) : Memory w :=
  store mem addr 4 value.toNat

/-- The words are stored one below the other, the first one at the top. -/
def push (mem : Memory w) (top : BitVec w) : List (BitVec 32) → Memory w
  | [] => mem
  | value :: values => push (storeWord mem (below top 1) value) (below top 1) values

@[simp] theorem below_zero (top : BitVec w) : below top 0 = top := by
  unfold below
  rw [Nat.mul_zero]
  exact BitVec.sub_zero top

theorem below_below (top : BitVec w) (j k : Nat) : below (below top j) k = below top (j + k) := by
  unfold below
  rw [Nat.mul_add, BitVec.ofNat_add, BitVec.sub_sub]

/-- Up from a place on the stack. -/
theorem below_add (top : BitVec w) {j k : Nat} (hjk : j ≤ k) :
    below top k + BitVec.ofNat w (4 * j) = below top (k - j) := by
  have hsplit : below top k = below top (k - j) - BitVec.ofNat w (4 * j) := by
    show _ = below (below top (k - j)) j
    rw [below_below]
    congr 1
    omega
  rw [hsplit]
  exact BitVec.sub_add_cancel _ _

theorem loadWord_storeWord (hw : 4 ≤ 2 ^ w) (mem : Memory w) (addr : BitVec w)
    (value : BitVec 32) : loadWord (storeWord mem addr value) addr = value := by
  have hvalue : value.toNat % 256 ^ 4 = value.toNat := Nat.mod_eq_of_lt value.isLt
  unfold loadWord storeWord
  rw [load_store mem value.toNat hw, hvalue, BitVec.ofNat_toNat, BitVec.setWidth_eq]

/-- A range that starts `m` after another address. -/
theorem within_add_iff {m n : Nat} (hfit : m + n ≤ 2 ^ w) (addr a : BitVec w) :
    Within (addr + BitVec.ofNat w m) n a ↔
      m ≤ (a - addr).toNat ∧ (a - addr).toNat < m + n := by
  obtain ⟨x, hx⟩ : ∃ x, a - addr = x := ⟨_, rfl⟩
  have hlt : x.toNat < 2 ^ w := x.isLt
  have hsub : a - (addr + BitVec.ofNat w m) = x - BitVec.ofNat w m := by
    rw [← hx, BitVec.sub_sub]
  unfold Within
  rw [hsub, hx, BitVec.toNat_sub, BitVec.toNat_ofNat]
  by_cases hm : m < 2 ^ w
  · rw [Nat.mod_eq_of_lt hm]
    by_cases hle : m ≤ x.toNat
    · have hsplit : 2 ^ w - m + x.toNat = (x.toNat - m) + 2 ^ w := by omega
      rw [hsplit, Nat.add_mod_right, Nat.mod_eq_of_lt (by omega)]
      omega
    · rw [Nat.mod_eq_of_lt (by omega)]
      omega
  · have hn : n = 0 := by omega
    omega

/-- The word at the top of a stack of `n + 1` words, from its bottom. -/
theorem below_one (top : BitVec w) (n : Nat) :
    below top 1 = below top (n + 1) + BitVec.ofNat w (4 * n) := by
  rw [below_add top (by omega), Nat.add_sub_cancel_left]

theorem push_outside {values : List (BitVec 32)} (hfit : 4 * values.length ≤ 2 ^ w)
    {mem : Memory w} {top a : BitVec w}
    (ha : ¬ Within (below top values.length) (4 * values.length) a) :
    push mem top values a = mem a := by
  induction values generalizing mem top with
  | nil => rfl
  | cons value values ih =>
    have hbottom : below (below top 1) values.length = below top (values.length + 1) := by
      rw [below_below, Nat.add_comm]
    have hoff : ¬ (a - below top (values.length + 1)).toNat < 4 * (values.length + 1) := ha
    have hlen : 4 * (values.length + 1) ≤ 2 ^ w := hfit
    have hrest : ¬ Within (below (below top 1) values.length) (4 * values.length) a := by
      rw [hbottom]
      unfold Within
      omega
    have htop : ¬ Within (below top 1) 4 a := by
      rw [below_one top values.length, within_add_iff (by omega)]
      omega
    unfold push
    rw [ih (by omega) hrest]
    exact store_outside mem value.toNat htop

theorem loadWord_push {values : List (BitVec 32)} (hfit : 4 * values.length ≤ 2 ^ w)
    (mem : Memory w) (top : BitVec w) {k : Nat} (hk : k < values.length) :
    loadWord (push mem top values) (below top (k + 1)) = values[k] := by
  induction values generalizing mem top k with
  | nil => exact absurd hk (Nat.not_lt_zero k)
  | cons value values ih =>
    have hlen : 4 * (values.length + 1) ≤ 2 ^ w := hfit
    unfold push
    cases k with
    | zero =>
      -- the rest of the stack is below the word
      have hsame : load (push (storeWord mem (below top 1) value) (below top 1) values)
          (below top 1) 4 = load (storeWord mem (below top 1) value) (below top 1) 4 := by
        refine load_congr fun i hi => push_outside (by omega) ?_
        have hbottom : below (below top 1) values.length = below top (values.length + 1) := by
          rw [below_below, Nat.add_comm]
        have hplace : below top 1 + BitVec.ofNat w i =
            below top (values.length + 1) + BitVec.ofNat w (4 * values.length + i) := by
          rw [below_one top values.length, BitVec.ofNat_add, BitVec.add_assoc]
        rw [hbottom, hplace]
        unfold Within
        rw [toNat_add_sub (show 4 * values.length + i < 4 * (values.length + 1) by omega) hlen]
        omega
      show loadWord _ (below top 1) = value
      unfold loadWord
      rw [hsame]
      exact loadWord_storeWord (by omega) mem _ value
    | succ k =>
      have hdeep := ih (by omega) (storeWord mem (below top 1) value) (below top 1)
        (Nat.lt_of_succ_lt_succ hk)
      rw [below_below, Nat.add_comm] at hdeep
      exact hdeep

/-! ### Back from the stack -/

section Pop

variable {ι : Type} [DecidableEq ι]

/-- The words from `addr` up become the values at the indices. -/
def pop (mem : Memory w) (addr : BitVec w) : List ι → (ι → BitVec 32) → ι → BitVec 32
  | [], r => r
  | i :: indices, r =>
    pop mem (addr + BitVec.ofNat w 4) indices (Function.update r i (loadWord mem addr))

variable {mem : Memory w} {indices : List ι}

/-- The indices that are not loaded. -/
theorem pop_of_not_mem {i : ι} (hi : i ∉ indices) (addr : BitVec w) (r : ι → BitVec 32) :
    pop mem addr indices r i = r i := by
  induction indices generalizing addr r with
  | nil => rfl
  | cons j indices ih =>
    obtain ⟨hne, hrest⟩ := List.ne_and_not_mem_of_not_mem_cons hi
    unfold pop
    rw [ih hrest, Function.update_of_ne hne]

theorem pop_update {i : ι} (hi : i ∉ indices) (addr : BitVec w) (r : ι → BitVec 32)
    (value : BitVec 32) :
    pop mem addr indices (Function.update r i value) =
      Function.update (pop mem addr indices r) i value := by
  induction indices generalizing addr r with
  | nil => rfl
  | cons j indices ih =>
    obtain ⟨hne, hrest⟩ := List.ne_and_not_mem_of_not_mem_cons hi
    unfold pop
    rw [Function.update_comm hne, ih hrest]

theorem pop_getElem (hnodup : indices.Nodup) (addr : BitVec w) (r : ι → BitVec 32) {k : Nat}
    (hk : k < indices.length) :
    pop mem addr indices r indices[k] = loadWord mem (addr + BitVec.ofNat w (4 * k)) := by
  induction indices generalizing addr r k with
  | nil => exact absurd hk (Nat.not_lt_zero k)
  | cons j indices ih =>
    obtain ⟨hj, hrest⟩ := List.nodup_cons.mp hnodup
    unfold pop
    cases k with
    | zero =>
      show pop mem _ indices _ j = _
      rw [pop_of_not_mem hj, Function.update_self]
      simp
    | succ k =>
      have hk' : k < indices.length := Nat.lt_of_succ_lt_succ hk
      have hplace : addr + BitVec.ofNat w 4 + BitVec.ofNat w (4 * k) =
          addr + BitVec.ofNat w (4 * (k + 1)) := by
        rw [BitVec.add_assoc, ← BitVec.ofNat_add]
        congr 2
        omega
      rw [← hplace]
      exact ih hrest _ _ hk'

/-- What was pushed comes back. -/
theorem pop_push (hnodup : indices.Nodup) (hfit : 4 * indices.length ≤ 2 ^ w) (mem : Memory w)
    (top : BitVec w) (r r' : ι → BitVec 32) (i : ι) :
    pop (push mem top (indices.map r)) (below top indices.length) indices.reverse r' i =
      if i ∈ indices then r i else r' i := by
  by_cases hi : i ∈ indices
  · obtain ⟨k, hk, rfl⟩ := List.mem_iff_getElem.mp hi
    have hlen : (indices.map r).length = indices.length := List.length_map ..
    have hrev : indices.length - 1 - k < indices.reverse.length := by
      rw [List.length_reverse]
      omega
    have hsame : indices.reverse[indices.length - 1 - k] = indices[k] := by
      rw [List.getElem_reverse]
      congr 1
      omega
    have hplace : below top indices.length + BitVec.ofNat w (4 * (indices.length - 1 - k)) =
        below top (k + 1) := by
      rw [below_add top (by omega)]
      congr 1
      omega
    have hword := loadWord_push (by rw [hlen]; exact hfit) mem top (by rw [hlen]; exact hk)
    rw [if_pos hi, ← hsame, pop_getElem (List.nodup_reverse.mpr hnodup) _ _ hrev, hplace, hword,
      List.getElem_map, hsame]
  · rw [if_neg hi, pop_of_not_mem (fun hmem => hi (List.mem_reverse.mp hmem))]

end Pop

end ByteMemory
