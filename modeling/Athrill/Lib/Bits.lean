import Mathlib.Data.Nat.Bitwise
import Mathlib.Tactic.SplitIfs

/-!
# Single bits of a machine word

Setting, clearing and writing one bit of a bit vector of any width.  Every
lemma reads the updated word bit by bit, so that a chain of updates is
resolved by `simp`.

* `setBit`, `clearBit`, `putBit`: one bit is written, the others are kept.
* `AgreeOff`: two words that differ at most on the bits of a mask.
* `Overwrites`: an update that replaces the bits of one field.
-/

namespace Bits

variable {w : Nat}

/-! ## Writing one bit -/

/-- `x | (1 << n)`. -/
def setBit (x : BitVec w) (n : Nat) : BitVec w :=
  x ||| BitVec.twoPow w n

/-- `x & ~(1 << n)`. -/
def clearBit (x : BitVec w) (n : Nat) : BitVec w :=
  x &&& ~~~ BitVec.twoPow w n

/-- Bit `n` becomes `b`. -/
def putBit (x : BitVec w) (n : Nat) (b : Bool) : BitVec w :=
  if b then setBit x n else clearBit x n

@[simp] theorem getLsbD_setBit (x : BitVec w) (n i : Nat) :
    (setBit x n).getLsbD i = (x.getLsbD i || (decide (i < w) && decide (n = i))) := by
  simp only [setBit, BitVec.getLsbD_or, BitVec.getLsbD_twoPow]
  by_cases hn : n = i
  · rw [hn]
  · simp [hn]

@[simp] theorem getElem_setBit (x : BitVec w) (n i : Nat) (hi : i < w) :
    (setBit x n)[i] = (x[i] || decide (n = i)) := by
  rw [← BitVec.getLsbD_eq_getElem, getLsbD_setBit]
  simp [hi]

@[simp] theorem getLsbD_clearBit (x : BitVec w) (n i : Nat) :
    (clearBit x n).getLsbD i = (x.getLsbD i && decide (n ≠ i)) := by
  simp only [clearBit, BitVec.getLsbD_and, BitVec.getLsbD_not, BitVec.getLsbD_twoPow]
  by_cases hi : i < w
  · by_cases hn : n = i <;> simp [hi, hn]
  · simp [BitVec.getLsbD_of_ge x i (Nat.le_of_not_lt hi)]

@[simp] theorem getElem_clearBit (x : BitVec w) (n i : Nat) (hi : i < w) :
    (clearBit x n)[i] = (x[i] && decide (n ≠ i)) := by
  rw [← BitVec.getLsbD_eq_getElem, getLsbD_clearBit]
  simp [hi]

@[simp] theorem getElem_putBit_self (x : BitVec w) (n : Nat) (hn : n < w) (b : Bool) :
    (putBit x n b)[n] = b := by
  cases b <;> simp [putBit]

theorem getLsbD_putBit_self (x : BitVec w) {n : Nat} (hn : n < w) (b : Bool) :
    (putBit x n b).getLsbD n = b := by
  rw [BitVec.getLsbD_eq_getElem hn, getElem_putBit_self]

theorem getLsbD_putBit_ne (x : BitVec w) {n i : Nat} (hne : n ≠ i) (b : Bool) :
    (putBit x n b).getLsbD i = x.getLsbD i := by
  cases b <;> simp [putBit, hne]

/-! ## Writing under a mask -/

/-- Or-ing the masked data into a word replaces the masked bits exactly when no
set bit of the word had to be cleared. -/
theorem or_eq_replace_iff (x data mask : BitVec w) :
    x ||| (data &&& mask) = (x &&& ~~~ mask) ||| (data &&& mask) ↔
      x &&& mask &&& ~~~ data = 0#w := by
  constructor
  · intro h
    ext i hi
    have hbit : (x ||| (data &&& mask))[i] = ((x &&& ~~~ mask) ||| (data &&& mask))[i] := by
      rw [h]
    simp only [BitVec.getElem_or, BitVec.getElem_and, BitVec.getElem_not,
      BitVec.getElem_zero] at hbit ⊢
    revert hbit
    cases x[i] <;> cases data[i] <;> cases mask[i] <;> decide
  · intro h
    ext i hi
    have hbit : (x &&& mask &&& ~~~ data)[i] = (0#w)[i] := by
      rw [h]
    simp only [BitVec.getElem_or, BitVec.getElem_and, BitVec.getElem_not,
      BitVec.getElem_zero] at hbit ⊢
    revert hbit
    cases x[i] <;> cases data[i] <;> cases mask[i] <;> decide

/-- Or-ing masked bits into a word changes nothing exactly when the word has
them all. -/
theorem and_or_eq_iff (x mask y : BitVec w) :
    (x &&& mask) ||| y = y ↔ x &&& mask &&& ~~~ y = 0#w := by
  constructor
  · intro h
    ext i hi
    have hbit : ((x &&& mask) ||| y)[i] = y[i] := by
      rw [h]
    simp only [BitVec.getElem_or, BitVec.getElem_and, BitVec.getElem_not,
      BitVec.getElem_zero] at hbit ⊢
    revert hbit
    cases x[i] <;> cases mask[i] <;> cases y[i] <;> decide
  · intro h
    ext i hi
    have hbit : (x &&& mask &&& ~~~ y)[i] = (0#w)[i] := by
      rw [h]
    simp only [BitVec.getElem_or, BitVec.getElem_and, BitVec.getElem_not,
      BitVec.getElem_zero] at hbit ⊢
    revert hbit
    cases x[i] <;> cases mask[i] <;> cases y[i] <;> decide

/-! ## Reading a field -/

/-- A field that is cut out by a mask, as a number. -/
theorem toNat_mask_and {mask : BitVec w} {lo n : Nat}
    (hmask : ∀ i : Fin w, mask.getLsbD i.val = decide (lo ≤ i.val ∧ i.val < lo + n))
    (x : BitVec w) : (mask &&& x).toNat = x.toNat / 2 ^ lo % 2 ^ n * 2 ^ lo := by
  apply Nat.eq_of_testBit_eq
  intro i
  rw [BitVec.testBit_toNat, BitVec.getLsbD_and, Nat.testBit_mul_two_pow, Nat.testBit_mod_two_pow,
    Nat.testBit_div_two_pow, BitVec.testBit_toNat]
  by_cases hi : i < w
  · rw [hmask ⟨i, hi⟩]
    by_cases hlo : lo ≤ i
    · have hlen : i - lo < n ↔ i < lo + n := by omega
      simp [hlo, Nat.sub_add_cancel hlo, hlen]
    · simp [hlo]
  · have hx : x.getLsbD i = false := BitVec.getLsbD_of_ge x i (Nat.not_lt.mp hi)
    by_cases hlo : lo ≤ i
    · simp [hx, Nat.sub_add_cancel hlo]
    · simp [hlo, hx]

/-! ## Words that agree off a mask -/

/-- The words agree on every bit outside `mask`. -/
def AgreeOff (mask x y : BitVec w) : Prop :=
  ∀ i, mask.getLsbD i = false → y.getLsbD i = x.getLsbD i

theorem AgreeOff.refl (mask x : BitVec w) : AgreeOff mask x x :=
  fun _ _ => rfl

theorem AgreeOff.trans {mask x y z : BitVec w} (hxy : AgreeOff mask x y)
    (hyz : AgreeOff mask y z) : AgreeOff mask x z :=
  fun i hi => (hyz i hi).trans (hxy i hi)

theorem agreeOff_setBit {mask x : BitVec w} {n : Nat} (hn : mask.getLsbD n = true) :
    AgreeOff mask x (setBit x n) := by
  intro i hi
  have hne : n ≠ i := by
    rintro rfl
    simp [hn] at hi
  simp [hne]

theorem agreeOff_clearBit {mask x : BitVec w} {n : Nat} (hn : mask.getLsbD n = true) :
    AgreeOff mask x (clearBit x n) := by
  intro i hi
  have hne : n ≠ i := by
    rintro rfl
    simp [hn] at hi
  simp [hne]

/-! ## Overwriting a field -/

/-- The update `u` replaces the `n` bits from `pos` on by those of a value. -/
def Overwrites (pos n : Nat) (value : Nat → Bool) (u : BitVec w → BitVec w) : Prop :=
  ∀ x i, i < w →
    (u x).getLsbD i = if pos ≤ i ∧ i < pos + n then value (i - pos) else x.getLsbD i

theorem overwrites_putBit {pos : Nat} (hpos : pos < w) (b : Bool) :
    Overwrites pos 1 (fun _ => b) fun x : BitVec w => putBit x pos b := by
  intro x i hi
  by_cases hbit : pos = i
  · subst hbit
    rw [if_pos (by omega)]
    exact getLsbD_putBit_self x hpos b
  · rw [if_neg (by omega)]
    exact getLsbD_putBit_ne x hbit b

/-- Clearing a field under a mask and or-ing a value into it; the value fits. -/
theorem overwrites_and_or {mask value : BitVec w} {n : Nat}
    (hmask : ∀ k, mask.getLsbD k = decide (k < n)) (hvalue : ∀ k, n ≤ k → value.getLsbD k = false)
    (pos : Nat) :
    Overwrites pos n value.getLsbD
      fun x => (x &&& ~~~(mask <<< pos)) ||| (value <<< pos) := by
  intro x i hi
  simp only [BitVec.getLsbD_or, BitVec.getLsbD_and, BitVec.getLsbD_not, BitVec.getLsbD_shiftLeft,
    hmask, decide_eq_true hi, Bool.true_and]
  by_cases hlow : i < pos
  · rw [if_neg (by omega)]
    simp [hlow]
  · by_cases hhigh : i - pos < n
    · rw [if_pos (by omega)]
      simp [hlow, hhigh]
    · rw [if_neg (by omega), hvalue _ (by omega)]
      simp [hlow, hhigh]

/-- Bits put one after the other, from the lowest on. -/
theorem overwrites_foldl_putBit {pos n : Nat} (hfit : pos + n ≤ w) (value : Nat → Bool) :
    Overwrites pos n value fun x : BitVec w =>
      (List.range n).foldl (fun data k => putBit data (pos + k) (value k)) x := by
  induction n with
  | zero =>
    intro x i _
    rw [if_neg (by omega)]
    rfl
  | succ n ih =>
    intro x i hi
    have hstep : ((List.range n).foldl (fun data k => putBit data (pos + k) (value k)) x).getLsbD i =
        if pos ≤ i ∧ i < pos + n then value (i - pos) else x.getLsbD i :=
      ih (by omega) x i hi
    show ((List.range (n + 1)).foldl (fun data k => putBit data (pos + k) (value k)) x).getLsbD i = _
    rw [List.range_succ, List.foldl_append]
    show (putBit _ (pos + n) (value n)).getLsbD i = _
    by_cases hlast : pos + n = i
    · rw [← hlast, getLsbD_putBit_self _ (by omega), if_pos (by omega), Nat.add_sub_cancel_left]
    · rw [getLsbD_putBit_ne _ hlast, hstep]
      by_cases hin : pos ≤ i ∧ i < pos + n
      · rw [if_pos hin, if_pos (by omega)]
      · rw [if_neg hin, if_neg (by omega)]

theorem Overwrites.inside {pos n : Nat} {value : Nat → Bool} {u : BitVec w → BitVec w}
    (h : Overwrites pos n value u) (x : BitVec w) {k : Nat} (hk : k < n) (hw : pos + k < w) :
    (u x).getLsbD (pos + k) = value k := by
  rw [h x _ hw, if_pos (by omega), Nat.add_sub_cancel_left]

theorem Overwrites.outside {pos n : Nat} {value : Nat → Bool} {u : BitVec w → BitVec w}
    (h : Overwrites pos n value u) (x : BitVec w) {i : Nat} (hw : i < w)
    (hi : i < pos ∨ pos + n ≤ i) : (u x).getLsbD i = x.getLsbD i := by
  rw [h x _ hw, if_neg (by omega)]

end Bits
