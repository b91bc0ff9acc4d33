import Mathlib.Data.Nat.Bitwise
import Mathlib.Tactic.SplitIfs

/-!
# Flags of sums and differences

What the carry, the sign and the overflow of an addition or subtraction of bit
vectors say about the operands, for any width.

* `testBit_sub`, `testBit_sub_sub`: the bit above the operands of a difference
  is the borrow.
* `carry_neg_iff`: the carry of the sum with the negated operand.
* `OutOfRange`: the exact result does not fit the signed range.
* `clamp`: the saturated value; it keeps the sign.
* `sign_xor_overflow`: the sign of a difference, corrected by its overflow.
-/

namespace Flags

variable {w : Nat}

/-! ## Unsigned -/

/-- A difference of numbers of `w` bits, wrapped in a wider word, has bit `w` set
exactly if it borrows. -/
theorem testBit_wrapped_sub {v a k : Nat} (h : w < v) (ha : a < 2 ^ w) (hk : k ≤ 2 ^ w) :
    ((2 ^ v - k + a) % 2 ^ v).testBit w = decide (a < k) := by
  have hpow : 2 ^ w < 2 ^ v := Nat.pow_lt_pow_right (by omega) h
  by_cases hlt : a < k
  · have hdiff : 2 ^ v - k + a = 2 ^ v - ((k - a - 1) + 1) := by omega
    have hsmall : k - a - 1 < 2 ^ v := by omega
    have hhigh : (k - a - 1).testBit w = false := Nat.testBit_lt_two_pow (by omega)
    rw [hdiff, Nat.mod_eq_of_lt (by omega), Nat.testBit_two_pow_sub_succ hsmall, hhigh]
    simp [h, hlt]
  · have hdiff : 2 ^ v - k + a = a - k + 2 ^ v := by omega
    rw [hdiff, Nat.add_mod_right, Nat.mod_eq_of_lt (by omega),
      Nat.testBit_lt_two_pow (by omega)]
    simp [hlt]

theorem toNat_setWidth_of_lt {v : Nat} (h : w < v) (x : BitVec w) :
    (x.setWidth v).toNat = x.toNat := by
  have hx : x.toNat < 2 ^ w := x.isLt
  have hpow : 2 ^ w < 2 ^ v := Nat.pow_lt_pow_right (by omega) h
  rw [BitVec.toNat_setWidth, Nat.mod_eq_of_lt (by omega)]

/-- A wider difference of two words has the bit above the words set exactly if
it borrows. -/
theorem testBit_sub {v : Nat} (h : w < v) (a b : BitVec w) :
    (a.setWidth v - b.setWidth v).getLsbD w = decide (a.toNat < b.toNat) := by
  have hval : (a.setWidth v - b.setWidth v).toNat = (2 ^ v - b.toNat + a.toNat) % 2 ^ v := by
    rw [BitVec.toNat_sub, toNat_setWidth_of_lt h, toNat_setWidth_of_lt h]
  rw [BitVec.getLsbD, hval]
  exact testBit_wrapped_sub h a.isLt (Nat.le_of_lt b.isLt)

/-- The same with a borrow `c` taken from the difference. -/
theorem testBit_sub_sub {v : Nat} (h : w < v) (a b c : BitVec w)
    (hc : b.toNat + c.toNat ≤ 2 ^ w) :
    (a.setWidth v - b.setWidth v - c.setWidth v).getLsbD w =
      decide (a.toNat < b.toNat + c.toNat) := by
  have hpow : 2 ^ w < 2 ^ v := Nat.pow_lt_pow_right (by omega) h
  have hwrap : 2 ^ v - c.toNat + (2 ^ v - b.toNat + a.toNat) =
      2 ^ v - (b.toNat + c.toNat) + a.toNat + 2 ^ v := by omega
  have hval : (a.setWidth v - b.setWidth v - c.setWidth v).toNat =
      (2 ^ v - (b.toNat + c.toNat) + a.toNat) % 2 ^ v := by
    rw [BitVec.toNat_sub, BitVec.toNat_sub, toNat_setWidth_of_lt h, toNat_setWidth_of_lt h,
      toNat_setWidth_of_lt h, Nat.add_mod_mod, hwrap, Nat.add_mod_right]
  rw [BitVec.getLsbD, hval]
  exact testBit_wrapped_sub h a.isLt hc

/-- Adding the negated operand carries where subtracting it does not borrow,
unless it is zero. -/
theorem carry_neg_iff (a b : BitVec w) :
    2 ^ w ≤ a.toNat + (-b).toNat ↔ b ≠ 0 ∧ b.toNat ≤ a.toNat := by
  have ha : a.toNat < 2 ^ w := a.isLt
  have hb : b.toNat < 2 ^ w := b.isLt
  have hzero : b = 0 ↔ b.toNat = 0 := by
    constructor
    · intro h
      rw [h]
      rfl
    · intro h
      exact BitVec.eq_of_toNat_eq h
  rw [BitVec.toNat_neg, Ne, hzero]
  by_cases hb0 : b.toNat = 0
  · rw [hb0, Nat.sub_zero, Nat.mod_self]
    omega
  · rw [Nat.mod_eq_of_lt (by omega)]
    omega

/-! ## Signed -/

/-- The value is outside the signed range of the width. -/
def OutOfRange (w : Nat) (x : Int) : Prop := 2 ^ (w - 1) - 1 < x ∨ x < -2 ^ (w - 1)

instance (w : Nat) (x : Int) : Decidable (OutOfRange w x) :=
  inferInstanceAs (Decidable (_ ∨ _))

/-- The nearest value of the signed range. -/
def clamp (w : Nat) (x : Int) : Int := max (-2 ^ (w - 1)) (min (2 ^ (w - 1) - 1) x)

section Signed

variable {x p : Int}

theorem bmod_of_mem {n : Nat} (hn : (n : Int) = 2 * p) (hlow : -p ≤ x) (hhigh : x < p) :
    x.bmod n = x := by
  rw [Int.bmod_eq_iff (by omega)]
  exact ⟨by omega, by omega, by simp⟩

theorem bmod_of_ge {n : Nat} (hn : (n : Int) = 2 * p) (hlow : p ≤ x) (hhigh : x < 2 * p) :
    x.bmod n = x - 2 * p := by
  rw [Int.bmod_eq_iff (by omega)]
  refine ⟨by omega, by omega, -1, ?_⟩
  rw [hn]
  omega

theorem bmod_of_lt {n : Nat} (hn : (n : Int) = 2 * p) (hlow : -2 * p ≤ x) (hhigh : x < -p) :
    x.bmod n = x + 2 * p := by
  rw [Int.bmod_eq_iff (by omega)]
  refine ⟨by omega, by omega, 1, ?_⟩
  rw [hn]
  omega

end Signed

section Clamp

variable (w : Nat) (x : Int)

theorem one_le_two_pow_int (n : Nat) : (1 : Int) ≤ 2 ^ n := by
  have hpos : 1 ≤ 2 ^ n := Nat.one_le_two_pow
  exact_mod_cast hpos

/-- Above one bit, the saturated value has the sign of the exact one. -/
theorem clamp_neg_iff : clamp w x < 0 ↔ x < 0 := by
  have hpos := one_le_two_pow_int (w - 1)
  unfold clamp
  omega

theorem clamp_eq_zero_iff {w : Nat} (hw : 1 < w) (x : Int) : clamp w x = 0 ↔ x = 0 := by
  have hpos := one_le_two_pow_int (w - 2)
  have hsucc : (2 : Int) ^ (w - 1) = 2 * 2 ^ (w - 2) := by
    have hexp : w - 1 = w - 2 + 1 := by omega
    rw [hexp, Int.pow_succ, Int.mul_comm]
  unfold clamp
  omega

theorem clamp_mem : -2 ^ (w - 1) ≤ clamp w x ∧ clamp w x < 2 ^ (w - 1) := by
  have hpos := one_le_two_pow_int (w - 1)
  unfold clamp
  omega

end Clamp

/-- The sign of the wrapped difference is wrong exactly when the difference
overflows. -/
theorem sign_xor_overflow (hw : 0 < w) (a b : BitVec w) :
    ((a - b).msb ^^ decide (OutOfRange w (a.toInt - b.toInt))) =
      decide (a.toInt < b.toInt) := by
  obtain ⟨p, hp⟩ : ∃ p : Int, 2 ^ (w - 1) = p := ⟨_, rfl⟩
  have hpow : ((2 ^ w : Nat) : Int) = 2 * p := by
    have hsucc : w = w - 1 + 1 := by omega
    rw [← hp, hsucc, Nat.pow_succ]
    push_cast
    rw [Int.mul_comm]
  have hout : OutOfRange w (a.toInt - b.toInt) ↔
      p - 1 < a.toInt - b.toInt ∨ a.toInt - b.toInt < -p := by
    unfold OutOfRange
    rw [hp]
  have ha := a.le_toInt
  have ha' := a.toInt_lt
  have hb := b.le_toInt
  have hb' := b.toInt_lt
  rw [hp] at ha ha' hb hb'
  rw [BitVec.msb_eq_toInt, BitVec.toInt_sub]
  by_cases hge : p ≤ a.toInt - b.toInt
  · have hneg : a.toInt - b.toInt - 2 * p < 0 := by omega
    have hnot : ¬ a.toInt < b.toInt := by omega
    rw [bmod_of_ge hpow hge (by omega), decide_eq_true hneg,
      decide_eq_true (hout.mpr (Or.inl (by omega))), decide_eq_false hnot]
    rfl
  · by_cases hlt : a.toInt - b.toInt < -p
    · have hpos : ¬ a.toInt - b.toInt + 2 * p < 0 := by omega
      have hless : a.toInt < b.toInt := by omega
      rw [bmod_of_lt hpow (by omega) hlt, decide_eq_false hpos,
        decide_eq_true (hout.mpr (Or.inr hlt)), decide_eq_true hless]
      rfl
    · have hin : ¬ OutOfRange w (a.toInt - b.toInt) := fun h => by
        rcases hout.mp h with h | h <;> omega
      have hiff : a.toInt - b.toInt < 0 ↔ a.toInt < b.toInt := by omega
      rw [bmod_of_mem hpow (by omega) (by omega), decide_eq_false hin, Bool.xor_false,
        decide_eq_decide]
      exact hiff

end Flags
