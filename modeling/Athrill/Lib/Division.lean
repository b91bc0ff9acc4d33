import Athrill.Lib.Flags

/-!
# Truncated division of machine words

What the quotient and the remainder of two bit vectors are as integers, signed
and unsigned.

* `Divides`: the equation and the bounds of a truncated division.
* `divides_signed`, `divides_unsigned`: the division of bit vectors.
* `outOfRange_tdiv_iff`: the one signed quotient that does not fit.
-/

namespace Division

variable {w : Nat}

/-- `quotient` and `remainder` of a division that truncates towards zero. -/
structure Divides (dividend divisor quotient remainder : Int) : Prop where
  eq : dividend = quotient * divisor + remainder
  small : remainder.natAbs < divisor.natAbs
  sign_nonneg : 0 ≤ dividend → 0 ≤ remainder
  sign_nonpos : dividend ≤ 0 → remainder ≤ 0

theorem divides_tdiv {a b : Int} (hb : b ≠ 0) : Divides a b (a.tdiv b) (a.tmod b) where
  eq := by
    have hdiv := Int.mul_tdiv_add_tmod a b
    rw [Int.mul_comm] at hdiv
    exact hdiv.symm
  small := by
    rw [Int.natAbs_tmod]
    exact Nat.mod_lt _ (Int.natAbs_pos.mpr hb)
  sign_nonneg := Int.tmod_nonneg b
  sign_nonpos ha := by
    have hneg := Int.tmod_nonneg b (Int.neg_nonneg_of_nonpos ha)
    rw [Int.neg_tmod] at hneg
    omega

theorem toInt_ne_zero {b : BitVec w} (hb : b ≠ 0#w) : b.toInt ≠ 0 := by
  intro h
  exact hb (BitVec.eq_of_toInt_eq (h.trans BitVec.toInt_zero.symm))

/-- A signed quotient is out of range only for the least value over -1. -/
theorem outOfRange_tdiv_iff (hw : 0 < w) (a b : BitVec w) :
    Flags.OutOfRange w (a.toInt.tdiv b.toInt) ↔ a = BitVec.intMin w ∧ b = -1#w := by
  have hminusOne : (-1#w).toInt = -1 := by
    rw [BitVec.neg_one_eq_allOnes, BitVec.toInt_allOnes, if_pos hw]
  constructor
  · intro hout
    by_contra hne
    rw [← BitVec.toInt_sdiv_of_ne_or_ne a b (by tauto)] at hout
    have hlow := (a.sdiv b).le_toInt
    have hhigh := (a.sdiv b).toInt_lt
    unfold Flags.OutOfRange at hout
    omega
  · rintro ⟨rfl, rfl⟩
    rw [BitVec.toInt_intMin_of_pos hw, hminusOne, Int.tdiv_neg, Int.tdiv_one, Int.neg_neg]
    exact Or.inl (by omega)

theorem divides_signed {a b : BitVec w} (hb : b ≠ 0#w)
    (hfits : ¬ (a = BitVec.intMin w ∧ b = -1#w)) :
    Divides a.toInt b.toInt (a.sdiv b).toInt (a.srem b).toInt := by
  rw [BitVec.toInt_sdiv_of_ne_or_ne a b (by tauto), BitVec.toInt_srem]
  exact divides_tdiv (toInt_ne_zero hb)

theorem divides_unsigned {a b : BitVec w} (hb : b ≠ 0#w) :
    Divides a.toNat b.toNat (a / b).toNat (a % b).toNat := by
  have hne : (b.toNat : Int) ≠ 0 := fun h =>
    hb (BitVec.eq_of_toNat_eq (by rw [BitVec.toNat_zero]; exact_mod_cast h))
  rw [BitVec.toNat_udiv, BitVec.toNat_umod]
  exact divides_tdiv hne

end Division
