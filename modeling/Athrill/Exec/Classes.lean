import Athrill.Exec.FpuOps
import Athrill.Lib.Ieee

/-!
# The classes of floating-point numbers

The macros test an exponent and a mantissa that are cut out by masks.  In
double precision the mask of the exponent lacks the lowest bit of the field,
and the mask of the mantissa has three bits of the exponent.

* `toNat_floatExp`, `toNat_doubleExp`: what the masks read.
* `FpuNumber.is`: the predicate of a class.
* `classes_exact`: when the predicates agree with the classes of IEEE 754.
-/

namespace Athrill

open Ieee

/-! ## Fields -/

theorem toNat_floatExp (x : Word) : (getFloatExpValue x).toNat = binary32.exponent x := by
  unfold getFloatExpValue
  have hmask := Bits.toNat_mask_and (show ∀ i : Fin 32, (0x7F800000#32).getLsbD i.val =
    decide (23 ≤ i.val ∧ i.val < 23 + 8) by decide) x
  rw [BitVec.toNat_ushiftRight, Nat.shiftRight_eq_div_pow, hmask]
  exact Nat.mul_div_cancel _ (Nat.two_pow_pos 23)

theorem toNat_floatMantissa (x : Word) :
    (getFloatMantissaValue x).toNat = binary32.mantissa x := by
  unfold getFloatMantissaValue
  have hmask := Bits.toNat_mask_and (show ∀ i : Fin 32, (0x007FFFFF#32).getLsbD i.val =
    decide (0 ≤ i.val ∧ i.val < 0 + 23) by decide) x
  rw [hmask, Nat.pow_zero, Nat.div_one, Nat.mul_one]
  rfl

theorem toNat_binary0 (x : DoubleWord) : (binary0 x).toNat = x.toNat % 2 ^ 32 :=
  BitVec.toNat_setWidth _ _

theorem toNat_binary1 (x : DoubleWord) : (binary1 x).toNat = x.toNat / 2 ^ 32 := by
  have hlt : x.toNat < 2 ^ 64 := x.isLt
  unfold binary1
  rw [BitVec.toNat_setWidth, BitVec.toNat_ushiftRight, Nat.shiftRight_eq_div_pow]
  omega

/-- The lowest bit of the exponent is not read. -/
theorem toNat_doubleExp (x : DoubleWord) :
    (getDoubleExpValue x).toNat = 2 * (binary64.exponent x / 2) := by
  unfold getDoubleExpValue
  have hmask := Bits.toNat_mask_and (show ∀ i : Fin 32, (0x7FE00000#32).getLsbD i.val =
    decide (21 ≤ i.val ∧ i.val < 21 + 10) by decide) (binary1 x)
  rw [BitVec.toNat_ushiftRight, Nat.shiftRight_eq_div_pow, hmask, toNat_binary1]
  show _ = 2 * (x.toNat / 2 ^ 52 % 2 ^ 11 / 2)
  omega

/-- Three bits of the exponent are read with the mantissa. -/
theorem doubleMantissaIsZero_iff (x : DoubleWord) :
    doubleMantissaIsZero x = true ↔ binary64.mantissa x = 0 ∧ binary64.exponent x % 8 = 0 := by
  have hmask := Bits.toNat_mask_and (show ∀ i : Fin 32, (0x007FFFFF#32).getLsbD i.val =
    decide (0 ≤ i.val ∧ i.val < 0 + 23) by decide) (binary1 x)
  have hlow := toNat_binary0 x
  rw [toNat_binary1] at hmask
  unfold doubleMantissaIsZero getDoubleMantissa0Value getDoubleMantissa1Value
  rw [Bool.and_eq_true, decide_eq_true_eq, decide_eq_true_eq, ← BitVec.toNat_inj,
    ← BitVec.toNat_inj, hmask, hlow]
  show _ ↔ x.toNat % 2 ^ 52 = 0 ∧ x.toNat / 2 ^ 52 % 2 ^ 11 % 8 = 0
  rw [Nat.pow_zero, Nat.div_one, Nat.mul_one]
  have hzero : (0 : Word).toNat = 0 := rfl
  omega

/-! ## Predicates -/

/-- A number of either precision. -/
inductive FpuNumber where
  | single (x : Word)
  | double (x : DoubleWord)
  deriving DecidableEq, Repr

/-- The predicate of a class in single precision. -/
def floatIs (x : Word) : Ieee.Class → Bool
  | .zero => floatIsZero x
  | .subnormal => floatIsSbnorm x
  | .normal => floatIsNormal x
  | .infinity => floatIsInf x
  | .quietNan => floatIsQnan x
  | .signallingNan => floatIsSnan x

/-- The predicate of a class in double precision. -/
def doubleIs (x : DoubleWord) : Ieee.Class → Bool
  | .zero => doubleIsZero x
  | .subnormal => doubleIsSbnorm x
  | .normal => doubleIsNormal x
  | .infinity => doubleIsInf x
  | .quietNan => doubleIsQnan x
  | .signallingNan => doubleIsSnan x

namespace FpuNumber

def is : FpuNumber → Ieee.Class → Bool
  | single x => floatIs x
  | double x => doubleIs x

def classify : FpuNumber → Ieee.Class
  | single x => binary32.classify x
  | double x => binary64.classify x

end FpuNumber

/-! ## Single precision -/

section Single

variable (x : Word)

theorem floatExp_eq_iff (v : Word) : getFloatExpValue x = v ↔ binary32.exponent x = v.toNat := by
  rw [← BitVec.toNat_inj, toNat_floatExp]

theorem floatMantissa_eq_zero_iff : getFloatMantissaValue x = 0 ↔ binary32.mantissa x = 0 := by
  rw [← BitVec.toNat_inj, toNat_floatMantissa]
  rfl

theorem floatIsNormal_iff :
    floatIsNormal x = true ↔ 0 < binary32.exponent x ∧ binary32.exponent x < 255 := by
  unfold floatIsNormal
  rw [Bool.and_eq_true, decide_eq_true_eq, decide_eq_true_eq, BitVec.le_def, BitVec.le_def,
    toNat_floatExp]
  show 1 ≤ _ ∧ _ ≤ 254 ↔ _
  omega

theorem floatIsNan_iff :
    floatIsNan x = true ↔ binary32.exponent x = 255 ∧ binary32.mantissa x ≠ 0 := by
  unfold floatIsNan
  rw [Bool.and_eq_true, decide_eq_true_eq, decide_eq_true_eq, floatExp_eq_iff, ne_eq,
    floatMantissa_eq_zero_iff]
  rfl

theorem floatIs_iff (c : Ieee.Class) : floatIs x c = true ↔ binary32.classify x = c := by
  cases c with
  | zero =>
    show (_ && _) = true ↔ _
    rw [Bool.and_eq_true, decide_eq_true_eq, decide_eq_true_eq, floatExp_eq_iff,
      floatMantissa_eq_zero_iff, Format.classify_eq_zero_iff]
    rfl
  | subnormal =>
    show (_ && _) = true ↔ _
    rw [Bool.and_eq_true, decide_eq_true_eq, decide_eq_true_eq, floatExp_eq_iff, ne_eq,
      floatMantissa_eq_zero_iff, Format.classify_eq_subnormal_iff]
    rfl
  | normal =>
    rw [Format.classify_eq_normal_iff]
    exact floatIsNormal_iff x
  | infinity =>
    show (_ && _) = true ↔ _
    rw [Bool.and_eq_true, decide_eq_true_eq, decide_eq_true_eq, floatExp_eq_iff,
      floatMantissa_eq_zero_iff, Format.classify_eq_infinity_iff]
    rfl
  | quietNan =>
    show (_ && _) = true ↔ _
    rw [Bool.and_eq_true, floatIsNan_iff, Format.classify_eq_quietNan_iff, and_assoc]
    rfl
  | signallingNan =>
    show (_ && !_) = true ↔ _
    rw [Bool.and_eq_true, floatIsNan_iff, Bool.not_eq_true', Format.classify_eq_signallingNan_iff,
      and_assoc]
    rfl

end Single

/-! ## Double precision -/

section Double

variable (x : DoubleWord)

theorem doubleExp_eq_iff (v : Word) :
    getDoubleExpValue x = v ↔ 2 * (binary64.exponent x / 2) = v.toNat := by
  rw [← BitVec.toNat_inj, toNat_doubleExp]

theorem doubleIsNormal_iff :
    doubleIsNormal x = true ↔ 1 < binary64.exponent x := by
  have hle : binary64.exponent x ≤ 2047 := Format.exponent_le_max
  unfold doubleIsNormal
  rw [Bool.and_eq_true, decide_eq_true_eq, decide_eq_true_eq, BitVec.le_def, BitVec.le_def,
    toNat_doubleExp]
  show 1 ≤ _ ∧ _ ≤ 2046 ↔ _
  omega

theorem doubleIsZero_iff :
    doubleIsZero x = true ↔ binary64.exponent x = 0 ∧ binary64.mantissa x = 0 := by
  unfold doubleIsZero
  rw [Bool.and_eq_true, decide_eq_true_eq, doubleExp_eq_iff, doubleMantissaIsZero_iff]
  show _ = 0 ∧ _ ↔ _
  omega

theorem doubleIsSbnorm_iff :
    doubleIsSbnorm x = true ↔ (binary64.exponent x = 0 ∧ binary64.mantissa x ≠ 0) ∨
      binary64.exponent x = 1 := by
  unfold doubleIsSbnorm
  rw [Bool.and_eq_true, decide_eq_true_eq, doubleExp_eq_iff, Bool.not_eq_true',
    ← Bool.not_eq_true, doubleMantissaIsZero_iff]
  show _ = 0 ∧ _ ↔ _
  omega

/-- What is read of the exponent is even. -/
theorem doubleExp_ne_max : getDoubleExpValue x ≠ 2047 := by
  rw [ne_eq, doubleExp_eq_iff]
  show ¬ _ = 2047
  omega

theorem doubleIsInf_eq_false : doubleIsInf x = false := by
  unfold doubleIsInf
  rw [decide_eq_false (doubleExp_ne_max x), Bool.false_and]

theorem doubleIsNan_eq_false : doubleIsNan x = false := by
  unfold doubleIsNan
  rw [decide_eq_false (doubleExp_ne_max x), Bool.false_and]

/-- No double is found to be infinite or not a number. -/
theorem doubleIs_of_exponent_max (c : Ieee.Class) (hc : doubleIs x c = true) :
    c = .zero ∨ c = .subnormal ∨ c = .normal := by
  cases c with
  | zero => exact Or.inl rfl
  | subnormal => exact Or.inr (Or.inl rfl)
  | normal => exact Or.inr (Or.inr rfl)
  | infinity => exact absurd ((doubleIsInf_eq_false x).symm.trans hc) (by decide)
  | quietNan =>
    have hnan : (doubleIsNan x && (binary1 x).getLsbD 19) = true := hc
    rw [doubleIsNan_eq_false, Bool.false_and] at hnan
    exact absurd hnan (by decide)
  | signallingNan =>
    have hnan : (doubleIsNan x && !(binary1 x).getLsbD 19) = true := hc
    rw [doubleIsNan_eq_false, Bool.false_and] at hnan
    exact absurd hnan (by decide)

theorem doubleIs_iff (hone : binary64.exponent x ≠ 1) (hmax : binary64.exponent x ≠ 2047)
    (c : Ieee.Class) : doubleIs x c = true ↔ binary64.classify x = c := by
  have hle : binary64.exponent x ≤ 2047 := Format.exponent_le_max
  cases c with
  | zero =>
    rw [Format.classify_eq_zero_iff]
    exact doubleIsZero_iff x
  | subnormal =>
    rw [Format.classify_eq_subnormal_iff]
    exact (doubleIsSbnorm_iff x).trans (or_iff_left hone)
  | normal =>
    rw [Format.classify_eq_normal_iff]
    refine (doubleIsNormal_iff x).trans ?_
    show _ ↔ _ ∧ _ < 2047
    omega
  | infinity =>
    rw [Format.classify_eq_infinity_iff]
    refine iff_of_false (fun h => ?_) fun h => hmax h.1
    exact absurd (doubleIs_of_exponent_max x _ h) (by decide)
  | quietNan =>
    rw [Format.classify_eq_quietNan_iff]
    refine iff_of_false (fun h => ?_) fun h => hmax h.1
    exact absurd (doubleIs_of_exponent_max x _ h) (by decide)
  | signallingNan =>
    rw [Format.classify_eq_signallingNan_iff]
    refine iff_of_false (fun h => ?_) fun h => hmax h.1
    exact absurd (doubleIs_of_exponent_max x _ h) (by decide)

end Double

/-! ## Agreement -/

/-- Every exponent but those that differ from an extreme one, or from its
neighbour, in the bit that is not read. -/
def FpuNumber.ReadExactly : FpuNumber → Prop
  | .single _ => True
  | .double x => binary64.exponent x ≠ 1 ∧ binary64.exponent x ≠ 2047

theorem classes_exact (x : FpuNumber) :
    (∀ c, x.is c = true ↔ x.classify = c) ↔ x.ReadExactly := by
  cases x with
  | single x => exact iff_of_true (floatIs_iff x) trivial
  | double x =>
    constructor
    · intro h
      constructor
      · intro hone
        have hsubnormal := (h .subnormal).mp ((doubleIsSbnorm_iff x).mpr (Or.inr hone))
        rw [show FpuNumber.classify (.double x) = binary64.classify x from rfl,
          Format.classify_eq_subnormal_iff] at hsubnormal
        omega
      · intro hmax
        have hnormal := (h .normal).mp ((doubleIsNormal_iff x).mpr (by omega))
        rw [show FpuNumber.classify (.double x) = binary64.classify x from rfl,
          Format.classify_eq_normal_iff] at hnormal
        exact absurd hnormal.2 (by rw [hmax]; decide)
    · rintro ⟨hone, hmax⟩
      exact doubleIs_iff x hone hmax

/-- The smallest normal number counts as subnormal. -/
theorem smallest_normal_misread :
    ¬ ∀ x : FpuNumber, ∀ c, x.is c = true ↔ x.classify = c := by
  intro h
  have hsubnormal := (h (.double dblMin) .subnormal).mp (by decide)
  exact absurd hsubnormal (by decide)

end Athrill
