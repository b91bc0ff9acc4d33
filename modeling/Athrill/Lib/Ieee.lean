import Athrill.Lib.Bits

/-!
# Binary interchange formats

A number is a sign bit, an exponent and a mantissa, from the high bits to the
low ones, in a word of any width that holds them.

* `Format`: the lengths of the two fields.
* `Format.classify`: the six classes of bit patterns.
* `Format.flushOperand`, `Format.flushResult`: subnormal numbers are replaced
  by a zero or by the smallest normal number.
-/

namespace Ieee

/-- The lengths of the exponent and of the mantissa. -/
structure Format where
  exponentBits : Nat
  mantissaBits : Nat
  exponent_pos : 0 < exponentBits
  mantissa_pos : 0 < mantissaBits

def binary32 : Format := ⟨8, 23, by decide, by decide⟩
def binary64 : Format := ⟨11, 52, by decide, by decide⟩

/-- The classes of bit patterns. -/
inductive Class where
  | zero | subnormal | normal | infinity | quietNan | signallingNan
  deriving DecidableEq, Repr

/-- The directions of rounding. -/
inductive Rounding where
  | nearest | towardZero | up | down
  deriving DecidableEq, Repr

namespace Format

variable (f : Format) {w : Nat}

/-! ## Fields -/

def signPos : Nat := f.exponentBits + f.mantissaBits

def sign (x : BitVec w) : Bool := x.getLsbD f.signPos

/-- The biased exponent. -/
def exponent (x : BitVec w) : Nat := x.toNat / 2 ^ f.mantissaBits % 2 ^ f.exponentBits

/-- The trailing part of the mantissa. -/
def mantissa (x : BitVec w) : Nat := x.toNat % 2 ^ f.mantissaBits

/-- The highest bit of the mantissa tells the two kinds of NaN apart. -/
def quiet (x : BitVec w) : Bool := x.getLsbD (f.mantissaBits - 1)

/-! ## Classes -/

def classify (x : BitVec w) : Class :=
  if f.exponent x = 0 then
    if f.mantissa x = 0 then .zero else .subnormal
  else if f.exponent x = 2 ^ f.exponentBits - 1 then
    if f.mantissa x = 0 then .infinity
    else if f.quiet x then .quietNan
    else .signallingNan
  else .normal

theorem maxExponent_pos : 0 < 2 ^ f.exponentBits - 1 := by
  have htwo : 2 ^ 1 ≤ 2 ^ f.exponentBits := Nat.pow_le_pow_right (by omega) f.exponent_pos
  omega

variable {f} {x : BitVec w}

theorem exponent_le_max : f.exponent x ≤ 2 ^ f.exponentBits - 1 := by
  have hlt : f.exponent x < 2 ^ f.exponentBits := Nat.mod_lt _ (Nat.two_pow_pos _)
  omega

/-- The two extreme exponents differ. -/
theorem exponent_ne_max (hx : f.exponent x = 0) : f.exponent x ≠ 2 ^ f.exponentBits - 1 := by
  have hpos := f.maxExponent_pos
  omega

theorem classify_eq_zero_iff :
    f.classify x = .zero ↔ f.exponent x = 0 ∧ f.mantissa x = 0 := by
  unfold classify
  split_ifs <;> simp_all

theorem classify_eq_subnormal_iff :
    f.classify x = .subnormal ↔ f.exponent x = 0 ∧ f.mantissa x ≠ 0 := by
  unfold classify
  split_ifs <;> simp_all

theorem classify_eq_normal_iff :
    f.classify x = .normal ↔ 0 < f.exponent x ∧ f.exponent x < 2 ^ f.exponentBits - 1 := by
  have hle : f.exponent x ≤ 2 ^ f.exponentBits - 1 := exponent_le_max
  unfold classify
  split_ifs <;> simp <;> omega

theorem classify_eq_infinity_iff :
    f.classify x = .infinity ↔
      f.exponent x = 2 ^ f.exponentBits - 1 ∧ f.mantissa x = 0 := by
  have hne := @exponent_ne_max f w x
  unfold classify
  split_ifs <;> simp_all

theorem classify_eq_quietNan_iff :
    f.classify x = .quietNan ↔
      f.exponent x = 2 ^ f.exponentBits - 1 ∧ f.mantissa x ≠ 0 ∧ f.quiet x = true := by
  have hne := @exponent_ne_max f w x
  unfold classify
  split_ifs <;> simp_all

theorem classify_eq_signallingNan_iff :
    f.classify x = .signallingNan ↔
      f.exponent x = 2 ^ f.exponentBits - 1 ∧ f.mantissa x ≠ 0 ∧ f.quiet x = false := by
  have hne := @exponent_ne_max f w x
  unfold classify
  split_ifs <;> simp_all

/-! ## Flushing -/

variable (f) (w)

/-- The zero of a sign. -/
def zero (negative : Bool) : BitVec w :=
  Bits.putBit 0 f.signPos negative

/-- The smallest normal number of a sign. -/
def minNormal (negative : Bool) : BitVec w :=
  Bits.putBit (BitVec.twoPow w f.mantissaBits) f.signPos negative

variable {w}

/-- A subnormal operand is replaced by the zero of its sign. -/
def flushOperand (x : BitVec w) : BitVec w :=
  if f.classify x = .subnormal then f.zero w (f.sign x) else x

/-- A subnormal result is replaced by the smallest normal number where this is
the direction of rounding, else by the zero of its sign. -/
def flushResult (rounding : Rounding) (x : BitVec w) : BitVec w :=
  if f.classify x = .subnormal then
    match rounding with
    | .nearest => f.zero w (f.sign x)
    | .towardZero => f.zero w (f.sign x)
    | .up => if f.sign x then f.zero w true else f.minNormal w false
    | .down => if f.sign x then f.minNormal w true else f.zero w false
  else x

end Format

end Ieee
