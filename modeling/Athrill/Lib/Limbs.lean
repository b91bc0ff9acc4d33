import Athrill.Lib.Flags

/-!
# Two-limb arithmetic

A program that holds a value wider than its registers keeps it in two limbs,
`hi ++ lo`.  Sum and difference go limb by limb: the carry or borrow of the low
limbs goes into the high ones, and what leaves the high ones is the carry,
borrow or overflow of the whole.

* `toNat_append`, `toInt_append`: the value of two limbs.
* `append_limbs`: a value from its limbs.
* `append_add_append`, `append_sub_append`: sum and difference.
* `carry_append_iff`, `borrow_append_iff`: what leaves the high limbs.
* `outOfRange_append_iff`: overflow is decided by the high limbs.
-/

namespace Limbs

variable {m n : Nat}

/-! ## Values -/

theorem toNat_append (x₁ : BitVec m) (x₀ : BitVec n) :
    (x₁ ++ x₀).toNat = 2 ^ n * x₁.toNat + x₀.toNat := by
  rw [BitVec.toNat_append, ← Nat.shiftLeft_add_eq_or_of_lt x₀.isLt, Nat.shiftLeft_eq,
    Nat.mul_comm]

theorem toInt_append (hm : 0 < m) (x₁ : BitVec m) (x₀ : BitVec n) :
    (x₁ ++ x₀).toInt = 2 ^ n * x₁.toInt + x₀.toNat := by
  have hne : (m == 0) = false := by
    rw [beq_eq_false_iff_ne]
    omega
  rw [BitVec.toInt_append, hne]
  rfl

/-- A value is its high limb before its low limb. -/
theorem append_limbs (x : BitVec (m + n)) : (x >>> n).setWidth m ++ x.setWidth n = x := by
  apply BitVec.eq_of_getLsbD_eq
  intro i hi
  rw [BitVec.getLsbD_append, BitVec.getLsbD_setWidth, BitVec.getLsbD_setWidth,
    BitVec.getLsbD_ushiftRight]
  by_cases hlow : i < n
  · simp [hlow]
  · have hhigh : i - n < m := by omega
    have hback : n + (i - n) = i := by omega
    simp [hlow, hhigh, hback]

/-! ## Sums -/

/-- The carry of the low limbs is the quotient of their sum. -/
theorem div_of_carry (x₀ y₀ : BitVec n) :
    (x₀.toNat + y₀.toNat) / 2 ^ n = if 2 ^ n ≤ x₀.toNat + y₀.toNat then 1 else 0 := by
  have hx : x₀.toNat < 2 ^ n := x₀.isLt
  have hy : y₀.toNat < 2 ^ n := y₀.isLt
  split_ifs with hle
  · rw [Nat.div_eq_sub_div (Nat.two_pow_pos n) hle, Nat.div_eq_of_lt (by omega)]
  · exact Nat.div_eq_of_lt (by omega)

/-- The sum, with the carry of the low limbs added to the high ones. -/
theorem append_add_append (x₁ y₁ : BitVec m) (x₀ y₀ : BitVec n) :
    (x₁ ++ x₀) + (y₁ ++ y₀) =
      (x₁ + y₁ + if 2 ^ n ≤ x₀.toNat + y₀.toNat then 1 else 0) ++ (x₀ + y₀) := by
  obtain ⟨c, hc⟩ : ∃ c : Nat, (if 2 ^ n ≤ x₀.toNat + y₀.toNat then 1 else 0) = c := ⟨_, rfl⟩
  have hword : (if 2 ^ n ≤ x₀.toNat + y₀.toNat then 1 else 0 : BitVec m) = BitVec.ofNat m c := by
    rw [← hc]
    split_ifs <;> rfl
  have hsum : 2 ^ n * x₁.toNat + x₀.toNat + (2 ^ n * y₁.toNat + y₀.toNat) =
      x₀.toNat + y₀.toNat + 2 ^ n * (x₁.toNat + y₁.toNat) := by
    rw [Nat.mul_add]
    omega
  have hdiv : (x₀.toNat + y₀.toNat + 2 ^ n * (x₁.toNat + y₁.toNat)) / 2 ^ n =
      x₁.toNat + y₁.toNat + c := by
    rw [Nat.add_mul_div_left _ _ (Nat.two_pow_pos n), div_of_carry, hc, Nat.add_comm]
  have hmod : (x₀.toNat + y₀.toNat + 2 ^ n * (x₁.toNat + y₁.toNat)) % 2 ^ n =
      (x₀.toNat + y₀.toNat) % 2 ^ n := Nat.add_mul_mod_self_left _ _ _
  have hhigh : (x₁ + y₁ + BitVec.ofNat m c).toNat = (x₁.toNat + y₁.toNat + c) % 2 ^ m := by
    rw [BitVec.toNat_add, BitVec.toNat_add, BitVec.toNat_ofNat, ← Nat.add_mod]
  have hpow : 2 ^ (m + n) = 2 ^ n * 2 ^ m := by
    rw [Nat.pow_add, Nat.mul_comm]
  apply BitVec.eq_of_toNat_eq
  rw [hword, BitVec.toNat_add, toNat_append, toNat_append, toNat_append, hsum, hhigh,
    BitVec.toNat_add, hpow, Nat.mod_mul, hdiv, hmod, Nat.add_comm]

/-- The difference, with the borrow of the low limbs taken from the high ones. -/
theorem append_sub_append (x₁ y₁ : BitVec m) (x₀ y₀ : BitVec n) :
    (x₁ ++ x₀) - (y₁ ++ y₀) =
      (x₁ - y₁ - if x₀.toNat < y₀.toNat then 1 else 0) ++ (x₀ - y₀) := by
  have hx : x₀.toNat < 2 ^ n := x₀.isLt
  have hy : y₀.toNat < 2 ^ n := y₀.isLt
  -- adding the subtrahend again carries where the difference borrowed
  have hcarry : 2 ^ n ≤ (x₀ - y₀).toNat + y₀.toNat ↔ x₀.toNat < y₀.toNat := by
    rw [BitVec.toNat_sub]
    by_cases hlt : x₀.toNat < y₀.toNat
    · rw [Nat.mod_eq_of_lt (by omega)]
      omega
    · have hval : 2 ^ n - y₀.toNat + x₀.toNat = x₀.toNat - y₀.toNat + 2 ^ n := by omega
      rw [hval, Nat.add_mod_right, Nat.mod_eq_of_lt (by omega)]
      omega
  have hback : ((x₁ - y₁ - if x₀.toNat < y₀.toNat then 1 else 0) ++ (x₀ - y₀)) + (y₁ ++ y₀) =
      x₁ ++ x₀ := by
    rw [append_add_append, BitVec.sub_add_cancel]
    congr 1
    by_cases hlt : x₀.toNat < y₀.toNat
    · rw [if_pos hlt, if_pos (hcarry.mpr hlt), BitVec.add_assoc, BitVec.add_comm y₁,
        ← BitVec.add_assoc, BitVec.sub_add_cancel, BitVec.sub_add_cancel]
    · rw [if_neg hlt, if_neg fun h => hlt (hcarry.mp h)]
      simp only [BitVec.ofNat_eq_ofNat, BitVec.sub_zero, BitVec.add_zero]
      exact BitVec.sub_add_cancel x₁ y₁
  rw [← hback, BitVec.add_sub_cancel]

/-! ## What leaves the high limbs -/

theorem two_pow_mul_succ_le (a : Nat) {b l : Nat} (hl : l < 2 ^ n) :
    2 ^ n * b ≤ 2 ^ n * a + l ↔ b ≤ a := by
  constructor
  · intro h
    have hlt : 2 ^ n * b < 2 ^ n * (a + 1) := by
      rw [Nat.mul_add]
      omega
    exact Nat.le_of_lt_succ (Nat.lt_of_mul_lt_mul_left hlt)
  · intro h
    exact Nat.le_trans (Nat.mul_le_mul_left _ h) (Nat.le_add_right _ _)

/-- The whole sum carries exactly when the high limbs do. -/
theorem carry_append_iff (x₁ y₁ : BitVec m) (x₀ y₀ : BitVec n) :
    2 ^ (m + n) ≤ (x₁ ++ x₀).toNat + (y₁ ++ y₀).toNat ↔
      2 ^ m ≤ x₁.toNat + y₁.toNat + if 2 ^ n ≤ x₀.toNat + y₀.toNat then 1 else 0 := by
  have hval : (x₁ ++ x₀).toNat + (y₁ ++ y₀).toNat =
      2 ^ n * (x₁.toNat + y₁.toNat + (x₀.toNat + y₀.toNat) / 2 ^ n) +
        (x₀.toNat + y₀.toNat) % 2 ^ n := by
    have hdiv := Nat.div_add_mod (x₀.toNat + y₀.toNat) (2 ^ n)
    rw [toNat_append, toNat_append, Nat.mul_add, Nat.mul_add]
    omega
  have hpow : 2 ^ (m + n) = 2 ^ n * 2 ^ m := by
    rw [Nat.pow_add, Nat.mul_comm]
  rw [hval, hpow, two_pow_mul_succ_le _ (Nat.mod_lt _ (Nat.two_pow_pos n)), div_of_carry]

/-- The whole difference borrows exactly when the high limbs do. -/
theorem borrow_append_iff (x₁ y₁ : BitVec m) (x₀ y₀ : BitVec n) :
    (x₁ ++ x₀).toNat < (y₁ ++ y₀).toNat ↔
      x₁.toNat < y₁.toNat + if x₀.toNat < y₀.toNat then 1 else 0 := by
  have hx : x₀.toNat < 2 ^ n := x₀.isLt
  have hy : y₀.toNat < 2 ^ n := y₀.isLt
  rw [toNat_append, toNat_append]
  rcases Nat.lt_trichotomy x₁.toNat y₁.toNat with hlt | heq | hgt
  · have hle : 2 ^ n * (x₁.toNat + 1) ≤ 2 ^ n * y₁.toNat := Nat.mul_le_mul_left _ hlt
    rw [Nat.mul_add] at hle
    constructor <;> intro <;> omega
  · rw [heq]
    split_ifs <;> omega
  · have hle : 2 ^ n * (y₁.toNat + 1) ≤ 2 ^ n * x₁.toNat := Nat.mul_le_mul_left _ hgt
    rw [Nat.mul_add] at hle
    split_ifs <;> omega

/-- A low limb does not bring a value out of range. -/
theorem outOfRange_append_iff (hm : 0 < m) (h : Int) {l : Int} (hlow : 0 ≤ l)
    (hl : l < 2 ^ n) :
    Flags.OutOfRange (m + n) (2 ^ n * h + l) ↔ Flags.OutOfRange m h := by
  have hpow : (2 : Int) ^ (m + n - 1) = 2 ^ n * 2 ^ (m - 1) := by
    have hexp : m + n - 1 = n + (m - 1) := by omega
    rw [hexp, Int.pow_add]
  have hpos : (0 : Int) < 2 ^ n := Int.pow_pos (by omega)
  obtain ⟨B, hB⟩ : ∃ B : Int, 2 ^ n = B := ⟨_, rfl⟩
  obtain ⟨P, hP⟩ : ∃ P : Int, 2 ^ (m - 1) = P := ⟨_, rfl⟩
  have hhigh : B * P - 1 < B * h + l ↔ P - 1 < h := by
    constructor
    · intro hlt
      by_contra hle
      have hmul : B * (h + 1) ≤ B * P := Int.mul_le_mul_of_nonneg_left (by omega) (by omega)
      rw [Int.mul_add] at hmul
      omega
    · intro hlt
      have hmul : B * P ≤ B * h := Int.mul_le_mul_of_nonneg_left (by omega) (by omega)
      omega
  have hbelow : B * h + l < -(B * P) ↔ h < -P := by
    constructor
    · intro hlt
      by_contra hle
      have hmul : B * -P ≤ B * h := Int.mul_le_mul_of_nonneg_left (by omega) (by omega)
      rw [Int.mul_neg] at hmul
      omega
    · intro hlt
      have hmul : B * (h + 1) ≤ B * -P := Int.mul_le_mul_of_nonneg_left (by omega) (by omega)
      rw [Int.mul_neg, Int.mul_add] at hmul
      omega
  unfold Flags.OutOfRange
  rw [hpow, hB, hP, hhigh, hbelow]

end Limbs
