import Mathlib.Data.Nat.Bitwise
import Mathlib.Tactic.SplitIfs

/-!
# Shifted words

When a shifted bit vector is zero, what its top bit is, when the two right
shifts agree, and a rotation bit by bit.
-/

namespace Shifts

variable {w : Nat} (v : BitVec w) {c : Nat}

theorem shiftLeft_eq_zero_iff (hc : c ≤ w) : v <<< c = 0#w ↔ v.toNat % 2 ^ (w - c) = 0 := by
  have hpow : 2 ^ w = 2 ^ (w - c) * 2 ^ c := by
    rw [← Nat.pow_add, Nat.sub_add_cancel hc]
  have hval : (v <<< c).toNat = v.toNat % 2 ^ (w - c) * 2 ^ c := by
    rw [BitVec.toNat_shiftLeft, Nat.shiftLeft_eq, hpow, Nat.mul_mod_mul_right]
  rw [← BitVec.toNat_inj, hval, BitVec.toNat_zero, Nat.mul_eq_zero]
  have hpos : 2 ^ c ≠ 0 := (Nat.two_pow_pos c).ne'
  constructor
  · rintro (h | h)
    · exact h
    · exact absurd h hpos
  · exact Or.inl

theorem ushiftRight_eq_zero_iff (c : Nat) : v >>> c = 0#w ↔ v.toNat < 2 ^ c := by
  rw [← BitVec.toNat_inj, BitVec.toNat_ushiftRight, Nat.shiftRight_eq_div_pow, BitVec.toNat_zero,
    Nat.div_eq_zero_iff]
  have hpos : 2 ^ c ≠ 0 := (Nat.two_pow_pos c).ne'
  constructor
  · rintro (h | h)
    · exact absurd h hpos
    · exact h
  · exact Or.inr

theorem msb_shiftLeft (hc : c < w) : (v <<< c).msb = v.getLsbD (w - 1 - c) := by
  have hlt : w - 1 < w := by omega
  have hnot : ¬ w - 1 < c := by omega
  rw [BitVec.msb_eq_getLsbD_last, BitVec.getLsbD_shiftLeft]
  simp [hlt, hnot]

theorem msb_ushiftRight_eq_msb_iff (c : Nat) :
    (v >>> c).msb = v.msb ↔ v.msb = false ∨ c = 0 := by
  rw [BitVec.msb_ushiftRight]
  by_cases hzero : c = 0
  · simp [hzero]
  · have hpos : 0 < c := by omega
    rw [decide_eq_true hpos]
    cases v.msb with
    | true => simp [hzero]
    | false => simp

/-- The arithmetic shift is the logical one unless there is a sign to fill in. -/
theorem ushiftRight_eq_sshiftRight_iff (hc : c < w) :
    v >>> c = v.sshiftRight c ↔ v.msb = false ∨ c = 0 := by
  constructor
  · intro h
    rw [← msb_ushiftRight_eq_msb_iff, h, BitVec.msb_sshiftRight]
  · rintro (hmsb | rfl)
    · exact (BitVec.sshiftRight_eq_of_msb_false hmsb).symm
    · rw [BitVec.sshiftRight_zero, BitVec.ushiftRight_zero]

/-! ## Rotations -/

/-- Rotating twice. -/
theorem rotateLeft_rotateLeft (a b : Nat) :
    (v.rotateLeft a).rotateLeft b = v.rotateLeft ((a + b) % w) := by
  apply BitVec.eq_of_getMsbD_eq
  intro n hn
  have hin : (b + n) % w < w := Nat.mod_lt _ (by omega)
  rw [BitVec.getMsbD_rotateLeft, BitVec.getMsbD_rotateLeft, BitVec.getMsbD_rotateLeft,
    decide_eq_true hn, decide_eq_true hin, Bool.true_and, Bool.true_and, Bool.true_and,
    Nat.mod_add_mod, Nat.add_mod_mod, Nat.add_assoc]

/-- A rotation by shifting in the top bits of `v`, one after the other. -/
def rotateIn (n : Nat) : BitVec w :=
  (List.range n).foldl (fun data i => (data <<< 1) ||| if v.getLsbD (w - 1 - i) then 1 else 0) v

theorem rotateIn_succ (n : Nat) :
    rotateIn v (n + 1) = (rotateIn v n <<< 1) ||| if v.getLsbD (w - 1 - n) then 1 else 0 := by
  unfold rotateIn
  rw [List.range_succ, List.foldl_append]
  rfl

/-- The bits after `n` passes: the top bits of `v` below, the others above. -/
theorem getLsbD_rotateIn {n : Nat} (hn : n ≤ w) {i : Nat} (hi : i < w) :
    (rotateIn v n).getLsbD i = if i < n then v.getLsbD (w - n + i) else v.getLsbD (i - n) := by
  induction n generalizing i with
  | zero => rfl
  | succ n ih =>
    have hbit : (if v.getLsbD (w - 1 - n) then 1 else 0 : BitVec w).getLsbD i =
        (decide (i = 0) && v.getLsbD (w - 1 - n)) := by
      cases v.getLsbD (w - 1 - n) with
      | true =>
        rw [if_pos rfl, Bool.and_true]
        show (1#w).getLsbD i = _
        rw [BitVec.getLsbD_one]
        simp [show 0 < w by omega]
      | false => simp
    rw [rotateIn_succ, BitVec.getLsbD_or, hbit, BitVec.getLsbD_shiftLeft, decide_eq_true hi]
    by_cases hzero : i = 0
    · subst hzero
      rw [if_pos (by omega)]
      have hpos : w - 1 - n = w - (n + 1) + 0 := by omega
      simp [hpos]
    · have hone : ¬ i < 1 := by omega
      rw [ih (by omega) (show i - 1 < w by omega)]
      by_cases hlow : i < n + 1
      · rw [if_pos hlow, if_pos (by omega)]
        have hpos : w - n + (i - 1) = w - (n + 1) + i := by omega
        simp [hzero, hone, hpos]
      · rw [if_neg hlow, if_neg (by omega)]
        have hpos : i - 1 - n = i - (n + 1) := by omega
        simp [hzero, hone, hpos]

theorem rotateIn_eq_rotateLeft {n : Nat} (hn : n ≤ w) : rotateIn v n = v.rotateLeft n := by
  apply BitVec.eq_of_getLsbD_eq
  intro i hi
  rw [getLsbD_rotateIn v hn hi, BitVec.getLsbD_rotateLeft]
  rcases Nat.lt_or_eq_of_le hn with hlt | rfl
  · rw [Nat.mod_eq_of_lt hlt]
    by_cases hlow : i < n
    · simp [hlow]
    · simp [hlow, hi]
  · rw [Nat.mod_self]
    simp [hi]

end Shifts
