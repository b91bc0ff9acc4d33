import Athrill.Dec.Lossless
import Athrill.Exec.Memory

/-!
# Displacements from the encoding

The executors put a displacement together from one or two fields and extend it.
Here each of them is a slice of the instruction.

* `opSignExtend_setWidth`, `opZeroExtend_eq`: the extensions of a narrower value.
* `bits_shift_mask`: a slice of a slice.
* `shiftLeft_or_bits`, `bits_append`: two fields as one slice.
* `shiftLeft_setWidth`: a displacement in halfwords or words.
* `disp7_opDecode4A`, `disp16_opDecode7`, `disp23_opDecode14`: the displacements.
-/

namespace Athrill

/-- `op_sign_extend` at the top bit of a narrower value. -/
theorem opSignExtend_setWidth {n : Nat} (hn : n < 32) (x : BitVec (n + 1)) :
    opSignExtend n (x.setWidth 32) = x.signExtend 32 := by
  have hmsb : x.msb = x.getLsbD n := BitVec.msb_eq_getLsbD_last x
  have hbit : (x.setWidth 32).getLsbD n = x.getLsbD n := by
    rw [BitVec.getLsbD_setWidth, decide_eq_true hn, Bool.true_and]
  unfold opSignExtend
  rw [hbit]
  apply BitVec.eq_of_getLsbD_eq
  intro i hi
  rw [BitVec.getLsbD_signExtend, hmsb, decide_eq_true hi, Bool.true_and]
  by_cases hneg : x.getLsbD n = true
  · rw [if_pos hneg, BitVec.getLsbD_or, BitVec.getLsbD_shiftLeft, BitVec.getLsbD_setWidth,
      BitVec.getLsbD_allOnes]
    by_cases hlow : i < n
    · have hle : i < n + 1 := by omega
      simp [hlow, hle, hi]
    · have hsub : i - n < 32 := by omega
      by_cases heq : i = n
      · rw [heq]
        simp [hneg, hn]
      · have hgt : ¬ i < n + 1 := by omega
        simp [hlow, hgt, hi, hsub, hneg]
  · rw [if_neg hneg, BitVec.getLsbD_setWidth]
    have hfalse : x.getLsbD n = false := Bool.eq_false_iff.mpr hneg
    by_cases hle : i < n + 1
    · simp [hle, hi]
    · rw [if_neg hle, hfalse, BitVec.getLsbD_of_ge x i (by omega), Bool.and_false]

/-- `op_zero_extend` keeps the low bits. -/
theorem opZeroExtend_eq (n : Nat) (x : Word) : opZeroExtend n x = (x.setWidth n).setWidth 32 := by
  unfold opZeroExtend
  apply BitVec.eq_of_getLsbD_eq
  intro i hi
  rw [BitVec.getLsbD_and, BitVec.getLsbD_not, BitVec.getLsbD_shiftLeft, BitVec.getLsbD_allOnes,
    BitVec.getLsbD_setWidth, BitVec.getLsbD_setWidth]
  by_cases hlow : i < n
  · simp [hi, hlow]
  · have hsub : i - n < 32 := by omega
    simp [hlow, hsub]

/-- `op_zero_extend` of a value that is short enough. -/
theorem opZeroExtend_setWidth {n m : Nat} (hm : m ≤ n) (x : BitVec m) :
    opZeroExtend n (x.setWidth 32) = x.setWidth 32 := by
  rw [opZeroExtend_eq]
  apply BitVec.eq_of_getLsbD_eq
  intro i hi
  rw [BitVec.getLsbD_setWidth, BitVec.getLsbD_setWidth, BitVec.getLsbD_setWidth]
  by_cases hin : i < m
  · have hn : i < n := by omega
    simp [hi, hn]
  · simp [BitVec.getLsbD_of_ge x i (Nat.not_lt.mp hin)]

/-- Zero bits put behind a value. -/
theorem shiftLeft_setWidth {m n : Nat} (hfit : m + n ≤ 32) (x : BitVec m) :
    x.setWidth 32 <<< n = (x ++ 0#n).setWidth 32 := by
  apply BitVec.eq_of_getLsbD_eq
  intro i hi
  rw [BitVec.getLsbD_shiftLeft, BitVec.getLsbD_setWidth, BitVec.getLsbD_setWidth,
    BitVec.getLsbD_append]
  by_cases hlow : i < n
  · simp [hlow]
  · have h32 : i - n < 32 := by omega
    simp [hlow, hi, h32]

theorem shiftLeft_eq_twoPow_mul (x : Word) (n : Nat) : x <<< n = BitVec.twoPow 32 n * x := by
  rw [BitVec.shiftLeft_eq_mul_twoPow, BitVec.mul_comm]

section Slices

variable (code : OpCode)

/-- A slice in a word that is longer. -/
theorem bits_setWidth {hi lo n : Nat} (hn : hi + 1 - lo = n) :
    (bits code hi lo : Word) = (bits code hi lo : BitVec n).setWidth 32 := by
  apply BitVec.eq_of_getLsbD_eq
  intro i hi32
  rw [BitVec.getLsbD_setWidth, getLsbD_bits, getLsbD_bits, hn]
  by_cases hin : i < n
  · simp [hin, hi32]
  · simp [hin]

/-- A slice that is cut out of a slice. -/
theorem bits_shift_mask {hi lo k n : Nat} {mask : Word}
    (hmask : ∀ j : Fin 32, mask.getLsbD j.val = decide (j.val < n)) (hfit : k + n ≤ 32)
    (hin : lo + k + n ≤ hi + 1) (hn : 0 < n) :
    (bits code hi lo : Word) >>> k &&& mask = bits code (lo + k + n - 1) (lo + k) := by
  apply BitVec.eq_of_getLsbD_eq
  intro i hi32
  rw [BitVec.getLsbD_and, BitVec.getLsbD_ushiftRight, getLsbD_bits, getLsbD_bits, hmask ⟨i, hi32⟩]
  show (_ && decide (i < n)) = _
  by_cases hlow : i < n
  · have h32 : k + i < 32 := by omega
    have hlen : k + i < hi + 1 - lo := by omega
    have hlen' : i < lo + k + n - 1 + 1 - (lo + k) := by omega
    have hpos : lo + (k + i) = lo + k + i := by omega
    simp [hlow, h32, hlen, hlen', hi32, hpos]
  · have hlen : ¬ i < lo + k + n - 1 + 1 - (lo + k) := by omega
    simp [hlow, hlen]

/-- Two fields that are joined. -/
theorem shiftLeft_or_bits {hi lo hi' lo' m n : Nat} (hm : hi + 1 - lo = m)
    (hn : hi' + 1 - lo' = n) (hfit : m + n ≤ 32) :
    (bits code hi lo : Word) <<< n ||| (bits code hi' lo' : Word) =
      ((bits code hi lo : BitVec m) ++ (bits code hi' lo' : BitVec n)).setWidth 32 := by
  apply BitVec.eq_of_getLsbD_eq
  intro i hi32
  rw [BitVec.getLsbD_or, BitVec.getLsbD_shiftLeft, BitVec.getLsbD_setWidth, BitVec.getLsbD_append,
    getLsbD_bits, getLsbD_bits, getLsbD_bits, getLsbD_bits, hm, hn]
  by_cases hlow : i < n
  · simp [hlow, hi32]
  · by_cases hhigh : i - n < m
    · have h32 : i - n < 32 := by omega
      simp [hlow, hhigh, hi32, h32]
    · simp [hlow, hhigh]

/-- Two fields that are next to each other. -/
theorem bits_append {hi mid mid' lo m n : Nat} (hm : hi + 1 = mid + m) (hn : mid = lo + n)
    (hmid : mid' + 1 = mid) :
    (bits code hi mid : BitVec m) ++ (bits code mid' lo : BitVec n) =
      (bits code hi lo : BitVec (m + n)) := by
  apply BitVec.eq_of_getLsbD_eq
  intro i hi'
  rw [BitVec.getLsbD_append, getLsbD_bits, getLsbD_bits, getLsbD_bits]
  by_cases hlow : i < n
  · have hlen : i < mid' + 1 - lo := by omega
    have hlen' : i < hi + 1 - lo := by omega
    simp [hlow, hlen, hlen', hi']
  · have hhigh : i - n < m := by omega
    have hlen : i - n < hi + 1 - mid := by omega
    have hlen' : i < hi + 1 - lo := by omega
    have hpos : mid + (i - n) = lo + i := by omega
    simp [hlow, hhigh, hlen, hlen', hi', hpos]

end Slices

namespace Exec

/-! ## The displacements -/

section Displacements

variable (code : OpCode)

theorem disp7_opDecode4A :
    disp7 (opDecode4A code) = (bits code 6 0 : BitVec 7).setWidth 32 := by
  have hdisp : (opDecode4A code).disp = bits code 6 1 :=
    field32_zero code 6 1 (by omega) (by decide)
  have hgen : (opDecode4A code).gen = bits code 0 0 :=
    field32_zero code 0 0 (by omega) (by decide)
  unfold disp7
  rw [hdisp, hgen,
    shiftLeft_or_bits code (show 6 + 1 - 1 = 6 by omega) (show 0 + 1 - 0 = 1 by omega) (by omega),
    bits_append code (by omega) (by omega) (by omega)]
  exact opZeroExtend_setWidth (Nat.le_refl 7) _

/-- The displacement of `SLD.W` and `SST.W`, in words. -/
theorem disp6_opDecode4A :
    opZeroExtend 6 (opDecode4A code).disp = (bits code 6 1 : BitVec 6).setWidth 32 := by
  have hdisp : (opDecode4A code).disp = bits code 6 1 :=
    field32_zero code 6 1 (by omega) (by decide)
  rw [hdisp, bits_setWidth code (show 6 + 1 - 1 = 6 by omega)]
  exact opZeroExtend_setWidth (Nat.le_refl 6) _

theorem disp4_opDecode4B : (opDecode4B code).disp = (bits code 3 0 : BitVec 4).setWidth 32 := by
  have hdisp : (opDecode4B code).disp = bits code 3 0 :=
    field32_zero code 3 0 (by omega) (by decide)
  rw [hdisp, bits_setWidth code (show 3 + 1 - 0 = 4 by omega)]

/-- The displacement of `SLD.HU`. -/
theorem disp5_opDecode4B :
    opZeroExtend 5 ((opDecode4B code).disp <<< 1) = 2 * (bits code 3 0 : BitVec 4).setWidth 32 := by
  rw [disp4_opDecode4B, shiftLeft_setWidth (by omega), opZeroExtend_setWidth (Nat.le_refl 5),
    ← shiftLeft_setWidth (by omega)]
  exact shiftLeft_eq_twoPow_mul _ 1

theorem reg1_opDecode7 : (opDecode7 code).reg1 = bits code 4 0 :=
  field_zero code 4 0 (by omega) (by decide)

theorem reg2_opDecode7 : (opDecode7 code).reg2 = bits code 15 11 :=
  field_zero code 15 11 (by omega) (by decide)

theorem disp_opDecode7 : (opDecode7 code).disp = bits code 31 17 :=
  field32_one code 15 1 (by omega) (by decide)

theorem disp16_opDecode7 :
    disp16 (opDecode7 code) (opDecode7 code).gen = (bits code 31 16 : BitVec 16).signExtend 32 := by
  have hdisp : (opDecode7 code).disp = bits code 31 17 :=
    field32_one code 15 1 (by omega) (by decide)
  have hgen : (opDecode7 code).gen = bits code 16 16 :=
    field32_one code 0 0 (by omega) (by decide)
  unfold disp16
  rw [hdisp, hgen,
    shiftLeft_or_bits code (show 31 + 1 - 17 = 15 by omega) (show 16 + 1 - 16 = 1 by omega)
      (by omega),
    bits_append code (by omega) (by omega) (by omega)]
  exact opSignExtend_setWidth (by omega) _

/-- The displacement of `LD.BU`, with the low bit of the opcode. -/
theorem disp16_opcode_opDecode7 :
    disp16 (opDecode7 code) (((opDecode7 code).opcode &&& 0x0001#16).setWidth 32) =
      ((bits code 31 17 : BitVec 15) ++ (bits code 5 5 : BitVec 1)).signExtend 32 := by
  have hdisp : (opDecode7 code).disp = bits code 31 17 :=
    field32_one code 15 1 (by omega) (by decide)
  have hopcode : ((opDecode7 code).opcode &&& 0x0001#16).setWidth 32 = (bits code 5 5 : Word) := by
    have hfield : (opDecode7 code).opcode = bits code 10 5 :=
      field_zero code 10 5 (by omega) (by decide)
    have hone : ∀ j : Fin 16, (0x0001#16).getLsbD j.val = decide (j.val < 1) := by decide
    rw [hfield, ← setWidth_bits code (show 5 < 5 + 16 by omega)]
    congr 1
    apply BitVec.eq_of_getLsbD_eq
    intro i hi
    rw [BitVec.getLsbD_and, getLsbD_bits, getLsbD_bits, hone ⟨i, hi⟩]
    by_cases h1 : i < 1
    · have h6 : i < 6 := by omega
      simp [h1, h6, hi]
    · simp [h1]
  unfold disp16
  rw [hdisp, hopcode,
    shiftLeft_or_bits code (show 31 + 1 - 17 = 15 by omega) (show 5 + 1 - 5 = 1 by omega)
      (by omega)]
  exact opSignExtend_setWidth (by omega) _

/-- The displacement of the halfwords and words. -/
theorem disp16_zero_opDecode7 :
    disp16 (opDecode7 code) 0 = ((bits code 31 17 : BitVec 15) ++ 0#1).signExtend 32 := by
  have hdisp : (opDecode7 code).disp = bits code 31 17 :=
    field32_one code 15 1 (by omega) (by decide)
  have hjoin : (bits code 31 17 : Word) <<< 1 ||| 0#32 =
      ((bits code 31 17 : BitVec 15) ++ 0#1).setWidth 32 := by
    rw [BitVec.or_zero, bits_setWidth code (show 31 + 1 - 17 = 15 by omega)]
    exact shiftLeft_setWidth (by omega) _
  unfold disp16
  rw [hdisp]
  show opSignExtend 15 ((bits code 31 17 : Word) <<< 1 ||| 0#32) = _
  rw [hjoin]
  exact opSignExtend_setWidth (by omega) _

theorem disp23_opDecode14 :
    disp23 (opDecode14 code) =
      ((bits code 47 32 : BitVec 16) ++ (bits code 26 20 : BitVec 7)).signExtend 32 := by
  have hlow : (opDecode14 code).dispLow = bits code 26 20 :=
    field32_one code 10 4 (by omega) (by decide)
  have hhigh : (opDecode14 code).dispHigh = bits code 47 32 := by
    apply BitVec.eq_of_getLsbD_eq
    intro i hi
    show ((code 2).setWidth 32).getLsbD i = _
    rw [BitVec.getLsbD_setWidth, getLsbD_bits, getLsbD_insn]
    by_cases h16 : i < 16
    · have h32 : ¬ 32 + i < 32 := by omega
      have hlow16 : ¬ 32 + i < 16 := by omega
      simp [h16, h32, hlow16, hi]
    · rw [BitVec.getLsbD_of_ge (code 2) i (Nat.not_lt.mp h16)]
      simp [h16]
  unfold disp23
  rw [hlow, hhigh,
    shiftLeft_or_bits code (show 47 + 1 - 32 = 16 by omega) (show 26 + 1 - 20 = 7 by omega)
      (by omega)]
  exact opSignExtend_setWidth (by omega) _

end Displacements

end Exec

end Athrill
