import Athrill.Can.Mapping

/-!
# Words and bytes of the registers

A register is four bytes, the lowest first.  The handlers work on words, and
stores of the three widths write bytes.

* `wordByte_read`, `getLsbD_read`: the bytes and bits of a register.
* `read_write`, `read_write_of_ne`: a register after a handler has written one.
* `getLsbD_canRegUpdateRegBit`: one bit of a status word.
-/

namespace Athrill

theorem getLsbD_wordByte (data : BitVec 32) (i j : Nat) :
    (wordByte data i).getLsbD j = (decide (j < 8) && data.getLsbD (8 * i + j)) := by
  simp [wordByte]

/-- A bit of a register is one of its bytes. -/
theorem getLsbD_read (offset : Nat) (memory : CanMemory) {i j : Nat} (hi : i < 4) (hj : j < 8) :
    (canRegisterReadData32 offset memory).getLsbD (8 * i + j) = (memory (offset + i)).getLsbD j := by
  unfold canRegisterReadData32
  simp only [BitVec.getLsbD_append]
  match i, hi with
  | 0, _ => simp [hj]
  | 1, _ =>
    have h0 : ¬ 8 * 1 + j < 8 := by omega
    have h1 : 8 * 1 + j - 8 < 8 := by omega
    have heq : 8 * 1 + j - 8 = j := by omega
    simp [heq, hj]
  | 2, _ =>
    have h0 : ¬ 8 * 2 + j < 8 := by omega
    have h1 : ¬ 8 * 2 + j - 8 < 8 := by omega
    have heq : 8 * 2 + j - 8 - 8 = j := by omega
    simp [h0, h1, heq, hj]
  | 3, _ =>
    have h0 : ¬ 8 * 3 + j < 8 := by omega
    have h1 : ¬ 8 * 3 + j - 8 < 8 := by omega
    have h2 : ¬ 8 * 3 + j - 8 - 8 < 8 := by omega
    have heq : 8 * 3 + j - 8 - 8 - 8 = j := by omega
    simp [h0, h1, h2, heq]

theorem wordByte_read (offset : Nat) (memory : CanMemory) {i : Nat} (hi : i < 4) :
    wordByte (canRegisterReadData32 offset memory) i = memory (offset + i) := by
  refine BitVec.eq_of_getLsbD_eq fun j hj => ?_
  rw [getLsbD_wordByte, getLsbD_read offset memory hi hj]
  simp [hj]

/-- Words with the same bytes are equal. -/
theorem word_ext {data data' : BitVec 32} (h : ∀ i, i < 4 → wordByte data i = wordByte data' i) :
    data = data' := by
  refine BitVec.eq_of_getLsbD_eq fun n hn => ?_
  have hlt : n % 8 < 8 := by omega
  have hsplit : 8 * (n / 8) + n % 8 = n := by omega
  have hbit : (wordByte data (n / 8)).getLsbD (n % 8) = (wordByte data' (n / 8)).getLsbD (n % 8) :=
    congrArg (fun byte => byte.getLsbD (n % 8)) (h (n / 8) (by omega))
  rw [getLsbD_wordByte, getLsbD_wordByte, hsplit] at hbit
  simpa only [hlt, decide_true, Bool.true_and] using hbit

theorem storeBytes_of_mem {size offset i : Nat} {data : BitVec 32} {memory : CanMemory}
    (h : i < size) : storeBytes size offset data memory (offset + i) = wordByte data i := by
  have hin : offset ≤ offset + i ∧ offset + i < offset + size := by omega
  have hsub : offset + i - offset = i := by omega
  unfold storeBytes wordByte
  rw [if_pos hin, hsub]

/-- The handler finds in a register what one has written there. -/
theorem read_write (offset : Nat) (data : BitVec 32) (memory : CanMemory) :
    canRegisterReadData32 offset (canRegisterWriteData32 offset data memory) = data := by
  refine word_ext fun i hi => ?_
  rw [wordByte_read offset _ hi, canRegisterWriteData32, storeBytes_of_mem hi]

/-- A write into another register. -/
theorem write_of_ne {offset i : Nat} (data : BitVec 32) (memory : CanMemory)
    (h : i < offset ∨ offset + 4 ≤ i) : canRegisterWriteData32 offset data memory i = memory i := by
  have hnot : ¬ (offset ≤ i ∧ i < offset + 4) := by omega
  exact if_neg hnot

/-- One bit of a status word. -/
theorem getLsbD_canRegUpdateRegBit (flag : Bool) {bits : Nat} (hbits : bits < 32)
    (data : BitVec 32) (i : Nat) :
    (canRegUpdateRegBit flag bits data).getLsbD i =
      if i = bits then flag else data.getLsbD i := by
  unfold canRegUpdateRegBit
  by_cases hi : i = bits
  · subst hi
    cases flag <;> simp [hbits]
  · have hshift : (1#32 <<< bits).getLsbD i = false := by
      rw [BitVec.getLsbD_shiftLeft, BitVec.getLsbD_one]
      by_cases hlt : i < bits
      · simp [hlt]
      · have hpos : ¬ i - bits = 0 := by omega
        simp [hpos]
    rw [if_neg hi]
    cases flag with
    | true =>
      show (data ||| 1#32 <<< bits).getLsbD i = data.getLsbD i
      rw [BitVec.getLsbD_or, hshift, Bool.or_false]
    | false =>
      show (data &&& ~~~(1#32 <<< bits)).getLsbD i = data.getLsbD i
      rw [BitVec.getLsbD_and, BitVec.getLsbD_not, hshift]
      by_cases hlt : i < 32
      · simp [hlt]
      · rw [BitVec.getLsbD_of_ge _ _ (by omega), Bool.false_and]

end Athrill
