import Athrill.Intc.Registers

/-!
# Stores into the register banks

The registers of a bank lie in the cells of one region, so a write of any width
changes a range of cells.

* `icCell`, `imrCell`: the cells that hold the mask bit of a channel.
* `writeCells`: a write of some bytes, with the equations that turn the writes
  of the three widths into it.
-/

namespace Athrill

open Bits

/-! ## Cells -/

/-- The cells of an IC register. -/
theorem mpuGetPointer_icAddress (c : CoreId) (n : Nat) :
    mpuGetPointer c (icAddress n) =
      if n ≤ 31 then ⟨.intc1, 2 * n + c.val * 0x200⟩
      else ⟨.intc2, 0x40 + 2 * (n - 32) + c.val * 0x1000⟩ := by
  unfold mpuGetPointer icAddress intcRegionOf
  split_ifs with h₁ h₂ h₂
  · omega
  · simp only [IntcRegion.start, IntcRegion.size, IntcCell.mk.injEq, true_and]
    omega
  · simp only [IntcRegion.start, IntcRegion.size, IntcCell.mk.injEq, true_and]
    omega
  · omega

/-- The lowest cell of an IMR register. -/
theorem mpuGetPointer_imrAddress (c : CoreId) (n : Nat) :
    mpuGetPointer c (imrAddress n) =
      if n ≤ 31 then ⟨.intc1, 0xF0 + c.val * 0x200⟩
      else ⟨.intc2, 0x400 + n / 32 * 4 + c.val * 0x1000⟩ := by
  unfold mpuGetPointer imrAddress intcRegionOf
  split_ifs with h₁ h₂ h₂
  · omega
  · rfl
  · simp only [IntcRegion.start, IntcRegion.size, IntcCell.mk.injEq, true_and]
    omega
  · omega

/-- The cell with the mask bit of an IC register. -/
def icCell (c : CoreId) (n : Nat) : IntcCell :=
  mpuGetPointer c (icAddress n)

/-- The cell with the mask bit of channel `n` in its IMR register. -/
def imrCell (c : CoreId) (n : Nat) : IntcCell :=
  (mpuGetPointer c (imrAddress n)).add (n % 32 / 8)

theorem icCell_eq (c : CoreId) (n : Nat) :
    icCell c n = if n ≤ 31 then ⟨.intc1, 2 * n + c.val * 0x200⟩
      else ⟨.intc2, 0x40 + 2 * (n - 32) + c.val * 0x1000⟩ :=
  mpuGetPointer_icAddress c n

theorem imrCell_eq (c : CoreId) (n : Nat) :
    imrCell c n = if n ≤ 31 then ⟨.intc1, 0xF0 + n / 8 + c.val * 0x200⟩
      else ⟨.intc2, 0x400 + n / 8 + c.val * 0x1000⟩ := by
  unfold imrCell
  rw [mpuGetPointer_imrAddress]
  split_ifs with h
  · show IntcCell.mk _ _ = _
    simp only [IntcCell.mk.injEq, true_and]
    omega
  · show IntcCell.mk _ _ = _
    simp only [IntcCell.mk.injEq, true_and]
    omega

/-! ## Stores -/

/-- The cell lies among the `len` cells from `cell` on. -/
def InCells (cell : IntcCell) (len : Nat) (target : IntcCell) : Prop :=
  target.region = cell.region ∧ cell.index ≤ target.index ∧ target.index < cell.index + len

instance (cell : IntcCell) (len : Nat) (target : IntcCell) : Decidable (InCells cell len target) :=
  inferInstanceAs (Decidable (_ ∧ _ ∧ _))

/-- `len` bytes are written from `cell` on. -/
def writeCells (memory : IntcMemory) (cell : IntcCell) (len : Nat) (data : Nat → Byte) :
    IntcMemory :=
  fun target => if InCells cell len target then data (target.index - cell.index) else memory target

theorem writeCells_of_inCells {memory : IntcMemory} {cell target : IntcCell} {len : Nat}
    {data : Nat → Byte} (h : InCells cell len target) :
    writeCells memory cell len data target = data (target.index - cell.index) :=
  if_pos h

theorem writeCells_of_not_inCells {memory : IntcMemory} {cell target : IntcCell} {len : Nat}
    {data : Nat → Byte} (h : ¬ InCells cell len target) :
    writeCells memory cell len data target = memory target :=
  if_neg h

/-- The byte `k` of a value of any width. -/
def byteOf {w : Nat} (data : BitVec w) (k : Nat) : Byte :=
  (data >>> (8 * k)).truncate 8

theorem writeCells_congr (memory : IntcMemory) (cell : IntcCell) {len : Nat}
    {data data' : Nat → Byte} (h : ∀ k < len, data k = data' k) :
    writeCells memory cell len data = writeCells memory cell len data' := by
  funext target
  by_cases hw : InCells cell len target
  · obtain ⟨_, hle, hlt⟩ := id hw
    rw [writeCells_of_inCells hw, writeCells_of_inCells hw]
    exact h _ (by omega)
  · rw [writeCells_of_not_inCells hw, writeCells_of_not_inCells hw]

theorem put8_eq_writeCells (memory : IntcMemory) (cell : IntcCell) (data : Byte) :
    memory.put8 cell data = writeCells memory cell 1 (byteOf data) := by
  have hsame (target : IntcCell) : InCells cell 1 target ↔ target = cell := by
    obtain ⟨region, index⟩ := cell
    obtain ⟨region', index'⟩ := target
    unfold InCells
    rw [IntcCell.mk.injEq]
    exact ⟨fun ⟨hr, hle, hlt⟩ => ⟨hr, by dsimp only at hle hlt; omega⟩,
      fun ⟨hr, hi⟩ => ⟨hr, hi.ge, by dsimp only; omega⟩⟩
  funext target
  unfold IntcMemory.put8
  rw [Function.update_apply]
  by_cases h : target = cell
  · rw [if_pos h, writeCells_of_inCells ((hsame target).mpr h), h]
    simp [byteOf]
  · rw [if_neg h, writeCells_of_not_inCells (mt (hsame target).mp h)]

/-- Stores of adjacent ranges. -/
theorem writeCells_writeCells (memory : IntcMemory) (cell : IntcCell) (len len' : Nat)
    (data data' : Nat → Byte) :
    writeCells (writeCells memory cell len data) (cell.add len) len' data' =
      writeCells memory cell (len + len') fun k => if k < len then data k else data' (k - len) := by
  funext target
  obtain ⟨region, index⟩ := cell
  obtain ⟨region', index'⟩ := target
  unfold writeCells IntcCell.add
  simp only [InCells]
  by_cases hr : region' = region
  · subst hr
    simp only [true_and]
    split_ifs <;> first | rfl | omega | (congr 1; omega)
  · simp [hr]

theorem byteOf_truncate {w : Nat} (data : BitVec w) {v k : Nat} (hk : 8 * k + 8 ≤ v) :
    byteOf (data.truncate v) k = byteOf data k := by
  apply BitVec.eq_of_getLsbD_eq
  intro i hi
  have hlt : 8 * k + i < v := by omega
  simp [byteOf, BitVec.getLsbD_ushiftRight, hi, hlt]

theorem byteOf_shift {w : Nat} (data : BitVec w) {v j k : Nat} (hk : 8 * k + 8 ≤ v) :
    byteOf ((data >>> (8 * j)).truncate v) k = byteOf data (j + k) := by
  apply BitVec.eq_of_getLsbD_eq
  intro i hi
  have hlt : 8 * k + i < v := by omega
  have hadd : 8 * (j + k) + i = 8 * j + (8 * k + i) := by omega
  simp [byteOf, BitVec.getLsbD_ushiftRight, hi, hlt, hadd]

theorem put16_eq_writeCells (memory : IntcMemory) (cell : IntcCell) (data : HalfWord) :
    memory.put16 cell data = writeCells memory cell 2 (byteOf data) := by
  unfold IntcMemory.put16
  rw [put8_eq_writeCells, put8_eq_writeCells, writeCells_writeCells]
  refine writeCells_congr _ _ fun k hk => ?_
  split_ifs with hk1
  · exact byteOf_truncate data (by omega)
  · obtain rfl : k = 1 := by omega
    exact byteOf_shift (j := 1) data (by omega)

theorem put32_eq_writeCells (memory : IntcMemory) (cell : IntcCell) (data : Word) :
    memory.put32 cell data = writeCells memory cell 4 (byteOf data) := by
  unfold IntcMemory.put32
  rw [put16_eq_writeCells, put16_eq_writeCells, writeCells_writeCells]
  refine writeCells_congr _ _ fun k hk => ?_
  split_ifs with hk2
  · exact byteOf_truncate data (by omega)
  · have hshift := byteOf_shift (j := 2) (k := k - 2) data (by omega : 8 * (k - 2) + 8 ≤ 16)
    rw [show 2 + (k - 2) = k by omega] at hshift
    exact hshift

end Athrill
