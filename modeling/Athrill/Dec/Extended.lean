import Athrill.Dec.Lossless
import Athrill.Dec.Parse

/-!
# Codes of the extended table

Bits 26 to 21 of an instruction select a parser of the extended table.  So a code
that only some of these parsers give fixes those bits.

* `extendIndex_eq`: the index of the table is a slice of the instruction.
* `OnlyExtended`, `sub_mem_of_parse`: the index that a code fixes.
* `OnlyRule`, `fixed_bits_of_parse`: the bits that a code fixes.
-/

namespace Athrill

/-- Bit `i` of the first two halfwords. -/
theorem getLsbD_opCodeValue (code : OpCode) {i : Nat} (hi : i < 32) :
    (opCodeValue code).getLsbD i = (insn code).getLsbD i := by
  unfold opCodeValue
  rw [BitVec.getLsbD_or, BitVec.getLsbD_shiftLeft, BitVec.getLsbD_setWidth,
    BitVec.getLsbD_setWidth, getLsbD_insn, if_pos hi]
  by_cases h16 : i < 16
  · simp [h16, hi]
  · have hsub : i - 16 < 32 := by omega
    simp [h16, hi, hsub, BitVec.getLsbD_of_ge (code 0) i (by omega)]

/-- A slice of the first two halfwords that is cut out by a mask. -/
theorem getLsbD_masked (code : OpCode) {mask : Word} {hi lo : Nat} (hhi : hi < 32)
    (hmask : ∀ j : Fin 32, mask.getLsbD j.val = decide (lo ≤ j.val ∧ j.val ≤ hi)) (i : Nat) :
    ((opCodeValue code &&& mask) >>> lo).getLsbD i =
      (decide (i < hi + 1 - lo) && (insn code).getLsbD (lo + i)) := by
  rw [BitVec.getLsbD_ushiftRight, BitVec.getLsbD_and]
  by_cases h32 : lo + i < 32
  · rw [getLsbD_opCodeValue code h32, hmask ⟨lo + i, h32⟩, Bool.and_comm]
    congr 1
    rw [decide_eq_decide]
    show lo ≤ lo + i ∧ lo + i ≤ hi ↔ i < hi + 1 - lo
    omega
  · have hnot : ¬ i < hi + 1 - lo := by omega
    rw [BitVec.getLsbD_of_ge _ _ (Nat.not_lt.mp h32), decide_eq_false hnot, Bool.false_and,
      Bool.false_and]

/-- The index of the extended table, as a slice. -/
theorem extendIndex_eq (code : OpCode) :
    opParseTableIndex ((opCodeValue code &&& 0x07800000) >>> 23)
      ((opCodeValue code &&& 0x00600000) >>> 21) = (bits code 26 21 : Word).toNat := by
  unfold opParseTableIndex
  congr 1
  apply BitVec.eq_of_getLsbD_eq
  intro i hi
  rw [BitVec.getLsbD_or, BitVec.getLsbD_shiftLeft,
    getLsbD_masked code (show 26 < 32 by omega) (by decide),
    getLsbD_masked code (show 22 < 32 by omega) (by decide), getLsbD_bits]
  by_cases h2 : i < 2
  · have h6 : i < 6 := by omega
    simp [h2, hi, h6]
  · have hpos : 23 + (i - 2) = 21 + i := by omega
    by_cases h6 : i < 6
    · have h4 : i - 2 < 4 := by omega
      simp [h2, hi, h6, h4, hpos]
    · have h4 : ¬ i - 2 < 4 := by omega
      simp [h2, h6, h4]

theorem type9_opDecode9 (code : OpCode) : opDecode9 code =
    ⟨bits code 10 5, bits code 26 21, bits code 4 0, bits code 15 11, bits code 31 27,
      bits code 20 17⟩ :=
  documented_opDecoder code .format9 OpDecodedCode.bss

/-- A slice is below the power of its length. -/
theorem toNat_bits_lt (code : OpCode) (hi lo : Nat) {w : Nat} :
    (bits code hi lo : BitVec w).toNat < 2 ^ (hi + 1 - lo) := by
  unfold bits
  rw [BitVec.toNat_setWidth]
  exact Nat.lt_of_le_of_lt (Nat.mod_le _ _) (BitVec.isLt _)

theorem toNat_bits (code : OpCode) {hi lo w : Nat} (hw : hi + 1 - lo ≤ w) :
    (bits code hi lo : BitVec w).toNat = (insn code).toNat / 2 ^ lo % 2 ^ (hi + 1 - lo) := by
  have hlt : (insn code).toNat / 2 ^ lo % 2 ^ (hi + 1 - lo) < 2 ^ w :=
    Nat.lt_of_lt_of_le (Nat.mod_lt _ (Nat.two_pow_pos _)) (Nat.pow_le_pow_right (by omega) hw)
  unfold bits
  rw [BitVec.toNat_setWidth, BitVec.extractLsb'_toNat, Nat.shiftRight_eq_div_pow,
    Nat.mod_eq_of_lt hlt]

/-- A masked slice of the first two halfwords, as a number. -/
theorem toNat_masked (code : OpCode) {mask : Word} {hi lo : Nat} (hhi : hi < 32)
    (hmask : ∀ j : Fin 32, mask.getLsbD j.val = decide (lo ≤ j.val ∧ j.val ≤ hi)) :
    ((opCodeValue code &&& mask) >>> lo).toNat = (bits code hi lo : Word).toNat := by
  congr 1
  apply BitVec.eq_of_getLsbD_eq
  intro i hi32
  rw [getLsbD_masked code hhi hmask, getLsbD_bits, decide_eq_true hi32, Bool.true_and]

/-- The code comes from the extended table only, and there from the parsers with
the given numbers. -/
def OnlyExtended (codeId : OpCodeId) (indices : List Nat) : Prop :=
  (∀ rules ∈ opParseBaseCodeTable, ∀ rule ∈ rules, rule.codeId ≠ codeId) ∧
    ∀ n : Fin 64, ∀ rule ∈ opParseExtendCodeTable.getD n.val [],
      rule.codeId = codeId → n.val ∈ indices

instance (codeId : OpCodeId) (indices : List Nat) : Decidable (OnlyExtended codeId indices) :=
  inferInstanceAs (Decidable (_ ∧ _))

theorem sub_mem_of_parse {code : OpCode} {optype : OperationCode} {indices : List Nat}
    (honly : OnlyExtended optype.codeId indices) (h : parseOptype code = some optype) :
    (bits code 26 21 : Word).toNat ∈ indices := by
  unfold parseOptype at h
  rw [Option.map_eq_some_iff] at h
  obtain ⟨rule, hfind, hrule⟩ := h
  have hmem := List.mem_of_find?_eq_some hfind
  have hid : rule.codeId = optype.codeId := congrArg OperationCode.codeId hrule
  unfold opParseRules at hmem
  split_ifs at hmem
  · rw [extendIndex_eq] at hmem
    have hlt : (bits code 26 21 : Word).toNat < 64 := toNat_bits_lt code 26 21
    exact honly.2 ⟨_, hlt⟩ rule hmem hid
  · exact absurd hid (honly.1 _ (mem_of_mem_getD hmem) rule hmem)

/-- The rule that gave a code, and its conditions. -/
theorem rule_of_parse {code : OpCode} {optype : OperationCode}
    (h : parseOptype code = some optype) :
    ∃ rule ∈ opParseRules code, rule.matches code = true ∧ rule.codeId = optype.codeId := by
  unfold parseOptype at h
  rw [Option.map_eq_some_iff] at h
  obtain ⟨rule, hfind, hrule⟩ := h
  exact ⟨rule, List.mem_of_find?_eq_some hfind, List.find?_some hfind,
    congrArg OperationCode.codeId hrule⟩

/-- The codes of a rule with bits 20 to 17 as its condition, among those of the
extended table. -/
def OnlyRule (codeId : OpCodeId) (index : Nat) (pattern : Word) : Prop :=
  OnlyExtended codeId [index] ∧
    ∀ rule ∈ opParseExtendCodeTable.getD index [], rule.codeId = codeId →
      rule.cond = [.valueEq 0x001E0000 pattern]

instance (codeId : OpCodeId) (index : Nat) (pattern : Word) :
    Decidable (OnlyRule codeId index pattern) :=
  inferInstanceAs (Decidable (_ ∧ _))

theorem fixed_bits_of_parse {code : OpCode} {optype : OperationCode} {index : Nat}
    {pattern : Word} (honly : OnlyRule optype.codeId index pattern)
    (h : parseOptype code = some optype) :
    (bits code 26 21 : Word).toNat = index ∧ opCodeValue code &&& 0x001E0000 = pattern ∧
      opCodeValue code &&& 0x00010000 = 0 := by
  have hindex : (bits code 26 21 : Word).toNat = index := by
    simpa using sub_mem_of_parse honly.1 h
  obtain ⟨rule, hmem, hmatch, hid⟩ := rule_of_parse h
  unfold opParseRules at hmem
  split_ifs at hmem with hextended
  · rw [extendIndex_eq, hindex] at hmem
    have hcond := honly.2 rule hmem hid
    unfold ParseRule.matches at hmatch
    rw [hcond] at hmatch
    refine ⟨hindex, ?_, hextended.2⟩
    simpa [ParseCond.holds] using hmatch
  · exact absurd hid (honly.1.1 _ (mem_of_mem_getD hmem) rule hmem)

end Athrill
