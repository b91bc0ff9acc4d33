import Athrill.Dec.Format
import Mathlib.Tactic.IntervalCases

/-!
# The decoders lose nothing

Every operand of an instruction is the slice of bits that `op_format.h` writes
beside its declaration, and the operands of a format give the instruction back.
Formats 9, 11 and 12 keep no bit 16.

* `bits`, `place`: a slice of the instruction, and a value put back at it.
* `Documented`: the operands as slices.
* `encode`: the instruction from its operands.
* `opDecoder_lossless`: both, for formats 1 to 9 and 11 to 14.
-/

namespace Athrill

/-! ## Slices -/

/-- The instruction as one word; bit 0 is the lowest bit of its first halfword. -/
def insn (code : OpCode) : BitVec 48 :=
  code 2 ++ (code 1 ++ code 0)

/-- Bits `hi` to `lo` of the instruction. -/
def bits {w : Nat} (code : OpCode) (hi lo : Nat) : BitVec w :=
  ((insn code).extractLsb' lo (hi + 1 - lo)).setWidth w

/-- A value put at bits `hi` to `lo`. -/
def place {w : Nat} (x : BitVec w) (hi lo : Nat) : BitVec 48 :=
  (x.setWidth (hi + 1 - lo)).setWidth 48 <<< lo

theorem getLsbD_insn (code : OpCode) (i : Nat) :
    (insn code).getLsbD i =
      if i < 16 then (code 0).getLsbD i
      else if i < 32 then (code 1).getLsbD (i - 16)
      else (code 2).getLsbD (i - 32) := by
  unfold insn
  rw [BitVec.getLsbD_append, BitVec.getLsbD_append]
  by_cases h32 : i < 32
  · by_cases h16 : i < 16
    · simp [h16, h32]
    · simp [h16, h32]
  · have h16 : ¬ i < 16 := by omega
    simp [h16, h32]

theorem getLsbD_bits {w : Nat} (code : OpCode) (hi lo j : Nat) :
    (bits code hi lo : BitVec w).getLsbD j =
      (decide (j < w) && decide (j < hi + 1 - lo) && (insn code).getLsbD (lo + j)) := by
  unfold bits
  rw [BitVec.getLsbD_setWidth, BitVec.getLsbD_extractLsb', Bool.and_assoc]

theorem getLsbD_place {w : Nat} (x : BitVec w) {hi lo : Nat} (hhi : hi < 48) (i : Nat) :
    (place x hi lo).getLsbD i = (decide (lo ≤ i ∧ i ≤ hi) && x.getLsbD (i - lo)) := by
  unfold place
  rw [BitVec.getLsbD_shiftLeft, BitVec.getLsbD_setWidth, BitVec.getLsbD_setWidth]
  by_cases hin : lo ≤ i ∧ i ≤ hi
  · have h₁ : i < 48 := by omega
    have h₂ : ¬ i < lo := by omega
    have h₃ : i - lo < 48 := by omega
    have h₄ : i - lo < hi + 1 - lo := by omega
    simp [hin, h₁, h₂, h₃, h₄]
  · by_cases hlo : i < lo
    · simp [hin, hlo]
    · have h₄ : ¬ i - lo < hi + 1 - lo := by omega
      simp [hin, h₄]

/-- A slice put back at its place. -/
theorem getLsbD_place_bits {w : Nat} (code : OpCode) {hi lo : Nat} (hhi : hi < 48)
    (hw : hi < lo + w) (i : Nat) :
    (place (bits code hi lo : BitVec w) hi lo).getLsbD i =
      (decide (lo ≤ i ∧ i ≤ hi) && (insn code).getLsbD i) := by
  rw [getLsbD_place _ hhi, getLsbD_bits]
  by_cases hin : lo ≤ i ∧ i ≤ hi
  · have h₁ : i - lo < w := by omega
    have h₂ : i - lo < hi + 1 - lo := by omega
    have h₃ : lo + (i - lo) = i := by omega
    simp [hin, h₁, h₂, h₃]
  · simp [hin]

theorem toNat_field_le (data : HalfWord) (shift : Nat) (mask : HalfWord) :
    (field data shift mask).toNat ≤ mask.toNat := by
  unfold field
  rw [BitVec.toNat_and]
  exact Nat.and_le_right

/-- A register field. -/
theorem field_lt (data : HalfWord) (shift : Nat) : (field data shift 0x001F).toNat < 32 :=
  Nat.lt_succ_of_le (toNat_field_le data shift 0x001F)

/-- A field of the first halfword. -/
theorem field_zero (code : OpCode) (hi lo : Nat) {mask : HalfWord} (hhi : hi < 16)
    (hmask : ∀ j : Fin 16, mask.getLsbD j.val = decide (j.val < hi + 1 - lo)) :
    field (code 0) lo mask = bits code hi lo := by
  apply BitVec.eq_of_getLsbD_eq
  intro j hj
  unfold field
  rw [BitVec.getLsbD_and, BitVec.getLsbD_ushiftRight, getLsbD_bits, hmask ⟨j, hj⟩, getLsbD_insn]
  by_cases hlen : j < hi + 1 - lo
  · have h : lo + j < 16 := by omega
    simp [hlen, h, hj]
  · simp [hlen]

/-- A field of the second halfword. -/
theorem field_one (code : OpCode) (hi lo : Nat) {mask : HalfWord} (hhi : hi < 16)
    (hmask : ∀ j : Fin 16, mask.getLsbD j.val = decide (j.val < hi + 1 - lo)) :
    field (code 1) lo mask = bits code (hi + 16) (lo + 16) := by
  apply BitVec.eq_of_getLsbD_eq
  intro j hj
  unfold field
  rw [BitVec.getLsbD_and, BitVec.getLsbD_ushiftRight, getLsbD_bits, hmask ⟨j, hj⟩, getLsbD_insn]
  have hsub : hi + 16 + 1 - (lo + 16) = hi + 1 - lo := by omega
  rw [hsub]
  by_cases hlen : j < hi + 1 - lo
  · have h₁ : ¬ lo + 16 + j < 16 := by omega
    have h₂ : lo + 16 + j < 32 := by omega
    have h₃ : lo + 16 + j - 16 = lo + j := by omega
    simp [hlen, h₁, h₂, h₃, hj]
  · simp [hlen]

/-- A slice that is kept in a wider word. -/
theorem setWidth_bits (code : OpCode) {hi lo : Nat} (hw : hi < lo + 16) :
    (bits code hi lo : HalfWord).setWidth 32 = (bits code hi lo : Word) := by
  apply BitVec.eq_of_getLsbD_eq
  intro j hj
  rw [BitVec.getLsbD_setWidth, getLsbD_bits, getLsbD_bits]
  by_cases hlen : j < hi + 1 - lo
  · have h : j < 16 := by omega
    simp [hlen, h, hj]
  · simp [hlen]

theorem field32_zero (code : OpCode) (hi lo : Nat) {mask : HalfWord} (hhi : hi < 16)
    (hmask : ∀ j : Fin 16, mask.getLsbD j.val = decide (j.val < hi + 1 - lo)) :
    field32 (code 0) lo mask = bits code hi lo := by
  unfold field32
  rw [field_zero code hi lo hhi hmask]
  exact setWidth_bits code (by omega)

theorem field32_one (code : OpCode) (hi lo : Nat) {mask : HalfWord} (hhi : hi < 16)
    (hmask : ∀ j : Fin 16, mask.getLsbD j.val = decide (j.val < hi + 1 - lo)) :
    field32 (code 1) lo mask = bits code (hi + 16) (lo + 16) := by
  unfold field32
  rw [field_one code hi lo hhi hmask]
  exact setWidth_bits code (by omega)

/-! ## The operands as slices -/

/-- The bit of the instruction for each register of the list, from `r20` on. -/
def listBit : Fin 12 → Nat
  | 0 => 27
  | 1 => 26
  | 2 => 25
  | 3 => 24
  | 4 => 31
  | 5 => 30
  | 6 => 29
  | 7 => 28
  | 8 => 23
  | 9 => 22
  | 10 => 0
  | 11 => 21

/-- The list is a bijection of bit 0 and bits 31 to 21 onto `r20` to `r31`. -/
def ListBijection : Prop :=
  Function.Injective listBit ∧ ∀ n, (∃ i, listBit i = n) ↔ n = 0 ∨ (21 ≤ n ∧ n ≤ 31)

theorem listBijection : ListBijection := by
  refine ⟨fun i j => ?_, fun n => ⟨?_, ?_⟩⟩
  · revert i j
    decide
  · rintro ⟨i, rfl⟩
    revert i
    decide
  · rintro (rfl | ⟨hlo, hhi⟩)
    · exact ⟨10, rfl⟩
    · have hall : ∀ k : Fin 11, ∃ i, listBit i = 21 + k.val := by decide
      obtain ⟨i, hi⟩ := hall ⟨n - 21, by omega⟩
      exact ⟨i, by rw [hi]; show 21 + (n - 21) = n; omega⟩

/-- The registers of the list of format 13. -/
def documentedList (code : OpCode) (r : Fin 32) : Bool :=
  if h : 20 ≤ r.val then (insn code).getLsbD (listBit ⟨r.val - 20, by omega⟩) else false

/-- The operands of a format as the slices of their declarations. -/
def Documented (code : OpCode) (d : OpDecodedCode) : OpCodeFormatId → Prop
  | .format1 => d.type1 = ⟨bits code 10 5, bits code 4 0, bits code 15 11⟩
  | .format2 => d.type2 = ⟨bits code 10 5, bits code 4 0, bits code 15 11⟩
  | .format3 => d.type3 =
      ⟨bits code 10 7, bits code 15 11 <<< 3 ||| bits code 6 4, bits code 3 0⟩
  | .format4 =>
      d.type4A = ⟨bits code 10 7, bits code 6 1, bits code 15 11, bits code 0 0⟩ ∧
        d.type4B = ⟨bits code 10 4, bits code 3 0, bits code 15 11⟩
  | .format5 => d.type5 =
      ⟨bits code 10 6, bits code 5 0 <<< 16 ||| bits code 31 16, bits code 15 11⟩
  | .format6 => d.type6 = ⟨bits code 10 5, bits code 31 16, bits code 4 0, bits code 15 11⟩
  | .format7 => d.type7 =
      ⟨bits code 10 5, bits code 31 17, bits code 4 0, bits code 15 11, bits code 16 16⟩
  | .format8 => d.type8 =
      ⟨bits code 10 5, bits code 15 14, bits code 13 11, bits code 4 0, bits code 31 16⟩
  | .format9 => d.type9 =
      ⟨bits code 10 5, bits code 26 21, bits code 4 0, bits code 15 11, bits code 31 27,
        bits code 20 17⟩
  | .format11 => d.type11 =
      ⟨bits code 10 5, bits code 4 0, bits code 15 11, bits code 31 27, bits code 26 21,
        bits code 17 17, bits code 20 18⟩
  | .format12 => d.type12 =
      ⟨bits code 10 5, bits code 15 11, bits code 31 27, bits code 4 0, bits code 22 18,
        bits code 26 23, bits code 17 17⟩
  | .format13 => d.type13 =
      ⟨bits code 10 6, bits code 5 1, documentedList code, bits code 20 16, bits code 15 11⟩
  | .format14 => d.type14 =
      ⟨bits code 15 11, bits code 10 5, bits code 4 0, bits code 31 27, bits code 26 20,
        bits code 19 16, bits code 47 32⟩
  | .format10 | .formatF => True

/-! ## The instruction from its operands -/

/-- The bits of the list, put back. -/
def placeList (list : Fin 32 → Bool) : BitVec 48 :=
  (List.finRange 12).foldl (fun x i =>
    x ||| place (BitVec.ofBool (list ⟨i.val + 20, by omega⟩)) (listBit i) (listBit i)) 0

/-- The operands at their places. -/
def encode (d : OpDecodedCode) : OpCodeFormatId → BitVec 48
  | .format1 => place d.type1.opcode 10 5 ||| place d.type1.reg1 4 0 ||| place d.type1.reg2 15 11
  | .format2 => place d.type2.opcode 10 5 ||| place d.type2.imm 4 0 ||| place d.type2.reg2 15 11
  | .format3 =>
      place d.type3.opcode 10 7 ||| place (d.type3.disp >>> 3) 15 11 ||| place d.type3.disp 6 4 |||
        place d.type3.cond 3 0
  | .format4 =>
      place d.type4A.opcode 10 7 ||| place d.type4A.disp 6 1 ||| place d.type4A.reg2 15 11 |||
        place d.type4A.gen 0 0
  | .format5 =>
      place d.type5.opcode 10 6 ||| place (d.type5.disp >>> 16) 5 0 |||
        place d.type5.disp 31 16 ||| place d.type5.reg2 15 11
  | .format6 =>
      place d.type6.opcode 10 5 ||| place d.type6.imm 31 16 ||| place d.type6.reg1 4 0 |||
        place d.type6.reg2 15 11
  | .format7 =>
      place d.type7.opcode 10 5 ||| place d.type7.disp 31 17 ||| place d.type7.reg1 4 0 |||
        place d.type7.reg2 15 11 ||| place d.type7.gen 16 16
  | .format8 =>
      place d.type8.opcode 10 5 ||| place d.type8.sub 15 14 ||| place d.type8.bit 13 11 |||
        place d.type8.reg1 4 0 ||| place d.type8.disp 31 16
  | .format9 =>
      place d.type9.opcode 10 5 ||| place d.type9.sub 26 21 ||| place d.type9.gen 4 0 |||
        place d.type9.reg2 15 11 ||| place d.type9.rfu2 31 27 ||| place d.type9.rfu1 20 17
  | .format11 =>
      place d.type11.opcode 10 5 ||| place d.type11.reg1 4 0 ||| place d.type11.reg2 15 11 |||
        place d.type11.reg3 31 27 ||| place d.type11.sub1 26 21 ||| place d.type11.sub2 17 17 |||
        place d.type11.rfu 20 18
  | .format12 =>
      place d.type12.opcode 10 5 ||| place d.type12.reg2 15 11 ||| place d.type12.reg3 31 27 |||
        place d.type12.imml 4 0 ||| place d.type12.immh 22 18 ||| place d.type12.sub1 26 23 |||
        place d.type12.sub2 17 17
  | .format13 =>
      place d.type13.opcode 10 6 ||| place d.type13.imm 5 1 ||| placeList d.type13.list |||
        place d.type13.gen 20 16 ||| place d.type13.rfu 15 11
  | .format14 =>
      place d.type14.sub1 15 11 ||| place d.type14.opcode 10 5 ||| place d.type14.reg1 4 0 |||
        place d.type14.reg3 31 27 ||| place d.type14.dispLow 26 20 ||| place d.type14.sub2 19 16 |||
        place d.type14.dispHigh 47 32
  | .format10 | .formatF => 0

/-- The bits of an instruction of the format, without the bit that is not
stored. -/
def Stored (formatId : OpCodeFormatId) (i : Nat) : Prop :=
  i < 8 * (opFormatSize formatId).toNat ∧
    (formatId = .format9 ∨ formatId = .format11 ∨ formatId = .format12 → i ≠ 16)

/-! ## Every format -/

theorem opDecode13List_eq (code : OpCode) : opDecode13List code = documentedList code := by
  funext r
  obtain ⟨r, hr⟩ := r
  interval_cases r <;> simp [opDecode13List, documentedList, listBit]
  all_goals
    rw [← BitVec.getLsbD_eq_getElem, ← BitVec.getLsbD_eq_getElem, getLsbD_insn]
    rfl

theorem documented_opDecoder (code : OpCode) (formatId : OpCodeFormatId) (d : OpDecodedCode) :
    Documented code (opDecoder code formatId d) formatId := by
  cases formatId with
  | format1 =>
    show opDecode1 code = _
    unfold opDecode1
    rw [field_zero code 10 5 (by decide) (by decide),
      field_zero code 4 0 (by decide) (by decide),
      field_zero code 15 11 (by decide) (by decide)]
  | format2 =>
    show opDecode2 code = _
    unfold opDecode2
    rw [field_zero code 10 5 (by decide) (by decide),
      field32_zero code 4 0 (by decide) (by decide),
      field_zero code 15 11 (by decide) (by decide)]
  | format3 =>
    show opDecode3 code = _
    unfold opDecode3
    rw [field_zero code 10 7 (by decide) (by decide),
      field32_zero code 15 11 (by decide) (by decide),
      field32_zero code 6 4 (by decide) (by decide),
      field_zero code 3 0 (by decide) (by decide)]
  | format4 =>
    refine ⟨?_, ?_⟩
    · show opDecode4A code = _
      unfold opDecode4A
      rw [field_zero code 10 7 (by decide) (by decide),
        field32_zero code 6 1 (by decide) (by decide),
        field_zero code 15 11 (by decide) (by decide),
        field32_zero code 0 0 (by decide) (by decide)]
    · show opDecode4B code = _
      unfold opDecode4B
      rw [field_zero code 10 4 (by decide) (by decide),
        field32_zero code 3 0 (by decide) (by decide),
        field_zero code 15 11 (by decide) (by decide)]
  | format5 =>
    show opDecode5 code = _
    unfold opDecode5
    rw [field_zero code 10 6 (by decide) (by decide),
      field_zero code 15 11 (by decide) (by decide),
      field32_zero code 5 0 (by decide) (by decide),
      field32_one code 15 0 (by decide) (by decide)]
  | format6 =>
    show opDecode6 code = _
    unfold opDecode6
    rw [field_zero code 10 5 (by decide) (by decide),
      field_zero code 15 11 (by decide) (by decide),
      field_zero code 4 0 (by decide) (by decide),
      field32_one code 15 0 (by decide) (by decide)]
  | format7 =>
    show opDecode7 code = _
    unfold opDecode7
    rw [field_zero code 10 5 (by decide) (by decide),
      field_zero code 15 11 (by decide) (by decide),
      field_zero code 4 0 (by decide) (by decide),
      field32_one code 15 1 (by decide) (by decide),
      field32_one code 0 0 (by decide) (by decide)]
  | format8 =>
    show opDecode8 code = _
    unfold opDecode8
    rw [field_zero code 10 5 (by decide) (by decide),
      field_zero code 15 14 (by decide) (by decide),
      field_zero code 13 11 (by decide) (by decide),
      field_zero code 4 0 (by decide) (by decide),
      field_one code 15 0 (by decide) (by decide)]
  | format9 =>
    show opDecode9 code = _
    unfold opDecode9
    rw [field_zero code 10 5 (by decide) (by decide),
      field_zero code 15 11 (by decide) (by decide),
      field_zero code 4 0 (by decide) (by decide),
      field_one code 4 1 (by decide) (by decide),
      field_one code 15 11 (by decide) (by decide),
      field_one code 10 5 (by decide) (by decide)]
  | format10 => trivial
  | format11 =>
    show opDecode11 code = _
    unfold opDecode11
    rw [field_zero code 10 5 (by decide) (by decide),
      field_zero code 15 11 (by decide) (by decide),
      field_zero code 4 0 (by decide) (by decide),
      field_one code 4 2 (by decide) (by decide),
      field_one code 15 11 (by decide) (by decide),
      field_one code 10 5 (by decide) (by decide),
      field_one code 1 1 (by decide) (by decide)]
  | format12 =>
    show opDecode12 code = _
    unfold opDecode12
    rw [field_zero code 10 5 (by decide) (by decide),
      field_zero code 15 11 (by decide) (by decide),
      field32_zero code 4 0 (by decide) (by decide),
      field_one code 15 11 (by decide) (by decide),
      field_one code 10 7 (by decide) (by decide),
      field_one code 1 1 (by decide) (by decide),
      field32_one code 6 2 (by decide) (by decide)]
  | format13 =>
    show opDecode13 code = _
    unfold opDecode13
    rw [field_zero code 10 6 (by decide) (by decide),
      field_zero code 15 11 (by decide) (by decide),
      field32_zero code 5 1 (by decide) (by decide),
      field_one code 4 0 (by decide) (by decide), opDecode13List_eq]
  | format14 =>
    have hhigh : (code 2).setWidth 32 = (bits code 47 32 : Word) := by
      apply BitVec.eq_of_getLsbD_eq
      intro j hj
      rw [BitVec.getLsbD_setWidth, getLsbD_bits, getLsbD_insn, if_neg (by omega),
        if_neg (by omega)]
      by_cases hlen : j < 16
      · have h : 32 + j - 32 = j := by omega
        simp [hlen, hj, h]
      · simp [hlen, BitVec.getLsbD_of_ge _ j (Nat.le_of_not_lt hlen)]
    show opDecode14 code = _
    unfold opDecode14
    rw [field_zero code 15 11 (by decide) (by decide),
      field_zero code 10 5 (by decide) (by decide),
      field_zero code 4 0 (by decide) (by decide),
      field_one code 15 11 (by decide) (by decide),
      field32_one code 10 4 (by decide) (by decide),
      field_one code 3 0 (by decide) (by decide), hhigh]
  | formatF => trivial

/-! ## Slices that are joined -/

section Join

variable (code : OpCode) {a b c e n : Nat}

theorem getLsbD_join (j : Nat) :
    (bits code a b <<< n ||| bits code c e : Word).getLsbD j =
      ((decide (j < 32) && !decide (j < n) && (bits code a b : Word).getLsbD (j - n)) ||
        (bits code c e : Word).getLsbD j) := by
  rw [BitVec.getLsbD_or, BitVec.getLsbD_shiftLeft]

/-- The upper slice comes out by a shift. -/
theorem join_ushiftRight (hn : n = c + 1 - e) (hw : a + 1 - b + n ≤ 32) :
    (bits code a b <<< n ||| bits code c e : Word) >>> n = bits code a b := by
  apply BitVec.eq_of_getLsbD_eq
  intro j hj
  have hlow : ¬ n + j < c + 1 - e := by omega
  have hnot : ¬ n + j < n := by omega
  have hsub : n + j - n = j := by omega
  rw [BitVec.getLsbD_ushiftRight, getLsbD_join, hsub]
  simp only [getLsbD_bits]
  by_cases hlen : j < a + 1 - b
  · have hlt : n + j < 32 := by omega
    simp [hlow, hnot, hlt, hj, hlen]
  · simp [hlow, hlen]

/-- The lower slice is put back as it is. -/
theorem place_join (hn : n = c + 1 - e) (hc : c < 48) :
    place (bits code a b <<< n ||| bits code c e : Word) c e = place (bits code c e : Word) c e := by
  apply BitVec.eq_of_getLsbD_eq
  intro i _
  rw [getLsbD_place _ hc, getLsbD_place _ hc, getLsbD_join]
  by_cases hin : e ≤ i ∧ i ≤ c
  · have hlow : i - e < n := by omega
    simp [hin, hlow]
  · simp [hin]

end Join

/-! ## The list -/

theorem getLsbD_placeBit (b : Bool) {n : Nat} (hn : n < 48) (i : Nat) :
    (place (BitVec.ofBool b) n n).getLsbD i = (decide (n = i) && b) := by
  rw [getLsbD_place _ hn]
  by_cases hin : n = i
  · subst hin
    simp
  · have h : ¬ (n ≤ i ∧ i ≤ n) := by omega
    simp [hin, h]

theorem listBit_lt (k : Fin 12) : listBit k < 48 := by
  revert k
  decide

/-- The list puts back bit 0 and bits 31 to 21. -/
theorem getLsbD_placeList (code : OpCode) (i : Nat) :
    (placeList (documentedList code)).getLsbD i =
      (decide (i = 0 ∨ (21 ≤ i ∧ i ≤ 31)) && (insn code).getLsbD i) := by
  have hlist (k : Fin 12) :
      documentedList code ⟨k.val + 20, by omega⟩ = (insn code).getLsbD (listBit k) := by
    unfold documentedList
    have h : 20 ≤ k.val + 20 := by omega
    simp [h]
  have hfold (l : List (Fin 12)) (x : BitVec 48) :
      (l.foldl (fun x k => x ||| place (BitVec.ofBool (documentedList code
          ⟨k.val + 20, by omega⟩)) (listBit k) (listBit k)) x).getLsbD i =
        (x.getLsbD i || (decide (∃ k ∈ l, listBit k = i) && (insn code).getLsbD i)) := by
    induction l generalizing x with
    | nil => simp
    | cons k l ih =>
      rw [List.foldl_cons, ih, BitVec.getLsbD_or, getLsbD_placeBit _ (listBit_lt k), hlist]
      by_cases hk : listBit k = i
      · subst hk
        cases (insn code).getLsbD (listBit k) <;> simp
      · simp [hk]
  have hmem : (∃ k ∈ List.finRange 12, listBit k = i) ↔ i = 0 ∨ (21 ≤ i ∧ i ≤ 31) := by
    rw [← listBijection.2 i]
    simp
  unfold placeList
  rw [hfold, decide_eq_decide.mpr hmem]
  show ((0#48).getLsbD i || _) = _
  rw [BitVec.getLsbD_zero, Bool.false_or]

/-! ## Putting the operands back -/

/-- The documented operands give back every bit that the format stores. -/
theorem getLsbD_encode {code : OpCode} {d : OpDecodedCode} {formatId : OpCodeFormatId}
    (hdoc : Documented code d formatId) (hformat : formatId ≠ .format10 ∧ formatId ≠ .formatF)
    {i : Nat} (hi : Stored formatId i) :
    (encode d formatId).getLsbD i = (insn code).getLsbD i := by
  obtain ⟨hsize, hbit⟩ := hi
  cases formatId with
  | format10 => exact absurd rfl hformat.1
  | formatF => exact absurd rfl hformat.2
  | format1 =>
    have hlt : i < 16 := hsize
    unfold encode
    rw [show d.type1 = _ from hdoc]
    simp (disch := decide) only [BitVec.getLsbD_or, getLsbD_place_bits]
    cases (insn code).getLsbD i
    · simp
    · simp
      omega
  | format2 =>
    have hlt : i < 16 := hsize
    unfold encode
    rw [show d.type2 = _ from hdoc]
    simp (disch := decide) only [BitVec.getLsbD_or, getLsbD_place_bits]
    cases (insn code).getLsbD i
    · simp
    · simp
      omega
  | format3 =>
    have hlt : i < 16 := hsize
    have hhigh : (bits code 15 11 <<< 3 ||| bits code 6 4 : Word) >>> 3 = bits code 15 11 :=
      join_ushiftRight code rfl (by decide)
    have hlow : place (bits code 15 11 <<< 3 ||| bits code 6 4 : Word) 6 4 =
        place (bits code 6 4 : Word) 6 4 := place_join code rfl (by decide)
    unfold encode
    rw [show d.type3 = _ from hdoc]
    dsimp only
    rw [hhigh, hlow]
    simp (disch := decide) only [BitVec.getLsbD_or, getLsbD_place_bits]
    cases (insn code).getLsbD i
    · simp
    · simp
      omega
  | format4 =>
    have hlt : i < 16 := hsize
    unfold encode
    rw [show d.type4A = _ from hdoc.1]
    simp (disch := decide) only [BitVec.getLsbD_or, getLsbD_place_bits]
    cases (insn code).getLsbD i
    · simp
    · simp
      omega
  | format5 =>
    have hlt : i < 32 := hsize
    have hhigh : (bits code 5 0 <<< 16 ||| bits code 31 16 : Word) >>> 16 = bits code 5 0 :=
      join_ushiftRight code rfl (by decide)
    have hlow : place (bits code 5 0 <<< 16 ||| bits code 31 16 : Word) 31 16 =
        place (bits code 31 16 : Word) 31 16 := place_join code rfl (by decide)
    unfold encode
    rw [show d.type5 = _ from hdoc]
    dsimp only
    rw [hhigh, hlow]
    simp (disch := decide) only [BitVec.getLsbD_or, getLsbD_place_bits]
    cases (insn code).getLsbD i
    · simp
    · simp
      omega
  | format6 =>
    have hlt : i < 32 := hsize
    unfold encode
    rw [show d.type6 = _ from hdoc]
    simp (disch := decide) only [BitVec.getLsbD_or, getLsbD_place_bits]
    cases (insn code).getLsbD i
    · simp
    · simp
      omega
  | format7 =>
    have hlt : i < 32 := hsize
    unfold encode
    rw [show d.type7 = _ from hdoc]
    simp (disch := decide) only [BitVec.getLsbD_or, getLsbD_place_bits]
    cases (insn code).getLsbD i
    · simp
    · simp
      omega
  | format8 =>
    have hlt : i < 32 := hsize
    unfold encode
    rw [show d.type8 = _ from hdoc]
    simp (disch := decide) only [BitVec.getLsbD_or, getLsbD_place_bits]
    cases (insn code).getLsbD i
    · simp
    · simp
      omega
  | format9 =>
    have hlt : i < 32 := hsize
    have hne : i ≠ 16 := hbit (by decide)
    unfold encode
    rw [show d.type9 = _ from hdoc]
    simp (disch := decide) only [BitVec.getLsbD_or, getLsbD_place_bits]
    cases (insn code).getLsbD i
    · simp
    · simp
      omega
  | format11 =>
    have hlt : i < 32 := hsize
    have hne : i ≠ 16 := hbit (by decide)
    unfold encode
    rw [show d.type11 = _ from hdoc]
    simp (disch := decide) only [BitVec.getLsbD_or, getLsbD_place_bits]
    cases (insn code).getLsbD i
    · simp
    · simp
      omega
  | format12 =>
    have hlt : i < 32 := hsize
    have hne : i ≠ 16 := hbit (by decide)
    unfold encode
    rw [show d.type12 = _ from hdoc]
    simp (disch := decide) only [BitVec.getLsbD_or, getLsbD_place_bits]
    cases (insn code).getLsbD i
    · simp
    · simp
      omega
  | format13 =>
    have hlt : i < 32 := hsize
    unfold encode
    rw [show d.type13 = _ from hdoc]
    dsimp only
    simp (disch := decide) only [BitVec.getLsbD_or, getLsbD_place_bits, getLsbD_placeList]
    cases (insn code).getLsbD i
    · simp
    · simp
      omega
  | format14 =>
    have hlt : i < 48 := hsize
    unfold encode
    rw [show d.type14 = _ from hdoc]
    simp (disch := decide) only [BitVec.getLsbD_or, getLsbD_place_bits]
    cases (insn code).getLsbD i
    · simp
    · simp
      omega

/-- Formats 1 to 9 and 11 to 14: every operand is the slice of its declaration,
the list of format 13 is a bijection, and the operands give the instruction
back. -/
theorem opDecoder_lossless {formatId : OpCodeFormatId}
    (hformat : formatId ≠ .format10 ∧ formatId ≠ .formatF) (code : OpCode) (d : OpDecodedCode) :
    Documented code (opDecoder code formatId d) formatId ∧ ListBijection ∧
      ∀ i, Stored formatId i →
        (encode (opDecoder code formatId d) formatId).getLsbD i = (insn code).getLsbD i :=
  ⟨documented_opDecoder code formatId d, listBijection,
    fun _ hi => getLsbD_encode (documented_opDecoder code formatId d) hformat hi⟩

/-- The operands of `PREPARE` with a list. -/
theorem opDecoder_lossless_prepare :
    Documented (fun n => if n = 0 then 0x0781 else 0xFFE1)
        (opDecoder (fun n => if n = 0 then 0x0781 else 0xFFE1) .format13 OpDecodedCode.bss)
        .format13 ∧ ListBijection ∧
      ∀ i, Stored .format13 i →
        (encode (opDecoder (fun n => if n = 0 then 0x0781 else 0xFFE1) .format13
          OpDecodedCode.bss) .format13).getLsbD i =
            (insn fun n => if n = 0 then 0x0781 else 0xFFE1).getLsbD i :=
  opDecoder_lossless (by decide) _ _

end Athrill
