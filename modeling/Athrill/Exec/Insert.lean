import Athrill.Dec.Extended
import Athrill.Exec.Compute

/-!
# Bit-field insertion

`BINS` puts the low bits of one register into a field of another.  The field is
scattered over the encoding, and the three encodings put its ends into different
halves of the word.

* `binsMsb`, `binsLsb`: the ends of the field, from the encoding.
* `overwrites_binsLoop`: the loop of the executor replaces one field.
* `bins_exact`: the result and the flags.
-/

namespace Athrill

open TargetCore Routine Bits

namespace Exec

variable {D : Type}

/-! ## The field -/

/-- The ends are in the upper half of the word: both for `0b100`, the upper one
for `0b101` and none for `0b110`. -/
def binsEncoding (code : OpCode) : Nat :=
  (bits code 26 21 : Word).toNat

/-- Bits 31 to 28. -/
def binsMsb (code : OpCode) : Nat :=
  (bits code 31 28 : BitVec 4).toNat + if binsEncoding code = 0b110 then 0 else 16

/-- Bit 27 and bits 19 to 17. -/
def binsLsb (code : OpCode) : Nat :=
  ((bits code 27 27 : BitVec 1) ++ (bits code 19 17 : BitVec 3)).toNat +
    if binsEncoding code = 0b100 then 16 else 0

section Decode

variable (code : OpCode)

theorem toNat_binsSub : (opDecode9 code).sub.toNat = binsEncoding code := by
  have hwide := congrArg BitVec.toNat (setWidth_bits code (show 26 < 21 + 16 by omega))
  have hlt : (bits code 26 21 : HalfWord).toNat < 2 ^ 16 := (bits code 26 21 : HalfWord).isLt
  rw [BitVec.toNat_setWidth, Nat.mod_eq_of_lt (by omega)] at hwide
  rw [type9_opDecode9]
  exact hwide

theorem toNat_binsMsb :
    ((opDecode9 code).rfu2 >>> 1).toNat = (bits code 31 28 : BitVec 4).toNat := by
  have hshift : (bits code 31 27 : HalfWord) >>> 1 = (bits code 31 28 : BitVec 4).setWidth 16 := by
    apply BitVec.eq_of_getLsbD_eq
    intro i hi
    rw [BitVec.getLsbD_ushiftRight, BitVec.getLsbD_setWidth, getLsbD_bits, getLsbD_bits]
    have hpos : 27 + (1 + i) = 28 + i := by omega
    by_cases h4 : i < 4
    · have h5 : 1 + i < 5 := by omega
      have h16 : 1 + i < 16 := by omega
      simp [h4, h5, h16, hi, hpos]
    · have h5 : ¬ 1 + i < 5 := by omega
      simp [h4, h5]
  have hlt : (bits code 31 28 : BitVec 4).toNat < 2 ^ 4 := (bits code 31 28 : BitVec 4).isLt
  rw [type9_opDecode9]
  show ((bits code 31 27 : HalfWord) >>> 1).toNat = _
  rw [hshift, BitVec.toNat_setWidth]
  omega

theorem toNat_binsLsb :
    (((opDecode9 code).rfu2 &&& 0x01) <<< 3 ||| ((opDecode9 code).rfu1 &&& 0x07)).toNat =
      ((bits code 27 27 : BitVec 1) ++ (bits code 19 17 : BitVec 3)).toNat := by
  have hone : ∀ j : Fin 16, (0x01 : HalfWord).getLsbD j.val = decide (j.val < 1) := by decide
  have hseven : ∀ j : Fin 16, (0x07 : HalfWord).getLsbD j.val = decide (j.val < 3) := by decide
  have hjoin : ((bits code 31 27 : HalfWord) &&& 0x01) <<< 3 ||| ((bits code 20 17 : HalfWord) &&&
      0x07) = ((bits code 27 27 : BitVec 1) ++ (bits code 19 17 : BitVec 3)).setWidth 16 := by
    apply BitVec.eq_of_getLsbD_eq
    intro i hi
    rw [BitVec.getLsbD_or, BitVec.getLsbD_shiftLeft, BitVec.getLsbD_and, BitVec.getLsbD_and,
      BitVec.getLsbD_setWidth, BitVec.getLsbD_append, getLsbD_bits, getLsbD_bits, getLsbD_bits,
      getLsbD_bits, hseven ⟨i, hi⟩, hone ⟨i - 3, by omega⟩]
    by_cases h3 : i < 3
    · have h4 : i < 4 := by omega
      simp [h3, h4, hi]
    · by_cases h1 : i - 3 < 1
      · have hi3 : i = 3 := by omega
        subst hi3
        simp
      · simp [h3, h1]
  rw [type9_opDecode9]
  show (((bits code 31 27 : HalfWord) &&& 0x01) <<< 3 ||| ((bits code 20 17 : HalfWord) &&&
    0x07)).toNat = _
  obtain ⟨x, hx⟩ : ∃ x, (bits code 27 27 : BitVec 1) ++ (bits code 19 17 : BitVec 3) = x := ⟨_, rfl⟩
  have hlt : x.toNat < 2 ^ 4 := x.isLt
  rw [hjoin, hx, BitVec.toNat_setWidth]
  omega

end Decode

/-- The parser takes three encodings as `BINS`. -/
theorem binsEncoding_of_parse {code : OpCode} {optype : OperationCode}
    (hparse : parseOptype code = some optype) (hid : optype.codeId = .bins_9) :
    binsEncoding code = 0b100 ∨ binsEncoding code = 0b101 ∨ binsEncoding code = 0b110 := by
  have honly : OnlyExtended .bins_9 [0b100, 0b101, 0b110] := by decide +kernel
  have hmem := sub_mem_of_parse (hid ▸ honly) hparse
  simpa [binsEncoding] using hmem

/-! ## The executor -/

/-- The loop replaces the field by the low bits of `reg1`. -/
theorem overwrites_binsLoop (reg1 : Word) {lsb msb : Nat} (hmsb : msb < 32) (hle : lsb ≤ msb) :
    Overwrites lsb (msb + 1 - lsb) reg1.getLsbD fun reg2 => binsLoop reg1 reg2 lsb msb :=
  overwrites_foldl_putBit (by omega) reg1.getLsbD

/-- The flags that `BINS` leaves. -/
def binsFlags (result : Word) (cpu : TargetCore) : TargetCore :=
  ((cpu.writePsw pswOV false).writePsw pswS result.msb).writePsw pswZ (decide (result = 0))

section BinsFlags

variable (result : Word) (cpu : TargetCore)

theorem r_binsFlags : (binsFlags result cpu).r = cpu.r := by
  unfold binsFlags
  simp only [r_writePsw]

theorem ov_binsFlags : (binsFlags result cpu).issetPsw pswOV = false := by
  unfold binsFlags
  rw [issetPsw_writePsw_of_ne (by decide), issetPsw_writePsw_of_ne (by decide),
    issetPsw_writePsw_self (by decide)]

theorem s_binsFlags : (binsFlags result cpu).issetPsw pswS = result.msb := by
  unfold binsFlags
  rw [issetPsw_writePsw_of_ne (by decide), issetPsw_writePsw_self (by decide)]

theorem z_binsFlags : (binsFlags result cpu).issetPsw pswZ = decide (result = 0) := by
  unfold binsFlags
  rw [issetPsw_writePsw_self (by decide)]

theorem cy_binsFlags : (binsFlags result cpu).issetPsw pswCY = cpu.issetPsw pswCY := by
  unfold binsFlags
  rw [issetPsw_writePsw_of_ne (by decide), issetPsw_writePsw_of_ne (by decide),
    issetPsw_writePsw_of_ne (by decide)]

end BinsFlags

/-- The word that the three encodings put into `reg2`. -/
def binsResult (cpu : TargetCore) (code : OpCode) : Word :=
  binsLoop (cpu.reg (bits code 4 0)) (cpu.reg (bits code 15 11)) (binsLsb code) (binsMsb code)

/-- The branches of the executor add the offsets of the encoding. -/
theorem binsLoop_encoding {code : OpCode} (hencoding : binsEncoding code = 0b100 ∨
    binsEncoding code = 0b101 ∨ binsEncoding code = 0b110) (reg1 reg2 : Word) :
    (if (opDecode9 code).sub = 0b100 then
      binsLoop reg1 reg2
        (((bits code 27 27 : BitVec 1) ++ (bits code 19 17 : BitVec 3)).toNat + 16)
        ((bits code 31 28 : BitVec 4).toNat + 16)
    else if (opDecode9 code).sub = 0b101 then
      binsLoop reg1 reg2 ((bits code 27 27 : BitVec 1) ++ (bits code 19 17 : BitVec 3)).toNat
        ((bits code 31 28 : BitVec 4).toNat + 16)
    else
      binsLoop reg1 reg2 ((bits code 27 27 : BitVec 1) ++ (bits code 19 17 : BitVec 3)).toNat
        (bits code 31 28 : BitVec 4).toNat) =
      binsLoop reg1 reg2 (binsLsb code) (binsMsb code) := by
  have hsub : ∀ n : HalfWord, (opDecode9 code).sub = n ↔ binsEncoding code = n.toNat := by
    intro n
    rw [← BitVec.toNat_inj, toNat_binsSub]
  unfold binsLsb binsMsb
  rcases hencoding with h | h | h
  · rw [if_pos ((hsub 0b100).mpr h), h]
    rfl
  · have hne : binsEncoding code ≠ (0b100 : HalfWord).toNat := by
      rw [h]
      decide
    rw [if_neg (fun heq => hne ((hsub _).mp heq)), if_pos ((hsub 0b101).mpr h), h]
    rfl
  · have hne : binsEncoding code ≠ (0b100 : HalfWord).toNat := by
      rw [h]
      decide
    have hne' : binsEncoding code ≠ (0b101 : HalfWord).toNat := by
      rw [h]
      decide
    rw [if_neg (fun heq => hne ((hsub _).mp heq)), if_neg (fun heq => hne' ((hsub _).mp heq)), h]
    rfl

/-- The result of the executor is that of its loop on the field of the encoding. -/
theorem run_bins {code : OpCode} (hencoding : binsEncoding code = 0b100 ∨
    binsEncoding code = 0b101 ∨ binsEncoding code = 0b110) (s : CpuState D) :
    ∃ h2 : (bits code 15 11 : HalfWord).toNat < 32, (opExecBins9 (opDecode9 code)).run s =
      (.ok (), after s (Function.update s.cpu.r ⟨_, h2⟩ (binsResult s.cpu code))
        (binsFlags (binsResult s.cpu code)) 4) := by
  have h1 : (bits code 4 0 : HalfWord).toNat < 32 := toNat_bits_lt code 4 0
  have h2 : (bits code 15 11 : HalfWord).toNat < 32 := toNat_bits_lt code 15 11
  have hgen : (opDecode9 code).gen = bits code 4 0 := by
    rw [type9_opDecode9]
  have hreg2 : (opDecode9 code).reg2 = bits code 15 11 := by
    rw [type9_opDecode9]
  refine ⟨h2, ?_⟩
  unfold opExecBins9
  rw [hreg2, hgen, toNat_binsMsb, toNat_binsLsb, run_bind, run_getR h2, andThen_ok, run_bind,
    run_getR h1, andThen_ok, ← reg_of_lt h2, ← reg_of_lt h1, binsLoop_encoding hencoding]
  show (setR _ _ >>= fun _ => _).run s = _
  rw [run_bind, run_setR h2, andThen_ok]
  rfl

/-- What `BINS` promises of the state `s'` it leaves. -/
structure BinsCorrect (code : OpCode) (s s' : CpuState D) : Prop where
  inserted : ∀ i, i < 32 → (s'.cpu.reg (bits code 15 11)).getLsbD i =
    if binsLsb code ≤ i ∧ i ≤ binsMsb code then
      (s.cpu.reg (bits code 4 0)).getLsbD (i - binsLsb code)
    else (s.cpu.reg (bits code 15 11)).getLsbD i
  others : ∀ n, n ≠ bits code 15 11 → s'.cpu.reg n = s.cpu.reg n
  sign : s'.cpu.issetPsw pswS = (s'.cpu.reg (bits code 15 11)).msb
  zero : s'.cpu.issetPsw pswZ = decide (s'.cpu.reg (bits code 15 11) = 0)
  overflow : s'.cpu.issetPsw pswOV = false
  carry : s'.cpu.issetPsw pswCY = s.cpu.issetPsw pswCY

theorem binsMsb_lt (code : OpCode) : binsMsb code < 32 := by
  have hlt : (bits code 31 28 : BitVec 4).toNat < 2 ^ 4 := (bits code 31 28 : BitVec 4).isLt
  unfold binsMsb
  split_ifs <;> omega

/-- Each of the three encodings inserts the field that it names. -/
theorem bins_exact {code : OpCode} {optype : OperationCode}
    (hparse : parseOptype code = some optype) (hid : optype.codeId = .bins_9)
    (hfield : binsLsb code ≤ binsMsb code) (s : CpuState D) :
    ∃ s', (opExecBins9 (opDecode9 code)).run s = (.ok (), s') ∧ BinsCorrect code s s' := by
  obtain ⟨h2, hrun⟩ := run_bins (binsEncoding_of_parse hparse hid) s
  have hreg := reg_after s 4 h2 (binsResult s.cpu code) (r_binsFlags (binsResult s.cpu code))
  have hself := hreg (bits code 15 11)
  rw [if_pos rfl] at hself
  refine ⟨_, hrun, ?_⟩
  exact
    { inserted := by
        intro i hi
        have hbit := overwrites_binsLoop (s.cpu.reg (bits code 4 0)) (binsMsb_lt code) hfield
          (s.cpu.reg (bits code 15 11)) i hi
        rw [hself]
        refine hbit.trans ?_
        congr 1
        rw [eq_iff_iff]
        omega
      others := by
        intro n hne
        rw [hreg, if_neg hne]
      sign := by
        rw [hself, issetPsw_after, s_binsFlags]
      zero := by
        rw [hself, issetPsw_after, z_binsFlags]
      overflow := by
        rw [issetPsw_after, ov_binsFlags]
      carry := by
        rw [issetPsw_after, cy_binsFlags]
        rfl }

/-- `BINS r1, 17, 10, r2`: bits 26 to 17 of `r2`. -/
def binsUpperHalf : OpCode := fun n => [0x17E1, 0xA092].getD n 0

theorem bins_exact_upper :
    ∃ s', (opExecBins9 (opDecode9 binsUpperHalf)).run (operandState 0x2AA 0xFFFFFFFF) =
        (.ok (), s') ∧
      BinsCorrect binsUpperHalf (operandState 0x2AA 0xFFFFFFFF) s' :=
  bins_exact (show parseOptype binsUpperHalf = some ⟨.bins_9, .format9⟩ by decide +kernel) rfl
    (by decide) (operandState 0x2AA 0xFFFFFFFF)

end Exec

end Athrill
