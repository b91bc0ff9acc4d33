import Athrill.Exec.Conditions

/-!
# Saturated arithmetic

The seven encodings of `SATADD`, `SATSUB`, `SATSUBR` and `SATSUBI`.  All go
through `op_satadd`, a subtraction with the negated operand: the result and
every flag but the carry come out right.

* `satFlags`, `satResult`, `run_opSatadd`: what `op_satadd` does.
* `SatInstr`, `SatInstr.ofParsed`, `run_satInstr`: the encodings.
* `sumFlags`, `SatInstr.plainFlags`: the flags of `ADD` and `SUB`.
* `SatCorrect`, `saturation_exact`: when an instruction is right.
-/

namespace Athrill

open TargetCore Routine Bits

namespace Exec

variable {D : Type}

/-! ## The shared operation -/

/-- The saturation flag is set, never cleared. -/
def raiseSat (overflow : Bool) (cpu : TargetCore) : TargetCore :=
  if overflow then cpu.writePsw pswSAT true else cpu

/-- The flags that `op_satadd` leaves. -/
def satFlags (dataL : Word) (dataR : Int) (cpu : TargetCore) : TargetCore :=
  ((raiseSat (decide (Flags.OutOfRange 32 (dataL.toInt + dataR)))
    ((cpu.writePsw pswCY
        (decide (0xFFFFFFFF < dataL.toNat + (BitVec.ofInt 32 dataR).toNat))).writePsw pswOV
      (decide (Flags.OutOfRange 32 (dataL.toInt + dataR))))).writePsw pswS
    (decide (dataL.toInt + dataR < 0))).writePsw pswZ (decide (dataL.toInt + dataR = 0))

/-- The word that `op_satadd` returns. -/
def satResult (dataL : Word) (dataR : Int) : Word :=
  BitVec.ofInt 32 (Flags.clamp 32 (dataL.toInt + dataR))

theorem outOfRange_iff (x : Int) :
    Flags.OutOfRange 32 x ↔ cpuRegPlusMax < x ∨ x < cpuRegMinusMax := by
  unfold Flags.OutOfRange cpuRegPlusMax cpuRegMinusMax
  omega

theorem clamp_eq (x : Int) :
    Flags.clamp 32 x =
      if cpuRegPlusMax < x then cpuRegPlusMax
      else if x < cpuRegMinusMax then cpuRegMinusMax else x := by
  unfold Flags.clamp cpuRegPlusMax cpuRegMinusMax
  split_ifs <;> omega

theorem run_opSatadd (dataL : Word) (dataR : Int) (s : CpuState D) :
    (opSatadd dataL dataR).run s =
      (.ok (satResult dataL dataR), { s with cpu := satFlags dataL dataR s.cpu }) := by
  have hresult : satResult dataL dataR =
      if cpuRegPlusMax < dataL.toInt + dataR then BitVec.ofInt 32 cpuRegPlusMax
      else if dataL.toInt + dataR < cpuRegMinusMax then BitVec.ofInt 32 cpuRegMinusMax
      else BitVec.ofInt 32 (dataL.toInt + dataR) := by
    unfold satResult
    rw [clamp_eq]
    split_ifs <;> rfl
  have hov : (decide (cpuRegPlusMax < dataL.toInt + dataR) ||
      decide (dataL.toInt + dataR < cpuRegMinusMax)) =
      decide (Flags.OutOfRange 32 (dataL.toInt + dataR)) := by
    rw [← Bool.decide_or, decide_eq_decide]
    exact (outOfRange_iff _).symm
  unfold opSatadd opChkAndSetOverflow satFlags raiseSat
  dsimp only
  rw [hov, hresult]
  by_cases hout : Flags.OutOfRange 32 (dataL.toInt + dataR)
  · rw [if_pos ((outOfRange_iff _).mp hout), decide_eq_true hout, if_pos rfl]
    rfl
  · rw [if_neg fun h => hout ((outOfRange_iff _).mpr h), decide_eq_false hout,
      if_neg Bool.false_ne_true]
    rfl

section SatFlags

variable (dataL : Word) (dataR : Int) (cpu : TargetCore)

theorem issetPsw_raiseSat_of_ne {bit : Nat} (hne : pswSAT ≠ bit) (overflow : Bool) :
    (raiseSat overflow cpu).issetPsw bit = cpu.issetPsw bit := by
  unfold raiseSat
  split_ifs with h
  · exact issetPsw_writePsw_of_ne hne true cpu
  · rfl

theorem cy_satFlags :
    (satFlags dataL dataR cpu).issetPsw pswCY =
      decide (2 ^ 32 ≤ dataL.toNat + (BitVec.ofInt 32 dataR).toNat) := by
  unfold satFlags
  rw [issetPsw_writePsw_of_ne (by decide), issetPsw_writePsw_of_ne (by decide),
    issetPsw_raiseSat_of_ne _ (by decide), issetPsw_writePsw_of_ne (by decide),
    issetPsw_writePsw_self (by decide), decide_eq_decide]
  omega

theorem ov_satFlags :
    (satFlags dataL dataR cpu).issetPsw pswOV =
      decide (Flags.OutOfRange 32 (dataL.toInt + dataR)) := by
  unfold satFlags
  rw [issetPsw_writePsw_of_ne (by decide), issetPsw_writePsw_of_ne (by decide),
    issetPsw_raiseSat_of_ne _ (by decide), issetPsw_writePsw_self (by decide)]

theorem s_satFlags :
    (satFlags dataL dataR cpu).issetPsw pswS = decide (dataL.toInt + dataR < 0) := by
  unfold satFlags
  rw [issetPsw_writePsw_of_ne (by decide), issetPsw_writePsw_self (by decide)]

theorem z_satFlags :
    (satFlags dataL dataR cpu).issetPsw pswZ = decide (dataL.toInt + dataR = 0) := by
  unfold satFlags
  rw [issetPsw_writePsw_self (by decide)]

theorem sat_satFlags :
    (satFlags dataL dataR cpu).issetPsw pswSAT =
      (cpu.issetPsw pswSAT || decide (Flags.OutOfRange 32 (dataL.toInt + dataR))) := by
  unfold satFlags
  rw [issetPsw_writePsw_of_ne (by decide), issetPsw_writePsw_of_ne (by decide)]
  unfold raiseSat
  by_cases hout : Flags.OutOfRange 32 (dataL.toInt + dataR)
  · rw [decide_eq_true hout, if_pos rfl, issetPsw_writePsw_self (by decide), Bool.or_true]
  · rw [decide_eq_false hout, if_neg (by decide), Bool.or_false,
      issetPsw_writePsw_of_ne (by decide), issetPsw_writePsw_of_ne (by decide)]

theorem r_satFlags : (satFlags dataL dataR cpu).r = cpu.r := by
  unfold satFlags raiseSat
  split_ifs <;> simp only [r_writePsw]

/-- The saturated value fits the register. -/
theorem toInt_satResult :
    (satResult dataL dataR).toInt = Flags.clamp 32 (dataL.toInt + dataR) := by
  obtain ⟨hlow, hhigh⟩ := Flags.clamp_mem 32 (dataL.toInt + dataR)
  exact BitVec.toInt_ofInt_eq_self (by omega) hlow hhigh

end SatFlags

/-! ## The encodings -/

/-- The encodings of the saturated instructions. -/
inductive SatInstr where
  | satadd1 (d : OpCodeFormatType1)
  | satsub1 (d : OpCodeFormatType1)
  | satsubr1 (d : OpCodeFormatType1)
  | satadd2 (d : OpCodeFormatType2)
  | satsubi (d : OpCodeFormatType6)
  | satadd11 (d : OpCodeFormatType11)
  | satsub11 (d : OpCodeFormatType11)

namespace SatInstr

/-- The saturated instruction that the parser has found. -/
def ofParsed (parsed : OperationCode × OpDecodedCode) : Option SatInstr :=
  match parsed.1.codeId with
  | .satadd_1 => some (satadd1 parsed.2.type1)
  | .satsub_1 => some (satsub1 parsed.2.type1)
  | .satsubr_1 => some (satsubr1 parsed.2.type1)
  | .satadd_2 => some (satadd2 parsed.2.type2)
  | .satsubi_6 => some (satsubi parsed.2.type6)
  | .satadd_11 => some (satadd11 parsed.2.type11)
  | .satsub_11 => some (satsub11 parsed.2.type11)
  | _ => none

/-- The immediate of format 6 has sixteen bits. -/
def ImmFits : SatInstr → Prop
  | satsubi d => d.imm.toNat < 2 ^ 16
  | _ => True

def exec : SatInstr → Exec D Unit
  | satadd1 d => opExecSatadd1 d
  | satsub1 d => opExecSatsub1 d
  | satsubr1 d => opExecSatsubr1 d
  | satadd2 d => opExecSatadd2 d
  | satsubi d => opExecSatsubi d
  | satadd11 d => opExecSatadd11 d
  | satsub11 d => opExecSatsub11 d

/-- The operand that is added to or subtracted from. -/
def left (cpu : TargetCore) : SatInstr → Word
  | satadd1 d | satsub1 d => cpu.reg d.reg2
  | satsubr1 d => cpu.reg d.reg1
  | satadd2 d => cpu.reg d.reg2
  | satsubi d => cpu.reg d.reg1
  | satadd11 d | satsub11 d => cpu.reg d.reg2

/-- The operand that is added or subtracted. -/
def right (cpu : TargetCore) : SatInstr → Word
  | satadd1 d | satsub1 d => cpu.reg d.reg1
  | satsubr1 d => cpu.reg d.reg2
  | satadd2 d => opFormat2ImmSignExtend d.imm
  | satsubi d => opSignExtend 15 d.imm
  | satadd11 d | satsub11 d => cpu.reg d.reg1

/-- The instruction subtracts. -/
def subtracts : SatInstr → Bool
  | satadd1 _ | satadd2 _ | satadd11 _ => false
  | satsub1 _ | satsubr1 _ | satsubi _ | satsub11 _ => true

/-- The register that gets the result. -/
def dest : SatInstr → HalfWord
  | satadd1 d | satsub1 d | satsubr1 d => d.reg2
  | satadd2 d => d.reg2
  | satsubi d => d.reg2
  | satadd11 d | satsub11 d => d.reg3

/-- The right operand as `op_satadd` gets it. -/
def addend (cpu : TargetCore) (i : SatInstr) : Int :=
  if i.subtracts then -(i.right cpu).toInt else (i.right cpu).toInt

/-- The exact sum or difference. -/
def exact (cpu : TargetCore) (i : SatInstr) : Int :=
  if i.subtracts then (i.left cpu).toInt - (i.right cpu).toInt
  else (i.left cpu).toInt + (i.right cpu).toInt

theorem left_add_addend (cpu : TargetCore) (i : SatInstr) :
    (i.left cpu).toInt + i.addend cpu = i.exact cpu := by
  unfold addend exact
  split_ifs <;> omega

/-- The executor of the table is that of the instruction. -/
theorem exec_of_parsed {p : Platform D} {parsed : OperationCode × OpDecodedCode} {i : SatInstr}
    (hinstr : ofParsed parsed = some i) {executor : OpDecodedCode → Exec D Unit}
    (hexec : opExecTable p parsed.1.codeId = some executor) : executor parsed.2 = i.exec := by
  obtain ⟨⟨codeId, formatId⟩, d⟩ := parsed
  unfold ofParsed at hinstr
  dsimp only at hinstr hexec ⊢
  split at hinstr
  all_goals cases hinstr
  all_goals
    cases hexec
    rfl

/-- The decoder leaves sixteen bits of an immediate. -/
theorem immFits_of_parsed {code : OpCode} {d : OpDecodedCode}
    {parsed : OperationCode × OpDecodedCode} (hparse : opParse code d = some parsed)
    {i : SatInstr} (hinstr : ofParsed parsed = some i) : i.ImmFits := by
  obtain ⟨⟨codeId, formatId⟩, hoptype, hdecode⟩ := Option.map_eq_some_iff.mp hparse
  have hformat := parseOptype_formatId hoptype
  subst hdecode
  dsimp only at hformat
  subst hformat
  have himm : (opDecode6 code).imm.toNat < 2 ^ 16 := by
    unfold opDecode6 field32
    rw [BitVec.toNat_setWidth]
    exact (Nat.mod_le _ _).trans_lt (field (code 1) 0 0xFFFF).isLt
  unfold ofParsed at hinstr
  dsimp only at hinstr
  split at hinstr
  all_goals cases hinstr
  all_goals first
    | exact trivial
    | exact himm

end SatInstr

open SatInstr

/-- The immediate of `SATSUBI` can be negated. -/
theorem toInt_neg_signExtend15 {imm : Word} (himm : imm.toNat < 2 ^ 16) :
    (-(opSignExtend 15 imm)).toInt = -(opSignExtend 15 imm).toInt := by
  apply BitVec.toInt_neg_of_ne_intMin
  intro hmin
  have hbit : (opSignExtend 15 imm).getLsbD 15 = false := by
    rw [hmin]
    decide
  by_cases hneg : imm.getLsbD 15 = true
  · unfold opSignExtend at hbit
    rw [if_pos hneg, BitVec.getLsbD_or, hneg] at hbit
    exact absurd hbit (by decide)
  · unfold opSignExtend at hmin
    rw [if_neg hneg] at hmin
    have hval : imm.toNat = 2 ^ 31 := congrArg BitVec.toNat hmin
    omega

/-- The end of every saturated instruction. -/
theorem opSatadd_ok {n : Nat} (hn : n < 32) {dataL : Word} {dataR : Int} {len : Word}
    {s s' : CpuState D}
    (h : (opSatadd dataL dataR >>= fun result => setR n result >>= fun _ => addPc len).run s =
      (.ok (), s')) :
    s'.cpu = { satFlags dataL dataR s.cpu with
      r := Function.update s.cpu.r ⟨n, hn⟩ (satResult dataL dataR)
      pc := s'.cpu.pc } := by
  rw [run_bind, run_opSatadd, andThen_ok, run_bind, run_setR hn, andThen_ok] at h
  cases h
  rw [← r_satFlags dataL dataR s.cpu]

/-- Every instruction goes through `op_satadd` and writes its result. -/
theorem run_satInstr {i : SatInstr} (himm : i.ImmFits) {s s' : CpuState D}
    (h : i.exec.run s = (.ok (), s')) :
    ∃ hdest : i.dest.toNat < 32,
      s'.cpu = { satFlags (i.left s.cpu) (i.addend s.cpu) s.cpu with
        r := Function.update s.cpu.r ⟨i.dest.toNat, hdest⟩
          (satResult (i.left s.cpu) (i.addend s.cpu))
        pc := s'.cpu.pc } := by
  cases i with
  | satadd1 d =>
    obtain ⟨h1, h⟩ := checkReg_ok h
    obtain ⟨h2, h⟩ := checkReg_ok h
    rw [run_bind, run_getR h2, andThen_ok, run_bind, run_getR h1, andThen_ok,
      ← reg_of_lt h1, ← reg_of_lt h2] at h
    exact ⟨h2, opSatadd_ok h2 h⟩
  | satsub1 d =>
    obtain ⟨h1, h⟩ := checkReg_ok h
    obtain ⟨h2, h⟩ := checkReg_ok h
    rw [run_bind, run_getR h2, andThen_ok, run_bind, run_getR h1, andThen_ok,
      ← reg_of_lt h1, ← reg_of_lt h2] at h
    exact ⟨h2, opSatadd_ok h2 h⟩
  | satsubr1 d =>
    obtain ⟨h1, h⟩ := checkReg_ok h
    obtain ⟨h2, h⟩ := checkReg_ok h
    rw [run_bind, run_getR h1, andThen_ok, run_bind, run_getR h2, andThen_ok,
      ← reg_of_lt h1, ← reg_of_lt h2] at h
    exact ⟨h2, opSatadd_ok h2 h⟩
  | satadd2 d =>
    obtain ⟨h2, h⟩ := checkReg_ok h
    rw [run_bind, run_getR h2, andThen_ok, ← reg_of_lt h2] at h
    exact ⟨h2, opSatadd_ok h2 h⟩
  | satsubi d =>
    obtain ⟨h1, h⟩ := checkReg_ok h
    obtain ⟨h2, h⟩ := checkReg_ok h
    rw [run_bind, run_getR h1, andThen_ok, ← reg_of_lt h1, toInt_neg_signExtend15 himm] at h
    exact ⟨h2, opSatadd_ok h2 h⟩
  | satadd11 d =>
    obtain ⟨h1, h⟩ := checkReg_ok h
    obtain ⟨h2, h⟩ := checkReg_ok h
    obtain ⟨h3, h⟩ := checkReg_ok h
    rw [run_bind, run_getR h2, andThen_ok, run_bind, run_getR h1, andThen_ok,
      ← reg_of_lt h1, ← reg_of_lt h2] at h
    exact ⟨h3, opSatadd_ok h3 h⟩
  | satsub11 d =>
    obtain ⟨h1, h⟩ := checkReg_ok h
    obtain ⟨h2, h⟩ := checkReg_ok h
    obtain ⟨h3, h⟩ := checkReg_ok h
    rw [run_bind, run_getR h2, andThen_ok, run_bind, run_getR h1, andThen_ok,
      ← reg_of_lt h1, ← reg_of_lt h2] at h
    exact ⟨h3, opSatadd_ok h3 h⟩

/-! ## The plain operations -/

/-- The flags that `ADD` leaves. -/
def sumFlags (left right : Word) (cpu : TargetCore) : TargetCore :=
  (((cpu.writePsw pswCY (decide (0xFFFFFFFF < left.toNat + right.toNat))).writePsw pswOV
    (decide (cpuRegPlusMax < left.toInt + right.toInt) ||
      decide (left.toInt + right.toInt < cpuRegMinusMax))).writePsw pswZ
    (decide (left + right = 0))).writePsw pswS (left + right).msb

section SumFlags

variable (left right : Word) (cpu : TargetCore)

theorem cy_sumFlags :
    (sumFlags left right cpu).issetPsw pswCY = decide (2 ^ 32 ≤ left.toNat + right.toNat) := by
  unfold sumFlags
  rw [issetPsw_writePsw_of_ne (by decide), issetPsw_writePsw_of_ne (by decide),
    issetPsw_writePsw_of_ne (by decide), issetPsw_writePsw_self (by decide), decide_eq_decide]
  omega

theorem ov_sumFlags :
    (sumFlags left right cpu).issetPsw pswOV =
      decide (Flags.OutOfRange 32 (left.toInt + right.toInt)) := by
  unfold sumFlags
  rw [issetPsw_writePsw_of_ne (by decide), issetPsw_writePsw_of_ne (by decide),
    issetPsw_writePsw_self (by decide), ← Bool.decide_or, decide_eq_decide]
  exact (outOfRange_iff _).symm

end SumFlags

/-! ## Correctness -/

namespace SatInstr

/-- The core after `ADD` or `SUB` on the operands. -/
def plainFlags (cpu : TargetCore) (i : SatInstr) : TargetCore :=
  if i.subtracts then differenceFlags (i.left cpu) (i.right cpu) cpu
  else sumFlags (i.left cpu) (i.right cpu) cpu

theorem ov_plainFlags (cpu : TargetCore) (i : SatInstr) :
    (i.plainFlags cpu).issetPsw pswOV = decide (Flags.OutOfRange 32 (i.exact cpu)) := by
  unfold plainFlags exact
  split_ifs
  · exact ov_differenceFlags _ _ _
  · exact ov_sumFlags _ _ _

/-- The carry that `op_satadd` computes is that of `ADD` or `SUB`, unless it
subtracts something. -/
theorem cy_eq_iff (cpu : TargetCore) (i : SatInstr) :
    (satFlags (i.left cpu) (i.addend cpu) cpu).issetPsw pswCY =
        (i.plainFlags cpu).issetPsw pswCY ↔
      i.subtracts = false ∨ i.right cpu = 0 := by
  rw [cy_satFlags]
  unfold plainFlags addend
  by_cases hsub : i.subtracts = true
  · have hneg : BitVec.ofInt 32 (-(i.right cpu).toInt) = -i.right cpu := by
      rw [BitVec.ofInt_neg, BitVec.ofInt_toInt]
    rw [if_pos hsub, if_pos hsub, hneg, cy_differenceFlags, decide_eq_decide,
      Flags.carry_neg_iff]
    have hzero : i.right cpu = 0 → (i.right cpu).toNat = 0 := fun h => by
      rw [h]
      rfl
    constructor
    · intro h
      refine Or.inr ?_
      by_contra hne
      have hle : ¬ (i.right cpu).toNat ≤ (i.left cpu).toNat := fun hle =>
        absurd (h.mp ⟨hne, hle⟩) (by omega)
      exact hle (h.mpr (by omega)).2
    · rintro (hfalse | h0)
      · rw [hsub] at hfalse
        cases hfalse
      · have hnat := hzero h0
        constructor
        · exact fun h => absurd h0 h.1
        · intro h
          omega
  · rw [if_neg hsub, if_neg hsub, BitVec.ofInt_toInt, cy_sumFlags]
    simpa using Or.inl hsub

end SatInstr

/-- A saturated instruction from `cpu` to `cpu'` does what it should. -/
structure SatCorrect (i : SatInstr) (cpu cpu' : TargetCore) : Prop where
  /-- the exact result, clamped -/
  result : (cpu'.reg i.dest).toInt = Flags.clamp 32 (i.exact cpu)
  cy : cpu'.issetPsw pswCY = (i.plainFlags cpu).issetPsw pswCY
  ov : cpu'.issetPsw pswOV = (i.plainFlags cpu).issetPsw pswOV
  sign : cpu'.issetPsw pswS = decide ((cpu'.reg i.dest).toInt < 0)
  zero : cpu'.issetPsw pswZ = decide ((cpu'.reg i.dest).toInt = 0)
  /-- set by saturation, kept otherwise -/
  sat : cpu'.issetPsw pswSAT =
    (cpu.issetPsw pswSAT || decide (Flags.OutOfRange 32 (i.exact cpu)))

/-- An instruction that the parser has found is right if and only if it adds, or
subtracts zero: all but the carry always is. -/
theorem saturation_exact {p : Platform D} {code : OpCode} {d : OpDecodedCode}
    {parsed : OperationCode × OpDecodedCode} (hparse : opParse code d = some parsed)
    {i : SatInstr} (hinstr : ofParsed parsed = some i)
    {executor : OpDecodedCode → Exec D Unit}
    (hexec : opExecTable p parsed.1.codeId = some executor) {s s' : CpuState D}
    (hrun : (executor parsed.2).run s = (.ok (), s')) :
    SatCorrect i s.cpu s'.cpu ↔ i.subtracts = false ∨ i.right s.cpu = 0 := by
  rw [exec_of_parsed hinstr hexec] at hrun
  obtain ⟨hdest, hcpu⟩ := run_satInstr (immFits_of_parsed hparse hinstr) hrun
  have hbit : ∀ bit, s'.cpu.issetPsw bit =
      (satFlags (i.left s.cpu) (i.addend s.cpu) s.cpu).issetPsw bit := by
    intro bit
    rw [hcpu]
    rfl
  have hresult : (s'.cpu.reg i.dest).toInt = Flags.clamp 32 (i.exact s.cpu) := by
    have hreg : s'.cpu.reg i.dest = satResult (i.left s.cpu) (i.addend s.cpu) := by
      rw [reg_of_lt hdest, hcpu]
      exact Function.update_self _ _ _
    rw [hreg, toInt_satResult, left_add_addend]
  have hcy := cy_eq_iff s.cpu i
  constructor
  · intro h
    exact hcy.mp (by rw [← hbit, h.cy])
  · intro h
    exact
      { result := hresult
        cy := by rw [hbit, hcy.mpr h]
        ov := by rw [hbit, ov_satFlags, left_add_addend, ov_plainFlags]
        sign := by
          rw [hbit, s_satFlags, left_add_addend, hresult, decide_eq_decide,
            Flags.clamp_neg_iff]
        zero := by
          rw [hbit, z_satFlags, left_add_addend, hresult, decide_eq_decide,
            Flags.clamp_eq_zero_iff (by omega)]
        sat := by rw [hbit, sat_satFlags, left_add_addend] }

/-- `SATADD r1, r2`. -/
def sataddCode : OpCode
  | 0 => 0x10C1
  | _ => 0

/-- The sum of the largest number and 1 is too large, and everything is set as it
should be. -/
theorem saturation_exact_largest :
    SatCorrect (.satadd1 (opDecode1 sataddCode)) (operandState 0x7FFFFFFF 1).cpu
      ((SatInstr.satadd1 (opDecode1 sataddCode)).exec.run (operandState 0x7FFFFFFF 1)).2.cpu :=
  (saturation_exact (p := romPlatform []) (d := .bss)
    (show opParse sataddCode .bss =
      some (⟨.satadd_1, .format1⟩, opDecoder sataddCode .format1 .bss) from rfl)
    rfl rfl rfl).mpr (Or.inl rfl)

/-- `SATSUBI 1, r0, r1`. -/
def satsubiCode : OpCode
  | 0 => 0x0E60
  | 1 => 1
  | _ => 0

/-- It borrows on the machine after reset, and leaves the carry clear. -/
theorem satsubi_carry :
    opParse satsubiCode .bss =
        some (⟨.satsubi_6, .format6⟩, opDecoder satsubiCode .format6 .bss) ∧
      ((SatInstr.satsubi (opDecode6 satsubiCode)).plainFlags resetState.cpu).issetPsw pswCY =
        true ∧
      ((SatInstr.satsubi (opDecode6 satsubiCode)).exec.run resetState).2.cpu.issetPsw pswCY =
        false := by
  refine ⟨rfl, ?_⟩
  decide +kernel

end Exec

end Athrill
