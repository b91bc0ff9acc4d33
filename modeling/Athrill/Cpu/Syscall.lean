import Athrill.Cpu.Entry
import Athrill.Dec.Extended

/-!
# The vector of SYSCALL

The vector has eight bits in two fields: the low five where other formats have a
register, the high three in bits 29 to 27.  The executor takes the high ones
from a member that the decoder fills with bits 20 to 17.

* `encodedVector`: the vector of the encoding.
* `SyscallCorrect`: the vector, the handler and the cause.
* `syscall_exact`: when the executor gets them right.
-/

namespace Athrill

open TargetCore Routine Bits Exec

variable {D : Type}

/-! ## The fields -/

/-- Bits 29 to 27 and bits 4 to 0. -/
def encodedVector (code : OpCode) : Byte :=
  (bits code 29 27 : BitVec 3) ++ (bits code 4 0 : BitVec 5)

section Vector

variable (code : OpCode)

theorem syscallVector_opDecode10 :
    syscallVector (opDecode10 code) = (bits code 20 17 : Word) <<< 5 ||| bits code 4 0 := by
  have hrfu3 : (opDecode10 code).rfu3 = bits code 20 17 :=
    field_one code 4 1 (by decide) (by decide)
  have hgen2 : (opDecode10 code).gen2 = bits code 4 0 :=
    field32_zero code 4 0 (by decide) (by decide)
  unfold syscallVector
  rw [hrfu3, hgen2, setWidth_bits code (by omega)]

theorem setWidth_encodedVector :
    (encodedVector code).setWidth 32 = (bits code 29 27 : Word) <<< 5 ||| bits code 4 0 := by
  apply BitVec.eq_of_getLsbD_eq
  intro i hi
  unfold encodedVector
  rw [BitVec.getLsbD_setWidth, BitVec.getLsbD_append, BitVec.getLsbD_or, BitVec.getLsbD_shiftLeft,
    getLsbD_bits, getLsbD_bits, getLsbD_bits, getLsbD_bits]
  by_cases h5 : i < 5
  · simp [h5, hi]
  · by_cases h3 : i - 5 < 3
    · have h32 : i - 5 < 32 := by omega
      simp [h5, hi, h3, h32]
    · simp [h5, hi, h3]

/-- The vectors agree when the two fields do. -/
theorem syscallVector_eq_iff :
    syscallVector (opDecode10 code) = (encodedVector code).setWidth 32 ↔
      (bits code 20 17 : Word) = bits code 29 27 := by
  rw [syscallVector_opDecode10, setWidth_encodedVector]
  constructor
  · intro h
    apply BitVec.eq_of_getLsbD_eq
    intro i hi
    by_cases h4 : i < 4
    · have hbit := congrArg (fun x : Word => x.getLsbD (i + 5)) h
      have hnot : ¬ i + 5 < 5 := by omega
      have h32 : i + 5 < 32 := by omega
      simp only [BitVec.getLsbD_or, BitVec.getLsbD_shiftLeft, getLsbD_bits code 4 0] at hbit
      simpa [hnot, h32] using hbit
    · have hlen : ¬ i < 20 + 1 - 17 := by omega
      have hlen' : ¬ i < 29 + 1 - 27 := by omega
      rw [getLsbD_bits, getLsbD_bits, decide_eq_false hlen, decide_eq_false hlen']
      simp
  · intro h
    rw [h]

end Vector

/-! ## The executor -/

/-- What `SYSCALL` promises: the vector, the handler when the table can be read,
and the cause. -/
structure SyscallCorrect (bus : Bus D) (code : OpCode) (s : CpuState D) : Prop where
  vector : syscallVector (opDecode10 code) = (encodedVector code).setWidth 32
  handler : ∀ word v,
    bus.getData32 { s with cpu := syscallEntry ((encodedVector code).setWidth 32) s.cpu }
      (if (encodedVector code).toNat ≤ (s.cpu.getSysreg2 .sccfg).toNat % 256 then
        s.cpu.getSysreg2 .scbp + 4 * (encodedVector code).setWidth 32
      else s.cpu.getSysreg2 .scbp) = (some word, v) →
    ∃ s', (opExecSyscall10 bus (opDecode10 code)).run s = (.ok (), s') ∧
      s'.cpu.pc = s.cpu.getSysreg2 .scbp + word
  cause : ((opExecSyscall10 bus (opDecode10 code)).run s).2.cpu.getSysreg2 .eiic =
    0x8000 + (encodedVector code).setWidth 32

/-- The address of the table entry, in the words of the documentation. -/
theorem syscallTableAddr_eq (vector : Byte) (cpu : TargetCore) :
    syscallTableAddr (vector.setWidth 32) cpu =
      if vector.toNat ≤ (cpu.getSysreg2 .sccfg).toNat % 256 then
        cpu.getSysreg2 .scbp + 4 * vector.setWidth 32
      else cpu.getSysreg2 .scbp := by
  have hvector : (vector.setWidth 32 : Word).toNat = vector.toNat := by
    rw [BitVec.toNat_setWidth]
    omega
  have hsize : (cpu.getSysreg2 .sccfg &&& 0x000000FF#32).toNat =
      (cpu.getSysreg2 .sccfg).toNat % 256 := by
    rw [BitVec.toNat_and]
    exact Nat.and_two_pow_sub_one_eq_mod _ 8
  have hscale : (vector.setWidth 32 : Word) <<< 2 = 4 * vector.setWidth 32 := by
    rw [BitVec.shiftLeft_eq_mul_twoPow, BitVec.mul_comm]
    rfl
  unfold syscallTableAddr
  rw [hscale]
  simp only [BitVec.le_def, hvector, hsize]

/-- The register `EIIC` after the executor, whether the table can be read or
not. -/
theorem eiic_run_syscall (bus : Bus D) (d : OpCodeFormatType10) (s : CpuState D) :
    ((opExecSyscall10 bus d).run s).2.cpu.getSysreg2 .eiic =
      (s.cpu.getSysreg2 .eiic &&& 0xFFFF0000#32) ||| (0x8000 + syscallVector d) := by
  have hsys : ((opExecSyscall10 bus d).run s).2.cpu.sys =
      (syscallEntry (syscallVector d) s.cpu).sys := sys_syscall bus d s
  rw [← eiic_syscallEntry]
  exact congrFun hsys SysReg.eiic

/-- The cause is right exactly when no bit of the upper half is left over. -/
theorem cause_iff (eiic : Word) (vector : Byte) :
    (eiic &&& 0xFFFF0000#32) ||| (0x8000 + vector.setWidth 32) = 0x8000 + vector.setWidth 32 ↔
      eiic &&& 0xFFFF0000#32 = 0#32 := by
  have hupper : 0xFFFF0000#32 &&& ~~~(0x8000 + vector.setWidth 32) = 0xFFFF0000#32 := by
    revert vector
    decide
  rw [and_or_eq_iff, BitVec.and_assoc, hupper]

/-- The executor is right when bits 20 to 17 repeat the high bits of the vector
and the upper half of `EIIC` is clear. -/
theorem syscall_exact (bus : Bus D) (code : OpCode) (s : CpuState D) :
    SyscallCorrect bus code s ↔
      (bits code 20 17 : Word) = bits code 29 27 ∧
        s.cpu.getSysreg2 .eiic &&& 0xFFFF0000#32 = 0#32 := by
  have heiic := eiic_run_syscall bus (opDecode10 code) s
  constructor
  · intro h
    have hcause := h.cause
    rw [heiic, h.vector, cause_iff] at hcause
    exact ⟨(syscallVector_eq_iff code).mp h.vector, hcause⟩
  · rintro ⟨hfields, hupper⟩
    have hvector := (syscallVector_eq_iff code).mpr hfields
    refine ⟨hvector, ?_, ?_⟩
    · intro word v hread
      have hrun := run_opExecSyscall10 s bus (opDecode10 code)
      dsimp only at hrun
      rw [hvector, syscallTableAddr_eq, hread] at hrun
      exact ⟨_, hrun, rfl⟩
    · rw [heiic, hvector, cause_iff]
      exact hupper

/-- `SYSCALL 32`. -/
def syscall32 : OpCode := fun n => [0xD7E0, 0x0960].getD n 0

/-- The executor takes vector 32 for vector 0. -/
theorem syscall_vector_32 :
    parseOptype syscall32 = some ⟨.syscall_10, .format10⟩ ∧
      ¬ SyscallCorrect (romBus fun _ => 0) syscall32 resetState := by
  refine ⟨by decide +kernel, ?_⟩
  intro h
  have hvector := h.vector
  revert hvector
  decide

end Athrill
