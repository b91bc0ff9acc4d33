import Athrill.Cpu.Fetch
import Athrill.Exec.Plain

/-!
# How far the program counter goes

Every executor adds its own constant to `pc`; the size of an encoding comes
from the format and, for a few instructions, from the words after it.  The
steps before the last one leave `pc` alone, so the class `Advances` is found
for an executor from its shape, like `Keeps`.

* `SamePc`, `Advances`: a step that keeps `pc`, and one that ends an
  instruction of a given size.
* `isBranch`: the instructions that set `pc` themselves.
* `isByteSwap`: the four instructions that go on by half of their encoding.
* `advance_iff`: which instructions go on by the bytes of their encoding.
-/

namespace Athrill

open TargetCore Routine

variable {D : Type}

/-! ## Steps -/

/-- The program counter is kept. -/
def SamePc (s s' : CpuState D) : Prop :=
  s'.cpu.pc = s.cpu.pc

instance : Std.Refl (SamePc (D := D)) where
  refl _ := rfl

instance : IsTrans (CpuState D) SamePc where
  trans _ _ _ hab hbc := hbc.trans hab

namespace Exec

/-- A change of the core that keeps the program counter. -/
theorem keeps_samePc_modifyCpu {f : TargetCore → TargetCore} (h : ∀ cpu, (f cpu).pc = cpu.pc) :
    Keeps SamePc (modifyCpu f : Exec D Unit) :=
  keeps_modify fun s => h s.cpu

instance (priority := low) keeps_samePc_of_plain {α : Type} (x : Exec D α)
    [h : Keeps Plain x] : Keeps SamePc x :=
  h.mono fun _ _ hstep => hstep.pc

instance keeps_samePc_raiseFpst (bits : Byte) : Keeps SamePc (raiseFpst bits : Exec D Unit) :=
  keeps_samePc_modifyCpu fun _ => rfl

instance keeps_samePc_putFpsrCc (data : Byte) : Keeps SamePc (putFpsrCc data : Exec D Unit) :=
  keeps_samePc_modifyCpu fun _ => rfl

/-! ## The last step -/

/-- A computation that ends with a value and flags no exception has gone on by
`n` bytes. -/
class Advances {α : Type} (n : Word) (x : Exec D α) : Prop where
  advances : ∀ s a s', x.run s = (.ok a, s') →
    s'.cpu.currentCodeException.isCodeException = false → s'.cpu.pc = s.cpu.pc + n

section Advances

variable {α β : Type} {n : Word}

instance advances_addPc : Advances n (addPc n : Exec D Unit) where
  advances s a s' h _ := by
    injection h with _ hs
    rw [← hs]

instance advances_fail : Advances n (fail : Exec D α) where
  advances s a s' h _ := absurd (congrArg Prod.fst h) (by simp [fail])

instance advances_raiseCode (exno : ExceptionId) :
    Advances n (raiseCode exno : Exec D Unit) where
  advances s a s' h hflag := by
    injection h with _ hs
    rw [← hs] at hflag
    exact absurd hflag (by simp)

instance advances_bind (x : Exec D α) (f : α → Exec D β) [hx : Keeps SamePc x]
    [hf : ∀ a, Advances n (f a)] : Advances n (x >>= f) where
  advances s b s' h hflag := by
    obtain ⟨a, s₁, hfirst, hlast⟩ := bind_eq_ok h
    have hpc : s₁.cpu.pc = s.cpu.pc := by
      have hkeeps := hx.keeps s
      rw [hfirst] at hkeeps
      exact hkeeps
    rw [(hf a).advances s₁ b s' hlast hflag, hpc]

instance advances_ite (c : Prop) [Decidable c] (x y : Exec D α) [hx : Advances n x]
    [hy : Advances n y] : Advances n (if c then x else y) := by
  split_ifs
  · exact hx
  · exact hy

end Advances

end Exec

/-! ## System instructions -/

theorem pc_ldsrWrite (id : SysReg) (data : Word) (cpu : TargetCore) :
    (ldsrWrite id data cpu).pc = cpu.pc := by
  have hhook : (targetMpuHookAccess data .write id.selid.val id.regid.val cpu).2.pc = cpu.pc := by
    obtain ⟨sys, hsys⟩ := eq_of_mpuHookAccessWrite data id.selid.val id.regid.val cpu
    show (mpuHookAccessWrite data id.selid.val id.regid.val cpu).pc = cpu.pc
    rw [hsys]
  unfold ldsrWrite
  dsimp only
  split_ifs
  · rfl
  · rfl
  · rfl
  · rfl
  · rfl
  · rw [pc_mpuSetConfig, pc_setSysreg2, hhook]
  · rfl

theorem pc_fpuSyncSysreg (id : SysReg) (cpu : TargetCore) :
    (fpuSyncSysreg id cpu).pc = cpu.pc := by
  obtain ⟨sys, hsys⟩ := eq_of_fpuSyncSysreg id cpu
  rw [hsys]

namespace Exec

instance keeps_samePc_ldsr (id : SysReg) (data : Word) :
    Keeps SamePc (modifyCpu fun cpu => fpuSyncSysreg id (ldsrWrite id data cpu) : Exec D Unit) :=
  keeps_samePc_modifyCpu fun cpu => by
    rw [pc_fpuSyncSysreg, pc_ldsrWrite]

instance keeps_samePc_diei (d : OpCodeFormatType10) :
    Keeps SamePc (modifyCpu fun cpu =>
      if d.gen1 = 0x04 then cpu.clrPsw pswID else cpu.setPsw pswID : Exec D Unit) :=
  keeps_samePc_modifyCpu fun cpu => by
    split_ifs <;> rfl

instance keeps_samePc_halt :
    Keeps SamePc (modifyCpu fun cpu => { cpu with isHalt := true } : Exec D Unit) :=
  keeps_samePc_modifyCpu fun _ => rfl

end Exec

/-! ## The table -/

/-- The instructions that set the program counter themselves: branches, jumps,
traps and returns; `DISPOSE` is one when it names a register to jump to. -/
def isBranch (codeId : OpCodeId) (d : OpDecodedCode) : Bool :=
  match codeId with
  | .bcond_3 | .bcond_7 | .jmp_1 | .jmp_6 | .jr_5 | .jr_6 | .jarl_5 | .jarl_6 | .jarl_11
  | .loop_7 | .switch_1 | .trap_10 | .fetrap_1 | .syscall_10 | .eiret_10 | .feret_10
  | .reti_10 => true
  | .dispose_13 => decide (d.type13.gen.toNat ≠ 0)
  | _ => false

/-- The byte swaps of format 12. -/
def isByteSwap : OpCodeId → Bool
  | .bsh_12 | .bsw_12 | .hsh_12 | .hsw_12 => true
  | _ => false

/-- What the executors add to the program counter. -/
def execSize (codeId : OpCodeId) (d : OpDecodedCode) : Nat :=
  if isByteSwap codeId then 2 else instrSize codeId d

/-- The byte swaps have four bytes. -/
theorem instrSize_of_isByteSwap {codeId : OpCodeId} (h : isByteSwap codeId = true)
    (d : OpDecodedCode) : instrSize codeId d = 4 := by
  revert h
  cases codeId with
  | bsh_12 | bsw_12 | hsh_12 | hsw_12 => exact fun _ => rfl
  | _ => exact fun h => absurd h (by decide)

namespace Exec

/-- The end of `PREPARE` goes on by the bytes of the form that it takes. -/
theorem advances_opExecPrepare (bus : Bus D) (d : OpCodeFormatType13) :
    Advances (prepareSize d.gen : Word) (opExecPrepare bus d) := by
  have hstore : Keeps SamePc (listRegs.forM (prepareStore bus d.list)) := inferInstance
  unfold opExecPrepare prepareSize
  by_cases himm : d.gen &&& 0x0007#16 = 1
  · rw [if_pos himm]
    simp only [if_pos himm]
    exact inferInstanceAs (Advances 4 _)
  · rw [if_neg himm]
    simp only [if_neg himm]
    by_cases hsp : d.gen >>> 3 = 0b00#16
    · rw [if_pos hsp]
      simp only [if_pos hsp]
      exact inferInstanceAs (Advances 4 _)
    · rw [if_neg hsp]
      simp only [if_neg hsp]
      by_cases hword : d.gen >>> 3 = 0b11#16
      · rw [if_pos hword]
        simp only [hword, BitVec.reduceEq, if_false, if_true]
        have hend (addrp : Nat → Byte) : Advances 8 (do
            setR cpuRegEp (pointer32 addrp)
            addPc 8 : Exec D Unit) := inferInstance
        exact inferInstanceAs (Advances 8 _)
      · rw [if_neg hword]
        simp only [if_neg hword]
        have hend (addrp : Nat → Byte) : Advances 6 (
            if d.gen >>> 3 = 1#16 then do
              setR cpuRegEp ((pointer16 addrp).signExtend 32)
              addPc 6
            else if d.gen >>> 3 = 2#16 then do
              setR cpuRegEp ((pointer16 addrp).setWidth 32 <<< 16)
              addPc 6
            else fail : Exec D Unit) := inferInstance
        exact inferInstanceAs (Advances 6 _)

theorem advances_opExecDispose (bus : Bus D) (d : OpCodeFormatType13) (hgen : d.gen.toNat = 0) :
    Advances 4 (opExecDispose bus d) := by
  have hload : Keeps SamePc (listRegs.reverse.forM (disposeLoad bus d.list)) := inferInstance
  have hend : Advances 4 (addElaps 2 >>= fun _ => addPc 4 : Exec D Unit) := inferInstance
  unfold opExecDispose
  rw [if_neg (not_not.mpr hgen)]
  infer_instance

end Exec

set_option synthInstance.maxSize 100000 in
/-- Every executor that leaves the program counter to its last step. -/
theorem advances_opExecTable {p : Platform D} {codeId : OpCodeId}
    {executor : OpDecodedCode → Exec D Unit} (hexec : opExecTable p codeId = some executor)
    (d : OpDecodedCode) (hbranch : isBranch codeId d = false) :
    Exec.Advances (execSize codeId d : Word) (executor d) := by
  by_cases hprepare : codeId = .prepare_13
  · subst hprepare
    cases hexec
    exact Exec.advances_opExecPrepare p.bus d.type13
  by_cases hdispose : codeId = .dispose_13
  · subst hdispose
    cases hexec
    exact Exec.advances_opExecDispose p.bus d.type13 (by simpa [isBranch] using hbranch)
  obtain ⟨size, hsize⟩ : ∃ size, (execSize codeId d : Word) = size := ⟨_, rfl⟩
  rw [hsize]
  cases codeId <;> cases hexec <;>
    first
    | exact absurd rfl hprepare
    | exact absurd rfl hdispose
    | exact Bool.noConfusion hbranch
    | (obtain rfl : (2 : Word) = size := hsize; infer_instance)
    | (obtain rfl : (4 : Word) = size := hsize; infer_instance)
    | (obtain rfl : (6 : Word) = size := hsize; infer_instance)

/-! ## Completed instructions -/

/-- The bytes of an encoding, from the format that the parser found. -/
def encodingSize (parsed : OperationCode × OpDecodedCode) : Nat :=
  match parsed.1.codeId with
  | .mov_6 | .jr_6 | .jarl_6 | .jmp_6 => 6
  | .prepare_13 => prepareSize parsed.2.type13.gen
  | _ => (opFormatSize parsed.1.formatId).toNat

theorem encodingSize_of_opParse {code : OpCode} {d : OpDecodedCode}
    {parsed : OperationCode × OpDecodedCode} (h : opParse code d = some parsed) :
    encodingSize parsed = instrSize parsed.1.codeId parsed.2 := by
  unfold opParse at h
  rw [Option.map_eq_some_iff] at h
  obtain ⟨⟨codeId, formatId⟩, hoptype, rfl⟩ := h
  obtain rfl : formatId = codeId.formatId := parseOptype_formatId hoptype
  rfl

/-- An instruction that is no branch and completes without an exception goes on
by the bytes of its encoding if and only if it is none of the byte swaps. -/
theorem advance_iff {p : Platform D} {code : OpCode} {d : OpDecodedCode}
    {parsed : OperationCode × OpDecodedCode} (hparse : opParse code d = some parsed)
    {executor : OpDecodedCode → Exec D Unit}
    (hexec : opExecTable p parsed.1.codeId = some executor)
    (hbranch : isBranch parsed.1.codeId parsed.2 = false) {s s' : CpuState D}
    (hok : (executor parsed.2).run s = (.ok (), s'))
    (hflag : s'.cpu.currentCodeException.isCodeException = false) :
    s'.cpu.pc = s.cpu.pc + (encodingSize parsed : Word) ↔
      isByteSwap parsed.1.codeId = false := by
  have hpc := (advances_opExecTable hexec parsed.2 hbranch).advances s () s' hok hflag
  rw [hpc, BitVec.add_right_inj, encodingSize_of_opParse hparse]
  cases hswap : isByteSwap parsed.1.codeId with
  | false =>
    unfold execSize
    rw [hswap]
    simp
  | true =>
    have hsize : instrSize parsed.1.codeId parsed.2 = 4 := instrSize_of_isByteSwap hswap _
    unfold execSize
    rw [hswap, hsize]
    decide

/-- `NOP` after reset. -/
theorem advance_iff_nop :
    ((Exec.opExecNop : Exec Unit Unit).run resetState).2.cpu.pc =
        resetState.cpu.pc + (encodingSize (⟨.nop_1, .format1⟩, .bss) : Word) ↔
      isByteSwap .nop_1 = false :=
  let parsed : OperationCode × OpDecodedCode :=
    (⟨.nop_1, .format1⟩, opDecoder (fun _ => 0) .format1 .bss)
  have hparse : opParse (fun _ => 0) .bss = some parsed := rfl
  have hexec : opExecTable (romPlatform []) .nop_1 = some fun _ => Exec.opExecNop := rfl
  advance_iff hparse hexec rfl rfl rfl

/-- `BSH r1, r2`. -/
def bshCode : OpCode
  | 0 => 0x0FE0
  | 1 => 0x1342
  | _ => 0

/-- `BSH r1, r2` goes on by two of its four bytes. -/
theorem not_advance :
    ¬ ∀ (p : Platform Unit) (code : OpCode) (d : OpDecodedCode)
      (parsed : OperationCode × OpDecodedCode) (executor : OpDecodedCode → Exec Unit Unit)
      (s s' : CpuState Unit),
      opParse code d = some parsed → opExecTable p parsed.1.codeId = some executor →
      isBranch parsed.1.codeId parsed.2 = false → (executor parsed.2).run s = (.ok (), s') →
      s'.cpu.currentCodeException.isCodeException = false →
      s'.cpu.pc = s.cpu.pc + (encodingSize parsed : Word) := by
  intro hall
  have hbsh := hall (romPlatform []) bshCode .bss (⟨.bsh_12, .format12⟩, _) _ resetState _ rfl rfl
    rfl rfl rfl
  exact absurd hbsh (by decide)

end Athrill
