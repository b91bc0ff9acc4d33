import Athrill.Exec.Memory

/-!
# Register lists, switch and exchange

The executors of `op_exec_spec.c` and `op_exec_spec_rh850.c` that need no
privilege: `PREPARE`, `DISPOSE`, `PUSHSP`, `POPSP`, `SWITCH`, `CAXI`, `NOP` and
the synchronisations.
-/

namespace Athrill

open Routine

namespace Exec

variable {D : Type}

/-- `cpu->real_elaps += n`. -/
def addElaps (n : Word) : Exec D Unit :=
  modifyCpu fun cpu => { cpu with realElaps := cpu.realElaps + n }

/-- `cpu->real_elaps = 0`. -/
def clearElaps : Exec D Unit :=
  modifyCpu fun cpu => { cpu with realElaps := 0 }

instance keeps_addElaps (n : Word) : Keeps OrdinaryStep (addElaps n : Exec D Unit) :=
  keeps_modifyCpu (fun _ => rfl) (fun _ => rfl) (fun _ => rfl) fun _ => rfl

instance keeps_clearElaps : Keeps OrdinaryStep (clearElaps : Exec D Unit) :=
  keeps_modifyCpu (fun _ => rfl) (fun _ => rfl) (fun _ => rfl) fun _ => rfl

/-! ## The stack pointer -/

theorem run_getSp (s : CpuState D) : (getR cpuRegSp).run s = (.ok (s.cpu.r 3), s) :=
  run_getR (by decide : cpuRegSp < 32) s

theorem run_setSp (data : Word) (s : CpuState D) :
    (setR cpuRegSp data).run s =
      (.ok (), { s with cpu := { s.cpu with r := Function.update s.cpu.r 3 data } }) :=
  run_setR (by decide : cpuRegSp < 32) data s

/-! ## NOP and the synchronisations -/

abbrev opExecNop : Exec D Unit := addPc 2
abbrev opExecSynce1 : Exec D Unit := addPc 2
abbrev opExecSynci1 : Exec D Unit := addPc 2
abbrev opExecSyncm1 : Exec D Unit := addPc 2
abbrev opExecSyncp1 : Exec D Unit := addPc 2

section Bus

variable (bus : Bus D)

/-! ## PREPARE and DISPOSE -/

/-- The registers that the loops visit, from 20 to 31. -/
def listRegs : List (Fin 32) :=
  (List.finRange 32).drop 20

/-- One pass of the loop of `op_exec_prepare`. -/
abbrev prepareStore (list : Fin 32 → Bool) (i : Fin 32) : Exec D Unit :=
  if list i then do
    let sp ← getR cpuRegSp
    let addr := sp - 4
    let granted ← hasPermission .write addr 4
    failIf (granted = false)
    let data ← getR i.val
    busStorePointer bus addr data
    setR cpuRegSp addr
    addElaps 1
  else pure ()

/-- The operand after the instruction; the bytes are read through a pointer. -/
def pointer16 (addrp : Nat → Byte) : HalfWord := addrp 1 ++ addrp 0
def pointer32 (addrp : Nat → Byte) : Word := addrp 3 ++ addrp 2 ++ addrp 1 ++ addrp 0

abbrev opExecPrepare (d : OpCodeFormatType13) : Exec D Unit := do
  listRegs.forM (prepareStore bus d.list)
  let sp ← getR cpuRegSp
  setR cpuRegSp (sp - (d.imm <<< 2))
  if d.gen &&& 0x0007#16 = 1 then addPc 4
  else do
    let addr ← getPcAdd 4
    let addrp ← busGetPointer bus addr
    let sp ← getR cpuRegSp
    if d.gen >>> 3 = 0b00#16 then do
      setR cpuRegEp sp
      addPc 4
    else if d.gen >>> 3 = 0b01#16 then do
      setR cpuRegEp ((pointer16 addrp).signExtend 32)
      addPc 6
    else if d.gen >>> 3 = 0b10#16 then do
      setR cpuRegEp ((pointer16 addrp).setWidth 32 <<< 16)
      addPc 6
    else if d.gen >>> 3 = 0b11#16 then do
      setR cpuRegEp (pointer32 addrp)
      addPc 8
    else fail

/-- One pass of the loop of `op_exec_dispose`. -/
abbrev disposeLoad (list : Fin 32 → Bool) (i : Fin 32) : Exec D Unit :=
  if list i then do
    let addr ← getR cpuRegSp
    let granted ← hasPermission .read addr 4
    failIf (granted = false)
    let addrp ← busGetPointer bus addr
    setR i.val (pointer32 addrp)
    setR cpuRegSp (addr + 4)
    addElaps 1
  else pure ()

abbrev opExecDispose (d : OpCodeFormatType13) : Exec D Unit := do
  clearElaps
  let sp ← getR cpuRegSp
  setR cpuRegSp (sp + (d.imm <<< 2))
  listRegs.reverse.forM (disposeLoad bus d.list)
  if d.gen.toNat ≠ 0 then do
    addElaps 6
    let pc ← getR d.gen.toNat
    setPc pc
  else do
    addElaps 2
    addPc 4

/-! ## PUSHSP and POPSP -/

/-- The loop of `op_exec_pushsp_11` with `n` passes to go; the result is
`tmp_sp`. -/
def pushspLoop : Nat → Nat → Word → Exec D Word
  | 0, _, tmpSp => pure tmpSp
  | n + 1, cur, tmpSp => do
    let data ← getR cur
    busPutData32 bus (tmpSp - 4) data
    addElaps 1
    pushspLoop n (cur + 1) (tmpSp - 4)

abbrev opExecPushsp11 (d : OpCodeFormatType11) : Exec D Unit :=
  if d.reg3.toNat < d.reg1.toNat then addPc 4
  else do
    let sp ← getR cpuRegSp
    let tmpSp ← pushspLoop bus (d.reg3.toNat + 1 - d.reg1.toNat) d.reg1.toNat
      (sp &&& 0xFFFFFFFC#32)
    setR cpuRegSp tmpSp
    addPc 4

/-- The loop of `op_exec_popsp_11` with `n` passes to go. -/
def popspLoop : Nat → Nat → Word → Exec D Word
  | 0, _, tmpSp => pure tmpSp
  | n + 1, cur, tmpSp => do
    let data ← busGetData32 bus tmpSp
    setR cur data
    addElaps 1
    popspLoop n (cur - 1) (tmpSp + 4)

/-- The counter is unsigned: with `rh = 0` the loop goes on past register 0. -/
abbrev opExecPopsp11 (d : OpCodeFormatType11) : Exec D Unit :=
  if d.reg3.toNat < d.reg1.toNat then addPc 4
  else do
    let sp ← getR cpuRegSp
    let tmpSp ← popspLoop bus (d.reg3.toNat + 1 - d.reg1.toNat) d.reg3.toNat
      (sp &&& 0xFFFFFFFC#32)
    (if d.reg1.toNat = 0 then undefined else pure ())
    setR cpuRegSp tmpSp
    addPc 4

instance keeps_pushspLoop (n cur : Nat) (tmpSp : Word) :
    Keeps OrdinaryStep (pushspLoop bus n cur tmpSp) := by
  induction n generalizing cur tmpSp with
  | zero => exact keeps_pure _
  | succ n ih =>
    rw [pushspLoop]
    infer_instance

instance keeps_popspLoop (n cur : Nat) (tmpSp : Word) :
    Keeps OrdinaryStep (popspLoop bus n cur tmpSp) := by
  induction n generalizing cur tmpSp with
  | zero => exact keeps_pure _
  | succ n ih =>
    rw [popspLoop]
    infer_instance

/-! ## SWITCH and CAXI -/

abbrev opExecSwitch (d : OpCodeFormatType1) : Exec D Unit := do
  checkReg d.reg1.toNat
  let reg1 ← getR d.reg1.toNat
  let base ← getPcAdd 2
  let data16 ← busGetData16 bus (base + (reg1 <<< 1))
  setPc (base + (data16.signExtend 32 <<< 1))

/-- The token has 16 bits. -/
abbrev opExecCaxi (d : OpCodeFormatType11) : Exec D Unit := do
  let reg1 ← getR d.reg1.toNat
  let addr := reg1 &&& 0xFFFFFFFC#32
  let reg2 ← getR d.reg2.toNat
  let reg3 ← getR d.reg3.toNat
  let token ← busGetData16 bus addr
  let result : HalfWord := (reg2 - token.signExtend 32).setWidth 16
  busPutData16 bus addr (if result = 0 then reg3.setWidth 16 else token)
  setR d.reg3.toNat (token.setWidth 32)
  opChkAndSetBorrow reg2 (token.signExtend 32)
  opChkAndSetOverflow reg2.toNat (-token.toInt)
  opChkAndSetZero (result.signExtend 32)
  opChkAndSetSign (result.signExtend 32)
  addPc 4

end Bus

end Exec

end Athrill
