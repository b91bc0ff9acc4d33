import Athrill.Exec.Ops

/-!
# Bit and branch instructions

`op_exec_bit.c`, `op_exec_branch.c` and `op_exec_branch_rh850.c`.
-/

namespace Athrill

namespace Exec

variable {D : Type}

section Bit

variable (bus : Bus D)

/-! ## Format 8 -/

/-- The address of a bit instruction of format 8; the displacement is
signed. -/
abbrev bitAddr (d : OpCodeFormatType8) : Exec D Word := do
  checkReg d.reg1.toNat
  let base ← getR d.reg1.toNat
  pure (base + d.disp.signExtend 32)

abbrev opExecTst18 (d : OpCodeFormatType8) : Exec D Unit := do
  let addr ← bitAddr d
  let bit ← busGetData8 bus addr
  setZ (!bit.getLsbD d.bit.toNat)
  addPc 4

abbrev opExecSet18 (d : OpCodeFormatType8) : Exec D Unit := do
  let addr ← bitAddr d
  let bit ← busGetData8 bus addr
  busPutData8 bus addr (Bits.setBit bit d.bit.toNat)
  setZ (!bit.getLsbD d.bit.toNat)
  addPc 4

abbrev opExecClr18 (d : OpCodeFormatType8) : Exec D Unit := do
  let addr ← bitAddr d
  let bit ← busGetData8 bus addr
  busPutData8 bus addr (Bits.clearBit bit d.bit.toNat)
  setZ (!bit.getLsbD d.bit.toNat)
  addPc 4

/-- `NOT1` writes the flag before the memory. -/
abbrev opExecNot18 (d : OpCodeFormatType8) : Exec D Unit := do
  let addr ← bitAddr d
  let bit ← busGetData8 bus addr
  setZ (!bit.getLsbD d.bit.toNat)
  busPutData8 bus addr (Bits.putBit bit d.bit.toNat (!bit.getLsbD d.bit.toNat))
  addPc 4

/-! ## Format 9 -/

/-- The low three bits of a register select the bit. -/
def bit3 (data : Word) : Nat :=
  (data &&& 0x07#32).toNat

abbrev opExecSet19 (d : OpCodeFormatType9) : Exec D Unit := do
  checkReg d.gen.toNat
  checkReg d.reg2.toNat
  let addr ← getR d.gen.toNat
  let bit ← busGetData8 bus addr
  let reg2 ← getR d.reg2.toNat
  busPutData8 bus addr (Bits.setBit bit (bit3 reg2))
  setZ (!bit.getLsbD (bit3 reg2))
  addPc 4

abbrev opExecClr19 (d : OpCodeFormatType9) : Exec D Unit := do
  checkReg d.gen.toNat
  checkReg d.reg2.toNat
  let addr ← getR d.gen.toNat
  let bit ← busGetData8 bus addr
  let reg2 ← getR d.reg2.toNat
  busPutData8 bus addr (Bits.clearBit bit (bit3 reg2))
  setZ (!bit.getLsbD (bit3 reg2))
  addPc 4

abbrev opExecTst19 (d : OpCodeFormatType9) : Exec D Unit := do
  checkReg d.gen.toNat
  checkReg d.reg2.toNat
  let addr ← getR d.gen.toNat
  let bit ← busGetData8 bus addr
  let reg2 ← getR d.reg2.toNat
  setZ (!bit.getLsbD (bit3 reg2))
  addPc 4

abbrev opExecNot19 (d : OpCodeFormatType9) : Exec D Unit := do
  checkReg d.gen.toNat
  checkReg d.reg2.toNat
  let addr ← getR d.gen.toNat
  let bit ← busGetData8 bus addr
  let reg2 ← getR d.reg2.toNat
  setZ (!bit.getLsbD (bit3 reg2))
  busPutData8 bus addr (Bits.putBit bit (bit3 reg2) (!bit.getLsbD (bit3 reg2)))
  addPc 4

/-- `op_exec_schlr_9`; the carry flag is set on both branches. -/
abbrev opExecSchlr9 (searchBit searchLeft : Bool) (d : OpCodeFormatType9) : Exec D Unit := do
  let reg2 ← getR d.reg2.toNat
  let found := (List.range 32).find? fun i =>
    reg2.getLsbD (if searchLeft then 31 - i else i) == searchBit
  setCY true
  setOV false
  setS false
  setZ found.isNone
  setR d.rfu2.toNat (match found with
    | some count => BitVec.ofNat 32 count + 1
    | none => 0)
  addPc 4

abbrev opExecSch0l9 (d : OpCodeFormatType9) : Exec D Unit := opExecSchlr9 false true d
abbrev opExecSch1l9 (d : OpCodeFormatType9) : Exec D Unit := opExecSchlr9 true true d
abbrev opExecSch0r9 (d : OpCodeFormatType9) : Exec D Unit := opExecSchlr9 false false d
abbrev opExecSch1r9 (d : OpCodeFormatType9) : Exec D Unit := opExecSchlr9 true false d

end Bit

/-! ## Branches -/

/-- `op_exec_bcond`. -/
abbrev opExecBcond (cond : HalfWord) (disp codeSize : Word) : Exec D Unit := do
  let isBr ← getCpu fun cpu => opExecCond cpu cond
  addPc (if isBr then disp else codeSize)

abbrev opExecJmp (d : OpCodeFormatType1) : Exec D Unit := do
  checkReg d.reg1.toNat
  let addr ← getR d.reg1.toNat
  setPc addr

abbrev opExecBcond3 (d : OpCodeFormatType3) : Exec D Unit :=
  opExecBcond d.cond (opSignExtend 8 (d.disp <<< 1)) 2

/-- `op_exec_jr`: `JR` and `JARL`. -/
abbrev opExecJr (d : OpCodeFormatType5) : Exec D Unit := do
  let pc ← getPc
  (if 0 < d.reg2.toNat then setR d.reg2.toNat (pc + 4) else pure ())
  setPc (pc + opSignExtend 21 d.disp)

/-- `op_exec_parse_jmp_addr_fmt6`: the high half of the displacement is read
again over the bus. -/
abbrev opExecParseJmpAddrFmt6 (bus : Bus D) (d : OpCodeFormatType6) : Exec D Word := do
  let immHighAddr ← getPcAdd 4
  let immHigh ← busGetData16 bus immHighAddr
  pure ((immHigh.setWidth 32 <<< 16) ||| d.imm)

abbrev opExecJmp6 (bus : Bus D) (d : OpCodeFormatType6) : Exec D Unit := do
  checkReg d.reg1.toNat
  let disp ← opExecParseJmpAddrFmt6 bus d
  let base ← getR d.reg1.toNat
  setPc (base + disp)

abbrev opExecJarl6 (bus : Bus D) (d : OpCodeFormatType6) : Exec D Unit := do
  let pc ← getPc
  let disp ← opExecParseJmpAddrFmt6 bus d
  setR d.reg1.toNat (pc + 6)
  setPc (pc + disp)

abbrev opExecJr6 (bus : Bus D) (d : OpCodeFormatType6) : Exec D Unit := do
  let pc ← getPc
  let disp ← opExecParseJmpAddrFmt6 bus d
  setPc (pc + disp)

/-- The condition is in the low four bits of `reg1`, the top bit of the
displacement in the fifth. -/
abbrev opExecBcond7 (d : OpCodeFormatType7) : Exec D Unit :=
  let dispD := (d.reg1 &&& 0x10#16).setWidth 32 >>> 4
  opExecBcond (d.reg1 &&& 0x0F#16) (opSignExtend 16 (((dispD <<< 15) ||| d.disp) <<< 1)) 4

abbrev opExecJarl11 (d : OpCodeFormatType11) : Exec D Unit := do
  let pc ← getPc
  let addr ← getR d.reg1.toNat
  setR d.reg3.toNat (pc + 4)
  setPc addr

/-- `op_exec_loop_7`; the last pass clears the carry flag and leaves the loop. -/
abbrev opExecLoop7 (d : OpCodeFormatType7) : Exec D Unit := do
  let pc ← getPc
  let reg1 ← getR d.reg1.toNat
  let addData : Word := 0xFFFFFFFF
  let result := reg1 + addData
  (if result = 0 then setCY false else opChkAndSetCarry reg1 addData)
  opChkAndSetOverflow reg1.toNat addData.toNat
  opChkAndSetZero result
  opChkAndSetSign result
  setR d.reg1.toNat result
  setPc (if result = 0 then pc + 4 else pc - opZeroExtend 16 (d.disp <<< 1))

end Exec

end Athrill
