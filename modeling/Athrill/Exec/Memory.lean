import Athrill.Exec.Ordinary

/-!
# Load and store instructions

`op_exec_load.c`, `op_exec_store.c` and their `_rh850` files.  The members of a
family differ in the width of the access, the displacement and the size of the
instruction.

`cpu_may_store_on_stack_overflow` belongs to the emulator core and is a
parameter.  Most stores pass it the truth value of `disp == TRUE` where the
displacement is meant; `op_exec_st_dw_14` passes the displacement.
-/

namespace Athrill

open Routine

namespace Exec

variable {D : Type}

/-! ## Parts -/

def cpuRegSp : Nat := 3
def cpuRegEp : Nat := 30

/-- `target_mpu_has_permission`, called by an executor. -/
def hasPermission (accessType : TargetMpuAccess) (addr size : Word) : Exec D Bool :=
  lift fun s =>
    let result := targetMpuHasPermission s.cpu accessType addr size
    (.ok result.1, { s with cpu := result.2 })

instance keeps_hasPermission (accessType : TargetMpuAccess) (addr size : Word) :
    Keeps OrdinaryStep (hasPermission accessType addr size : Exec D Bool) := by
  refine keeps_lift fun s => ?_
  obtain ⟨info, hinfo⟩ := targetMpuHasPermission_snd s.cpu accessType addr size
  show OrdinaryStep s { s with cpu := (targetMpuHasPermission s.cpu accessType addr size).2 }
  rw [hinfo]
  exact ⟨fun _ _ _ => rfl, Bits.AgreeOff.refl _ _, ⟨info, rfl⟩, rfl, rfl⟩

section Load

variable (bus : Bus D) (addr : Word)

abbrev loadS8 : Exec D Word := do
  let data8 ← busGetData8 bus addr
  pure (data8.signExtend 32)

abbrev loadU8 : Exec D Word := do
  let data8 ← busGetData8 bus addr
  pure (data8.setWidth 32)

abbrev loadS16 : Exec D Word := do
  let data16 ← busGetData16 bus addr
  pure (data16.signExtend 32)

abbrev loadU16 : Exec D Word := do
  let data16 ← busGetData16 bus addr
  pure (data16.setWidth 32)

abbrev load32 : Exec D Word :=
  busGetData32 bus addr

end Load

section Store

variable (bus : Bus D) (addr data : Word)

abbrev store8 : Exec D Unit := busPutData8 bus addr (data.setWidth 8)
abbrev store16 : Exec D Unit := busPutData16 bus addr (data.setWidth 16)
abbrev store32 : Exec D Unit := busPutData32 bus addr data

end Store

/-! ## Displacements -/

/-- The 7 bits of `type4_1`, with `gen` as the low one. -/
def disp7 (d : OpCodeFormatType4A) : Word :=
  opZeroExtend 7 ((d.disp <<< 1) ||| d.gen)

/-- The 16 bits of `type7` with the given low bit. -/
def disp16 (d : OpCodeFormatType7) (low : Word) : Word :=
  opSignExtend 15 ((d.disp <<< 1) ||| low)

/-- The 23 bits of `type14`. -/
def disp23 (d : OpCodeFormatType14) : Word :=
  opSignExtend 22 ((d.dispHigh <<< 7) ||| d.dispLow)

/-! ## Loads of format 4 -/

/-- A load relative to `ep`. -/
abbrev sld (reg2 : HalfWord) (disp : Word) (load : Word → Exec D Word) : Exec D Unit := do
  checkReg cpuRegEp
  checkReg reg2.toNat
  let base ← getR cpuRegEp
  let ret ← load (base + disp)
  setR reg2.toNat ret
  addPc 2

section

variable (bus : Bus D)

abbrev opExecSldb (d : OpCodeFormatType4A) : Exec D Unit :=
  sld d.reg2 (disp7 d) (loadS8 bus)

abbrev opExecSldbu (d : OpCodeFormatType4B) : Exec D Unit :=
  sld d.reg2 (opZeroExtend 4 d.disp) (loadU8 bus)

abbrev opExecSldhu (d : OpCodeFormatType4B) : Exec D Unit :=
  sld d.reg2 (opZeroExtend 5 (d.disp <<< 1)) (loadU16 bus)

abbrev opExecSldh (d : OpCodeFormatType4A) : Exec D Unit :=
  sld d.reg2 (disp7 d <<< 1) (loadS16 bus)

abbrev opExecSldw (d : OpCodeFormatType4A) : Exec D Unit :=
  sld d.reg2 (opZeroExtend 6 d.disp <<< 2) (load32 bus)

/-! ## Loads of formats 7 and 14 -/

/-- A load with a base register. -/
abbrev ld (reg1 dest : HalfWord) (disp size : Word) (load : Word → Exec D Word) :
    Exec D Unit := do
  checkReg reg1.toNat
  checkReg dest.toNat
  let base ← getR reg1.toNat
  let ret ← load (base + disp)
  setR dest.toNat ret
  addPc size

abbrev opExecLdb (d : OpCodeFormatType7) : Exec D Unit :=
  ld d.reg1 d.reg2 (disp16 d d.gen) 4 (loadS8 bus)

/-- The low bit of the displacement is in the opcode. -/
abbrev opExecLdbu (d : OpCodeFormatType7) : Exec D Unit :=
  ld d.reg1 d.reg2 (disp16 d ((d.opcode &&& 0x0001#16).setWidth 32)) 4 (loadU8 bus)

/-- `LD.H` and `LD.W`. -/
abbrev opExecLdhw (d : OpCodeFormatType7) : Exec D Unit :=
  if d.gen = 0 then ld d.reg1 d.reg2 (disp16 d 0) 4 (loadS16 bus)
  else ld d.reg1 d.reg2 (disp16 d 0) 4 (load32 bus)

abbrev opExecLdhu (d : OpCodeFormatType7) : Exec D Unit :=
  ld d.reg1 d.reg2 (disp16 d 0) 4 (loadU16 bus)

abbrev opExecLdB14 (d : OpCodeFormatType14) : Exec D Unit :=
  ld d.reg1 d.reg3 (disp23 d) 6 (loadS8 bus)

abbrev opExecLdBu14 (d : OpCodeFormatType14) : Exec D Unit :=
  ld d.reg1 d.reg3 (disp23 d) 6 (loadU8 bus)

abbrev opExecLdH14 (d : OpCodeFormatType14) : Exec D Unit :=
  ld d.reg1 d.reg3 (disp23 d) 6 (loadS16 bus)

abbrev opExecLdHu14 (d : OpCodeFormatType14) : Exec D Unit :=
  ld d.reg1 d.reg3 (disp23 d) 6 (loadU16 bus)

abbrev opExecLdW14 (d : OpCodeFormatType14) : Exec D Unit :=
  ld d.reg1 d.reg3 (disp23 d) 6 (load32 bus)

/-- The permission is asked for all eight bytes before the first of the two
accesses. -/
abbrev opExecLdDw14 (d : OpCodeFormatType14) : Exec D Unit := do
  checkReg d.reg1.toNat
  checkReg d.reg3.toNat
  failIf (d.reg3.toNat % 2 ≠ 0)
  let base ← getR d.reg1.toNat
  let addr := base + disp23 d
  let granted ← hasPermission .read addr 8
  failIf (granted = false)
  let data0 ← busGetData32 bus addr
  let data1 ← busGetData32 bus (addr + 4)
  setR (d.reg3.toNat + 0) data0
  setR (d.reg3.toNat + 1) data1
  addPc 6

/-! ## Stores -/

variable (mayOverflow : D → Word → Word → Bool)

/-- `cpu_may_store_on_stack_overflow` for a store through `sp`. -/
abbrev checkStack (reg1 : Nat) (base disp : Word) : Exec D Unit := do
  let dev ← gets CpuState.dev
  failIf (reg1 = cpuRegSp ∧ mayOverflow dev base disp = true)

/-- The value of `disp == TRUE`. -/
def isTrue (disp : Word) : Word :=
  if disp = 1 then 1 else 0

/-- A store with a base register. -/
abbrev st (reg1 : Nat) (src : HalfWord) (disp size : Word) (store : Word → Word → Exec D Unit) :
    Exec D Unit := do
  checkReg reg1
  checkReg src.toNat
  let base ← getR reg1
  checkStack mayOverflow reg1 base (isTrue disp)
  let data ← getR src.toNat
  store (base + disp) data
  addPc size

abbrev opExecSstb (d : OpCodeFormatType4A) : Exec D Unit :=
  st mayOverflow cpuRegEp d.reg2 (disp7 d) 2 (store8 bus)

abbrev opExecSsth (d : OpCodeFormatType4A) : Exec D Unit :=
  st mayOverflow cpuRegEp d.reg2 (disp7 d <<< 1) 2 (store16 bus)

abbrev opExecSstw (d : OpCodeFormatType4A) : Exec D Unit :=
  st mayOverflow cpuRegEp d.reg2 (opZeroExtend 6 d.disp <<< 2) 2 (store32 bus)

abbrev opExecStb (d : OpCodeFormatType7) : Exec D Unit :=
  st mayOverflow d.reg1.toNat d.reg2 (disp16 d d.gen) 4 (store8 bus)

/-- `ST.H` and `ST.W`. -/
abbrev opExecSthw (d : OpCodeFormatType7) : Exec D Unit :=
  if d.gen = 0 then st mayOverflow d.reg1.toNat d.reg2 (disp16 d 0) 4 (store16 bus)
  else st mayOverflow d.reg1.toNat d.reg2 (disp16 d 0) 4 (store32 bus)

abbrev opExecStB14 (d : OpCodeFormatType14) : Exec D Unit :=
  st mayOverflow d.reg1.toNat d.reg3 (disp23 d) 6 (store8 bus)

abbrev opExecStH14 (d : OpCodeFormatType14) : Exec D Unit :=
  st mayOverflow d.reg1.toNat d.reg3 (disp23 d) 6 (store16 bus)

abbrev opExecStW14 (d : OpCodeFormatType14) : Exec D Unit :=
  st mayOverflow d.reg1.toNat d.reg3 (disp23 d) 6 (store32 bus)

abbrev opExecStDw14 (d : OpCodeFormatType14) : Exec D Unit := do
  checkReg d.reg1.toNat
  checkReg d.reg3.toNat
  failIf (d.reg3.toNat % 2 ≠ 0)
  let base ← getR d.reg1.toNat
  checkStack mayOverflow d.reg1.toNat base (disp23 d)
  let addr := base + disp23 d
  let granted ← hasPermission .write addr 8
  failIf (granted = false)
  let data0 ← getR d.reg3.toNat
  busPutData32 bus addr data0
  -- read after the first access, which can change the registers
  let data1 ← getR (d.reg3.toNat + 1)
  busPutData32 bus (addr + 4) data1
  addPc 6

end

end Exec

end Athrill
