import Athrill.Intc.Types

/-!
# The interrupt controller registers

The registers live in the data arrays of the two INTC regions of
`mpu_address_map`, one bank per core, and are read and written through
pointers into them (`intc_get_pointer`).  Memory is little endian.

* `IntcCell`: one byte of the arrays.
* `icAddress`, `imrAddress`: the addresses of a channel's registers.
* `mpuGetPointer`: the cell of an address in the bank of a core.
* `intcIsUserIntrMasked` and the other functions of `intc_config.c` that read
  or write one field of an IC register.
-/

namespace Athrill

open Bits

/-! ## Memory -/

/-- The two INTC regions of `mpu_address_map`. -/
inductive IntcRegion where
  | intc1 | intc2
  deriving DecidableEq, Repr

def IntcRegion.start : IntcRegion → Nat
  | .intc1 => 0xFFFEEA00
  | .intc2 => 0xFFFFB000

def IntcRegion.size : IntcRegion → Nat
  | .intc1 => 0x200
  | .intc2 => 0x1000

/-- A byte of the array `memory_data_INTC1` or `memory_data_INTC2`. -/
structure IntcCell where
  region : IntcRegion
  index : Nat
  deriving DecidableEq, Repr

/-- The cell `k` bytes further on. -/
def IntcCell.add (cell : IntcCell) (k : Nat) : IntcCell :=
  { cell with index := cell.index + k }

abbrev IntcMemory := IntcCell → Byte

namespace IntcMemory

variable (memory : IntcMemory)

def put8 (cell : IntcCell) (data : Byte) : IntcMemory :=
  Function.update memory cell data

def get16 (cell : IntcCell) : HalfWord :=
  memory (cell.add 1) ++ memory cell

def put16 (cell : IntcCell) (data : HalfWord) : IntcMemory :=
  (put8 memory cell (data.truncate 8)).put8 (cell.add 1) ((data >>> 8).truncate 8)

def get32 (cell : IntcCell) : Word :=
  get16 memory (cell.add 2) ++ get16 memory cell

def put32 (cell : IntcCell) (data : Word) : IntcMemory :=
  (put16 memory cell (data.truncate 16)).put16 (cell.add 2) ((data >>> 16).truncate 16)

end IntcMemory

/-- The interrupt controller: its registers, the controllers of the cores and
the number of the next list entry. -/
structure Intc where
  memory : IntcMemory
  control : CoreId → ExceptionController
  nextEntry : Nat

/-! ## Addresses -/

def tnumInt : Nat := 358

/-- `IC_ADDRESS`. -/
def icAddress (intno : Nat) : Nat :=
  if intno ≤ 31 then 0xFFFEEA00 + intno * 2 else 0xFFFFB040 + (intno - 32) * 2

/-- `IMR_ADDRESS`. -/
def imrAddress (intno : Nat) : Nat :=
  if intno ≤ 31 then 0xFFFEEAF0 else 0xFFFFB400 + intno / 32 * 4

/-- The region that holds an address. -/
def intcRegionOf (addr : Nat) : IntcRegion :=
  if 0xFFFFB000 ≤ addr then .intc2 else .intc1

/-- `mpu_get_pointer` for an INTC address: `intc_get_pointer` of its region. -/
def mpuGetPointer (coreId : CoreId) (addr : Nat) : IntcCell :=
  let region := intcRegionOf addr
  { region := region, index := addr - region.start + coreId.val * region.size }

/-- `device_get_data16`: always the bank of core 0. -/
def deviceGetData16 (intc : Intc) (addr : Nat) : HalfWord :=
  intc.memory.get16 (mpuGetPointer 0 addr)

/-! ## Fields of an IC register -/

/-- `IC_ISSET_TABLEREF`. -/
def icTableref : Nat := 6
/-- `IC_ISSET_INTMASK`. -/
def icIntmask : Nat := 7
/-- `IC_ISSET_INTREQ`. -/
def icIntreq : Nat := 12

/-- `intc_is_devsetting_tableref`. -/
def intcIsDevsettingTableref (intc : Intc) (intno : Nat) : Bool :=
  (deviceGetData16 intc (icAddress intno)).getLsbD icTableref

/-- `intc_get_user_intr_priority_degree`. -/
def intcGetUserIntrPriorityDegree (intc : Intc) (intno : Nat) : Nat :=
  (deviceGetData16 intc (icAddress intno) &&& 0x000F#16).toNat

/-- `intc_is_user_intr_masked`. -/
def intcIsUserIntrMasked (intc : Intc) (intno : Nat) : Bool :=
  (deviceGetData16 intc (icAddress intno)).getLsbD icIntmask

/-- `intc_isset_user_intr_reqflag`: the core of the caller is not used. -/
def intcIssetUserIntrReqflag (intc : Intc) (intno : Nat) : Bool :=
  (deviceGetData16 intc (icAddress intno)).getLsbD icIntreq

/-- One bit of an IC register is written in the bank of a core. -/
def putIcBit (intc : Intc) (coreId : CoreId) (intno bit : Nat) (flag : Bool) : Intc :=
  let datap := mpuGetPointer coreId (icAddress intno)
  { intc with memory := intc.memory.put16 datap (putBit (intc.memory.get16 datap) bit flag) }

/-- `intc_set_user_intr_reqflag`: the bank of the core. -/
def intcSetUserIntrReqflag (intc : Intc) (coreId : CoreId) (intno : Nat) (flag : Bool) : Intc :=
  putIcBit intc coreId intno icIntreq flag

/-- `IC_SET_INTMASK` and `IC_CLR_INTMASK` in the bank of a core. -/
def putIntmask (intc : Intc) (coreId : CoreId) (intno : Nat) (flag : Bool) : Intc :=
  putIcBit intc coreId intno icIntmask flag

/-! ## Priorities -/

/-- `intc_get_user_intr_priority_degree_default`. -/
def intcGetUserIntrPriorityDegreeDefault (intno : Nat) : Nat :=
  intno

/-- `intc_get_exception_priority_level`. -/
def intcGetExceptionPriorityLevel (exno : ExceptionId) : Fin 16 :=
  (exceptionConfig exno).priority.level

/-- `intc_get_exception_priority_degree`. -/
def intcGetExceptionPriorityDegree (intc : Intc) (exno : ExceptionId) (intno : Nat) : Nat :=
  let degree : Word :=
    if exno = .userIntr then
      (BitVec.ofNat 32 (intcGetUserIntrPriorityDegree intc intno) <<< 16) |||
        BitVec.ofNat 32 (intcGetUserIntrPriorityDegreeDefault intno)
    else
      (BitVec.ofNat 32 (exceptionConfig exno).priority.degreeCustom <<< 16) ||| 0xFFFF#32
  degree.toNat

/-! ## Reset -/

/-- The first loop of `intc_reset_registers` over the channels. -/
def resetIc (coreId : CoreId) (memory : IntcMemory) (intno : Nat) : IntcMemory :=
  memory.put16 (mpuGetPointer coreId (icAddress intno)) 0x008F

/-- The second loop, over `INTC_IMR_NUM` mask registers. -/
def resetImr (coreId : CoreId) (memory : IntcMemory) (imrNo : Nat) : IntcMemory :=
  memory.put32 (mpuGetPointer coreId (imrAddress (imrNo * 32))) 0xFFFFFFFF

/-- `intc_reset_registers`. -/
def intcResetRegisters (coreId : CoreId) (memory : IntcMemory) : IntcMemory :=
  (List.range 11).foldl (resetImr coreId) ((List.range tnumInt).foldl (resetIc coreId) memory)

/-- `device_init_intc`: the arrays are static storage, so they are zero before. -/
def deviceInitIntc : Intc where
  memory := intcResetRegisters 1 (intcResetRegisters 0 fun _ => 0)
  control := fun _ =>
    { currentException := none, exceptionQueue := fun _ => [], userQueue := [] }
  nextEntry := 0

end Athrill
