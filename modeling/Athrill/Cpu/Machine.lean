import Athrill.Intc.Registers
import Athrill.Lib.Routine

/-!
# The state of the executors and the bus

An instruction runs on one core, the interrupt controller and whatever lies
behind the bus.  The bus itself (`bus_get_data8` and the other `bus_`
functions, with the address map and the devices) belongs to the emulator core,
outside this repository, and is a parameter.

A bus access reaches back into the repository in few places: the permission
check writes the MPU error information, the register windows of the debugger
write general registers, and the INTC registers flag a code exception or
change the interrupt controller.  `BusView` is that part of the state; an
access cannot change anything else.

* `CpuState`: the state of the executors.
* `Bus`: the external bus.
* `Exec`: an executor; it returns 0 by ending, -1 by `Stop.fail`.
-/

namespace Athrill

/-! ## State -/

/-- One core with the interrupt controller. -/
structure CpuIntc where
  cpu : TargetCore
  intc : Intc

/-- The state of the executors; `D` is the state behind the bus. -/
structure CpuState (D : Type) extends CpuIntc where
  dev : D

/-- The part of the state that a bus access can change. -/
structure BusView (D : Type) where
  r : Fin 32 → Word
  exceptionErrorInfo : TargetMpuErrorInfo
  currentCodeException : CodeException
  intc : Intc
  dev : D

namespace CpuState

variable {D : Type}

def view (s : CpuState D) : BusView D where
  r := s.cpu.r
  exceptionErrorInfo := s.cpu.mpu.exceptionErrorInfo
  currentCodeException := s.cpu.currentCodeException
  intc := s.intc
  dev := s.dev

def withView (s : CpuState D) (v : BusView D) : CpuState D where
  cpu :=
    { s.cpu with
      r := v.r
      mpu := { s.cpu.mpu with exceptionErrorInfo := v.exceptionErrorInfo }
      currentCodeException := v.currentCodeException }
  intc := v.intc
  dev := v.dev

@[simp] theorem withView_view (s : CpuState D) : s.withView s.view = s := rfl

section WithView

variable (s : CpuState D) (v : BusView D)

@[simp] theorem pc_withView : (s.withView v).cpu.pc = s.cpu.pc := rfl
@[simp] theorem sys_withView : (s.withView v).cpu.sys = s.cpu.sys := rfl
@[simp] theorem isHalt_withView : (s.withView v).cpu.isHalt = s.cpu.isHalt := rfl
@[simp] theorem coreId_withView : (s.withView v).cpu.coreId = s.cpu.coreId := rfl

end WithView

end CpuState

/-! ## The bus -/

/-- The external bus.  A read or write gives `none` when it does not return
`STD_E_OK`. -/
structure Bus (D : Type) where
  getData8 : CpuState D → Word → Option Byte × BusView D
  getData16 : CpuState D → Word → Option HalfWord × BusView D
  getData32 : CpuState D → Word → Option Word × BusView D
  putData8 : CpuState D → Word → Byte → Option Unit × BusView D
  putData16 : CpuState D → Word → HalfWord → Option Unit × BusView D
  putData32 : CpuState D → Word → Word → Option Unit × BusView D
  /-- `bus_get_pointer`: the bytes from the pointer on. -/
  getPointer : CpuState D → Word → Option (Nat → Byte)
  /-- `bus_get_pointer` followed by the store of a word through the pointer. -/
  storePointer : CpuState D → Word → Word → Option (BusView D)

/-! ## Executors -/

/-- The ways an executor stops early. -/
inductive Stop where
  /-- `return -1`. -/
  | fail
  /-- The C code has no defined behaviour from here on. -/
  | undefined
  deriving DecidableEq, Repr

abbrev Exec (D α : Type) := Routine (CpuState D) Stop α

namespace Exec

open Routine

variable {D : Type}

/-- `return -1`. -/
def fail {α : Type} : Exec D α := stop .fail

/-- Undefined behaviour of the C code. -/
def undefined {α : Type} : Exec D α := stop .undefined

/-- Reads of the core. -/
def getCpu {α : Type} (f : TargetCore → α) : Exec D α :=
  gets fun s => f s.cpu

/-- Writes to the core. -/
def modifyCpu (f : TargetCore → TargetCore) : Exec D Unit :=
  modify fun s => { s with cpu := f s.cpu }

/-- `cpu->reg.r[n]`; an index past the array is undefined. -/
def getR (n : Nat) : Exec D Word :=
  if h : n < 32 then getCpu fun cpu => cpu.r ⟨n, h⟩ else undefined

/-- `cpu->reg.r[n] = data`. -/
def setR (n : Nat) (data : Word) : Exec D Unit :=
  if h : n < 32 then
    modifyCpu fun cpu => { cpu with r := Function.update cpu.r ⟨n, h⟩ data }
  else undefined

theorem run_getR {n : Nat} (hn : n < 32) (s : CpuState D) :
    (getR n).run s = (.ok (s.cpu.r ⟨n, hn⟩), s) := by
  unfold getR
  rw [dif_pos hn]
  rfl

theorem run_setR {n : Nat} (hn : n < 32) (data : Word) (s : CpuState D) :
    (setR n data).run s =
      (.ok (), { s with cpu := { s.cpu with r := Function.update s.cpu.r ⟨n, hn⟩ data } }) := by
  unfold setR
  rw [dif_pos hn]
  rfl

def getPc : Exec D Word :=
  getCpu TargetCore.pc

def setPc (pc : Word) : Exec D Unit :=
  modifyCpu fun cpu => { cpu with pc := pc }

/-- `cpu->reg.pc += n`. -/
def addPc (n : Word) : Exec D Unit :=
  modifyCpu fun cpu => { cpu with pc := cpu.pc + n }

/-- `if (cond) return -1;` -/
def failIf (cond : Prop) [Decidable cond] : Exec D Unit :=
  if cond then fail else pure ()

/-- One access over the bus; `-1` when it fails. -/
def busAccess {α : Type} (access : CpuState D → Option α × BusView D) : Exec D α :=
  lift fun s =>
    match access s with
    | (some a, v) => (.ok a, s.withView v)
    | (none, v) => (.error .fail, s.withView v)

section Bus

variable (bus : Bus D) (addr : Word)

def busGetData8 : Exec D Byte := busAccess fun s => bus.getData8 s addr
def busGetData16 : Exec D HalfWord := busAccess fun s => bus.getData16 s addr
def busGetData32 : Exec D Word := busAccess fun s => bus.getData32 s addr
def busPutData8 (data : Byte) : Exec D Unit := busAccess fun s => bus.putData8 s addr data
def busPutData16 (data : HalfWord) : Exec D Unit := busAccess fun s => bus.putData16 s addr data
def busPutData32 (data : Word) : Exec D Unit := busAccess fun s => bus.putData32 s addr data

/-- `bus_get_pointer`, for reading. -/
def busGetPointer : Exec D (Nat → Byte) :=
  busAccess fun s => (bus.getPointer s addr, s.view)

/-- `bus_get_pointer` and `*addrp = data`. -/
def busStorePointer (data : Word) : Exec D Unit :=
  busAccess fun s =>
    match bus.storePointer s addr data with
    | some v => (some (), v)
    | none => (none, s.view)

end Bus

end Exec

end Athrill
