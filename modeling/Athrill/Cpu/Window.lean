import Athrill.Cpu.Machine
import Athrill.Intc.Control
import Athrill.Lib.ByteMemory

/-!
# The registers in the address space

`cpu_register_operation` of `cpu_config.c`: a window that holds the general
registers of the running core, the number of the core, the registers of the
mutual exclusion and those of the interrupts between the cores.  It is read and
written by words only.

* `WindowPlace`, `getCpuRegisterAddr`: what an address stands for.
* `cpuGetData32`, `cpuPutData32`: the two operations.
* `WindowBus`: what they leave of the general registers, asked of a whole bus.
-/

namespace Athrill

open ByteMemory

variable {D : Type}

/-! ## Addresses -/

/-- `CPU_CONFIG_DEBUG_REGISTER_ADDR`. -/
def cpuConfigDebugRegisterAddr : Word := 0x06FF0000

/-- `CPU_CONFIG_ADDR_PEID`. -/
def cpuConfigAddrPeid : Word := 0x06FF6490

/-- `CPU_CONFIG_ADDR_MIR_0`. -/
def cpuConfigAddrMir0 : Word := 0x06FF6800

/-- `CPU_CONFIG_ADDR_MIR_1`. -/
def cpuConfigAddrMir1 : Word := 0x06FF6804

/-- `CPU_CONFIG_ADDR_MEV_0`. -/
def cpuConfigAddrMev0 : Word := 0x06FF6900

/-- `CPU_CONFIG_ADDR_MEV_7`. -/
def cpuConfigAddrMev7 : Word := 0x06FF691C

/-- `inx` of `get_cpu_register_addr`. -/
def registerIndex (addr : Word) : Nat := ((addr - cpuConfigDebugRegisterAddr) / 4).toNat

/-- Where the pointer of `get_cpu_register_addr` goes: a general register, or
the data of the region from an offset on. -/
inductive WindowPlace where
  | register (n : Fin 32)
  | region (off : Word)
  deriving DecidableEq, Repr

/-- `get_cpu_register_addr`. -/
def getCpuRegisterAddr (coreId : CoreId) (addr : Word) : Option WindowPlace :=
  if h : registerIndex addr < 32 then some (.register ⟨registerIndex addr, h⟩)
  else if addr = cpuConfigAddrPeid then
    some (.region ((addr - cpuConfigDebugRegisterAddr) * BitVec.ofNat 32 coreId.val))
  else if cpuConfigAddrMev0 ≤ addr ∧ addr ≤ cpuConfigAddrMev7 then
    some (.region (addr - cpuConfigDebugRegisterAddr))
  else if cpuConfigAddrMir0 ≤ addr ∧ addr ≤ cpuConfigAddrMir1 then
    some (.region (addr - cpuConfigDebugRegisterAddr))
  else none

/-! ## Operations -/

/-- The word that the pointer shows. -/
def WindowPlace.value (place : WindowPlace) (v : BusView (Memory 32)) : Word :=
  match place with
  | .register n => v.r n
  | .region off => BitVec.ofNat 32 (load v.dev off 4)

/-- A word written through the pointer. -/
def WindowPlace.write (place : WindowPlace) (data : Word) (v : BusView (Memory 32)) :
    BusView (Memory 32) :=
  match place with
  | .register n => { v with r := Function.update v.r n data }
  | .region off => { v with dev := store v.dev off 4 data.toNat }

/-- `cpu_get_data32`; the number of the core is stored before it is read. -/
def cpuGetData32 (s : CpuState (Memory 32)) (addr : Word) : Option Word × BusView (Memory 32) :=
  match getCpuRegisterAddr s.cpu.coreId addr with
  | none => (none, s.view)
  | some place =>
    let v :=
      if addr = cpuConfigAddrPeid then place.write (BitVec.ofNat 32 (s.cpu.coreId.val + 1)) s.view
      else s.view
    (some (place.value v), v)

/-- `cpu_put_data32`. -/
def cpuPutData32 (s : CpuState (Memory 32)) (addr data : Word) :
    Option Unit × BusView (Memory 32) :=
  match getCpuRegisterAddr s.cpu.coreId addr with
  | none => (none, s.view)
  | some place =>
    if addr = cpuConfigAddrPeid then (none, s.view)
    else if addr = cpuConfigAddrMir0 then
      (some (), { s.view with intc := intcCpuTriggerInterrupt s.cpu.coreId 0 s.intc })
    else if addr = cpuConfigAddrMir1 then
      (some (), { s.view with intc := intcCpuTriggerInterrupt s.cpu.coreId 1 s.intc })
    else (some (), place.write data s.view)

/-! ## The general registers -/

/-- An access leaves the general registers alone; only a store of a word reaches
one, at its place in the window.  The window has no operation for the other
accesses. -/
structure WindowBus (bus : Bus D) : Prop where
  get8 : ∀ s addr, (bus.getData8 s addr).2.r = s.cpu.r
  get16 : ∀ s addr, (bus.getData16 s addr).2.r = s.cpu.r
  get32 : ∀ s addr, (bus.getData32 s addr).2.r = s.cpu.r
  put8 : ∀ s addr data, (bus.putData8 s addr data).2.r = s.cpu.r
  put16 : ∀ s addr data, (bus.putData16 s addr data).2.r = s.cpu.r
  put32 : ∀ s addr data (n : Fin 32), registerIndex addr ≠ n.val →
    (bus.putData32 s addr data).2.r n = s.cpu.r n
  pointer : ∀ s addr data v, bus.storePointer s addr data = some v → v.r = s.cpu.r

/-- A place that is a general register is found by its index. -/
theorem getCpuRegisterAddr_register {coreId : CoreId} {addr : Word} {n : Fin 32}
    (h : getCpuRegisterAddr coreId addr = some (.register n)) : registerIndex addr = n.val := by
  unfold getCpuRegisterAddr at h
  split_ifs at h with hlt
  · cases h
    rfl
  · cases h
  · cases h
  · cases h

/-- A read writes no general register. -/
theorem r_cpuGetData32 (s : CpuState (Memory 32)) (addr : Word) :
    (cpuGetData32 s addr).2.r = s.cpu.r := by
  unfold cpuGetData32
  cases hplace : getCpuRegisterAddr s.cpu.coreId addr with
  | none => rfl
  | some place =>
    dsimp only
    split_ifs with haddr
    · subst haddr
      have hregion : getCpuRegisterAddr s.cpu.coreId cpuConfigAddrPeid = some
          (.region ((cpuConfigAddrPeid - cpuConfigDebugRegisterAddr) *
            BitVec.ofNat 32 s.cpu.coreId.val)) := rfl
      rw [hregion] at hplace
      cases hplace
      rfl
    · rfl

/-- A write reaches the general register at its address, and no other. -/
theorem r_cpuPutData32 (s : CpuState (Memory 32)) {addr : Word} (data : Word) {n : Fin 32}
    (haway : registerIndex addr ≠ n.val) : (cpuPutData32 s addr data).2.r n = s.cpu.r n := by
  unfold cpuPutData32
  cases hplace : getCpuRegisterAddr s.cpu.coreId addr with
  | none => rfl
  | some place =>
    dsimp only
    split_ifs
    · rfl
    · rfl
    · rfl
    · cases place with
      | region off => rfl
      | register m =>
        have hne : n ≠ m := by
          rintro rfl
          exact haway (getCpuRegisterAddr_register hplace)
        exact Function.update_of_ne hne _ _

end Athrill
