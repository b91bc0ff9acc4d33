import Athrill.Cpu.Run
import Athrill.Intc.Access

/-!
# Runs of the interrupt controller

The interrupt controller with its environment: the cores write its registers,
return from handlers and raise exceptions, the peripherals raise interrupts,
and the emulator clocks it.  Whatever else the cores and the devices do leaves
the controller alone and is one arbitrary step.

* `IntcEvent`, `IntcStep`: the steps.
* `intcSystem`: the transition system, from reset.
* `TableReads`: what is used of the bus.
-/

namespace Athrill

open TargetCore

variable {D : Type}

namespace Machine

/-- What a core works on when it reaches the interrupt controller. -/
def cpuIntc (m : Machine D) (c : CoreId) : CpuIntc where
  cpu := m.cores c
  intc := m.intc

/-- The state after core `c` has changed itself and the interrupt controller. -/
def putCpuIntc (m : Machine D) (c : CoreId) (s : CpuIntc) : Machine D :=
  { m with cores := Function.update m.cores c s.cpu, intc := s.intc }

end Machine

/-! ## Steps -/

/-- The steps that concern the interrupt controller. -/
inductive IntcEvent where
  /-- Anything that does not reach the interrupt controller. -/
  | other
  /-- `intc_put_data8` by core `c`. -/
  | put8 (c : CoreId) (addr : Nat) (data : Byte)
  | put16 (c : CoreId) (addr : Nat) (data : HalfWord)
  | put32 (c : CoreId) (addr : Nat) (data : Word)
  /-- `device_raise_int`. -/
  | raiseIntr (intno : Nat)
  /-- `intc_cpu_trigger_interrupt` by core `c`. -/
  | trigger (c : CoreId) (intno : Nat)
  | raiseException (c : CoreId) (exno : ExceptionId)
  | eiret (c : CoreId)
  | feret (c : CoreId)
  /-- One core's pass of `device_supply_clock_intc`. -/
  | clock (c : CoreId)

/-- The addresses of the two INTC regions. -/
def inIntc (addr : Nat) : Prop :=
  (0xFFFEEA00 ≤ addr ∧ addr < 0xFFFEEC00) ∨ (0xFFFFB000 ≤ addr ∧ addr < 0xFFFFC000)

/-- One step; the peripherals raise the channels that exist, and nothing follows
a clock in which an assertion fails. -/
inductive IntcStep (bus : Bus D) : IntcEvent → Machine D → Machine D → Prop
  | other (m m' : Machine D) (h : m'.intc = m.intc) : IntcStep bus .other m m'
  | put8 (m : Machine D) (c : CoreId) (addr : Nat) (data : Byte) (h : inIntc addr) :
      IntcStep bus (.put8 c addr data) m
        (m.putCpuIntc c (intcPutData8 c addr data (m.cpuIntc c)).2)
  | put16 (m : Machine D) (c : CoreId) (addr : Nat) (data : HalfWord) (h : inIntc addr) :
      IntcStep bus (.put16 c addr data) m
        (m.putCpuIntc c (intcPutData16 c addr data (m.cpuIntc c)).2)
  | put32 (m : Machine D) (c : CoreId) (addr : Nat) (data : Word) (h : inIntc addr) :
      IntcStep bus (.put32 c addr data) m
        (m.putCpuIntc c (intcPutData32 c addr data (m.cpuIntc c)).2)
  | raiseIntr (m : Machine D) (intno : Nat) (h : intno < tnumInt) :
      IntcStep bus (.raiseIntr intno) m { m with intc := intcRaiseIntr intno m.intc }
  | trigger (m : Machine D) (c : CoreId) (intno : Nat) (h : intno < tnumInt) :
      IntcStep bus (.trigger c intno) m
        { m with intc := intcCpuTriggerInterrupt c intno m.intc }
  | raiseException (m : Machine D) (c : CoreId) (exno : ExceptionId) :
      IntcStep bus (.raiseException c exno) m
        (m.putCpuIntc c (intcRaiseException c exno (m.cpuIntc c)))
  | eiret (m : Machine D) (c : CoreId) :
      IntcStep bus (.eiret c) m
        (m.putCpuIntc c (intcClrEi c ⟨restoreEi (m.cores c), m.intc⟩))
  | feret (m : Machine D) (c : CoreId) :
      IntcStep bus (.feret c) m
        (m.putCpuIntc c (intcClrFe c ⟨restoreFe (m.cores c), m.intc⟩))
  | clock (m : Machine D) (c : CoreId)
      (h : supplyClockReturns bus c (m.clockState c).toCpuState = true) :
      IntcStep bus (.clock c) m
        (m.putCpuState c (supplyClockIntc bus c (m.clockState c).toCpuState))

/-- The interrupt controller as a transition system. -/
def intcSystem (bus : Bus D) : TransitionSystem (Machine D) IntcEvent where
  init m := ∃ dev, m = Machine.reset dev
  step := IntcStep bus

/-- The read of a handler's address from the interrupt table does not change
the interrupt controller. -/
class TableReads (bus : Bus D) : Prop where
  intc : ∀ s addr, (bus.getData32 s addr).2.intc = s.intc

instance tableReads_romBus (rom : Nat → HalfWord) : TableReads (romBus rom) :=
  ⟨fun _ _ => rfl⟩

end Athrill
