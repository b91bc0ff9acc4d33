import Athrill.Lib.Ticks

/-!
# The device clock

`DeviceClockType`: the clock that all devices see, and the interval that they
leave for the next step of a halted machine.  Both are 64 bits wide.

* `DeviceClock`: the fields that the devices use.
* `add64`, `sub64`: arithmetic of `uint64`.
* `DeviceClock.lowerInterval`: the end of every computation of an interval.
-/

namespace Athrill

/-- `DeviceClockType`. -/
structure DeviceClock where
  clock : Nat
  isHalt : Bool
  minIntrInterval : Nat
  deriving DecidableEq, Repr

/-- A sum of two `uint64`. -/
def add64 (a b : Nat) : Nat := (a + b) % 2 ^ 64

/-- A difference of two `uint64`. -/
def sub64 (a b : Nat) : Nat := (a + (2 ^ 64 - b)) % 2 ^ 64

theorem add64_of_lt {a b : Nat} (h : a + b < 2 ^ 64) : add64 a b = a + b :=
  Nat.mod_eq_of_lt h

theorem sub64_of_le {a b : Nat} (hle : b ≤ a) (ha : a < 2 ^ 64) : sub64 a b = a - b := by
  unfold sub64
  omega

namespace DeviceClock

/-- A smaller interval is taken, but at least one clock. -/
def lowerInterval (interval : Nat) (device : DeviceClock) : DeviceClock :=
  if interval < device.minIntrInterval then
    { device with minIntrInterval := if interval = 0 then 1 else interval }
  else device

theorem clock_lowerInterval (interval : Nat) (device : DeviceClock) :
    (device.lowerInterval interval).clock = device.clock := by
  unfold lowerInterval
  split_ifs <;> rfl

theorem isHalt_lowerInterval (interval : Nat) (device : DeviceClock) :
    (device.lowerInterval interval).isHalt = device.isHalt := by
  unfold lowerInterval
  split_ifs <;> rfl

theorem lowerInterval_le (interval : Nat) (device : DeviceClock) :
    (device.lowerInterval interval).minIntrInterval ≤ max interval 1 := by
  unfold lowerInterval
  split_ifs with hlt hzero
  · show 1 ≤ max interval 1
    omega
  · show interval ≤ max interval 1
    omega
  · omega

theorem lowerInterval_le_self (interval : Nat) (device : DeviceClock) :
    (device.lowerInterval interval).minIntrInterval ≤ device.minIntrInterval := by
  unfold lowerInterval
  split_ifs with hlt hzero
  · show 1 ≤ device.minIntrInterval
    omega
  · show interval ≤ device.minIntrInterval
    omega
  · exact Nat.le_refl _

end DeviceClock

end Athrill
