import Athrill.Device.Clock
import Athrill.Lib.Run
import Athrill.Lib.Sizes
import Mathlib.Logic.Function.Basic

/-!
# The timer

`timer.c`: two units of two channels with a common divider.  A channel is
started and stopped by a byte store and gets its compare value by a word store;
at the multiples of its divider a ready channel starts to count, and a running
one raises its interrupt when it has counted up to the compare value.

* `TimerDevice`: a channel.
* `deviceTimerDoUpdate`, `deviceTimerDoCalcMinInterval`: a clock of one channel.
* `deviceSupplyClockTimer`: a clock of the device; only unit 0 is supplied.
* `timerPutData8`, `timerPutData32`, `timerGetData32`: the registers.
* `timerMachine`: the timer in the device loop.
-/

namespace Athrill

/-! ## Channels -/

/-- `TimerStateType`. -/
inductive TimerState where
  | stop | ready | running
  deriving DecidableEq, Repr

/-- `TimerModeType`. -/
inductive TimerMode where
  | freerun | interval
  deriving DecidableEq, Repr

/-- `TimerDeviceType`. -/
structure TimerDevice where
  cnt : BitVec 32
  regCnt : BitVec 32
  state : TimerState
  mode : TimerMode
  compare0 : BitVec 32
  compare0Intno : Nat
  startClock : Nat
  fd : BitVec 32
  deriving DecidableEq, Repr

/-- `TAUJ_UNIT_NUM`. -/
abbrev taujUnitNum : Nat := 2

/-- `TAUJ_CH_NUM`. -/
abbrev taujChNum : Nat := 2

/-- `TimerDevice`. -/
abbrev Timers := Fin taujUnitNum → Fin taujChNum → TimerDevice

/-- `TAUJ_INTNO`. -/
def taujIntno (n : Fin taujUnitNum) (ch : Fin taujChNum) : Nat :=
  if n = 0 then 80 + ch.val else 168 + ch.val

/-- `device_init_timer`, with the configured divider. -/
def deviceInitTimer (value : BitVec 32) : Timers := fun n ch =>
  { cnt := 0
    regCnt := 0xFFFFFFFF
    state := .stop
    mode := .interval
    compare0 := 0
    compare0Intno := taujIntno n ch
    startClock := 0
    fd := value }

/-! ## Clocks -/

/-- The start of a ready channel in `device_timer_do_update`. -/
def TimerDevice.begin (clock : Nat) (timer : TimerDevice) : TimerDevice :=
  if timer.state = .ready then
    { timer with
      state := .running
      startClock :=
        if timer.startClock = 0 ∨ timer.mode = .interval then clock else timer.startClock }
  else timer

/-- `device_timer_do_update`; the second part is the calls of
`device_raise_int`. -/
def deviceTimerDoUpdate (clock : Nat) (timer : TimerDevice) : TimerDevice × List Nat :=
  let timer := timer.begin clock
  let timer :=
    { timer with cnt := BitVec.ofNat 32 (sub64 clock timer.startClock / timer.fd.toNat) }
  if timer.state = .running ∧ timer.mode = .interval then
    let timer := { timer with regCnt := timer.compare0 - timer.cnt }
    if timer.compare0.toNat ≤ timer.cnt.toNat then
      ({ timer with state := .ready }, [timer.compare0Intno])
    else (timer, [])
  else (timer, [])

/-- `device_timer_do_calc_min_interval`; a product of two `uint32` does not
wrap. -/
def deviceTimerDoCalcMinInterval (timer : TimerDevice) (device : DeviceClock) : DeviceClock :=
  let cnt1 := sub64 device.clock timer.startClock
  let compareValue := timer.compare0.toNat * timer.fd.toNat
  device.lowerInterval (if cnt1 ≤ compareValue then compareValue - cnt1 else 1)

/-- The update of one channel, at the multiples of its divider. -/
def timerTick (clock : Nat) (timer : TimerDevice) : TimerDevice × List Nat :=
  if clock % timer.fd.toNat = 0 then deviceTimerDoUpdate clock timer else (timer, [])

/-- `INLINE_device_supply_clock_timer`. -/
def supplyTimerChannel (n : Fin taujUnitNum) (ch : Fin taujChNum) (devClock : DeviceClock)
    (timers : Timers) : DeviceClock × Timers × List Nat :=
  let after := timerTick devClock.clock (timers n ch)
  let devClock :=
    if devClock.isHalt = true ∧ after.1.state ≠ .stop then
      deviceTimerDoCalcMinInterval after.1 devClock
    else devClock
  (devClock, Function.update timers n (Function.update (timers n) ch after.1), after.2)

/-- `device_supply_clock_timer`. -/
def deviceSupplyClockTimer (devClock : DeviceClock) (timers : Timers) :
    DeviceClock × Timers × List Nat :=
  let first := supplyTimerChannel 0 0 devClock timers
  let second := supplyTimerChannel 0 1 first.1 first.2.1
  (second.1, second.2.1, first.2.2 ++ second.2.2)

/-! ## Stores -/

/-- `TAUJ_BASE`. -/
def taujBase (n : Fin taujUnitNum) : BitVec 32 := 0xFFE50000 + BitVec.ofNat 32 (n.val * 0x1000)

/-- `TAUJCDR`. -/
def taujCdr (n : Fin taujUnitNum) (ch : Fin taujChNum) : BitVec 32 :=
  taujBase n + BitVec.ofNat 32 (ch.val * 4)

/-- `TAUJCNT`. -/
def taujCnt (n : Fin taujUnitNum) (ch : Fin taujChNum) : BitVec 32 :=
  taujBase n + 0x10 + BitVec.ofNat 32 (ch.val * 4)

/-- `TAUJTS`. -/
def taujTs (n : Fin taujUnitNum) : BitVec 32 := taujBase n + 0x54

/-- `TAUJTT`. -/
def taujTt (n : Fin taujUnitNum) : BitVec 32 := taujBase n + 0x58

/-- The channel whose state a byte store sets, and the state: the first set bit
of the byte decides. -/
def timerCommand (mask addr : BitVec 32) (data : BitVec 8) :
    Option (Fin taujUnitNum × Fin taujChNum × TimerState) :=
  let channel := (List.finRange taujChNum).find? fun ch => data.getLsbD ch.val
  (List.finRange taujUnitNum).findSome? fun n =>
    if addr = taujTs n &&& mask then channel.map fun ch => (n, ch, .ready)
    else if addr = taujTt n &&& mask then channel.map fun ch => (n, ch, .stop)
    else none

/-- `timer_put_data8`. -/
def timerPutData8 (mask addr : BitVec 32) (data : BitVec 8) (timers : Timers) : Timers :=
  match timerCommand mask addr data with
  | some (n, ch, state) =>
    Function.update timers n (Function.update (timers n) ch { timers n ch with state := state })
  | none => timers

/-- The channel that gets a compare value. -/
def timerCompare (mask addr : BitVec 32) : Option (Fin taujUnitNum × Fin taujChNum) :=
  (List.finRange taujUnitNum).findSome? fun n =>
    ((List.finRange taujChNum).find? fun ch => addr = taujCdr n ch &&& mask).map fun ch => (n, ch)

/-- A channel with another compare value; a running one starts again. -/
def TimerDevice.setCompare (data : BitVec 32) (timer : TimerDevice) : TimerDevice :=
  { timer with
    compare0 := data
    state := if timer.state = .running then .ready else timer.state }

/-- `timer_put_data32`. -/
def timerPutData32 (mask addr data : BitVec 32) (timers : Timers) : Timers :=
  match timerCompare mask addr with
  | some (n, ch) =>
    Function.update timers n (Function.update (timers n) ch ((timers n ch).setCompare data))
  | none => timers

/-- The channel whose counter is read. -/
def timerCounter (mask addr : BitVec 32) : Option (Fin taujUnitNum × Fin taujChNum) :=
  (List.finRange taujUnitNum).findSome? fun n =>
    ((List.finRange taujChNum).find? fun ch => addr = taujCnt n ch &&& mask).map fun ch => (n, ch)

/-- `timer_get_data32`, where `stored` is the word in the memory of the region. -/
def timerGetData32 (mask addr stored : BitVec 32) (timers : Timers) : BitVec 32 :=
  match timerCounter mask addr with
  | some (n, ch) => (timers n ch).regCnt
  | none => stored

section Stores

variable {mask addr : BitVec 32} {timers : Timers} {n : Fin taujUnitNum} {ch : Fin taujChNum}

/-- One channel is replaced. -/
theorem update_channel (timers : Timers) (n : Fin taujUnitNum) (ch : Fin taujChNum)
    (timer : TimerDevice) (n' : Fin taujUnitNum) (ch' : Fin taujChNum) :
    Function.update timers n (Function.update (timers n) ch timer) n' ch' =
      if n' = n ∧ ch' = ch then timer else timers n' ch' := by
  by_cases hn : n' = n
  · subst hn
    rw [Function.update_self]
    by_cases hch : ch' = ch
    · subst hch
      rw [Function.update_self, if_pos ⟨rfl, rfl⟩]
    · rw [Function.update_of_ne hch, if_neg fun hand => hch hand.2]
  · rw [Function.update_of_ne hn, if_neg fun hand => hn hand.1]

theorem timerPutData8_self {data : BitVec 8} {state : TimerState}
    (h : timerCommand mask addr data = some (n, ch, state)) :
    timerPutData8 mask addr data timers n ch = { timers n ch with state := state } := by
  unfold timerPutData8
  rw [h]
  dsimp only
  rw [update_channel, if_pos ⟨rfl, rfl⟩]

theorem timerPutData8_of_ne {data : BitVec 8}
    (h : ∀ state, timerCommand mask addr data ≠ some (n, ch, state)) :
    timerPutData8 mask addr data timers n ch = timers n ch := by
  unfold timerPutData8
  cases hcommand : timerCommand mask addr data with
  | none => rfl
  | some command =>
    obtain ⟨n', ch', state⟩ := command
    dsimp only
    rw [update_channel, if_neg]
    rintro ⟨rfl, rfl⟩
    exact h state hcommand

theorem timerPutData32_self {data : BitVec 32} (h : timerCompare mask addr = some (n, ch)) :
    timerPutData32 mask addr data timers n ch = (timers n ch).setCompare data := by
  unfold timerPutData32
  rw [h]
  dsimp only
  rw [update_channel, if_pos ⟨rfl, rfl⟩]

theorem timerPutData32_of_ne {data : BitVec 32} (h : timerCompare mask addr ≠ some (n, ch)) :
    timerPutData32 mask addr data timers n ch = timers n ch := by
  unfold timerPutData32
  cases hcompare : timerCompare mask addr with
  | none => rfl
  | some channel =>
    obtain ⟨n', ch'⟩ := channel
    dsimp only
    rw [update_channel, if_neg]
    rintro ⟨rfl, rfl⟩
    exact h hcompare

end Stores

/-! ## The device loop -/

/-- The timers, and the clock that is supplied next. -/
structure TimerMachine where
  clock : Nat
  timers : Timers

/-- A store, a clock with the step after it, or a reset. -/
inductive TimerEvent where
  | put8 (addr : BitVec 32) (data : BitVec 8)
  | put32 (addr data : BitVec 32)
  | supply (isHalt : Bool) (preset advance : Nat)
  | reset

/-- The step after a clock: one clock, or what the devices leave to a halted
machine. -/
def MayAdvance (isHalt : Bool) (interval advance : Nat) : Prop :=
  1 ≤ advance ∧ advance ≤ if isHalt then interval else 1

/-- The timer with its divider and the address mask of its region. -/
def timerMachine (mask fd : BitVec 32) : TransitionSystem TimerMachine TimerEvent where
  init m := m = ⟨0, deviceInitTimer fd⟩
  step event m m' :=
    match event with
    | .put8 addr data => m' = { m with timers := timerPutData8 mask addr data m.timers }
    | .put32 addr data => m' = { m with timers := timerPutData32 mask addr data m.timers }
    | .supply isHalt preset advance =>
      MayAdvance isHalt (deviceSupplyClockTimer ⟨m.clock, isHalt, preset⟩ m.timers).1.minIntrInterval
          advance ∧
        m.clock + advance < 2 ^ 64 ∧
        m' = ⟨m.clock + advance,
          (deviceSupplyClockTimer ⟨m.clock, isHalt, preset⟩ m.timers).2.1⟩
    | .reset => m' = ⟨0, deviceInitTimer fd⟩

end Athrill
