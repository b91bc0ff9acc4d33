import Athrill.Timer.Interval
import Mathlib.Logic.Equiv.Fin.Basic

/-!
# Starting and stopping channels

A byte store to `TS` or `TT` names the channels of a unit by the bits of its
data.  The loop over the channels returns after the first one that is named.

* `commandAddr`, `timerCommand_at`: the registers, and the channel that a store
  reaches.
* `commandMachine`: the timer with a record of the last command to every
  channel.
* `commands_exact`: the runs in which the channels follow their commands.
-/

namespace Athrill

open TransitionSystem

/-- `MPU_ADDRESS_REGION_MASK_PH`, the mask of the region of the timer. -/
def mpuAddressRegionMaskPh : BitVec 32 := 0xFFFFFFFF

/-! ## Commands -/

/-- `TS` starts and `TT` stops. -/
def commandAddr (start : Bool) (n : Fin taujUnitNum) : BitVec 32 :=
  if start then taujTs n else taujTt n

def commandState (start : Bool) : TimerState :=
  if start then .ready else .stop

/-- The first channel that the data names. -/
def firstChannel (data : BitVec 8) : Option (Fin taujChNum) :=
  (List.finRange taujChNum).find? fun ch => data.getLsbD ch.val

theorem commandAddr_inj : ∀ (start start' : Bool) (n n' : Fin taujUnitNum),
    commandAddr start n = commandAddr start' n' ↔ start = start' ∧ n = n' := by
  decide

section Commands

variable {addr : BitVec 32} {data : BitVec 8}

/-- A store to a command register reaches the first channel alone. -/
theorem timerCommand_at (start : Bool) (n : Fin taujUnitNum) (data : BitVec 8) :
    timerCommand mpuAddressRegionMaskPh (commandAddr start n) data =
      (firstChannel data).map fun ch => (n, ch, commandState start) := by
  unfold timerCommand firstChannel
  dsimp only
  generalize (List.finRange taujChNum).find? (fun ch => data.getLsbD ch.val) = channel
  cases channel with
  | none =>
    revert start n
    decide
  | some ch =>
    revert start n ch
    decide

theorem timerCommand_elsewhere (h : ∀ start n, addr ≠ commandAddr start n) (data : BitVec 8) :
    timerCommand mpuAddressRegionMaskPh addr data = none := by
  have hts : ∀ n, addr ≠ taujTs n &&& mpuAddressRegionMaskPh := by
    intro n heq
    rw [mpuAddressRegionMaskPh, show (0xFFFFFFFF : BitVec 32) = BitVec.allOnes 32 from rfl,
      BitVec.and_allOnes] at heq
    exact h true n heq
  have htt : ∀ n, addr ≠ taujTt n &&& mpuAddressRegionMaskPh := by
    intro n heq
    rw [mpuAddressRegionMaskPh, show (0xFFFFFFFF : BitVec 32) = BitVec.allOnes 32 from rfl,
      BitVec.and_allOnes] at heq
    exact h false n heq
  unfold timerCommand
  dsimp only
  rw [List.findSome?_eq_none_iff]
  intro n _
  rw [if_neg (hts n), if_neg (htt n)]

theorem firstChannel_eq_some_iff {ch : Fin taujChNum} :
    firstChannel data = some ch ↔
      data.getLsbD ch.val = true ∧ ∀ ch' < ch, data.getLsbD ch'.val = false := by
  unfold firstChannel
  rw [← Fin.find?_eq_find?_finRange, Fin.find?_eq_some_iff]

end Commands

/-! ## The record of the commands -/

/-- For every channel, whether the last store that named it was to `TS`. -/
abbrev Commanded := Fin taujUnitNum → Fin taujChNum → Bool

/-- A byte store is recorded for all channels that it names. -/
def Commanded.note (addr : BitVec 32) (data : BitVec 8) (commanded : Commanded) : Commanded :=
  fun n ch =>
    if data.getLsbD ch.val then
      if addr = taujTs n then true
      else if addr = taujTt n then false
      else commanded n ch
    else commanded n ch

def TimerEvent.record (event : TimerEvent) (commanded : Commanded) : Commanded :=
  match event with
  | .put8 addr data => commanded.note addr data
  | .put32 _ _ => commanded
  | .supply _ _ _ => commanded
  | .reset => fun _ _ => false

/-- The timer with the record of the commands; all channels are stopped
initially. -/
def commandMachine (fd : BitVec 32) : TransitionSystem (TimerMachine × Commanded) TimerEvent where
  init s := (timerMachine mpuAddressRegionMaskPh fd).init s.1 ∧ s.2 = fun _ _ => false
  step event s s' :=
    (timerMachine mpuAddressRegionMaskPh fd).step event s.1 s'.1 ∧ s'.2 = event.record s.2

/-- A channel is started if and only if its last command was to start. -/
def Obeys (s : TimerMachine × Commanded) : Prop :=
  ∀ n ch, (s.1.timers n ch).state ≠ .stop ↔ s.2 n ch = true

/-- Every channel that a command names, but the first one, has the state that
is asked for already. -/
def CommandFits (event : TimerEvent) (s : TimerMachine × Commanded) : Prop :=
  match event with
  | .put8 addr data => ∀ start n, addr = commandAddr start n → ∀ ch ch', ch < ch' →
      data.getLsbD ch.val = true → data.getLsbD ch'.val = true →
        ((s.1.timers n ch').state ≠ .stop ↔ start = true)
  | _ => True

/-! ## One step -/

theorem commandState_ne_stop_iff (start : Bool) : commandState start ≠ .stop ↔ start = true := by
  cases start <;> decide

theorem note_at (start : Bool) (n : Fin taujUnitNum) (data : BitVec 8) (commanded : Commanded)
    (n' : Fin taujUnitNum) (ch : Fin taujChNum) :
    commanded.note (commandAddr start n) data n' ch =
      if n' = n ∧ data.getLsbD ch.val = true then start else commanded n' ch := by
  have hts : commandAddr start n = taujTs n' ↔ start = true ∧ n = n' :=
    commandAddr_inj start true n n'
  have htt : commandAddr start n = taujTt n' ↔ start = false ∧ n = n' :=
    commandAddr_inj start false n n'
  unfold Commanded.note
  by_cases hbit : data.getLsbD ch.val = true
  · by_cases hn : n = n'
    · cases start with
      | true => rw [if_pos hbit, if_pos (hts.mpr ⟨rfl, hn⟩), if_pos ⟨hn.symm, hbit⟩]
      | false =>
        rw [if_pos hbit, if_neg fun h => absurd (hts.mp h).1 (by decide),
          if_pos (htt.mpr ⟨rfl, hn⟩), if_pos ⟨hn.symm, hbit⟩]
    · rw [if_pos hbit, if_neg fun h => hn (hts.mp h).2, if_neg fun h => hn (htt.mp h).2,
        if_neg fun h => hn h.1.symm]
  · rw [if_neg hbit, if_neg fun h => hbit h.2]

theorem note_elsewhere {addr : BitVec 32} (h : ∀ start n, addr ≠ commandAddr start n)
    (data : BitVec 8) (commanded : Commanded) : commanded.note addr data = commanded := by
  funext n ch
  unfold Commanded.note
  have hts : addr ≠ taujTs n := h true n
  have htt : addr ≠ taujTt n := h false n
  rw [if_neg hts, if_neg htt, ite_self]

/-- The state of a channel after a command. -/
theorem state_put8_at (start : Bool) (n : Fin taujUnitNum) (data : BitVec 8) (timers : Timers)
    (n' : Fin taujUnitNum) (ch : Fin taujChNum) :
    (timerPutData8 mpuAddressRegionMaskPh (commandAddr start n) data timers n' ch).state =
      if n' = n ∧ firstChannel data = some ch then commandState start
      else (timers n' ch).state := by
  have hcommand := timerCommand_at start n data
  by_cases hfirst : n' = n ∧ firstChannel data = some ch
  · obtain ⟨rfl, hch⟩ := hfirst
    rw [hch, Option.map_some] at hcommand
    rw [timerPutData8_self hcommand, if_pos ⟨rfl, hch⟩]
  · rw [timerPutData8_of_ne, if_neg hfirst]
    intro state hstate
    rw [hcommand, Option.map_eq_some_iff] at hstate
    obtain ⟨first, hch, heq⟩ := hstate
    rw [Prod.mk.injEq, Prod.mk.injEq] at heq
    exact hfirst ⟨heq.1.symm, heq.2.1 ▸ hch⟩

/-- A channel that is started goes on. -/
theorem timerTick_started (clock : Nat) {timer : TimerDevice} (h : timer.state ≠ .stop) :
    (timerTick clock timer).1.state ≠ .stop := by
  unfold timerTick deviceTimerDoUpdate TimerDevice.begin
  dsimp only
  split_ifs <;> first | exact h | decide | simp_all

/-- A clock starts and stops no channel. -/
theorem state_supply_iff (devClock : DeviceClock) (timers : Timers) (n : Fin taujUnitNum)
    (ch : Fin taujChNum) :
    ((deviceSupplyClockTimer devClock timers).2.1 n ch).state ≠ .stop ↔
      (timers n ch).state ≠ .stop := by
  by_cases hn : n = 0
  · subst hn
    rw [timer_supply]
    by_cases hstop : (timers 0 ch).state = .stop
    · have hsame : (timerTick devClock.clock (timers 0 ch)).1.visible.state =
          (timers 0 ch).visible.state := by rw [(timerTick_stop hstop).1]
      exact not_congr (Iff.of_eq (congrArg (· = TimerState.stop) hsame))
    · exact iff_of_true (timerTick_started devClock.clock hstop) hstop
  · rw [timer_supply_of_ne devClock timers hn]

theorem state_put32_iff (mask addr data : BitVec 32) (timers : Timers) (n : Fin taujUnitNum)
    (ch : Fin taujChNum) :
    (timerPutData32 mask addr data timers n ch).state ≠ .stop ↔ (timers n ch).state ≠ .stop := by
  by_cases hcompare : timerCompare mask addr = some (n, ch)
  · rw [timerPutData32_self hcompare]
    unfold TimerDevice.setCompare
    dsimp only
    cases (timers n ch).state <;> decide
  · rw [timerPutData32_of_ne hcompare]

section Step

variable {s s' : TimerMachine × Commanded} (hs : Obeys s)
include hs

/-- A command is obeyed by the first channel that it names, and by the others
only if they need no change. -/
theorem obeys_put8_iff (addr : BitVec 32) (data : BitVec 8) :
    Obeys ({ s.1 with timers := timerPutData8 mpuAddressRegionMaskPh addr data s.1.timers },
        s.2.note addr data) ↔ CommandFits (.put8 addr data) s := by
  by_cases haddr : ∃ start n, addr = commandAddr start n
  · obtain ⟨start, n, rfl⟩ := haddr
    constructor
    · intro hobeys start' n' heq ch ch' hlt hbit hbit'
      obtain ⟨rfl, rfl⟩ := (commandAddr_inj start start' n n').mp heq
      have hnot : ¬ (n = n ∧ firstChannel data = some ch') := by
        rintro ⟨-, hfirst⟩
        have hnone := (firstChannel_eq_some_iff.mp hfirst).2 ch hlt
        exact absurd (hbit.symm.trans hnone) (by decide)
      have hch := hobeys n ch'
      dsimp only at hch
      rw [note_at, if_pos ⟨rfl, hbit'⟩, state_put8_at, if_neg hnot] at hch
      exact hch
    · intro hfits n' ch
      dsimp only
      rw [note_at]
      by_cases hnamed : n' = n ∧ data.getLsbD ch.val = true
      · obtain ⟨rfl, hbit⟩ := hnamed
        rw [if_pos ⟨rfl, hbit⟩, state_put8_at]
        by_cases hfirst : firstChannel data = some ch
        · rw [if_pos ⟨rfl, hfirst⟩]
          exact commandState_ne_stop_iff start
        · rw [if_neg fun h => hfirst h.2]
          -- a channel before it is named, too
          have hbefore : ∃ ch' < ch, data.getLsbD ch'.val = true := by
            by_contra hnone
            refine hfirst (firstChannel_eq_some_iff.mpr ⟨hbit, fun ch' hlt => ?_⟩)
            exact Bool.eq_false_iff.mpr fun hbit' => hnone ⟨ch', hlt, hbit'⟩
          obtain ⟨ch', hlt, hbit'⟩ := hbefore
          exact hfits start n' rfl ch' ch hlt hbit' hbit
      · rw [if_neg hnamed, state_put8_at, if_neg]
        · exact hs n' ch
        · rintro ⟨rfl, hfirst⟩
          exact hnamed ⟨rfl, (firstChannel_eq_some_iff.mp hfirst).1⟩
  · have helse : ∀ start n, addr ≠ commandAddr start n := fun start n heq => haddr ⟨start, n, heq⟩
    refine iff_of_true (fun n ch => ?_) fun start n heq => absurd heq (helse start n)
    dsimp only
    rw [note_elsewhere helse, timerPutData8_of_ne]
    · exact hs n ch
    · intro state hstate
      rw [timerCommand_elsewhere helse] at hstate
      exact absurd hstate (by simp)

theorem obeys_step_iff {fd : BitVec 32} {event : TimerEvent}
    (hstep : (commandMachine fd).step event s s') : Obeys s' ↔ CommandFits event s := by
  obtain ⟨hstep, hrecord⟩ := hstep
  obtain ⟨m', commanded'⟩ := s'
  rw [show commanded' = _ from hrecord]
  cases event with
  | put8 addr data =>
    rw [show m' = _ from hstep]
    exact obeys_put8_iff hs addr data
  | put32 addr data =>
    rw [show m' = _ from hstep]
    exact iff_of_true (fun n ch => (state_put32_iff _ _ _ _ _ _).trans (hs n ch)) trivial
  | supply isHalt preset advance =>
    obtain ⟨-, -, hm'⟩ := hstep
    rw [show m' = _ from hm']
    exact iff_of_true (fun n ch => (state_supply_iff _ _ _ _).trans (hs n ch)) trivial
  | reset =>
    rw [show m' = _ from hstep]
    refine iff_of_true (fun n ch => ?_) trivial
    exact iff_of_false (fun hne => hne rfl) nofun

end Step

/-! ## Runs -/

theorem obeys_init {fd : BitVec 32} {s : TimerMachine × Commanded} (h : (commandMachine fd).init s) :
    Obeys s := by
  obtain ⟨m, commanded⟩ := s
  obtain ⟨hm, hcommanded⟩ := h
  rw [show m = _ from hm, show commanded = _ from hcommanded]
  exact fun n ch => iff_of_false (fun hne => hne rfl) nofun

theorem commands_exact {fd : BitVec 32} {past : List (TimerEvent × TimerMachine × Commanded)}
    {s : TimerMachine × Commanded} (h : (commandMachine fd).Trace past s) :
    (∀ e ∈ past, Obeys e.2) ∧ Obeys s ↔ ∀ e ∈ past, CommandFits e.1 e.2 :=
  Trace.always_iff (fun _ hinit => obeys_init hinit)
    (fun _ _ _ hs hstep => obeys_step_iff hs hstep) h

/-- The timer after a reset, and after one store to `TS` of unit 0. -/
def commandedTimer (data : BitVec 8) : TimerMachine × Commanded :=
  (⟨0, timerPutData8 mpuAddressRegionMaskPh (taujTs 0) data (deviceInitTimer 2)⟩,
    Commanded.note (taujTs 0) data fun _ _ => false)

/-- That store, and the state before it. -/
def commandedPast (data : BitVec 8) : List (TimerEvent × TimerMachine × Commanded) :=
  [(.put8 (taujTs 0) data, ⟨0, deviceInitTimer 2⟩, fun _ _ => false)]

theorem trace_commandedTimer (data : BitVec 8) :
    (commandMachine 2).Trace (commandedPast data) (commandedTimer data) :=
  .step (.init ⟨rfl, rfl⟩) ⟨rfl, rfl⟩

/-- Channel 1 alone is started. -/
theorem commands_exact_one :
    (∀ e ∈ commandedPast 2, Obeys e.2) ∧ Obeys (commandedTimer 2) ↔
      ∀ e ∈ commandedPast 2, CommandFits e.1 e.2 :=
  commands_exact (trace_commandedTimer 2)

/-- Both channels are named, and channel 1 stays stopped. -/
theorem second_channel_stays_stopped :
    ¬ ∀ past s, (commandMachine 2).Trace past s → Obeys s := by
  intro h
  have hobeys := h _ _ (trace_commandedTimer 3) 0 1
  exact absurd (hobeys.mpr (by decide)) (by decide)

end Athrill
