import Athrill.Timer.Device

/-!
# Skipping clocks of the timer

A halted machine skips the clocks that the reported interval covers.  For a
running channel the interval ends at its interrupt.  For a channel that is ready
between two multiples of the divider it is computed from an old start clock, and
the skip may pass the multiple at which the channel starts.

* `TimerDevice.visible`: a channel without its counters.
* `timerTick_active`, `timerTick_quiet`: what a clock does to a channel.
* `TimerOk`: what holds of a channel in every reachable state.
* `SkipExact`: the skip does what the clocks in between would have done.
* `skipExact_iff`: when it does.
-/

namespace Athrill

open Ticks

/-! ## One channel -/

/-- A channel without the counters that every update computes anew. -/
def TimerDevice.visible (timer : TimerDevice) : TimerDevice :=
  { timer with cnt := 0, regCnt := 0 }

section Channel

variable {clock : Nat} {timer timer' : TimerDevice}

theorem visible_begin (h : timer.visible = timer'.visible) :
    (timer.begin clock).visible = (timer'.begin clock).visible := by
  cases timer
  cases timer'
  cases h
  unfold TimerDevice.begin
  split_ifs <;> rfl

/-- An update depends on the visible part only. -/
theorem timerTick_congr (h : timer.visible = timer'.visible) :
    (timerTick clock timer).1.visible = (timerTick clock timer').1.visible ∧
      (timerTick clock timer).2 = (timerTick clock timer').2 := by
  have hfd : timer.fd = timer'.fd := by
    show timer.visible.fd = timer'.visible.fd
    rw [h]
  unfold timerTick
  rw [hfd]
  split_ifs
  · have hbegin : (timer.begin clock).visible = (timer'.begin clock).visible := visible_begin h
    unfold deviceTimerDoUpdate
    generalize timer.begin clock = started at hbegin ⊢
    generalize timer'.begin clock = started' at hbegin ⊢
    cases started
    cases started'
    cases hbegin
    dsimp only
    split_ifs <;> exact ⟨rfl, rfl⟩
  · exact ⟨h, rfl⟩

theorem timerTick_between (h : clock % timer.fd.toNat ≠ 0) :
    timerTick clock timer = (timer, []) :=
  if_neg h

theorem begin_of_ne (h : timer.state ≠ .ready) : timer.begin clock = timer :=
  if_neg h

/-- A stopped channel counts without effect. -/
theorem timerTick_stop (h : timer.state = .stop) :
    (timerTick clock timer).1.visible = timer.visible ∧ (timerTick clock timer).2 = [] := by
  have hready : timer.state ≠ .ready := by
    rw [h]
    decide
  have hrunning : ¬ (timer.state = .running ∧ timer.mode = .interval) := by
    rw [h]
    exact fun hand => absurd hand.1 (by decide)
  unfold timerTick
  split_ifs
  · unfold deviceTimerDoUpdate
    rw [begin_of_ne hready]
    dsimp only
    rw [if_neg hrunning]
    exact ⟨rfl, rfl⟩
  · exact ⟨rfl, rfl⟩

/-- The fields that no update changes. -/
theorem timerTick_fixed (clock : Nat) (timer : TimerDevice) :
    (timerTick clock timer).1.fd = timer.fd ∧ (timerTick clock timer).1.mode = timer.mode ∧
      (timerTick clock timer).1.compare0 = timer.compare0 := by
  unfold timerTick deviceTimerDoUpdate TimerDevice.begin
  dsimp only
  split_ifs <;> exact ⟨rfl, rfl, rfl⟩

/-- At a multiple, a ready channel starts, and a channel that counts goes on or
raises its interrupt. -/
theorem timerTick_active (hmode : timer.mode = .interval)
    (htick : clock % timer.fd.toNat = 0) (hstate : timer.state ≠ .stop) :
    (timerTick clock timer).1.startClock =
        (if timer.state = .ready then clock else timer.startClock) ∧
      ((timerTick clock timer).1.state = .running ∧ (timerTick clock timer).2 = [] ∨
        (timerTick clock timer).1.state = .ready ∧
          (timerTick clock timer).2 = [timer.compare0Intno]) := by
  unfold timerTick deviceTimerDoUpdate
  rw [if_pos htick]
  have hbegin : (timer.begin clock).state = .running ∧ (timer.begin clock).mode = .interval ∧
      (timer.begin clock).compare0Intno = timer.compare0Intno ∧
      (timer.begin clock).startClock =
        if timer.state = .ready then clock else timer.startClock := by
    unfold TimerDevice.begin
    by_cases hready : timer.state = .ready
    · rw [if_pos hready, if_pos hready]
      exact ⟨rfl, hmode, rfl, if_pos (Or.inr hmode)⟩
    · rw [if_neg hready, if_neg hready]
      refine ⟨?_, hmode, rfl, rfl⟩
      cases hcase : timer.state with
      | stop => exact absurd hcase hstate
      | ready => exact absurd hcase hready
      | running => rfl
  obtain ⟨hrunning, hmode', hintno, hstart⟩ := hbegin
  dsimp only
  rw [if_pos ⟨hrunning, hmode'⟩]
  generalize BitVec.ofNat 32 _ = cnt
  by_cases hle : (timer.begin clock).compare0.toNat ≤ cnt.toNat
  · rw [if_pos hle]
    exact ⟨hstart, Or.inr ⟨rfl, congrArg (fun intno => [intno]) hintno⟩⟩
  · rw [if_neg hle]
    exact ⟨hstart, Or.inl ⟨hrunning, rfl⟩⟩

/-- Before its compare value, a running channel counts without effect. -/
theorem timerTick_running (hstate : timer.state = .running) (hclock : clock < 2 ^ 64)
    (hstart : timer.startClock ≤ clock)
    (hbefore : clock < timer.startClock + timer.compare0.toNat * timer.fd.toNat) :
    (timerTick clock timer).1.visible = timer.visible ∧ (timerTick clock timer).2 = [] := by
  have hcnt : (clock - timer.startClock) / timer.fd.toNat < timer.compare0.toNat := by
    rcases Nat.eq_zero_or_pos timer.fd.toNat with hfd | hfd
    · rw [hfd] at hbefore
      omega
    · rw [Nat.div_lt_iff_lt_mul hfd]
      omega
  have hcompare : timer.compare0.toNat < 2 ^ 32 := timer.compare0.isLt
  have hnot : ¬ timer.compare0.toNat ≤
      (BitVec.ofNat 32 (sub64 clock timer.startClock / timer.fd.toNat)).toNat := by
    rw [sub64_of_le hstart hclock, BitVec.toNat_ofNat, Nat.mod_eq_of_lt (by omega)]
    omega
  have hready : timer.state ≠ .ready := by
    rw [hstate]
    decide
  unfold timerTick
  split_ifs
  · unfold deviceTimerDoUpdate
    rw [begin_of_ne hready]
    dsimp only
    rw [if_neg hnot]
    split_ifs <;> exact ⟨rfl, rfl⟩
  · exact ⟨rfl, rfl⟩

/-- At its compare value, a channel that was running raises its interrupt. -/
theorem timerTick_due (hstate : timer.state = .running) (hmode : timer.mode = .interval)
    (hfd : 0 < timer.fd.toNat) (hclock : clock < 2 ^ 64) (htick : clock % timer.fd.toNat = 0)
    (hdue : clock = timer.startClock + timer.compare0.toNat * timer.fd.toNat) :
    (timerTick clock timer).1.state = .ready := by
  have hcnt : (clock - timer.startClock) / timer.fd.toNat = timer.compare0.toNat := by
    rw [hdue, Nat.add_sub_cancel_left, Nat.mul_div_cancel _ hfd]
  have hle : timer.compare0.toNat ≤
      (BitVec.ofNat 32 (sub64 clock timer.startClock / timer.fd.toNat)).toNat := by
    rw [sub64_of_le (by omega) hclock, hcnt, BitVec.ofNat_toNat, BitVec.setWidth_eq]
  have hready : timer.state ≠ .ready := by
    rw [hstate]
    decide
  unfold timerTick deviceTimerDoUpdate
  rw [if_pos htick, begin_of_ne hready]
  dsimp only
  rw [if_pos ⟨hstate, hmode⟩, if_pos hle]

/-- A ready channel that starts raises its interrupt at once if and only if its
compare value is zero. -/
theorem timerTick_start_iff (hstate : timer.state = .ready) (hmode : timer.mode = .interval)
    (hclock : clock < 2 ^ 64) (htick : clock % timer.fd.toNat = 0) :
    (timerTick clock timer).1.state = .ready ↔ timer.compare0 = 0 := by
  have hcnt : (BitVec.ofNat 32 (sub64 clock
      (if timer.startClock = 0 ∨ timer.mode = .interval then clock else timer.startClock) /
        timer.fd.toNat)).toNat = 0 := by
    rw [if_pos (Or.inr hmode), sub64_of_le (Nat.le_refl _) hclock, Nat.sub_self, Nat.zero_div]
    rfl
  unfold timerTick deviceTimerDoUpdate TimerDevice.begin
  rw [if_pos htick, if_pos hstate]
  dsimp only
  rw [if_pos ⟨rfl, hmode⟩]
  by_cases hzero : timer.compare0 = 0
  · have hle : timer.compare0.toNat = 0 := by
      rw [hzero]
      rfl
    rw [if_pos (by omega)]
    exact ⟨fun _ => hzero, fun _ => rfl⟩
  · have hpos : timer.compare0.toNat ≠ 0 := fun h => hzero (BitVec.eq_of_toNat_eq h)
    rw [if_neg (by omega)]
    exact ⟨nofun, fun h => absurd h hzero⟩

end Channel

/-! ## Reachable states -/

/-- A channel of the machine before the clock is supplied. -/
structure TimerOk (fd : BitVec 32) (clock : Nat) (timer : TimerDevice) : Prop where
  fd_eq : timer.fd = fd
  mode_eq : timer.mode = .interval
  start_le : timer.startClock ≤ clock
  dvd : timer.state = .running → fd.toNat ∣ timer.startClock
  before : timer.state = .running →
    clock ≤ timer.startClock + timer.compare0.toNat * fd.toNat

section Ok

variable {fd : BitVec 32} {clock : Nat} {timer : TimerDevice}

/-- A channel after its update counts to an interrupt that is still to come. -/
theorem TimerOk.before_tick (h : TimerOk fd clock timer) (hfd : 0 < fd.toNat)
    (hclock : clock < 2 ^ 64) (hrunning : (timerTick clock timer).1.state = .running) :
    fd.toNat ∣ (timerTick clock timer).1.startClock ∧
      clock < (timerTick clock timer).1.startClock + timer.compare0.toNat * fd.toNat := by
  have hfd' : timer.fd.toNat = fd.toNat := by rw [h.fd_eq]
  by_cases htick : clock % fd.toNat = 0
  · have htick' : clock % timer.fd.toNat = 0 := by
      rw [hfd']
      exact htick
    cases hstate : timer.state with
    | stop =>
      have hsame : (timerTick clock timer).1.visible = timer.visible := (timerTick_stop hstate).1
      have hstop : (timerTick clock timer).1.visible.state = timer.visible.state := by rw [hsame]
      exact absurd ((hrunning.symm.trans hstop).trans hstate) (by decide)
    | ready =>
      have hactive := timerTick_active h.mode_eq htick' (by rw [hstate]; decide)
      rw [if_pos hstate] at hactive
      have hne : timer.compare0 ≠ 0 := fun hzero => by
        have hready := (timerTick_start_iff hstate h.mode_eq hclock htick').mpr hzero
        exact absurd (hrunning.symm.trans hready) (by decide)
      have hpos : 0 < timer.compare0.toNat * fd.toNat :=
        Nat.mul_pos (Nat.pos_of_ne_zero fun hzero => hne (BitVec.eq_of_toNat_eq hzero)) hfd
      rw [hactive.1]
      exact ⟨Nat.dvd_of_mod_eq_zero htick, by omega⟩
    | running =>
      have hactive := timerTick_active h.mode_eq htick' (by rw [hstate]; decide)
      rw [if_neg (by rw [hstate]; decide)] at hactive
      have hle := h.before hstate
      have hne : clock ≠ timer.startClock + timer.compare0.toNat * fd.toNat := fun hdue => by
        have hready := timerTick_due hstate h.mode_eq (by omega) hclock htick'
          (by rw [hfd']; exact hdue)
        exact absurd (hrunning.symm.trans hready) (by decide)
      rw [hactive.1]
      exact ⟨h.dvd hstate, by omega⟩
  · have hsame : timerTick clock timer = (timer, []) :=
      timerTick_between (by rw [hfd']; exact htick)
    rw [hsame] at hrunning ⊢
    have hle := h.before hrunning
    have hdvd := h.dvd hrunning
    have hne : clock ≠ timer.startClock + timer.compare0.toNat * fd.toNat := fun hdue => by
      refine htick (Nat.mod_eq_zero_of_dvd ?_)
      rw [hdue]
      exact Nat.dvd_add hdvd (Nat.dvd_mul_left _ _)
    exact ⟨hdvd, Nat.lt_of_le_of_ne hle hne⟩

theorem TimerOk.start_tick (h : TimerOk fd clock timer) :
    (timerTick clock timer).1.startClock ≤ clock := by
  have hle := h.start_le
  by_cases htick : clock % timer.fd.toNat = 0
  · by_cases hstop : timer.state = .stop
    · have hsame : (timerTick clock timer).1.startClock = timer.startClock := by
        show (timerTick clock timer).1.visible.startClock = timer.visible.startClock
        rw [(timerTick_stop hstop).1]
      omega
    · rw [(timerTick_active h.mode_eq htick hstop).1]
      split_ifs
      · exact Nat.le_refl _
      · exact hle
  · rw [timerTick_between htick]
    exact hle

/-- What a channel asks of the next step. -/
def timerInterval (clock : Nat) (timer : TimerDevice) : Nat :=
  let cnt1 := sub64 clock timer.startClock
  let compareValue := timer.compare0.toNat * timer.fd.toNat
  if cnt1 ≤ compareValue then compareValue - cnt1 else 1

/-- A channel that has just raised its interrupt asks for the next clock. -/
theorem TimerOk.interval_raised (h : TimerOk fd clock timer) (hclock : clock < 2 ^ 64)
    (htick : clock % fd.toNat = 0) (hready : (timerTick clock timer).1.state = .ready) :
    timerInterval clock (timerTick clock timer).1 = 0 := by
  have hfd' : timer.fd.toNat = fd.toNat := by rw [h.fd_eq]
  have htick' : clock % timer.fd.toNat = 0 := by
    rw [hfd']
    exact htick
  obtain ⟨hfdSame, -, hcompareSame⟩ := timerTick_fixed clock timer
  have hstart := h.start_tick
  -- the channel has counted up to its compare value
  have hdue : clock = (timerTick clock timer).1.startClock +
      timer.compare0.toNat * fd.toNat := by
    cases hstate : timer.state with
    | stop =>
      have hsame : (timerTick clock timer).1.visible.state = timer.visible.state := by
        rw [(timerTick_stop hstate).1]
      exact absurd ((hready.symm.trans hsame).trans hstate) (by decide)
    | ready =>
      have hzero := (timerTick_start_iff hstate h.mode_eq hclock htick').mp hready
      rw [(timerTick_active h.mode_eq htick' (by rw [hstate]; decide)).1, if_pos hstate, hzero,
        show (0 : BitVec 32).toNat = 0 from rfl, Nat.zero_mul, Nat.add_zero]
    | running =>
      have hle := h.before hstate
      have hkept := (timerTick_active h.mode_eq htick' (by rw [hstate]; decide)).1
      rw [if_neg (by rw [hstate]; decide)] at hkept
      by_contra hne
      have hsame := (timerTick_running hstate hclock h.start_le (by rw [hfd']; omega)).1
      have hstill : (timerTick clock timer).1.visible.state = timer.visible.state := by rw [hsame]
      exact absurd ((hready.symm.trans hstill).trans hstate) (by decide)
  unfold timerInterval
  dsimp only
  rw [hcompareSame, hfdSame, h.fd_eq, sub64_of_le hstart hclock]
  split_ifs <;> omega

/-- A step within the interval of a running channel keeps it before its
interrupt. -/
theorem TimerOk.tick (h : TimerOk fd clock timer) (hfd : 0 < fd.toNat) (hclock : clock < 2 ^ 64)
    {advance : Nat}
    (hle : (timerTick clock timer).1.state = .running →
      advance ≤ max (timerInterval clock (timerTick clock timer).1) 1) :
    TimerOk fd (clock + advance) (timerTick clock timer).1 := by
  obtain ⟨hfdSame, hmodeSame, hcompareSame⟩ := timerTick_fixed clock timer
  have hstart := h.start_tick
  refine ⟨hfdSame.trans h.fd_eq, hmodeSame.trans h.mode_eq, by omega, ?_, ?_⟩
  · exact fun hrunning => (h.before_tick hfd hclock hrunning).1
  · intro hrunning
    have hbefore := (h.before_tick hfd hclock hrunning).2
    have hadvance := hle hrunning
    unfold timerInterval at hadvance
    rw [hcompareSame, hfdSame, h.fd_eq] at hadvance
    rw [hcompareSame]
    dsimp only at hadvance
    rw [sub64_of_le hstart hclock] at hadvance
    split_ifs at hadvance <;> omega

end Ok

/-! ## The device -/

section Supply

variable (devClock : DeviceClock) (timers : Timers)

theorem clock_supplyTimerChannel (n : Fin taujUnitNum) (ch : Fin taujChNum) :
    (supplyTimerChannel n ch devClock timers).1.clock = devClock.clock ∧
      (supplyTimerChannel n ch devClock timers).1.isHalt = devClock.isHalt := by
  unfold supplyTimerChannel
  dsimp only
  split_ifs
  · exact ⟨DeviceClock.clock_lowerInterval _ _, DeviceClock.isHalt_lowerInterval _ _⟩
  · exact ⟨rfl, rfl⟩

theorem timer_supplyTimerChannel (n : Fin taujUnitNum) (ch n' ch') :
    (supplyTimerChannel n ch devClock timers).2.1 n' ch' =
      if n' = n ∧ ch' = ch then (timerTick devClock.clock (timers n ch)).1 else timers n' ch' :=
  update_channel timers n ch _ n' ch'

/-- Both channels of unit 0 are updated. -/
theorem timer_supply (ch : Fin taujChNum) :
    (deviceSupplyClockTimer devClock timers).2.1 0 ch =
      (timerTick devClock.clock (timers 0 ch)).1 := by
  show (supplyTimerChannel 0 1 _ _).2.1 0 ch = _
  rw [timer_supplyTimerChannel, timer_supplyTimerChannel, timer_supplyTimerChannel,
    (clock_supplyTimerChannel devClock timers 0 0).1]
  match ch with
  | 0 => rfl
  | 1 => rfl

theorem timer_supply_of_ne {n : Fin taujUnitNum} (hn : n ≠ 0) (ch : Fin taujChNum) :
    (deviceSupplyClockTimer devClock timers).2.1 n ch = timers n ch := by
  show (supplyTimerChannel 0 1 _ _).2.1 n ch = _
  rw [timer_supplyTimerChannel, if_neg fun hand => hn hand.1, timer_supplyTimerChannel,
    if_neg fun hand => hn hand.1]

/-- Channel 0 raises its interrupt first. -/
theorem raised_supply :
    (deviceSupplyClockTimer devClock timers).2.2 =
      (timerTick devClock.clock (timers 0 0)).2 ++ (timerTick devClock.clock (timers 0 1)).2 := by
  show (timerTick _ _).2 ++ (timerTick _ _).2 = _
  rw [timer_supplyTimerChannel, (clock_supplyTimerChannel devClock timers 0 0).1]
  rfl

/-- The reported interval is at most that of every channel that is not
stopped. -/
theorem interval_supply (hhalt : devClock.isHalt = true) (ch : Fin taujChNum)
    (hstate : (timerTick devClock.clock (timers 0 ch)).1.state ≠ .stop) :
    (deviceSupplyClockTimer devClock timers).1.minIntrInterval ≤
      max (timerInterval devClock.clock (timerTick devClock.clock (timers 0 ch)).1) 1 := by
  have hchannel : ∀ (ch : Fin taujChNum) (devClock : DeviceClock) (timers : Timers),
      devClock.isHalt = true → (timerTick devClock.clock (timers 0 ch)).1.state ≠ .stop →
      (supplyTimerChannel 0 ch devClock timers).1.minIntrInterval ≤
        max (timerInterval devClock.clock (timerTick devClock.clock (timers 0 ch)).1) 1 := by
    intro ch devClock timers hhalt hstate
    unfold supplyTimerChannel
    dsimp only
    rw [if_pos ⟨hhalt, hstate⟩]
    exact DeviceClock.lowerInterval_le _ _
  have hless : ∀ (ch : Fin taujChNum) (devClock : DeviceClock) (timers : Timers),
      (supplyTimerChannel 0 ch devClock timers).1.minIntrInterval ≤
        devClock.minIntrInterval := by
    intro ch devClock timers
    unfold supplyTimerChannel
    dsimp only
    split_ifs
    · exact DeviceClock.lowerInterval_le_self _ _
    · exact Nat.le_refl _
  obtain ⟨hclock, hhalt'⟩ := clock_supplyTimerChannel devClock timers 0 0
  show (supplyTimerChannel 0 1 _ _).1.minIntrInterval ≤ _
  match ch, hstate with
  | 0, hstate => exact Nat.le_trans (hless 1 _ _) (hchannel 0 devClock timers hhalt hstate)
  | 1, hstate =>
    have hsecond := hchannel 1 (supplyTimerChannel 0 0 devClock timers).1
      (supplyTimerChannel 0 0 devClock timers).2.1 (hhalt'.trans hhalt)
    rw [timer_supplyTimerChannel, hclock] at hsecond
    exact hsecond hstate

end Supply

/-- The supplied channels of the machine. -/
structure TimersOk (fd : BitVec 32) (m : TimerMachine) : Prop where
  clock_lt : m.clock < 2 ^ 64
  channel : ∀ ch, TimerOk fd m.clock (m.timers 0 ch)

section Reachable

variable {mask fd : BitVec 32} {m m' : TimerMachine}

/-- A channel that does not count is all right. -/
theorem TimerOk.of_not_running {clock : Nat} {timer timer' : TimerDevice}
    (h : TimerOk fd clock timer) (hfd : timer'.fd = timer.fd) (hmode : timer'.mode = timer.mode)
    (hstart : timer'.startClock = timer.startClock) (hstate : timer'.state ≠ .running) :
    TimerOk fd clock timer' where
  fd_eq := hfd.trans h.fd_eq
  mode_eq := hmode.trans h.mode_eq
  start_le := by
    rw [hstart]
    exact h.start_le
  dvd := fun hrunning => absurd hrunning hstate
  before := fun hrunning => absurd hrunning hstate

/-- A byte store makes no channel count. -/
theorem timerCommand_state {addr : BitVec 32} {data : BitVec 8} {n ch state}
    (h : timerCommand mask addr data = some (n, ch, state)) : state ≠ .running := by
  unfold timerCommand at h
  dsimp only at h
  obtain ⟨unit, -, hunit⟩ := List.exists_of_findSome?_eq_some h
  split_ifs at hunit
  · obtain ⟨channel, -, heq⟩ := Option.map_eq_some_iff.mp hunit
    cases heq
    decide
  · obtain ⟨channel, -, heq⟩ := Option.map_eq_some_iff.mp hunit
    cases heq
    decide

theorem timersOk_put {timers : Timers} {n : Fin taujUnitNum} {ch : Fin taujChNum}
    {timer : TimerDevice} {clock : Nat} (h : ∀ ch, TimerOk fd clock (timers 0 ch))
    (htimer : TimerOk fd clock (timers n ch) → TimerOk fd clock timer) (ch' : Fin taujChNum) :
    TimerOk fd clock (Function.update timers n (Function.update (timers n) ch timer) 0 ch') := by
  by_cases hn : n = 0
  · subst hn
    rw [Function.update_self]
    by_cases hch : ch' = ch
    · subst hch
      rw [Function.update_self]
      exact htimer (h ch')
    · rw [Function.update_of_ne hch]
      exact h ch'
  · rw [Function.update_of_ne (Ne.symm hn)]
    exact h ch'

theorem timersOk_reset (fd : BitVec 32) : TimersOk fd ⟨0, deviceInitTimer fd⟩ where
  clock_lt := Nat.two_pow_pos 64
  channel _ := ⟨rfl, rfl, Nat.le_refl _, nofun, nofun⟩

/-- Every step keeps the channels all right. -/
theorem timersOk_step (hfd : 0 < fd.toNat) {event : TimerEvent} (h : TimersOk fd m)
    (hstep : (timerMachine mask fd).step event m m') : TimersOk fd m' := by
  cases event with
  | put8 addr data =>
    rw [show m' = _ from hstep]
    refine ⟨h.clock_lt, ?_⟩
    show ∀ ch, TimerOk fd m.clock (timerPutData8 mask addr data m.timers 0 ch)
    unfold timerPutData8
    cases hcommand : timerCommand mask addr data with
    | none => exact h.channel
    | some command =>
      obtain ⟨n, ch, state⟩ := command
      exact timersOk_put h.channel fun hok =>
        hok.of_not_running rfl rfl rfl (timerCommand_state hcommand)
  | put32 addr data =>
    rw [show m' = _ from hstep]
    refine ⟨h.clock_lt, ?_⟩
    show ∀ ch, TimerOk fd m.clock (timerPutData32 mask addr data m.timers 0 ch)
    unfold timerPutData32
    cases timerCompare mask addr with
    | none => exact h.channel
    | some channel =>
      obtain ⟨n, ch⟩ := channel
      refine timersOk_put h.channel fun hok => hok.of_not_running rfl rfl rfl ?_
      unfold TimerDevice.setCompare
      dsimp only
      split_ifs with hrunning
      · decide
      · exact hrunning
  | supply isHalt preset advance =>
    obtain ⟨⟨-, hle⟩, hclock, rfl⟩ := hstep
    refine ⟨hclock, fun ch => ?_⟩
    show TimerOk fd (m.clock + advance) ((deviceSupplyClockTimer _ m.timers).2.1 0 ch)
    rw [timer_supply]
    refine (h.channel ch).tick hfd h.clock_lt fun hrunning => ?_
    cases isHalt with
    | false => exact Nat.le_trans hle (Nat.le_max_right _ _)
    | true =>
      refine Nat.le_trans hle (interval_supply ⟨m.clock, true, preset⟩ m.timers rfl ch ?_)
      rw [hrunning]
      decide
  | reset =>
    rw [show m' = _ from hstep]
    exact timersOk_reset fd

theorem timersOk_of_reachable (hfd : 0 < fd.toNat) (h : (timerMachine mask fd).Reachable m) :
    TimersOk fd m :=
  TransitionSystem.Invariant.of_reachable (I := TimersOk fd)
    ⟨fun m hm => by
      rw [show m = _ from hm]
      exact timersOk_reset fd,
    fun _ _ _ hok hstep => timersOk_step hfd hok hstep⟩ h

end Reachable

/-! ## Skips -/

/-- A clock of a halted machine: the channels and the raised interrupts. -/
def supplyTimers (preset clock : Nat) (timers : Timers) : Timers × List Nat :=
  (deviceSupplyClockTimer ⟨clock, true, preset⟩ timers).2

/-- All channels without their counters. -/
def visibleTimers (timers : Timers) : Fin taujUnitNum → Fin taujChNum → TimerDevice :=
  fun n ch => (timers n ch).visible

/-- The skip from the clock of the machine over `k` clocks leaves the channels,
and raises the interrupts, as all clocks on the way would have done. -/
def SkipExact (preset : Nat) (m : TimerMachine) (k : Nat) : Prop :=
  let after := (supplyTimers preset m.clock m.timers).1
  visibleTimers (supplyEach (supplyTimers preset) m.clock k after).1 =
      visibleTimers (supplyOnce (supplyTimers preset) (m.clock + k) after).1 ∧
    (supplyEach (supplyTimers preset) m.clock k after).2 =
      (supplyOnce (supplyTimers preset) (m.clock + k) after).2

section Clocks

variable {preset clock : Nat} {timers timers' : Timers}

theorem visible_supplyTimers (n : Fin taujUnitNum) (ch : Fin taujChNum) :
    (visibleTimers (supplyTimers preset clock timers).1 n ch) =
      if n = 0 then (timerTick clock (timers 0 ch)).1.visible else (timers n ch).visible := by
  unfold visibleTimers supplyTimers
  by_cases hn : n = 0
  · subst hn
    rw [if_pos rfl, timer_supply]
  · rw [if_neg hn, timer_supply_of_ne _ _ hn]

theorem supplyTimers_congr (h : visibleTimers timers = visibleTimers timers') :
    visibleTimers (supplyTimers preset clock timers).1 =
        visibleTimers (supplyTimers preset clock timers').1 ∧
      (supplyTimers preset clock timers).2 = (supplyTimers preset clock timers').2 := by
  have hchannel : ∀ n ch, (timers n ch).visible = (timers' n ch).visible :=
    fun n ch => congrFun (congrFun h n) ch
  refine ⟨funext fun n => funext fun ch => ?_, ?_⟩
  · rw [visible_supplyTimers, visible_supplyTimers, hchannel,
      (timerTick_congr (hchannel 0 ch)).1]
  · show (deviceSupplyClockTimer _ timers).2.2 = (deviceSupplyClockTimer _ timers').2.2
    rw [raised_supply, raised_supply, (timerTick_congr (hchannel 0 0)).2,
      (timerTick_congr (hchannel 0 1)).2]

/-- A clock without effect on the supplied channels has none on the device. -/
theorem supplyTimers_quiet
    (h : ∀ ch, (timerTick clock (timers 0 ch)).1.visible = (timers 0 ch).visible ∧
      (timerTick clock (timers 0 ch)).2 = []) :
    visibleTimers (supplyTimers preset clock timers).1 = visibleTimers timers ∧
      (supplyTimers preset clock timers).2 = [] := by
  refine ⟨funext fun n => funext fun ch => ?_, ?_⟩
  · rw [visible_supplyTimers]
    by_cases hn : n = 0
    · subst hn
      rw [if_pos rfl, (h ch).1]
      rfl
    · rw [if_neg hn]
      rfl
  · show (deviceSupplyClockTimer _ timers).2.2 = []
    rw [raised_supply, (h 0).2, (h 1).2]
    rfl

end Clocks

section Exact

variable {fd : BitVec 32} {preset t k : Nat} {timer : TimerDevice}

/-- A channel after the clock `t` does nothing before the clock `t + k`. -/
structure Sleeps (fd : BitVec 32) (t k : Nat) (timer : TimerDevice) : Prop where
  fd_eq : timer.fd = fd
  start_le : timer.startClock ≤ t
  ready : timer.state = .ready → k ≤ fd.toNat - t % fd.toNat
  running : timer.state = .running → t + k ≤ timer.startClock + timer.compare0.toNat * fd.toNat

theorem Sleeps.quiet (h : Sleeps fd t k timer) (hfd : 0 < fd.toNat) (hbound : t + k ≤ 2 ^ 64)
    {clock : Nat} (hlt : t < clock) (hlt' : clock < t + k) :
    (timerTick clock timer).1.visible = timer.visible ∧ (timerTick clock timer).2 = [] := by
  cases hstate : timer.state with
  | stop => exact timerTick_stop hstate
  | ready =>
    -- the next multiple is not reached
    have hbetween : clock % timer.fd.toNat ≠ 0 := by
      rw [h.fd_eq]
      intro htick
      have hnext := next_le hfd (Nat.dvd_of_mod_eq_zero htick) hlt
      have hk := h.ready hstate
      omega
    rw [timerTick_between hbetween]
    exact ⟨rfl, rfl⟩
  | running =>
    have hstart := h.start_le
    have hrunning := h.running hstate
    exact timerTick_running hstate (by omega) (by omega) (by rw [h.fd_eq]; omega)

/-- If every supplied channel sleeps, the clocks may be skipped. -/
theorem skipExact_of_sleeps {m : TimerMachine} (hfd : 0 < fd.toNat) (hk : 1 ≤ k)
    (hbound : m.clock + k < 2 ^ 64)
    (h : ∀ ch, Sleeps fd m.clock k (timerTick m.clock (m.timers 0 ch)).1) :
    SkipExact preset m k := by
  obtain ⟨j, rfl⟩ : ∃ j, k = j + 1 := ⟨k - 1, by omega⟩
  refine skip_exact (fun clock _ _ => supplyTimers_congr) ?_
  intro clock hlt hle timers hsame
  have hquiet : ∀ ch, (timerTick clock (timers 0 ch)).1.visible = (timers 0 ch).visible ∧
      (timerTick clock (timers 0 ch)).2 = [] := by
    intro ch
    have hvisible : (timers 0 ch).visible = (timerTick m.clock (m.timers 0 ch)).1.visible := by
      have hchannel := congrFun (congrFun hsame 0) ch
      rw [visible_supplyTimers, if_pos rfl] at hchannel
      exact hchannel
    have hsleeps := (h ch).quiet hfd (by omega) hlt (by omega)
    obtain ⟨hcongr, hcongr'⟩ :
        (timerTick clock (timers 0 ch)).1.visible =
            (timerTick clock (timerTick m.clock (m.timers 0 ch)).1).1.visible ∧
          (timerTick clock (timers 0 ch)).2 =
            (timerTick clock (timerTick m.clock (m.timers 0 ch)).1).2 :=
      timerTick_congr hvisible
    rw [hcongr, hcongr', hvisible]
    exact hsleeps
  have hstill : visibleTimers (supplyTimers preset clock timers).1 = visibleTimers timers ∧
      (supplyTimers preset clock timers).2 = [] := supplyTimers_quiet hquiet
  exact ⟨hstill.1.trans hsame, hstill.2⟩

/-- What the clocks up to `t + j` do to a channel that is ready at `t` and
starts at `tick`. -/
structure Woken (fd : BitVec 32) (tick clock : Nat) (timer : TimerDevice)
    (raised : List (Nat × Nat)) : Prop where
  fd_eq : timer.fd = fd
  mode_eq : timer.mode = .interval
  ready : clock < tick → timer.state = .ready
  started : tick ≤ clock → tick ≤ timer.startClock ∧ timer.startClock ≤ clock ∧
    (timer.state = .running ∨ timer.state = .ready ∧ raised ≠ [])

theorem raised_ne_nil {clock : Nat} {timers : Timers} (ch : Fin taujChNum)
    (h : (timerTick clock (timers 0 ch)).2 ≠ []) :
    (supplyOnce (supplyTimers preset) clock timers).2 ≠ [] := by
  intro hnil
  have hraised : (timerTick clock (timers 0 0)).2 ++ (timerTick clock (timers 0 1)).2 = [] := by
    rw [← raised_supply ⟨clock, true, preset⟩ timers]
    exact List.map_eq_nil_iff.mp hnil
  obtain ⟨h0, h1⟩ := List.append_eq_nil_iff.mp hraised
  match ch, h with
  | 0, h => exact h h0
  | 1, h => exact h h1

/-- One more clock of a channel that wakes up. -/
theorem Woken.next {tick clock : Nat} {raised : List (Nat × Nat)} {last : List (Nat × Nat)}
    (h : Woken fd tick clock timer raised) (htick : tick % fd.toNat = 0)
    (hnext : ∀ clock', clock < clock' → clock' < tick → clock' % fd.toNat ≠ 0)
    (hlast : (timerTick (clock + 1) timer).2 ≠ [] → last ≠ []) :
    Woken fd tick (clock + 1) (timerTick (clock + 1) timer).1 (raised ++ last) := by
  obtain ⟨hfdSame, hmodeSame, -⟩ := timerTick_fixed (clock + 1) timer
  have hfd' : timer.fd.toNat = fd.toNat := by rw [h.fd_eq]
  refine ⟨hfdSame.trans h.fd_eq, hmodeSame.trans h.mode_eq, ?_, ?_⟩
  · intro hlt
    rw [timerTick_between (by rw [hfd']; exact hnext _ (by omega) hlt)]
    exact h.ready (by omega)
  · intro hle
    -- at a multiple, a channel that is not stopped counts or raises its interrupt
    have hactive : (clock + 1) % fd.toNat = 0 → timer.state ≠ .stop →
        (timerTick (clock + 1) timer).1.startClock =
            (if timer.state = .ready then clock + 1 else timer.startClock) ∧
          ((timerTick (clock + 1) timer).1.state = .running ∨
            (timerTick (clock + 1) timer).1.state = .ready ∧ raised ++ last ≠ []) := by
      intro hmultiple hstate
      obtain ⟨hstart, hcase⟩ :=
        timerTick_active h.mode_eq (by rw [hfd']; exact hmultiple) hstate
      refine ⟨hstart, hcase.imp And.left fun hready => ⟨hready.1, ?_⟩⟩
      have hne := hlast (by rw [hready.2]; exact List.cons_ne_nil _ _)
      exact fun hnil => hne (List.append_eq_nil_iff.mp hnil).2
    by_cases hbefore : clock < tick
    · have heq : clock + 1 = tick := by omega
      have hready := h.ready hbefore
      obtain ⟨hstart, hcase⟩ := hactive (by rw [heq]; exact htick) (by rw [hready]; decide)
      rw [if_pos hready] at hstart
      exact ⟨by omega, by omega, hcase⟩
    · obtain ⟨hlow, hhigh, hcase⟩ := h.started (by omega)
      have hstate : timer.state ≠ .stop := by
        rcases hcase with hrunning | ⟨hready, -⟩
        · rw [hrunning]
          decide
        · rw [hready]
          decide
      by_cases hmultiple : (clock + 1) % fd.toNat = 0
      · obtain ⟨hstart, hcase'⟩ := hactive hmultiple hstate
        refine ⟨?_, ?_, hcase'⟩
        · rw [hstart]
          split_ifs <;> omega
        · rw [hstart]
          split_ifs <;> omega
      · rw [timerTick_between (by rw [hfd']; exact hmultiple)]
        refine ⟨hlow, Nat.le_succ_of_le hhigh, hcase.imp id fun hready => ⟨hready.1, ?_⟩⟩
        exact fun hnil => hready.2 (List.append_eq_nil_iff.mp hnil).1

/-- A channel that is ready at `t` wakes up at the next multiple. -/
theorem woken_each {timers : Timers} {ch : Fin taujChNum} (hfd : 0 < fd.toNat)
    (hfdSame : (timers 0 ch).fd = fd) (hmode : (timers 0 ch).mode = .interval)
    (hready : (timers 0 ch).state = .ready) (j : Nat) :
    Woken fd (t + (fd.toNat - t % fd.toNat)) (t + j)
      ((supplyEach (supplyTimers preset) t j timers).1 0 ch)
      (supplyEach (supplyTimers preset) t j timers).2 := by
  have hmod : t % fd.toNat < fd.toNat := Nat.mod_lt t hfd
  induction j with
  | zero => exact ⟨hfdSame, hmode, fun _ => hready, fun hle => by omega⟩
  | succ j ih =>
    have htick := Nat.mod_eq_zero_of_dvd (next_dvd hfd t)
    have hnext : ∀ clock', t + j < clock' → clock' < t + (fd.toNat - t % fd.toNat) →
        clock' % fd.toNat ≠ 0 := by
      intro clock' hlt hlt' hmultiple
      have hle := next_le hfd (Nat.dvd_of_mod_eq_zero hmultiple) (by omega : t < clock')
      omega
    have hchannel : (supplyEach (supplyTimers preset) t (j + 1) timers).1 0 ch =
        (timerTick (t + j + 1)
          ((supplyEach (supplyTimers preset) t j timers).1 0 ch)).1 :=
      timer_supply ⟨t + j + 1, true, preset⟩ _ ch
    rw [hchannel]
    exact ih.next htick hnext (raised_ne_nil ch)

/-- A skip over the multiple at which a ready channel starts is not exact. -/
theorem not_skipExact {m : TimerMachine} {ch : Fin taujChNum} (hfd : 0 < fd.toNat)
    (hok : TimersOk fd m) (hready : (m.timers 0 ch).state = .ready)
    (hbetween : m.clock % fd.toNat ≠ 0) (hlt : fd.toNat - m.clock % fd.toNat < k) :
    ¬ SkipExact preset m k := by
  obtain ⟨j, rfl⟩ : ∃ j, k = j + 1 := ⟨k - 1, by omega⟩
  have hchannel := hok.channel ch
  have hafter : (supplyTimers preset m.clock m.timers).1 0 ch = m.timers 0 ch := by
    show (deviceSupplyClockTimer _ m.timers).2.1 0 ch = _
    rw [timer_supply, timerTick_between (by rw [hchannel.fd_eq]; exact hbetween)]
  rintro ⟨hview, hraised⟩
  generalize (supplyTimers preset m.clock m.timers).1 = after at hafter hview hraised
  have hwoken : Woken fd (m.clock + (fd.toNat - m.clock % fd.toNat)) (m.clock + j)
      ((supplyEach (supplyTimers preset) m.clock j after).1 0 ch)
      (supplyEach (supplyTimers preset) m.clock j after).2 := woken_each hfd
    (by rw [hafter]; exact hchannel.fd_eq) (by rw [hafter]; exact hchannel.mode_eq)
    (by rw [hafter]; exact hready) j
  obtain ⟨hlow, hhigh, hcase⟩ := hwoken.started (by omega)
  rcases hcase with hrunning | ⟨-, hne⟩
  · -- the start clocks differ
    have hstart : (timerTick (m.clock + j + 1)
          ((supplyEach (supplyTimers preset) m.clock j after).1 0 ch)).1.startClock =
        (timerTick (m.clock + (j + 1)) (after 0 ch)).1.startClock := by
      have heq := congrArg TimerDevice.startClock (congrFun (congrFun hview 0) ch)
      have hleft : (supplyEach (supplyTimers preset) m.clock (j + 1) after).1 0 ch =
          (timerTick (m.clock + j + 1)
            ((supplyEach (supplyTimers preset) m.clock j after).1 0 ch)).1 :=
        timer_supply ⟨m.clock + j + 1, true, preset⟩ _ ch
      have hright : (supplyTimers preset (m.clock + (j + 1)) after).1 0 ch =
          (timerTick (m.clock + (j + 1)) (after 0 ch)).1 :=
        timer_supply ⟨m.clock + (j + 1), true, preset⟩ after ch
      rw [← hleft, ← hright]
      exact heq
    have hkept : (timerTick (m.clock + j + 1)
          ((supplyEach (supplyTimers preset) m.clock j after).1 0 ch)).1.startClock =
        ((supplyEach (supplyTimers preset) m.clock j after).1 0 ch).startClock := by
      by_cases htick : (m.clock + j + 1) % ((supplyEach (supplyTimers preset) m.clock j
          after).1 0 ch).fd.toNat = 0
      · rw [(timerTick_active hwoken.mode_eq htick (by rw [hrunning]; decide)).1,
          if_neg (by rw [hrunning]; decide)]
      · rw [timerTick_between htick]
    have hskipped : (timerTick (m.clock + (j + 1)) (after 0 ch)).1.startClock =
          m.clock + (j + 1) ∨
        (timerTick (m.clock + (j + 1)) (after 0 ch)).1.startClock ≤ m.clock := by
      rw [hafter]
      by_cases htick : (m.clock + (j + 1)) % (m.timers 0 ch).fd.toNat = 0
      · left
        rw [(timerTick_active hchannel.mode_eq htick (by rw [hready]; decide)).1, if_pos hready]
      · right
        rw [timerTick_between htick]
        exact hchannel.start_le
    have hmod : m.clock % fd.toNat < fd.toNat := Nat.mod_lt _ hfd
    omega
  · -- an interrupt was raised on the way
    obtain ⟨output, rest, hcons⟩ := List.exists_cons_of_ne_nil hne
    have hmem : output ∈ (supplyEach (supplyTimers preset) m.clock j after).2 := by
      rw [hcons]
      exact List.mem_cons_self ..
    have hmem' : output ∈ (supplyEach (supplyTimers preset) m.clock (j + 1) after).2 :=
      List.mem_append_left _ hmem
    have hrange := mem_supplyEach hmem
    rw [hraised] at hmem'
    have hclock := mem_supplyOnce hmem'
    omega

/-- In a reachable state, a skip within the reported interval is exact if and
only if it passes no multiple of the divider at which a channel starts that was
already ready. -/
theorem skipExact_iff {mask : BitVec 32} {m : TimerMachine} (hfd : 0 < fd.toNat)
    (hm : (timerMachine mask fd).Reachable m) (hk : 1 ≤ k)
    (hle : k ≤ (deviceSupplyClockTimer ⟨m.clock, true, preset⟩ m.timers).1.minIntrInterval)
    (hbound : m.clock + k < 2 ^ 64) :
    SkipExact preset m k ↔
      ∀ ch, (m.timers 0 ch).state = .ready → m.clock % fd.toNat ≠ 0 →
        k ≤ fd.toNat - m.clock % fd.toNat := by
  have hok := timersOk_of_reachable hfd hm
  have hmod : m.clock % fd.toNat < fd.toNat := Nat.mod_lt _ hfd
  constructor
  · intro hexact ch hready hbetween
    by_contra hnot
    exact not_skipExact hfd hok hready hbetween (Nat.lt_of_not_le hnot) hexact
  · intro hready
    refine skipExact_of_sleeps hfd hk hbound fun ch => ?_
    have hchannel := hok.channel ch
    obtain ⟨hfdSame, hmodeSame, hcompareSame⟩ := timerTick_fixed m.clock (m.timers 0 ch)
    have hinterval : (timerTick m.clock (m.timers 0 ch)).1.state ≠ .stop →
        k ≤ max (timerInterval m.clock (timerTick m.clock (m.timers 0 ch)).1) 1 := fun hstate =>
      Nat.le_trans hle (interval_supply ⟨m.clock, true, preset⟩ m.timers rfl ch hstate)
    have hstart := hchannel.start_tick
    refine ⟨hfdSame.trans hchannel.fd_eq, hstart, ?_, ?_⟩
    · intro hafter
      by_cases htick : m.clock % fd.toNat = 0
      · have hadvance := hinterval (by rw [hafter]; decide)
        rw [hchannel.interval_raised hok.clock_lt htick hafter] at hadvance
        omega
      · rw [timerTick_between (by rw [hchannel.fd_eq]; exact htick)] at hafter
        exact hready ch hafter htick
    · intro hafter
      have hadvance := hinterval (by rw [hafter]; decide)
      exact (hchannel.tick hfd hok.clock_lt fun _ => hadvance).before hafter

end Exact

/-! ## A channel that is started between two multiples -/

/-- The machine with the divider 2 and the compare value 3, before channel 0 is
started at the clock 1. -/
def comparedTimer : TimerMachine where
  clock := 1
  timers := (deviceSupplyClockTimer ⟨0, false, 100⟩
    (timerPutData32 0xFFFFFFFF (taujCdr 0 0) 3 (deviceInitTimer 2))).2.1

theorem reachable_comparedTimer : (timerMachine 0xFFFFFFFF 2).Reachable comparedTimer := by
  have hcompare : (timerMachine 0xFFFFFFFF 2).step (.put32 (taujCdr 0 0) 3)
      ⟨0, deviceInitTimer 2⟩
      ⟨0, timerPutData32 0xFFFFFFFF (taujCdr 0 0) 3 (deviceInitTimer 2)⟩ := rfl
  have hclock : (timerMachine 0xFFFFFFFF 2).step (.supply false 100 1)
      ⟨0, timerPutData32 0xFFFFFFFF (taujCdr 0 0) 3 (deviceInitTimer 2)⟩ comparedTimer :=
    ⟨⟨by decide, by decide⟩, by decide, rfl⟩
  exact .step (.step (.init rfl) hcompare) hclock

/-- The machine with the divider 2 and the compare value 3 in channel 0, which
was started after the clock 0. -/
def startedTimer : TimerMachine where
  clock := 1
  timers := timerPutData8 0xFFFFFFFF (taujTs 0) 1
    (deviceSupplyClockTimer ⟨0, false, 100⟩
      (timerPutData32 0xFFFFFFFF (taujCdr 0 0) 3 (deviceInitTimer 2))).2.1

theorem startedTimer_reachable : (timerMachine 0xFFFFFFFF 2).Reachable startedTimer := by
  have hstart : (timerMachine 0xFFFFFFFF 2).step (.put8 (taujTs 0) 1) comparedTimer
      startedTimer := rfl
  exact .step reachable_comparedTimer hstart

/-- One clock is skipped to the next multiple. -/
theorem skipExact_iff_started :
    SkipExact 100 startedTimer 1 ↔
      ∀ ch, (startedTimer.timers 0 ch).state = .ready →
        startedTimer.clock % (2 : BitVec 32).toNat ≠ 0 →
          1 ≤ (2 : BitVec 32).toNat - startedTimer.clock % (2 : BitVec 32).toNat :=
  skipExact_iff (by decide) startedTimer_reachable (by decide) (by decide +kernel) (by decide)

/-- Five clocks may be skipped from the clock 1, and a skip of two leaves the
channel ready that the clock 2 would have started. -/
theorem skip_not_exact :
    (timerMachine 0xFFFFFFFF 2).Reachable startedTimer ∧
      (deviceSupplyClockTimer ⟨startedTimer.clock, true, 100⟩
        startedTimer.timers).1.minIntrInterval = 5 ∧
      ¬ SkipExact 100 startedTimer 2 := by
  refine ⟨startedTimer_reachable, by decide +kernel, fun hexact => ?_⟩
  have hstart := congrArg TimerDevice.startClock (congrFun (congrFun hexact.1 0) 0)
  exact absurd hstart (by decide +kernel)

end Athrill
