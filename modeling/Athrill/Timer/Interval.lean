import Athrill.Timer.Skip
import Mathlib.Order.Bounds.Basic

/-!
# The interval of the timer

A channel that was started counts the multiples of the divider up to its
compare value, raises its interrupt, and starts again at the next multiple.

* `timerTick_count`: what an update does, by the count that it reaches.
* `Counting`: a channel some clocks after its first multiple.
* `Scheduled`: the channel in a run that leaves it alone.
* `interval_exact`: the clocks of the interrupts, and the counter.
-/

namespace Athrill

open Ticks

/-! ## One channel -/

section Channel

variable {clock : Nat} {timer : TimerDevice}

/-- An update of a channel that is not stopped and counts to `k`. -/
theorem timerTick_count {start k : Nat} (hmode : timer.mode = .interval)
    (hstate : timer.state ≠ .stop) (htick : clock % timer.fd.toNat = 0) (hclock : clock < 2 ^ 64)
    (hstart : (if timer.state = .ready then clock else timer.startClock) = start)
    (hle : start ≤ clock) (hk : (clock - start) / timer.fd.toNat = k)
    (hkc : k ≤ timer.compare0.toNat) :
    timerTick clock timer =
      ({ timer with
          cnt := BitVec.ofNat 32 k
          regCnt := timer.compare0 - BitVec.ofNat 32 k
          state := if k = timer.compare0.toNat then .ready else .running
          startClock := start },
        if k = timer.compare0.toNat then [timer.compare0Intno] else []) := by
  have hbegin : timer.begin clock = { timer with state := .running, startClock := start } := by
    unfold TimerDevice.begin
    cases hcase : timer.state with
    | stop => exact absurd hcase hstate
    | ready =>
      rw [if_pos rfl, if_pos (Or.inr hmode), ← hstart, hcase, if_pos rfl]
    | running =>
      rw [hcase, if_neg (by decide)] at hstart
      rw [if_neg (by decide), ← hstart, ← hcase]
  have hk32 : k < 2 ^ 32 := Nat.lt_of_le_of_lt hkc timer.compare0.isLt
  have htoNat : (BitVec.ofNat 32 k).toNat = k := by
    rw [BitVec.toNat_ofNat, Nat.mod_eq_of_lt hk32]
  unfold timerTick deviceTimerDoUpdate
  rw [if_pos htick, hbegin]
  dsimp only
  rw [sub64_of_le hle hclock, hk, htoNat, if_pos ⟨rfl, hmode⟩]
  by_cases hend : k = timer.compare0.toNat
  · rw [if_pos (Nat.le_of_eq hend.symm), if_pos hend, if_pos hend]
  · rw [if_neg (by omega), if_neg hend, if_neg hend]

/-- What an update raises is the interrupt of the channel. -/
theorem timerTick_raised (clock : Nat) (timer : TimerDevice) :
    (timerTick clock timer).2 = [] ∨ (timerTick clock timer).2 = [timer.compare0Intno] := by
  unfold timerTick deviceTimerDoUpdate TimerDevice.begin
  dsimp only
  split_ifs
  all_goals first | exact Or.inl rfl | exact Or.inr rfl

theorem timerTick_intno (clock : Nat) (timer : TimerDevice) :
    (timerTick clock timer).1.compare0Intno = timer.compare0Intno := by
  unfold timerTick deviceTimerDoUpdate TimerDevice.begin
  dsimp only
  split_ifs <;> rfl

end Channel

/-! ## Counting -/

/-- A started channel that waits for a multiple. -/
structure Waiting (fd : BitVec 32) (c : Nat) (timer : TimerDevice) : Prop where
  fd_eq : timer.fd = fd
  mode_eq : timer.mode = .interval
  compare_eq : timer.compare0.toNat = c
  ready : timer.state = .ready

/-- A channel `a` clocks after it has started at `T`. -/
structure Counting (fd : BitVec 32) (c T a : Nat) (timer : TimerDevice) : Prop where
  fd_eq : timer.fd = fd
  mode_eq : timer.mode = .interval
  compare_eq : timer.compare0.toNat = c
  cnt_eq : timer.cnt.toNat = a / fd.toNat % (c + 1)
  regCnt_eq : timer.regCnt = timer.compare0 - timer.cnt
  state_eq : timer.state = if a / fd.toNat % (c + 1) = c then .ready else .running
  start_eq : timer.startClock + a / fd.toNat % (c + 1) * fd.toNat = T + a / fd.toNat * fd.toNat

section Counting

variable {fd : BitVec 32} {c T a : Nat} {timer : TimerDevice}

/-- The update at a multiple, `a` clocks after the first one. -/
theorem counting_of_tick (hfd : 0 < fd.toNat) (hT : fd.toNat ∣ T) (ha : fd.toNat ∣ a)
    (hclock : T + a < 2 ^ 64) (hfdSame : timer.fd = fd) (hmode : timer.mode = .interval)
    (hcompare : timer.compare0.toNat = c) (hstate : timer.state ≠ .stop)
    (hstart : (if timer.state = .ready then T + a else timer.startClock) +
      a / fd.toNat % (c + 1) * fd.toNat = T + a) :
    Counting fd c T a (timerTick (T + a) timer).1 ∧
      (timerTick (T + a) timer).2 =
        if a / fd.toNat % (c + 1) = c then [timer.compare0Intno] else [] := by
  generalize hk : a / fd.toNat % (c + 1) = k at hstart ⊢
  generalize hs : (if timer.state = .ready then T + a else timer.startClock) = start at hstart
  have hlt : k < c + 1 := by
    rw [← hk]
    exact Nat.mod_lt _ (Nat.succ_pos c)
  have htick : (T + a) % timer.fd.toNat = 0 := by
    rw [hfdSame]
    exact Nat.mod_eq_zero_of_dvd (Nat.dvd_add hT ha)
  have hdiv : (T + a - start) / timer.fd.toNat = k := by
    rw [hfdSame, ← hstart, Nat.add_sub_cancel_left, Nat.mul_div_cancel _ hfd]
  have hresult := timerTick_count hmode hstate htick hclock hs (by omega) hdiv (by omega)
  rw [hcompare] at hresult
  rw [hresult]
  have hk32 : k < 2 ^ 32 := by
    have hcompare32 : timer.compare0.toNat < 2 ^ 32 := timer.compare0.isLt
    omega
  refine ⟨⟨hfdSame, hmode, hcompare, ?_, rfl, ?_, ?_⟩, rfl⟩
  · rw [hk, BitVec.toNat_ofNat, Nat.mod_eq_of_lt hk32]
  · rw [hk]
  · rw [hk, Nat.div_mul_cancel ha]
    exact hstart

/-- The update at the first multiple. -/
theorem Waiting.start (h : Waiting fd c timer) (hfd : 0 < fd.toNat) (hT : fd.toNat ∣ T)
    (hclock : T < 2 ^ 64) :
    Counting fd c T 0 (timerTick T timer).1 ∧
      (timerTick T timer).2 = if 0 / fd.toNat % (c + 1) = c then [timer.compare0Intno] else [] := by
  have hcount := @counting_of_tick fd c T 0 timer hfd hT (Nat.dvd_zero _) hclock h.fd_eq h.mode_eq
    h.compare_eq (by rw [h.ready]; decide)
  rw [Nat.zero_div, Nat.zero_mod, Nat.zero_mul, if_pos h.ready] at hcount
  rw [Nat.zero_div, Nat.zero_mod]
  exact hcount rfl

/-- One more clock. -/
theorem Counting.next (h : Counting fd c T a timer) (hfd : 0 < fd.toNat) (hT : fd.toNat ∣ T)
    (hclock : T + (a + 1) < 2 ^ 64) :
    Counting fd c T (a + 1) (timerTick (T + (a + 1)) timer).1 ∧
      (timerTick (T + (a + 1)) timer).2 =
        if fd.toNat ∣ a + 1 ∧ (a + 1) / fd.toNat % (c + 1) = c then [timer.compare0Intno]
        else [] := by
  by_cases hdvd : fd.toNat ∣ a + 1
  · have hdiv : (a + 1) / fd.toNat = a / fd.toNat + 1 := Nat.succ_div_of_dvd hdvd
    have hmul : (a + 1) / fd.toNat * fd.toNat = a + 1 := Nat.div_mul_cancel hdvd
    have hstart := h.start_eq
    have hnotStop : timer.state ≠ .stop := by
      rw [h.state_eq]
      split_ifs <;> decide
    -- a channel at its compare value starts again, another one goes on
    have hsum : (if timer.state = .ready then T + (a + 1) else timer.startClock) +
        (a + 1) / fd.toNat % (c + 1) * fd.toNat = T + (a + 1) := by
      rw [hdiv, Nat.add_mul, Nat.one_mul] at hmul
      rw [hdiv, succ_mod_period, h.state_eq]
      by_cases hend : a / fd.toNat % (c + 1) = c
      · rw [if_pos hend, if_pos rfl, if_pos hend, Nat.zero_mul, Nat.add_zero]
      · rw [if_neg hend, if_neg (by decide), if_neg hend, Nat.add_mul, Nat.one_mul]
        omega
    have hcount := counting_of_tick hfd hT hdvd hclock h.fd_eq h.mode_eq h.compare_eq hnotStop hsum
    rw [hcount.2]
    refine ⟨hcount.1, ?_⟩
    by_cases hend : (a + 1) / fd.toNat % (c + 1) = c
    · rw [if_pos hend, if_pos ⟨hdvd, hend⟩]
    · rw [if_neg hend, if_neg fun hand => hend hand.2]
  · have hdiv : (a + 1) / fd.toNat = a / fd.toNat := Nat.succ_div_of_not_dvd hdvd
    have hbetween : (T + (a + 1)) % timer.fd.toNat ≠ 0 := by
      rw [h.fd_eq]
      intro hmod
      exact hdvd ((Nat.dvd_add_right hT).mp (Nat.dvd_of_mod_eq_zero hmod))
    rw [timerTick_between hbetween, if_neg fun hand => hdvd hand.1]
    refine ⟨⟨h.fd_eq, h.mode_eq, h.compare_eq, ?_, h.regCnt_eq, ?_, ?_⟩, rfl⟩
    · rw [hdiv]
      exact h.cnt_eq
    · rw [hdiv]
      exact h.state_eq
    · rw [hdiv]
      exact h.start_eq

theorem Counting.cnt_le (h : Counting fd c T a timer) : timer.cnt.toNat ≤ c := by
  have hlt : a / fd.toNat % (c + 1) < c + 1 := Nat.mod_lt _ (Nat.succ_pos c)
  rw [h.cnt_eq]
  omega

/-- The counter does not underflow. -/
theorem Counting.regCnt_toNat (h : Counting fd c T a timer) :
    timer.regCnt.toNat = c - timer.cnt.toNat := by
  have hle := h.cnt_le
  have hcompare := h.compare_eq
  rw [h.regCnt_eq, BitVec.toNat_sub]
  have hlt : timer.compare0.toNat < 2 ^ 32 := timer.compare0.isLt
  omega

end Counting

/-! ## Interrupt numbers -/

/-- Every channel raises the interrupt of its unit and number. -/
def Wired (timers : Timers) : Prop :=
  ∀ n ch, (timers n ch).compare0Intno = taujIntno n ch

section Wired

variable {mask fd : BitVec 32} {m m' : TimerMachine}

theorem wired_put8 {timers : Timers} (h : Wired timers) (addr : BitVec 32) (data : BitVec 8) :
    Wired (timerPutData8 mask addr data timers) := by
  intro n ch
  by_cases hcommand : ∃ state, timerCommand mask addr data = some (n, ch, state)
  · obtain ⟨state, hcommand⟩ := hcommand
    rw [timerPutData8_self hcommand]
    exact h n ch
  · rw [timerPutData8_of_ne fun state hstate => hcommand ⟨state, hstate⟩]
    exact h n ch

theorem wired_put32 {timers : Timers} (h : Wired timers) (addr data : BitVec 32) :
    Wired (timerPutData32 mask addr data timers) := by
  intro n ch
  by_cases hcompare : timerCompare mask addr = some (n, ch)
  · rw [timerPutData32_self hcompare]
    exact h n ch
  · rw [timerPutData32_of_ne hcompare]
    exact h n ch

theorem wired_supply {timers : Timers} (h : Wired timers) (devClock : DeviceClock) :
    Wired (deviceSupplyClockTimer devClock timers).2.1 := by
  intro n ch
  by_cases hn : n = 0
  · subst hn
    rw [timer_supply, timerTick_intno]
    exact h 0 ch
  · rw [timer_supply_of_ne devClock timers hn]
    exact h n ch

theorem wired_step {event : TimerEvent} (h : Wired m.timers)
    (hstep : (timerMachine mask fd).step event m m') : Wired m'.timers := by
  cases event with
  | put8 addr data =>
    rw [show m' = _ from hstep]
    exact wired_put8 h addr data
  | put32 addr data =>
    rw [show m' = _ from hstep]
    exact wired_put32 h addr data
  | supply isHalt preset advance =>
    obtain ⟨-, -, rfl⟩ := hstep
    exact wired_supply h _
  | reset =>
    rw [show m' = _ from hstep]
    exact fun _ _ => rfl

theorem wired_of_reachable (h : (timerMachine mask fd).Reachable m) : Wired m.timers :=
  TransitionSystem.Invariant.of_reachable (I := fun m => Wired m.timers)
    ⟨fun m hm => by
      rw [show m = _ from hm]
      exact fun _ _ => rfl,
    fun _ _ _ hwired hstep => wired_step hwired hstep⟩ h

theorem taujIntno_eq_iff : ∀ ch ch' : Fin taujChNum,
    taujIntno 0 ch = taujIntno 0 ch' ↔ ch' = ch := by
  decide

/-- The interrupt of a channel is raised by its own update alone. -/
theorem mem_raised_iff {timers : Timers} (h : Wired timers) (devClock : DeviceClock)
    (ch : Fin taujChNum) :
    taujIntno 0 ch ∈ (deviceSupplyClockTimer devClock timers).2.2 ↔
      (timerTick devClock.clock (timers 0 ch)).2 ≠ [] := by
  have hmem : ∀ ch', taujIntno 0 ch ∈ (timerTick devClock.clock (timers 0 ch')).2 ↔
      ch' = ch ∧ (timerTick devClock.clock (timers 0 ch')).2 ≠ [] := by
    intro ch'
    rcases timerTick_raised devClock.clock (timers 0 ch') with hnil | hone
    · rw [hnil]
      exact iff_of_false List.not_mem_nil fun hand => hand.2 rfl
    · rw [hone, List.mem_singleton, h 0 ch']
      have hne : [taujIntno 0 ch'] ≠ [] := List.cons_ne_nil _ _
      rw [taujIntno_eq_iff]
      exact (and_iff_left hne).symm
  rw [raised_supply, List.mem_append, hmem, hmem]
  match ch with
  | 0 => exact ⟨fun hor => hor.elim And.right fun hand => absurd hand.1 (by decide),
      fun hne => Or.inl ⟨rfl, hne⟩⟩
  | 1 => exact ⟨fun hor => hor.elim (fun hand => absurd hand.1 (by decide)) And.right,
      fun hne => Or.inr ⟨rfl, hne⟩⟩

end Wired

/-! ## Runs that leave a channel alone -/

/-- Every clock is supplied, and no store goes to the channel. -/
def TimerEvent.LeavesAlone (mask : BitVec 32) (ch : Fin taujChNum) : TimerEvent → Prop
  | .put8 addr data => ∀ state, timerCommand mask addr data ≠ some (0, ch, state)
  | .put32 addr _ => timerCompare mask addr ≠ some (0, ch)
  | .supply _ _ advance => advance = 1
  | .reset => False

/-- The runs from a state that leave a channel of unit 0 alone. -/
def undisturbed (mask fd : BitVec 32) (ch : Fin taujChNum) (start : TimerMachine) :
    TransitionSystem TimerMachine TimerEvent where
  init m := m = start
  step event m m' := event.LeavesAlone mask ch ∧ (timerMachine mask fd).step event m m'

/-- The channel in such a run, where `T` is its first multiple. -/
structure Scheduled (fd : BitVec 32) (c T t : Nat) (ch : Fin taujChNum) (m : TimerMachine) :
    Prop where
  from_le : t ≤ m.clock
  waiting : m.clock ≤ T → Waiting fd c (m.timers 0 ch)
  counting : ∀ a, m.clock = T + (a + 1) → Counting fd c T a (m.timers 0 ch)

section Runs

variable {mask fd : BitVec 32} {c T t : Nat} {ch : Fin taujChNum} {start m m' : TimerMachine}

theorem reachable_of_undisturbed (hstart : (timerMachine mask fd).Reachable start)
    (h : (undisturbed mask fd ch start).Reachable m) : (timerMachine mask fd).Reachable m := by
  induction h with
  | init hinit =>
    rw [show _ = start from hinit]
    exact hstart
  | step _ hstep ih => exact .step ih hstep.2

/-- The update of the clock that is supplied next. -/
theorem Scheduled.tick (h : Scheduled fd c T t ch m) (hfd : 0 < fd.toNat) (hT : fd.toNat ∣ T)
    (hclock : m.clock < 2 ^ 64) {a : Nat} (ha : m.clock = T + a) :
    Counting fd c T a (timerTick m.clock (m.timers 0 ch)).1 ∧
      ((timerTick m.clock (m.timers 0 ch)).2 ≠ [] ↔
        fd.toNat ∣ a ∧ a / fd.toNat % (c + 1) = c) := by
  rw [ha] at hclock ⊢
  cases a with
  | zero =>
    obtain ⟨hcount, hraised⟩ := (h.waiting (Nat.le_of_eq ha)).start hfd hT hclock
    refine ⟨hcount, ?_⟩
    show (timerTick T _).2 ≠ [] ↔ _
    rw [hraised]
    split_ifs with hend
    · exact iff_of_true (List.cons_ne_nil _ _) ⟨Nat.dvd_zero _, hend⟩
    · exact iff_of_false (fun hne => hne rfl) fun hand => hend hand.2
  | succ a =>
    obtain ⟨hcount, hraised⟩ := (h.counting a ha).next hfd hT hclock
    refine ⟨hcount, ?_⟩
    rw [hraised]
    split_ifs with hend
    · exact iff_of_true (List.cons_ne_nil _ _) hend
    · exact iff_of_false (fun hne => hne rfl) hend

/-- Before its first multiple, the channel is not updated. -/
theorem Scheduled.before (h : Scheduled fd c T t ch m)
    (hfirst : ∀ t', t ≤ t' → fd.toNat ∣ t' → T ≤ t') (hlt : m.clock < T) :
    timerTick m.clock (m.timers 0 ch) = (m.timers 0 ch, []) := by
  refine timerTick_between fun hmod => ?_
  rw [(h.waiting (Nat.le_of_lt hlt)).fd_eq] at hmod
  have hle := hfirst m.clock h.from_le (Nat.dvd_of_mod_eq_zero hmod)
  omega

theorem Scheduled.of_eq (h : Scheduled fd c T t ch m) (hclock : m'.clock = m.clock)
    (htimer : m'.timers 0 ch = m.timers 0 ch) : Scheduled fd c T t ch m' where
  from_le := by
    rw [hclock]
    exact h.from_le
  waiting := by
    rw [hclock, htimer]
    exact h.waiting
  counting := by
    rw [hclock, htimer]
    exact h.counting

theorem scheduled_step (hfd : 0 < fd.toNat) (hT : fd.toNat ∣ T)
    (hfirst : ∀ t', t ≤ t' → fd.toNat ∣ t' → T ≤ t') {event : TimerEvent}
    (h : Scheduled fd c T t ch m) (hstep : (undisturbed mask fd ch start).step event m m') :
    Scheduled fd c T t ch m' := by
  obtain ⟨halone, hstep⟩ := hstep
  cases event with
  | put8 addr data =>
    rw [show m' = _ from hstep]
    exact h.of_eq rfl (timerPutData8_of_ne halone)
  | put32 addr data =>
    rw [show m' = _ from hstep]
    exact h.of_eq rfl (timerPutData32_of_ne halone)
  | supply isHalt preset advance =>
    obtain ⟨-, hclock, rfl⟩ := hstep
    have hone : advance = 1 := halone
    subst hone
    have hfrom := h.from_le
    have htimer := timer_supply ⟨m.clock, isHalt, preset⟩ m.timers ch
    refine ⟨by show t ≤ m.clock + 1; omega, fun hle => ?_, fun a ha => ?_⟩
    · show Waiting fd c ((deviceSupplyClockTimer _ m.timers).2.1 0 ch)
      have hlt : m.clock < T := hle
      rw [htimer]
      show Waiting fd c (timerTick m.clock (m.timers 0 ch)).1
      rw [h.before hfirst hlt]
      exact h.waiting (Nat.le_of_lt hlt)
    · show Counting fd c T a ((deviceSupplyClockTimer _ m.timers).2.1 0 ch)
      have heq : m.clock + 1 = T + (a + 1) := ha
      rw [htimer]
      exact (h.tick hfd hT (by omega) (by omega)).1
  | reset => exact halone.elim

/-- When the interrupt of the channel is raised. -/
theorem Scheduled.raised_iff (h : Scheduled fd c T t ch m) (hfd : 0 < fd.toNat)
    (hT : fd.toNat ∣ T) (hfirst : ∀ t', t ≤ t' → fd.toNat ∣ t' → T ≤ t')
    (hclock : m.clock < 2 ^ 64) :
    (timerTick m.clock (m.timers 0 ch)).2 ≠ [] ↔
      ∃ n, m.clock = T + c * fd.toNat + n * ((c + 1) * fd.toNat) := by
  by_cases hlt : m.clock < T
  · rw [h.before hfirst hlt]
    refine iff_of_false (fun hne => hne rfl) ?_
    rintro ⟨n, hn⟩
    omega
  · obtain ⟨a, ha⟩ := Nat.exists_eq_add_of_le (Nat.le_of_not_lt hlt)
    rw [(h.tick hfd hT hclock ha).2, ← exists_period_iff hfd]
    constructor
    · rintro ⟨n, hn⟩
      exact ⟨n, by omega⟩
    · rintro ⟨n, hn⟩
      exact ⟨n, by omega⟩

end Runs

/-! ## The interval -/

/-- The interrupts and the counter of a channel with the compare value `c` that
starts at `T`. -/
structure IntervalCorrect (mask fd : BitVec 32) (c T : Nat) (ch : Fin taujChNum)
    (m : TimerMachine) : Prop where
  raises : ∀ isHalt preset,
    taujIntno 0 ch ∈ (deviceSupplyClockTimer ⟨m.clock, isHalt, preset⟩ m.timers).2.2 ↔
      ∃ n, m.clock = T + c * fd.toNat + n * ((c + 1) * fd.toNat)
  count_le : T < m.clock → (m.timers 0 ch).cnt.toNat ≤ c
  counter : T < m.clock → ∀ addr stored, timerCounter mask addr = some (0, ch) →
    (timerGetData32 mask addr stored m.timers).toNat = c - (m.timers 0 ch).cnt.toNat

theorem interval_exact {mask fd : BitVec 32} (hfd : 0 < fd.toNat) {before start m : TimerMachine}
    (hbefore : (timerMachine mask fd).Reachable before) {addr : BitVec 32} {data : BitVec 8}
    {ch : Fin taujChNum} (hcommand : timerCommand mask addr data = some (0, ch, .ready))
    (hstart : (timerMachine mask fd).step (.put8 addr data) before start) {T : Nat}
    (hT : IsLeast {t | start.clock ≤ t ∧ fd.toNat ∣ t} T)
    (hm : (undisturbed mask fd ch start).Reachable m) :
    IntervalCorrect mask fd (start.timers 0 ch).compare0.toNat T ch m := by
  obtain ⟨⟨hle, hdvd⟩, hleast⟩ := hT
  have hfirst : ∀ t, start.clock ≤ t → fd.toNat ∣ t → T ≤ t := fun t hfrom ht => hleast ⟨hfrom, ht⟩
  have hreach : (timerMachine mask fd).Reachable start := .step hbefore hstart
  have hok := (timersOk_of_reachable hfd hreach).channel ch
  have hready : (start.timers 0 ch).state = .ready := by
    rw [show start = _ from hstart]
    show (timerPutData8 mask addr data before.timers 0 ch).state = _
    rw [timerPutData8_self hcommand]
  have hscheduled : Scheduled fd (start.timers 0 ch).compare0.toNat T start.clock ch m := by
    refine TransitionSystem.Invariant.of_reachable
      ⟨?_, fun event m m' h hstep => scheduled_step hfd hdvd hfirst h hstep⟩ hm
    intro m' hm'
    rw [show m' = start from hm']
    exact ⟨Nat.le_refl _, fun _ => ⟨hok.fd_eq, hok.mode_eq, rfl, hready⟩, fun a ha => by omega⟩
  have hm' := reachable_of_undisturbed hreach hm
  have hclock := (timersOk_of_reachable hfd hm').clock_lt
  refine ⟨fun isHalt preset => ?_, fun hlt => ?_, fun hlt addr stored hcounter => ?_⟩
  · rw [mem_raised_iff (wired_of_reachable hm')]
    exact hscheduled.raised_iff hfd hdvd hfirst hclock
  · obtain ⟨a, ha⟩ := Nat.exists_eq_add_of_lt hlt
    exact (hscheduled.counting a ha).cnt_le
  · obtain ⟨a, ha⟩ := Nat.exists_eq_add_of_lt hlt
    unfold timerGetData32
    rw [hcounter]
    exact (hscheduled.counting a ha).regCnt_toNat

/-- The machine some clocks after the start. -/
def suppliedTimer : Nat → TimerMachine
  | 0 => startedTimer
  | n + 1 =>
    let m := suppliedTimer n
    ⟨m.clock + 1, (deviceSupplyClockTimer ⟨m.clock, false, 100⟩ m.timers).2.1⟩

theorem clock_suppliedTimer (n : Nat) : (suppliedTimer n).clock = n + 1 := by
  induction n with
  | zero => rfl
  | succ n ih => exact congrArg (· + 1) ih

theorem reachable_suppliedTimer {n : Nat} (hn : n < 2 ^ 32) :
    (undisturbed 0xFFFFFFFF 2 0 startedTimer).Reachable (suppliedTimer n) := by
  induction n with
  | zero => exact .init rfl
  | succ n ih =>
    have hclock : (suppliedTimer n).clock + 1 < 2 ^ 64 := by
      rw [clock_suppliedTimer]
      omega
    have hstep : (timerMachine 0xFFFFFFFF 2).step (.supply false 100 1) (suppliedTimer n)
        (suppliedTimer (n + 1)) := ⟨⟨Nat.le_refl 1, Nat.le_refl 1⟩, hclock, rfl⟩
    have hadvance : TimerEvent.LeavesAlone 0xFFFFFFFF 0 (.supply false 100 1) := rfl
    exact .step (ih (by omega)) ⟨hadvance, hstep⟩

/-- The channel starts at the clock 2, and the clock 16 raises its interrupt for
the second time. -/
theorem interval_exact_supplied :
    IntervalCorrect 0xFFFFFFFF 2 3 2 0 (suppliedTimer 15) ∧
      taujIntno 0 0 ∈ (deviceSupplyClockTimer ⟨(suppliedTimer 15).clock, false, 100⟩
        (suppliedTimer 15).timers).2.2 := by
  have hleast : IsLeast {t | startedTimer.clock ≤ t ∧ (2 : BitVec 32).toNat ∣ t} 2 := by
    refine ⟨⟨by decide, by decide⟩, ?_⟩
    rintro t ⟨hle, hdvd⟩
    have hone : 1 ≤ t := hle
    have htwo : 2 ∣ t := hdvd
    omega
  have hcommand : timerCommand 0xFFFFFFFF (taujTs 0) 1 = some (0, 0, .ready) := by decide
  have hcorrect : IntervalCorrect 0xFFFFFFFF 2 3 2 0 (suppliedTimer 15) :=
    interval_exact (by decide) reachable_comparedTimer hcommand rfl hleast
      (reachable_suppliedTimer (by decide))
  exact ⟨hcorrect, (hcorrect.raises false 100).mpr ⟨1, clock_suppliedTimer 15⟩⟩

end Athrill
