import Athrill.Can.Register

/-!
# Coherence of the global mode and the channel modes

A global transition sends an event to every channel and then takes its mode,
whether or not the channels followed: a channel with a running transfer only
notes that it has to wait.  Afterwards nothing ties a channel to the global
mode, because no event of a channel reads it.

* `Coherent`: the channels are where the global mode puts them.
* `BreaksCoherence`, `coherent_canModeEvent_iff`: the events that lose it.
* `coherent_of_guarded`: the runs without such an event.
-/

namespace Athrill

open CanModeGlobal

/-- The channels are where the global mode puts them. -/
structure Coherent (gmode : CanModeGlobal) : Prop where
  stop : gmode.mode = .stop → ∀ cid, (gmode.channel cid).mode = .stop
  reset : gmode.mode = .reset →
    ∀ cid, (gmode.channel cid).mode = .stop ∨ (gmode.channel cid).mode = .reset
  test : gmode.mode = .test → ∀ cid, (gmode.channel cid).mode ≠ .comm

/-- The events that lose the coherence: one that takes a channel out of a mode
that the controller prescribes, and the test mode during a transfer. -/
def BreaksCoherence (event : CanModeEvent) (gmode : CanModeGlobal) : Prop :=
  match event with
  | .channel _ .clrStop => gmode.mode = .stop
  | .channel cid .setComm =>
    (gmode.mode = .reset ∧ (gmode.channel cid).mode = .reset) ∨
      (gmode.mode = .test ∧
        ((gmode.channel cid).mode = .reset ∨ (gmode.channel cid).mode = .wait))
  | .channel cid .setWait => gmode.mode = .reset ∧ (gmode.channel cid).mode = .reset
  | .global .setTest =>
    gmode.mode = .run ∧
      ∃ cid, (gmode.channel cid).mode = .comm ∧ (gmode.channel cid).commMode ≠ .idle
  | _ => False

/-! ## Phases -/

/-- The channel modes that a global mode allows. -/
def AllowedIn (mode : GlobalMode) (channelMode : ChannelMode) : Prop :=
  match mode with
  | .stop => channelMode = .stop
  | .reset => channelMode = .stop ∨ channelMode = .reset
  | .test => channelMode ≠ .comm
  | .run => True

theorem Represents.coherent_iff {p : ControllerPhase} {gmode : CanModeGlobal}
    (h : Represents p gmode) : Coherent gmode ↔ ∀ cid, AllowedIn p.mode (p.channel cid).mode := by
  have hchannel (cid : CanChannelId) : (gmode.channel cid).mode = (p.channel cid).mode := by
    rw [h.channel, ChannelPhase.mode_record]
  constructor
  · intro hcoherent cid
    have hmode := h.mode
    cases hp : p.mode with
    | stop => exact hchannel cid ▸ hcoherent.stop (hmode.trans hp) cid
    | reset => exact hchannel cid ▸ hcoherent.reset (hmode.trans hp) cid
    | test => exact hchannel cid ▸ hcoherent.test (hmode.trans hp) cid
    | run => trivial
  · intro hallowed
    have hmode (m : GlobalMode) (hm : gmode.mode = m) (cid : CanChannelId) :
        AllowedIn m (gmode.channel cid).mode := by
      rw [← hm, h.mode, hchannel]
      exact hallowed cid
    exact ⟨hmode .stop, hmode .reset, hmode .test⟩

/-- The events of a channel that lose the coherence, for its phase. -/
def BreaksPhase (event : CanModeChannelEvent) (mode : GlobalMode) (phase : ChannelPhase) : Prop :=
  match event with
  | .clrStop => mode = .stop
  | .setComm =>
    (mode = .reset ∧ phase.mode = .reset) ∨
      (mode = .test ∧ (phase.mode = .reset ∨ phase.mode = .wait))
  | .setWait => mode = .reset ∧ phase.mode = .reset
  | _ => False

theorem allowedIn_step_iff {mode : GlobalMode} {phase : ChannelPhase}
    (event : CanModeChannelEvent) (h : AllowedIn mode phase.mode) :
    AllowedIn mode (phase.step event).mode ↔ ¬ BreaksPhase event mode phase := by
  cases mode with
  | stop =>
    have hphase : phase = .stop := by
      cases phase <;> simp_all [AllowedIn, ChannelPhase.mode]
    subst hphase
    cases event <;> simp [AllowedIn, BreaksPhase, ChannelPhase.step, ChannelPhase.mode]
  | reset =>
    have hphase : phase = .stop ∨ phase = .reset := by
      cases phase <;> simp_all [AllowedIn, ChannelPhase.mode]
    rcases hphase with rfl | rfl <;> cases event <;>
      simp [AllowedIn, BreaksPhase, ChannelPhase.step, ChannelPhase.mode]
  | run => cases event <;> simp [AllowedIn, BreaksPhase]
  | test =>
    have hphase : phase = .stop ∨ phase = .reset ∨ phase = .wait := by
      cases phase <;> simp_all [AllowedIn, ChannelPhase.mode]
    rcases hphase with rfl | rfl | rfl <;> cases event <;>
      simp [AllowedIn, BreaksPhase, ChannelPhase.step, ChannelPhase.mode]

/-- An event of a channel. -/
theorem allowedIn_channel_iff {p : ControllerPhase}
    (h : ∀ cid, AllowedIn p.mode (p.channel cid).mode) (index : CanChannelId)
    (event : CanModeChannelEvent) :
    (∀ cid, AllowedIn (p.step (.channel index event)).mode
        ((p.step (.channel index event)).channel cid).mode) ↔
      ¬ BreaksPhase event p.mode (p.channel index) := by
  have hindex := allowedIn_step_iff event (h index)
  rw [← hindex]
  constructor
  · intro hall
    have hself := hall index
    simp only [ControllerPhase.step, Function.update_self] at hself
    exact hself
  · intro hself cid
    by_cases hcid : cid = index
    · subst hcid
      simp only [ControllerPhase.step, Function.update_self]
      exact hself
    · simp only [ControllerPhase.step, Function.update_of_ne hcid]
      exact h cid

/-- A transfer is what keeps a channel from waiting at once. -/
theorem mode_step_setWait (phase : ChannelPhase) (cid : CanChannelId) :
    (phase.step .setWait).mode = .comm ↔
      (phase.record cid).mode = .comm ∧ (phase.record cid).commMode ≠ .idle := by
  cases phase <;>
    simp [ChannelPhase.step, ChannelPhase.mode, ChannelPhase.record]

/-- Stopped and reset channels stop, and every channel can be reset. -/
theorem allowedIn_setStop {phase : ChannelPhase} (h : AllowedIn .reset phase.mode) :
    AllowedIn .stop (phase.step .setStop).mode := by
  cases phase <;> simp_all [AllowedIn, ChannelPhase.step, ChannelPhase.mode]

theorem allowedIn_setReset (phase : ChannelPhase) :
    AllowedIn .reset (phase.step .setReset).mode := by
  cases phase <;> simp [AllowedIn, ChannelPhase.step, ChannelPhase.mode]

/-- An event of the controller. -/
theorem allowedIn_global_iff {p : ControllerPhase}
    (h : ∀ cid, AllowedIn p.mode (p.channel cid).mode) (event : CanModeGlobalEvent) :
    (∀ cid, AllowedIn (p.step (.global event)).mode
        ((p.step (.global event)).channel cid).mode) ↔
      ¬ (event = .setTest ∧ p.mode = .run ∧
        ∃ cid, ((p.channel cid).step .setWait).mode = .comm) := by
  unfold ControllerPhase.step
  cases event with
  | clrStop =>
    by_cases hp : p.mode = .stop
    · rw [if_pos hp]
      rw [hp] at h
      simp only [ControllerPhase.enter, reduceCtorEq, false_and, not_false_iff, iff_true]
      exact fun cid => Or.inl (h cid)
    · rw [if_neg hp]
      simp [h]
  | setStop =>
    by_cases hp : p.mode = .reset
    · rw [if_pos hp]
      rw [hp] at h
      simp only [ControllerPhase.enter, reduceCtorEq, false_and, not_false_iff, iff_true]
      exact fun cid => allowedIn_setStop (h cid)
    · rw [if_neg hp]
      simp [h]
  | setRun =>
    by_cases hp : p.mode = .test ∨ p.mode = .reset
    · rw [if_pos hp]
      simp only [ControllerPhase.enter, reduceCtorEq, false_and, not_false_iff, iff_true]
      exact fun _ => trivial
    · rw [if_neg hp]
      simp [h]
  | setReset =>
    by_cases hp : p.mode = .run ∨ p.mode = .test
    · rw [if_pos hp]
      simp only [ControllerPhase.enter, reduceCtorEq, false_and, not_false_iff, iff_true]
      exact fun cid => allowedIn_setReset (p.channel cid)
    · rw [if_neg hp]
      simp [h]
  | setTest =>
    by_cases hp : p.mode = .reset ∨ p.mode = .run
    · rw [if_pos hp]
      simp only [ControllerPhase.enter, true_and]
      show (∀ cid, ((p.channel cid).step .setWait).mode ≠ .comm) ↔ _
      rcases hp with hp | hp
      · -- without a transfer in any channel
        rw [hp] at h
        have hnone (cid : CanChannelId) : ((p.channel cid).step .setWait).mode ≠ .comm := by
          have hcid := h cid
          revert hcid
          cases p.channel cid <;> simp [AllowedIn, ChannelPhase.step, ChannelPhase.mode]
        simp [hp, hnone]
      · simp [hp]
    · rw [if_neg hp]
      have hrun : p.mode ≠ .run := fun hc => hp (Or.inr hc)
      simp [h, hrun]

/-- An event keeps the coherence exactly when it is not one of those that lose
it. -/
theorem coherent_canModeEvent_iff {p : ControllerPhase} {gmode : CanModeGlobal}
    (hp : Represents p gmode) (h : Coherent gmode) (event : CanModeEvent) :
    Coherent (canModeEvent event gmode) ↔ ¬ BreaksCoherence event gmode := by
  have hallowed := hp.coherent_iff.mp h
  rw [(represents_canModeEvent hp event).coherent_iff]
  cases event with
  | channel index event =>
    rw [allowedIn_channel_iff hallowed]
    have hmode : (gmode.channel index).mode = (p.channel index).mode := by
      rw [hp.channel, ChannelPhase.mode_record]
    cases event <;> simp only [BreaksPhase, BreaksCoherence, hp.mode, hmode]
  | global event =>
    rw [allowedIn_global_iff hallowed]
    cases event with
    | setTest =>
      have htransfer : (∃ cid, ((p.channel cid).step .setWait).mode = .comm) ↔
          ∃ cid, (gmode.channel cid).mode = .comm ∧ (gmode.channel cid).commMode ≠ .idle := by
        simp only [hp.channel]
        exact exists_congr fun cid => mode_step_setWait (p.channel cid) cid
      simp only [BreaksCoherence, true_and, hp.mode, htransfer]
    | _ => simp [BreaksCoherence]

/-! ## Runs of the device -/

/-- No event of a sequence loses the coherence at the point where it arrives. -/
def KeepCoherence : List CanModeEvent → CanModeGlobal → Prop
  | [], _ => True
  | event :: events, gmode =>
    ¬ BreaksCoherence event gmode ∧ KeepCoherence events (canModeEvent event gmode)

theorem coherent_canModeEvents {p : ControllerPhase} {gmode : CanModeGlobal}
    (hp : Represents p gmode) (h : Coherent gmode) {events : List CanModeEvent}
    (hkeep : KeepCoherence events gmode) : Coherent (canModeEvents events gmode) := by
  induction events generalizing p gmode with
  | nil => exact h
  | cons event events ih =>
    have hnext := (coherent_canModeEvent_iff hp h event).mpr hkeep.1
    exact ih (represents_canModeEvent hp event) hnext hkeep.2

/-- The channels work only while every mode is allowed. -/
theorem allowedIn_clock {p : ControllerPhase} (h : ∀ cid, AllowedIn p.mode (p.channel cid).mode)
    (bus : CanBusInput) (cid : CanChannelId) :
    AllowedIn (p.clock bus).mode ((p.clock bus).channel cid).mode := by
  unfold ControllerPhase.clock
  by_cases hp : p.mode ≠ .run
  · rw [if_pos hp]
    exact h cid
  · rw [if_neg hp]
    show AllowedIn p.mode _
    rw [not_not.mp hp]
    trivial

instance (event : CanModeEvent) (gmode : CanModeGlobal) :
    Decidable (BreaksCoherence event gmode) :=
  match event with
  | .channel _ .clrStop => inferInstanceAs (Decidable (_ = _))
  | .channel _ .setComm => inferInstanceAs (Decidable (_ ∨ _))
  | .channel _ .setWait => inferInstanceAs (Decidable (_ ∧ _))
  | .global .setTest => inferInstanceAs (Decidable (_ ∧ _))
  | .channel _ .setStop | .channel _ .setReset | .channel _ .commTxStart
  | .channel _ .commTxDone | .channel _ .commRxStart | .channel _ .commRxDone
  | .global .clrStop | .global .setStop | .global .setRun | .global .setReset => isFalse id

instance decidableKeepCoherence : (events : List CanModeEvent) → (gmode : CanModeGlobal) →
    Decidable (KeepCoherence events gmode)
  | [], _ => isTrue trivial
  | event :: events, gmode =>
    have := decidableKeepCoherence events (canModeEvent event gmode)
    inferInstanceAs (Decidable (_ ∧ _))

/-- The steps of the device whose events all keep the coherence. -/
def StepKeepsCoherence (access : CanAccess) (d : CanDevice) : Prop :=
  match access with
  | .put size address data => KeepCoherence (d.sentEvents size address data) d.modeGlobal
  | .get _ _ | .clock _ => True

/-- In the runs in which no write sends an event that loses the coherence, the
modes are coherent in every state. -/
theorem coherent_of_guarded {d : CanDevice}
    (h : (canDevice.guarded StepKeepsCoherence).Reachable d) : Coherent d.modeGlobal := by
  have hinv : (canDevice.guarded StepKeepsCoherence).Invariant fun d =>
      (∃ p, Represents p d.modeGlobal) ∧ Coherent d.modeGlobal := by
    refine (represents_device_invariant.guarded StepKeepsCoherence).strengthen ?_ ?_
    · rintro d ⟨⟨gmode, hd⟩, -⟩
      rw [hd, (represents_canReset gmode).coherent_iff]
      exact fun _ => rfl
    · rintro access d _ ⟨p, hp⟩ hcoherent ⟨hkeep, rfl⟩
      cases access with
      | put size address data =>
        rw [(represents_step hp (.put size address data)).coherent_iff]
        show ∀ cid, AllowedIn (p.events _).mode ((p.events _).channel cid).mode
        rw [← (represents_canModeEvents hp _).coherent_iff]
        exact coherent_canModeEvents hp hcoherent hkeep
      | get size address =>
        show Coherent (d.get address).modeGlobal
        rw [CanDevice.modeGlobal_get]
        exact hcoherent
      | clock bus =>
        rw [(represents_step hp (.clock bus)).coherent_iff]
        exact allowedIn_clock (hp.coherent_iff.mp hcoherent) bus
  exact (hinv.of_reachable h).2

/-- The controller starts, channel 0 starts to communicate, and the controller
goes back to its reset mode. -/
def startAndReset : List CanAccess :=
  [.put .word 0x88 1, .put .word 0x88 0, .put .word 0x04 1, .put .word 0x04 0,
    .put .word 0x88 1]

theorem coherent_of_guarded_reset : Coherent (resetCan.run startAndReset).modeGlobal := by
  have hmeets : TransitionSystem.Meets CanDevice.step StepKeepsCoherence startAndReset resetCan := by
    refine ⟨?_, ?_, ?_, ?_, ?_, trivial⟩ <;>
      (unfold StepKeepsCoherence; decide +kernel)
  have hinit : (canDevice.guarded StepKeepsCoherence).Reachable resetCan :=
    .init resetCan_initial
  exact coherent_of_guarded (hinit.foldl (fun _ _ => rfl) startAndReset hmeets)

/-- The first write to the control register of channel 0 takes the channel out
of its stop mode although the controller is still stopped. -/
theorem not_coherent : ¬ ∀ d, canDevice.Reachable d → Coherent d.modeGlobal := by
  intro h
  have hreach : canDevice.Reachable (resetCan.step (.put .word 0x04 1)) :=
    .step (.init resetCan_initial) rfl
  have hstop := (h _ hreach).stop (by decide +kernel) 0
  revert hstop
  decide +kernel

end Athrill
