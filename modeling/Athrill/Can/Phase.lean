import Athrill.Can.Mode
import Athrill.Lib.Run
import Mathlib.Data.List.FinRange

/-!
# The phases of the CAN controller

The record of a channel says its mode four times: in the mode, in the state of
the communication, in the status flags and in the control bits.  Only eight of
its values occur.  `ChannelPhase` lists them, with a transition table, and
`ControllerPhase` puts the phases of the channels beside the mode of the
controller.  The records follow the table, from the initialisation on.

* `ChannelPhase`, `ControllerPhase`: the abstract states and their steps.
* `Represents`: a controller in a given phase.
* `represents_canReset`, `represents_canModeEvent`: the refinement.
* `canTables_of_reachable`: what the flags and the control bits say.
-/

namespace Athrill

open CanModeGlobal

/-! ## Phases -/

/-- What a channel does.  A transfer may have to finish before the channel
starts to wait. -/
inductive ChannelPhase where
  | stop | reset | wait | idle
  | rx (waiting : Bool)
  | tx (waiting : Bool)
  deriving DecidableEq, Repr

namespace ChannelPhase

/-- The mode of a phase. -/
def mode : ChannelPhase → ChannelMode
  | stop => .stop
  | reset => .reset
  | wait => .wait
  | idle | rx _ | tx _ => .comm

/-- The record of a channel in a phase. -/
def record (cid : CanChannelId) : ChannelPhase → CanModeChannel
  | stop =>
    { cid := cid, mode := .stop, commMode := .idle
      ctrl := { stop := true, selectMode := canModeChannelModeReset }
      status := ⟨false, false, false, true, false, true⟩ }
  | reset =>
    { cid := cid, mode := .reset, commMode := .idle
      ctrl := { stop := false, selectMode := canModeChannelModeReset }
      status := ⟨false, false, false, false, false, true⟩ }
  | wait =>
    { cid := cid, mode := .wait, commMode := .idle
      ctrl := { stop := false, selectMode := canModeChannelModeWait }
      status := ⟨false, false, false, false, true, false⟩ }
  | idle =>
    { cid := cid, mode := .comm, commMode := .idle
      ctrl := { stop := false, selectMode := canModeChannelModeComm }
      status := ⟨true, false, false, false, false, false⟩ }
  | rx waiting =>
    { cid := cid, mode := .comm, commMode := .rx
      ctrl :=
        { stop := false
          selectMode := if waiting then canModeChannelModeWait else canModeChannelModeComm }
      status := ⟨true, true, false, false, false, false⟩ }
  | tx waiting =>
    { cid := cid, mode := .comm, commMode := .tx
      ctrl :=
        { stop := false
          selectMode := if waiting then canModeChannelModeWait else canModeChannelModeComm }
      status := ⟨true, false, true, false, false, false⟩ }

@[simp] theorem mode_record (cid : CanChannelId) (phase : ChannelPhase) :
    (phase.record cid).mode = phase.mode := by
  cases phase <;> rfl

@[simp] theorem cid_record (cid : CanChannelId) (phase : ChannelPhase) :
    (phase.record cid).cid = cid := by
  cases phase <;> rfl

/-- The transition table. -/
def step : CanModeChannelEvent → ChannelPhase → ChannelPhase
  | .clrStop, stop => reset
  | .setStop, reset => stop
  | .setComm, reset => idle
  | .setComm, wait => idle
  | .setReset, wait => reset
  | .setReset, idle => reset
  | .setReset, rx _ => reset
  | .setReset, tx _ => reset
  | .setWait, reset => wait
  | .setWait, idle => wait
  | .setWait, rx _ => rx true
  | .setWait, tx _ => tx true
  | .commTxStart, idle => tx false
  | .commTxDone, tx waiting => if waiting then wait else idle
  | .commRxStart, idle => rx false
  | .commRxDone, rx waiting => if waiting then wait else idle
  | _, phase => phase

end ChannelPhase

/-- The mode of the controller and the phases of the channels. -/
structure ControllerPhase where
  mode : GlobalMode
  channel : CanChannelId → ChannelPhase

namespace ControllerPhase

/-- The phase after the initialisation. -/
def initial : ControllerPhase where
  mode := .stop
  channel _ := .stop

/-- A global transition: the new mode, and the event that every channel gets. -/
def enter (mode : GlobalMode) (event : Option CanModeChannelEvent) (p : ControllerPhase) :
    ControllerPhase where
  mode := mode
  channel cid :=
    match event with
    | some event => (p.channel cid).step event
    | none => p.channel cid

/-- The transitions of the controller and of its channels. -/
def step (event : CanModeEvent) (p : ControllerPhase) : ControllerPhase :=
  match event with
  | .channel index event =>
    { p with channel := Function.update p.channel index ((p.channel index).step event) }
  | .global .clrStop => if p.mode = .stop then p.enter .reset none else p
  | .global .setStop => if p.mode = .reset then p.enter .stop (some .setStop) else p
  | .global .setRun => if p.mode = .test ∨ p.mode = .reset then p.enter .run none else p
  | .global .setReset =>
    if p.mode = .run ∨ p.mode = .test then p.enter .reset (some .setReset) else p
  | .global .setTest =>
    if p.mode = .reset ∨ p.mode = .run then p.enter .test (some .setWait) else p

end ControllerPhase

/-- The mode select field of the controller in a mode. -/
def globalSelectMode : GlobalMode → BitVec 8
  | .stop | .reset => canModeGlobalModeReset
  | .run => canModeGlobalModeRun
  | .test => canModeGlobalModeWait

/-- The records of a controller in a phase. -/
structure Represents (p : ControllerPhase) (gmode : CanModeGlobal) : Prop where
  mode : gmode.mode = p.mode
  stop : gmode.ctrl.stop = decide (p.mode = .stop)
  selectMode : gmode.ctrl.selectMode = globalSelectMode p.mode
  gslpsts : gmode.status.gslpsts = decide (p.mode = .stop)
  ghltsts : gmode.status.ghltsts = decide (p.mode = .test)
  grststs : gmode.status.grststs = decide (p.mode = .stop ∨ p.mode = .reset)
  channel : ∀ cid, gmode.channel cid = (p.channel cid).record cid

/-! ## Loops over the channels -/

namespace CanModeGlobal

/-- A loop whose body replaces the record of its channel, for the channels of a
list without repetitions. -/
theorem foldl_modifyChannel {f : CanChannelId → CanModeGlobal → CanModeGlobal}
    (pre : CanChannelId → CanModeChannel → Prop) {new : CanChannelId → CanModeChannel}
    (hf : ∀ cid gmode, pre cid (gmode.channel cid) →
      f cid gmode = gmode.modifyChannel cid fun _ => new cid)
    (cids : List CanChannelId) (hnodup : cids.Nodup) (gmode : CanModeGlobal)
    (hpre : ∀ cid ∈ cids, pre cid (gmode.channel cid)) :
    cids.foldl (fun g cid => f cid g) gmode =
      { gmode with channel := fun cid => if cid ∈ cids then new cid else gmode.channel cid } := by
  induction cids generalizing gmode with
  | nil => simp
  | cons cid cids ih =>
    have hnot : cid ∉ cids := (List.nodup_cons.mp hnodup).1
    have hne {c : CanChannelId} (hc : c ∈ cids) : c ≠ cid := fun h => hnot (h ▸ hc)
    have hrest : ∀ c ∈ cids, pre c ((gmode.modifyChannel cid fun _ => new cid).channel c) := by
      intro c hc
      rw [modifyChannel_channel_of_ne (hne hc)]
      exact hpre c (List.mem_cons_of_mem cid hc)
    rw [List.foldl_cons, hf cid gmode (hpre cid List.mem_cons_self),
      ih (List.nodup_cons.mp hnodup).2 _ hrest]
    simp only [modifyChannel, CanModeGlobal.mk.injEq, true_and]
    funext c
    by_cases hc : c = cid
    · subst hc
      simp [hnot]
    · simp [hc]

/-- The same for the loop over all channels. -/
theorem forChannels_eq {f : CanChannelId → CanModeGlobal → CanModeGlobal}
    (pre : CanChannelId → CanModeChannel → Prop) {new : CanChannelId → CanModeChannel}
    (hf : ∀ cid gmode, pre cid (gmode.channel cid) →
      f cid gmode = gmode.modifyChannel cid fun _ => new cid)
    (gmode : CanModeGlobal) (hpre : ∀ cid, pre cid (gmode.channel cid)) :
    gmode.forChannels f = { gmode with channel := new } := by
  rw [forChannels, foldl_modifyChannel pre hf _ (List.nodup_finRange _) gmode fun cid _ => hpre cid]
  simp [List.mem_finRange]

end CanModeGlobal

/-- The global reset leaves the channels alone. -/
theorem canModeGlobalReset_eq (gmode : CanModeGlobal) :
    canModeGlobalReset gmode = canRegisterResetGlobal .globalReset gmode := by
  have hloop (cids : List CanChannelId) (g : CanModeGlobal) :
      cids.foldl (fun g cid => canRegisterResetChannel .globalReset cid g) g = g := by
    induction cids with
    | nil => rfl
    | cons cid cids ih => exact ih
  exact hloop _ _

/-! ## The refinement -/

/-- A step of a channel whose record is known. -/
theorem modifyChannel_of_eq {index : CanChannelId} {cmode : CanModeChannel}
    {gmode : CanModeGlobal} (f : CanModeChannel → CanModeChannel)
    (h : gmode.channel index = cmode) :
    gmode.modifyChannel index f = gmode.modifyChannel index fun _ => f cmode := by
  rw [modifyChannel, modifyChannel, h]

/-- An event that a channel ignores. -/
theorem modifyChannel_same {index : CanChannelId} {cmode : CanModeChannel}
    {gmode : CanModeGlobal} (h : gmode.channel index = cmode) :
    gmode.modifyChannel index (fun _ => cmode) = gmode := by
  rw [modifyChannel, ← h, Function.update_eq_self]

/-- A transition in which the registers of the channel are reset. -/
theorem modifyChannel_reset {index : CanChannelId} {cmode : CanModeChannel}
    {gmode : CanModeGlobal} (before after : CanModeChannel → CanModeChannel)
    (h : gmode.channel index = cmode) (hcid : (before cmode).cid = index) :
    (canModeChannelReset ((gmode.modifyChannel index before).channel index).cid
        (gmode.modifyChannel index before)).modifyChannel index after =
      gmode.modifyChannel index fun _ => after
        { before cmode with
          mode := .stop
          ctrl := { (before cmode).ctrl with selectMode := canModeChannelModeReset }
          status :=
            { (before cmode).status with canComm := false, receiving := false, sending := false
                                         modeWait := false } } := by
  rw [modifyChannel_channel_self, h, hcid, canModeChannelReset, canRegisterResetChannel,
    modifyChannel_modifyChannel, modifyChannel_modifyChannel, modifyChannel_of_eq _ h]
  rfl

/-- A channel follows the transition table, and no other channel moves. -/
theorem canModeChannelEvent_eq {index : CanChannelId} {phase : ChannelPhase}
    {gmode : CanModeGlobal} (event : CanModeChannelEvent)
    (h : gmode.channel index = phase.record index) :
    canModeChannelEvent index event gmode =
      gmode.modifyChannel index fun _ => (phase.step event).record index := by
  have hmode : (gmode.channel index).mode = phase.mode := by
    rw [h, ChannelPhase.mode_record]
  have hignored := modifyChannel_same h
  cases event with
  | clrStop =>
    show canModeChannelEventClrStop index gmode = _
    rw [canModeChannelEventClrStop, hmode]
    cases phase with
    | stop => exact modifyChannel_reset _ _ h rfl
    | _ => exact hignored.symm
  | setStop =>
    show canModeChannelEventSetStop index gmode = _
    rw [canModeChannelEventSetStop, hmode]
    cases phase with
    | reset => exact modifyChannel_of_eq _ h
    | _ => exact hignored.symm
  | setComm =>
    show canModeChannelEventSetComm index gmode = _
    rw [canModeChannelEventSetComm, hmode]
    cases phase with
    | reset => exact modifyChannel_of_eq _ h
    | wait => exact modifyChannel_of_eq _ h
    | _ => exact hignored.symm
  | setReset =>
    show canModeChannelEventSetReset index gmode = _
    rw [canModeChannelEventSetReset, hmode]
    cases phase with
    | stop => exact hignored.symm
    | reset => exact hignored.symm
    | _ => exact modifyChannel_reset _ _ h rfl
  | setWait =>
    show canModeChannelEventSetWait index gmode = _
    rw [canModeChannelEventSetWait, hmode]
    cases phase with
    | stop => exact hignored.symm
    | wait => exact hignored.symm
    | _ => exact modifyChannel_of_eq _ h
  | commTxStart =>
    show canModeChannelEventCommTxStart index gmode = _
    rw [canModeChannelEventCommTxStart, hmode]
    cases phase with
    | stop => exact hignored.symm
    | reset => exact hignored.symm
    | wait => exact hignored.symm
    | _ => exact modifyChannel_of_eq _ h
  | commTxDone =>
    show canModeChannelEventCommTxDone index gmode = _
    rw [canModeChannelEventCommTxDone, hmode]
    cases phase with
    | stop => exact hignored.symm
    | reset => exact hignored.symm
    | wait => exact hignored.symm
    | tx waiting => cases waiting <;> exact modifyChannel_of_eq _ h
    | _ => exact modifyChannel_of_eq _ h
  | commRxStart =>
    show canModeChannelEventCommRxStart index gmode = _
    rw [canModeChannelEventCommRxStart, hmode]
    cases phase with
    | stop => exact hignored.symm
    | reset => exact hignored.symm
    | wait => exact hignored.symm
    | _ => exact modifyChannel_of_eq _ h
  | commRxDone =>
    show canModeChannelEventCommRxDone index gmode = _
    rw [canModeChannelEventCommRxDone, hmode]
    cases phase with
    | stop => exact hignored.symm
    | reset => exact hignored.symm
    | wait => exact hignored.symm
    | rx waiting => cases waiting <;> exact modifyChannel_of_eq _ h
    | _ => exact modifyChannel_of_eq _ h

/-- An event for every channel. -/
theorem forChannels_canModeChannelEvent {p : ControllerPhase} (event : CanModeChannelEvent)
    (gmode : CanModeGlobal) (h : ∀ cid, gmode.channel cid = (p.channel cid).record cid) :
    gmode.forChannels (fun cid => canModeChannelEvent cid event) =
      { gmode with channel := fun cid => ((p.channel cid).step event).record cid } :=
  forChannels_eq (fun cid cmode => cmode = (p.channel cid).record cid)
    (fun _ _ hcid => canModeChannelEvent_eq event hcid) gmode h

/-- The initialisation. -/
theorem represents_canReset (gmode : CanModeGlobal) :
    Represents ControllerPhase.initial (canReset gmode) := by
  have hloop : canReset gmode =
      { canRegisterResetGlobal .mcuReset gmode with
        channel := fun cid => ChannelPhase.stop.record cid } :=
    forChannels_eq (fun _ _ => True) (fun _ _ _ => rfl) _ fun _ => trivial
  rw [hloop]
  exact ⟨rfl, rfl, rfl, rfl, rfl, rfl, fun _ => rfl⟩

/-- An event of a channel. -/
theorem represents_channel {p : ControllerPhase} {gmode : CanModeGlobal} (h : Represents p gmode)
    (index : CanChannelId) (event : CanModeChannelEvent) :
    Represents (p.step (.channel index event)) (canModeChannelEvent index event gmode) := by
  rw [canModeChannelEvent_eq event (h.channel index)]
  refine ⟨h.mode, h.stop, h.selectMode, h.gslpsts, h.ghltsts, h.grststs, fun cid => ?_⟩
  by_cases hcid : cid = index
  · subst hcid
    rw [modifyChannel_channel_self]
    simp only [ControllerPhase.step, Function.update_self]
  · rw [modifyChannel_channel_of_ne hcid, h.channel cid]
    simp only [ControllerPhase.step, Function.update_of_ne hcid]

/-- An event of the controller. -/
theorem represents_global {p : ControllerPhase} {gmode : CanModeGlobal} (h : Represents p gmode)
    (event : CanModeGlobalEvent) :
    Represents (p.step (.global event)) (canModeGlobalEvent event gmode) := by
  have hmode := h.mode
  cases event with
  | clrStop =>
    show Represents _ (canModeGlobalEventClrStop gmode)
    rw [canModeGlobalEventClrStop, ControllerPhase.step]
    simp only [canModeGlobalReset_eq]
    cases hp : p.mode with
    | stop =>
      rw [hmode, hp, if_pos rfl]
      refine ⟨rfl, rfl, ?_, rfl, rfl, rfl, h.channel⟩
      exact h.selectMode.trans (by rw [hp]; rfl)
    | _ =>
      rw [hmode, hp]
      exact h
  | setStop =>
    show Represents _ (canModeGlobalEventSetStop gmode)
    rw [canModeGlobalEventSetStop, ControllerPhase.step]
    cases hp : p.mode with
    | reset =>
      rw [hmode, hp, if_pos rfl]
      have hloop := forChannels_canModeChannelEvent .setStop (gmode.setCtrlStop true)
        h.channel
      simp only [canModeGlobalChannelEvent, hloop]
      refine ⟨rfl, rfl, ?_, rfl, rfl, rfl, fun _ => rfl⟩
      exact h.selectMode.trans (by rw [hp]; rfl)
    | _ =>
      rw [hmode, hp]
      exact h
  | setRun =>
    show Represents _ (canModeGlobalEventSetRun gmode)
    rw [canModeGlobalEventSetRun, ControllerPhase.step]
    have hstop (hne : p.mode ≠ .stop) : gmode.ctrl.stop = false := by
      rw [h.stop, decide_eq_false hne]
    cases hp : p.mode with
    | test =>
      rw [hmode, hp, if_pos (Or.inl rfl)]
      exact ⟨rfl, hstop (by simp [hp]), rfl, rfl, rfl, rfl, h.channel⟩
    | reset =>
      rw [hmode, hp, if_pos (Or.inr rfl)]
      exact ⟨rfl, hstop (by simp [hp]), rfl, rfl, rfl, rfl, h.channel⟩
    | _ =>
      rw [hmode, hp]
      exact h
  | setReset =>
    show Represents _ (canModeGlobalEventSetReset gmode)
    rw [canModeGlobalEventSetReset, ControllerPhase.step]
    simp only [canModeGlobalReset_eq]
    have hstop (hne : p.mode ≠ .stop) : gmode.ctrl.stop = false := by
      rw [h.stop, decide_eq_false hne]
    have hloop := forChannels_canModeChannelEvent .setReset
      (gmode.setSelectMode canModeGlobalModeReset) h.channel
    cases hp : p.mode with
    | run =>
      rw [hmode, hp, if_pos (Or.inl rfl)]
      simp only [canModeGlobalChannelEvent, hloop]
      exact ⟨rfl, hstop (by simp [hp]), rfl, rfl, rfl, rfl, fun _ => rfl⟩
    | test =>
      rw [hmode, hp, if_pos (Or.inr rfl)]
      simp only [canModeGlobalChannelEvent, hloop]
      exact ⟨rfl, hstop (by simp [hp]), rfl, rfl, rfl, rfl, fun _ => rfl⟩
    | _ =>
      rw [hmode, hp]
      exact h
  | setTest =>
    show Represents _ (canModeGlobalEventSetTest gmode)
    rw [canModeGlobalEventSetTest, ControllerPhase.step]
    have hstop (hne : p.mode ≠ .stop) : gmode.ctrl.stop = false := by
      rw [h.stop, decide_eq_false hne]
    have hloop := forChannels_canModeChannelEvent .setWait
      (gmode.setSelectMode canModeGlobalModeWait) h.channel
    cases hp : p.mode with
    | reset =>
      rw [hmode, hp, if_pos (Or.inl rfl)]
      simp only [canModeGlobalChannelEvent, hloop]
      exact ⟨rfl, hstop (by simp [hp]), rfl, rfl, rfl, rfl, fun _ => rfl⟩
    | run =>
      rw [hmode, hp, if_pos (Or.inr rfl)]
      simp only [canModeGlobalChannelEvent, hloop]
      exact ⟨rfl, hstop (by simp [hp]), rfl, rfl, rfl, rfl, fun _ => rfl⟩
    | _ =>
      rw [hmode, hp]
      exact h

/-- Every event follows the table of the phases. -/
theorem represents_canModeEvent {p : ControllerPhase} {gmode : CanModeGlobal}
    (h : Represents p gmode) (event : CanModeEvent) :
    Represents (p.step event) (canModeEvent event gmode) := by
  cases event with
  | channel index event => exact represents_channel h index event
  | global event => exact represents_global h event

/-! ## Runs -/

/-- The controller from its initialisation on, under events in any order. -/
def canModes : TransitionSystem CanModeGlobal CanModeEvent where
  init gmode := ∃ gmode₀, gmode = canReset gmode₀
  step event gmode gmode' := gmode' = canModeEvent event gmode

/-- A reachable controller is in some phase. -/
theorem represents_invariant :
    canModes.Invariant fun gmode => ∃ p, Represents p gmode where
  init := by
    rintro _ ⟨gmode, rfl⟩
    exact ⟨_, represents_canReset gmode⟩
  step := by
    rintro event gmode _ ⟨p, hp⟩ rfl
    exact ⟨_, represents_canModeEvent hp event⟩

/-- What the record of a channel says about its mode. -/
structure ChannelTable (cmode : CanModeChannel) : Prop where
  comm : cmode.mode ≠ .comm → cmode.commMode = .idle
  status : cmode.status =
    match cmode.mode with
    | .stop => ⟨false, false, false, true, false, true⟩
    | .reset => ⟨false, false, false, false, false, true⟩
    | .wait => ⟨false, false, false, false, true, false⟩
    | .comm =>
      { canComm := true
        receiving := decide (cmode.commMode = .rx)
        sending := decide (cmode.commMode = .tx)
        modeStop := false
        modeWait := false
        modeReset := false }
  stop : cmode.ctrl.stop = true ↔ cmode.mode = .stop
  selectMode : cmode.commMode = .idle → cmode.ctrl.selectMode =
    match cmode.mode with
    | .stop | .reset => canModeChannelModeReset
    | .wait => canModeChannelModeWait
    | .comm => canModeChannelModeComm

/-- What the record of the controller says about its mode. -/
structure GlobalTable (gmode : CanModeGlobal) : Prop where
  gslpsts : gmode.status.gslpsts = true ↔ gmode.mode = .stop
  grststs : gmode.status.grststs = true ↔ gmode.mode = .stop ∨ gmode.mode = .reset
  ghltsts : gmode.status.ghltsts = true ↔ gmode.mode = .test
  stop : gmode.ctrl.stop = true ↔ gmode.mode = .stop

theorem ChannelPhase.channelTable (cid : CanChannelId) (phase : ChannelPhase) :
    ChannelTable (phase.record cid) := by
  cases phase with
  | rx waiting => exact ⟨by simp [record], rfl, by simp [record], by simp [record]⟩
  | tx waiting => exact ⟨by simp [record], rfl, by simp [record], by simp [record]⟩
  | _ => exact ⟨by simp [record], rfl, by simp [record], fun _ => rfl⟩

theorem Represents.globalTable {p : ControllerPhase} {gmode : CanModeGlobal}
    (h : Represents p gmode) : GlobalTable gmode where
  gslpsts := by rw [h.gslpsts, h.mode, decide_eq_true_iff]
  grststs := by rw [h.grststs, h.mode, decide_eq_true_iff]
  ghltsts := by rw [h.ghltsts, h.mode, decide_eq_true_iff]
  stop := by rw [h.stop, h.mode, decide_eq_true_iff]

/-- In every reachable state the communication state, the flags and the control
bits agree with the modes. -/
theorem canTables_of_reachable {gmode : CanModeGlobal} (h : canModes.Reachable gmode) :
    GlobalTable gmode ∧ ∀ cid, ChannelTable (gmode.channel cid) := by
  obtain ⟨p, hp⟩ := represents_invariant.of_reachable h
  refine ⟨hp.globalTable, fun cid => ?_⟩
  rw [hp.channel cid]
  exact (p.channel cid).channelTable cid

/-- The state after a sequence of events. -/
def canModeEvents (events : List CanModeEvent) (gmode : CanModeGlobal) : CanModeGlobal :=
  events.foldl (fun g event => canModeEvent event g) gmode

theorem reachable_canModeEvents {gmode : CanModeGlobal} (h : canModes.Reachable gmode)
    (events : List CanModeEvent) : canModes.Reachable (canModeEvents events gmode) := by
  induction events generalizing gmode with
  | nil => exact h
  | cons event events ih => exact ih (.step h rfl)

/-- A controller whose memory holds no model state yet. -/
def blankCan : CanModeGlobal where
  mode := .stop
  config := ⟨false, false⟩
  ctrl := ⟨false, false, false, false, 0⟩
  status := ⟨false, false, false, false⟩
  channel _ := ⟨0, .stop, .idle, ⟨false, 0⟩, ⟨false, false, false, false, false, false⟩⟩

/-- A channel in the middle of a transmission that is told to wait. -/
def waitingSender : List CanModeEvent :=
  [.global .clrStop, .global .setRun, .channel 2 .clrStop, .channel 2 .setComm,
    .channel 2 .commTxStart, .channel 2 .setWait]

theorem canTables_of_reachable_waitingSender :
    let gmode := canModeEvents waitingSender (canReset blankCan)
    GlobalTable gmode ∧ ∀ cid, ChannelTable (gmode.channel cid) :=
  canTables_of_reachable (reachable_canModeEvents (.init ⟨blankCan, rfl⟩) waitingSender)

end Athrill
