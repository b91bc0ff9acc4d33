import Athrill.Lib.Sizes
import Mathlib.Logic.Function.Basic

/-!
# The modes of the CAN controller

`can_mode_channel.c`, `can_mode_global.c` and the reset functions of the
register mapping that they call.  `can_mode_global` is one record with an array
of channels; a function that takes a pointer to one channel takes its index
here, because `can_mode_channel_reset` finds the channel again through the
number `cid` stored in it.

* `CanModeChannel`, `CanModeGlobal`: the records.
* `canReset`: the initialisation.
* `canModeChannelEvent`, `canModeGlobalEvent`: the transitions.

The resets of the buffers and of the reception rules touch neither record.
-/

namespace Athrill

/-! ## Records -/

/-- `ChannelModeType`. -/
inductive ChannelMode where
  | stop | reset | wait | comm
  deriving DecidableEq, Repr

/-- `ChannelModeCommType`. -/
inductive ChannelModeComm where
  | idle | rx | tx
  deriving DecidableEq, Repr

/-- `CAN_MODE_CHANNEL_MODE_COMM`. -/
def canModeChannelModeComm : BitVec 8 := 0

/-- `CAN_MODE_CHANNEL_MODE_RESET`. -/
def canModeChannelModeReset : BitVec 8 := 1

/-- `CAN_MODE_CHANNEL_MODE_WAIT`. -/
def canModeChannelModeWait : BitVec 8 := 2

/-- The `ctrl` part of a channel, `RSCANnCmCTR`. -/
structure ChannelCtrl where
  stop : Bool
  selectMode : BitVec 8
  deriving DecidableEq, Repr

/-- The `status` part of a channel, `RSCANnCmSTS`. -/
structure ChannelStatus where
  canComm : Bool
  receiving : Bool
  sending : Bool
  modeStop : Bool
  modeWait : Bool
  modeReset : Bool
  deriving DecidableEq, Repr

/-- The number of channels, `CAN_CHANNEL_NUM`. -/
abbrev canChannelNum : Nat := 6

/-- `CanChannelIdType`, the index of a channel. -/
abbrev CanChannelId := Fin canChannelNum

/-- `CanModeChannelType`. -/
structure CanModeChannel where
  cid : CanChannelId
  mode : ChannelMode
  commMode : ChannelModeComm
  ctrl : ChannelCtrl
  status : ChannelStatus
  deriving DecidableEq, Repr

/-- `GlobalModeType`. -/
inductive GlobalMode where
  | stop | reset | run | test
  deriving DecidableEq, Repr

/-- `CAN_MODE_GLOBAL_MODE_RUN`. -/
def canModeGlobalModeRun : BitVec 8 := 0

/-- `CAN_MODE_GLOBAL_MODE_RESET`. -/
def canModeGlobalModeReset : BitVec 8 := 1

/-- `CAN_MODE_GLOBAL_MODE_WAIT`. -/
def canModeGlobalModeWait : BitVec 8 := 2

/-- The `config` part of the controller, `RSCANnGCFG`. -/
structure GlobalConfig where
  enableDlcCheck : Bool
  enableTxBufnoFirst : Bool
  deriving DecidableEq, Repr

/-- The `ctrl` part of the controller, `RSCANnGCTR`. -/
structure GlobalCtrl where
  enableTxHistory : Bool
  enableDlcError : Bool
  enableFifoMsglost : Bool
  stop : Bool
  selectMode : BitVec 8
  deriving DecidableEq, Repr

/-- The `status` part of the controller, `RSCANnGSTS`. -/
structure GlobalStatus where
  gslpsts : Bool
  ghltsts : Bool
  grststs : Bool
  dlcError : Bool
  deriving DecidableEq, Repr

/-- `CanModeGlobalType`. -/
structure CanModeGlobal where
  mode : GlobalMode
  config : GlobalConfig
  ctrl : GlobalCtrl
  status : GlobalStatus
  channel : CanChannelId → CanModeChannel

namespace CanModeGlobal

/-- An assignment to fields of one channel. -/
def modifyChannel (cid : CanChannelId) (f : CanModeChannel → CanModeChannel)
    (gmode : CanModeGlobal) : CanModeGlobal :=
  { gmode with channel := Function.update gmode.channel cid (f (gmode.channel cid)) }

@[simp] theorem modifyChannel_channel_self (cid : CanChannelId)
    (f : CanModeChannel → CanModeChannel) (gmode : CanModeGlobal) :
    (gmode.modifyChannel cid f).channel cid = f (gmode.channel cid) :=
  Function.update_self ..

theorem modifyChannel_channel_of_ne {cid other : CanChannelId}
    {f : CanModeChannel → CanModeChannel} {gmode : CanModeGlobal} (h : other ≠ cid) :
    (gmode.modifyChannel cid f).channel other = gmode.channel other :=
  Function.update_of_ne h ..

theorem modifyChannel_modifyChannel (cid : CanChannelId) (f g : CanModeChannel → CanModeChannel)
    (gmode : CanModeGlobal) :
    (gmode.modifyChannel cid f).modifyChannel cid g = gmode.modifyChannel cid (g ∘ f) := by
  simp [modifyChannel]

/-- Repeating a step for every channel, `for (cid = 0; cid < CAN_CHANNEL_NUM; cid++)`. -/
def forChannels (f : CanChannelId → CanModeGlobal → CanModeGlobal) (gmode : CanModeGlobal) :
    CanModeGlobal :=
  (List.finRange canChannelNum).foldl (fun g cid => f cid g) gmode

end CanModeGlobal

open CanModeGlobal

/-! ## Resets -/

/-- `CanRegisterResetType`. -/
inductive CanRegisterResetType where
  | mcuReset | globalReset | channelReset
  deriving DecidableEq, Repr

/-- `can_register_reset_channel`. -/
def canRegisterResetChannel (type : CanRegisterResetType) (cid : CanChannelId)
    (gmode : CanModeGlobal) : CanModeGlobal :=
  match type with
  | .mcuReset =>
    gmode.modifyChannel cid fun _ =>
      { cid := cid
        mode := .stop
        commMode := .idle
        ctrl := { stop := true, selectMode := canModeChannelModeReset }
        status :=
          { canComm := false, receiving := false, sending := false, modeStop := true
            modeWait := false, modeReset := true } }
  | .globalReset => gmode
  | .channelReset =>
    gmode.modifyChannel cid fun c =>
      { c with
        mode := .stop
        ctrl := { c.ctrl with selectMode := canModeChannelModeReset }
        status :=
          { c.status with canComm := false, receiving := false, sending := false
                          modeWait := false } }

/-- `can_register_reset_global`. -/
def canRegisterResetGlobal (type : CanRegisterResetType) (gmode : CanModeGlobal) :
    CanModeGlobal :=
  match type with
  | .mcuReset =>
    { gmode with
      config := { enableDlcCheck := false, enableTxBufnoFirst := false }
      ctrl :=
        { gmode.ctrl with enableFifoMsglost := false, enableDlcError := false, stop := true
                          selectMode := canModeGlobalModeReset }
      mode := .stop
      status := { gmode.status with gslpsts := true, ghltsts := false, grststs := true } }
  | .globalReset =>
    { gmode with status := { gmode.status with dlcError := false, ghltsts := false } }
  | .channelReset => gmode

/-- `can_reset`. -/
def canReset (gmode : CanModeGlobal) : CanModeGlobal :=
  (canRegisterResetGlobal .mcuReset gmode).forChannels (canRegisterResetChannel .mcuReset)

/-- `can_mode_channel_reset`. -/
def canModeChannelReset (cid : CanChannelId) (gmode : CanModeGlobal) : CanModeGlobal :=
  canRegisterResetChannel .channelReset cid gmode

/-- `can_mode_globa_reset`. -/
def canModeGlobalReset (gmode : CanModeGlobal) : CanModeGlobal :=
  (canRegisterResetGlobal .globalReset gmode).forChannels (canRegisterResetChannel .globalReset)

/-! ## Events of a channel -/

/-- `CanModeChannelEventType`. -/
inductive CanModeChannelEvent where
  | clrStop | setStop | setComm | setReset | setWait
  | commTxStart | commTxDone | commRxStart | commRxDone
  deriving DecidableEq, Repr

namespace CanModeChannel

/-- `CAN_MODE_CHANNEL_COMM_MODE_SET_IDLE`. -/
def commModeSetIdle (cmode : CanModeChannel) : CanModeChannel :=
  { cmode with
    commMode := .idle
    status :=
      { canComm := true, sending := false, receiving := false, modeStop := false
        modeWait := false, modeReset := false } }

/-- `CAN_MODE_CHANNEL_COMM_MODE_SET_RX`. -/
def commModeSetRx (cmode : CanModeChannel) : CanModeChannel :=
  { cmode with
    commMode := .rx
    status :=
      { canComm := true, sending := false, receiving := true, modeStop := false
        modeWait := false, modeReset := false } }

/-- `CAN_MODE_CHANNEL_COMM_MODE_SET_TX`. -/
def commModeSetTx (cmode : CanModeChannel) : CanModeChannel :=
  { cmode with
    commMode := .tx
    status :=
      { canComm := true, sending := true, receiving := false, modeStop := false
        modeWait := false, modeReset := false } }

/-- The assignments that end a transition to a mode without communication. -/
def enter (mode : ChannelMode) (modeStop modeReset modeWait : Bool) (cmode : CanModeChannel) :
    CanModeChannel :=
  { cmode with
    mode := mode
    status :=
      { canComm := false, receiving := false, sending := false, modeStop := modeStop
        modeReset := modeReset, modeWait := modeWait } }

/-- `cmode->ctrl.stop = stop`. -/
def setCtrlStop (stop : Bool) (cmode : CanModeChannel) : CanModeChannel :=
  { cmode with ctrl := { cmode.ctrl with stop := stop } }

/-- `cmode->ctrl.select_mode = selectMode`. -/
def setSelectMode (selectMode : BitVec 8) (cmode : CanModeChannel) : CanModeChannel :=
  { cmode with ctrl := { cmode.ctrl with selectMode := selectMode } }

end CanModeChannel

open CanModeChannel

/-- `can_mode_channel_event_clr_stop`. -/
def canModeChannelEventClrStop (index : CanChannelId) (gmode : CanModeGlobal) : CanModeGlobal :=
  match (gmode.channel index).mode with
  | .stop =>
    let gmode := gmode.modifyChannel index (setCtrlStop false)
    let gmode := canModeChannelReset (gmode.channel index).cid gmode
    gmode.modifyChannel index (enter .reset false true false)
  | _ => gmode

/-- `can_mode_channel_event_set_stop`. -/
def canModeChannelEventSetStop (index : CanChannelId) (gmode : CanModeGlobal) : CanModeGlobal :=
  match (gmode.channel index).mode with
  | .reset =>
    gmode.modifyChannel index fun cmode => (cmode.setCtrlStop true).enter .stop true true false
  | _ => gmode

/-- `can_mode_channel_event_set_comm`. -/
def canModeChannelEventSetComm (index : CanChannelId) (gmode : CanModeGlobal) : CanModeGlobal :=
  match (gmode.channel index).mode with
  | .reset | .wait =>
    gmode.modifyChannel index fun cmode =>
      ({ cmode with mode := .comm }.setSelectMode canModeChannelModeComm).commModeSetIdle
  | _ => gmode

/-- `can_mode_channel_event_set_wait`: a running transfer delays the mode, not
the mode select field. -/
def canModeChannelEventSetWait (index : CanChannelId) (gmode : CanModeGlobal) : CanModeGlobal :=
  match (gmode.channel index).mode with
  | .reset | .comm =>
    gmode.modifyChannel index fun cmode =>
      let cmode := cmode.setSelectMode canModeChannelModeWait
      if cmode.commMode = .idle then cmode.enter .wait false false true else cmode
  | _ => gmode

/-- `can_mode_channel_event_set_reset`. -/
def canModeChannelEventSetReset (index : CanChannelId) (gmode : CanModeGlobal) : CanModeGlobal :=
  match (gmode.channel index).mode with
  | .comm | .wait =>
    let gmode := gmode.modifyChannel index (setSelectMode canModeChannelModeReset)
    let gmode := canModeChannelReset (gmode.channel index).cid gmode
    gmode.modifyChannel index fun cmode =>
      ({ cmode with mode := .reset }.commModeSetIdle).enter .reset false true false
  | _ => gmode

/-- `can_mode_channel_event_comm_tx_start`. -/
def canModeChannelEventCommTxStart (index : CanChannelId) (gmode : CanModeGlobal) :
    CanModeGlobal :=
  match (gmode.channel index).mode with
  | .comm =>
    gmode.modifyChannel index fun cmode =>
      if cmode.commMode = .idle then cmode.commModeSetTx else cmode
  | _ => gmode

/-- `can_mode_channel_event_comm_tx_done`. -/
def canModeChannelEventCommTxDone (index : CanChannelId) (gmode : CanModeGlobal) :
    CanModeGlobal :=
  match (gmode.channel index).mode with
  | .comm =>
    gmode.modifyChannel index fun cmode =>
      if cmode.commMode = .tx then
        let cmode := cmode.commModeSetIdle
        if cmode.ctrl.selectMode = canModeChannelModeWait then
          cmode.enter .wait false false true
        else cmode
      else cmode
  | _ => gmode

/-- `can_mode_channel_event_comm_rx_start`. -/
def canModeChannelEventCommRxStart (index : CanChannelId) (gmode : CanModeGlobal) :
    CanModeGlobal :=
  match (gmode.channel index).mode with
  | .comm =>
    gmode.modifyChannel index fun cmode =>
      if cmode.commMode = .idle then cmode.commModeSetRx else cmode
  | _ => gmode

/-- `can_mode_channel_event_comm_rx_done`. -/
def canModeChannelEventCommRxDone (index : CanChannelId) (gmode : CanModeGlobal) :
    CanModeGlobal :=
  match (gmode.channel index).mode with
  | .comm =>
    gmode.modifyChannel index fun cmode =>
      if cmode.commMode = .rx then
        let cmode := cmode.commModeSetIdle
        if cmode.ctrl.selectMode = canModeChannelModeWait then
          cmode.enter .wait false false true
        else cmode
      else cmode
  | _ => gmode

/-- `can_mode_channel_event`. -/
def canModeChannelEvent (index : CanChannelId) (event : CanModeChannelEvent) :
    CanModeGlobal → CanModeGlobal :=
  match event with
  | .clrStop => canModeChannelEventClrStop index
  | .setStop => canModeChannelEventSetStop index
  | .setComm => canModeChannelEventSetComm index
  | .setReset => canModeChannelEventSetReset index
  | .setWait => canModeChannelEventSetWait index
  | .commTxStart => canModeChannelEventCommTxStart index
  | .commTxDone => canModeChannelEventCommTxDone index
  | .commRxStart => canModeChannelEventCommRxStart index
  | .commRxDone => canModeChannelEventCommRxDone index

/-! ## Events of the controller -/

/-- `CanModeGlobalEventType`. -/
inductive CanModeGlobalEvent where
  | clrStop | setStop | setRun | setReset | setTest
  deriving DecidableEq, Repr

/-- `can_mode_global_channel_event`: the events that a global transition sends
to every channel. -/
def canModeGlobalChannelEvent (event : CanModeGlobalEvent) (gmode : CanModeGlobal) :
    CanModeGlobal :=
  match event with
  | .clrStop => gmode
  | .setStop => gmode.forChannels fun cid => canModeChannelEvent cid .setStop
  | .setRun => gmode
  | .setReset => gmode.forChannels fun cid => canModeChannelEvent cid .setReset
  | .setTest => gmode.forChannels fun cid => canModeChannelEvent cid .setWait

namespace CanModeGlobal

/-- The assignments that end a global transition. -/
def enter (mode : GlobalMode) (gslpsts ghltsts grststs : Bool) (gmode : CanModeGlobal) :
    CanModeGlobal :=
  { gmode with
    mode := mode
    status := { gmode.status with gslpsts := gslpsts, ghltsts := ghltsts, grststs := grststs } }

/-- `gmode->ctrl.stop = stop`. -/
def setCtrlStop (stop : Bool) (gmode : CanModeGlobal) : CanModeGlobal :=
  { gmode with ctrl := { gmode.ctrl with stop := stop } }

/-- `gmode->ctrl.select_mode = selectMode`. -/
def setSelectMode (selectMode : BitVec 8) (gmode : CanModeGlobal) : CanModeGlobal :=
  { gmode with ctrl := { gmode.ctrl with selectMode := selectMode } }

end CanModeGlobal

/-- `can_mode_global_event_clr_stop`. -/
def canModeGlobalEventClrStop (gmode : CanModeGlobal) : CanModeGlobal :=
  match gmode.mode with
  | .stop =>
    let gmode := gmode.setCtrlStop false
    let gmode := canModeGlobalChannelEvent .clrStop gmode
    (canModeGlobalReset gmode).enter .reset false false true
  | _ => gmode

/-- `can_mode_global_event_set_stop`. -/
def canModeGlobalEventSetStop (gmode : CanModeGlobal) : CanModeGlobal :=
  match gmode.mode with
  | .reset =>
    let gmode := gmode.setCtrlStop true
    (canModeGlobalChannelEvent .setStop gmode).enter .stop true false true
  | _ => gmode

/-- `can_mode_global_event_set_run`. -/
def canModeGlobalEventSetRun (gmode : CanModeGlobal) : CanModeGlobal :=
  match gmode.mode with
  | .test | .reset =>
    let gmode := gmode.setSelectMode canModeGlobalModeRun
    (canModeGlobalChannelEvent .setRun gmode).enter .run false false false
  | _ => gmode

/-- `can_mode_global_event_set_reset`. -/
def canModeGlobalEventSetReset (gmode : CanModeGlobal) : CanModeGlobal :=
  match gmode.mode with
  | .run | .test =>
    let gmode := gmode.setSelectMode canModeGlobalModeReset
    let gmode := canModeGlobalChannelEvent .setReset gmode
    (canModeGlobalReset gmode).enter .reset false false true
  | _ => gmode

/-- `can_mode_global_event_set_test`: the mode changes even when a channel
still has a transfer to finish. -/
def canModeGlobalEventSetTest (gmode : CanModeGlobal) : CanModeGlobal :=
  match gmode.mode with
  | .reset | .run =>
    let gmode := gmode.setSelectMode canModeGlobalModeWait
    (canModeGlobalChannelEvent .setTest gmode).enter .test false true false
  | _ => gmode

/-- `can_mode_global_event`. -/
def canModeGlobalEvent (event : CanModeGlobalEvent) : CanModeGlobal → CanModeGlobal :=
  match event with
  | .clrStop => canModeGlobalEventClrStop
  | .setStop => canModeGlobalEventSetStop
  | .setRun => canModeGlobalEventSetRun
  | .setReset => canModeGlobalEventSetReset
  | .setTest => canModeGlobalEventSetTest

/-- An event of a channel or of the controller. -/
inductive CanModeEvent where
  | channel (index : CanChannelId) (event : CanModeChannelEvent)
  | global (event : CanModeGlobalEvent)
  deriving DecidableEq, Repr

/-- The transition of an event. -/
def canModeEvent (event : CanModeEvent) : CanModeGlobal → CanModeGlobal :=
  match event with
  | .channel index event => canModeChannelEvent index event
  | .global event => canModeGlobalEvent event

end Athrill
