import Athrill.Can.Phase

/-!
# The registers of the CAN controller

`can_register_mapping_io_channel.c`, the mode registers of
`can_register_mapping_io_global.c`, the accesses of `can.c` and the parts of
`can_rx.c` and `can_tx.c` that move a channel.  An access stores into or loads
from the bytes of the register area; a hook of the register that the address
names runs after a store and before a load.  Addresses are offsets from
`RSCANn_base`.

* `CanDevice`: the records, the register bytes and the static variables.
* `CanDevice.put`, `CanDevice.get`: the accesses.
* `canRxProc`, `canTxProc`, `canTxDone`: the work of one clock.
* `CanDevice.step`, `ControllerPhase.access`, `represents_step`: one step, and
  the phase after it.

The hooks of the buffers, FIFOs and reception rules touch neither the records
nor these registers and are left out.
-/

namespace Athrill

open CanModeGlobal

/-! ## The register bytes -/

/-- `memory_data_CAN`. -/
abbrev CanMemory := Nat → BitVec 8

/-- The little-endian word at an offset, `can_register_read_data32`. -/
def canRegisterReadData32 (offset : Nat) (memory : CanMemory) : BitVec 32 :=
  memory (offset + 3) ++ memory (offset + 2) ++ memory (offset + 1) ++ memory offset

/-- A store of some bytes of a word. -/
def storeBytes (size offset : Nat) (data : BitVec 32) (memory : CanMemory) : CanMemory :=
  fun i =>
    if offset ≤ i ∧ i < offset + size then (data >>> (8 * (i - offset))).setWidth 8
    else memory i

/-- `can_register_write_data32`. -/
def canRegisterWriteData32 (offset : Nat) (data : BitVec 32) (memory : CanMemory) : CanMemory :=
  storeBytes 4 offset data memory

/-- `CAN_REG_GET_ALIGNED_ADDR`. -/
def canRegGetAlignedAddr (offset : Nat) : Nat := offset / 4 * 4

/-- `CAN_REG_UPDATE_REG_BIT`. -/
def canRegUpdateRegBit (modelFlag : Bool) (bits : Nat) (data : BitVec 32) : BitVec 32 :=
  if modelFlag then data ||| (1#32 <<< bits) else data &&& ~~~(1#32 <<< bits)

/-- `CAN_REG_UPDATE_MODEL_FLAG`. -/
def canRegUpdateModelFlag (data : BitVec 32) (bits : Nat) : Bool :=
  decide (data &&& (1#32 <<< bits) ≠ 0)

/-! ## The device -/

/-- The records of the modes, the register bytes, and the static variables in
which the two handlers of mode bits remember the last write. -/
structure CanDevice where
  modeGlobal : CanModeGlobal
  memory : CanMemory
  oldCslpr : BitVec 32
  oldChmdc : BitVec 32
  oldGslpr : BitVec 32
  oldGmdc : BitVec 32

/-- `CanRegisterIoType`. -/
inductive CanRegisterIo where
  | read | write
  deriving DecidableEq, Repr

/-- The offset of `RSCANnCmCTR` of a channel. -/
def canRegRSCANnCmCTR (cid : CanChannelId) : Nat := 0x4 + 0x10 * cid.val

/-- The offset of `RSCANnCmSTS` of a channel. -/
def canRegRSCANnCmSTS (cid : CanChannelId) : Nat := 0x8 + 0x10 * cid.val

/-- The offset of `RSCANnGCFG`. -/
def canRegRSCANnGCFG : Nat := 0x84

/-- The offset of `RSCANnGCTR`. -/
def canRegRSCANnGCTR : Nat := 0x88

/-- The offset of `RSCANnGSTS`. -/
def canRegRSCANnGSTS : Nat := 0x8C

/-- `CAN_REG_GROUP_INDEX` for a register of the channels, whose group starts at
`start`.  The offsets of the channels give an index below `CAN_CHANNEL_NUM`. -/
def canRegGroupIndex (offset start : Nat) : CanChannelId :=
  Fin.ofNat canChannelNum ((canRegGetAlignedAddr offset - start) / 16)

/-- The control register with its mode bits as the model has them. -/
def updateModeBits (stop : Bool) (selectMode : BitVec 8) (data : BitVec 32) : BitVec 32 :=
  (canRegUpdateRegBit stop 2 data &&& ~~~3) ||| selectMode.setWidth 32

/-- The stop bit of a control register, `CSLPR` and `GSLPR`. -/
def currentSlpr (data : BitVec 32) : BitVec 32 := (data >>> 2) &&& 1

/-- The mode select field of a control register, `CHMDC` and `GMDC`. -/
def currentMdc (data : BitVec 32) : BitVec 32 := data &&& 3

/-- The events of a write to the mode bits of a control register: at most one
for the stop bit and then at most one for the mode select field, each only when
the bits differ from the remembered ones. -/
def modeBitEvents {ε : Type} (setStop clrStop : ε) (select : BitVec 32 → List ε)
    (data oldSlpr oldMdc : BitVec 32) : List ε :=
  (if currentSlpr data ≠ oldSlpr then
      if currentSlpr data ≠ 0 then [setStop] else [clrStop]
    else []) ++
  if currentMdc data ≠ oldMdc then select (currentMdc data) else []

/-- The event of a new value of `CHMDC`. -/
def chmdcEvents (chmdc : BitVec 32) : List CanModeChannelEvent :=
  if chmdc = canModeChannelModeComm.setWidth 32 then [.setComm]
  else if chmdc = canModeChannelModeReset.setWidth 32 then [.setReset]
  else if chmdc = canModeChannelModeWait.setWidth 32 then [.setWait]
  else []

/-- The event of a new value of `GMDC`. -/
def gmdcEvents (gmdc : BitVec 32) : List CanModeGlobalEvent :=
  if gmdc = canModeGlobalModeRun.setWidth 32 then [.setRun]
  else if gmdc = canModeGlobalModeReset.setWidth 32 then [.setReset]
  else if gmdc = canModeGlobalModeWait.setWidth 32 then [.setTest]
  else []

namespace CanDevice

/-- The word of a register. -/
def register (offset : Nat) (d : CanDevice) : BitVec 32 :=
  canRegisterReadData32 offset d.memory

/-- The events of a write to `RSCANnCmCTR`, the written word in the register. -/
def cmctrEvents (cid : CanChannelId) (data : BitVec 32) (d : CanDevice) : List CanModeEvent :=
  (modeBitEvents .setStop .clrStop chmdcEvents data d.oldCslpr d.oldChmdc).map (.channel cid)

/-- The events of a write to `RSCANnGCTR`. -/
def gctrEvents (data : BitVec 32) (d : CanDevice) : List CanModeEvent :=
  (modeBitEvents .setStop .clrStop gmdcEvents data d.oldGslpr d.oldGmdc).map .global

/-- `can_register_mapping_io_RSCANnCmCTR`. -/
def canRegisterMappingIoRSCANnCmCTR (ioType : CanRegisterIo) (address : Nat) (d : CanDevice) :
    CanDevice :=
  let index := canRegGroupIndex address 0x4
  let data := d.register (canRegGetAlignedAddr address)
  let d :=
    match ioType with
    | .write =>
      { d with
        modeGlobal := canModeEvents (d.cmctrEvents index data) d.modeGlobal
        oldChmdc := currentMdc data
        oldCslpr := currentSlpr data }
    | .read => d
  let ctrl := (d.modeGlobal.channel index).ctrl
  { d with
    memory :=
      canRegisterWriteData32 (canRegGetAlignedAddr address)
        (updateModeBits ctrl.stop ctrl.selectMode data) d.memory }

/-- `can_register_mapping_io_RSCANnCmSTS`. -/
def canRegisterMappingIoRSCANnCmSTS (ioType : CanRegisterIo) (address : Nat) (d : CanDevice) :
    CanDevice :=
  let status := (d.modeGlobal.channel (canRegGroupIndex address 0x8)).status
  match ioType with
  | .read =>
    let data := canRegUpdateRegBit status.canComm 7 0
    let data := canRegUpdateRegBit status.receiving 6 data
    let data := canRegUpdateRegBit status.sending 5 data
    let data := canRegUpdateRegBit status.modeStop 2 data
    let data := canRegUpdateRegBit status.modeWait 1 data
    let data := canRegUpdateRegBit status.modeReset 0 data
    { d with memory := canRegisterWriteData32 (canRegGetAlignedAddr address) data d.memory }
  | .write => d

/-- `can_register_mapping_io_CHANNEL`; `RSCANnCmCFG` and `RSCANnCmERFL` have
handlers that do nothing. -/
def canRegisterMappingIoCHANNEL (ioType : CanRegisterIo) (address : Nat) (d : CanDevice) :
    CanDevice :=
  match canRegGetAlignedAddr address % 16 with
  | 0x4 => d.canRegisterMappingIoRSCANnCmCTR ioType address
  | 0x8 => d.canRegisterMappingIoRSCANnCmSTS ioType address
  | _ => d

/-- `can_register_mapping_io_RSCANnGCFG`. -/
def canRegisterMappingIoRSCANnGCFG (ioType : CanRegisterIo) (d : CanDevice) : CanDevice :=
  match ioType with
  | .read => d
  | .write =>
    let data := d.register canRegRSCANnGCFG
    let config : GlobalConfig :=
      { enableDlcCheck := canRegUpdateModelFlag data 1
        enableTxBufnoFirst := canRegUpdateModelFlag data 0 }
    { d with modeGlobal := { d.modeGlobal with config := config } }

/-- The interrupt enables that a write to `RSCANnGCTR` sets. -/
def gctrFlags (data : BitVec 32) (gmode : CanModeGlobal) : CanModeGlobal :=
  { gmode with
    ctrl :=
      { gmode.ctrl with
        enableTxHistory := canRegUpdateModelFlag data 10
        enableFifoMsglost := canRegUpdateModelFlag data 9
        enableDlcError := canRegUpdateModelFlag data 8 } }

/-- `can_register_mapping_io_RSCANnGCTR`. -/
def canRegisterMappingIoRSCANnGCTR (ioType : CanRegisterIo) (d : CanDevice) : CanDevice :=
  let data := d.register canRegRSCANnGCTR
  let d :=
    match ioType with
    | .write =>
      { d with
        modeGlobal := canModeEvents (d.gctrEvents data) (gctrFlags data d.modeGlobal)
        oldGmdc := currentMdc data
        oldGslpr := currentSlpr data }
    | .read => d
  let ctrl := d.modeGlobal.ctrl
  { d with
    memory :=
      canRegisterWriteData32 canRegRSCANnGCTR (updateModeBits ctrl.stop ctrl.selectMode data)
        d.memory }

/-- `can_register_mapping_io_RSCANnGSTS`. -/
def canRegisterMappingIoRSCANnGSTS (ioType : CanRegisterIo) (d : CanDevice) : CanDevice :=
  match ioType with
  | .read =>
    let status := d.modeGlobal.status
    let data := canRegUpdateRegBit status.grststs 0 0
    let data := canRegUpdateRegBit status.ghltsts 1 data
    let data := canRegUpdateRegBit status.gslpsts 2 data
    { d with memory := canRegisterWriteData32 canRegRSCANnGSTS data d.memory }
  | .write => d

/-- The hook of an address: `search_map` in `can_reigster_mapping_table` for the
registers of the modes. -/
def canRegisterMappingIo (ioType : CanRegisterIo) (address : Nat) (d : CanDevice) : CanDevice :=
  if address < 16 * canChannelNum then d.canRegisterMappingIoCHANNEL ioType address
  else if canRegGetAlignedAddr address = canRegRSCANnGCFG then
    d.canRegisterMappingIoRSCANnGCFG ioType
  else if canRegGetAlignedAddr address = canRegRSCANnGCTR then
    d.canRegisterMappingIoRSCANnGCTR ioType
  else if canRegGetAlignedAddr address = canRegRSCANnGSTS then
    d.canRegisterMappingIoRSCANnGSTS ioType
  else d

end CanDevice

/-- The size of an access. -/
inductive AccessSize where
  | byte | half | word
  deriving DecidableEq, Repr

/-- The number of bytes of an access. -/
def AccessSize.bytes : AccessSize → Nat
  | byte => 1
  | half => 2
  | word => 4

namespace CanDevice

/-- The device with the bytes of a store in it. -/
def stored (size : AccessSize) (address : Nat) (data : BitVec 32) (d : CanDevice) : CanDevice :=
  { d with memory := storeBytes size.bytes address data d.memory }

/-- `can_put_data8`, `can_put_data16` and `can_put_data32`. -/
def put (size : AccessSize) (address : Nat) (data : BitVec 32) (d : CanDevice) : CanDevice :=
  (d.stored size address data).canRegisterMappingIo .write address

/-- The state that `can_get_data8`, `can_get_data16` and `can_get_data32` load
from. -/
def get (address : Nat) (d : CanDevice) : CanDevice :=
  d.canRegisterMappingIo .read address

end CanDevice

/-! ## The work of one clock -/

/-- What the bus, the buffers and the FIFOs answer in one clock, for each
channel: a frame has arrived, a buffer with a request was selected, the frame
on the bus is sent, and the buffer has accepted this. -/
structure CanBusInput where
  isArrived : CanChannelId → Bool
  selectBuffer : CanChannelId → Bool
  isDone : CanChannelId → Bool
  notifyTxdone : CanChannelId → Bool

/-- `can_rx_proc` for one channel; the routing of the frame is left out. -/
def canRxProcOne (bus : CanBusInput) (cid : CanChannelId) (gmode : CanModeGlobal) :
    CanModeGlobal :=
  if bus.isArrived cid = false then gmode
  else if (gmode.channel cid).mode ≠ .comm then gmode
  else
    let gmode := canModeChannelEvent cid .commRxStart gmode
    if (gmode.channel cid).commMode ≠ .rx then gmode
    else canModeChannelEvent cid .commRxDone gmode

/-- `can_rx_proc`. -/
def canRxProc (bus : CanBusInput) (gmode : CanModeGlobal) : CanModeGlobal :=
  if gmode.mode ≠ .run then gmode else gmode.forChannels (canRxProcOne bus)

/-- `can_tx_proc` for one channel; sending changes no mode. -/
def canTxProcOne (bus : CanBusInput) (cid : CanChannelId) (gmode : CanModeGlobal) :
    CanModeGlobal :=
  if (gmode.channel cid).mode ≠ .comm then gmode
  else if (gmode.channel cid).commMode ≠ .idle then gmode
  else if bus.selectBuffer cid = false then gmode
  else canModeChannelEvent cid .commTxStart gmode

/-- `can_tx_proc`. -/
def canTxProc (bus : CanBusInput) (gmode : CanModeGlobal) : CanModeGlobal :=
  if gmode.mode ≠ .run then gmode else gmode.forChannels (canTxProcOne bus)

/-- `can_tx_done` for one channel. -/
def canTxDoneOne (bus : CanBusInput) (cid : CanChannelId) (gmode : CanModeGlobal) :
    CanModeGlobal :=
  if (gmode.channel cid).mode ≠ .comm then gmode
  else if (gmode.channel cid).commMode ≠ .tx then gmode
  else if bus.isDone cid = false then gmode
  else if bus.notifyTxdone cid then canModeChannelEvent cid .commTxDone gmode
  else gmode

/-- `can_tx_done`. -/
def canTxDone (bus : CanBusInput) (gmode : CanModeGlobal) : CanModeGlobal :=
  if gmode.mode ≠ .run then gmode else gmode.forChannels (canTxDoneOne bus)

/-- `device_supply_clock_can` at a clock of the bus. -/
def deviceSupplyClockCan (bus : CanBusInput) (gmode : CanModeGlobal) : CanModeGlobal :=
  canTxDone bus (canTxProc bus (canRxProc bus gmode))

/-! ## Steps -/

/-- A load, a store or a clock of the bus. -/
inductive CanAccess where
  | put (size : AccessSize) (address : Nat) (data : BitVec 32)
  | get (size : AccessSize) (address : Nat)
  | clock (bus : CanBusInput)

namespace CanDevice

/-- One step of the device. -/
def step (access : CanAccess) (d : CanDevice) : CanDevice :=
  match access with
  | .put size address data => d.put size address data
  | .get _ address => d.get address
  | .clock bus => { d with modeGlobal := deviceSupplyClockCan bus d.modeGlobal }

/-- The device after a sequence of steps. -/
def run (accesses : List CanAccess) (d : CanDevice) : CanDevice :=
  accesses.foldl (fun d access => d.step access) d

/-- After `device_init_can`, with any register bytes. -/
def Initial (d : CanDevice) : Prop :=
  (∃ gmode, d.modeGlobal = canReset gmode) ∧
    d.oldCslpr = 1 ∧ d.oldChmdc = 1 ∧ d.oldGslpr = 1 ∧ d.oldGmdc = 1

end CanDevice

/-! ## The phases after a step -/

namespace ChannelPhase

/-- A received frame. -/
def rxProc (isArrived : Bool) (phase : ChannelPhase) : ChannelPhase :=
  if isArrived = false then phase
  else
    match phase with
    | idle => idle
    | rx waiting => (rx waiting).step .commRxDone
    | _ => phase

/-- The start of a transmission. -/
def txProc (selectBuffer : Bool) (phase : ChannelPhase) : ChannelPhase :=
  match phase with
  | idle => if selectBuffer then tx false else idle
  | _ => phase

/-- The end of a transmission. -/
def txDone (isDone notifyTxdone : Bool) (phase : ChannelPhase) : ChannelPhase :=
  match phase with
  | tx waiting => if isDone && notifyTxdone then (tx waiting).step .commTxDone else tx waiting
  | _ => phase

/-- A clock of the bus. -/
def clock (bus : CanBusInput) (cid : CanChannelId) (phase : ChannelPhase) : ChannelPhase :=
  ((phase.rxProc (bus.isArrived cid)).txProc (bus.selectBuffer cid)).txDone (bus.isDone cid)
    (bus.notifyTxdone cid)

end ChannelPhase

namespace ControllerPhase

/-- The same step for the phases of all channels. -/
def forChannels (f : CanChannelId → ChannelPhase → ChannelPhase) (p : ControllerPhase) :
    ControllerPhase :=
  { p with channel := fun cid => f cid (p.channel cid) }

/-- The channels work only while the controller runs. -/
def clock (bus : CanBusInput) (p : ControllerPhase) : ControllerPhase :=
  if p.mode ≠ .run then p else p.forChannels (ChannelPhase.clock bus)

/-- The phase after a sequence of events. -/
def events (es : List CanModeEvent) (p : ControllerPhase) : ControllerPhase :=
  es.foldl (fun p e => p.step e) p

end ControllerPhase

theorem canRxProcOne_eq {cid : CanChannelId} {phase : ChannelPhase} {gmode : CanModeGlobal}
    (bus : CanBusInput) (h : gmode.channel cid = phase.record cid) :
    canRxProcOne bus cid gmode =
      gmode.modifyChannel cid fun _ => (phase.rxProc (bus.isArrived cid)).record cid := by
  have hignored := modifyChannel_same h
  have hstart := canModeChannelEvent_eq .commRxStart h
  have hafter : (canModeChannelEvent cid .commRxStart gmode).channel cid =
      (phase.step .commRxStart).record cid := by
    rw [hstart, modifyChannel_channel_self]
  have hdone := canModeChannelEvent_eq .commRxDone hafter
  unfold canRxProcOne ChannelPhase.rxProc
  by_cases harrived : bus.isArrived cid = false
  · rw [if_pos harrived, if_pos harrived]
    exact hignored.symm
  · rw [if_neg harrived, if_neg harrived]
    dsimp only
    rw [hafter, hdone, hstart, h, ChannelPhase.mode_record, modifyChannel_modifyChannel]
    cases phase with
    | stop => exact hignored.symm
    | reset => exact hignored.symm
    | wait => exact hignored.symm
    | _ => rfl

theorem canTxProcOne_eq {cid : CanChannelId} {phase : ChannelPhase} {gmode : CanModeGlobal}
    (bus : CanBusInput) (h : gmode.channel cid = phase.record cid) :
    canTxProcOne bus cid gmode =
      gmode.modifyChannel cid fun _ => (phase.txProc (bus.selectBuffer cid)).record cid := by
  have hignored := modifyChannel_same h
  have hstart := canModeChannelEvent_eq .commTxStart h
  rw [canTxProcOne, h, ChannelPhase.mode_record, hstart]
  cases phase with
  | idle =>
    cases hselect : bus.selectBuffer cid with
    | false => exact hignored.symm
    | true => rfl
  | _ => exact hignored.symm

theorem canTxDoneOne_eq {cid : CanChannelId} {phase : ChannelPhase} {gmode : CanModeGlobal}
    (bus : CanBusInput) (h : gmode.channel cid = phase.record cid) :
    canTxDoneOne bus cid gmode =
      gmode.modifyChannel cid fun _ =>
        (phase.txDone (bus.isDone cid) (bus.notifyTxdone cid)).record cid := by
  have hignored := modifyChannel_same h
  have hdone := canModeChannelEvent_eq .commTxDone h
  rw [canTxDoneOne, h, ChannelPhase.mode_record, hdone]
  cases phase with
  | tx waiting =>
    cases hisDone : bus.isDone cid with
    | false => exact hignored.symm
    | true =>
      cases hnotify : bus.notifyTxdone cid with
      | false => exact hignored.symm
      | true => rfl
  | _ => exact hignored.symm

/-- A loop over the channels, when its body is a step of the phase. -/
theorem Represents.forChannels {p : ControllerPhase} {gmode : CanModeGlobal}
    {f : CanChannelId → CanModeGlobal → CanModeGlobal}
    {step : CanChannelId → ChannelPhase → ChannelPhase}
    (hf : ∀ cid g, g.channel cid = (p.channel cid).record cid →
      f cid g = g.modifyChannel cid fun _ => (step cid (p.channel cid)).record cid)
    (h : Represents p gmode) :
    Represents (p.forChannels step) (gmode.forChannels f) := by
  rw [forChannels_eq (fun cid cmode => cmode = (p.channel cid).record cid) hf gmode h.channel]
  exact ⟨h.mode, h.stop, h.selectMode, h.gslpsts, h.ghltsts, h.grststs, fun _ => rfl⟩

/-- A clock of the bus. -/
theorem represents_clock {p : ControllerPhase} {gmode : CanModeGlobal} (h : Represents p gmode)
    (bus : CanBusInput) : Represents (p.clock bus) (deviceSupplyClockCan bus gmode) := by
  rw [deviceSupplyClockCan, ControllerPhase.clock]
  by_cases hmode : p.mode ≠ .run
  · have hgmode : gmode.mode ≠ .run := by rw [h.mode]; exact hmode
    rw [if_pos hmode, canRxProc, if_pos hgmode, canTxProc, if_pos hgmode, canTxDone,
      if_pos hgmode]
    exact h
  · rw [if_neg hmode]
    have hrx := Represents.forChannels (fun _ _ hcid => canRxProcOne_eq bus hcid) h
    have htx := Represents.forChannels (fun _ _ hcid => canTxProcOne_eq bus hcid) hrx
    have hdone := Represents.forChannels (fun _ _ hcid => canTxDoneOne_eq bus hcid) htx
    have hloop {q : ControllerPhase} {g : CanModeGlobal} (hq : Represents q g)
        (hqmode : q.mode = p.mode) : ¬ g.mode ≠ .run := by
      rw [hq.mode, hqmode]
      exact hmode
    rw [canRxProc, if_neg (hloop h rfl), canTxProc, if_neg (hloop hrx rfl), canTxDone,
      if_neg (hloop htx rfl)]
    exact hdone

theorem represents_canModeEvents {p : ControllerPhase} {gmode : CanModeGlobal}
    (h : Represents p gmode) (es : List CanModeEvent) :
    Represents (p.events es) (canModeEvents es gmode) := by
  induction es generalizing p gmode with
  | nil => exact h
  | cons e es ih => exact ih (represents_canModeEvent h e)

/-- The offset is in the word of `RSCANnCmCTR` of some channel. -/
def IsCmctr (address : Nat) : Prop :=
  address < 16 * canChannelNum ∧ canRegGetAlignedAddr address % 16 = 4

instance (address : Nat) : Decidable (IsCmctr address) :=
  inferInstanceAs (Decidable (_ ∧ _))

theorem isCmctr_iff {address : Nat} :
    IsCmctr address ↔ ∃ cid, canRegGetAlignedAddr address = canRegRSCANnCmCTR cid := by
  unfold IsCmctr canRegGetAlignedAddr canRegRSCANnCmCTR
  constructor
  · rintro ⟨hlt, hmod⟩
    have hcid : address / 16 < canChannelNum := by omega
    refine ⟨⟨address / 16, hcid⟩, ?_⟩
    show address / 4 * 4 = 0x4 + 0x10 * (address / 16)
    omega
  · rintro ⟨cid, hcid⟩
    have hlt := cid.isLt
    constructor <;> omega

/-- The index of a channel from the offset of its control register. -/
theorem canRegGroupIndex_cmctr {address : Nat} {cid : CanChannelId}
    (h : canRegGetAlignedAddr address = canRegRSCANnCmCTR cid) :
    canRegGroupIndex address 0x4 = cid := by
  apply Fin.ext
  rw [canRegGroupIndex, h, canRegRSCANnCmCTR, Nat.add_sub_cancel_left,
    Nat.mul_div_cancel_left _ (by decide)]
  exact Nat.mod_eq_of_lt cid.isLt

/-- The modes do not read the configuration and the interrupt enables. -/
theorem Represents.congr {p : ControllerPhase} {gmode gmode' : CanModeGlobal}
    (h : Represents p gmode) (hmode : gmode'.mode = gmode.mode)
    (hstop : gmode'.ctrl.stop = gmode.ctrl.stop)
    (hselect : gmode'.ctrl.selectMode = gmode.ctrl.selectMode)
    (hstatus : gmode'.status = gmode.status) (hchannel : gmode'.channel = gmode.channel) :
    Represents p gmode' := by
  refine ⟨hmode.trans h.mode, hstop.trans h.stop, hselect.trans h.selectMode, ?_, ?_, ?_, ?_⟩
  · rw [hstatus, h.gslpsts]
  · rw [hstatus, h.ghltsts]
  · rw [hstatus, h.grststs]
  · rw [hchannel]
    exact h.channel

namespace CanDevice

/-- The events that a store sends. -/
def sentEvents (size : AccessSize) (address : Nat) (data : BitVec 32) (d : CanDevice) :
    List CanModeEvent :=
  let written := (d.stored size address data).register (canRegGetAlignedAddr address)
  if IsCmctr address then d.cmctrEvents (canRegGroupIndex address 0x4) written
  else if canRegGetAlignedAddr address = canRegRSCANnGCTR then d.gctrEvents written
  else []

/-- The modes after a store. -/
theorem represents_put {p : ControllerPhase} {d : CanDevice} (h : Represents p d.modeGlobal)
    (size : AccessSize) (address : Nat) (data : BitVec 32) :
    Represents (p.events (d.sentEvents size address data))
      (d.put size address data).modeGlobal := by
  rw [put, sentEvents]
  unfold canRegisterMappingIo
  by_cases hchannel : address < 16 * canChannelNum
  · have hgctr : canRegGetAlignedAddr address ≠ canRegRSCANnGCTR := by
      have hnum : address < 16 * 6 := hchannel
      unfold canRegGetAlignedAddr canRegRSCANnGCTR
      omega
    rw [if_pos hchannel, canRegisterMappingIoCHANNEL]
    by_cases hctr : canRegGetAlignedAddr address % 16 = 4
    · rw [if_pos ⟨hchannel, hctr⟩, hctr]
      exact represents_canModeEvents h _
    · rw [if_neg fun hc => hctr hc.2, if_neg hgctr]
      split
      · next heq => exact absurd heq hctr
      · exact h
      · exact h
  · rw [if_neg hchannel, if_neg fun hc => hchannel hc.1]
    by_cases hgctr : canRegGetAlignedAddr address = canRegRSCANnGCTR
    · rw [if_pos hgctr, if_neg (by rw [hgctr]; decide), if_pos hgctr]
      have hflags (word : BitVec 32) : Represents p (gctrFlags word d.modeGlobal) :=
        h.congr rfl rfl rfl rfl rfl
      rw [hgctr]
      exact represents_canModeEvents (hflags _) _
    · rw [if_neg hgctr, if_neg hgctr]
      split
      · exact h.congr rfl rfl rfl rfl rfl
      · split
        · exact h
        · exact h

/-- A load changes register bytes only. -/
theorem modeGlobal_get (address : Nat) (d : CanDevice) :
    (d.get address).modeGlobal = d.modeGlobal := by
  unfold get canRegisterMappingIo canRegisterMappingIoCHANNEL
  split
  · split
    · rfl
    · rfl
    · rfl
  · split
    · rfl
    · split
      · rfl
      · split
        · rfl
        · rfl

end CanDevice

/-- The phase after a step of the device. -/
def ControllerPhase.access (access : CanAccess) (d : CanDevice) (p : ControllerPhase) :
    ControllerPhase :=
  match access with
  | .put size address data => p.events (d.sentEvents size address data)
  | .get _ _ => p
  | .clock bus => p.clock bus

/-- A step of the device follows the table of the phases. -/
theorem represents_step {p : ControllerPhase} {d : CanDevice} (h : Represents p d.modeGlobal)
    (access : CanAccess) : Represents (p.access access d) (d.step access).modeGlobal := by
  cases access with
  | put size address data => exact CanDevice.represents_put h size address data
  | get size address =>
    show Represents p (d.get address).modeGlobal
    rw [CanDevice.modeGlobal_get]
    exact h
  | clock bus => exact represents_clock h bus

/-- The device from its initialisation on. -/
def canDevice : TransitionSystem CanDevice CanAccess where
  init := CanDevice.Initial
  step access d d' := d' = d.step access

/-- A run from a reachable device. -/
theorem reachable_run {d : CanDevice} (h : canDevice.Reachable d) (accesses : List CanAccess) :
    canDevice.Reachable (d.run accesses) := by
  induction accesses generalizing d with
  | nil => exact h
  | cons access accesses ih => exact ih (.step h rfl)

/-- The modes of a reachable device are in some phase. -/
theorem represents_device_invariant :
    canDevice.Invariant fun d => ∃ p, Represents p d.modeGlobal where
  init := by
    rintro d ⟨⟨gmode, hd⟩, -⟩
    exact ⟨_, hd ▸ represents_canReset gmode⟩
  step := by
    rintro access d _ ⟨p, hp⟩ rfl
    exact ⟨_, represents_step hp access⟩

/-- The device after its initialisation, with cleared register bytes. -/
def resetCan : CanDevice where
  modeGlobal := canReset blankCan
  memory _ := 0
  oldCslpr := 1
  oldChmdc := 1
  oldGslpr := 1
  oldGmdc := 1

theorem resetCan_initial : resetCan.Initial :=
  ⟨⟨blankCan, rfl⟩, rfl, rfl, rfl, rfl⟩

end Athrill
