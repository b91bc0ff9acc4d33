import Athrill.Lib.ByteMemory
import Athrill.Lib.Routine
import Athrill.Lib.Sizes
import Mathlib.Logic.Function.Basic

/-!
# The serial interface

`serial.c` and `serial.h`: four channels with their registers in one memory
region.  A channel moves one byte at a time in each direction, counts down the
time that the transfer takes, and raises its interrupts.  The bytes come from
and go to the operations that are registered for the channel; `device.c`
registers them for channel 1 and supplies the clock to that channel only.

* `SerialDevice`, `Serial`: a channel, and the device with its region.
* `SerialFault`: what the C code leaves undefined.
* `serialGetData8` to `serialPutData32`: the registers.
* `serialReceive`, `serialSend`, `deviceSupplyClockSerial`: a clock.
* `SerialEvent`, `serialStep`: everything that can happen to the device.
-/

namespace Athrill

open ByteMemory

/-! ## Registers -/

/-- `UDnChannelNum`. -/
abbrev udnChannelNum : Nat := 4

/-- `RLIN3x_BASE`, also the start of the region. -/
def rlin3xBase : BitVec 32 := 0xffce2000

/-- `UDxCH_OFFSET`. -/
def udxchOffset : BitVec 32 := 0x40

/-- `MPU_ADDRESS_REGION_SIZE_INX_SERIAL`; there is room for six channels. -/
def serialRegionSize : Nat := 0x180

/-- `MPU_ADDRESS_REGION_MASK_PH`. -/
def serialRegionMask : BitVec 32 := 0xFFFFFFFF

/-- `RLIN_GET_CHANNEL`, in a `uint8`. -/
def rlinGetChannel (addr : BitVec 32) : BitVec 8 := ((addr - rlin3xBase) / udxchOffset).truncate 8

/-- A register of a channel. -/
def rlin3xRegister (offset : BitVec 32) (ch : BitVec 8) : BitVec 32 :=
  rlin3xBase + udxchOffset * ch.zeroExtend 32 + offset

def rlin3xLcuc (ch : BitVec 8) : BitVec 32 := rlin3xRegister 0x0e ch
def rlin3xLmst (ch : BitVec 8) : BitVec 32 := rlin3xRegister 0x11 ch
def rlin3xLst (ch : BitVec 8) : BitVec 32 := rlin3xRegister 0x12 ch
def rlin3xLuoer (ch : BitVec 8) : BitVec 32 := rlin3xRegister 0x20 ch
def rlin3xLuor1 (ch : BitVec 8) : BitVec 32 := rlin3xRegister 0x21 ch
def rlin3xLutdrl (ch : BitVec 8) : BitVec 32 := rlin3xRegister 0x24 ch
def rlin3xLurdrl (ch : BitVec 8) : BitVec 32 := rlin3xRegister 0x26 ch

/-- `serial_rlin3x_get_rx_intno`. -/
def serialRlin3xGetRxIntno : Fin udnChannelNum → Nat
  | 0 => 35
  | 1 => 122
  | 2 => 166
  | 3 => 230

/-- `serial_rlin3x_get_tx_intno`. -/
def serialRlin3xGetTxIntno : Fin udnChannelNum → Nat
  | 0 => 34
  | 1 => 121
  | 2 => 165
  | 3 => 229

/-! ## State -/

/-- `DeviceExSerialOpType`, over the state `H` of what the operations reach. -/
structure DeviceExSerialOp (H : Type) where
  putchar : BitVec 8 → BitVec 8 → H → H
  getchar : BitVec 8 → H → Option (BitVec 8) × H
  flush : Option (BitVec 8 → H → H)

/-- A call of `flush` when there is one. -/
def DeviceExSerialOp.flushed {H : Type} (ops : DeviceExSerialOp H) (no : BitVec 8) (host : H) : H :=
  match ops.flush with
  | some flush => flush no host
  | none => host

/-- `SerialDeviceType`.  The number of the channel and its interrupts never
change and are arguments instead. -/
structure SerialDevice (H : Type) where
  receivedCounter : Nat
  sendCounter : Nat
  isSendData : Bool
  sendData : BitVec 8
  ops : Option (DeviceExSerialOp H)
  isSendEnable : Bool
  isReadEnable : Bool
  isResetMode : Bool
  isSendStartIntr : Bool
  isSending : Bool
  isReceiving : Bool

/-- `serial_send_time` and `serial_receiv_time`. -/
structure SerialTimes where
  send : Nat
  receive : Nat

/-- `SerialDevice` and the bytes of the region by their offset. -/
structure Serial (H : Type) where
  device : Fin udnChannelNum → SerialDevice H
  data : Memory 32
  host : H

/-- The ends without defined behaviour: bytes beyond the region, a channel
beyond `SerialDevice`, a call of operations that are not registered. -/
inductive SerialFault where
  | outOfRegion | noChannel | noOperations
  deriving DecidableEq, Repr

/-- The calls of a step that reach other parts of the emulator. -/
inductive SerialCall where
  /-- `getchar` has given a byte. -/
  | getchar (ch : Fin udnChannelNum) (data : BitVec 8)
  | putchar (ch : Fin udnChannelNum) (data : BitVec 8)
  /-- `device_raise_int`. -/
  | raiseInt (intno : Nat)
  deriving DecidableEq, Repr

abbrev SerialM (H α : Type) := Routine (Serial H) SerialFault α

variable {H : Type}

/-- One channel is replaced. -/
def Serial.setDevice (ch : Fin udnChannelNum) (serial : SerialDevice H) (s : Serial H) : Serial H :=
  { s with device := Function.update s.device ch serial }

namespace SerialM

open Routine

/-- `SerialDevice[ch]`. -/
def channel (ch : BitVec 8) : SerialM H (Fin udnChannelNum) :=
  if h : ch.toNat < udnChannelNum then pure ⟨ch.toNat, h⟩ else stop .noChannel

def getDevice (ch : Fin udnChannelNum) : SerialM H (SerialDevice H) :=
  gets fun s => s.device ch

def modifyDevice (ch : Fin udnChannelNum) (f : SerialDevice H → SerialDevice H) :
    SerialM H Unit :=
  modify fun s => s.setDevice ch (f (s.device ch))

def modifyHost (f : H → H) : SerialM H Unit :=
  modify fun s => { s with host := f s.host }

/-- The bytes of a value go into the region. -/
def putBytes (addr : BitVec 32) (size value : Nat) : SerialM H Unit :=
  lift fun s =>
    let off := addr - rlin3xBase
    if off.toNat + size ≤ serialRegionSize then
      (.ok (), { s with data := store s.data off size value })
    else (.error .outOfRegion, s)

/-- The value of some bytes of the region. -/
def getBytes (addr : BitVec 32) (size : Nat) : SerialM H Nat :=
  lift fun s =>
    let off := addr - rlin3xBase
    if off.toNat + size ≤ serialRegionSize then (.ok (load s.data off size), s)
    else (.error .outOfRegion, s)

end SerialM

open SerialM

/-! ## Initialisation -/

/-- A channel after `device_init_serial`. -/
def initialSerialDevice (sendData : BitVec 8) : SerialDevice H where
  receivedCounter := 0
  sendCounter := 0
  isSendData := false
  sendData := sendData
  ops := none
  isSendEnable := false
  isReadEnable := false
  isResetMode := true
  isSendStartIntr := true
  isSending := false
  isReceiving := false

/-- `device_init_serial`; the byte to send and the region stay as they are. -/
def deviceInitSerial (s : Serial H) : Serial H :=
  { s with device := fun ch => initialSerialDevice (s.device ch).sendData }

/-- `device_ex_serial_register_ops`. -/
def deviceExSerialRegisterOps (ch : Fin udnChannelNum) (ops : DeviceExSerialOp H) (s : Serial H) :
    Serial H :=
  s.setDevice ch { s.device ch with ops := some ops }

/-- The serial part of `device_reset`, which is also what `device_serial_init`
leaves: the operations are registered for channel 1 again. -/
def resetSerial (ops : DeviceExSerialOp H) (s : Serial H) : Serial H :=
  deviceExSerialRegisterOps 1 ops (deviceInitSerial s)

/-- The device after `device_serial_init`, from memory of zeros. -/
def bootSerial (ops : DeviceExSerialOp H) (host : H) : Serial H :=
  resetSerial ops { device := fun _ => initialSerialDevice 0, data := fun _ => 0, host := host }

/-! ## Stores and loads -/

/-- `serial_change_mode_reset`. -/
def serialChangeModeReset (ch : Fin udnChannelNum) : SerialM H Unit := do
  putBytes (rlin3xLst (BitVec.ofNat 8 ch.val)) 1 0
  modifyDevice ch fun serial => { serial with isSending := false, isReceiving := false }
  putBytes (rlin3xLuoer (BitVec.ofNat 8 ch.val)) 1 0
  modifyDevice ch fun serial =>
    { serial with
      isReadEnable := false
      isSendEnable := false
      receivedCounter := 0
      sendCounter := 0 }

/-- A byte for the transmit data register. -/
def putLutdrl (no data : BitVec 8) : SerialM H (List SerialCall) := do
  let ch ← channel no
  modifyDevice ch fun serial => { serial with sendData := data, isSendData := true }
  let serial ← getDevice ch
  match serial.ops with
  | none => Routine.stop .noOperations
  | some ops =>
    modifyHost (ops.putchar no serial.sendData)
    pure [.putchar ch serial.sendData]

/-- A byte for the mode register. -/
def putLcuc (no data : BitVec 8) : SerialM H (List SerialCall) := do
  putBytes (rlin3xLmst no) 1 data.toNat
  let ch ← channel no
  modifyDevice ch fun serial => { serial with isResetMode := decide (data = 0) }
  let serial ← getDevice ch
  if serial.isResetMode then
    serialChangeModeReset ch
    pure []
  else pure []

/-- A byte for the enable register. -/
def putLuoer (no data : BitVec 8) : SerialM H (List SerialCall) := do
  let ch ← channel no
  let serial ← getDevice ch
  if serial.isResetMode = false then
    modifyDevice ch fun serial =>
      { serial with isReadEnable := data.getLsbD 1, isSendEnable := data.getLsbD 0 }
    pure []
  else pure []

/-- A byte for the option register. -/
def putLuor1 (no data : BitVec 8) : SerialM H (List SerialCall) := do
  let ch ← channel no
  modifyDevice ch fun serial => { serial with isSendStartIntr := !data.getLsbD 0 }
  pure []

/-- `serial_put_data8`. -/
def serialPutData8 (addr : BitVec 32) (data : BitVec 8) : SerialM H (List SerialCall) := do
  putBytes addr 1 data.toNat
  let no := rlinGetChannel addr
  if addr = rlin3xLutdrl no then putLutdrl no data
  else if addr = rlin3xLcuc no then putLcuc no data
  else if addr = rlin3xLuoer no then putLuoer no data
  else if addr = rlin3xLuor1 no then putLuor1 no data
  else pure []

/-- `serial_put_data16`; unlike a byte store it calls no `putchar`. -/
def serialPutData16 (addr : BitVec 32) (data : BitVec 16) : SerialM H (List SerialCall) := do
  putBytes addr 2 data.toNat
  let no := rlinGetChannel addr
  if addr = rlin3xLutdrl no then
    let ch ← channel no
    modifyDevice ch fun serial =>
      { serial with sendData := data.truncate 8, isSendData := true }
    pure []
  else pure []

/-- `serial_put_data32`. -/
def serialPutData32 (addr data : BitVec 32) : SerialM H (List SerialCall) := do
  putBytes addr 4 data.toNat
  pure []

/-- The status register as `serial_get_data8` computes it: the shifts of the two
macros apply to the zero of their conditional, so that the flags are not in
their bits. -/
def serialStatus (serial : SerialDevice H) : BitVec 8 :=
  (if serial.isReceiving then 1 else 0 <<< 5) ||| (if serial.isSending then 1 else 0 <<< 4)

/-- `serial_get_data8`. -/
def serialGetData8 (addr : BitVec 32) : SerialM H (BitVec 8) := do
  let no := rlinGetChannel addr
  if addr = rlin3xLst no then
    let ch ← channel no
    let serial ← getDevice ch
    pure (serialStatus serial)
  else
    let value ← getBytes addr 1
    pure (BitVec.ofNat 8 value)

/-- `serial_get_data16`. -/
def serialGetData16 (addr : BitVec 32) : SerialM H (BitVec 16) := do
  let value ← getBytes addr 2
  pure (BitVec.ofNat 16 value)

/-- `serial_get_data32`. -/
def serialGetData32 (addr : BitVec 32) : SerialM H (BitVec 32) := do
  let value ← getBytes addr 4
  pure (BitVec.ofNat 32 value)

/-! ## Clocks -/

/-- `serial_receive`. -/
def serialReceive (times : SerialTimes) (ch : Fin udnChannelNum) :
    SerialM H (List SerialCall) := do
  let serial ← getDevice ch
  match serial.ops with
  | none => pure []
  | some ops =>
    if serial.isReadEnable = false then pure []
    else if serial.isReceiving = false then
      let result ← Routine.gets fun s => ops.getchar (BitVec.ofNat 8 ch.val) s.host
      modifyHost fun _ => result.2
      match result.1 with
      | none => pure []
      | some data =>
        modifyDevice ch fun serial => { serial with isReceiving := true }
        let calls ← serialPutData8 (rlin3xLurdrl (BitVec.ofNat 8 ch.val) &&& serialRegionMask) data
        modifyDevice ch fun serial => { serial with receivedCounter := times.receive }
        pure (.getchar ch data :: calls)
    else if serial.receivedCounter > 0 then
      modifyDevice ch fun serial => { serial with receivedCounter := serial.receivedCounter - 1 }
      pure []
    else
      modifyDevice ch fun serial => { serial with isReceiving := false }
      pure [.raiseInt (serialRlin3xGetRxIntno ch)]

/-- The three phases of a transmission in `serial_send`. -/
def serialSending (times : SerialTimes) (ch : Fin udnChannelNum) (serial : SerialDevice H) :
    SerialM H (List SerialCall) :=
  if serial.sendCounter = 0 then
    match serial.ops with
    | none => Routine.stop .noOperations
    | some ops => do
      modifyHost (ops.flushed (BitVec.ofNat 8 ch.val))
      modifyDevice ch fun serial =>
        { serial with isSendData := false, sendCounter := serial.sendCounter + 1 }
      if serial.isSendStartIntr = true then
        pure [.raiseInt (serialRlin3xGetTxIntno ch)]
      else pure []
  else if serial.sendCounter ≥ times.send then
    if serial.isSendStartIntr = false then do
      modifyDevice ch fun serial => { serial with isSending := false, sendCounter := 0 }
      pure [.raiseInt (serialRlin3xGetTxIntno ch)]
    else do
      modifyDevice ch fun serial =>
        { serial with
          isSending := if serial.isSendData = false then false else serial.isSending
          sendCounter := 0 }
      pure []
  else do
    modifyDevice ch fun serial => { serial with sendCounter := serial.sendCounter + 1 }
    pure []

/-- `serial_send`. -/
def serialSend (times : SerialTimes) (ch : Fin udnChannelNum) : SerialM H (List SerialCall) := do
  let serial ← getDevice ch
  if serial.isSendEnable = false then pure []
  else
    modifyDevice ch fun serial =>
      { serial with isSending := if serial.isSendData = true then true else serial.isSending }
    let serial ← getDevice ch
    if serial.isSending = true then serialSending times ch serial else pure []

/-- `device_do_serial`. -/
def deviceDoSerial (times : SerialTimes) (ch : Fin udnChannelNum) :
    SerialM H (List SerialCall) := do
  let received ← serialReceive times ch
  let sent ← serialSend times ch
  pure (received ++ sent)

/-- `device_supply_clock_serial`. -/
def deviceSupplyClockSerial (times : SerialTimes) : SerialM H (List SerialCall) :=
  deviceDoSerial times 1

/-! ## Events -/

/-- What can happen to the device; `E` is what can happen behind the registered
operations. -/
inductive SerialEvent (E : Type) where
  | get8 (addr : BitVec 32)
  | get16 (addr : BitVec 32)
  | get32 (addr : BitVec 32)
  | put8 (addr : BitVec 32) (data : BitVec 8)
  | put16 (addr : BitVec 32) (data : BitVec 16)
  | put32 (addr data : BitVec 32)
  /-- A word store through `serial_get_pointer`. -/
  | storePointer (addr data : BitVec 32)
  | clock
  | host (e : E)
  /-- `device_reset`. -/
  | reset

/-- What does not change: the operations of channel 1, the times, and the
effect of the events behind the operations. -/
structure SerialPlatform (H E : Type) where
  ops : DeviceExSerialOp H
  times : SerialTimes
  hostStep : E → H → H

variable {E : Type}

/-- One event. -/
def serialStep (p : SerialPlatform H E) : SerialEvent E → SerialM H (List SerialCall)
  | .get8 addr => do
    let _ ← serialGetData8 addr
    pure []
  | .get16 addr => do
    let _ ← serialGetData16 addr
    pure []
  | .get32 addr => do
    let _ ← serialGetData32 addr
    pure []
  | .put8 addr data => serialPutData8 addr data
  | .put16 addr data => serialPutData16 addr data
  | .put32 addr data => serialPutData32 addr data
  | .storePointer addr data => do
    putBytes addr 4 data.toNat
    pure []
  | .clock => deviceSupplyClockSerial p.times
  | .host e => do
    modifyHost (p.hostStep e)
    pure []
  | .reset => do
    Routine.modify (resetSerial p.ops)
    pure []

/-- The events one after the other; the journal has the calls of each. -/
def serialRun (p : SerialPlatform H E) (events : List (SerialEvent E)) :
    SerialM H (List (List SerialCall)) :=
  events.mapM (serialStep p)

end Athrill
