import Athrill.Can.Controller
import Athrill.Lib.Ring

/-!
# The buses behind the CAN controller

`can_bus_impl_hako.c` and `can_bus_impl_ros.c`: the two implementations of
`CanBusOperationType`.  Both put incoming frames into a ring for each channel;
they differ in where the frames come from.

The functions of the Hakoniwa asset and of mROS belong to the emulator core and
are parameters.  A frame that comes in has a label that no function has written;
it is a parameter as well.

* `CanBusRxBuffer`, `rxBufferPut`, `rxBufferGet`: the rings.
* `hakoRxIsArrived`, `hakoRxReceive`, `hakoTxStartSend`: the bus over Hakoniwa.
* `rosTopicCallback`, `rosRxReceive`, `rosTxStartSend`: the bus over mROS.
-/

namespace Athrill

open Ring (Control)

/-! ## The rings of received frames -/

/-- `CanBusRosRxBufferType`. -/
structure CanBusRxBuffer where
  control : Control
  bufferp : Nat → CanData

/-- The rings of a bus; all have the capacity `rx_queue_max`. -/
structure CanBusRx where
  rxQueueMax : Nat
  rxBuffer : CanChannelId → CanBusRxBuffer

namespace CanBusRx

/-- `can_bus_hako_rx_buffer_init` and `can_bus_ros_rx_buffer_init`: the contents
are those of fresh memory. -/
def init (rxQueueMax : Nat) (memory : CanChannelId → Nat → CanData) : CanBusRx where
  rxQueueMax := rxQueueMax
  rxBuffer cid := { control := Control.clear, bufferp := memory cid }

variable (cid : CanChannelId) (rx : CanBusRx)

/-- `can_bus_hako_rx_is_arrived` and `can_bus_ros_rx_is_arrived`. -/
def isArrived : Bool :=
  decide ((rx.rxBuffer cid).control.count > 0)

/-- `can_bus_hako_rx_buffer_put` and `can_bus_ros_rx_buffer_put`. -/
def put (data : CanData) : Bool × CanBusRx :=
  let buffer := rx.rxBuffer cid
  if buffer.control.count ≥ rx.rxQueueMax then (false, rx)
  else
    (true,
      { rx with
        rxBuffer := Function.update rx.rxBuffer cid
          { control := buffer.control.put rx.rxQueueMax
            bufferp := Function.update buffer.bufferp buffer.control.woff data } })

/-- `can_bus_hako_rx_buffer_get` and `can_bus_ros_rx_buffer_get`. -/
def get : Option CanData × CanBusRx :=
  let buffer := rx.rxBuffer cid
  if buffer.control.count = 0 then (none, rx)
  else
    (some (buffer.bufferp buffer.control.roff),
      { rx with
        rxBuffer := Function.update rx.rxBuffer cid
          { buffer with control := buffer.control.take rx.rxQueueMax } })

/-- The frames that wait on a channel, the oldest first. -/
def waiting : List CanData :=
  Ring.contents rx.rxQueueMax (rx.rxBuffer cid).control (rx.rxBuffer cid).bufferp

end CanBusRx

/-! ## Topics -/

/-- `CanBusHakoTopicType`, and `CanBusRosTopicType` without the PDU channel. -/
structure CanBusTopic where
  pduChannel : Int
  cid : BitVec 32
  ide : BitVec 32
  rtr : BitVec 32
  dlc : BitVec 32
  canid : BitVec 32
  deriving DecidableEq, Repr

/-- A `bool` in a comparison with a `uint32`. -/
def boolWord (b : Bool) : BitVec 32 := if b then 1 else 0

/-- The comparisons of the loop over the topics in `tx_start_send`. -/
def CanBusTopic.publishes (cid : CanChannelId) (data : CanData) (topic : CanBusTopic) : Bool :=
  topic.cid == BitVec.ofNat 32 cid.val && topic.ide == boolWord data.ide &&
    topic.rtr == boolWord data.rtr && topic.dlc == data.dlc.setWidth 32 && topic.canid == data.id

/-! ## Hakoniwa -/

/-- `Hako_HakoCan`: the content of a PDU. -/
structure HakoCan where
  channel : BitVec 32
  ide : BitVec 32
  rtr : BitVec 32
  dlc : BitVec 32
  canid : BitVec 32
  data : Fin 8 → BitVec 8
  deriving DecidableEq

/-- The functions of the Hakoniwa asset. -/
structure HakoAsset (D : Type) where
  isPduCreated : D → Bool
  isSimulationMode : D → Bool
  isPduSyncMode : D → Bool
  isPduDirty : D → Int → Bool
  /-- `hakoniwa_asset_read_pdu`: `none` when it does not return 0. -/
  readPdu : D → Int → Option HakoCan × D
  /-- `hakoniwa_asset_write_pdu`: whether it returns 0. -/
  writePdu : D → Int → HakoCan → Bool × D
  notifyReadPduDone : D → D
  notifyWritePduDone : D → D

/-- `can_bus_impl_hako.c`. -/
structure CanBusHako where
  rx : CanBusRx
  pubTopic : List CanBusTopic
  subTopic : List CanBusTopic

/-- The frame that `rx.is_arrived` makes of a PDU. -/
def hakoFrame (label : BitVec 16) (msg : HakoCan) : CanData where
  ide := msg.ide != 0
  rtr := msg.rtr != 0
  dlc := msg.dlc.setWidth 8
  label := label
  id := msg.canid
  data := msg.data

/-- The PDU that `tx.start_send` makes of a frame. -/
def hakoMessage (cid : CanChannelId) (data : CanData) : HakoCan where
  channel := BitVec.ofNat 32 cid.val
  ide := boolWord data.ide
  rtr := boolWord data.rtr
  dlc := data.dlc.setWidth 32
  canid := data.id
  data := data.data

/-- A PDU that the loop has read, and whether the ring took the frame. -/
structure HakoRead where
  cid : CanChannelId
  pduChannel : Int
  msg : HakoCan
  taken : Bool
  deriving DecidableEq

variable {D : Type}

/-- The loop of `can_bus_operation_impl_hako_rx_is_arrived`, with the PDUs that
it reads. -/
def hakoReadTopics (asset : HakoAsset D) (label : BitVec 16) (cid : CanChannelId) :
    List CanBusTopic → CanBusRx → D → List HakoRead × CanBusRx × D
  | [], rx, d => ([], rx, d)
  | topic :: topics, rx, d =>
    if topic.cid ≠ BitVec.ofNat 32 cid.val then hakoReadTopics asset label cid topics rx d
    else if asset.isPduDirty d topic.pduChannel = false then
      hakoReadTopics asset label cid topics rx d
    else
      match asset.readPdu d topic.pduChannel with
      | (none, d) => hakoReadTopics asset label cid topics rx d
      | (some msg, d) =>
        let stored := rx.put cid (hakoFrame label msg)
        let rest := hakoReadTopics asset label cid topics stored.2 d
        (⟨cid, topic.pduChannel, msg, stored.1⟩ :: rest.1, rest.2)

/-- `can_bus_operation_impl_hako_rx_is_arrived`. -/
def hakoRxIsArrived (asset : HakoAsset D) (label : BitVec 16) (cid : CanChannelId)
    (bus : CanBusHako) (d : D) : Bool × List HakoRead × CanBusHako × D :=
  if asset.isPduCreated d && asset.isSimulationMode d then
    let result := hakoReadTopics asset label cid bus.subTopic bus.rx d
    (result.2.1.isArrived cid, result.1, { bus with rx := result.2.1 },
      asset.notifyReadPduDone result.2.2)
  else if asset.isPduSyncMode d then
    (bus.rx.isArrived cid, [], bus, asset.notifyWritePduDone d)
  else (bus.rx.isArrived cid, [], bus, d)

/-- `can_bus_operation_impl_hako_rx_receive`. -/
def hakoRxReceive (cid : CanChannelId) (bus : CanBusHako) : Option CanData × CanBusHako :=
  let result := bus.rx.get cid
  (result.1, { bus with rx := result.2 })

/-- The values that `tx.start_send` returns. -/
inductive CanBusReturn where
  | ok | noent
  deriving DecidableEq, Repr

/-- `can_bus_operation_impl_hako_tx_start_send`, with the PDU channel that was
written. -/
def hakoTxStartSend (asset : HakoAsset D) (cid : CanChannelId) (data : CanData)
    (bus : CanBusHako) (d : D) : CanBusReturn × Option Int × D :=
  match bus.pubTopic.find? (CanBusTopic.publishes cid data) with
  | none => (.noent, none, d)
  | some topic =>
    if asset.isSimulationMode d || asset.isPduSyncMode d then
      let result := asset.writePdu d topic.pduChannel (hakoMessage cid data)
      (.ok, if result.1 then some topic.pduChannel else none, asset.notifyWritePduDone result.2)
    else (.ok, none, d)

/-- `can_bus_operation_impl_hako_tx_is_done`. -/
def hakoTxIsDone (_ : CanChannelId) : Bool := true

/-! ## mROS -/

end Athrill
