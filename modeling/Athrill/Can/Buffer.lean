import Athrill.Can.Fifo

/-!
# Buffers and transmit queues of the CAN controller

`can_buffer.c` and `can_tx_queue.c`.  A transmit queue has a slot for each
transmit buffer of its channel; software fills it through the last buffer.

* `CanRxBufferControl`, `CanTxBuffer`: the buffers.
* `CanTxQueue`: the slots and their configuration.
* `canRxbufferPutRxdata` to `canTxqueNotifyTxdone`: the accesses.

An array access that the source does not keep in range is `none` here when the
index is out of range, because the language leaves it undefined.
-/

namespace Athrill

/-! ## Receive buffers -/

/-- `CAN_RX_BUFFER_NUM`. -/
abbrev canRxBufferNum : Nat := 96

/-- `CanRxBufferControlType`. -/
structure CanRxBufferControl where
  rxBufferNum : BitVec 8
  rxMsginFlag : Fin 3 → BitVec 32
  buf : Fin canRxBufferNum → CanData

/-- `can_rxbuffer_put_rxdata`. -/
def canRxbufferPutRxdata (rxbufferId : Nat) (rxdata : CanData) (control : CanRxBufferControl) :
    Option CanRxBufferControl :=
  if h : rxbufferId < canRxBufferNum then
    have hflag : rxbufferId / 32 < 3 := Nat.div_lt_of_lt_mul h
    let flagId : Fin 3 := ⟨rxbufferId / 32, hflag⟩
    some
      { control with
        rxMsginFlag :=
          Function.update control.rxMsginFlag flagId
            (control.rxMsginFlag flagId ||| (1#32 <<< (rxbufferId % 32)))
        buf := Function.update control.buf ⟨rxbufferId, h⟩ rxdata }
  else none

/-! ## Transmit buffers -/

/-- `CanBufferIdxType` for the transmit buffers of a channel. -/
abbrev CanTxBufferIdx := Fin 16

/-- `CAN_TX_BUFFER_RESULT_OK`. -/
def canTxBufferResultOk : BitVec 8 := 2

/-- `CanTxBufferType`, with the message as one part. -/
structure CanTxBuffer where
  reqTx : Bool
  result : BitVec 8
  sending : Bool
  message : CanData
  deriving DecidableEq

/-- `can_txbuffer_get_txdata`. -/
def canTxbufferGetTxdata (buffer : CanTxBuffer) : CanData × CanTxBuffer :=
  (buffer.message, { buffer with sending := true })

/-- `can_txbuffer_peek_txdata`. -/
def canTxbufferPeekTxdata (buffer : CanTxBuffer) : Except CanReturn CanData :=
  if buffer.reqTx then .ok buffer.message else .error .noent

/-- `can_txbuffer_notify_txdone`. -/
def canTxbufferNotifyTxdone (buffer : CanTxBuffer) : CanTxBuffer :=
  if buffer.reqTx then
    { buffer with result := canTxBufferResultOk, sending := false, reqTx := false }
  else buffer

/-! ## Transmit queues -/

/-- `CanTxQueueDataType`. -/
structure CanTxQueueData where
  txReq : Bool
  data : CanData
  deriving DecidableEq

/-- The `config` part of a queue, `RSCANnTXQCCm`. -/
structure TxQueueConfig where
  intrFactor : Bool
  enableIntr : Bool
  quelen : Fin 16
  enableQueue : Bool
  deriving DecidableEq, Repr

/-- The `status` part of a queue, `RSCANnTXQSTSm`. -/
structure TxQueueStatus where
  intrReq : Bool
  isFull : Bool
  isEmpty : Bool
  deriving DecidableEq, Repr

/-- `CanTxQueueType`. -/
structure CanTxQueue where
  config : TxQueueConfig
  status : TxQueueStatus
  reqbufnum : Nat
  txData : CanTxBufferIdx → CanTxQueueData

/-- `can_txque_peek_txdata`. -/
def canTxquePeekTxdata (txbufno : CanTxBufferIdx) (queue : CanTxQueue) :
    Except CanReturn CanData :=
  if queue.config.enableQueue = false then .error .invalid
  else if queue.config.quelen = 0 then .error .invalid
  else if (queue.txData txbufno).txReq = false then .error .noent
  else .ok (queue.txData txbufno).data

/-- `can_txque_get_txdata`. -/
def canTxqueGetTxdata (txbufno : CanTxBufferIdx) (queue : CanTxQueue) : Except CanReturn CanData :=
  canTxquePeekTxdata txbufno queue

/-- The loop of `can_txque_put_txdata`, with `count` slots left: the slot at
which it breaks. -/
def canTxqueSearch (txData : CanTxBufferIdx → CanTxQueueData) :
    Nat → CanTxBufferIdx → Option CanTxBufferIdx
  | 0, _ => none
  | count + 1, bufno =>
    if (txData bufno).txReq = false then some bufno else canTxqueSearch txData count (bufno - 1)

/-- `can_txque_put_txdata`; `message` is that of the last transmit buffer of the
channel. -/
def canTxquePutTxdata (message : CanData) (queue : CanTxQueue) : CanTxQueue :=
  if queue.config.enableQueue = false then queue
  else if queue.config.quelen = 0 then queue
  else
    let maxquelen := queue.config.quelen.val + 1
    if queue.reqbufnum ≥ maxquelen then queue
    else
      let queue := { queue with reqbufnum := queue.reqbufnum + 1 }
      match canTxqueSearch queue.txData maxquelen 15 with
      | none => queue
      | some bufno =>
        { queue with
          txData := Function.update queue.txData bufno { txReq := true, data := message }
          status :=
            { queue.status with
              isFull := if queue.reqbufnum ≥ maxquelen then true else queue.status.isFull
              isEmpty := false } }

/-- `can_txque_notify_txdone`. -/
def canTxqueNotifyTxdone (txbufno : CanTxBufferIdx) (queue : CanTxQueue) : CanTxQueue :=
  if (queue.txData txbufno).txReq then
    let reqbufnum := queue.reqbufnum - 1
    let isEmpty := if reqbufnum = 0 then true else queue.status.isEmpty
    let intrReq :=
      if queue.config.intrFactor then true
      else if isEmpty then true
      else queue.status.intrReq
    { queue with
      reqbufnum := reqbufnum
      txData :=
        Function.update queue.txData txbufno { queue.txData txbufno with txReq := false }
      status := { intrReq := intrReq, isFull := false, isEmpty := isEmpty } }
  else queue

end Athrill
