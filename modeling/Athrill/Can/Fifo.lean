import Athrill.Can.Mode
import Athrill.Lib.Ring
import Mathlib.Data.Fintype.Pi

/-!
# Messages and FIFOs of the CAN controller

`can_data.h`, `can_fifo.c` and `can_tx_history.c`.  A FIFO is a ring in an
array of 128 messages, with a capacity that comes from the length field of its
configuration register.  An access takes the FIFO and gives the return code and
the FIFO afterwards.

* `CanData`: a message.
* `CanRxFifoBuffer`, `CanTxRxFifoBuffer`, `CanTxHistory`: the rings.
* `canRxfifoPutRxdata` to `canTxhlPeekThldata`: the accesses.

The two members of the union in a TXRX FIFO are two arrays here: a message that
is put in one mode is not read in another one.
-/

namespace Athrill

open Ring

/-! ## Messages -/

/-- `CanDataType`, and the message part of `CanRxBufferType` and
`CanTxBufferType`. -/
structure CanData where
  ide : Bool
  rtr : Bool
  dlc : BitVec 8
  label : BitVec 16
  id : BitVec 32
  data : Fin 8 → BitVec 8
  deriving DecidableEq

/-- A message of zeros. -/
def zeroCanData : CanData where
  ide := false
  rtr := false
  dlc := 0
  label := 0
  id := 0
  data _ := 0

/-- The values of `Std_ReturnType` that the buffers return. -/
inductive CanReturn where
  | ok | perm | limit | noent | invalid
  deriving DecidableEq, Repr

/-! ## Receive FIFOs -/

/-- `can_fifo_quelen`. -/
def canFifoQuelen : Fin 8 → Nat
  | 0 => 0
  | 1 => 4
  | 2 => 8
  | 3 => 16
  | 4 => 32
  | 5 => 48
  | 6 => 64
  | 7 => 128

/-- `CAN_RX_FIFO_QUEUE_MAX` and `CAN_TX_FIFO_QUEUE_MAX`. -/
def canFifoQueueMax : Nat := 128

theorem canFifoQuelen_le (quelen : Fin 8) : canFifoQuelen quelen ≤ canFifoQueueMax := by
  revert quelen
  decide

/-- The `config` part of a receive FIFO, `RSCANnRFCCx`. -/
structure RxFifoConfig where
  intrTimingCnt : Nat
  enableIntrEverytime : Bool
  quelen : Fin 8
  enableIntr : Bool
  enableFifo : Bool
  deriving DecidableEq, Repr

/-- The `status` part of a receive FIFO, `RSCANnRFSTSx`. -/
structure RxFifoStatus where
  rxIntr : Bool
  rxLost : Bool
  rxFull : Bool
  rxEmpty : Bool
  deriving DecidableEq, Repr

/-- `CanRxFifoBufferType`. -/
structure CanRxFifoBuffer where
  config : RxFifoConfig
  status : RxFifoStatus
  fifoControl : Control
  buffer : Nat → CanData

/-- `CanFifoRxInterruptParamType`. -/
structure CanFifoRxInterruptParam where
  enableIntr : Bool
  enableIntrEverytime : Bool
  intrTimingCnt : Nat
  quelenMax : Nat

/-- `can_fifo_rx_interrupt_occured`. -/
def canFifoRxInterruptOccured (fifo : Control) (param : CanFifoRxInterruptParam) : Bool :=
  if param.enableIntr = false then false
  else if param.enableIntrEverytime then true
  else
    let intrCount :=
      if param.intrTimingCnt = 7 then param.quelenMax
      else param.quelenMax * (param.intrTimingCnt + 1) / 8
    decide (fifo.count ≥ intrCount)

namespace CanRxFifoBuffer

/-- The capacity. -/
def cap (fifo : CanRxFifoBuffer) : Nat := canFifoQuelen fifo.config.quelen

end CanRxFifoBuffer

/-- `can_rxfifo_put_rxdata`; the interrupt parameter takes the enable bit of
the FIFO for that of the interrupt. -/
def canRxfifoPutRxdata (rxdata : CanData) (fifo : CanRxFifoBuffer) :
    CanReturn × CanRxFifoBuffer :=
  if fifo.config.enableFifo = false then (.perm, fifo)
  else if fifo.fifoControl.count ≥ fifo.cap then
    (.limit, { fifo with status := { fifo.status with rxLost := true } })
  else
    let buffer := Function.update fifo.buffer fifo.fifoControl.woff rxdata
    let control := fifo.fifoControl.put fifo.cap
    let param : CanFifoRxInterruptParam :=
      { enableIntr := fifo.config.enableFifo
        enableIntrEverytime := fifo.config.enableIntrEverytime
        intrTimingCnt := fifo.config.intrTimingCnt
        quelenMax := fifo.cap }
    let status : RxFifoStatus :=
      { fifo.status with
        rxFull := if control.count ≥ fifo.cap then true else fifo.status.rxFull
        rxEmpty := false
        rxIntr := if canFifoRxInterruptOccured control param then true else fifo.status.rxIntr }
    (.ok, { fifo with buffer := buffer, fifoControl := control, status := status })

/-- `can_rxfifo_next_rxdata`. -/
def canRxfifoNextRxdata (fifo : CanRxFifoBuffer) : CanReturn × CanRxFifoBuffer :=
  if fifo.config.enableFifo = false then (.perm, fifo)
  else if fifo.fifoControl.count = 0 then (.noent, fifo)
  else
    let control := fifo.fifoControl.take fifo.cap
    let status : RxFifoStatus :=
      { fifo.status with
        rxFull := if control.count < fifo.cap then false else fifo.status.rxFull
        rxEmpty := if control.count = 0 then true else fifo.status.rxEmpty }
    (.ok, { fifo with fifoControl := control, status := status })

/-- `can_rxfifo_peek_rxdata`. -/
def canRxfifoPeekRxdata (fifo : CanRxFifoBuffer) : Except CanReturn CanData :=
  if fifo.config.enableFifo = false then .error .perm
  else if fifo.fifoControl.count = 0 then .error .noent
  else .ok (fifo.buffer fifo.fifoControl.roff)

/-- `can_rxfifo_clear`. -/
def canRxfifoClear (fifo : CanRxFifoBuffer) : CanRxFifoBuffer :=
  { fifo with fifoControl := .clear }

/-! ## Transmit and receive FIFOs -/

/-- `CAN_TXRX_FIFO_MODE_RX`. -/
def canTxrxFifoModeRx : BitVec 2 := 0

/-- `CAN_TXRX_FIFO_MODE_TX`. -/
def canTxrxFifoModeTx : BitVec 2 := 1

/-- The `config` part of a TXRX FIFO, `RSCANnCFCCk`. -/
structure TxRxFifoConfig where
  txBufno : Fin 16
  mode : BitVec 2
  intrTimingCnt : Nat
  enableIntrEverytime : Bool
  quelen : Fin 8
  enableTxIntr : Bool
  enableRxIntr : Bool
  enableFifo : Bool
  deriving DecidableEq, Repr

/-- The `status` part of a TXRX FIFO, `RSCANnCFSTSk`. -/
structure TxRxFifoStatus where
  txIntr : Bool
  rxIntr : Bool
  txrxLost : Bool
  txrxFull : Bool
  txrxEmpty : Bool
  deriving DecidableEq, Repr

/-- `CanTxRxFifoBufferType`. -/
structure CanTxRxFifoBuffer where
  config : TxRxFifoConfig
  status : TxRxFifoStatus
  fifoControl : Control
  rx : Nat → CanData
  tx : Nat → CanData

namespace CanTxRxFifoBuffer

/-- The capacity. -/
def cap (fifo : CanTxRxFifoBuffer) : Nat := canFifoQuelen fifo.config.quelen

/-- The control and the flags after a message was stored. -/
def stored (fifo : CanTxRxFifoBuffer) : CanTxRxFifoBuffer :=
  let control := fifo.fifoControl.put fifo.cap
  { fifo with
    fifoControl := control
    status :=
      { fifo.status with
        txrxFull := if control.count ≥ fifo.cap then true else fifo.status.txrxFull
        txrxEmpty := false } }

end CanTxRxFifoBuffer

/-- `can_txrxfifo_put_rxdata`. -/
def canTxrxfifoPutRxdata (rxdata : CanData) (fifo : CanTxRxFifoBuffer) :
    CanReturn × CanTxRxFifoBuffer :=
  if fifo.config.mode = canTxrxFifoModeTx then (.perm, fifo)
  else if fifo.config.enableFifo = false then (.perm, fifo)
  else if fifo.fifoControl.count ≥ fifo.cap then
    (.limit, { fifo with status := { fifo.status with txrxLost := true } })
  else
    let rx := Function.update fifo.rx fifo.fifoControl.woff rxdata
    let after := fifo.stored
    let param : CanFifoRxInterruptParam :=
      { enableIntr := fifo.config.enableFifo
        enableIntrEverytime := fifo.config.enableIntrEverytime
        intrTimingCnt := fifo.config.intrTimingCnt
        quelenMax := fifo.cap }
    let rxIntr :=
      if canFifoRxInterruptOccured after.fifoControl param then true else fifo.status.rxIntr
    (.ok, { after with rx := rx, status := { after.status with rxIntr := rxIntr } })

/-- `can_txrxfifo_peek_rxdata`. -/
def canTxrxfifoPeekRxdata (fifo : CanTxRxFifoBuffer) : Except CanReturn CanData :=
  if fifo.config.mode = canTxrxFifoModeTx then .error .perm
  else if fifo.config.enableFifo = false then .error .perm
  else if fifo.fifoControl.count = 0 then .error .noent
  else .ok (fifo.rx fifo.fifoControl.roff)

/-- `can_txrxfifo_next_rxdata`. -/
def canTxrxfifoNextRxdata (fifo : CanTxRxFifoBuffer) : CanReturn × CanTxRxFifoBuffer :=
  if fifo.config.mode = canTxrxFifoModeTx then (.perm, fifo)
  else if fifo.config.enableFifo = false then (.perm, fifo)
  else if fifo.fifoControl.count = 0 then (.noent, fifo)
  else
    let control := fifo.fifoControl.take fifo.cap
    let status : TxRxFifoStatus :=
      { fifo.status with
        txrxFull := if control.count < fifo.cap then false else fifo.status.txrxFull
        txrxEmpty := if control.count = 0 then true else fifo.status.txrxEmpty }
    (.ok, { fifo with fifoControl := control, status := status })

/-- `can_txrxfifo_put_txdata`. -/
def canTxrxfifoPutTxdata (txdata : CanData) (fifo : CanTxRxFifoBuffer) :
    CanReturn × CanTxRxFifoBuffer :=
  if fifo.config.mode ≠ canTxrxFifoModeTx then (.perm, fifo)
  else if fifo.config.enableFifo = false then (.perm, fifo)
  else if fifo.fifoControl.count ≥ fifo.cap then
    (.limit, { fifo with status := { fifo.status with txrxLost := true } })
  else
    (.ok, { fifo.stored with tx := Function.update fifo.tx fifo.fifoControl.woff txdata })

/-- `can_txrxfifo_peek_txdata`. -/
def canTxrxfifoPeekTxdata (fifo : CanTxRxFifoBuffer) : Except CanReturn CanData :=
  if fifo.config.mode ≠ canTxrxFifoModeTx then .error .perm
  else if fifo.config.enableFifo = false then .error .perm
  else if fifo.fifoControl.count = 0 then .error .noent
  else .ok (fifo.tx fifo.fifoControl.roff)

/-- `can_txrxfifo_get_txdata`; the empty flag waits for the end of the
transmission. -/
def canTxrxfifoGetTxdata (fifo : CanTxRxFifoBuffer) :
    Except CanReturn CanData × CanTxRxFifoBuffer :=
  match canTxrxfifoPeekTxdata fifo with
  | .error e => (.error e, fifo)
  | .ok txdata =>
    let control := fifo.fifoControl.take fifo.cap
    let status : TxRxFifoStatus :=
      { fifo.status with
        txrxFull := if control.count < fifo.cap then false else fifo.status.txrxFull }
    (.ok txdata, { fifo with fifoControl := control, status := status })

/-- `can_txrxfifo_clear`. -/
def canTxrxfifoClear (fifo : CanTxRxFifoBuffer) : CanTxRxFifoBuffer :=
  { fifo with fifoControl := .clear }

/-- `can_txrxfifo_notify_txdone`. -/
def canTxrxfifoNotifyTxdone (fifo : CanTxRxFifoBuffer) : CanTxRxFifoBuffer :=
  let txIntr :=
    if fifo.config.enableIntrEverytime then true
    else if fifo.fifoControl.count = 0 then true
    else fifo.status.txIntr
  let control := if fifo.config.enableFifo = false then .clear else fifo.fifoControl
  let txrxEmpty := if control.count = 0 then true else fifo.status.txrxEmpty
  { fifo with
    fifoControl := control
    status := { fifo.status with txIntr := txIntr, txrxEmpty := txrxEmpty } }

/-! ## The transmit history -/

/-- `CanTxHistoryDataType`. -/
structure CanTxHistoryData where
  label : BitVec 8
  bufno : BitVec 8
  buftype : BitVec 8
  deriving DecidableEq, Repr

/-- `CAN_TX_HISTORY_BUFFER_NUM`. -/
def canTxHistoryBufferNum : Nat := 16

/-- The `config` part of a history, `RSCANnTHLCCm`. -/
structure TxHistoryConfig where
  selectTxBuffer : Bool
  selectIntrFactor : Bool
  enableIntr : Bool
  enableHistory : Bool
  deriving DecidableEq, Repr

/-- The `status` part of a history, `RSCANnTHLSTSm`. -/
structure TxHistoryStatus where
  thlIntr : Bool
  thlOvr : Bool
  thlFull : Bool
  thlEmpty : Bool
  deriving DecidableEq, Repr

/-- `CanTxHistoryType`. -/
structure CanTxHistory where
  config : TxHistoryConfig
  status : TxHistoryStatus
  fifoControl : Control
  buffer : Nat → CanTxHistoryData

/-- `can_txhl_put_thldata`. -/
def canTxhlPutThldata (thldata : CanTxHistoryData) (history : CanTxHistory) :
    CanReturn × CanTxHistory :=
  if history.config.enableHistory = false then (.invalid, history)
  else if history.fifoControl.count ≥ canTxHistoryBufferNum then
    (.limit, { history with status := { history.status with thlOvr := true } })
  else
    let buffer := Function.update history.buffer history.fifoControl.woff thldata
    let control := history.fifoControl.put canTxHistoryBufferNum
    let thlIntr :=
      if history.config.selectIntrFactor then true
      else if control.count = 12 then true
      else history.status.thlIntr
    let thlFull := if control.count ≥ canTxHistoryBufferNum then true else history.status.thlFull
    (.ok,
      { history with
        buffer := buffer
        fifoControl := control
        status :=
          { history.status with thlIntr := thlIntr, thlFull := thlFull, thlEmpty := false } })

/-- `can_txhl_next_thldata`. -/
def canTxhlNextThldata (history : CanTxHistory) : CanReturn × CanTxHistory :=
  if history.config.enableHistory = false then (.invalid, history)
  else if history.fifoControl.count = 0 then (.noent, history)
  else
    let control := history.fifoControl.take canTxHistoryBufferNum
    let thlEmpty := if control.count = 0 then true else history.status.thlEmpty
    (.ok,
      { history with
        fifoControl := control
        status := { history.status with thlEmpty := thlEmpty, thlFull := false } })

/-- `can_txhl_peek_thldata`. -/
def canTxhlPeekThldata (history : CanTxHistory) : Except CanReturn CanTxHistoryData :=
  if history.config.enableHistory = false then .error .invalid
  else if history.fifoControl.count = 0 then .error .noent
  else .ok (history.buffer history.fifoControl.roff)

end Athrill
