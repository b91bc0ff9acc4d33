import Athrill.Can.Buffer
import Athrill.Can.Register

/-!
# The CAN controller

The whole state of the controller, `can_rx.c`, `can_tx.c` and
`can_interrupt.c`: what one clock of the bus does.

* `CanRxRule`, `CanRxRuleTable`: the reception rules.
* `CanController`: the state.
* `CanBus`, `CanOutput`: what the bus answers in a clock, and what the
  controller does towards it.
* `CanController.canRxProc`, `canTxProc`, `canTxDone`, `canIntrRun`: the four
  parts of a clock.
* `CanController.deviceSupplyClockCan`: the clock.

An index that the source does not keep in range gives `none`.
-/

namespace Athrill

/-! ## Reception rules -/

/-- The `id` and the `mask` part of a rule, `RSCANnGAFLIDj` and `RSCANnGAFLMj`. -/
structure RxRuleId where
  ide : Bool
  rtr : Bool
  canid : BitVec 32
  deriving DecidableEq, Repr

/-- The `filter_buffer` part of a rule, `RSCANnGAFLP0j`. -/
structure RxRuleBuffer where
  dlc : BitVec 8
  label : BitVec 16
  enableRxbuffer : Bool
  rxbufferNumber : BitVec 8
  deriving DecidableEq, Repr

/-- The `filter_fifo` part of a rule, `RSCANnGAFLP1j`. -/
structure RxRuleFifo where
  txrxFifo : BitVec 32
  rxFifo : BitVec 8
  deriving DecidableEq, Repr

/-- `CanRxRuleType`. -/
structure CanRxRule where
  id : RxRuleId
  mask : RxRuleId
  filterBuffer : RxRuleBuffer
  filterFifo : RxRuleFifo
  deriving DecidableEq, Repr

/-- `CAN_RX_PAGE_RULE_NUM`. -/
abbrev canRxPageRuleNum : Nat := 16

/-- `CAN_RX_RULE_TABLE_PAGE_NUM`. -/
abbrev canRxRuleTablePageNum : Nat := 24

/-- `CanRxRuleTableType`. -/
structure CanRxRuleTable where
  enableWrite : Bool
  pageNumber : Nat
  page : Fin canRxRuleTablePageNum → Fin canRxPageRuleNum → CanRxRule

/-- The address of an entry of the table. -/
structure CanRxRulePointer where
  pid : Nat
  pidx : Fin canRxPageRuleNum
  deriving DecidableEq, Repr

/-- The rule at an address. -/
def CanRxRuleTable.rule (table : CanRxRuleTable) (p : CanRxRulePointer) : Option CanRxRule :=
  if h : p.pid < canRxRuleTablePageNum then some (table.page ⟨p.pid, h⟩ p.pidx) else none

/-- `CAN_RX_GET_PAGEID` and `CAN_RX_GET_PAGEIDX` of a rule number. -/
def canRxRulePointer (rid : Nat) : CanRxRulePointer where
  pid := rid / canRxPageRuleNum
  pidx := Fin.ofNat canRxPageRuleNum rid

/-- `can_rx_update_rule_table`: the rules of the channels, with the number of
the next rule. -/
def canRxUpdateRuleTable (rxNumber : CanChannelId → Nat) : CanChannelId → List CanRxRulePointer :=
  ((List.finRange canChannelNum).foldl
    (fun (acc : Nat × (CanChannelId → List CanRxRulePointer)) cid =>
      (acc.1 + rxNumber cid,
        Function.update acc.2 cid ((List.range' acc.1 (rxNumber cid)).map canRxRulePointer)))
    (0, fun _ => [])).2

/-! ## The state -/

/-- `CanBufferIdType` for the receive FIFOs. -/
abbrev CanRxFifoId := Fin 8

/-- `CanBufferIdxType` for the TXRX FIFOs of a channel. -/
abbrev CanTxrxFifoIdx := Fin 3

/-- The number of a FIFO is one of a buffer. -/
theorem txrxFifoNum_le : 3 ≤ 16 := by decide

/-- The functions that `get_txdata` and `notify_txdone` can point to. -/
inductive CanTxSource where
  | buffer | fifo | queue
  deriving DecidableEq, Repr

/-- `txreq` of one channel in `CanTxControlType`; both pointers are set and
cleared together. -/
structure CanTxReq where
  bufidx : CanTxBufferIdx
  txdata : CanData
  history : CanTxHistoryData
  source : Option CanTxSource
  deriving DecidableEq

/-- The records and register bytes, with the buffers, FIFOs and queues, the
reception rules, the transmissions under way and `txrx_tx_fifodata`. -/
structure CanController extends CanDevice where
  rxBuffer : CanRxBufferControl
  txBuffer : CanChannelId → CanTxBufferIdx → CanTxBuffer
  txIntrEnable : Fin 3 → BitVec 32
  rxFifo : CanRxFifoId → CanRxFifoBuffer
  txrxFifo : CanChannelId → CanTxrxFifoIdx → CanTxRxFifoBuffer
  txQueue : CanChannelId → CanTxQueue
  txHistory : CanChannelId → CanTxHistory
  rxNumber : CanChannelId → Nat
  rxRuleTable : CanRxRuleTable
  rxChannelRule : CanChannelId → List CanRxRulePointer
  txreq : CanChannelId → CanTxReq
  txrxTxFifodata : CanData

/-- The result of `start_send`: whether the return code is `STD_E_OK`, and
whether the bus has the message. -/
structure CanStartSend where
  isOk : Bool
  isAccepted : Bool
  deriving DecidableEq, Repr

/-- `CanBusOperationType`, as it answers in one clock. -/
structure CanBus where
  isArrived : CanChannelId → Bool
  receive : CanChannelId → CanData
  startSend : CanChannelId → CanData → CanStartSend
  isDone : CanChannelId → Bool

/-- The calls that leave the controller in a clock. -/
inductive CanOutput where
  /-- `rx.receive` has given a frame. -/
  | received (cid : CanChannelId) (frame : CanData)
  /-- `tx.start_send` was called. -/
  | startSend (cid : CanChannelId) (message : CanData) (result : CanStartSend)
  /-- `notify_txdone` was called. -/
  | txDone (cid : CanChannelId) (source : CanTxSource) (bufidx : CanTxBufferIdx)
  /-- `device_raise_int`. -/
  | raiseInt (intno : Nat)
  deriving DecidableEq

namespace CanController

/-! ## Updates of one buffer -/

def modifyTxBuffer (cid : CanChannelId) (bufno : CanTxBufferIdx) (f : CanTxBuffer → CanTxBuffer)
    (s : CanController) : CanController :=
  { s with
    txBuffer :=
      Function.update s.txBuffer cid
        (Function.update (s.txBuffer cid) bufno (f (s.txBuffer cid bufno))) }

def modifyRxFifo (x : CanRxFifoId) (f : CanRxFifoBuffer → CanRxFifoBuffer) (s : CanController) :
    CanController :=
  { s with rxFifo := Function.update s.rxFifo x (f (s.rxFifo x)) }

def modifyTxrxFifo (cid : CanChannelId) (k : CanTxrxFifoIdx)
    (f : CanTxRxFifoBuffer → CanTxRxFifoBuffer) (s : CanController) : CanController :=
  { s with
    txrxFifo :=
      Function.update s.txrxFifo cid
        (Function.update (s.txrxFifo cid) k (f (s.txrxFifo cid k))) }

def modifyTxQueue (cid : CanChannelId) (f : CanTxQueue → CanTxQueue) (s : CanController) :
    CanController :=
  { s with txQueue := Function.update s.txQueue cid (f (s.txQueue cid)) }

def modifyTxHistory (cid : CanChannelId) (f : CanTxHistory → CanTxHistory) (s : CanController) :
    CanController :=
  { s with txHistory := Function.update s.txHistory cid (f (s.txHistory cid)) }

def modifyTxreq (cid : CanChannelId) (f : CanTxReq → CanTxReq) (s : CanController) :
    CanController :=
  { s with txreq := Function.update s.txreq cid (f (s.txreq cid)) }

/-- `can_mode_channel_event` for the events of a transfer, which reset nothing. -/
def commEvent (cid : CanChannelId) (event : CanModeChannelEvent) (s : CanController) :
    CanController :=
  { s with modeGlobal := canModeChannelEvent cid event s.modeGlobal }

/-! ## Reception -/

/-- `can_rx_proc_filter_acceptance`. -/
def canRxProcFilterAcceptance (rule : CanRxRule) (frame : CanData) : Bool :=
  if rule.mask.ide ∧ rule.id.ide ≠ frame.ide then false
  else if rule.mask.rtr ∧ rule.id.rtr ≠ frame.rtr then false
  else if rule.mask.canid ≠ 0 ∧
      rule.id.canid &&& rule.mask.canid ≠ frame.id &&& rule.mask.canid then false
  else true

/-- `can_rx_proc_filter_dlc`, without the error flag. -/
def canRxProcFilterDlc (enableDlcCheck : Bool) (rule : CanRxRule) (frame : CanData) : Bool :=
  if enableDlcCheck = false then true
  else if rule.filterBuffer.dlc ≠ 0 then decide (¬ frame.dlc < rule.filterBuffer.dlc)
  else true

/-- `can_rxfifo_put_rxdata` for the receive FIFOs of a rule. -/
def routeRxFifo (rule : CanRxRule) (frame : CanData) (s : CanController) : CanController :=
  (List.finRange 8).foldl
    (fun s x =>
      if rule.filterFifo.rxFifo.getLsbD x.val then
        s.modifyRxFifo x fun fifo => (canRxfifoPutRxdata frame fifo).2
      else s) s

/-- `can_txrxfifo_put_rxdata` for the TXRX FIFOs of a rule, as far as they are
in the channel. -/
def routeTxrxFifo (cid : CanChannelId) (rule : CanRxRule) (frame : CanData) (s : CanController) :
    CanController :=
  (List.finRange 3).foldl
    (fun s k =>
      if rule.filterFifo.txrxFifo.getLsbD (3 * cid.val + k.val) then
        s.modifyTxrxFifo cid k fun fifo => (canTxrxfifoPutRxdata frame fifo).2
      else s) s

/-- `can_rx_proc_routing`. -/
def canRxProcRouting (cid : CanChannelId) (rule : CanRxRule) (frame : CanData)
    (s : CanController) : Option CanController :=
  let frame := { frame with label := rule.filterBuffer.label }
  let rxBuffer :=
    if rule.filterBuffer.enableRxbuffer then
      canRxbufferPutRxdata rule.filterBuffer.rxbufferNumber.toNat frame s.rxBuffer
    else some s.rxBuffer
  rxBuffer.map fun rxBuffer =>
    routeTxrxFifo cid rule frame (routeRxFifo rule frame { s with rxBuffer := rxBuffer })

/-- The flag that `can_rx_proc_filter_dlc` sets. -/
def setDlcError (s : CanController) : CanController :=
  { s with
    modeGlobal :=
      { s.modeGlobal with status := { s.modeGlobal.status with dlcError := true } } }

/-- `can_rx_proc_one`, on the rule that the pointer leads to. -/
def canRxProcRule (cid : CanChannelId) (frame : CanData) (s : CanController)
    (p : CanRxRulePointer) : Option CanController :=
  (s.rxRuleTable.rule p).bind fun rule =>
    if canRxProcFilterAcceptance rule frame = false then some s
    else if canRxProcFilterDlc s.modeGlobal.config.enableDlcCheck rule frame = false then
      some s.setDlcError
    else s.canRxProcRouting cid rule frame

/-- `can_rx_proc` for one channel. -/
def canRxProcOne (bus : CanBus) (cid : CanChannelId) (s : CanController) :
    Option (CanController × List CanOutput) :=
  if bus.isArrived cid = false then some (s, [])
  else if (s.modeGlobal.channel cid).mode ≠ .comm then some (s, [])
  else
    let s := s.commEvent cid .commRxStart
    if (s.modeGlobal.channel cid).commMode ≠ .rx then some (s, [])
    else
      let frame := bus.receive cid
      ((s.rxChannelRule cid).foldlM (canRxProcRule cid frame) s).map fun s =>
        (s.commEvent cid .commRxDone, [.received cid frame])

/-! ## Selection of a message to send -/

/-- The fields that a selection writes. -/
structure Selection where
  bufidx : CanTxBufferIdx
  buftype : BitVec 8
  bufno : Nat
  source : CanTxSource

/-- The loop over the transmit buffers of `can_tx_select_buffer_prio_bufno`. -/
def firstTxBuffer (s : CanController) (cid : CanChannelId) : Option CanTxBufferIdx :=
  (List.finRange 16).find? fun bufno => (s.txBuffer cid bufno).reqTx

/-- `CAN_TX_BUFFER_ID`. -/
def canTxBufferId (cid bufno : Nat) : Nat := cid * 16 + bufno

/-- The loop over the TXRX FIFOs of `can_tx_select_buffer_prio_bufno`:
`min_tx_bufno` and `is_tx_buffer`.  A FIFO is compared through its global buffer
number and remembered through the number in its channel. -/
def prioBufnoFifos (s : CanController) (cid : CanChannelId) (minTxBufno : Nat) : Nat × Bool :=
  (List.finRange 3).foldl
    (fun (acc : Nat × Bool) k =>
      let fifo := s.txrxFifo cid k
      if fifo.config.mode ≠ canTxrxFifoModeTx then acc
      else if fifo.fifoControl.count = 0 then acc
      else if canTxBufferId cid.val fifo.config.txBufno.val < acc.1 then
        (fifo.config.txBufno.val, false)
      else acc) (minTxBufno, true)

/-- `can_tx_select_buffer_prio_bufno`; after the loops `bufno` is the number of
FIFOs. -/
def canTxSelectBufferPrioBufno (s : CanController) (cid : CanChannelId) : Option Selection :=
  let noBuffer := canTxBufferId canChannelNum 16
  let minTxBufno := match s.firstTxBuffer cid with
    | some bufno => canTxBufferId cid.val bufno.val
    | none => noBuffer
  let (minTxBufno, isTxBuffer) := s.prioBufnoFifos cid minTxBufno
  if minTxBufno = noBuffer then none
  else if isTxBuffer then
    some
      { bufidx := Fin.ofNat 16 minTxBufno, buftype := 1, bufno := minTxBufno, source := .buffer }
  else
    some
      { bufidx := Fin.ofNat 16 minTxBufno, buftype := 2, bufno := cid.val * 3 + 3
        source := .fifo }

/-- `can_get_check_id`. -/
def canGetCheckId (data : CanData) : BitVec 32 :=
  let stdid := data.id &&& 0x7FF
  let extid := data.id &&& 0x1FFFF800
  if data.ide then
    let checkid := stdid ||| (1#32 <<< 11) ||| (1#32 <<< 12) ||| (extid <<< 13)
    if data.rtr then checkid ||| (1#32 <<< 31) else checkid
  else if data.rtr then stdid ||| (1#32 <<< 11)
  else stdid

/-- `min_id`, `candidate_bufno` and `buftype` of
`can_tx_select_buffer_prio_standard`. -/
structure Candidate where
  minId : BitVec 32
  bufidx : CanTxBufferIdx
  source : CanTxSource

/-- One source in the loops of `can_tx_select_buffer_prio_standard`. -/
def consider (source : CanTxSource) (bufidx : CanTxBufferIdx) (peek : Except CanReturn CanData)
    (best : Option Candidate) : Option Candidate :=
  match peek with
  | .error _ => best
  | .ok data =>
    let checkid := canGetCheckId data
    let minId := match best with
      | some best => best.minId
      | none => 0xFFFFFFFF
    if checkid < minId then some { minId := checkid, bufidx := bufidx, source := source } else best

/-- The three loops of `can_tx_select_buffer_prio_standard`. -/
def prioStandardCandidate (s : CanController) (cid : CanChannelId) : Option Candidate :=
  let best := (List.finRange 16).foldl
    (fun best bufno =>
      consider .buffer bufno (canTxbufferPeekTxdata (s.txBuffer cid bufno)) best) none
  let best := (List.finRange 3).foldl
    (fun best k =>
      consider .fifo (k.castLE txrxFifoNum_le) (canTxrxfifoPeekTxdata (s.txrxFifo cid k)) best) best
  if (s.txQueue cid).config.enableQueue then
    (List.finRange 16).foldl
      (fun best bufno =>
        consider .queue bufno (canTxquePeekTxdata bufno (s.txQueue cid)) best) best
  else best

/-- `can_tx_select_buffer_prio_standard`. -/
def canTxSelectBufferPrioStandard (s : CanController) (cid : CanChannelId) : Option Selection :=
  (s.prioStandardCandidate cid).map fun best =>
    match best.source with
    | .buffer =>
      { bufidx := best.bufidx, buftype := 1, bufno := canTxBufferId cid.val best.bufidx.val
        source := .buffer }
    | .fifo =>
      { bufidx := best.bufidx, buftype := 2, bufno := cid.val * 3 + best.bufidx.val
        source := .fifo }
    | .queue =>
      { bufidx := best.bufidx, buftype := 4, bufno := canTxBufferId cid.val best.bufidx.val
        source := .queue }

/-- The selection that the configuration asks for. -/
def selection (s : CanController) (cid : CanChannelId) : Option Selection :=
  if s.modeGlobal.config.enableTxBufnoFirst then s.canTxSelectBufferPrioBufno cid
  else s.canTxSelectBufferPrioStandard cid

/-- What a selection leaves in `txreq`; the label is that of the message sent
before. -/
def selected (choice : Selection) (req : CanTxReq) : CanTxReq :=
  { req with
    bufidx := choice.bufidx
    source := some choice.source
    history :=
      { label := req.txdata.label.setWidth 8
        bufno := BitVec.ofNat 8 choice.bufno
        buftype := choice.buftype } }

/-! ## Transmission -/

/-- `get_txdata`: the message, and the controller afterwards. -/
def getTxdata (s : CanController) (cid : CanChannelId) (source : CanTxSource)
    (bufidx : CanTxBufferIdx) : Option (Except CanReturn CanData × CanController) :=
  match source with
  | .buffer =>
    some (.ok (canTxbufferGetTxdata (s.txBuffer cid bufidx)).1,
      s.modifyTxBuffer cid bufidx fun buffer => (canTxbufferGetTxdata buffer).2)
  | .fifo =>
    if h : bufidx.val < 3 then
      some ((canTxrxfifoGetTxdata (s.txrxFifo cid ⟨bufidx.val, h⟩)).1,
        s.modifyTxrxFifo cid ⟨bufidx.val, h⟩ fun fifo => (canTxrxfifoGetTxdata fifo).2)
    else none
  | .queue => some (canTxqueGetTxdata bufidx (s.txQueue cid), s)

/-- `notify_txdone`; it always returns `STD_E_OK`. -/
def notifyTxdone (s : CanController) (cid : CanChannelId) (source : CanTxSource)
    (bufidx : CanTxBufferIdx) : Option CanController :=
  match source with
  | .buffer => some (s.modifyTxBuffer cid bufidx canTxbufferNotifyTxdone)
  | .fifo =>
    if h : bufidx.val < 3 then
      some (s.modifyTxrxFifo cid ⟨bufidx.val, h⟩ canTxrxfifoNotifyTxdone)
    else none
  | .queue => some (s.modifyTxQueue cid (canTxqueNotifyTxdone bufidx))

/-- `can_tx_send`. -/
def canTxSend (bus : CanBus) (cid : CanChannelId) (source : CanTxSource)
    (bufidx : CanTxBufferIdx) (s : CanController) : Option (CanController × List CanOutput) :=
  (s.getTxdata cid source bufidx).map fun (txdata, s) =>
    match txdata with
    | .error _ => (s, [])
    | .ok txdata =>
      let s := s.modifyTxreq cid fun req => { req with txdata := txdata }
      let result := bus.startSend cid txdata
      if result.isOk = false then (s, [.startSend cid txdata result])
      else
        (s.modifyTxHistory cid fun history =>
            (canTxhlPutThldata (s.txreq cid).history history).2,
          [.startSend cid txdata result])

/-- `can_tx_proc` for one channel. -/
def canTxProcOne (bus : CanBus) (cid : CanChannelId) (s : CanController) :
    Option (CanController × List CanOutput) :=
  if (s.modeGlobal.channel cid).mode ≠ .comm then some (s, [])
  else if (s.modeGlobal.channel cid).commMode ≠ .idle then some (s, [])
  else
    match s.selection cid with
    | none => some (s.modifyTxreq cid fun req => { req with source := none }, [])
    | some choice =>
      let s := s.modifyTxreq cid (selected choice)
      let s := s.commEvent cid .commTxStart
      if (s.modeGlobal.channel cid).commMode ≠ .tx then some (s, [])
      else s.canTxSend bus cid choice.source choice.bufidx

/-- `can_tx_done` for one channel. -/
def canTxDoneOne (bus : CanBus) (cid : CanChannelId) (s : CanController) :
    Option (CanController × List CanOutput) :=
  if (s.modeGlobal.channel cid).mode ≠ .comm then some (s, [])
  else if (s.modeGlobal.channel cid).commMode ≠ .tx then some (s, [])
  else if bus.isDone cid = false then some (s, [])
  else
    (s.txreq cid).source.bind fun source =>
      let bufidx := (s.txreq cid).bufidx
      (s.notifyTxdone cid source bufidx).map fun s =>
        let s := s.modifyTxreq cid fun req => { req with source := none }
        (s.commEvent cid .commTxDone, [.txDone cid source bufidx])

/-! ## Interrupts -/

/-- `CAN_GLOBAL_ERROR_INTNO`. -/
def canGlobalErrorIntno : Nat := 22

/-- `CAN_GLOBAL_RXFIFO_INTNO`. -/
def canGlobalRxfifoIntno : Nat := 23

/-- `txrxfifo_rxdone_intno` in `can_channel_intno`. -/
def txrxfifoRxdoneIntno : CanChannelId → Nat
  | 0 => 25
  | 1 => 114
  | 2 => 218
  | 3 => 221
  | 4 => 273
  | 5 => 288

/-- `txdone_intno` in `can_channel_intno`. -/
def txdoneIntno : CanChannelId → Nat
  | 0 => 26
  | 1 => 115
  | 2 => 219
  | 3 => 222
  | 4 => 274
  | 5 => 289

/-- `can_mode_global_is_msglost`. -/
def canModeGlobalIsMsglost (s : CanController) : Bool :=
  ((List.finRange canChannelNum).any fun cid =>
      (List.finRange 3).any fun k => (s.txrxFifo cid k).status.txrxLost) ||
    (List.finRange 8).any fun x => (s.rxFifo x).status.rxLost

/-- `can_intr_glerror_check`. -/
def canIntrGlerrorCheck (s : CanController) : Bool :=
  (s.modeGlobal.ctrl.enableDlcError && s.modeGlobal.status.dlcError) ||
    (s.modeGlobal.ctrl.enableFifoMsglost && s.canModeGlobalIsMsglost)

/-- `can_intr_rxfifo_check`. -/
def canIntrRxfifoCheck (s : CanController) : Bool :=
  (List.finRange 8).any fun x =>
    (s.rxFifo x).config.enableIntr && (s.rxFifo x).status.rxIntr

/-- The test of `can_intr_txrxfifo_run`. -/
def canIntrTxrxfifoCheck (s : CanController) (cid : CanChannelId) : Bool :=
  (List.finRange 3).any fun k =>
    (s.txrxFifo cid k).config.enableRxIntr && (s.txrxFifo cid k).status.rxIntr

/-- The bit of a transmit buffer in `RSCANnTMIECy`. -/
def txIntrEnabled (s : CanController) (cid : CanChannelId) (bufno : CanTxBufferIdx) : Bool :=
  let bufferId := canTxBufferId cid.val bufno.val
  (s.txIntrEnable (Fin.ofNat 3 (bufferId / 32))).getLsbD (bufferId % 32)

/-- `can_intr_tx_buffer_check`, for the buffers and for the queue. -/
def canIntrTxBufferCheck (s : CanController) (cid : CanChannelId) : Bool :=
  ((List.finRange 16).any fun bufno =>
      s.txIntrEnabled cid bufno && decide ((s.txBuffer cid bufno).result &&& 0x2 ≠ 0)) ||
    ((s.txQueue cid).config.enableIntr && (s.txQueue cid).status.intrReq)

/-- `can_intr_tx_fifo_check`. -/
def canIntrTxFifoCheck (s : CanController) (cid : CanChannelId) : Bool :=
  (List.finRange 3).any fun k =>
    (s.txrxFifo cid k).config.enableTxIntr && (s.txrxFifo cid k).status.txIntr

/-- `can_intr_tx_run`: whether the interrupt is raised. -/
def canIntrTxRun (s : CanController) (cid : CanChannelId) : Bool :=
  if s.canIntrTxBufferCheck cid then true
  else if s.canIntrTxFifoCheck cid then true
  else (s.txHistory cid).config.enableIntr && (s.txHistory cid).status.thlIntr

/-- `can_intr_run`: the interrupts in the order in which they are raised. -/
def canIntrRun (s : CanController) : List CanOutput :=
  (if s.canIntrGlerrorCheck then [.raiseInt canGlobalErrorIntno] else []) ++
    (if s.canIntrRxfifoCheck then [.raiseInt canGlobalRxfifoIntno] else []) ++
    (List.finRange canChannelNum).flatMap fun cid =>
      (if s.canIntrTxrxfifoCheck cid then [.raiseInt (txrxfifoRxdoneIntno cid)] else []) ++
        if s.canIntrTxRun cid then [.raiseInt (txdoneIntno cid)] else []

/-! ## The clock -/

/-- A loop over the channels that collects the calls. -/
def eachChannel (f : CanChannelId → CanController → Option (CanController × List CanOutput))
    (s : CanController) : Option (CanController × List CanOutput) :=
  (List.finRange canChannelNum).foldlM
    (fun acc cid => (f cid acc.1).map fun (s, outputs) => (s, acc.2 ++ outputs)) (s, [])

/-- A loop that is skipped unless the controller runs. -/
def whenRunning (f : CanController → Option (CanController × List CanOutput)) (s : CanController) :
    Option (CanController × List CanOutput) :=
  if s.modeGlobal.mode ≠ .run then some (s, []) else f s

/-- `can_rx_proc`. -/
def canRxProc (bus : CanBus) : CanController → Option (CanController × List CanOutput) :=
  whenRunning (eachChannel (canRxProcOne bus))

/-- `can_tx_proc`. -/
def canTxProc (bus : CanBus) : CanController → Option (CanController × List CanOutput) :=
  whenRunning (eachChannel (canTxProcOne bus))

/-- `can_tx_done`. -/
def canTxDone (bus : CanBus) : CanController → Option (CanController × List CanOutput) :=
  whenRunning (eachChannel (canTxDoneOne bus))

/-- `device_supply_clock_can` at a clock of the bus. -/
def deviceSupplyClockCan (bus : CanBus) (s : CanController) :
    Option (CanController × List CanOutput) :=
  (canRxProc bus s).bind fun (s, received) =>
    (canTxProc bus s).bind fun (s, sent) =>
      (canTxDone bus s).map fun (s, done) =>
        (s, received ++ sent ++ done ++ s.canIntrRun)

end CanController

end Athrill
