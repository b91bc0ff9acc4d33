import Athrill.Can.Controller

/-!
# The register map of the CAN controller

`can_register_mapping.c`, the table of `can_register_mapping_io_table.c` and
the handlers of all registers.  A store goes into the register bytes and then
runs the handler of its address; a load runs the handler and then takes the
bytes.  The handlers of the modes are those of `CanDevice`, here with the resets
of the buffers.

* `CanRegisterGroup`, `searchMap`: the table.
* `CanController.canModeEvent`: the events of the modes.
* `CanController.writeHook`, `readHook`: the handlers.
* `CanController.step`, `canController`: the controller with its environment.
-/

namespace Athrill

/-! ## The table -/

/-- The handlers, under the names of their registers. -/
inductive CanRegisterGroup where
  | channel | gcfg | gctr | gsts | gerfl | gtintsts0 | gtintsts1
  | gaflectr | gaflcfg0 | gaflcfg1 | rxRule
  | rmnb | rmndy | rxBuffer
  | rfcc | rfsts | rfpctr | rxFifo
  | cfcc | cfsts | cfpctr | txrxFifo
  | fests | ffsts | fmsts | rfists | cfrists | cftists
  | tmc | tmsts | txBuffer | tmiec
  | tmtrsts | tmtcsts
  | txqcc | txqsts | txqpctr
  | thlcc | thlsts | thlpctr | thlacc
  deriving DecidableEq, Repr

/-- `CanRegisterMappingType`: the start and the size of a group. -/
structure CanRegisterMapping where
  start : Nat
  size : Nat
  group : CanRegisterGroup

/-- `can_reigster_mapping_table`. -/
def canRegisterMappingTable : List CanRegisterMapping :=
  [ ⟨0x0000, 16 * 6, .channel⟩,
    ⟨0x0084, 4, .gcfg⟩, ⟨0x0088, 4, .gctr⟩, ⟨0x008C, 4, .gsts⟩, ⟨0x0090, 4, .gerfl⟩,
    ⟨0x0460, 4, .gtintsts0⟩, ⟨0x0464, 4, .gtintsts1⟩,
    ⟨0x0098, 4, .gaflectr⟩, ⟨0x009C, 4, .gaflcfg0⟩, ⟨0x00A0, 4, .gaflcfg1⟩,
    ⟨0x0500, 16 * 16, .rxRule⟩,
    ⟨0x00A4, 4, .rmnb⟩, ⟨0x00A8, 4 * 3, .rmndy⟩, ⟨0x0600, 16 * 96, .rxBuffer⟩,
    ⟨0x00B8, 4 * 8, .rfcc⟩, ⟨0x00D8, 4 * 8, .rfsts⟩, ⟨0x00F8, 4 * 8, .rfpctr⟩,
    ⟨0x0E00, 16 * 8, .rxFifo⟩,
    ⟨0x0118, 4 * 18, .cfcc⟩, ⟨0x0178, 4 * 18, .cfsts⟩, ⟨0x01D8, 4 * 18, .cfpctr⟩,
    ⟨0x0E80, 16 * 18, .txrxFifo⟩,
    ⟨0x0238, 4, .fests⟩, ⟨0x023C, 4, .ffsts⟩, ⟨0x0240, 4, .fmsts⟩, ⟨0x0244, 4, .rfists⟩,
    ⟨0x0248, 4, .cfrists⟩, ⟨0x024C, 4, .cftists⟩,
    ⟨0x0250, 96, .tmc⟩, ⟨0x02D0, 96, .tmsts⟩, ⟨0x1000, 16 * 96, .txBuffer⟩,
    ⟨0x0390, 4 * 3, .tmiec⟩,
    ⟨0x0350, 4 * 3, .tmtrsts⟩, ⟨0x0370, 4 * 3, .tmtcsts⟩,
    ⟨0x03A0, 4 * 6, .txqcc⟩, ⟨0x03C0, 4 * 6, .txqsts⟩, ⟨0x03E0, 4 * 6, .txqpctr⟩,
    ⟨0x0400, 4 * 6, .thlcc⟩, ⟨0x0420, 4 * 6, .thlsts⟩, ⟨0x0440, 4 * 6, .thlpctr⟩,
    ⟨0x1800, 4 * 6, .thlacc⟩ ]

/-- `search_map`. -/
def searchMap (address : Nat) : Option CanRegisterGroup :=
  (canRegisterMappingTable.find? fun map =>
    map.start ≤ address ∧ address < map.start + map.size).map CanRegisterMapping.group

/-- `CAN_REG_GROUP_INDEX`. -/
def groupIndex (address start size : Nat) : Nat :=
  (canRegGetAlignedAddr address - start) / size

/-- `cid` of a register of the TXRX FIFOs. -/
def txrxFifoCid (index : Nat) : CanChannelId := Fin.ofNat canChannelNum (index / 3)

/-- `bid` of a register of the TXRX FIFOs. -/
def txrxFifoBid (index : Nat) : CanTxrxFifoIdx := Fin.ofNat 3 index

/-- `cid` of a register of the transmit buffers. -/
def txBufferCid (index : Nat) : CanChannelId := Fin.ofNat canChannelNum (index / 16)

/-- `bid` of a register of the transmit buffers. -/
def txBufferBid (index : Nat) : CanTxBufferIdx := Fin.ofNat 16 index

/-- A byte of a word, `array[i]`. -/
def wordByte (data : BitVec 32) (i : Nat) : BitVec 8 := (data >>> (8 * i)).setWidth 8

/-- Four bytes of a message as a word. -/
def wordOfBytes (b0 b1 b2 b3 : BitVec 8) : BitVec 32 := b3 ++ b2 ++ b1 ++ b0

/-! ## Resets -/

/-- One receive FIFO in `can_register_reset_rx_fifo`, `GLOBAL_RESET`. -/
def CanRxFifoBuffer.reset (fifo : CanRxFifoBuffer) : CanRxFifoBuffer :=
  { canRxfifoClear fifo with
    config := { fifo.config with enableFifo := false }
    status := { rxIntr := false, rxLost := false, rxFull := false, rxEmpty := true } }

/-- One TXRX FIFO in `can_register_reset_txrx_fifo_channel`. -/
def CanTxRxFifoBuffer.reset (fifo : CanTxRxFifoBuffer) : CanTxRxFifoBuffer :=
  { canTxrxfifoClear fifo with
    config := { fifo.config with enableFifo := false }
    status :=
      { txIntr := false, rxIntr := false, txrxLost := false, txrxFull := false
        txrxEmpty := true } }

/-- One buffer in `can_register_reset_tx_buffer_channel`. -/
def CanTxBuffer.reset (buffer : CanTxBuffer) : CanTxBuffer :=
  { buffer with reqTx := false, result := 0, sending := false }

/-- Whether a channel event calls `can_mode_channel_reset`. -/
def callsChannelReset : CanModeChannelEvent → ChannelMode → Bool
  | .clrStop, .stop => true
  | .setReset, .comm => true
  | .setReset, .wait => true
  | _, _ => false

/-- Whether a global event calls `can_mode_globa_reset`. -/
def callsGlobalReset : CanModeGlobalEvent → GlobalMode → Bool
  | .clrStop, .stop => true
  | .setReset, .run => true
  | .setReset, .test => true
  | _, _ => false

/-- The event that a global event in a mode sends to every channel. -/
def channelEventOf : CanModeGlobalEvent → GlobalMode → Option CanModeChannelEvent
  | .setStop, .reset => some .setStop
  | .setReset, .run => some .setReset
  | .setReset, .test => some .setReset
  | .setTest, .reset => some .setWait
  | .setTest, .run => some .setWait
  | _, _ => none

namespace CanController

/-- `can_register_reset_tx_buffer_channel` and
`can_register_reset_txrx_fifo_channel`, in `can_mode_channel_reset`. -/
def canModeChannelReset (cid : CanChannelId) (s : CanController) : CanController :=
  { s with
    txBuffer := Function.update s.txBuffer cid fun bufno => (s.txBuffer cid bufno).reset
    txrxFifo := Function.update s.txrxFifo cid fun k => (s.txrxFifo cid k).reset }

/-- The buffers and FIFOs in `can_mode_globa_reset`; the transmit buffers, the
queues and the histories stay. -/
def canModeGlobalReset (s : CanController) : CanController :=
  { s with
    rxBuffer := { s.rxBuffer with rxMsginFlag := fun _ => 0 }
    rxFifo := fun x => (s.rxFifo x).reset
    txrxFifo := fun cid k => (s.txrxFifo cid k).reset
    txrxTxFifodata := zeroCanData }

/-- The resets in `can_mode_channel_event`. -/
def channelEventReset (index : CanChannelId) (event : CanModeChannelEvent) (s : CanController) :
    CanController :=
  let cmode := s.modeGlobal.channel index
  if callsChannelReset event cmode.mode then s.canModeChannelReset cmode.cid else s

/-- The resets in `can_mode_global_event`; the channels come first. -/
def globalEventReset (event : CanModeGlobalEvent) (s : CanController) : CanController :=
  let after := match channelEventOf event s.modeGlobal.mode with
    | some event =>
      (List.finRange canChannelNum).foldl (fun s cid => s.channelEventReset cid event) s
    | none => s
  if callsGlobalReset event s.modeGlobal.mode then after.canModeGlobalReset else after

/-- An event of the modes: the buffers that it resets, and the records. -/
def canModeEvent (event : CanModeEvent) (s : CanController) : CanController :=
  let after := match event with
    | .channel index event => s.channelEventReset index event
    | .global event => s.globalEventReset event
  { after with modeGlobal := Athrill.canModeEvent event s.modeGlobal }

/-! ## Writes -/

/-- The written word of the register at an address. -/
def word (s : CanController) (address : Nat) : BitVec 32 :=
  s.register (canRegGetAlignedAddr address)

/-- `can_register_write_data32` at the register of an address. -/
def putWord (address : Nat) (data : BitVec 32) (s : CanController) : CanController :=
  { s with memory := canRegisterWriteData32 (canRegGetAlignedAddr address) data s.memory }

end CanController

/-- `can_register_mapping_io_RSCANnRFCCx`; the timing field keeps two bits. -/
def CanRxFifoBuffer.writeRfcc (data : BitVec 32) (fifo : CanRxFifoBuffer) : CanRxFifoBuffer :=
  let fifo : CanRxFifoBuffer :=
    { fifo with
      config :=
        { intrTimingCnt := ((data >>> 13) &&& 0x3).toNat
          enableIntrEverytime := canRegUpdateModelFlag data 12
          quelen := Fin.ofNat 8 ((data >>> 8) &&& 0x7).toNat
          enableIntr := canRegUpdateModelFlag data 1
          enableFifo := canRegUpdateModelFlag data 0 } }
  if fifo.config.enableFifo = false then
    { canRxfifoClear fifo with status := { fifo.status with rxEmpty := true, rxFull := false } }
  else fifo

/-- `can_register_mapping_io_RSCANnRFSTSx`. -/
def CanRxFifoBuffer.writeRfsts (data : BitVec 32) (fifo : CanRxFifoBuffer) : CanRxFifoBuffer :=
  { fifo with
    status :=
      { fifo.status with
        rxIntr := if data &&& (1#32 <<< 3) = 0 then false else fifo.status.rxIntr
        rxLost := if data &&& (1#32 <<< 2) = 0 then false else fifo.status.rxLost } }

/-- `CFTML` of a written configuration. -/
def cfccTxBufno (data : BitVec 32) : CanTxBufferIdx := Fin.ofNat 16 ((data >>> 20) &&& 0xF).toNat

/-- `can_register_mapping_io_RSCANnCFCCk`, the FIFO. -/
def CanTxRxFifoBuffer.writeCfcc (data : BitVec 32) (fifo : CanTxRxFifoBuffer) :
    CanTxRxFifoBuffer :=
  let fifo : CanTxRxFifoBuffer :=
    { fifo with
      config :=
        { txBufno := cfccTxBufno data
          mode := ((data >>> 16) &&& 0x3).setWidth 2
          intrTimingCnt := ((data >>> 13) &&& 0x7).toNat
          enableIntrEverytime := canRegUpdateModelFlag data 12
          quelen := Fin.ofNat 8 ((data >>> 8) &&& 0x7).toNat
          enableTxIntr := canRegUpdateModelFlag data 2
          enableRxIntr := canRegUpdateModelFlag data 1
          enableFifo := canRegUpdateModelFlag data 0 } }
  if fifo.config.enableFifo = false then
    { canTxrxfifoClear fifo with
      status := { fifo.status with txrxEmpty := true, txrxFull := false } }
  else fifo

/-- `can_register_mapping_io_RSCANnCFSTSk`; the bits are copied. -/
def CanTxRxFifoBuffer.writeCfsts (data : BitVec 32) (fifo : CanTxRxFifoBuffer) :
    CanTxRxFifoBuffer :=
  { fifo with
    status :=
      { fifo.status with
        txIntr := canRegUpdateModelFlag data 4
        rxIntr := canRegUpdateModelFlag data 3
        txrxLost := canRegUpdateModelFlag data 2 } }

/-- `can_register_mapping_io_RSCANnTXQCCm`. -/
def CanTxQueue.writeTxqcc (data : BitVec 32) (queue : CanTxQueue) : CanTxQueue :=
  { queue with
    config :=
      { intrFactor := canRegUpdateModelFlag data 13
        enableIntr := canRegUpdateModelFlag data 12
        enableQueue := canRegUpdateModelFlag data 0
        quelen := Fin.ofNat 16 ((data >>> 8) &&& 0xF).toNat } }

/-- `can_register_mapping_io_RSCANnTXQSTSm`. -/
def CanTxQueue.writeTxqsts (data : BitVec 32) (queue : CanTxQueue) : CanTxQueue :=
  { queue with
    status :=
      { queue.status with
        intrReq := if data &&& (1#32 <<< 2) = 0 then false else queue.status.intrReq } }

/-- `can_register_mapping_io_RSCANnTHLCCm`. -/
def CanTxHistory.writeThlcc (data : BitVec 32) (history : CanTxHistory) : CanTxHistory :=
  { history with
    config :=
      { selectTxBuffer := canRegUpdateModelFlag data 10
        selectIntrFactor := canRegUpdateModelFlag data 9
        enableIntr := canRegUpdateModelFlag data 8
        enableHistory := canRegUpdateModelFlag data 0 } }

/-- `can_register_mapping_io_RSCANnTHLSTSm`. -/
def CanTxHistory.writeThlsts (data : BitVec 32) (history : CanTxHistory) : CanTxHistory :=
  { history with
    status :=
      { history.status with
        thlIntr := if data &&& (1#32 <<< 3) = 0 then false else history.status.thlIntr
        thlOvr := if data &&& (1#32 <<< 2) = 0 then false else history.status.thlOvr } }

/-- The fields of an identifier register: `IDE`, `RTR` and the identifier. -/
def idOfWord (data : BitVec 32) : RxRuleId where
  ide := canRegUpdateModelFlag data 31
  rtr := canRegUpdateModelFlag data 30
  canid := data &&& 0x1FFFFFFF

/-- Four data bytes of a message, from the first on. -/
def putDataWord (first : Nat) (data : BitVec 32) (bytes : Fin 8 → BitVec 8) : Fin 8 → BitVec 8 :=
  fun i => if first ≤ i.val ∧ i.val < first + 4 then wordByte data (i.val - first) else bytes i

/-- `can_register_mapping_io_TX_BUFFER`, by the register. -/
def writeTxBuffer (reg : Nat) (data : BitVec 32) (message : CanData) : CanData :=
  match reg with
  | 0x0 =>
    { message with
      ide := (idOfWord data).ide, rtr := (idOfWord data).rtr, id := (idOfWord data).canid }
  | 0x4 =>
    { message with
      dlc := ((data >>> 28) &&& 0x0F).setWidth 8, label := ((data >>> 16) &&& 0xFF).setWidth 16 }
  | 0x8 => { message with data := putDataWord 0 data message.data }
  | 0xC => { message with data := putDataWord 4 data message.data }
  | _ => message

/-- `can_register_mapping_io_TXRX_FIFO` on `txrx_tx_fifodata`, by the register;
`IDE` and `RTR` go to a local variable and are lost. -/
def writeTxrxFifo (reg : Nat) (data : BitVec 32) (message : CanData) : CanData :=
  match reg with
  | 0x0 => { message with id := data &&& 0x1FFFFFFF }
  | 0x4 =>
    { message with
      dlc := ((data >>> 28) &&& 0xF).setWidth 8
      label := ((data >>> 16) &&& 0xFFF).setWidth 16 }
  | 0x8 => { message with data := putDataWord 0 data message.data }
  | 0xC => { message with data := putDataWord 4 data message.data }
  | _ => message

/-- `can_register_mapping_io_RX_RULE`, by the register. -/
def writeRxRule (reg : Nat) (data : BitVec 32) (rule : CanRxRule) : CanRxRule :=
  match reg with
  | 0x0 => { rule with id := idOfWord data }
  | 0x4 => { rule with mask := idOfWord data }
  | 0x8 =>
    { rule with
      filterBuffer :=
        { dlc := (data >>> 28).setWidth 8
          label := ((data >>> 16) &&& 0xFFF).setWidth 16
          enableRxbuffer := canRegUpdateModelFlag data 15
          rxbufferNumber := ((data >>> 8) &&& 0x7F).setWidth 8 } }
  | 0xC =>
    { rule with
      filterFifo :=
        { txrxFifo := (data >>> 8) &&& 0x3FFFF
          rxFifo := (data &&& 0xFF).setWidth 8 } }
  | _ => rule

namespace CanController

/-- `can_rx_number` and the table after a write to `RSCANnGAFLCFG0` or
`RSCANnGAFLCFG1`. -/
def writeGaflcfg (rxNumber : CanChannelId → Nat) (s : CanController) : CanController :=
  { s with rxNumber := rxNumber, rxChannelRule := canRxUpdateRuleTable rxNumber }

/-- `can_register_mapping_io_RSCANnGAFLCFG0`. -/
def gaflcfg0 (data : BitVec 32) (rxNumber : CanChannelId → Nat) : CanChannelId → Nat
  | 0 => (wordByte data 3).toNat
  | 1 => (wordByte data 2).toNat
  | 2 => (wordByte data 1).toNat
  | 3 => (wordByte data 0).toNat
  | cid => rxNumber cid

/-- `can_register_mapping_io_RSCANnGAFLCFG1`. -/
def gaflcfg1 (data : BitVec 32) (rxNumber : CanChannelId → Nat) : CanChannelId → Nat
  | 4 => (wordByte data 3).toNat
  | 5 => (wordByte data 2).toNat
  | cid => rxNumber cid

/-- The rule that a write to a rule register changes: `rule[index]` of the page
that is selected. -/
def writeRule (address : Nat) (s : CanController) : Option CanController :=
  let index : Fin canRxPageRuleNum :=
    Fin.ofNat canRxPageRuleNum (groupIndex address 0x0500 16)
  let table := s.rxRuleTable
  if h : table.pageNumber < canRxRuleTablePageNum then
    let pid : Fin canRxRuleTablePageNum := ⟨table.pageNumber, h⟩
    let rule :=
      writeRxRule (canRegGetAlignedAddr address % 16) (s.word address) (table.page pid index)
    some
      { s with
        rxRuleTable :=
          { table with
            page :=
              Function.update table.page pid (Function.update (table.page pid) index rule) } }
  else none

/-- `can_register_mapping_io_RSCANnCFCCk`: the link also cancels the request of
its transmit buffer. -/
def writeCfcc (address : Nat) (s : CanController) : CanController :=
  let index := groupIndex address 0x0118 4
  let cid := txrxFifoCid index
  let data := s.word address
  (s.modifyTxBuffer cid (cfccTxBufno data) fun buffer => { buffer with reqTx := false })
    |>.modifyTxrxFifo cid (txrxFifoBid index) (CanTxRxFifoBuffer.writeCfcc data)

/-- `can_register_mapping_io_RSCANnCFPCTRk`. -/
def writeCfpctr (address : Nat) (s : CanController) : CanController :=
  let index := groupIndex address 0x01D8 4
  let cid := txrxFifoCid index
  let k := txrxFifoBid index
  let s :=
    if s.word address &&& 0xFF = 0xFF then
      if (s.txrxFifo cid k).config.mode = canTxrxFifoModeTx then
        { s.modifyTxrxFifo cid k fun fifo => (canTxrxfifoPutTxdata s.txrxTxFifodata fifo).2 with
          txrxTxFifodata := zeroCanData }
      else s.modifyTxrxFifo cid k fun fifo => (canTxrxfifoNextRxdata fifo).2
    else s
  s.putWord address 0

/-- `can_register_mapping_io_RSCANnRFPCTRx`. -/
def writeRfpctr (address : Nat) (s : CanController) : CanController :=
  let x : CanRxFifoId := Fin.ofNat 8 (groupIndex address 0x00F8 4)
  let s :=
    if s.word address &&& 0xFF = 0xFF then
      s.modifyRxFifo x fun fifo => (canRxfifoNextRxdata fifo).2
    else s
  s.putWord address 0

/-- `can_register_mapping_io_RSCANnTXQPCTRm`. -/
def writeTxqpctr (address : Nat) (s : CanController) : CanController :=
  let cid : CanChannelId := Fin.ofNat canChannelNum (groupIndex address 0x03E0 4)
  let s :=
    if s.word address &&& 0xFF = 0xFF then
      s.modifyTxQueue cid (canTxquePutTxdata (s.txBuffer cid 15).message)
    else s
  s.putWord address 0

/-- `can_register_mapping_io_RSCANnTHLPCTRm`. -/
def writeThlpctr (address : Nat) (s : CanController) : CanController :=
  let cid : CanChannelId := Fin.ofNat canChannelNum (groupIndex address 0x0440 4)
  let s :=
    if s.word address &&& 0xFF = 0xFF then
      s.modifyTxHistory cid fun history => (canTxhlNextThldata history).2
    else s
  s.putWord address 0

/-- The registers of a TXRX FIFO take a message only in transmit mode. -/
def writeTxrxFifodata (address : Nat) (s : CanController) : CanController :=
  let index := groupIndex address 0x0E80 16
  let fifo := s.txrxFifo (txrxFifoCid index) (txrxFifoBid index)
  if fifo.config.mode = canTxrxFifoModeTx then
    { s with
      txrxTxFifodata :=
        writeTxrxFifo (canRegGetAlignedAddr address % 16) (s.word address) s.txrxTxFifodata }
  else s

/-- The handler of a write.  The handlers of the modes have run with the
store. -/
def writeHook (group : CanRegisterGroup) (address : Nat) (s : CanController) :
    Option CanController :=
  let data := s.word address
  match group with
  | .gerfl =>
    some
      { s with
        modeGlobal :=
          { s.modeGlobal with
            status :=
              { s.modeGlobal.status with
                dlcError := if data &&& 0x1 = 0 then false else s.modeGlobal.status.dlcError } } }
  | .gaflectr =>
    some
      { s with
        rxRuleTable :=
          { s.rxRuleTable with
            enableWrite := canRegUpdateModelFlag data 8
            pageNumber := (data &&& 0x1F).toNat } }
  | .gaflcfg0 => some (s.writeGaflcfg (gaflcfg0 data s.rxNumber))
  | .gaflcfg1 => some (s.writeGaflcfg (gaflcfg1 data s.rxNumber))
  | .rxRule => s.writeRule address
  | .rmnb =>
    some { s with rxBuffer := { s.rxBuffer with rxBufferNum := (data &&& 0xFF).setWidth 8 } }
  | .rmndy =>
    let index : Fin 3 := Fin.ofNat 3 (groupIndex address 0x00A8 4)
    some
      { s with
        rxBuffer :=
          { s.rxBuffer with
            rxMsginFlag := Function.update s.rxBuffer.rxMsginFlag index data } }
  | .rfcc =>
    some (s.modifyRxFifo (Fin.ofNat 8 (groupIndex address 0x00B8 4)) (·.writeRfcc data))
  | .rfsts =>
    some (s.modifyRxFifo (Fin.ofNat 8 (groupIndex address 0x00D8 4)) (·.writeRfsts data))
  | .rfpctr => some (s.writeRfpctr address)
  | .cfcc => some (s.writeCfcc address)
  | .cfsts =>
    let index := groupIndex address 0x0178 4
    some (s.modifyTxrxFifo (txrxFifoCid index) (txrxFifoBid index) (·.writeCfsts data))
  | .cfpctr => some (s.writeCfpctr address)
  | .txrxFifo => some (s.writeTxrxFifodata address)
  | .tmc =>
    let index := address - 0x0250
    some (s.modifyTxBuffer (txBufferCid index) (txBufferBid index) fun buffer =>
      { buffer with reqTx := (s.memory address).getLsbD 0 })
  | .tmsts =>
    let index := address - 0x02D0
    some (s.modifyTxBuffer (txBufferCid index) (txBufferBid index) fun buffer =>
      { buffer with result := (s.memory address >>> 1) &&& 0x3 })
  | .txBuffer =>
    let index := groupIndex address 0x1000 16
    some (s.modifyTxBuffer (txBufferCid index) (txBufferBid index) fun buffer =>
      { buffer with
        message := writeTxBuffer (canRegGetAlignedAddr address % 16) data buffer.message })
  | .tmiec =>
    let index : Fin 3 := Fin.ofNat 3 (groupIndex address 0x0390 4)
    some { s with txIntrEnable := Function.update s.txIntrEnable index data }
  | .txqcc =>
    some (s.modifyTxQueue (Fin.ofNat canChannelNum (groupIndex address 0x03A0 4))
      (·.writeTxqcc data))
  | .txqsts =>
    some (s.modifyTxQueue (Fin.ofNat canChannelNum (groupIndex address 0x03C0 4))
      (·.writeTxqsts data))
  | .txqpctr => some (s.writeTxqpctr address)
  | .thlcc =>
    some (s.modifyTxHistory (Fin.ofNat canChannelNum (groupIndex address 0x0400 4))
      (·.writeThlcc data))
  | .thlsts =>
    some (s.modifyTxHistory (Fin.ofNat canChannelNum (groupIndex address 0x0420 4))
      (·.writeThlsts data))
  | .thlpctr => some (s.writeThlpctr address)
  | _ => some s

/-- `can_put_data8`, `can_put_data16` and `can_put_data32`: the store, with the
handlers of the modes, and then the other handlers. -/
def put (size : AccessSize) (address : Nat) (data : BitVec 32) (s : CanController) :
    Option CanController :=
  let after := (s.sentEvents size address data).foldl (fun s event => s.canModeEvent event) s
  let s := { after with toCanDevice := s.toCanDevice.put size address data }
  match searchMap address with
  | some group => s.writeHook group address
  | none => some s

/-! ## Reads -/

end CanController

/-- The registers of a stored message: identifier, header and data bytes. -/
def messageWord (reg : Nat) (message : CanData) : BitVec 32 :=
  match reg with
  | 0x0 =>
    canRegUpdateRegBit message.rtr 30 (canRegUpdateRegBit message.ide 31 0) ||| message.id
  | 0x4 => (message.dlc.setWidth 32 <<< 28) ||| (message.label.setWidth 32 <<< 16)
  | 0x8 => wordOfBytes (message.data 0) (message.data 1) (message.data 2) (message.data 3)
  | _ => wordOfBytes (message.data 4) (message.data 5) (message.data 6) (message.data 7)

/-- The bits of a status register with one bit for each of `n` flags. -/
def flagWord (n : Nat) (flag : Nat → Bool) : BitVec 32 :=
  (List.range n).foldl (fun data i => canRegUpdateRegBit (flag i) i data) 0

namespace CanController

/-- `can_register_mapping_io_RSCANnGTINTSTS_is_tx_intr`, with the two tests as
they are written: `CAN_DATA_IS_BITSET` shifts to the left, and the result is
compared with `0x10`. -/
def gtintstsIsTxIntr (s : CanController) (cid : CanChannelId) : Bool :=
  (List.finRange 16).any fun bufno =>
    let bufferId := canTxBufferId cid.val bufno.val
    decide (s.txIntrEnable (Fin.ofNat 3 (bufferId / 32)) <<< (bufferId % 32) ≠ 0) &&
      decide ((s.txBuffer cid bufno).result &&& 0x10 ≠ 0)

/-- `can_register_mappin_io_RSCANnGTINTSTS_is_CFTIFm`. -/
def gtintstsIsCFTIFm (s : CanController) (cid : CanChannelId) : Bool :=
  (List.finRange 3).any fun k =>
    (s.txrxFifo cid k).config.enableTxIntr && (s.txrxFifo cid k).status.txIntr

/-- `can_register_mappin_io_RSCANnGTINTSTS_is_TQIFm`. -/
def gtintstsIsTQIFm (s : CanController) (cid : CanChannelId) : Bool :=
  (List.finRange 3).any fun _ =>
    (s.txQueue cid).config.enableIntr && (s.txQueue cid).status.intrReq

/-- `can_register_mappin_io_RSCANnGTINTSTS_is_THIFm`; both tests return
`FALSE`. -/
def gtintstsIsTHIFm (s : CanController) (cid : CanChannelId) : Bool :=
  if (s.txHistory cid).config.enableIntr = false then false
  else if (s.txHistory cid).status.thlIntr then false
  else false

/-- The bits of one channel in `RSCANnGTINTSTS0` and `RSCANnGTINTSTS1`, from the
bit `base` on. -/
def gtintstsBits (s : CanController) (cid : CanChannelId) (base : Nat) (data : BitVec 32) :
    BitVec 32 :=
  let data := canRegUpdateRegBit (s.gtintstsIsTxIntr cid) base data
  let data := canRegUpdateRegBit (s.gtintstsIsCFTIFm cid) (base + 3) data
  let data := canRegUpdateRegBit (s.gtintstsIsTQIFm cid) (base + 2) data
  canRegUpdateRegBit (s.gtintstsIsTHIFm cid) (base + 4) data

/-- A FIFO of the controller by its global number. -/
def txrxFifoAt (s : CanController) (k : Nat) : CanTxRxFifoBuffer :=
  s.txrxFifo (txrxFifoCid k) (txrxFifoBid k)

/-- A transmit buffer of the controller by its global number. -/
def txBufferAt (s : CanController) (p : Nat) : CanTxBuffer :=
  s.txBuffer (txBufferCid p) (txBufferBid p)

/-- The word that a handler of a read writes into its register, if it writes
one.  A handler that copies an uninitialised variable writes `indeterminate`. -/
def readWord (group : CanRegisterGroup) (address : Nat) (indeterminate : BitVec 32)
    (s : CanController) : Option (BitVec 32) :=
  let reg := canRegGetAlignedAddr address % 16
  match group with
  | .gerfl =>
    let data := canRegUpdateRegBit s.modeGlobal.status.dlcError 0 (s.word address)
    let data := canRegUpdateRegBit s.canModeGlobalIsMsglost 1 data
    some (if (List.finRange canChannelNum).any fun cid => (s.txHistory cid).status.thlOvr then
        data ||| (1#32 <<< 2)
      else data)
  | .gtintsts0 =>
    some (s.gtintstsBits 3 24 (s.gtintstsBits 2 16 (s.gtintstsBits 1 8
      (s.gtintstsBits 0 0 (s.word address)))))
  | .gtintsts1 => some (s.gtintstsBits 5 8 (s.gtintstsBits 4 0 (s.word address)))
  | .rmndy => some (s.rxBuffer.rxMsginFlag (Fin.ofNat 3 (groupIndex address 0x00A8 4)))
  | .rxBuffer =>
    some (messageWord reg
      (s.rxBuffer.buf (Fin.ofNat canRxBufferNum (groupIndex address 0x0600 16))))
  | .rfsts =>
    let fifo := s.rxFifo (Fin.ofNat 8 (groupIndex address 0x00D8 4))
    let data := BitVec.ofNat 32 fifo.fifoControl.count <<< 8
    let data := canRegUpdateRegBit fifo.status.rxIntr 3 data
    let data := canRegUpdateRegBit fifo.status.rxLost 2 data
    let data := canRegUpdateRegBit fifo.status.rxFull 1 data
    some (canRegUpdateRegBit fifo.status.rxEmpty 0 data)
  | .rxFifo =>
    match canRxfifoPeekRxdata (s.rxFifo (Fin.ofNat 8 (groupIndex address 0x0E00 16))) with
    | .ok rxdata => some (messageWord reg rxdata)
    | .error _ => some (if reg = 0xC then indeterminate else 0)
  | .cfsts =>
    let fifo := s.txrxFifoAt (groupIndex address 0x0178 4)
    let data := BitVec.ofNat 32 fifo.fifoControl.count <<< 8
    let data := canRegUpdateRegBit fifo.status.txIntr 4 data
    let data := canRegUpdateRegBit fifo.status.rxIntr 3 data
    let data := canRegUpdateRegBit fifo.status.txrxLost 2 data
    let data := canRegUpdateRegBit fifo.status.txrxFull 1 data
    some (canRegUpdateRegBit fifo.status.txrxEmpty 0 data)
  | .txrxFifo =>
    let fifo := s.txrxFifoAt (groupIndex address 0x0E80 16)
    if fifo.config.mode = canTxrxFifoModeRx then
      match canTxrxfifoPeekRxdata fifo with
      | .ok rxdata => some (messageWord reg rxdata)
      | .error _ => some 0
    else none
  | .fests =>
    some ((flagWord 18 fun k => (s.txrxFifoAt k).status.txrxEmpty) <<< 8 |||
      flagWord 8 fun x => (s.rxFifo (Fin.ofNat 8 x)).status.rxEmpty)
  | .ffsts =>
    some ((flagWord 18 fun k => (s.txrxFifoAt k).status.txrxFull) <<< 8 |||
      flagWord 8 fun x => (s.rxFifo (Fin.ofNat 8 x)).status.rxFull)
  | .fmsts =>
    some ((flagWord 18 fun k => (s.txrxFifoAt k).status.txrxLost) <<< 8 |||
      flagWord 8 fun x => (s.rxFifo (Fin.ofNat 8 x)).status.rxLost)
  | .rfists => some (flagWord 8 fun x => (s.rxFifo (Fin.ofNat 8 x)).status.rxIntr)
  | .cfrists => some (flagWord 18 fun k => (s.txrxFifoAt k).status.rxIntr)
  | .cftists => some (flagWord 18 fun k => (s.txrxFifoAt k).status.txIntr)
  | .txBuffer =>
    some (messageWord reg (s.txBufferAt (groupIndex address 0x1000 16)).message)
  | .tmiec => some (s.txIntrEnable (Fin.ofNat 3 (groupIndex address 0x0390 4)))
  | .tmtrsts =>
    let index := groupIndex address 0x0350 4
    some (flagWord 32 fun p => (s.txBufferAt (index * 32 + p)).reqTx)
  | .tmtcsts =>
    let index := groupIndex address 0x0370 4
    some (flagWord 32 fun p =>
      decide ((s.txBufferAt (index * 32 + p)).result &&& canTxBufferResultOk ≠ 0))
  | .txqsts =>
    let queue := s.txQueue (Fin.ofNat canChannelNum (groupIndex address 0x03C0 4))
    let data := canRegUpdateRegBit queue.status.intrReq 2 0
    let data := canRegUpdateRegBit queue.status.isFull 1 data
    some (canRegUpdateRegBit queue.status.isEmpty 0 data)
  | .thlsts =>
    let history := s.txHistory (Fin.ofNat canChannelNum (groupIndex address 0x0420 4))
    let data := BitVec.ofNat 32 history.fifoControl.count <<< 8
    let data := canRegUpdateRegBit history.status.thlIntr 3 data
    let data := canRegUpdateRegBit history.status.thlOvr 2 data
    let data := canRegUpdateRegBit history.status.thlFull 1 data
    some (canRegUpdateRegBit history.status.thlEmpty 0 data)
  | .thlacc =>
    match canTxhlPeekThldata (s.txHistory (Fin.ofNat canChannelNum (groupIndex address 0x1800 4)))
      with
    | .ok thldata =>
      some ((thldata.label.setWidth 32 <<< 8) ||| (thldata.bufno.setWidth 32 <<< 3) |||
        thldata.buftype.setWidth 32)
    | .error _ => some indeterminate
  | _ => none

/-- The byte that a handler of a read writes at its address. -/
def readByte (group : CanRegisterGroup) (address : Nat) (s : CanController) :
    Option (BitVec 8) :=
  match group with
  | .tmc => some (if (s.txBufferAt (address - 0x0250)).reqTx then 1 else 0)
  | .tmsts =>
    let buffer := s.txBufferAt (address - 0x02D0)
    some ((if buffer.reqTx then 8#8 else 0) ||| (buffer.result <<< 1) |||
      if buffer.sending then 1 else 0)
  | _ => none

/-- The state that `can_get_data8`, `can_get_data16` and `can_get_data32` load
from. -/
def get (address : Nat) (indeterminate : BitVec 32) (s : CanController) : CanController :=
  let s := { s with toCanDevice := s.toCanDevice.get address }
  match searchMap address with
  | none => s
  | some group =>
    match s.readWord group address indeterminate, s.readByte group address with
    | some data, _ => s.putWord address data
    | none, some data => { s with memory := Function.update s.memory address data }
    | none, none => s

end CanController

/-! ## Steps -/

/-- A store, a load or a clock of the bus. -/
inductive CanEvent where
  | put (size : AccessSize) (address : Nat) (data : BitVec 32)
  | get (size : AccessSize) (address : Nat) (indeterminate : BitVec 32)
  | clock (bus : CanBus)

namespace CanController

/-- One step, with the calls that it makes. -/
def step (event : CanEvent) (s : CanController) : Option (CanController × List CanOutput) :=
  match event with
  | .put size address data => (s.put size address data).map fun s => (s, [])
  | .get _ address indeterminate => some (s.get address indeterminate, [])
  | .clock bus => s.deviceSupplyClockCan bus

/-- The controller after a sequence of steps. -/
def run : List CanEvent → CanController → Option CanController
  | [], s => some s
  | event :: events, s => (s.step event).bind fun result => run events result.1

end CanController

/-- A rule after the initialisation. -/
def zeroCanRxRule : CanRxRule where
  id := { ide := false, rtr := false, canid := 0 }
  mask := { ide := false, rtr := false, canid := 0 }
  filterBuffer := { dlc := 0, label := 0, enableRxbuffer := false, rxbufferNumber := 0 }
  filterFifo := { txrxFifo := 0, rxFifo := 0 }

/-- The controller after `device_init_can`: the fields that `can_reset` leaves
alone are static storage, so they are zero. -/
def initialCan : CanController where
  toCanDevice := resetCan
  rxBuffer := { rxBufferNum := 0, rxMsginFlag := fun _ => 0, buf := fun _ => zeroCanData }
  txBuffer _ _ := { reqTx := false, result := 0, sending := false, message := zeroCanData }
  txIntrEnable _ := 0
  rxFifo _ :=
    { config :=
        { intrTimingCnt := 0, enableIntrEverytime := false, quelen := 0, enableIntr := false
          enableFifo := false }
      status := { rxIntr := false, rxLost := false, rxFull := false, rxEmpty := true }
      fifoControl := .clear
      buffer := fun _ => zeroCanData }
  txrxFifo _ _ :=
    { config :=
        { txBufno := 0, mode := 0, intrTimingCnt := 0, enableIntrEverytime := false, quelen := 0
          enableTxIntr := false, enableRxIntr := false, enableFifo := false }
      status :=
        { txIntr := false, rxIntr := false, txrxLost := false, txrxFull := false
          txrxEmpty := true }
      fifoControl := .clear
      rx := fun _ => zeroCanData
      tx := fun _ => zeroCanData }
  txQueue _ :=
    { config := { intrFactor := false, enableIntr := false, quelen := 0, enableQueue := false }
      status := { intrReq := false, isFull := false, isEmpty := true }
      reqbufnum := 0
      txData := fun _ => { txReq := false, data := zeroCanData } }
  txHistory _ :=
    { config :=
        { selectTxBuffer := false, selectIntrFactor := false, enableIntr := false
          enableHistory := false }
      status := { thlIntr := false, thlOvr := false, thlFull := false, thlEmpty := true }
      fifoControl := .clear
      buffer := fun _ => { label := 0, bufno := 0, buftype := 0 } }
  rxNumber _ := 0
  rxRuleTable := { enableWrite := false, pageNumber := 0, page := fun _ _ => zeroCanRxRule }
  rxChannelRule := canRxUpdateRuleTable fun _ => 0
  txreq _ :=
    { bufidx := 0, txdata := zeroCanData, history := { label := 0, bufno := 0, buftype := 0 }
      source := none }
  txrxTxFifodata := zeroCanData

/-- The controller from its initialisation on. -/
def canController : TransitionSystem CanController CanEvent where
  init s := s = initialCan
  step event s s' := ∃ outputs, s.step event = some (s', outputs)

end Athrill
