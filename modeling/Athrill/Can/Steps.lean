import Athrill.Can.Reception
import Athrill.Lib.Moves

/-!
# What a step of the CAN controller does

Every FIFO, queue, history and transmit buffer moves by operations of its own.
A step of the controller is a sequence of them, and which ones depends on the
kind of the step: only a clock puts a received frame or completes a
transmission, only a store writes a configuration.

* `RxFifoOp`, `TxrxFifoOp`, `TxQueueOp`, `TxHistoryOp`, `TxBufferOp`: the
  operations.
* `Evolves`: every part of the controller moves by allowed operations.
* `KeptByHook`, `KeptByHook.keeps`: what the handlers of the writes leave alone.
* `put_evolves`, `clock_clockStep`: the operations of a store and of a clock.
* `SameRegisters`: what a clock does not touch.
-/

namespace Athrill

/-! ## Operations -/

/-- The operations of a receive FIFO. -/
inductive RxFifoOp where
  | put (frame : CanData)
  | next
  | config (data : BitVec 32)
  | status (data : BitVec 32)
  | reset

def RxFifoOp.apply : RxFifoOp → CanRxFifoBuffer → CanRxFifoBuffer
  | put frame => fun fifo => (canRxfifoPutRxdata frame fifo).2
  | next => fun fifo => (canRxfifoNextRxdata fifo).2
  | config data => CanRxFifoBuffer.writeRfcc data
  | status data => CanRxFifoBuffer.writeRfsts data
  | reset => CanRxFifoBuffer.reset

/-- The operations of a TXRX FIFO. -/
inductive TxrxFifoOp where
  | putRx (frame : CanData)
  | nextRx
  | putTx (message : CanData)
  | getTx
  | done
  | config (data : BitVec 32)
  | status (data : BitVec 32)
  | reset

def TxrxFifoOp.apply : TxrxFifoOp → CanTxRxFifoBuffer → CanTxRxFifoBuffer
  | putRx frame => fun fifo => (canTxrxfifoPutRxdata frame fifo).2
  | nextRx => fun fifo => (canTxrxfifoNextRxdata fifo).2
  | putTx message => fun fifo => (canTxrxfifoPutTxdata message fifo).2
  | getTx => fun fifo => (canTxrxfifoGetTxdata fifo).2
  | done => canTxrxfifoNotifyTxdone
  | config data => CanTxRxFifoBuffer.writeCfcc data
  | status data => CanTxRxFifoBuffer.writeCfsts data
  | reset => CanTxRxFifoBuffer.reset

/-- The operations of a transmit queue. -/
inductive TxQueueOp where
  | put (message : CanData)
  | done (bufno : CanTxBufferIdx)
  | config (data : BitVec 32)
  | status (data : BitVec 32)

def TxQueueOp.apply : TxQueueOp → CanTxQueue → CanTxQueue
  | put message => canTxquePutTxdata message
  | done bufno => canTxqueNotifyTxdone bufno
  | config data => CanTxQueue.writeTxqcc data
  | status data => CanTxQueue.writeTxqsts data

/-- The operations of a transmit history. -/
inductive TxHistoryOp where
  | put (thldata : CanTxHistoryData)
  | next
  | config (data : BitVec 32)
  | status (data : BitVec 32)

def TxHistoryOp.apply : TxHistoryOp → CanTxHistory → CanTxHistory
  | put thldata => fun history => (canTxhlPutThldata thldata history).2
  | next => fun history => (canTxhlNextThldata history).2
  | config data => CanTxHistory.writeThlcc data
  | status data => CanTxHistory.writeThlsts data

/-- The operations of a transmit buffer. -/
inductive TxBufferOp where
  | request (flag : Bool)
  | result (bits : BitVec 8)
  | message (reg : Nat) (data : BitVec 32)
  | send
  | done
  | reset

def TxBufferOp.apply : TxBufferOp → CanTxBuffer → CanTxBuffer
  | request flag => fun buffer => { buffer with reqTx := flag }
  | result bits => fun buffer => { buffer with result := bits }
  | message reg data => fun buffer =>
    { buffer with message := writeTxBuffer reg data buffer.message }
  | send => fun buffer => (canTxbufferGetTxdata buffer).2
  | done => canTxbufferNotifyTxdone
  | reset => CanTxBuffer.reset

/-! ## Parts that move -/

/-- The operations that a step may use, for each part. -/
structure CanOps where
  rxFifo : CanRxFifoId → RxFifoOp → Prop
  txrxFifo : CanChannelId → CanTxrxFifoIdx → TxrxFifoOp → Prop
  txQueue : CanChannelId → TxQueueOp → Prop
  txHistory : CanChannelId → TxHistoryOp → Prop
  txBuffer : CanChannelId → CanTxBufferIdx → TxBufferOp → Prop

/-- Every part moves by allowed operations. -/
structure Evolves (ops : CanOps) (s s' : CanController) : Prop where
  rxFifo : ∀ x, Moves RxFifoOp.apply (ops.rxFifo x) (s.rxFifo x) (s'.rxFifo x)
  txrxFifo : ∀ cid k,
    Moves TxrxFifoOp.apply (ops.txrxFifo cid k) (s.txrxFifo cid k) (s'.txrxFifo cid k)
  txQueue : ∀ cid, Moves TxQueueOp.apply (ops.txQueue cid) (s.txQueue cid) (s'.txQueue cid)
  txHistory : ∀ cid,
    Moves TxHistoryOp.apply (ops.txHistory cid) (s.txHistory cid) (s'.txHistory cid)
  txBuffer : ∀ cid bufno,
    Moves TxBufferOp.apply (ops.txBuffer cid bufno) (s.txBuffer cid bufno)
      (s'.txBuffer cid bufno)

namespace Evolves

variable {ops : CanOps} {s s' s'' : CanController}

theorem refl (s : CanController) : Evolves ops s s where
  rxFifo _ := .refl _
  txrxFifo _ _ := .refl _
  txQueue _ := .refl _
  txHistory _ := .refl _
  txBuffer _ _ := .refl _

theorem trans (h : Evolves ops s s') (h' : Evolves ops s' s'') : Evolves ops s s'' where
  rxFifo x := (h.rxFifo x).trans (h'.rxFifo x)
  txrxFifo cid k := (h.txrxFifo cid k).trans (h'.txrxFifo cid k)
  txQueue cid := (h.txQueue cid).trans (h'.txQueue cid)
  txHistory cid := (h.txHistory cid).trans (h'.txHistory cid)
  txBuffer cid bufno := (h.txBuffer cid bufno).trans (h'.txBuffer cid bufno)

/-- The parts alone decide. -/
theorem congr (h : Evolves ops s s') (hrx : s''.rxFifo = s'.rxFifo)
    (htxrx : s''.txrxFifo = s'.txrxFifo) (hqueue : s''.txQueue = s'.txQueue)
    (hhistory : s''.txHistory = s'.txHistory) (hbuffer : s''.txBuffer = s'.txBuffer) :
    Evolves ops s s'' where
  rxFifo := by rw [hrx]; exact h.rxFifo
  txrxFifo := by rw [htxrx]; exact h.txrxFifo
  txQueue := by rw [hqueue]; exact h.txQueue
  txHistory := by rw [hhistory]; exact h.txHistory
  txBuffer := by rw [hbuffer]; exact h.txBuffer

theorem modifyRxFifo {x : CanRxFifoId} (op : RxFifoOp) (hop : ops.rxFifo x op)
    (s : CanController) : Evolves ops s (s.modifyRxFifo x op.apply) :=
  { refl s with rxFifo := fun y => Moves.update op hop s.rxFifo y }

theorem modifyTxrxFifo {cid : CanChannelId} {k : CanTxrxFifoIdx} (op : TxrxFifoOp)
    (hop : ops.txrxFifo cid k op) (s : CanController) :
    Evolves ops s (s.modifyTxrxFifo cid k op.apply) :=
  { refl s with
    txrxFifo := by
      intro c j
      show Moves _ _ _ (Function.update s.txrxFifo cid _ c j)
      by_cases hc : c = cid
      · subst hc
        rw [Function.update_self]
        exact Moves.update op hop (s.txrxFifo c) j
      · rw [Function.update_of_ne hc]
        exact .refl _ }

theorem modifyTxQueue {cid : CanChannelId} (op : TxQueueOp) (hop : ops.txQueue cid op)
    (s : CanController) : Evolves ops s (s.modifyTxQueue cid op.apply) :=
  { refl s with txQueue := fun c => Moves.update op hop s.txQueue c }

theorem modifyTxHistory {cid : CanChannelId} (op : TxHistoryOp) (hop : ops.txHistory cid op)
    (s : CanController) : Evolves ops s (s.modifyTxHistory cid op.apply) :=
  { refl s with txHistory := fun c => Moves.update op hop s.txHistory c }

theorem modifyTxBuffer {cid : CanChannelId} {bufno : CanTxBufferIdx} (op : TxBufferOp)
    (hop : ops.txBuffer cid bufno op) (s : CanController) :
    Evolves ops s (s.modifyTxBuffer cid bufno op.apply) :=
  { refl s with
    txBuffer := by
      intro c b
      show Moves _ _ _ (Function.update s.txBuffer cid _ c b)
      by_cases hc : c = cid
      · subst hc
        rw [Function.update_self]
        exact Moves.update op hop (s.txBuffer c) b
      · rw [Function.update_of_ne hc]
        exact .refl _ }

end Evolves

/-! ## Stores -/

/-- The operations of a store: no reception and no transmission, a status
register takes the stored word, and only a pointer-control write puts a message
into a TXRX FIFO. -/
def softwareOps (after : CanDevice) (address : Nat) : CanOps where
  rxFifo _ op := match op with
    | .put _ => False
    | _ => True
  txrxFifo cid k op := match op with
    | .putRx _ | .getTx | .done => False
    | .putTx _ =>
      searchMap address = some .cfpctr ∧ cid = txrxFifoCid (groupIndex address 0x01D8 4) ∧
        k = txrxFifoBid (groupIndex address 0x01D8 4)
    | .status data =>
      searchMap address = some .cfsts ∧ cid = txrxFifoCid (groupIndex address 0x0178 4) ∧
        k = txrxFifoBid (groupIndex address 0x0178 4) ∧
        data = after.register (canRegGetAlignedAddr address)
    | _ => True
  txQueue _ op := match op with
    | .done _ => False
    | _ => True
  txHistory _ op := match op with
    | .put _ => False
    | _ => True
  txBuffer cid bufno op := match op with
    | .send | .done => False
    | .result bits =>
      searchMap address = some .tmsts ∧ cid = txBufferCid (address - 0x02D0) ∧
        bufno = txBufferBid (address - 0x02D0) ∧
        bits = (after.memory address >>> 1) &&& 0x3
    | _ => True

/-- A load of the mode registers changes bytes only. -/
theorem CanDevice.get_eq (address : Nat) (d : CanDevice) :
    ∃ memory, d.get address = { d with memory := memory } := by
  unfold CanDevice.get CanDevice.canRegisterMappingIo CanDevice.canRegisterMappingIoCHANNEL
  split_ifs
  · split
    · exact ⟨_, rfl⟩
    · exact ⟨_, rfl⟩
    · exact ⟨_, rfl⟩
  · exact ⟨_, rfl⟩
  · exact ⟨_, rfl⟩
  · exact ⟨_, rfl⟩
  · exact ⟨_, rfl⟩

namespace CanController

variable {s s' : CanController}

theorem canModeChannelReset_evolves (after : CanDevice) (address : Nat) (cid : CanChannelId)
    (s : CanController) : Evolves (softwareOps after address) s (s.canModeChannelReset cid) :=
  { Evolves.refl s with
    txrxFifo := by
      intro c k
      show Moves _ _ _ (Function.update s.txrxFifo cid _ c k)
      by_cases hc : c = cid
      · subst hc
        rw [Function.update_self]
        exact Moves.single TxrxFifoOp.reset trivial _
      · rw [Function.update_of_ne hc]
        exact .refl _
    txBuffer := by
      intro c b
      show Moves _ _ _ (Function.update s.txBuffer cid _ c b)
      by_cases hc : c = cid
      · subst hc
        rw [Function.update_self]
        exact Moves.single TxBufferOp.reset trivial _
      · rw [Function.update_of_ne hc]
        exact .refl _ }

theorem canModeGlobalReset_evolves (after : CanDevice) (address : Nat) (s : CanController) :
    Evolves (softwareOps after address) s s.canModeGlobalReset :=
  { Evolves.refl s with
    rxFifo := fun x => Moves.single RxFifoOp.reset trivial (s.rxFifo x)
    txrxFifo := fun cid k => Moves.single TxrxFifoOp.reset trivial (s.txrxFifo cid k) }

theorem writeCfpctr_evolves (after : CanDevice) {address : Nat}
    (hgroup : searchMap address = some .cfpctr) (s : CanController) :
    Evolves (softwareOps after address) s (s.writeCfpctr address) := by
  unfold writeCfpctr
  dsimp only
  split_ifs
  · have hop : (softwareOps after address).txrxFifo _ _ (.putTx s.txrxTxFifodata) :=
      ⟨hgroup, rfl, rfl⟩
    exact (Evolves.modifyTxrxFifo _ hop s).congr rfl rfl rfl rfl rfl
  · exact (Evolves.modifyTxrxFifo .nextRx trivial s).congr rfl rfl rfl rfl rfl
  · exact (Evolves.refl s).congr rfl rfl rfl rfl rfl

theorem writeRfpctr_evolves (after : CanDevice) (address : Nat) (s : CanController) :
    Evolves (softwareOps after address) s (s.writeRfpctr address) := by
  unfold writeRfpctr
  dsimp only
  split_ifs
  · exact (Evolves.modifyRxFifo .next trivial s).congr rfl rfl rfl rfl rfl
  · exact (Evolves.refl s).congr rfl rfl rfl rfl rfl

theorem writeTxqpctr_evolves (after : CanDevice) (address : Nat) (s : CanController) :
    Evolves (softwareOps after address) s (s.writeTxqpctr address) := by
  unfold writeTxqpctr
  dsimp only
  split_ifs
  · exact (Evolves.modifyTxQueue (.put _) trivial s).congr rfl rfl rfl rfl rfl
  · exact (Evolves.refl s).congr rfl rfl rfl rfl rfl

theorem writeThlpctr_evolves (after : CanDevice) (address : Nat) (s : CanController) :
    Evolves (softwareOps after address) s (s.writeThlpctr address) := by
  unfold writeThlpctr
  dsimp only
  split_ifs
  · exact (Evolves.modifyTxHistory .next trivial s).congr rfl rfl rfl rfl rfl
  · exact (Evolves.refl s).congr rfl rfl rfl rfl rfl

theorem writeCfcc_evolves (after : CanDevice) (address : Nat) (s : CanController) :
    Evolves (softwareOps after address) s (s.writeCfcc address) :=
  (Evolves.modifyTxBuffer (.request false) trivial s).trans
    (Evolves.modifyTxrxFifo (.config (s.word address)) trivial _)

theorem writeTxrxFifodata_evolves (after : CanDevice) (address : Nat) (s : CanController) :
    Evolves (softwareOps after address) s (s.writeTxrxFifodata address) := by
  unfold writeTxrxFifodata
  dsimp only
  split_ifs
  · exact (Evolves.refl s).congr rfl rfl rfl rfl rfl
  · exact .refl s

theorem writeRule_evolves (after : CanDevice) (address : Nat) (h : s.writeRule address = some s') :
    Evolves (softwareOps after address) s s' := by
  unfold writeRule at h
  dsimp only at h
  split at h
  · cases h
    exact (Evolves.refl s).congr rfl rfl rfl rfl rfl
  · cases h

/-- The status registers take the word of the store, which is in the device
already. -/
theorem writeHook_evolves {group : CanRegisterGroup} {address : Nat}
    (hgroup : searchMap address = some group) (h : s.writeHook group address = some s') :
    Evolves (softwareOps s.toCanDevice address) s s' := by
  cases group with
  | rxRule => exact writeRule_evolves _ address h
  | rfcc =>
    cases h
    exact .modifyRxFifo (.config _) trivial s
  | rfsts =>
    cases h
    exact .modifyRxFifo (.status _) trivial s
  | rfpctr =>
    cases h
    exact writeRfpctr_evolves _ address s
  | cfcc =>
    cases h
    exact writeCfcc_evolves _ address s
  | cfsts =>
    cases h
    have hop : (softwareOps s.toCanDevice address).txrxFifo _ _ (.status (s.word address)) :=
      ⟨hgroup, rfl, rfl, rfl⟩
    exact .modifyTxrxFifo _ hop s
  | cfpctr =>
    cases h
    exact writeCfpctr_evolves _ hgroup s
  | txrxFifo =>
    cases h
    exact writeTxrxFifodata_evolves _ address s
  | tmc =>
    cases h
    exact .modifyTxBuffer (.request _) trivial s
  | tmsts =>
    cases h
    have hop : (softwareOps s.toCanDevice address).txBuffer _ _
        (.result ((s.memory address >>> 1) &&& 0x3)) := ⟨hgroup, rfl, rfl, rfl⟩
    exact .modifyTxBuffer _ hop s
  | txBuffer =>
    cases h
    exact .modifyTxBuffer (.message _ _) trivial s
  | txqcc =>
    cases h
    exact .modifyTxQueue (.config _) trivial s
  | txqsts =>
    cases h
    exact .modifyTxQueue (.status _) trivial s
  | txqpctr =>
    cases h
    exact writeTxqpctr_evolves _ address s
  | thlcc =>
    cases h
    exact .modifyTxHistory (.config _) trivial s
  | thlsts =>
    cases h
    exact .modifyTxHistory (.status _) trivial s
  | thlpctr =>
    cases h
    exact writeThlpctr_evolves _ address s
  | _ =>
    cases h
    exact (Evolves.refl s).congr rfl rfl rfl rfl rfl

/-- A property that no change of a part breaks.  Parts that only some groups
change come with these groups, and what the handlers leave alone in a transmit
buffer and a queue with the change. -/
structure KeptByHook (group : CanRegisterGroup) (address : Nat) (P : CanController → Prop) :
    Prop where
  dlcError : ∀ flag t, P t → P { t with modeGlobal :=
    { t.modeGlobal with status := { t.modeGlobal.status with dlcError := flag } } }
  rules : group = .gaflectr ∨ group = .gaflcfg0 ∨ group = .gaflcfg1 ∨ group = .rxRule →
    ∀ table number rules t, P t →
      P { t with rxRuleTable := table, rxNumber := number, rxChannelRule := rules }
  rxBuffer : ∀ buffer t, P t → P { t with rxBuffer := buffer }
  rxFifo : ∀ x f t, P t → P (t.modifyRxFifo x f)
  txrxFifo : ∀ cid k f t, P t → P (t.modifyTxrxFifo cid k f)
  staged : ∀ message t, P t → P { t with txrxTxFifodata := message }
  txBuffer : ∀ cid bufno f t,
    (∀ buffer, group ≠ .txBuffer → (f buffer).message = buffer.message) → P t →
      P (t.modifyTxBuffer cid bufno f)
  txIntrEnable : ∀ enable t, P t → P { t with txIntrEnable := enable }
  txQueue : ∀ cid f t, (∀ queue, group ≠ .txqpctr → (f queue).txData = queue.txData) → P t →
    P (t.modifyTxQueue cid f)
  txHistory : group = .thlcc ∨ group = .thlsts ∨ group = .thlpctr → ∀ cid f t, P t →
    P (t.modifyTxHistory cid f)
  cleared : group = .cfpctr ∨ group = .rfpctr ∨ group = .txqpctr ∨ group = .thlpctr → ∀ t, P t →
    P (t.putWord address 0)

/-- It holds after the handler of a write. -/
theorem KeptByHook.keeps {P : CanController → Prop} {group : CanRegisterGroup} {address : Nat}
    (h : KeptByHook group address P) (hs : P s)
    (hhook : s.writeHook group address = some s') : P s' := by
  cases group with
  | gerfl =>
    cases hhook
    exact h.dlcError _ s hs
  | gaflectr =>
    cases hhook
    exact h.rules (by simp) _ _ _ s hs
  | gaflcfg0 =>
    cases hhook
    exact h.rules (by simp) _ _ _ s hs
  | gaflcfg1 =>
    cases hhook
    exact h.rules (by simp) _ _ _ s hs
  | rxRule =>
    unfold writeHook writeRule at hhook
    dsimp only at hhook
    split_ifs at hhook
    cases hhook
    exact h.rules (by simp) _ _ _ s hs
  | rmnb =>
    cases hhook
    exact h.rxBuffer _ s hs
  | rmndy =>
    cases hhook
    exact h.rxBuffer _ s hs
  | rfcc =>
    cases hhook
    exact h.rxFifo _ _ s hs
  | rfsts =>
    cases hhook
    exact h.rxFifo _ _ s hs
  | rfpctr =>
    cases hhook
    refine h.cleared (by simp) _ ?_
    split_ifs
    · exact h.rxFifo _ _ s hs
    · exact hs
  | cfcc =>
    cases hhook
    exact h.txrxFifo _ _ _ _ (h.txBuffer _ _ _ s (fun _ _ => rfl) hs)
  | cfsts =>
    cases hhook
    exact h.txrxFifo _ _ _ s hs
  | cfpctr =>
    cases hhook
    refine h.cleared (by simp) _ ?_
    split_ifs
    · exact h.staged _ _ (h.txrxFifo _ _ _ s hs)
    · exact h.txrxFifo _ _ _ s hs
    · exact hs
  | txrxFifo =>
    cases hhook
    unfold writeTxrxFifodata
    dsimp only
    split_ifs
    · exact h.staged _ s hs
    · exact hs
  | tmc =>
    cases hhook
    exact h.txBuffer _ _ _ s (fun _ _ => rfl) hs
  | tmsts =>
    cases hhook
    exact h.txBuffer _ _ _ s (fun _ _ => rfl) hs
  | txBuffer =>
    cases hhook
    exact h.txBuffer _ _ _ s (fun _ hne => absurd rfl hne) hs
  | tmiec =>
    cases hhook
    exact h.txIntrEnable _ s hs
  | txqcc =>
    cases hhook
    exact h.txQueue _ _ s (fun _ _ => rfl) hs
  | txqsts =>
    cases hhook
    exact h.txQueue _ _ s (fun _ _ => rfl) hs
  | txqpctr =>
    cases hhook
    refine h.cleared (by simp) _ ?_
    split_ifs
    · exact h.txQueue _ _ s (fun _ hne => absurd rfl hne) hs
    · exact hs
  | thlcc =>
    cases hhook
    exact h.txHistory (by simp) _ _ s hs
  | thlsts =>
    cases hhook
    exact h.txHistory (by simp) _ _ s hs
  | thlpctr =>
    cases hhook
    refine h.cleared (by simp) _ ?_
    split_ifs
    · exact h.txHistory (by simp) _ _ s hs
    · exact hs
  | _ =>
    cases hhook
    exact hs

/-- The state in which the handler of a store runs. -/
def afterStore (size : AccessSize) (address : Nat) (data : BitVec 32) (s : CanController) :
    CanController :=
  { (s.sentEvents size address data).foldl (fun s event => s.canModeEvent event) s with
    toCanDevice := s.toCanDevice.put size address data }

@[simp] theorem afterStore_toCanDevice (size : AccessSize) (address : Nat) (data : BitVec 32)
    (s : CanController) :
    (s.afterStore size address data).toCanDevice = s.toCanDevice.put size address data :=
  rfl

/-- What both resets keep holds after the events of a store. -/
theorem afterStore_induction {R : CanController → CanController → Prop} (hrefl : ∀ s, R s s)
    (htrans : ∀ s s' s'', R s s' → R s' s'' → R s s'')
    (hchannel : ∀ cid s, R s (s.canModeChannelReset cid)) (hglobal : ∀ s, R s s.canModeGlobalReset)
    (hdevice : ∀ s device, R s { s with toCanDevice := device }) (size : AccessSize)
    (address : Nat) (data : BitVec 32) (s : CanController) :
    R s (s.afterStore size address data) := by
  have hchannelEvent : ∀ index event s, R s (channelEventReset index event s) := by
    intro index event s
    unfold channelEventReset
    dsimp only
    split_ifs
    · exact hchannel _ s
    · exact hrefl s
  have hchannels : ∀ (cids : List CanChannelId) event s,
      R s (cids.foldl (fun s cid => s.channelEventReset cid event) s) := by
    intro cids event
    induction cids with
    | nil => exact hrefl
    | cons cid cids ih => exact fun s => htrans _ _ _ (hchannelEvent cid event s) (ih _)
  have hglobalEvent : ∀ event s, R s (globalEventReset event s) := by
    intro event s
    unfold globalEventReset
    cases channelEventOf event s.modeGlobal.mode with
    | none =>
      dsimp only
      split_ifs
      · exact hglobal s
      · exact hrefl s
    | some channelEvent =>
      dsimp only
      split_ifs
      · exact htrans _ _ _ (hchannels _ _ s) (hglobal _)
      · exact hchannels _ _ s
  have hevents : ∀ (events : List CanModeEvent) s,
      R s (events.foldl (fun s event => s.canModeEvent event) s) := by
    intro events
    induction events with
    | nil => exact hrefl
    | cons event events ih =>
      intro s
      refine htrans _ _ _ ?_ (ih _)
      cases event with
      | channel index event =>
        exact htrans _ _ _ (hchannelEvent index event s) (hdevice _
          { (s.channelEventReset index event).toCanDevice with
            modeGlobal := Athrill.canModeEvent (.channel index event) s.modeGlobal })
      | global event =>
        exact htrans _ _ _ (hglobalEvent event s) (hdevice _
          { (s.globalEventReset event).toCanDevice with
            modeGlobal := Athrill.canModeEvent (.global event) s.modeGlobal })
  exact htrans _ _ _ (hevents _ s) (hdevice _ _)

theorem put_eq (size : AccessSize) (address : Nat) (data : BitVec 32) (s : CanController) :
    s.put size address data =
      match searchMap address with
      | some group => (s.afterStore size address data).writeHook group address
      | none => some (s.afterStore size address data) :=
  rfl

/-- A group of the table lies apart from the control registers of the modes,
unless it is theirs. -/
theorem table_apart : ∀ map ∈ canRegisterMappingTable, map.group ≠ .channel → map.group ≠ .gctr →
    0x60 ≤ map.start ∧ (map.start + map.size ≤ 0x88 ∨ 0x8C ≤ map.start) := by
  decide

theorem searchMap_bounds {address : Nat} {group : CanRegisterGroup}
    (h : searchMap address = some group) :
    ∃ map ∈ canRegisterMappingTable, map.group = group ∧ map.start ≤ address ∧
      address < map.start + map.size := by
  obtain ⟨map, hmap, heq⟩ := Option.map_eq_some_iff.mp h
  have hrange := List.find?_some hmap
  simp only [decide_eq_true_eq] at hrange
  exact ⟨map, List.mem_of_find?_eq_some hmap, heq, hrange⟩

theorem sentEvents_of_group {address : Nat} {group : CanRegisterGroup}
    (h : searchMap address = some group) (hchannel : group ≠ .channel) (hgctr : group ≠ .gctr)
    (size : AccessSize) (data : BitVec 32) (d : CanDevice) :
    d.sentEvents size address data = [] := by
  obtain ⟨map, hmem, heq, hle, hlt⟩ := searchMap_bounds h
  have hapart := table_apart map hmem (by rw [heq]; exact hchannel) (by rw [heq]; exact hgctr)
  have hctr : ¬ IsCmctr address := by
    intro hc
    have hlow : address < 16 * 6 := hc.1
    omega
  have hne : canRegGetAlignedAddr address ≠ canRegRSCANnGCTR := by
    unfold canRegGetAlignedAddr canRegRSCANnGCTR
    omega
  rw [CanDevice.sentEvents, if_neg hctr, if_neg hne]

/-- Away from the control registers of the modes the handler finds the parts as
they were. -/
theorem afterStore_of_group {address : Nat} {group : CanRegisterGroup}
    (h : searchMap address = some group) (hchannel : group ≠ .channel) (hgctr : group ≠ .gctr)
    (size : AccessSize) (data : BitVec 32) (s : CanController) :
    s.afterStore size address data =
      { s with toCanDevice := s.toCanDevice.put size address data } := by
  rw [afterStore, sentEvents_of_group h hchannel hgctr]
  rfl

theorem put_of_group {address : Nat} {group : CanRegisterGroup}
    (h : searchMap address = some group) (hchannel : group ≠ .channel) (hgctr : group ≠ .gctr)
    (size : AccessSize) (data : BitVec 32) (s : CanController) :
    s.put size address data =
      { s with toCanDevice := s.toCanDevice.put size address data }.writeHook group address := by
  rw [put_eq, h, afterStore_of_group h hchannel hgctr]

theorem afterStore_evolves (size : AccessSize) (address : Nat) (data : BitVec 32)
    (s : CanController) :
    Evolves (softwareOps (s.toCanDevice.put size address data) address) s
      (s.afterStore size address data) :=
  afterStore_induction .refl (fun _ _ _ h h' => h.trans h') (canModeChannelReset_evolves _ address)
    (canModeGlobalReset_evolves _ address) (fun t _ => (Evolves.refl t).congr rfl rfl rfl rfl rfl)
    size address data s

/-- What a store does: the resets of its events, then the handler. -/
theorem put_evolves {size : AccessSize} {address : Nat} {data : BitVec 32}
    (h : s.put size address data = some s') :
    Evolves (softwareOps (s.toCanDevice.put size address data) address) s s' := by
  have hafter := afterStore_evolves size address data s
  rw [put_eq] at h
  cases hgroup : searchMap address with
  | some group =>
    simp only [hgroup] at h
    have hhook := writeHook_evolves hgroup h
    rw [afterStore_toCanDevice] at hhook
    exact hafter.trans hhook
  | none =>
    rw [hgroup] at h
    cases h
    exact hafter

/-- A load changes register bytes only. -/
theorem get_eq (address : Nat) (indeterminate : BitVec 32) (s : CanController) :
    ∃ memory, s.get address indeterminate =
      { s with toCanDevice := { s.toCanDevice with memory := memory } } := by
  obtain ⟨memory, hmemory⟩ := CanDevice.get_eq address s.toCanDevice
  unfold get
  rw [hmemory]
  generalize searchMap address = group
  cases group with
  | none => exact ⟨memory, rfl⟩
  | some group =>
    dsimp only
    generalize readWord group address indeterminate _ = word
    generalize readByte group address _ = byte
    cases word with
    | some word => exact ⟨_, rfl⟩
    | none =>
      cases byte with
      | some byte => exact ⟨_, rfl⟩
      | none => exact ⟨memory, rfl⟩

theorem get_evolves {ops : CanOps} (address : Nat) (indeterminate : BitVec 32)
    (s : CanController) : Evolves ops s (s.get address indeterminate) := by
  obtain ⟨memory, hmemory⟩ := get_eq address indeterminate s
  rw [hmemory]
  exact (Evolves.refl s).congr rfl rfl rfl rfl rfl

end CanController

/-! ## Clocks -/

/-- The operations of a clock, each with the call that it comes with. -/
def clockOps (outputs : List CanOutput) : CanOps where
  rxFifo _ op := match op with
    | .put _ => ∃ cid frame, .received cid frame ∈ outputs
    | _ => False
  txrxFifo cid k op := match op with
    | .putRx _ => ∃ frame, .received cid frame ∈ outputs
    | .getTx => True
    | .done => .txDone cid .fifo (k.castLE txrxFifoNum_le) ∈ outputs
    | _ => False
  txQueue cid op := match op with
    | .done bufno => .txDone cid .queue bufno ∈ outputs
    | _ => False
  txHistory cid op := match op with
    | .put _ => ∃ message result, .startSend cid message result ∈ outputs ∧ result.isOk = true
    | _ => False
  txBuffer cid bufno op := match op with
    | .send => True
    | .done => .txDone cid .buffer bufno ∈ outputs
    | _ => False

/-- A part of a clock: the parts move, and the registers stay. -/
structure ClockStep (outputs : List CanOutput) (s s' : CanController) : Prop where
  evolves : Evolves (clockOps outputs) s s'
  registers : s'.toCanDevice = { s.toCanDevice with modeGlobal := s'.modeGlobal }
  txIntrEnable : s'.txIntrEnable = s.txIntrEnable
  rxNumber : s'.rxNumber = s.rxNumber
  rxRuleTable : s'.rxRuleTable = s.rxRuleTable
  rxChannelRule : s'.rxChannelRule = s.rxChannelRule
  txrxTxFifodata : s'.txrxTxFifodata = s.txrxTxFifodata
  modes : ∀ p, Represents p s.modeGlobal → ∃ p', Represents p' s'.modeGlobal

/-- More calls allow more operations. -/
theorem Evolves.mono {outputs outputs' : List CanOutput} {s s' : CanController}
    (hsub : outputs ⊆ outputs') (h : Evolves (clockOps outputs) s s') :
    Evolves (clockOps outputs') s s' where
  rxFifo x := by
    refine (h.rxFifo x).mono fun op hop => ?_
    cases op with
    | put =>
      obtain ⟨cid, frame, hmem⟩ := hop
      exact ⟨cid, frame, hsub hmem⟩
    | _ => exact hop
  txrxFifo cid k := by
    refine (h.txrxFifo cid k).mono fun op hop => ?_
    cases op with
    | putRx =>
      obtain ⟨frame, hmem⟩ := hop
      exact ⟨frame, hsub hmem⟩
    | done => exact hsub hop
    | _ => exact hop
  txQueue cid := by
    refine (h.txQueue cid).mono fun op hop => ?_
    cases op with
    | done => exact hsub hop
    | _ => exact hop
  txHistory cid := by
    refine (h.txHistory cid).mono fun op hop => ?_
    cases op with
    | put =>
      obtain ⟨message, result, hmem, hok⟩ := hop
      exact ⟨message, result, hsub hmem, hok⟩
    | _ => exact hop
  txBuffer cid bufno := by
    refine (h.txBuffer cid bufno).mono fun op hop => ?_
    cases op with
    | done => exact hsub hop
    | _ => exact hop

namespace ClockStep

variable {outputs outputs' : List CanOutput} {s s' s'' : CanController}

theorem refl (s : CanController) : ClockStep outputs s s :=
  ⟨.refl s, rfl, rfl, rfl, rfl, rfl, rfl, fun p hp => ⟨p, hp⟩⟩

theorem trans (h : ClockStep outputs s s') (h' : ClockStep outputs s' s'') :
    ClockStep outputs s s'' where
  evolves := h.evolves.trans h'.evolves
  registers := by rw [h'.registers, h.registers]
  txIntrEnable := h'.txIntrEnable.trans h.txIntrEnable
  rxNumber := h'.rxNumber.trans h.rxNumber
  rxRuleTable := h'.rxRuleTable.trans h.rxRuleTable
  rxChannelRule := h'.rxChannelRule.trans h.rxChannelRule
  txrxTxFifodata := h'.txrxTxFifodata.trans h.txrxTxFifodata
  modes p hp := by
    obtain ⟨mid, hmid⟩ := h.modes p hp
    exact h'.modes mid hmid

theorem mono (hsub : outputs ⊆ outputs') (h : ClockStep outputs s s') :
    ClockStep outputs' s s' :=
  { h with evolves := h.evolves.mono hsub }

/-- One part of a clock after another. -/
theorem append (h : ClockStep outputs s s') (h' : ClockStep outputs' s' s'') :
    ClockStep (outputs ++ outputs') s s'' :=
  (h.mono (List.subset_append_left _ _)).trans (h'.mono (List.subset_append_right _ _))

theorem commEvent (cid : CanChannelId) (event : CanModeChannelEvent) (s : CanController) :
    ClockStep outputs s (s.commEvent cid event) :=
  ⟨(Evolves.refl s).congr rfl rfl rfl rfl rfl, rfl, rfl, rfl, rfl, rfl, rfl,
    fun _ hp => ⟨_, represents_channel hp cid event⟩⟩

theorem modifyTxreq (cid : CanChannelId) (f : CanTxReq → CanTxReq) (s : CanController) :
    ClockStep outputs s (s.modifyTxreq cid f) :=
  ⟨(Evolves.refl s).congr rfl rfl rfl rfl rfl, rfl, rfl, rfl, rfl, rfl, rfl,
    fun p hp => ⟨p, hp⟩⟩

theorem of_evolves (h : Evolves (clockOps outputs) s s') (hdevice : s'.toCanDevice = s.toCanDevice)
    (hrest : s'.txIntrEnable = s.txIntrEnable ∧ s'.rxNumber = s.rxNumber ∧
      s'.rxRuleTable = s.rxRuleTable ∧ s'.rxChannelRule = s.rxChannelRule ∧
      s'.txrxTxFifodata = s.txrxTxFifodata) : ClockStep outputs s s' := by
  obtain ⟨hintr, hnumber, htable, hrule, hdata⟩ := hrest
  exact ⟨h, by rw [hdevice], hintr, hnumber, htable, hrule, hdata,
    fun p hp => ⟨p, by rw [hdevice]; exact hp⟩⟩

end ClockStep

/-- The modes do not read the error flag of the length check. -/
theorem Represents.of_dlcError {p : ControllerPhase} {gmode : CanModeGlobal}
    (h : Represents p gmode) (flag : Bool) :
    Represents p { gmode with status := { gmode.status with dlcError := flag } } :=
  ⟨h.mode, h.stop, h.selectMode, h.gslpsts, h.ghltsts, h.grststs, h.channel⟩

namespace CanController

variable {outputs : List CanOutput} {s s' : CanController}

/-- One rule of a channel whose frame is reported. -/
theorem canRxProcRule_clockStep {cid : CanChannelId} {frame reported : CanData}
    {p : CanRxRulePointer} (hmem : .received cid reported ∈ outputs)
    (h : s.canRxProcRule cid frame p = some s') : ClockStep outputs s s' := by
  rcases canRxProcRule_cases h with heq | heq | ⟨rule, rxBuffer, _, _, _, _, heq⟩
  · rw [heq]
    exact .refl s
  · rw [heq]
    exact ⟨(Evolves.refl s).congr rfl rfl rfl rfl rfl, rfl, rfl, rfl, rfl, rfl, rfl,
      fun p hp => ⟨p, hp.of_dlcError true⟩⟩
  · rw [heq]
    refine .of_evolves ?_ rfl ⟨rfl, rfl, rfl, rfl, rfl⟩
    refine { Evolves.refl s with rxFifo := fun x => ?_, txrxFifo := fun c k => ?_ }
    · show Moves _ _ _ (offerRxFifo rule _ x (s.rxFifo x))
      unfold offerRxFifo
      split_ifs
      · exact Moves.single (RxFifoOp.put _) ⟨cid, reported, hmem⟩ _
      · exact .refl _
    · show Moves _ _ _ (Function.update s.txrxFifo cid _ c k)
      by_cases hc : c = cid
      · subst hc
        rw [Function.update_self]
        unfold offerTxrxFifo
        split_ifs
        · exact Moves.single (TxrxFifoOp.putRx _) ⟨reported, hmem⟩ _
        · exact .refl _
      · rw [Function.update_of_ne hc]
        exact .refl _

theorem canRxProcOne_clockStep {bus : CanBus} {cid : CanChannelId}
    (h : canRxProcOne bus cid s = some (s', outputs)) : ClockStep outputs s s' := by
  unfold canRxProcOne at h
  dsimp only at h
  split_ifs at h
  · cases h
    exact .refl s
  · cases h
    exact .refl s
  · cases h
    exact .commEvent cid .commRxStart s
  · obtain ⟨mid, hmid, heq⟩ := Option.map_eq_some_iff.mp h
    cases heq
    have hmem : .received cid (bus.receive cid) ∈ [CanOutput.received cid (bus.receive cid)] :=
      List.mem_singleton_self _
    have hrules : ClockStep [.received cid (bus.receive cid)] (s.commEvent cid .commRxStart) mid :=
      Pointwise.foldlM_invariant
        (fun _ _ _ hb hstep => hb.trans (canRxProcRule_clockStep hmem hstep)) _ (.refl _) hmid
    exact (ClockStep.commEvent cid .commRxStart s).trans
      (hrules.trans (.commEvent cid .commRxDone mid))

theorem getTxdata_clockStep {cid : CanChannelId} {source : CanTxSource}
    {bufidx : CanTxBufferIdx} {txdata : Except CanReturn CanData}
    (h : s.getTxdata cid source bufidx = some (txdata, s')) : ClockStep outputs s s' := by
  cases source with
  | buffer =>
    cases h
    exact .of_evolves (.modifyTxBuffer .send trivial s) rfl ⟨rfl, rfl, rfl, rfl, rfl⟩
  | fifo =>
    unfold getTxdata at h
    dsimp only at h
    split_ifs at h
    cases h
    exact .of_evolves (.modifyTxrxFifo .getTx trivial s) rfl ⟨rfl, rfl, rfl, rfl, rfl⟩
  | queue =>
    cases h
    exact .refl s

theorem canTxSend_clockStep {bus : CanBus} {cid : CanChannelId} {source : CanTxSource}
    {bufidx : CanTxBufferIdx} (h : canTxSend bus cid source bufidx s = some (s', outputs)) :
    ClockStep outputs s s' := by
  obtain ⟨⟨txdata, mid⟩, hget, heq⟩ := Option.map_eq_some_iff.mp h
  cases txdata with
  | error e =>
    cases heq
    exact getTxdata_clockStep hget
  | ok message =>
    dsimp only at heq
    split_ifs at heq with hok
    · cases heq
      exact (getTxdata_clockStep hget).trans (.modifyTxreq cid _ mid)
    · cases heq
      have hop : (clockOps [.startSend cid message (bus.startSend cid message)]).txHistory cid
          (.put ((mid.modifyTxreq cid fun req => { req with txdata := message }).txreq cid).history)
          := ⟨message, _, List.mem_singleton_self _, by simpa using hok⟩
      exact ((getTxdata_clockStep hget).trans (.modifyTxreq cid _ mid)).trans
        (.of_evolves (.modifyTxHistory _ hop _) rfl ⟨rfl, rfl, rfl, rfl, rfl⟩)

theorem canTxProcOne_clockStep {bus : CanBus} {cid : CanChannelId}
    (h : canTxProcOne bus cid s = some (s', outputs)) : ClockStep outputs s s' := by
  unfold canTxProcOne at h
  split_ifs at h
  · cases h
    exact .refl s
  · cases h
    exact .refl s
  · cases hchoice : s.selection cid with
    | none =>
      rw [hchoice] at h
      cases h
      exact .modifyTxreq cid _ s
    | some choice =>
      rw [hchoice] at h
      dsimp only at h
      have hstart : ClockStep outputs s
          ((s.modifyTxreq cid (selected choice)).commEvent cid .commTxStart) :=
        (ClockStep.modifyTxreq cid _ s).trans (.commEvent cid .commTxStart _)
      split_ifs at h
      · cases h
        exact hstart
      · exact hstart.trans (canTxSend_clockStep h)

theorem notifyTxdone_clockStep {cid : CanChannelId} {source : CanTxSource}
    {bufidx : CanTxBufferIdx} (hmem : .txDone cid source bufidx ∈ outputs)
    (h : s.notifyTxdone cid source bufidx = some s') : ClockStep outputs s s' := by
  cases source with
  | buffer =>
    cases h
    exact .of_evolves (.modifyTxBuffer .done hmem s) rfl ⟨rfl, rfl, rfl, rfl, rfl⟩
  | fifo =>
    unfold notifyTxdone at h
    dsimp only at h
    split_ifs at h
    cases h
    exact .of_evolves (.modifyTxrxFifo .done hmem s) rfl ⟨rfl, rfl, rfl, rfl, rfl⟩
  | queue =>
    cases h
    exact .of_evolves (.modifyTxQueue (.done bufidx) hmem s) rfl ⟨rfl, rfl, rfl, rfl, rfl⟩

theorem canTxDoneOne_clockStep {bus : CanBus} {cid : CanChannelId}
    (h : canTxDoneOne bus cid s = some (s', outputs)) : ClockStep outputs s s' := by
  unfold canTxDoneOne at h
  split_ifs at h
  · cases h
    exact .refl s
  · cases h
    exact .refl s
  · cases h
    exact .refl s
  · obtain ⟨source, _, h⟩ := Option.bind_eq_some_iff.mp h
    obtain ⟨mid, hmid, heq⟩ := Option.map_eq_some_iff.mp h
    cases heq
    have hdone := notifyTxdone_clockStep (List.mem_singleton_self _) hmid
    exact (hdone.trans (.modifyTxreq cid _ mid)).trans (.commEvent cid .commTxDone _)

/-- A property of the controller and the calls so far holds after a loop over
the channels, if it holds before and the work of every channel preserves it. -/
theorem eachChannel_induction {P : CanController → List CanOutput → Prop}
    {f : CanChannelId → CanController → Option (CanController × List CanOutput)}
    (hstep : ∀ cid s before s' after, P s before → f cid s = some (s', after) →
      P s' (before ++ after))
    (hinit : P s []) (h : whenRunning (eachChannel f) s = some (s', outputs)) : P s' outputs := by
  unfold whenRunning at h
  split_ifs at h
  · cases h
    exact hinit
  · refine Pointwise.foldlM_invariant (I := fun acc => P acc.1 acc.2) ?_ _ hinit h
    intro acc cid acc' hacc hpass
    obtain ⟨result, hresult, heq⟩ := Option.map_eq_some_iff.mp hpass
    cases heq
    exact hstep cid acc.1 acc.2 result.1 result.2 hacc hresult

theorem eachChannel_clockStep
    {f : CanChannelId → CanController → Option (CanController × List CanOutput)}
    (hstep : ∀ cid s s' outputs, f cid s = some (s', outputs) → ClockStep outputs s s')
    (h : whenRunning (eachChannel f) s = some (s', outputs)) : ClockStep outputs s s' :=
  eachChannel_induction (P := fun t outputs => ClockStep outputs s t)
    (fun cid t _ t' after hbefore hcall => hbefore.append (hstep cid t t' after hcall)) (.refl s) h

/-- A clock: reception, transmission, completion, interrupts. -/
theorem clock_cases {bus : CanBus} (h : s.deviceSupplyClockCan bus = some (s', outputs)) :
    ∃ s₁ s₂ received sent done, canRxProc bus s = some (s₁, received) ∧
      canTxProc bus s₁ = some (s₂, sent) ∧ canTxDone bus s₂ = some (s', done) ∧
      outputs = received ++ sent ++ done ++ s'.canIntrRun := by
  obtain ⟨⟨s₁, received⟩, hrx, h⟩ := Option.bind_eq_some_iff.mp h
  obtain ⟨⟨s₂, sent⟩, htx, h⟩ := Option.bind_eq_some_iff.mp h
  obtain ⟨⟨s₃, done⟩, hdone, heq⟩ := Option.map_eq_some_iff.mp h
  cases heq
  exact ⟨s₁, s₂, received, sent, done, hrx, htx, hdone, rfl⟩

theorem clock_clockStep {bus : CanBus} (h : s.deviceSupplyClockCan bus = some (s', outputs)) :
    ClockStep outputs s s' := by
  obtain ⟨s₁, s₂, received, sent, done, hrx, htx, hdone, heq⟩ := clock_cases h
  rw [heq]
  have hrx' := eachChannel_clockStep (fun _ _ _ _ => canRxProcOne_clockStep) hrx
  have htx' := eachChannel_clockStep (fun _ _ _ _ => canTxProcOne_clockStep) htx
  have hdone' := eachChannel_clockStep (fun _ _ _ _ => canTxDoneOne_clockStep) hdone
  exact ((hrx'.append htx').append hdone').mono (List.subset_append_left _ _)

/-! ## Steps -/

/-- The operations of a step: those of its kind. -/
def opsOf (event : CanEvent) (outputs : List CanOutput) (s : CanController) : CanOps :=
  match event with
  | .put size address data => softwareOps (s.toCanDevice.put size address data) address
  | .get _ _ _ =>
    { rxFifo := fun _ _ => False
      txrxFifo := fun _ _ _ => False
      txQueue := fun _ _ => False
      txHistory := fun _ _ => False
      txBuffer := fun _ _ _ => False }
  | .clock _ => clockOps outputs

theorem step_evolves {event : CanEvent} (h : s.step event = some (s', outputs)) :
    Evolves (opsOf event outputs s) s s' := by
  cases event with
  | put size address data =>
    obtain ⟨mid, hmid, heq⟩ := Option.map_eq_some_iff.mp h
    cases heq
    exact put_evolves hmid
  | get size address indeterminate =>
    cases h
    exact get_evolves address indeterminate s
  | clock bus => exact (clock_clockStep h).evolves

/-- What the operations of a part preserve holds of it in every reachable
state. -/
theorem part_of_reachable {α : Type} (part : CanController → α) {I : α → Prop}
    (hinit : I (part initialCan))
    (hstep : ∀ s s' ops, Evolves ops s s' → I (part s) → I (part s'))
    (h : canController.Reachable s) : I (part s) := by
  refine TransitionSystem.Invariant.of_reachable (I := fun s => I (part s)) ⟨?_, ?_⟩ h
  · intro s hs
    rw [show s = initialCan from hs]
    exact hinit
  · intro event s s' hI hs
    obtain ⟨outputs, hs⟩ := hs
    exact hstep s s' _ (step_evolves hs) hI

/-- A run from a reachable state. -/
theorem reachable_run {events : List CanEvent} (h : canController.Reachable s)
    (hrun : run events s = some s') : canController.Reachable s' := by
  induction events generalizing s with
  | nil => exact Option.some.inj hrun ▸ h
  | cons event events ih =>
    obtain ⟨⟨mid, outputs⟩, hmid, hrest⟩ := Option.bind_eq_some_iff.mp hrun
    exact ih (.step h ⟨outputs, hmid⟩) hrest

/-- A state that a run of given steps shows. -/
theorem exists_reachable {α : Type} {events : List CanEvent} {view : CanController → α} {a : α}
    (h : (run events initialCan).map view = some a) :
    ∃ s, canController.Reachable s ∧ view s = a := by
  obtain ⟨s, hrun, hview⟩ := Option.map_eq_some_iff.mp h
  exact ⟨s, reachable_run (.init rfl) hrun, hview⟩

/-- The controller after a sequence of steps that meet a condition. -/
def runWhile (guard : CanEvent → CanController → Prop) [∀ event s, Decidable (guard event s)] :
    List CanEvent → CanController → Option CanController
  | [], s => some s
  | event :: events, s =>
    if guard event s then (s.step event).bind fun result => runWhile guard events result.1
    else none

theorem reachable_runWhile {guard : CanEvent → CanController → Prop}
    [∀ event s, Decidable (guard event s)] {events : List CanEvent}
    (h : (canController.guarded guard).Reachable s) (hrun : runWhile guard events s = some s') :
    (canController.guarded guard).Reachable s' := by
  induction events generalizing s with
  | nil => exact Option.some.inj hrun ▸ h
  | cons event events ih =>
    unfold runWhile at hrun
    split_ifs at hrun with hguard
    obtain ⟨⟨mid, outputs⟩, hmid, hrest⟩ := Option.bind_eq_some_iff.mp hrun
    exact ih (.step h ⟨hguard, outputs, hmid⟩) hrest

/-- A state that a run of such steps shows. -/
theorem exists_guarded {guard : CanEvent → CanController → Prop}
    [∀ event s, Decidable (guard event s)] {α : Type} {events : List CanEvent}
    {view : CanController → α} {a : α}
    (h : (runWhile guard events initialCan).map view = some a) :
    ∃ s, (canController.guarded guard).Reachable s ∧ view s = a := by
  obtain ⟨s, hrun, hview⟩ := Option.map_eq_some_iff.mp h
  exact ⟨s, reachable_runWhile (.init rfl) hrun, hview⟩

/-- The handlers of the other registers keep the modes. -/
theorem writeHook_modes {group : CanRegisterGroup} {address : Nat} {p : ControllerPhase}
    (hp : Represents p s.modeGlobal) (h : s.writeHook group address = some s') :
    Represents p s'.modeGlobal := by
  have hkept : KeptByHook group address fun t => Represents p t.modeGlobal :=
    { dlcError := fun flag _ ht => ht.of_dlcError flag
      rules := fun _ _ _ _ _ ht => ht
      rxBuffer := fun _ _ ht => ht
      rxFifo := fun _ _ _ ht => ht
      txrxFifo := fun _ _ _ _ ht => ht
      staged := fun _ _ ht => ht
      txBuffer := fun _ _ _ _ _ ht => ht
      txIntrEnable := fun _ _ ht => ht
      txQueue := fun _ _ _ _ ht => ht
      txHistory := fun _ _ _ _ ht => ht
      cleared := fun _ _ ht => ht }
  exact hkept.keeps hp h

/-- The modes of a reachable controller are in some phase. -/
theorem modes_of_reachable (h : canController.Reachable s) : ∃ p, Represents p s.modeGlobal := by
  refine TransitionSystem.Invariant.of_reachable
    (I := fun s => ∃ p, Represents p s.modeGlobal) ⟨?_, ?_⟩ h
  · intro s hs
    rw [show s = initialCan from hs]
    exact ⟨_, represents_canReset blankCan⟩
  · intro event s s' hI hs
    obtain ⟨p, hp⟩ := hI
    obtain ⟨outputs, hs⟩ := hs
    cases event with
    | put size address data =>
      obtain ⟨mid, hmid, heq⟩ := Option.map_eq_some_iff.mp hs
      cases heq
      have hstore := CanDevice.represents_put hp size address data
      rw [put_eq] at hmid
      cases hgroup : searchMap address with
      | none =>
        simp only [hgroup] at hmid
        cases hmid
        exact ⟨_, hstore⟩
      | some group =>
        simp only [hgroup] at hmid
        have hafter : Represents (p.events (s.sentEvents size address data))
            (s.afterStore size address data).modeGlobal := hstore
        exact ⟨_, writeHook_modes hafter hmid⟩
    | get size address indeterminate =>
      cases hs
      obtain ⟨memory, hmemory⟩ := s.get_eq address indeterminate
      rw [hmemory]
      exact ⟨p, hp⟩
    | clock bus => exact (clock_clockStep hs).modes p hp

end CanController

/-! ## Runs on fixed inputs -/

/-- The bus that takes every message at once. -/
def promptBus : CanBus where
  isArrived _ := false
  receive _ := zeroCanData
  startSend _ _ := { isOk := true, isAccepted := true }
  isDone _ := true

/-- The step is a store or a load. -/
def NoClock : CanEvent → Prop
  | .clock _ => False
  | _ => True

instance (event : CanEvent) : Decidable (NoClock event) :=
  match event with
  | .put _ _ _ => .isTrue trivial
  | .get _ _ _ => .isTrue trivial
  | .clock _ => .isFalse id

/-- The writes that bring channel 0 into communication. -/
def startChannel : List CanEvent :=
  [.put .word 0x0088 0x1, .put .word 0x0088 0x0, .put .word 0x0004 0x1, .put .word 0x0004 0x0]

/-- Channel 0 in communication, with its history open and a message in FIFO 0,
which raises an interrupt for each message it has sent. -/
def fifoStores : List CanEvent :=
  startChannel ++ [.put .word 0x0118 0x11105, .put .word 0x0400 0x401, .put .word 0x0E80 0x123,
    .put .word 0x01D8 0xFF]

end Athrill
