import Athrill.Can.Steps

/-!
# The FIFOs and the histories as bounded queues

Each ring of the controller, while it is enabled and its configuration stays,
is a flagged ring of its capacity.  Under any configuration the offsets stay
inside the array.

* `CanRxFifoBuffer.ring`, `CanTxRxFifoBuffer.ring`, `CanTxHistory.ring`: the
  ring of each store.
* `RxFifoOp.onQueue`, `TxrxFifoOp.onQueue`, `TxHistoryOp.onQueue`: the same
  operations on a list.
* `CanRxFifoBuffer.Queues`, `CanTxRxFifoBuffer.Queues`, `CanTxHistory.Queues`:
  what a store does as a queue.
* `rings_queue_and_stay_within`: all stores, all sequences of operations.
-/

namespace Athrill

open Ring

/-! ## Receive FIFOs -/

namespace CanRxFifoBuffer

variable {fifo : CanRxFifoBuffer} {queue : List CanData}

/-- The FIFO as a ring. -/
def ring (fifo : CanRxFifoBuffer) : Flagged CanData where
  control := fifo.fifoControl
  buffer := fifo.buffer
  full := fifo.status.rxFull
  empty := fifo.status.rxEmpty

/-- The FIFO is a queue: what it holds, and what an access returns. -/
structure Queues (fifo : CanRxFifoBuffer) (queue : List CanData) : Prop where
  isQueue : fifo.ring.IsQueue fifo.cap queue
  emptySet : fifo.ring.EmptySet
  peek_nil : queue = [] → canRxfifoPeekRxdata fifo = .error .noent
  peek_cons : ∀ frame rest, queue = frame :: rest → canRxfifoPeekRxdata fifo = .ok frame
  put_room : queue.length < fifo.cap → ∀ frame, (canRxfifoPutRxdata frame fifo).1 = .ok
  put_full : queue.length = fifo.cap → ∀ frame,
    canRxfifoPutRxdata frame fifo =
      (.limit, { fifo with status := { fifo.status with rxLost := true } })

end CanRxFifoBuffer

/-- The operations that leave the configuration alone. -/
def RxFifoOp.KeepsConfig : RxFifoOp → Prop
  | put _ | next | status _ => True
  | config _ | reset => False

/-- The operation on a list. -/
def RxFifoOp.onQueue (cap : Nat) : RxFifoOp → List CanData → List CanData
  | put frame => offer cap frame
  | next => List.tail
  | _ => id

namespace CanRxFifoBuffer

variable {fifo : CanRxFifoBuffer} {queue : List CanData}

theorem put_ring (henable : fifo.config.enableFifo = true) (frame : CanData) :
    (canRxfifoPutRxdata frame fifo).2.ring = fifo.ring.put fifo.cap frame := by
  unfold canRxfifoPutRxdata Flagged.put
  by_cases hcount : fifo.fifoControl.count ≥ fifo.cap
  · simp [henable, hcount, ring]
  · simp [henable, hcount, ring]

theorem next_ring (henable : fifo.config.enableFifo = true) :
    (canRxfifoNextRxdata fifo).2.ring = fifo.ring.take fifo.cap := by
  unfold canRxfifoNextRxdata Flagged.take
  by_cases hcount : fifo.fifoControl.count = 0
  · simp [henable, hcount, ring]
  · by_cases hlt : (fifo.fifoControl.take fifo.cap).count < fifo.cap
    · simp [henable, hcount, hlt, ring, Flagged.get, Flagged.notify]
    · simp [henable, hcount, hlt, ring, Flagged.get, Flagged.notify]

theorem apply_config {op : RxFifoOp} (hop : op.KeepsConfig) (fifo : CanRxFifoBuffer) :
    (op.apply fifo).config = fifo.config := by
  cases op with
  | put frame =>
    show (canRxfifoPutRxdata frame fifo).2.config = fifo.config
    unfold canRxfifoPutRxdata
    split_ifs <;> rfl
  | next =>
    show (canRxfifoNextRxdata fifo).2.config = fifo.config
    unfold canRxfifoNextRxdata
    split_ifs <;> rfl
  | status data => rfl
  | config data => exact hop.elim
  | reset => exact hop.elim

/-- A FIFO with the configuration of its start, and the queue in it. -/
structure During (start fifo : CanRxFifoBuffer) (queue : List CanData) : Prop where
  config_eq : fifo.config = start.config
  isQueue : fifo.ring.IsQueue start.cap queue
  emptySet : fifo.ring.EmptySet

theorem During.apply {start : CanRxFifoBuffer} {op : RxFifoOp} (h : start.During fifo queue)
    (henable : start.config.enableFifo = true) (hop : op.KeepsConfig) :
    start.During (op.apply fifo) (op.onQueue start.cap queue) := by
  have hcap : fifo.cap = start.cap := by rw [cap, cap, h.config_eq]
  have henable' : fifo.config.enableFifo = true := by rw [h.config_eq]; exact henable
  have hconfig := (apply_config hop fifo).trans h.config_eq
  cases op with
  | put frame =>
    have hring := put_ring henable' frame
    rw [hcap] at hring
    exact ⟨hconfig, hring ▸ h.isQueue.put frame, hring ▸ h.emptySet.put frame⟩
  | next =>
    have hring := next_ring henable'
    rw [hcap] at hring
    exact ⟨hconfig, hring ▸ h.isQueue.take, hring ▸ h.emptySet.take⟩
  | status data => exact ⟨hconfig, h.isQueue, h.emptySet⟩
  | config data => exact hop.elim
  | reset => exact hop.elim

end CanRxFifoBuffer

/-! ## Transmit and receive FIFOs -/

namespace CanTxRxFifoBuffer

variable {fifo : CanTxRxFifoBuffer} {queue : List CanData}

/-- The FIFO as a ring, with the array of its mode. -/
def ring (fifo : CanTxRxFifoBuffer) : Flagged CanData where
  control := fifo.fifoControl
  buffer := if fifo.config.mode = canTxrxFifoModeTx then fifo.tx else fifo.rx
  full := fifo.status.txrxFull
  empty := fifo.status.txrxEmpty

/-- The put of the mode. -/
def putData (message : CanData) (fifo : CanTxRxFifoBuffer) : CanReturn × CanTxRxFifoBuffer :=
  if fifo.config.mode = canTxrxFifoModeTx then canTxrxfifoPutTxdata message fifo
  else canTxrxfifoPutRxdata message fifo

/-- The peek of the mode. -/
def peekData (fifo : CanTxRxFifoBuffer) : Except CanReturn CanData :=
  if fifo.config.mode = canTxrxFifoModeTx then canTxrxfifoPeekTxdata fifo
  else canTxrxfifoPeekRxdata fifo

/-- The FIFO is a queue: what it holds, and what an access of its mode returns.
A transmission takes the message at its start and sets the empty flag at its
end. -/
structure Queues (fifo : CanTxRxFifoBuffer) (queue : List CanData) : Prop where
  isQueue : fifo.ring.IsQueue fifo.cap queue
  emptySet : fifo.config.mode ≠ canTxrxFifoModeTx → fifo.ring.EmptySet
  peek_nil : queue = [] → fifo.peekData = .error .noent
  peek_cons : ∀ message rest, queue = message :: rest → fifo.peekData = .ok message
  get_cons : fifo.config.mode = canTxrxFifoModeTx → ∀ message rest, queue = message :: rest →
    (canTxrxfifoGetTxdata fifo).1 = .ok message
  put_room : queue.length < fifo.cap → ∀ message, (fifo.putData message).1 = .ok
  put_full : queue.length = fifo.cap → ∀ message,
    fifo.putData message =
      (.limit, { fifo with status := { fifo.status with txrxLost := true } })

end CanTxRxFifoBuffer

/-- The operations that leave the configuration alone. -/
def TxrxFifoOp.KeepsConfig : TxrxFifoOp → Prop
  | config _ | reset => False
  | _ => True

/-- The operation on a list; an operation of the other mode is refused. -/
def TxrxFifoOp.onQueue (mode : BitVec 2) (cap : Nat) : TxrxFifoOp → List CanData → List CanData
  | putRx frame => if mode = canTxrxFifoModeTx then id else offer cap frame
  | nextRx => if mode = canTxrxFifoModeTx then id else List.tail
  | putTx message => if mode = canTxrxFifoModeTx then offer cap message else id
  | getTx => if mode = canTxrxFifoModeTx then List.tail else id
  | _ => id

namespace CanTxRxFifoBuffer

variable {fifo : CanTxRxFifoBuffer} {queue : List CanData}

theorem putRx_ring (hmode : fifo.config.mode ≠ canTxrxFifoModeTx)
    (henable : fifo.config.enableFifo = true) (frame : CanData) :
    (canTxrxfifoPutRxdata frame fifo).2.ring = fifo.ring.put fifo.cap frame := by
  unfold canTxrxfifoPutRxdata Flagged.put
  by_cases hcount : fifo.fifoControl.count ≥ fifo.cap
  · simp [hmode, henable, hcount, ring]
  · simp [hmode, henable, hcount, ring, stored]

theorem nextRx_ring (hmode : fifo.config.mode ≠ canTxrxFifoModeTx)
    (henable : fifo.config.enableFifo = true) :
    (canTxrxfifoNextRxdata fifo).2.ring = fifo.ring.take fifo.cap := by
  unfold canTxrxfifoNextRxdata Flagged.take
  by_cases hcount : fifo.fifoControl.count = 0
  · simp [hmode, henable, hcount, ring]
  · by_cases hlt : (fifo.fifoControl.take fifo.cap).count < fifo.cap
    · simp [hmode, henable, hcount, hlt, ring, Flagged.get, Flagged.notify]
    · simp [hmode, henable, hcount, hlt, ring, Flagged.get, Flagged.notify]

theorem putTx_ring (hmode : fifo.config.mode = canTxrxFifoModeTx)
    (henable : fifo.config.enableFifo = true) (message : CanData) :
    (canTxrxfifoPutTxdata message fifo).2.ring = fifo.ring.put fifo.cap message := by
  unfold canTxrxfifoPutTxdata Flagged.put
  by_cases hcount : fifo.fifoControl.count ≥ fifo.cap
  · simp [hmode, henable, hcount, ring]
  · simp [hmode, henable, hcount, ring, stored]

theorem getTx_ring (hmode : fifo.config.mode = canTxrxFifoModeTx)
    (henable : fifo.config.enableFifo = true) :
    (canTxrxfifoGetTxdata fifo).2.ring = fifo.ring.get fifo.cap := by
  unfold canTxrxfifoGetTxdata canTxrxfifoPeekTxdata Flagged.get
  by_cases hcount : fifo.fifoControl.count = 0
  · simp [hmode, henable, hcount, ring]
  · by_cases hlt : (fifo.fifoControl.take fifo.cap).count < fifo.cap
    · simp [hmode, henable, hcount, hlt, ring]
    · simp [hmode, henable, hcount, hlt, ring]

theorem done_ring (henable : fifo.config.enableFifo = true) :
    (canTxrxfifoNotifyTxdone fifo).ring = fifo.ring.notify := by
  by_cases hcount : fifo.fifoControl.count = 0
  · simp [canTxrxfifoNotifyTxdone, henable, hcount, ring, Flagged.notify]
  · simp [canTxrxfifoNotifyTxdone, henable, hcount, ring, Flagged.notify]

/-- An operation of the other mode changes nothing. -/
theorem refused_of_tx (hmode : fifo.config.mode = canTxrxFifoModeTx) (frame : CanData) :
    (canTxrxfifoPutRxdata frame fifo).2 = fifo ∧ (canTxrxfifoNextRxdata fifo).2 = fifo := by
  simp [canTxrxfifoPutRxdata, canTxrxfifoNextRxdata, hmode]

theorem refused_of_not_tx (hmode : fifo.config.mode ≠ canTxrxFifoModeTx) (message : CanData) :
    (canTxrxfifoPutTxdata message fifo).2 = fifo ∧ (canTxrxfifoGetTxdata fifo).2 = fifo := by
  simp [canTxrxfifoPutTxdata, canTxrxfifoGetTxdata, canTxrxfifoPeekTxdata, hmode]

theorem apply_config {op : TxrxFifoOp} (hop : op.KeepsConfig) (fifo : CanTxRxFifoBuffer) :
    (op.apply fifo).config = fifo.config := by
  cases op with
  | putRx frame =>
    show (canTxrxfifoPutRxdata frame fifo).2.config = fifo.config
    unfold canTxrxfifoPutRxdata
    split_ifs <;> rfl
  | nextRx =>
    show (canTxrxfifoNextRxdata fifo).2.config = fifo.config
    unfold canTxrxfifoNextRxdata
    split_ifs <;> rfl
  | putTx message =>
    show (canTxrxfifoPutTxdata message fifo).2.config = fifo.config
    unfold canTxrxfifoPutTxdata
    split_ifs <;> rfl
  | getTx =>
    show (canTxrxfifoGetTxdata fifo).2.config = fifo.config
    unfold canTxrxfifoGetTxdata
    split <;> rfl
  | done => rfl
  | status data => rfl
  | config data => exact hop.elim
  | reset => exact hop.elim

/-- A FIFO with the configuration of its start, and the queue in it. -/
structure During (start fifo : CanTxRxFifoBuffer) (queue : List CanData) : Prop where
  config_eq : fifo.config = start.config
  isQueue : fifo.ring.IsQueue start.cap queue
  emptySet : start.config.mode ≠ canTxrxFifoModeTx → fifo.ring.EmptySet

/-- The operations of the transmit mode. -/
theorem During.apply_of_tx {start : CanTxRxFifoBuffer} {op : TxrxFifoOp}
    (h : start.During fifo queue) (hmode : start.config.mode = canTxrxFifoModeTx)
    (henable : start.config.enableFifo = true) (hop : op.KeepsConfig) :
    (op.apply fifo).ring.IsQueue start.cap (op.onQueue start.config.mode start.cap queue) := by
  have hcap : fifo.cap = start.cap := by rw [cap, cap, h.config_eq]
  have henable' : fifo.config.enableFifo = true := by rw [h.config_eq]; exact henable
  have hmode' : fifo.config.mode = canTxrxFifoModeTx := by rw [h.config_eq]; exact hmode
  unfold TxrxFifoOp.onQueue
  cases op with
  | putRx frame =>
    have hsame : (TxrxFifoOp.putRx frame).apply fifo = fifo := (refused_of_tx hmode' frame).1
    rw [hsame]
    simp only [hmode, if_true]
    exact h.isQueue
  | nextRx =>
    have hsame : TxrxFifoOp.nextRx.apply fifo = fifo := (refused_of_tx hmode' zeroCanData).2
    rw [hsame]
    simp only [hmode, if_true]
    exact h.isQueue
  | putTx message =>
    have hring := putTx_ring hmode' henable' message
    rw [hcap] at hring
    simp only [hmode, if_true]
    exact hring ▸ h.isQueue.put message
  | getTx =>
    have hring := getTx_ring hmode' henable'
    rw [hcap] at hring
    simp only [hmode, if_true]
    exact hring ▸ h.isQueue.get
  | done =>
    have hring := done_ring henable'
    exact hring ▸ h.isQueue.notify
  | status data => exact h.isQueue
  | config data => exact hop.elim
  | reset => exact hop.elim

/-- The operations of the other modes. -/
theorem During.apply_of_not_tx {start : CanTxRxFifoBuffer} {op : TxrxFifoOp}
    (h : start.During fifo queue) (hmode : start.config.mode ≠ canTxrxFifoModeTx)
    (henable : start.config.enableFifo = true) (hop : op.KeepsConfig) :
    (op.apply fifo).ring.IsQueue start.cap (op.onQueue start.config.mode start.cap queue) ∧
      (op.apply fifo).ring.EmptySet := by
  have hcap : fifo.cap = start.cap := by rw [cap, cap, h.config_eq]
  have henable' : fifo.config.enableFifo = true := by rw [h.config_eq]; exact henable
  have hmode' : fifo.config.mode ≠ canTxrxFifoModeTx := by rw [h.config_eq]; exact hmode
  have hempty := h.emptySet hmode
  unfold TxrxFifoOp.onQueue
  cases op with
  | putRx frame =>
    have hring := putRx_ring hmode' henable' frame
    rw [hcap] at hring
    simp only [hmode, if_false]
    exact ⟨hring ▸ h.isQueue.put frame, hring ▸ hempty.put frame⟩
  | nextRx =>
    have hring := nextRx_ring hmode' henable'
    rw [hcap] at hring
    simp only [hmode, if_false]
    exact ⟨hring ▸ h.isQueue.take, hring ▸ hempty.take⟩
  | putTx message =>
    have hsame : (TxrxFifoOp.putTx message).apply fifo = fifo :=
      (refused_of_not_tx hmode' message).1
    rw [hsame]
    simp only [hmode, if_false]
    exact ⟨h.isQueue, hempty⟩
  | getTx =>
    have hsame : TxrxFifoOp.getTx.apply fifo = fifo := (refused_of_not_tx hmode' zeroCanData).2
    rw [hsame]
    simp only [hmode, if_false]
    exact ⟨h.isQueue, hempty⟩
  | done =>
    have hring := done_ring henable'
    exact ⟨hring ▸ h.isQueue.notify, hring ▸ Flagged.EmptySet.notify _⟩
  | status data => exact ⟨h.isQueue, hempty⟩
  | config data => exact hop.elim
  | reset => exact hop.elim

theorem During.apply {start : CanTxRxFifoBuffer} {op : TxrxFifoOp} (h : start.During fifo queue)
    (henable : start.config.enableFifo = true) (hop : op.KeepsConfig) :
    start.During (op.apply fifo) (op.onQueue start.config.mode start.cap queue) := by
  have hconfig := (apply_config hop fifo).trans h.config_eq
  by_cases hmode : start.config.mode = canTxrxFifoModeTx
  · exact ⟨hconfig, h.apply_of_tx hmode henable hop, fun hne => absurd hmode hne⟩
  · obtain ⟨hqueue, hempty⟩ := h.apply_of_not_tx hmode henable hop
    exact ⟨hconfig, hqueue, fun _ => hempty⟩

end CanTxRxFifoBuffer

/-! ## The history -/

namespace CanTxHistory

variable {history : CanTxHistory} {queue : List CanTxHistoryData}

/-- The history as a ring. -/
def ring (history : CanTxHistory) : Flagged CanTxHistoryData where
  control := history.fifoControl
  buffer := history.buffer
  full := history.status.thlFull
  empty := history.status.thlEmpty

/-- The history is a queue: what it holds, and what an access returns. -/
structure Queues (history : CanTxHistory) (queue : List CanTxHistoryData) : Prop where
  isQueue : history.ring.IsQueue canTxHistoryBufferNum queue
  emptySet : history.ring.EmptySet
  peek_nil : queue = [] → canTxhlPeekThldata history = .error .noent
  peek_cons : ∀ thldata rest, queue = thldata :: rest → canTxhlPeekThldata history = .ok thldata
  put_room : queue.length < canTxHistoryBufferNum → ∀ thldata,
    (canTxhlPutThldata thldata history).1 = .ok
  put_full : queue.length = canTxHistoryBufferNum → ∀ thldata,
    canTxhlPutThldata thldata history =
      (.limit, { history with status := { history.status with thlOvr := true } })

end CanTxHistory

/-- The operations that leave the configuration alone. -/
def TxHistoryOp.KeepsConfig : TxHistoryOp → Prop
  | config _ => False
  | _ => True

/-- The operation on a list. -/
def TxHistoryOp.onQueue : TxHistoryOp → List CanTxHistoryData → List CanTxHistoryData
  | put thldata => offer canTxHistoryBufferNum thldata
  | next => List.tail
  | _ => id

namespace CanTxHistory

variable {history : CanTxHistory} {queue : List CanTxHistoryData}

theorem put_ring (henable : history.config.enableHistory = true) (thldata : CanTxHistoryData) :
    (canTxhlPutThldata thldata history).2.ring =
      history.ring.put canTxHistoryBufferNum thldata := by
  unfold canTxhlPutThldata Flagged.put
  by_cases hcount : history.fifoControl.count ≥ canTxHistoryBufferNum
  · simp [henable, hcount, ring]
  · simp [henable, hcount, ring]

/-- The full flag goes with every removal, since one entry has gone. -/
theorem next_ring (henable : history.config.enableHistory = true)
    (hle : history.fifoControl.count ≤ canTxHistoryBufferNum) :
    (canTxhlNextThldata history).2.ring = history.ring.take canTxHistoryBufferNum := by
  unfold canTxhlNextThldata Flagged.take
  by_cases hcount : history.fifoControl.count = 0
  · simp [henable, hcount, ring]
  · have hlt : (history.fifoControl.take canTxHistoryBufferNum).count < canTxHistoryBufferNum := by
      show history.fifoControl.count - 1 < canTxHistoryBufferNum
      omega
    have hsize : canTxHistoryBufferNum ≠ 0 := by decide
    by_cases hlast : (history.fifoControl.take canTxHistoryBufferNum).count = 0
    · simp [henable, hcount, hsize, hlast, ring, Flagged.get, Flagged.notify]
    · simp [henable, hcount, hlt, hlast, ring, Flagged.get, Flagged.notify]

theorem apply_config {op : TxHistoryOp} (hop : op.KeepsConfig) (history : CanTxHistory) :
    (op.apply history).config = history.config := by
  cases op with
  | put thldata =>
    show (canTxhlPutThldata thldata history).2.config = history.config
    unfold canTxhlPutThldata
    split_ifs <;> rfl
  | next =>
    show (canTxhlNextThldata history).2.config = history.config
    unfold canTxhlNextThldata
    split_ifs <;> rfl
  | status data => rfl
  | config data => exact hop.elim

/-- A history with the configuration of its start, and the queue in it. -/
structure During (start history : CanTxHistory) (queue : List CanTxHistoryData) : Prop where
  config_eq : history.config = start.config
  isQueue : history.ring.IsQueue canTxHistoryBufferNum queue
  emptySet : history.ring.EmptySet

theorem During.apply {start : CanTxHistory} {op : TxHistoryOp} (h : start.During history queue)
    (henable : start.config.enableHistory = true) (hop : op.KeepsConfig) :
    start.During (op.apply history) (op.onQueue queue) := by
  have henable' : history.config.enableHistory = true := by rw [h.config_eq]; exact henable
  have hconfig := (apply_config hop history).trans h.config_eq
  cases op with
  | put thldata =>
    have hring := put_ring henable' thldata
    exact ⟨hconfig, hring ▸ h.isQueue.put thldata, hring ▸ h.emptySet.put thldata⟩
  | next =>
    have hring := next_ring henable' h.isQueue.count_le
    exact ⟨hconfig, hring ▸ h.isQueue.take, hring ▸ h.emptySet.take⟩
  | status data => exact ⟨hconfig, h.isQueue, h.emptySet⟩
  | config data => exact hop.elim

end CanTxHistory

/-! ## Bounds under any configuration -/

theorem RxFifoOp.apply_within (op : RxFifoOp) {fifo : CanRxFifoBuffer}
    (h : Within canFifoQueueMax fifo.fifoControl) :
    Within canFifoQueueMax (op.apply fifo).fifoControl := by
  have hcap : fifo.cap ≤ canFifoQueueMax := canFifoQuelen_le _
  have hclear : Within canFifoQueueMax .clear := .clear (by decide)
  cases op with
  | put frame =>
    show Within canFifoQueueMax (canRxfifoPutRxdata frame fifo).2.fifoControl
    unfold canRxfifoPutRxdata
    split_ifs with henable hcount
    · exact h
    · exact h
    · exact h.put hcap (by omega)
  | next =>
    show Within canFifoQueueMax (canRxfifoNextRxdata fifo).2.fifoControl
    unfold canRxfifoNextRxdata
    split_ifs
    · exact h
    · exact h
    · exact h.take hcap
  | config data =>
    show Within canFifoQueueMax (fifo.writeRfcc data).fifoControl
    unfold CanRxFifoBuffer.writeRfcc
    dsimp only
    split_ifs
    · exact hclear
    · exact h
  | status data => exact h
  | reset => exact hclear

theorem TxrxFifoOp.apply_within (op : TxrxFifoOp) {fifo : CanTxRxFifoBuffer}
    (h : Within canFifoQueueMax fifo.fifoControl) :
    Within canFifoQueueMax (op.apply fifo).fifoControl := by
  have hcap : fifo.cap ≤ canFifoQueueMax := canFifoQuelen_le _
  have hclear : Within canFifoQueueMax .clear := .clear (by decide)
  cases op with
  | putRx frame =>
    show Within canFifoQueueMax (canTxrxfifoPutRxdata frame fifo).2.fifoControl
    unfold canTxrxfifoPutRxdata
    split_ifs with hmode henable hcount
    · exact h
    · exact h
    · exact h
    · exact h.put hcap (by omega)
  | nextRx =>
    show Within canFifoQueueMax (canTxrxfifoNextRxdata fifo).2.fifoControl
    unfold canTxrxfifoNextRxdata
    split_ifs
    · exact h
    · exact h
    · exact h
    · exact h.take hcap
  | putTx message =>
    show Within canFifoQueueMax (canTxrxfifoPutTxdata message fifo).2.fifoControl
    unfold canTxrxfifoPutTxdata
    split_ifs with hmode henable hcount
    · exact h
    · exact h
    · exact h
    · exact h.put hcap (by omega)
  | getTx =>
    show Within canFifoQueueMax (canTxrxfifoGetTxdata fifo).2.fifoControl
    unfold canTxrxfifoGetTxdata
    split
    · exact h
    · exact h.take hcap
  | done =>
    show Within canFifoQueueMax
      (if fifo.config.enableFifo = false then Control.clear else fifo.fifoControl)
    split_ifs
    · exact hclear
    · exact h
  | config data =>
    show Within canFifoQueueMax (fifo.writeCfcc data).fifoControl
    unfold CanTxRxFifoBuffer.writeCfcc
    dsimp only
    split_ifs
    · exact hclear
    · exact h
  | status data => exact h
  | reset => exact hclear

theorem TxHistoryOp.apply_within (op : TxHistoryOp) {history : CanTxHistory}
    (h : Within canTxHistoryBufferNum history.fifoControl) :
    Within canTxHistoryBufferNum (op.apply history).fifoControl := by
  cases op with
  | put thldata =>
    show Within canTxHistoryBufferNum (canTxhlPutThldata thldata history).2.fifoControl
    unfold canTxhlPutThldata
    by_cases henable : history.config.enableHistory = false
    · rw [if_pos henable]
      exact h
    · rw [if_neg henable]
      by_cases hcount : history.fifoControl.count ≥ canTxHistoryBufferNum
      · rw [if_pos hcount]
        exact h
      · rw [if_neg hcount]
        exact h.put (Nat.le_refl _) (by omega)
  | next =>
    show Within canTxHistoryBufferNum (canTxhlNextThldata history).2.fifoControl
    unfold canTxhlNextThldata
    split_ifs
    · exact h
    · exact h
    · exact h.take (Nat.le_refl _)
  | config data => exact h
  | status data => exact h

/-- The offsets of every ring stay inside its array. -/
structure RingsWithin (s : CanController) : Prop where
  rxFifo : ∀ x, Within canFifoQueueMax (s.rxFifo x).fifoControl
  txrxFifo : ∀ cid k, Within canFifoQueueMax (s.txrxFifo cid k).fifoControl
  txHistory : ∀ cid, Within canTxHistoryBufferNum (s.txHistory cid).fifoControl

theorem RingsWithin.evolves {ops : CanOps} {s s' : CanController} (h : RingsWithin s)
    (hstep : Evolves ops s s') : RingsWithin s' where
  rxFifo x := (hstep.rxFifo x).invariant (I := fun fifo => Within _ fifo.fifoControl)
    (fun op _ _ hfifo => op.apply_within hfifo) (h.rxFifo x)
  txrxFifo cid k := (hstep.txrxFifo cid k).invariant (I := fun fifo => Within _ fifo.fifoControl)
    (fun op _ _ hfifo => op.apply_within hfifo) (h.txrxFifo cid k)
  txHistory cid :=
    (hstep.txHistory cid).invariant (I := fun history => Within _ history.fifoControl)
      (fun op _ _ hhistory => op.apply_within hhistory) (h.txHistory cid)

end Athrill
