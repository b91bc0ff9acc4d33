import Athrill.Can.Mapping
import Athrill.Lib.Pointwise

/-!
# Where a received frame goes

The loops of `can_rx_proc_routing` visit every FIFO once, so a rule changes
each FIFO that it selects by one offer and no other one.

* `foldl_modifyRxFifo`, `foldl_modifyTxrxFifo`: loops over the FIFOs.
* `routeRxFifo_eq`, `routeTxrxFifo_eq`: the offers as one change.
* `canRxProcRouting_eq`: the whole routing.
* `canRxProcRule_cases`: what one rule does.
-/

namespace Athrill

namespace CanController

theorem foldl_modifyRxFifo (f : CanRxFifoId → CanRxFifoBuffer → CanRxFifoBuffer)
    (xs : List CanRxFifoId) (s : CanController) :
    xs.foldl (fun s x => s.modifyRxFifo x (f x)) s =
      { s with
        rxFifo := xs.foldl (fun rxFifo x => Function.update rxFifo x (f x (rxFifo x))) s.rxFifo } := by
  induction xs generalizing s with
  | nil => rfl
  | cons x xs ih =>
    rw [List.foldl_cons, ih]
    rfl

theorem foldl_modifyTxrxFifo (cid : CanChannelId)
    (f : CanTxrxFifoIdx → CanTxRxFifoBuffer → CanTxRxFifoBuffer) (ks : List CanTxrxFifoIdx)
    (s : CanController) :
    ks.foldl (fun s k => s.modifyTxrxFifo cid k (f k)) s =
      { s with
        txrxFifo := Function.update s.txrxFifo cid
          (ks.foldl (fun txrxFifo k => Function.update txrxFifo k (f k (txrxFifo k)))
            (s.txrxFifo cid)) } := by
  induction ks generalizing s with
  | nil => simp
  | cons k ks ih =>
    rw [List.foldl_cons, ih]
    simp [modifyTxrxFifo]

/-- One offer of a frame to a receive FIFO that a rule may select. -/
def offerRxFifo (rule : CanRxRule) (frame : CanData) (x : CanRxFifoId) (fifo : CanRxFifoBuffer) :
    CanRxFifoBuffer :=
  if rule.filterFifo.rxFifo.getLsbD x.val then (canRxfifoPutRxdata frame fifo).2 else fifo

/-- One offer of a frame to a TXRX FIFO of the channel. -/
def offerTxrxFifo (cid : CanChannelId) (rule : CanRxRule) (frame : CanData) (k : CanTxrxFifoIdx)
    (fifo : CanTxRxFifoBuffer) : CanTxRxFifoBuffer :=
  if rule.filterFifo.txrxFifo.getLsbD (3 * cid.val + k.val) then
    (canTxrxfifoPutRxdata frame fifo).2
  else fifo

theorem routeRxFifo_eq (rule : CanRxRule) (frame : CanData) (s : CanController) :
    routeRxFifo rule frame s =
      { s with rxFifo := fun x => offerRxFifo rule frame x (s.rxFifo x) } := by
  have hpass : ∀ (s : CanController) (x : CanRxFifoId),
      (if rule.filterFifo.rxFifo.getLsbD x.val then
          s.modifyRxFifo x fun fifo => (canRxfifoPutRxdata frame fifo).2
        else s) = s.modifyRxFifo x (offerRxFifo rule frame x) := by
    intro s x
    unfold offerRxFifo
    split_ifs
    · rfl
    · simp [modifyRxFifo]
  unfold routeRxFifo
  simp only [hpass]
  rw [foldl_modifyRxFifo, Pointwise.foldl_update_finRange (offerRxFifo rule frame)]

theorem routeTxrxFifo_eq (cid : CanChannelId) (rule : CanRxRule) (frame : CanData)
    (s : CanController) :
    routeTxrxFifo cid rule frame s =
      { s with
        txrxFifo := Function.update s.txrxFifo cid fun k =>
          offerTxrxFifo cid rule frame k (s.txrxFifo cid k) } := by
  have hpass : ∀ (s : CanController) (k : CanTxrxFifoIdx),
      (if rule.filterFifo.txrxFifo.getLsbD (3 * cid.val + k.val) then
          s.modifyTxrxFifo cid k fun fifo => (canTxrxfifoPutRxdata frame fifo).2
        else s) = s.modifyTxrxFifo cid k (offerTxrxFifo cid rule frame k) := by
    intro s k
    unfold offerTxrxFifo
    split_ifs
    · rfl
    · simp [modifyTxrxFifo]
  unfold routeTxrxFifo
  simp only [hpass]
  rw [foldl_modifyTxrxFifo, Pointwise.foldl_update_finRange (offerTxrxFifo cid rule frame)]

/-- The frame as a rule stores it. -/
def labelled (rule : CanRxRule) (frame : CanData) : CanData :=
  { frame with label := rule.filterBuffer.label }

/-- The receive buffers after a rule. -/
def storeRxBuffer (rule : CanRxRule) (frame : CanData) (control : CanRxBufferControl) :
    Option CanRxBufferControl :=
  if rule.filterBuffer.enableRxbuffer then
    canRxbufferPutRxdata rule.filterBuffer.rxbufferNumber.toNat (labelled rule frame) control
  else some control

/-- The routing changes the receive buffers, the receive FIFOs and the TXRX
FIFOs of the channel. -/
theorem canRxProcRouting_eq (cid : CanChannelId) (rule : CanRxRule) (frame : CanData)
    (s : CanController) :
    s.canRxProcRouting cid rule frame =
      (storeRxBuffer rule frame s.rxBuffer).map fun rxBuffer =>
        { s with
          rxBuffer := rxBuffer
          rxFifo := fun x => offerRxFifo rule (labelled rule frame) x (s.rxFifo x)
          txrxFifo := Function.update s.txrxFifo cid fun k =>
            offerTxrxFifo cid rule (labelled rule frame) k (s.txrxFifo cid k) } := by
  unfold canRxProcRouting
  simp only [routeRxFifo_eq, routeTxrxFifo_eq]
  rfl

/-- A rule that rejects the frame, one whose length check fails, and one that
stores it. -/
theorem canRxProcRule_cases {cid : CanChannelId} {frame : CanData} {s s' : CanController}
    {p : CanRxRulePointer} (h : s.canRxProcRule cid frame p = some s') :
    s' = s ∨ s' = s.setDlcError ∨
      ∃ rule rxBuffer, s.rxRuleTable.rule p = some rule ∧
        canRxProcFilterAcceptance rule frame = true ∧
        canRxProcFilterDlc s.modeGlobal.config.enableDlcCheck rule frame = true ∧
        storeRxBuffer rule frame s.rxBuffer = some rxBuffer ∧
        s' =
          { s with
            rxBuffer := rxBuffer
            rxFifo := fun x => offerRxFifo rule (labelled rule frame) x (s.rxFifo x)
            txrxFifo := Function.update s.txrxFifo cid fun k =>
              offerTxrxFifo cid rule (labelled rule frame) k (s.txrxFifo cid k) } := by
  unfold canRxProcRule at h
  obtain ⟨rule, hrule, h⟩ := Option.bind_eq_some_iff.mp h
  split_ifs at h with haccept hdlc
  · exact Or.inl (Option.some.inj h).symm
  · exact Or.inr (Or.inl (Option.some.inj h).symm)
  · rw [canRxProcRouting_eq] at h
    obtain ⟨rxBuffer, hbuffer, heq⟩ := Option.map_eq_some_iff.mp h
    exact Or.inr (Or.inr ⟨rule, rxBuffer, hrule, by simpa using haccept, by simpa using hdlc,
      hbuffer, heq.symm⟩)

end CanController

end Athrill
