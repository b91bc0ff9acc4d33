import Athrill.Can.Steps
import Mathlib.Data.Fintype.Card

/-!
# The transmit queues

A queue counts its requests in `reqbufnum` and looks for a free slot among the
last ones of its channel.  The count is right in every state, so a request that
the count lets in finds a slot.

* `CanTxQueue.pending`: the slots with a request.
* `CanTxQueue.Counted`: the invariant.
* `canTxqueSearch_of_lt`: the pigeonhole argument.
* `CanTxQueue.Exact`, `CanTxQueue.Counted.exact`: what a put does.
* `txQueue_exact`: every sequence of operations and every reachable state.
-/

namespace Athrill

namespace CanTxQueue

/-- The slots with a request. -/
def pending (queue : CanTxQueue) : Finset CanTxBufferIdx :=
  Finset.univ.filter fun bufno => (queue.txData bufno).txReq = true

/-- The slots that a put may take: the last `quelen + 1` of the channel. -/
def window (queue : CanTxQueue) : Finset CanTxBufferIdx :=
  Finset.univ.filter fun bufno => 15 - queue.config.quelen.val ≤ bufno.val

/-- The test that lets a put in. -/
def Accepts (queue : CanTxQueue) : Prop :=
  queue.config.enableQueue = true ∧ queue.config.quelen ≠ 0 ∧
    queue.reqbufnum < queue.config.quelen.val + 1

/-- The count and the empty flag agree with the slots. -/
structure Counted (queue : CanTxQueue) : Prop where
  reqbufnum_eq : queue.reqbufnum = queue.pending.card
  isEmpty_iff : queue.status.isEmpty = true ↔ queue.pending = ∅

@[simp] theorem mem_pending {queue : CanTxQueue} {bufno : CanTxBufferIdx} :
    bufno ∈ queue.pending ↔ (queue.txData bufno).txReq = true := by
  simp [pending]

@[simp] theorem mem_window {queue : CanTxQueue} {bufno : CanTxBufferIdx} :
    bufno ∈ queue.window ↔ 15 - queue.config.quelen.val ≤ bufno.val := by
  simp [window]

theorem card_window (queue : CanTxQueue) :
    queue.window.card = queue.config.quelen.val + 1 := by
  unfold window
  generalize queue.config.quelen = quelen
  revert quelen
  decide

theorem card_pending_le (queue : CanTxQueue) : queue.pending.card ≤ 16 := by
  simpa using Finset.card_le_univ queue.pending

end CanTxQueue

/-! ## The search -/

theorem canTxqueSearch_some {txData : CanTxBufferIdx → CanTxQueueData} {count : Nat}
    {first bufno : CanTxBufferIdx} (hcount : count ≤ first.val + 1)
    (h : canTxqueSearch txData count first = some bufno) :
    first.val + 1 - count ≤ bufno.val ∧ (txData bufno).txReq = false := by
  induction count generalizing first with
  | zero => cases h
  | succ count ih =>
    unfold canTxqueSearch at h
    split_ifs at h with hfree
    · cases h
      exact ⟨by omega, hfree⟩
    · cases count with
      | zero => cases h
      | succ count =>
        have hzero : first ≠ 0 := Fin.ne_of_val_ne (by show first.val ≠ 0; omega)
        have hpred : (first - 1).val = first.val - 1 := Fin.val_sub_one_of_ne_zero hzero
        obtain ⟨hle, hreq⟩ := ih (by omega) h
        exact ⟨by omega, hreq⟩

theorem canTxqueSearch_none {txData : CanTxBufferIdx → CanTxQueueData} {count : Nat}
    {first : CanTxBufferIdx} (hcount : count ≤ first.val + 1)
    (h : canTxqueSearch txData count first = none) {bufno : CanTxBufferIdx}
    (hle : bufno.val ≤ first.val) (hge : first.val + 1 - count ≤ bufno.val) :
    (txData bufno).txReq = true := by
  induction count generalizing first with
  | zero => omega
  | succ count ih =>
    unfold canTxqueSearch at h
    split_ifs at h with hfree
    by_cases hfirst : bufno = first
    · subst hfirst
      simpa using hfree
    · have hne : bufno.val ≠ first.val := Fin.val_ne_of_ne hfirst
      have hzero : first ≠ 0 := Fin.ne_of_val_ne (by show first.val ≠ 0; omega)
      have hpred : (first - 1).val = first.val - 1 := Fin.val_sub_one_of_ne_zero hzero
      exact ih (by omega) h (by omega) (by omega)

/-- Fewer requests than slots leave a free one. -/
theorem canTxqueSearch_of_lt {queue : CanTxQueue}
    (h : queue.pending.card < queue.config.quelen.val + 1) :
    ∃ bufno ∈ queue.window, (queue.txData bufno).txReq = false ∧
      canTxqueSearch queue.txData (queue.config.quelen.val + 1) 15 = some bufno := by
  have hcount : queue.config.quelen.val + 1 ≤ (15 : CanTxBufferIdx).val + 1 := by
    have hlt := queue.config.quelen.isLt
    show _ ≤ 16
    omega
  have hfirst : (15 : CanTxBufferIdx).val = 15 := rfl
  cases hsearch : canTxqueSearch queue.txData (queue.config.quelen.val + 1) 15 with
  | some bufno =>
    obtain ⟨hge, hreq⟩ := canTxqueSearch_some hcount hsearch
    exact ⟨bufno, CanTxQueue.mem_window.mpr (by omega), hreq, rfl⟩
  | none =>
    -- every slot of the window has a request
    have hsub : queue.window ⊆ queue.pending := by
      intro bufno hmem
      have hge := CanTxQueue.mem_window.mp hmem
      have hle : bufno.val ≤ 15 := by omega
      exact CanTxQueue.mem_pending.mpr (canTxqueSearch_none hcount hsearch hle (by omega))
    have hcard := Finset.card_le_card hsub
    rw [CanTxQueue.card_window] at hcard
    omega

/-! ## Operations -/

namespace CanTxQueue

variable {queue : CanTxQueue}

/-- The queue after a put that was let in. -/
theorem put_of_accepts (hcounted : queue.Counted) (haccepts : queue.Accepts)
    (message : CanData) :
    ∃ bufno ∈ queue.window,
      canTxqueSearch queue.txData (queue.config.quelen.val + 1) 15 = some bufno ∧
      (queue.txData bufno).txReq = false ∧
      (canTxquePutTxdata message queue).txData =
        Function.update queue.txData bufno { txReq := true, data := message } ∧
      (canTxquePutTxdata message queue).reqbufnum = queue.reqbufnum + 1 ∧
      (canTxquePutTxdata message queue).status.isEmpty = false := by
  obtain ⟨henable, hquelen, hroom⟩ := haccepts
  have hlt : queue.pending.card < queue.config.quelen.val + 1 := by
    rw [← hcounted.reqbufnum_eq]
    exact hroom
  obtain ⟨bufno, hwindow, hfree, hsearch⟩ := canTxqueSearch_of_lt hlt
  refine ⟨bufno, hwindow, hsearch, hfree, ?_⟩
  have hroom' : ¬ queue.reqbufnum ≥ queue.config.quelen.val + 1 := by omega
  simp [canTxquePutTxdata, henable, hquelen, hroom', hsearch]

/-- A put that is not let in changes nothing. -/
theorem put_of_not_accepts (h : ¬ queue.Accepts) (message : CanData) :
    canTxquePutTxdata message queue = queue := by
  unfold canTxquePutTxdata
  by_cases henable : queue.config.enableQueue = false
  · rw [if_pos henable]
  · rw [if_neg henable]
    by_cases hquelen : queue.config.quelen = 0
    · rw [if_pos hquelen]
    · rw [if_neg hquelen]
      have hroom : queue.reqbufnum ≥ queue.config.quelen.val + 1 := by
        by_contra hlt
        exact h ⟨by simpa using henable, hquelen, by omega⟩
      exact if_pos hroom

/-- A request more. -/
theorem pending_insert {slots : CanTxBufferIdx → CanTxQueueData} {bufno : CanTxBufferIdx}
    {message : CanData} {after : CanTxQueue}
    (h : after.txData = Function.update slots bufno { txReq := true, data := message }) :
    after.pending =
      insert bufno (Finset.univ.filter fun bufno => (slots bufno).txReq = true) := by
  ext b
  rw [mem_pending, h]
  by_cases hb : b = bufno
  · subst hb
    simp
  · simp [hb]

/-- A request less. -/
theorem pending_erase {slots : CanTxBufferIdx → CanTxQueueData} {bufno : CanTxBufferIdx}
    {message : CanData} {after : CanTxQueue}
    (h : after.txData = Function.update slots bufno { txReq := false, data := message }) :
    after.pending =
      (Finset.univ.filter fun bufno => (slots bufno).txReq = true).erase bufno := by
  ext b
  rw [mem_pending, h]
  by_cases hb : b = bufno
  · subst hb
    simp
  · simp [hb]

theorem Counted.put (h : queue.Counted) (message : CanData) :
    (canTxquePutTxdata message queue).Counted := by
  by_cases haccepts : queue.Accepts
  · obtain ⟨bufno, _, _, hfree, hdata, hcount, hempty⟩ := put_of_accepts h haccepts message
    have hpending := pending_insert hdata
    have hnot : bufno ∉ queue.pending := by simp [hfree]
    refine ⟨?_, ?_⟩
    · rw [hcount, hpending, h.reqbufnum_eq]
      exact (Finset.card_insert_of_notMem hnot).symm
    · rw [hempty, hpending]
      simp
  · rw [put_of_not_accepts haccepts]
    exact h

theorem Counted.done (h : queue.Counted) (bufno : CanTxBufferIdx) :
    (canTxqueNotifyTxdone bufno queue).Counted := by
  unfold canTxqueNotifyTxdone
  by_cases hreq : (queue.txData bufno).txReq = true
  · rw [if_pos hreq]
    have hmem : bufno ∈ queue.pending := mem_pending.mpr hreq
    have hcard := Finset.card_erase_of_mem hmem
    have hne : queue.pending ≠ ∅ := Finset.ne_empty_of_mem hmem
    have hnot : queue.status.isEmpty = false := by
      rw [← Bool.not_eq_true, h.isEmpty_iff]
      exact hne
    refine ⟨?_, ?_⟩
    · rw [pending_erase rfl]
      show queue.reqbufnum - 1 = (queue.pending.erase bufno).card
      rw [hcard, h.reqbufnum_eq]
    · rw [pending_erase rfl]
      show (if queue.reqbufnum - 1 = 0 then true else queue.status.isEmpty) = true ↔
        queue.pending.erase bufno = ∅
      rw [hnot, ← Finset.card_eq_zero, hcard, h.reqbufnum_eq]
      simp
  · rw [if_neg hreq]
    exact h

theorem Counted.apply (h : queue.Counted) (op : TxQueueOp) : (op.apply queue).Counted := by
  cases op with
  | put message => exact h.put message
  | done bufno => exact h.done bufno
  | config data => exact ⟨h.reqbufnum_eq, h.isEmpty_iff⟩
  | status data => exact ⟨h.reqbufnum_eq, h.isEmpty_iff⟩

theorem counted_initial (cid : CanChannelId) : (initialCan.txQueue cid).Counted where
  reqbufnum_eq := rfl
  isEmpty_iff := by
    show true = true ↔ _
    simp [pending, initialCan]

/-! ## Every state -/

/-- The count is right, a put that is let in stores its message in a free slot
of the window, and any other put changes nothing. -/
structure Exact (queue : CanTxQueue) : Prop where
  reqbufnum_eq : queue.reqbufnum = queue.pending.card
  reqbufnum_le : queue.reqbufnum ≤ 16
  isEmpty_iff : queue.status.isEmpty = true ↔ ∀ bufno, (queue.txData bufno).txReq = false
  put_accepted : queue.Accepts → ∀ message, ∃ bufno ∈ queue.window,
    canTxqueSearch queue.txData (queue.config.quelen.val + 1) 15 = some bufno ∧
    (queue.txData bufno).txReq = false ∧
    (canTxquePutTxdata message queue).txData =
      Function.update queue.txData bufno { txReq := true, data := message } ∧
    (canTxquePutTxdata message queue).pending = insert bufno queue.pending ∧
    (canTxquePutTxdata message queue).reqbufnum = queue.reqbufnum + 1
  put_refused : ¬ queue.Accepts → ∀ message, canTxquePutTxdata message queue = queue

theorem Counted.exact (h : queue.Counted) : queue.Exact where
  reqbufnum_eq := h.reqbufnum_eq
  reqbufnum_le := by
    rw [h.reqbufnum_eq]
    exact queue.card_pending_le
  isEmpty_iff := by
    rw [h.isEmpty_iff, Finset.eq_empty_iff_forall_notMem]
    simp
  put_accepted haccepts message := by
    obtain ⟨bufno, hwindow, hsearch, hfree, hdata, hcount, _⟩ := put_of_accepts h haccepts message
    exact ⟨bufno, hwindow, hsearch, hfree, hdata, pending_insert hdata, hcount⟩
  put_refused hrefused := put_of_not_accepts hrefused

end CanTxQueue

/-- A queue counts its requests and stores every accepted message, after any
sequence of its operations and in every state that a controller reaches. -/
theorem txQueue_exact (cid : CanChannelId) :
    (∀ ops : List TxQueueOp,
      (ops.foldl (fun queue op => op.apply queue) (initialCan.txQueue cid)).Exact) ∧
    ∀ s, canController.Reachable s → (s.txQueue cid).Exact := by
  refine ⟨fun ops => ?_, fun s hs => ?_⟩
  · have hrun : ∀ (ops : List TxQueueOp) (queue : CanTxQueue), queue.Counted →
        (ops.foldl (fun queue op => op.apply queue) queue).Counted := by
      intro ops
      induction ops with
      | nil => exact fun _ h => h
      | cons op ops ih => exact fun queue h => ih _ (h.apply op)
    exact (hrun ops _ (CanTxQueue.counted_initial cid)).exact
  · have hcounted : (s.txQueue cid).Counted := by
      refine CanController.part_of_reachable (fun s => s.txQueue cid)
        (CanTxQueue.counted_initial cid) ?_ hs
      intro s s' ops hevolves h
      exact (hevolves.txQueue cid).invariant (fun op _ _ hq => hq.apply op) h
    exact hcounted.exact

/-- The queue of channel 0 with two messages. -/
theorem txQueue_exact_two :
    ∃ s, canController.Reachable s ∧ (s.txQueue 0).reqbufnum = 2 ∧ (s.txQueue 0).Exact := by
  have hview : (CanController.run (startChannel ++ [.put .word 0x03A0 0x301,
      .put .word 0x10F0 0x123, .put .word 0x03E0 0xFF, .put .word 0x10F0 0x456,
      .put .word 0x03E0 0xFF]) initialCan).map (fun s => (s.txQueue 0).reqbufnum) = some 2 := by
    decide +kernel
  obtain ⟨s, hreach, hcount⟩ := CanController.exists_reachable hview
  exact ⟨s, hreach, hcount, (txQueue_exact 0).2 s hreach⟩

end Athrill
