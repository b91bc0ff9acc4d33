import Athrill.Can.Steps
import Athrill.Can.Words

/-!
# The transmit interrupt and its status registers

`can_intr_tx_run` raises the transmit interrupt of a channel for four reasons,
and a load of `RSCANnGTINTSTS0` or `RSCANnGTINTSTS1` shows them in four bits.
The reader tests the transmit buffers with the wrong operators and answers
`FALSE` for the history.

* `gtintstsBit`: a bit as a load returns it.
* `IntrStatusExact`: every bit shows its reason.
* `IntrStatusShown`: the reasons that are present are shown.
* `intrStatusExact_iff`: when the registers are right.
-/

namespace Athrill

namespace CanController

/-- The register of a channel. -/
def gtintstsOffset (cid : CanChannelId) : Nat := if cid.val < 4 then 0x0460 else 0x0464

/-- A bit of a channel in the word that a load at an address takes its bytes
from. -/
def gtintstsBit (s : CanController) (address : Nat) (indeterminate : BitVec 32)
    (cid : CanChannelId) (bit : Nat) : Bool :=
  ((s.get address indeterminate).register (gtintstsOffset cid)).getLsbD (8 * (cid.val % 4) + bit)

/-- A transmit buffer with its interrupt enabled has completed. -/
def TxBufferReason (s : CanController) (cid : CanChannelId) : Prop :=
  ∃ bufno, s.txIntrEnabled cid bufno = true ∧ (s.txBuffer cid bufno).result &&& 0x2 ≠ 0

/-- The interrupt of the transmit queue. -/
def TxQueueReason (s : CanController) (cid : CanChannelId) : Prop :=
  (s.txQueue cid).config.enableIntr = true ∧ (s.txQueue cid).status.intrReq = true

/-- The transmission interrupt of a TXRX FIFO. -/
def TxFifoReason (s : CanController) (cid : CanChannelId) : Prop :=
  ∃ k, (s.txrxFifo cid k).config.enableTxIntr = true ∧
    (s.txrxFifo cid k).status.txIntr = true

/-- The interrupt of the history. -/
def TxHistoryReason (s : CanController) (cid : CanChannelId) : Prop :=
  (s.txHistory cid).config.enableIntr = true ∧ (s.txHistory cid).status.thlIntr = true

/-- The interrupt is raised for one of the four reasons. -/
theorem canIntrTxRun_iff (s : CanController) (cid : CanChannelId) :
    s.canIntrTxRun cid = true ↔
      s.TxBufferReason cid ∨ s.TxQueueReason cid ∨ s.TxFifoReason cid ∨
        s.TxHistoryReason cid := by
  have hbuffer : s.canIntrTxBufferCheck cid = true ↔
      s.TxBufferReason cid ∨ s.TxQueueReason cid := by
    simp [canIntrTxBufferCheck, TxBufferReason, TxQueueReason, List.any_eq_true]
  have hfifo : s.canIntrTxFifoCheck cid = true ↔ s.TxFifoReason cid := by
    simp [canIntrTxFifoCheck, TxFifoReason, List.any_eq_true]
  unfold canIntrTxRun
  split_ifs with hb hf
  · exact iff_of_true rfl ((hbuffer.mp hb).elim Or.inl fun h => Or.inr (Or.inl h))
  · exact iff_of_true rfl (Or.inr (Or.inr (Or.inl (hfifo.mp hf))))
  · rw [hbuffer] at hb
    rw [hfifo] at hf
    simp only [TxHistoryReason, Bool.and_eq_true]
    constructor
    · exact fun h => Or.inr (Or.inr (Or.inr h))
    · intro h
      rcases h with h | h | h | h
      · exact absurd (Or.inl h) hb
      · exact absurd (Or.inr h) hb
      · exact absurd h hf
      · exact h

/-! ## The bits of a load -/

/-- The bits that the handler writes for one channel. -/
theorem getLsbD_gtintstsBits (s : CanController) (cid : CanChannelId) {base : Nat}
    (hbase : base + 4 < 32) (data : BitVec 32) (i : Nat) :
    (s.gtintstsBits cid base data).getLsbD i =
      if i = base + 4 then s.gtintstsIsTHIFm cid
      else if i = base + 2 then s.gtintstsIsTQIFm cid
      else if i = base + 3 then s.gtintstsIsCFTIFm cid
      else if i = base then s.gtintstsIsTxIntr cid
      else data.getLsbD i := by
  unfold gtintstsBits
  dsimp only
  rw [getLsbD_canRegUpdateRegBit _ (by omega), getLsbD_canRegUpdateRegBit _ (by omega),
    getLsbD_canRegUpdateRegBit _ (by omega), getLsbD_canRegUpdateRegBit _ (by omega)]

/-- The two registers in the table. -/
theorem searchMap_gtintsts {cid : CanChannelId} {address : Nat}
    (h : canRegGetAlignedAddr address = gtintstsOffset cid) :
    searchMap address = some (if cid.val < 4 then .gtintsts0 else .gtintsts1) := by
  unfold gtintstsOffset canRegGetAlignedAddr at h
  by_cases hlow : cid.val < 4
  · rw [if_pos hlow] at h ⊢
    have hcases : address = 0x0460 ∨ address = 0x0461 ∨ address = 0x0462 ∨ address = 0x0463 := by
      omega
    rcases hcases with heq | heq | heq | heq <;> subst heq <;> decide +kernel
  · rw [if_neg hlow] at h ⊢
    have hcases : address = 0x0464 ∨ address = 0x0465 ∨ address = 0x0466 ∨ address = 0x0467 := by
      omega
    rcases hcases with heq | heq | heq | heq <;> subst heq <;> decide +kernel

/-- The word that a load finds in the register of a channel. -/
theorem register_get_gtintsts {cid : CanChannelId} {address : Nat}
    (h : canRegGetAlignedAddr address = gtintstsOffset cid) (indeterminate : BitVec 32)
    (s : CanController) :
    ∃ data, (s.get address indeterminate).register (gtintstsOffset cid) =
      if cid.val < 4 then
        s.gtintstsBits 3 24 (s.gtintstsBits 2 16 (s.gtintstsBits 1 8 (s.gtintstsBits 0 0 data)))
      else s.gtintstsBits 5 8 (s.gtintstsBits 4 0 data) := by
  have hmap := searchMap_gtintsts h
  refine ⟨CanDevice.register (canRegGetAlignedAddr address) (s.toCanDevice.get address), ?_⟩
  unfold get
  rw [hmap]
  by_cases hlow : cid.val < 4
  · rw [if_pos hlow, if_pos hlow]
    show canRegisterReadData32 _ (canRegisterWriteData32 (canRegGetAlignedAddr address) _ _) = _
    rw [h, read_write, ← h]
    rfl
  · rw [if_neg hlow, if_neg hlow]
    show canRegisterReadData32 _ (canRegisterWriteData32 (canRegGetAlignedAddr address) _ _) = _
    rw [h, read_write, ← h]
    rfl

/-- The four bits of a channel are what the reader computes. -/
theorem gtintstsBit_eq {cid : CanChannelId} {address : Nat}
    (h : canRegGetAlignedAddr address = gtintstsOffset cid) (indeterminate : BitVec 32)
    (s : CanController) :
    s.gtintstsBit address indeterminate cid 0 = s.gtintstsIsTxIntr cid ∧
      s.gtintstsBit address indeterminate cid 2 = s.gtintstsIsTQIFm cid ∧
      s.gtintstsBit address indeterminate cid 3 = s.gtintstsIsCFTIFm cid ∧
      s.gtintstsBit address indeterminate cid 4 = s.gtintstsIsTHIFm cid := by
  obtain ⟨data, hdata⟩ := register_get_gtintsts h indeterminate s
  unfold gtintstsBit
  rw [hdata]
  clear hdata h
  match cid with
  | 0 | 1 | 2 | 3 =>
    rw [if_pos (by decide)]
    simp only [getLsbD_gtintstsBits, Nat.reduceAdd, Nat.reduceLT]
    exact ⟨rfl, rfl, rfl, rfl⟩
  | 4 | 5 =>
    rw [if_neg (by decide)]
    simp only [getLsbD_gtintstsBits, Nat.reduceAdd, Nat.reduceLT]
    exact ⟨rfl, rfl, rfl, rfl⟩

theorem gtintstsIsTQIFm_iff (s : CanController) (cid : CanChannelId) :
    s.gtintstsIsTQIFm cid = true ↔ s.TxQueueReason cid := by
  simp [gtintstsIsTQIFm, TxQueueReason, List.any_eq_true]

theorem gtintstsIsCFTIFm_iff (s : CanController) (cid : CanChannelId) :
    s.gtintstsIsCFTIFm cid = true ↔ s.TxFifoReason cid := by
  simp [gtintstsIsCFTIFm, TxFifoReason, List.any_eq_true]

theorem gtintstsIsTHIFm_eq (s : CanController) (cid : CanChannelId) :
    s.gtintstsIsTHIFm cid = false := by
  simp [gtintstsIsTHIFm]

/-! ## Results -/

/-- The transmission results use two bits. -/
def ResultsSmall (s : CanController) : Prop :=
  ∀ cid bufno, (s.txBuffer cid bufno).result &&& 0x10 = 0

theorem result_small_of_apply {op : TxBufferOp} {buffer : CanTxBuffer}
    (hop : ∀ bits, op = .result bits → bits &&& 0x10 = 0) (h : buffer.result &&& 0x10 = 0) :
    (op.apply buffer).result &&& 0x10 = 0 := by
  cases op with
  | request flag => exact h
  | result bits => exact hop bits rfl
  | message reg data => exact h
  | send => exact h
  | done =>
    show (canTxbufferNotifyTxdone buffer).result &&& 0x10 = 0
    unfold canTxbufferNotifyTxdone
    split_ifs
    · show canTxBufferResultOk &&& 0x10 = 0
      decide
    · exact h
  | reset =>
    show (0 : BitVec 8) &&& 0x10 = 0
    decide

theorem resultsSmall_of_reachable {s : CanController} (h : canController.Reachable s) :
    s.ResultsSmall := by
  refine TransitionSystem.Invariant.of_reachable (I := ResultsSmall) ⟨?_, ?_⟩ h
  · intro s hs cid bufno
    rw [show s = initialCan from hs]
    show (0 : BitVec 8) &&& 0x10 = 0
    decide
  · intro event s s' hI hs cid bufno
    obtain ⟨outputs, hs⟩ := hs
    refine ((step_evolves hs).txBuffer cid bufno).invariant
      (I := fun buffer => buffer.result &&& 0x10 = 0) ?_ (hI cid bufno)
    intro op hop buffer hbuffer
    refine result_small_of_apply (fun bits heq => ?_) hbuffer
    rw [heq] at hop
    cases event with
    | put size address data =>
      obtain ⟨_, _, _, hbits⟩ := hop
      have hmask : (0x3 : BitVec 8) &&& 0x10 = 0 := by decide
      rw [hbits, BitVec.and_assoc, hmask]
      exact BitVec.and_zero
    | get size address indeterminate => exact hop.elim
    | clock bus => exact hop.elim

/-- The reader finds no completed buffer. -/
theorem gtintstsIsTxIntr_eq {s : CanController} (h : s.ResultsSmall) (cid : CanChannelId) :
    s.gtintstsIsTxIntr cid = false := by
  unfold gtintstsIsTxIntr
  rw [List.any_eq_false]
  intro bufno _ hset
  have hresult := (Bool.and_eq_true _ _ ▸ hset).2
  exact of_decide_eq_true hresult (h cid bufno)

/-! ## When the registers are right -/

/-- Every bit that a load returns shows its reason, and a raised interrupt
shows in one of them. -/
structure IntrStatusExact (s : CanController) (address : Nat) (indeterminate : BitVec 32)
    (cid : CanChannelId) : Prop where
  tsif : s.gtintstsBit address indeterminate cid 0 = true ↔ s.TxBufferReason cid
  tqif : s.gtintstsBit address indeterminate cid 2 = true ↔ s.TxQueueReason cid
  cftif : s.gtintstsBit address indeterminate cid 3 = true ↔ s.TxFifoReason cid
  thif : s.gtintstsBit address indeterminate cid 4 = true ↔ s.TxHistoryReason cid
  raised : s.canIntrTxRun cid = true →
    ∃ bit ∈ [0, 2, 3, 4], s.gtintstsBit address indeterminate cid bit = true

/-- The reasons that the reader does not see are absent: no transmit buffer with
its interrupt enabled has completed, and the history asks for no interrupt. -/
def IntrStatusShown (s : CanController) (cid : CanChannelId) : Prop :=
  ¬ s.TxBufferReason cid ∧ ¬ s.TxHistoryReason cid

end CanController

/-- The bits of `RSCANnGTINTSTS0` and `RSCANnGTINTSTS1` are right exactly when
neither a transmit buffer nor the history has a reason for the interrupt. -/
theorem intrStatusExact_iff {s : CanController} (h : canController.Reachable s)
    (cid : CanChannelId) (address : Nat) (indeterminate : BitVec 32)
    (haddress : canRegGetAlignedAddr address = CanController.gtintstsOffset cid) :
    s.IntrStatusExact address indeterminate cid ↔ s.IntrStatusShown cid := by
  obtain ⟨htsif, htqif, hcftif, hthif⟩ := CanController.gtintstsBit_eq haddress indeterminate s
  have hsmall := CanController.resultsSmall_of_reachable h
  rw [CanController.gtintstsIsTxIntr_eq hsmall] at htsif
  rw [CanController.gtintstsIsTHIFm_eq] at hthif
  constructor
  · intro hexact
    refine ⟨fun hreason => ?_, fun hreason => ?_⟩
    · have hset := hexact.tsif.mpr hreason
      rw [htsif] at hset
      cases hset
    · have hset := hexact.thif.mpr hreason
      rw [hthif] at hset
      cases hset
  · intro hshown
    have htq : s.gtintstsBit address indeterminate cid 2 = true ↔ s.TxQueueReason cid := by
      rw [htqif, s.gtintstsIsTQIFm_iff]
    have hcf : s.gtintstsBit address indeterminate cid 3 = true ↔ s.TxFifoReason cid := by
      rw [hcftif, s.gtintstsIsCFTIFm_iff]
    refine ⟨?_, htq, hcf, ?_, fun hraised => ?_⟩
    · rw [htsif]
      exact iff_of_false nofun hshown.1
    · rw [hthif]
      exact iff_of_false nofun hshown.2
    · rcases (s.canIntrTxRun_iff cid).mp hraised with hreason | hreason | hreason | hreason
      · exact absurd hreason hshown.1
      · exact ⟨2, by simp, htq.mpr hreason⟩
      · exact ⟨3, by simp, hcf.mpr hreason⟩
      · exact absurd hreason hshown.2

/-- FIFO 0 of channel 0 has sent its message: the interrupt is raised, and its bit
is set. -/
theorem intrStatusExact_fifo :
    ∃ s, canController.Reachable s ∧
      (s.canIntrTxRun 0, s.gtintstsBit 0x0460 0 0 3) = (true, true) ∧
      s.IntrStatusExact 0x0460 0 0 := by
  have hview : (CanController.run (fifoStores ++ [.clock promptBus]) initialCan).map (fun s =>
      decide ((s.canIntrTxRun 0, s.gtintstsBit 0x0460 0 0 3) = (true, true) ∧
        (∀ bufno, s.txIntrEnabled 0 bufno = false) ∧
        (s.txHistory 0).config.enableIntr = false)) = some true := by
    decide +kernel
  obtain ⟨s, hreach, hs⟩ := CanController.exists_reachable hview
  obtain ⟨hbits, hbuffers, hhistory⟩ := of_decide_eq_true hs
  refine ⟨s, hreach, hbits, (intrStatusExact_iff hreach 0 0x0460 0 (by decide)).mpr ⟨?_, ?_⟩⟩
  · rintro ⟨bufno, henabled, _⟩
    exact Bool.false_ne_true ((hbuffers bufno).symm.trans henabled)
  · exact fun hreason => Bool.false_ne_true (hhistory.symm.trans hreason.1)

/-- A transmit buffer of channel 0 completes with its interrupt enabled: the
interrupt is raised and all four bits are zero. -/
theorem raised_with_no_bit :
    ∃ s, canController.Reachable s ∧
      (s.canIntrTxRun 0, s.gtintstsBit 0x0460 0 0 0, s.gtintstsBit 0x0460 0 0 2,
        s.gtintstsBit 0x0460 0 0 3, s.gtintstsBit 0x0460 0 0 4) =
      (true, false, false, false, false) := by
  have hrun : ((CanController.run
      (startChannel ++ [.put .word 0x0390 0x1, .put .byte 0x0250 0x1, .clock promptBus])
      initialCan).map fun s =>
      (s.canIntrTxRun 0, s.gtintstsBit 0x0460 0 0 0, s.gtintstsBit 0x0460 0 0 2,
        s.gtintstsBit 0x0460 0 0 3, s.gtintstsBit 0x0460 0 0 4)) =
      some (true, false, false, false, false) := by
    decide +kernel
  exact CanController.exists_reachable hrun

end Athrill
