import Athrill.Can.Sends

/-!
# What a channel offers to the bus

A channel chooses among its transmit buffers, its FIFOs in transmit mode and
its queue.  Reception and the other channels touch none of these, so that the
message that a channel gives to the bus is the one that it offered when the
clock began.

* `SameOffers`: two controllers in which a channel offers the same messages.
* `selection_congr`, `getTxdata_congr`: they choose and take the same message.
* `SameTx`, `sameTx_canRxProc`: the reception of a clock.
-/

namespace Athrill

namespace CanController

variable {s t u : CanController} {cid : CanChannelId}

/-! ## Equal offers -/

/-- A channel has the same requests, messages, transmit FIFOs and queue. -/
structure SameOffers (cid : CanChannelId) (s t : CanController) : Prop where
  config : t.modeGlobal.config = s.modeGlobal.config
  message : ∀ bufno, (t.txBuffer cid bufno).message = (s.txBuffer cid bufno).message
  request : ∀ bufno, (t.txBuffer cid bufno).reqTx = (s.txBuffer cid bufno).reqTx
  fifo : ∀ k, t.txrxFifo cid k = s.txrxFifo cid k ∨
    (s.txrxFifo cid k).config.mode ≠ canTxrxFifoModeTx ∧
      (t.txrxFifo cid k).config.mode ≠ canTxrxFifoModeTx
  queue : t.txQueue cid = s.txQueue cid

namespace SameOffers

theorem refl (cid : CanChannelId) (s : CanController) : SameOffers cid s s :=
  ⟨rfl, fun _ => rfl, fun _ => rfl, fun _ => Or.inl rfl, rfl⟩

theorem trans (h : SameOffers cid s t) (h' : SameOffers cid t u) : SameOffers cid s u where
  config := h'.config.trans h.config
  message bufno := (h'.message bufno).trans (h.message bufno)
  request bufno := (h'.request bufno).trans (h.request bufno)
  fifo k := by
    rcases h'.fifo k with heq | ⟨hmode, hmode'⟩
    · rw [heq]
      exact h.fifo k
    · rcases h.fifo k with heq | ⟨hmode₀, _⟩
      · rw [heq] at hmode
        exact Or.inr ⟨hmode, hmode'⟩
      · exact Or.inr ⟨hmode₀, hmode'⟩
  queue := h'.queue.trans h.queue

/-- A FIFO in transmit mode is the same. -/
theorem txFifo (h : SameOffers cid s t) {k : CanTxrxFifoIdx}
    (hmode : (s.txrxFifo cid k).config.mode = canTxrxFifoModeTx) :
    t.txrxFifo cid k = s.txrxFifo cid k :=
  (h.fifo k).resolve_right fun hother => hother.1 hmode

theorem peekBuffer (h : SameOffers cid s t) (bufno : CanTxBufferIdx) :
    canTxbufferPeekTxdata (t.txBuffer cid bufno) =
      canTxbufferPeekTxdata (s.txBuffer cid bufno) := by
  unfold canTxbufferPeekTxdata
  rw [h.request, h.message]

/-- A FIFO in another mode has nothing to send. -/
theorem peekFifo (h : SameOffers cid s t) (k : CanTxrxFifoIdx) :
    canTxrxfifoPeekTxdata (t.txrxFifo cid k) = canTxrxfifoPeekTxdata (s.txrxFifo cid k) := by
  rcases h.fifo k with heq | ⟨hmode, hmode'⟩
  · rw [heq]
  · unfold canTxrxfifoPeekTxdata
    rw [if_pos hmode, if_pos hmode']

end SameOffers

theorem sameOffers_modifyTxreq (cid c : CanChannelId) (f : CanTxReq → CanTxReq)
    (s : CanController) : SameOffers c s (s.modifyTxreq cid f) :=
  ⟨rfl, fun _ => rfl, fun _ => rfl, fun _ => Or.inl rfl, rfl⟩

/-- Taking a message changes no offer of another channel. -/
theorem TakenFrom.offers {c : CanChannelId} (h : TakenFrom cid s t) (hc : c ≠ cid) :
    SameOffers c s t where
  config := by rw [h.device]
  message := h.message c
  request := h.request c
  fifo k := Or.inl (congrFun (h.fifo c hc) k)
  queue := by rw [h.queue]

theorem firstTxBuffer_congr (h : SameOffers cid s t) :
    t.firstTxBuffer cid = s.firstTxBuffer cid := by
  unfold firstTxBuffer
  rw [funext h.request]

theorem prioBufnoFifos_congr (h : SameOffers cid s t) (minTxBufno : Nat) :
    t.prioBufnoFifos cid minTxBufno = s.prioBufnoFifos cid minTxBufno := by
  unfold prioBufnoFifos
  congr 1
  funext acc k
  dsimp only
  rcases h.fifo k with heq | ⟨hmode, hmode'⟩
  · rw [heq]
  · rw [if_pos hmode, if_pos hmode']

theorem prioStandardCandidate_congr (h : SameOffers cid s t) :
    t.prioStandardCandidate cid = s.prioStandardCandidate cid := by
  unfold prioStandardCandidate
  simp only [h.peekBuffer, h.peekFifo, h.queue]

/-- The same offers, the same choice. -/
theorem selection_congr (h : SameOffers cid s t) : t.selection cid = s.selection cid := by
  unfold selection canTxSelectBufferPrioBufno canTxSelectBufferPrioStandard
  rw [h.config, firstTxBuffer_congr h, prioStandardCandidate_congr h]
  simp only [prioBufnoFifos_congr h]

/-- The message that a source gives, if it gives one. -/
def taken (s : CanController) (cid : CanChannelId) (source : CanTxSource)
    (bufidx : CanTxBufferIdx) : Option (Except CanReturn CanData) :=
  (s.getTxdata cid source bufidx).map Prod.fst

theorem taken_of_getTxdata {source : CanTxSource} {bufidx : CanTxBufferIdx}
    {txdata : Except CanReturn CanData} (h : s.getTxdata cid source bufidx = some (txdata, t)) :
    s.taken cid source bufidx = some txdata :=
  congrArg (Option.map Prod.fst) h

/-- The same offers, the same message. -/
theorem taken_congr (h : SameOffers cid s t) (source : CanTxSource) (bufidx : CanTxBufferIdx) :
    t.taken cid source bufidx = s.taken cid source bufidx := by
  cases source with
  | buffer =>
    show some (Except.ok (t.txBuffer cid bufidx).message) = some _
    rw [h.message]
    rfl
  | fifo =>
    unfold taken getTxdata
    dsimp only
    by_cases hlt : bufidx.val < 3
    · have hget : ∀ fifo : CanTxRxFifoBuffer,
          (canTxrxfifoGetTxdata fifo).1 = canTxrxfifoPeekTxdata fifo := by
        intro fifo
        unfold canTxrxfifoGetTxdata
        cases canTxrxfifoPeekTxdata fifo <;> rfl
      rw [dif_pos hlt, dif_pos hlt]
      simp only [Option.map_some, hget, h.peekFifo]
    · rw [dif_neg hlt, dif_neg hlt]
  | queue =>
    show some (canTxqueGetTxdata bufidx (t.txQueue cid)) = some _
    rw [h.queue]

/-! ## Reception -/

/-- The modes, the transmissions under way and the offers of all channels. -/
structure SameTx (s t : CanController) : Prop where
  mode : t.modeGlobal.mode = s.modeGlobal.mode
  channel : t.modeGlobal.channel = s.modeGlobal.channel
  txreq : t.txreq = s.txreq
  offers : ∀ cid, SameOffers cid s t

theorem SameTx.refl (s : CanController) : SameTx s s :=
  ⟨rfl, rfl, rfl, fun cid => .refl cid s⟩

theorem SameTx.trans (h : SameTx s t) (h' : SameTx t u) : SameTx s u :=
  ⟨h'.mode.trans h.mode, h'.channel.trans h.channel, h'.txreq.trans h.txreq,
    fun cid => (h.offers cid).trans (h'.offers cid)⟩

/-- A frame does not change a FIFO in transmit mode, nor the mode of another. -/
theorem offerTxrxFifo_cases (cid : CanChannelId) (rule : CanRxRule) (frame : CanData)
    (k : CanTxrxFifoIdx) (fifo : CanTxRxFifoBuffer) :
    offerTxrxFifo cid rule frame k fifo = fifo ∨ fifo.config.mode ≠ canTxrxFifoModeTx ∧
      (offerTxrxFifo cid rule frame k fifo).config.mode ≠ canTxrxFifoModeTx := by
  unfold offerTxrxFifo
  split_ifs
  · by_cases hmode : fifo.config.mode = canTxrxFifoModeTx
    · unfold canTxrxfifoPutRxdata
      rw [if_pos hmode]
      exact Or.inl rfl
    · refine Or.inr ⟨hmode, ?_⟩
      have hsame : (canTxrxfifoPutRxdata frame fifo).2.config = fifo.config := by
        unfold canTxrxfifoPutRxdata
        split_ifs <;> rfl
      rw [hsame]
      exact hmode
  · exact Or.inl rfl

theorem sameTx_canRxProcRule {frame : CanData} {pointer : CanRxRulePointer}
    (h : s.canRxProcRule cid frame pointer = some t) : SameTx s t := by
  rcases canRxProcRule_cases h with heq | heq | ⟨rule, rxBuffer, _, _, _, _, heq⟩
  · rw [heq]
    exact .refl s
  · rw [heq]
    exact ⟨rfl, rfl, rfl, fun c => ⟨rfl, fun _ => rfl, fun _ => rfl, fun _ => Or.inl rfl, rfl⟩⟩
  · rw [heq]
    refine ⟨rfl, rfl, rfl, fun c => ⟨rfl, fun _ => rfl, fun _ => rfl, fun k => ?_, rfl⟩⟩
    show Function.update s.txrxFifo cid _ c k = _ ∨
      _ ∧ (Function.update s.txrxFifo cid _ c k).config.mode ≠ _
    by_cases hc : c = cid
    · subst hc
      rw [Function.update_self]
      exact offerTxrxFifo_cases c rule (labelled rule frame) k (s.txrxFifo c k)
    · rw [Function.update_of_ne hc]
      exact Or.inl rfl

/-- An event of a transfer changes one channel. -/
theorem sameOffers_commEvent {phase : ChannelPhase}
    (h : s.modeGlobal.channel cid = phase.record cid) (event : CanModeChannelEvent)
    (c : CanChannelId) : SameOffers c s (s.commEvent cid event) :=
  ⟨config_commEvent h event, fun _ => rfl, fun _ => rfl, fun _ => Or.inl rfl, rfl⟩

theorem mode_commEvent {phase : ChannelPhase} (h : s.modeGlobal.channel cid = phase.record cid)
    (event : CanModeChannelEvent) :
    (s.commEvent cid event).modeGlobal.mode = s.modeGlobal.mode := by
  rw [commEvent_eq h]
  rfl

theorem sameTx_canRxProcOne {bus : CanBus} {outputs : List CanOutput} {p : ControllerPhase}
    (hp : Represents p s.modeGlobal) (hquiet : Quiet s)
    (h : canRxProcOne bus cid s = some (t, outputs)) : SameTx s t := by
  have hphase := hp.channel cid
  have hrest := (quiet_iff hp).mp hquiet cid
  unfold canRxProcOne at h
  dsimp only at h
  split_ifs at h with harrived hmode hcomm
  · cases h
    exact .refl s
  · cases h
    exact .refl s
  · cases h
    have hstays : (p.channel cid).step .commRxStart = p.channel cid := by
      rw [channel_commEvent_self hphase, Ne, ChannelPhase.commMode_record] at hcomm
      cases hcid : p.channel cid with
      | idle =>
        rw [hcid] at hcomm
        exact absurd trivial hcomm
      | _ => rfl
    refine ⟨mode_commEvent hphase _, funext fun c => ?_, rfl, sameOffers_commEvent hphase _⟩
    by_cases hc : c = cid
    · rw [hc, channel_commEvent_self hphase, hstays, hphase]
    · exact channel_commEvent_of_ne hphase hc _
  · -- only an idle channel receives, and it is idle again afterwards
    rw [not_not] at hcomm
    obtain ⟨mid, hmid, heq⟩ := Option.map_eq_some_iff.mp h
    cases heq
    have hidle : p.channel cid = .idle := by
      rw [channel_commEvent_self hphase, ChannelPhase.commMode_record] at hcomm
      cases hcid : p.channel cid with
      | idle => rfl
      | rx waiting =>
        rw [hcid] at hrest
        exact absurd trivial hrest
      | _ =>
        rw [hcid] at hcomm
        exact hcomm.elim
    have hrules : SameTx (s.commEvent cid .commRxStart) mid :=
      Pointwise.foldlM_invariant (I := fun t => SameTx (s.commEvent cid .commRxStart) t)
        (fun t _ t' ht hpass => ht.trans (sameTx_canRxProcRule hpass)) _ (.refl _) hmid
    have hreceiving : mid.modeGlobal.channel cid = (ChannelPhase.rx false).record cid := by
      rw [hrules.channel, channel_commEvent_self hphase, hidle]
      rfl
    refine ⟨?_, funext fun c => ?_, hrules.txreq, fun c => ?_⟩
    · rw [mode_commEvent hreceiving, hrules.mode, mode_commEvent hphase]
    · by_cases hc : c = cid
      · rw [hc, channel_commEvent_self hreceiving, hphase, hidle]
        rfl
      · rw [channel_commEvent_of_ne hreceiving hc, hrules.channel,
          channel_commEvent_of_ne hphase hc]
    · exact ((sameOffers_commEvent hphase _ c).trans (hrules.offers c)).trans
        (sameOffers_commEvent hreceiving _ c)

/-- The reception of a clock. -/
theorem sameTx_canRxProc {bus : CanBus} {outputs : List CanOutput} {p : ControllerPhase}
    (hp : Represents p s.modeGlobal) (hquiet : Quiet s)
    (h : CanController.canRxProc bus s = some (t, outputs)) : SameTx s t := by
  have hall := eachChannel_induction
    (P := fun t _ => (∃ p, Represents p t.modeGlobal) ∧ Quiet t ∧ SameTx s t) ?_
    ⟨⟨p, hp⟩, hquiet, .refl s⟩ h
  · exact hall.2.2
  · intro cid t _ t' after ht hone
    obtain ⟨⟨q, hq⟩, htquiet, hsame⟩ := ht
    exact ⟨(canRxProcOne_clockStep hone).modes q hq, canRxProcOne_quiet hq htquiet hone,
      hsame.trans (sameTx_canRxProcOne hq htquiet hone)⟩

end CanController

end Athrill
