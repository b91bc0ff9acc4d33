import Athrill.Can.Steps

/-!
# What a reset leaves of the transmissions

The reset of a channel clears its transmit buffers and its TXRX FIFOs, and that
of the controller all TXRX FIFOs.  The resets of the queues and histories are
not supported by the source, and a channel that makes no transition of its own
keeps its transmit buffers.

* `TxBuffersCleared`, `TxrxFifosCleared`: what a reset clears.
* `channelReset_clears`, `globalReset_clears`: the two resets.
* `resets_clear_transmissions`: both, in every state that an event can find.
-/

namespace Athrill

/-- None of the transmit buffers of the channel has a request or a result. -/
def TxBuffersCleared (s : CanController) (cid : CanChannelId) : Prop :=
  ∀ bufno, (s.txBuffer cid bufno).reqTx = false ∧ (s.txBuffer cid bufno).result = 0 ∧
    (s.txBuffer cid bufno).sending = false

/-- The TXRX FIFOs of the channel are disabled and empty. -/
def TxrxFifosCleared (s : CanController) (cid : CanChannelId) : Prop :=
  ∀ k, (s.txrxFifo cid k).config.enableFifo = false ∧
    (s.txrxFifo cid k).fifoControl = .clear ∧ (s.txrxFifo cid k).status.txrxEmpty = true

/-- Everything that the channel keeps for its transmissions is the same. -/
def SameTransmissions (s s' : CanController) (cid : CanChannelId) : Prop :=
  s'.txBuffer cid = s.txBuffer cid ∧ s'.txrxFifo cid = s.txrxFifo cid ∧
    s'.txQueue cid = s.txQueue cid ∧ s'.txHistory cid = s.txHistory cid

namespace CanController

variable {s : CanController} {p : ControllerPhase}

/-- The number in the record of a channel is its index. -/
theorem cid_channel (hp : Represents p s.modeGlobal) (cid : CanChannelId) :
    (s.modeGlobal.channel cid).cid = cid := by
  rw [hp.channel, ChannelPhase.cid_record]

/-- The reset of a channel event. -/
theorem channelEventReset_eq (hp : Represents p s.modeGlobal) (index : CanChannelId)
    (event : CanModeChannelEvent) :
    s.channelEventReset index event =
      if callsChannelReset event (s.modeGlobal.channel index).mode then s.canModeChannelReset index
      else s := by
  unfold channelEventReset
  dsimp only
  rw [cid_channel hp]

theorem modeGlobal_channelEventReset (index : CanChannelId) (event : CanModeChannelEvent)
    (s : CanController) : (s.channelEventReset index event).modeGlobal = s.modeGlobal := by
  unfold channelEventReset
  dsimp only
  split_ifs <;> rfl

/-- The transmit buffers after the events of all channels. -/
theorem txBuffer_foldl_channelEventReset (event : CanModeChannelEvent) (cids : List CanChannelId)
    (hp : Represents p s.modeGlobal) (cid : CanChannelId) (bufno : CanTxBufferIdx) :
    (cids.foldl (fun s cid => s.channelEventReset cid event) s).txBuffer cid bufno =
      if cid ∈ cids ∧ callsChannelReset event (s.modeGlobal.channel cid).mode = true then
        (s.txBuffer cid bufno).reset
      else s.txBuffer cid bufno := by
  induction cids generalizing s with
  | nil => simp
  | cons first cids ih =>
    have hmode := s.modeGlobal_channelEventReset first event
    rw [List.foldl_cons, ih (hmode.symm ▸ hp), hmode, channelEventReset_eq hp]
    by_cases hcid : cid = first
    · subst hcid
      by_cases hcalls : callsChannelReset event (s.modeGlobal.channel cid).mode = true
      · by_cases hmem : cid ∈ cids
        · simp [hcalls, hmem, canModeChannelReset, CanTxBuffer.reset]
        · simp [hcalls, hmem, canModeChannelReset]
      · simp [hcalls]
    · have hother : ∀ t : CanController, t = (if callsChannelReset event
          (s.modeGlobal.channel first).mode = true then s.canModeChannelReset first else s) →
          t.txBuffer cid bufno = s.txBuffer cid bufno := by
        intro t ht
        rw [ht]
        split_ifs
        · simp [canModeChannelReset, hcid]
        · rfl
      rw [hother _ rfl]
      simp [hcid]

/-- The queues and histories after the events of all channels. -/
theorem txQueue_foldl_channelEventReset (event : CanModeChannelEvent) (cids : List CanChannelId)
    (s : CanController) :
    (cids.foldl (fun s cid => s.channelEventReset cid event) s).txQueue = s.txQueue ∧
      (cids.foldl (fun s cid => s.channelEventReset cid event) s).txHistory = s.txHistory := by
  induction cids generalizing s with
  | nil => exact ⟨rfl, rfl⟩
  | cons first cids ih =>
    obtain ⟨hqueue, hhistory⟩ := ih (s.channelEventReset first event)
    have hone : (s.channelEventReset first event).txQueue = s.txQueue ∧
        (s.channelEventReset first event).txHistory = s.txHistory := by
      unfold channelEventReset
      dsimp only
      split_ifs <;> exact ⟨rfl, rfl⟩
    exact ⟨hqueue.trans hone.1, hhistory.trans hone.2⟩

/-! ## The two resets -/

/-- The reset of a channel clears its buffers and FIFOs, and no other channel
notices. -/
theorem channelReset_clears (hp : Represents p s.modeGlobal) {index : CanChannelId}
    {event : CanModeChannelEvent}
    (hcalls : callsChannelReset event (s.modeGlobal.channel index).mode = true) :
    TxBuffersCleared (s.canModeEvent (.channel index event)) index ∧
      TxrxFifosCleared (s.canModeEvent (.channel index event)) index ∧
      (s.canModeEvent (.channel index event)).txQueue index = s.txQueue index ∧
      (s.canModeEvent (.channel index event)).txHistory index = s.txHistory index ∧
      ∀ other, other ≠ index →
        SameTransmissions s (s.canModeEvent (.channel index event)) other := by
  have hparts : s.canModeEvent (.channel index event) =
      { s.canModeChannelReset index with
        modeGlobal := Athrill.canModeEvent (.channel index event) s.modeGlobal } := by
    unfold canModeEvent
    dsimp only
    rw [channelEventReset_eq hp, if_pos hcalls]
  rw [hparts]
  refine ⟨fun bufno => ?_, fun k => ?_, rfl, rfl, fun other hother => ⟨?_, ?_, rfl, rfl⟩⟩
  · simp [canModeChannelReset, CanTxBuffer.reset]
  · simp [canModeChannelReset, CanTxRxFifoBuffer.reset, canTxrxfifoClear]
  · exact Function.update_of_ne hother _ _
  · exact Function.update_of_ne hother _ _

/-- An event that resets no channel leaves all transmissions alone. -/
theorem channelEvent_same (index : CanChannelId) (event : CanModeChannelEvent)
    (hcalls : callsChannelReset event (s.modeGlobal.channel index).mode = false)
    (cid : CanChannelId) :
    SameTransmissions s (s.canModeEvent (.channel index event)) cid := by
  have hsame : s.channelEventReset index event = s := by
    unfold channelEventReset
    dsimp only
    rw [hcalls]
    rfl
  unfold canModeEvent
  dsimp only
  rw [hsame]
  exact ⟨rfl, rfl, rfl, rfl⟩

/-- Whether a global event brings the channel to its own reset. -/
def ResetsChannel (event : CanModeGlobalEvent) (s : CanController) (cid : CanChannelId) : Prop :=
  event = .setReset ∧
    ((s.modeGlobal.channel cid).mode = .comm ∨ (s.modeGlobal.channel cid).mode = .wait)

/-- The reset of the controller clears the TXRX FIFOs of every channel, and the
transmit buffers of the channels that communicate or wait. -/
theorem globalReset_clears (hp : Represents p s.modeGlobal) {event : CanModeGlobalEvent}
    (hcalls : callsGlobalReset event s.modeGlobal.mode = true) (cid : CanChannelId) :
    TxrxFifosCleared (s.canModeEvent (.global event)) cid ∧
      (ResetsChannel event s cid → TxBuffersCleared (s.canModeEvent (.global event)) cid) ∧
      (¬ ResetsChannel event s cid →
        (s.canModeEvent (.global event)).txBuffer cid = s.txBuffer cid) ∧
      (s.canModeEvent (.global event)).txQueue cid = s.txQueue cid ∧
      (s.canModeEvent (.global event)).txHistory cid = s.txHistory cid := by
  unfold canModeEvent globalEventReset
  dsimp only
  rw [if_pos hcalls]
  cases event with
  | clrStop =>
    have hnone : channelEventOf .clrStop s.modeGlobal.mode = none := by
      cases s.modeGlobal.mode <;> rfl
    rw [hnone]
    have hnot : ¬ ResetsChannel .clrStop s cid := fun h => nomatch h.1
    exact ⟨fun k => ⟨rfl, rfl, rfl⟩, fun hresets => absurd hresets hnot, fun _ => rfl, rfl, rfl⟩
  | setReset =>
    have hsome : channelEventOf .setReset s.modeGlobal.mode = some .setReset := by
      cases hmode : s.modeGlobal.mode with
      | run => rfl
      | test => rfl
      | stop =>
        rw [hmode] at hcalls
        cases hcalls
      | reset =>
        rw [hmode] at hcalls
        cases hcalls
    have hbuffer := txBuffer_foldl_channelEventReset .setReset (List.finRange canChannelNum) hp cid
    obtain ⟨hqueue, hhistory⟩ :=
      txQueue_foldl_channelEventReset .setReset (List.finRange canChannelNum) s
    have hcalls' : ResetsChannel .setReset s cid ↔
        callsChannelReset .setReset (s.modeGlobal.channel cid).mode = true := by
      unfold ResetsChannel
      cases (s.modeGlobal.channel cid).mode <;> simp [callsChannelReset]
    rw [hsome]
    refine ⟨fun k => ⟨rfl, rfl, rfl⟩, fun hresets bufno => ?_, fun hresets => ?_,
      congrFun hqueue cid, congrFun hhistory cid⟩
    · have hreset := hbuffer bufno
      rw [if_pos ⟨List.mem_finRange cid, hcalls'.mp hresets⟩] at hreset
      exact ⟨congrArg CanTxBuffer.reqTx hreset, congrArg CanTxBuffer.result hreset,
        congrArg CanTxBuffer.sending hreset⟩
    · funext bufno
      have hreset := hbuffer bufno
      rw [if_neg fun h => hresets (hcalls'.mpr h.2)] at hreset
      exact hreset
  | setStop => cases hmode : s.modeGlobal.mode <;> rw [hmode] at hcalls <;> cases hcalls
  | setRun => cases hmode : s.modeGlobal.mode <;> rw [hmode] at hcalls <;> cases hcalls
  | setTest => cases hmode : s.modeGlobal.mode <;> rw [hmode] at hcalls <;> cases hcalls

/-- A state that the events of a store can find keeps the modes in some phase. -/
theorem modes_events (hp : Represents p s.modeGlobal) (events : List CanModeEvent) :
    ∃ p', Represents p' (events.foldl (fun s event => s.canModeEvent event) s).modeGlobal := by
  induction events generalizing s p with
  | nil => exact ⟨p, hp⟩
  | cons event events ih => exact ih (represents_canModeEvent hp event)

end CanController

/-- In every state that an event of the modes can find: a reset of a channel
clears the transmit buffers and TXRX FIFOs of the channel and leaves its queue,
its history and all other channels alone; a channel event without a transition
to the reset changes no transmission; and a reset of the controller clears all
TXRX FIFOs and the transmit buffers of the channels that it brings to their
reset, and nothing else. -/
theorem resets_clear_transmissions {s : CanController} (h : canController.Reachable s)
    (events : List CanModeEvent) :
    let found := events.foldl (fun s event => s.canModeEvent event) s
    (∀ index event,
      callsChannelReset event (found.modeGlobal.channel index).mode = true →
        TxBuffersCleared (found.canModeEvent (.channel index event)) index ∧
        TxrxFifosCleared (found.canModeEvent (.channel index event)) index ∧
        (found.canModeEvent (.channel index event)).txQueue index = found.txQueue index ∧
        (found.canModeEvent (.channel index event)).txHistory index = found.txHistory index ∧
        ∀ other, other ≠ index →
          SameTransmissions found (found.canModeEvent (.channel index event)) other) ∧
    (∀ index event, callsChannelReset event (found.modeGlobal.channel index).mode = false →
      ∀ cid, SameTransmissions found (found.canModeEvent (.channel index event)) cid) ∧
    ∀ event, callsGlobalReset event found.modeGlobal.mode = true → ∀ cid,
      TxrxFifosCleared (found.canModeEvent (.global event)) cid ∧
      (CanController.ResetsChannel event found cid →
        TxBuffersCleared (found.canModeEvent (.global event)) cid) ∧
      (¬ CanController.ResetsChannel event found cid →
        (found.canModeEvent (.global event)).txBuffer cid = found.txBuffer cid) ∧
      (found.canModeEvent (.global event)).txQueue cid = found.txQueue cid ∧
      (found.canModeEvent (.global event)).txHistory cid = found.txHistory cid := by
  obtain ⟨p, hp⟩ := CanController.modes_of_reachable h
  obtain ⟨p', hp'⟩ := CanController.modes_events hp events
  exact ⟨fun _ _ hcalls => CanController.channelReset_clears hp' hcalls,
    fun index event hcalls => CanController.channelEvent_same index event hcalls,
    fun _ hcalls => CanController.globalReset_clears hp' hcalls⟩

/-- A channel in communication is reset while a buffer has a request and a FIFO
holds a message. -/
theorem resets_clear_transmissions_pending :
    ∃ s, canController.Reachable s ∧
      ((s.txBuffer 0 0).reqTx = true ∧ (s.txrxFifo 0 0).fifoControl.count = 1) ∧
      TxBuffersCleared (s.canModeEvent (.channel 0 .setReset)) 0 ∧
      TxrxFifosCleared (s.canModeEvent (.channel 0 .setReset)) 0 := by
  have hview : (CanController.run (fifoStores ++ [.put .byte 0x0250 0x1]) initialCan).map (fun s =>
      decide (((s.txBuffer 0 0).reqTx = true ∧ (s.txrxFifo 0 0).fifoControl.count = 1) ∧
        callsChannelReset .setReset (s.modeGlobal.channel 0).mode = true)) = some true := by
    decide +kernel
  obtain ⟨s, hreach, hs⟩ := CanController.exists_reachable hview
  obtain ⟨hpending, hcalls⟩ := of_decide_eq_true hs
  obtain ⟨hchannel, _, _⟩ := resets_clear_transmissions hreach []
  have hcleared := hchannel 0 .setReset hcalls
  exact ⟨s, hreach, hpending, hcleared.1, hcleared.2.1⟩

/-- The controller runs, channel 0 communicates, and its transmit queue holds a
message. -/
def queueOne : List CanEvent :=
  startChannel ++ [.put .word 0x03A0 0x301, .put .word 0x03E0 0xFF]

/-- The controller runs, and a transmit buffer of channel 0 has a request while
the channel stops. -/
def requestStopped : List CanEvent :=
  [.put .word 0x0088 0x1, .put .word 0x0088 0x0, .put .byte 0x0250 0x1]

/-- What a channel still has to send: its mode, the count and the empty flag of
its queue, and the request of its first buffer. -/
def sendingView (s : CanController) : ChannelMode × Nat × Bool × Bool :=
  ((s.modeGlobal.channel 0).mode, (s.txQueue 0).reqbufnum, (s.txQueue 0).status.isEmpty,
    (s.txBuffer 0 0).reqTx)

/-- A message in the transmit queue survives the reset of its channel, and a
request of a stopped channel the reset of the controller. -/
theorem queue_survives_reset :
    (∃ s s', canController.Reachable s ∧ sendingView s = (.comm, 1, false, false) ∧
      s.step (.put .word 0x0004 0x1) = some (s', []) ∧
      sendingView s' = (.reset, 1, false, false)) ∧
    ∃ s s', canController.Reachable s ∧ sendingView s = (.stop, 0, true, true) ∧
      s.step (.put .word 0x0088 0x1) = some (s', []) ∧ s'.modeGlobal.mode = .reset ∧
      sendingView s' = (.stop, 0, true, true) := by
  refine ⟨?_, ?_⟩
  · have hrun : ((CanController.run queueOne initialCan).bind fun s =>
        (s.step (.put .word 0x0004 0x1)).map fun result =>
          decide (sendingView s = (.comm, 1, false, false) ∧ result.2 = [] ∧
            sendingView result.1 = (.reset, 1, false, false))) = some true := by
      decide +kernel
    obtain ⟨s, hs, hstep⟩ := Option.bind_eq_some_iff.mp hrun
    obtain ⟨⟨s', outputs⟩, hstep', hview⟩ := Option.map_eq_some_iff.mp hstep
    obtain ⟨hbefore, houtputs, hafter⟩ := of_decide_eq_true hview
    exact ⟨s, s', CanController.reachable_run (.init rfl) hs, hbefore, houtputs ▸ hstep', hafter⟩
  · have hrun : ((CanController.run requestStopped initialCan).bind fun s =>
        (s.step (.put .word 0x0088 0x1)).map fun result =>
          decide (sendingView s = (.stop, 0, true, true) ∧ result.2 = [] ∧
            result.1.modeGlobal.mode = .reset ∧ sendingView result.1 = (.stop, 0, true, true))) =
        some true := by
      decide +kernel
    obtain ⟨s, hs, hstep⟩ := Option.bind_eq_some_iff.mp hrun
    obtain ⟨⟨s', outputs⟩, hstep', hview⟩ := Option.map_eq_some_iff.mp hstep
    obtain ⟨hbefore, houtputs, hmode, hafter⟩ := of_decide_eq_true hview
    exact ⟨s, s', CanController.reachable_run (.init rfl) hs, hbefore, houtputs ▸ hstep', hmode,
      hafter⟩

end Athrill
