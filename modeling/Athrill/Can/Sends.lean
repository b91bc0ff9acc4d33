import Athrill.Can.Delivery

/-!
# What a clock sends

A channel that starts a transmission selects a message, takes it from its
source and gives it to the bus.  Each channel starts at most one in a clock,
and what it chose stays in `txreq`.

* `canTxProcOne_cases`, `canTxSend_cases`: one channel.
* `getTxdata_ok`: the message of each kind of source.
* `Sent`, `sends_of_clock`: the messages of a whole clock.
-/

namespace Athrill

namespace CanController

variable {s s' : CanController} {bus : CanBus} {cid : CanChannelId} {outputs : List CanOutput}

/-! ## One channel -/

/-- The number of the source in the history of a selection. -/
theorem buftype_selection {choice : Selection} (h : s.selection cid = some choice) :
    choice.buftype = 1 ∧ choice.source = .buffer ∨ choice.buftype = 2 ∧ choice.source = .fifo ∨
      choice.buftype = 4 ∧ choice.source = .queue := by
  unfold selection at h
  split_ifs at h
  · unfold canTxSelectBufferPrioBufno at h
    dsimp only at h
    split_ifs at h
    · cases h
      exact Or.inl ⟨rfl, rfl⟩
    · cases h
      exact Or.inr (Or.inl ⟨rfl, rfl⟩)
  · obtain ⟨best, _, heq⟩ := Option.map_eq_some_iff.mp h
    rw [← heq]
    cases hsource : best.source with
    | buffer => exact Or.inl ⟨rfl, rfl⟩
    | fifo => exact Or.inr (Or.inl ⟨rfl, rfl⟩)
    | queue => exact Or.inr (Or.inr ⟨rfl, rfl⟩)

/-- A channel without a transmission to start, and one that starts. -/
theorem canTxProcOne_cases {phase : ChannelPhase}
    (hphase : s.modeGlobal.channel cid = phase.record cid)
    (h : canTxProcOne bus cid s = some (s', outputs)) :
    outputs = [] ∧
        (s' = s ∨ phase = .idle ∧ s' = s.modifyTxreq cid fun req => { req with source := none }) ∨
      ∃ choice, phase = .idle ∧ s.selection cid = some choice ∧
        canTxSend bus cid choice.source choice.bufidx
          ((s.modifyTxreq cid (selected choice)).commEvent cid .commTxStart) =
            some (s', outputs) := by
  unfold canTxProcOne at h
  split_ifs at h with hmode hcomm
  · cases h
    exact Or.inl ⟨rfl, Or.inl rfl⟩
  · cases h
    exact Or.inl ⟨rfl, Or.inl rfl⟩
  · rw [not_not] at hmode hcomm
    have hidle : phase = .idle := by
      rw [hphase] at hmode hcomm
      exact (ChannelPhase.idle_iff cid phase).mp ⟨hmode, hcomm⟩
    cases hchoice : s.selection cid with
    | none =>
      rw [hchoice] at h
      cases h
      exact Or.inl ⟨rfl, Or.inr ⟨hidle, rfl⟩⟩
    | some choice =>
      rw [hchoice] at h
      dsimp only at h
      have hstarted : (((s.modifyTxreq cid (selected choice)).commEvent cid
          .commTxStart).modeGlobal.channel cid).commMode = .tx := by
        rw [channel_commEvent_self (s := s.modifyTxreq cid (selected choice)) hphase, hidle]
        rfl
      rw [if_neg (not_not.mpr hstarted)] at h
      exact Or.inr ⟨choice, hidle, rfl, h⟩

/-- Taking the message changes its source only. -/
structure TakenFrom (cid : CanChannelId) (s s' : CanController) : Prop where
  device : s'.toCanDevice = s.toCanDevice
  message : ∀ c bufno, (s'.txBuffer c bufno).message = (s.txBuffer c bufno).message
  request : ∀ c bufno, (s'.txBuffer c bufno).reqTx = (s.txBuffer c bufno).reqTx
  fifo : ∀ c, c ≠ cid → s'.txrxFifo c = s.txrxFifo c
  queue : s'.txQueue = s.txQueue
  txreq : s'.txreq = s.txreq

theorem TakenFrom.refl (cid : CanChannelId) (s : CanController) : TakenFrom cid s s :=
  ⟨rfl, fun _ _ => rfl, fun _ _ => rfl, fun _ _ => rfl, rfl, rfl⟩

theorem getTxdata_taken {source : CanTxSource} {bufidx : CanTxBufferIdx}
    {txdata : Except CanReturn CanData} (h : s.getTxdata cid source bufidx = some (txdata, s')) :
    TakenFrom cid s s' := by
  cases source with
  | buffer =>
    cases h
    have hbuffer : ∀ c bufno,
        ((s.modifyTxBuffer cid bufidx fun buffer => (canTxbufferGetTxdata buffer).2).txBuffer c
          bufno).message = (s.txBuffer c bufno).message ∧
        ((s.modifyTxBuffer cid bufidx fun buffer => (canTxbufferGetTxdata buffer).2).txBuffer c
          bufno).reqTx = (s.txBuffer c bufno).reqTx := by
      intro c bufno
      unfold modifyTxBuffer
      by_cases hc : c = cid
      · subst hc
        by_cases hb : bufno = bufidx
        · subst hb
          simp [canTxbufferGetTxdata]
        · simp [hb]
      · simp [hc]
    exact ⟨rfl, fun c b => (hbuffer c b).1, fun c b => (hbuffer c b).2, fun _ _ => rfl, rfl, rfl⟩
  | fifo =>
    unfold getTxdata at h
    dsimp only at h
    split_ifs at h
    cases h
    exact ⟨rfl, fun _ _ => rfl, fun _ _ => rfl, fun c hc => Function.update_of_ne hc .., rfl, rfl⟩
  | queue =>
    cases h
    exact .refl cid s

/-- The message of a buffer, and that of a slot of the queue. -/
theorem getTxdata_ok {source : CanTxSource} {bufidx : CanTxBufferIdx} {message : CanData}
    (h : s.getTxdata cid source bufidx = some (.ok message, s')) :
    (source = .buffer → message = (s.txBuffer cid bufidx).message) ∧
      (source = .queue → ((s.txQueue cid).txData bufidx).txReq = true ∧
        message = ((s.txQueue cid).txData bufidx).data) := by
  cases source with
  | buffer =>
    cases h
    exact ⟨fun _ => rfl, nofun⟩
  | fifo => exact ⟨nofun, nofun⟩
  | queue =>
    refine ⟨nofun, fun _ => ?_⟩
    have hget : canTxqueGetTxdata bufidx (s.txQueue cid) = .ok message :=
      congrArg Prod.fst (Option.some.inj h)
    unfold canTxqueGetTxdata canTxquePeekTxdata at hget
    split_ifs at hget with _ _ hreq
    exact ⟨by simpa using hreq, (Except.ok.inj hget).symm⟩

/-- A source without a message, and one whose message goes to the bus. -/
theorem canTxSend_cases {source : CanTxSource} {bufidx : CanTxBufferIdx}
    (h : canTxSend bus cid source bufidx s = some (s', outputs)) :
    (∃ e, s.getTxdata cid source bufidx = some (.error e, s') ∧ outputs = []) ∨
      ∃ message mid, s.getTxdata cid source bufidx = some (.ok message, mid) ∧
        outputs = [.startSend cid message (bus.startSend cid message)] ∧
        TakenFrom cid (mid.modifyTxreq cid fun req => { req with txdata := message }) s' := by
  obtain ⟨⟨txdata, mid⟩, hget, heq⟩ := Option.map_eq_some_iff.mp h
  cases txdata with
  | error e =>
    cases heq
    exact Or.inl ⟨e, hget, rfl⟩
  | ok message =>
    dsimp only at heq
    refine Or.inr ⟨message, mid, hget, ?_⟩
    split_ifs at heq
    · cases heq
      exact ⟨rfl, .refl cid _⟩
    · cases heq
      exact ⟨rfl, rfl, fun _ _ => rfl, fun _ _ => rfl, fun _ _ => rfl, rfl, rfl⟩

/-! ## All channels -/

/-- The message that `txreq` says was chosen: that of a buffer, or that of a
slot of the queue. -/
structure ChosenMessage (s : CanController) (req : CanTxReq) (cid : CanChannelId)
    (message : CanData) : Prop where
  buffer : req.history.buftype = 1 → message = (s.txBuffer cid req.bufidx).message
  queue : req.history.buftype = 4 → ((s.txQueue cid).txData req.bufidx).txReq = true ∧
    message = ((s.txQueue cid).txData req.bufidx).data

/-- A selection and the message of its source. -/
theorem chosenMessage_of_source {choice : Selection} {message : CanData}
    (hchoice : s.selection cid = some choice)
    (hbuffer : choice.source = .buffer → message = (s.txBuffer cid choice.bufidx).message)
    (hqueue : choice.source = .queue → ((s.txQueue cid).txData choice.bufidx).txReq = true ∧
      message = ((s.txQueue cid).txData choice.bufidx).data) (req : CanTxReq) :
    ChosenMessage s { selected choice req with txdata := message } cid message := by
  rcases buftype_selection hchoice with ⟨htype, hsource⟩ | ⟨htype, _⟩ | ⟨htype, hsource⟩
  · refine ⟨fun _ => hbuffer hsource, fun h => ?_⟩
    have hfour : choice.buftype = 4 := h
    rw [htype] at hfour
    exact absurd hfour (by decide)
  · refine ⟨fun h => ?_, fun h => ?_⟩
    · have hone : choice.buftype = 1 := h
      rw [htype] at hone
      exact absurd hone (by decide)
    · have hfour : choice.buftype = 4 := h
      rw [htype] at hfour
      exact absurd hfour (by decide)
  · refine ⟨fun h => ?_, fun _ => hqueue hsource⟩
    have hone : choice.buftype = 1 := h
    rw [htype] at hone
    exact absurd hone (by decide)

/-- The messages and the queues are as before, and every started channel has
given the message that its `txreq` names to the bus. -/
structure Sent (s t : CanController) (outputs : List CanOutput) : Prop where
  modes : ∃ p, Represents p t.modeGlobal
  message : ∀ c bufno, (t.txBuffer c bufno).message = (s.txBuffer c bufno).message
  queue : t.txQueue = s.txQueue
  sends : ∀ c message result, .startSend c message result ∈ outputs →
    (t.modeGlobal.channel c).commMode = .tx ∧ ChosenMessage s (t.txreq c) c message

theorem ChosenMessage.congr {t : CanController} {req : CanTxReq} {message : CanData}
    (hmessage : ∀ bufno, (t.txBuffer cid bufno).message = (s.txBuffer cid bufno).message)
    (hqueue : t.txQueue cid = s.txQueue cid) (h : ChosenMessage t req cid message) :
    ChosenMessage s req cid message := by
  refine ⟨fun htype => (h.buffer htype).trans (hmessage _), fun htype => ?_⟩
  rw [← hqueue]
  exact h.queue htype

/-- One more channel. -/
theorem sent_step {t t' : CanController} {before after : List CanOutput} (h : Sent s t before)
    (hone : canTxProcOne bus cid t = some (t', after)) : Sent s t' (before ++ after) := by
  obtain ⟨p, hp⟩ := h.modes
  have hmodes := (canTxProcOne_clockStep hone).modes p hp
  rcases canTxProcOne_cases (hp.channel cid) hone with
    ⟨hnone, heq | ⟨_, heq⟩⟩ | ⟨choice, hidle, hchoice, hsend⟩
  · rw [hnone, List.append_nil, heq]
    exact h
  · rw [hnone, List.append_nil, heq]
    refine ⟨h.modes, h.message, h.queue, fun c message result hmem => ?_⟩
    obtain ⟨hcomm, hchosen⟩ := h.sends c message result hmem
    refine ⟨hcomm, ?_⟩
    show ChosenMessage s (Function.update t.txreq cid _ c) c message
    by_cases hc : c = cid
    · subst hc
      rw [Function.update_self]
      exact ⟨hchosen.buffer, hchosen.queue⟩
    · rw [Function.update_of_ne hc]
      exact hchosen
  · -- an idle channel has sent nothing before
    have hfresh : ∀ message result, .startSend cid message result ∉ before := by
      intro message result hmem
      have hcomm := (h.sends cid message result hmem).1
      rw [hp.channel cid, hidle] at hcomm
      exact absurd hcomm nofun
    have hother : ∀ c, c ≠ cid →
        (((t.modifyTxreq cid (selected choice)).commEvent cid .commTxStart).modeGlobal.channel c) =
          t.modeGlobal.channel c := fun c hc =>
      channel_commEvent_of_ne (s := t.modifyTxreq cid (selected choice)) (hp.channel cid) hc _
    rcases canTxSend_cases hsend with ⟨e, hget, hnone⟩ | ⟨message, mid, hget, hout, htaken⟩
    · have htaken := getTxdata_taken hget
      rw [hnone, List.append_nil]
      refine ⟨hmodes, fun c b => (htaken.message c b).trans (h.message c b),
        htaken.queue.trans h.queue, fun c message result hmem => ?_⟩
      have hc : c ≠ cid := fun heq => hfresh message result (heq ▸ hmem)
      obtain ⟨hcomm, hchosen⟩ := h.sends c message result hmem
      rw [htaken.device, htaken.txreq, hother c hc]
      refine ⟨hcomm, ?_⟩
      show ChosenMessage s (Function.update t.txreq cid _ c) c message
      rw [Function.update_of_ne hc]
      exact hchosen
    · have hfirst := getTxdata_taken hget
      have hdevice : t'.toCanDevice = ((t.modifyTxreq cid (selected choice)).commEvent cid
          .commTxStart).toCanDevice := htaken.device.trans hfirst.device
      have htxreq : t'.txreq = Function.update mid.txreq cid
          { mid.txreq cid with txdata := message } := htaken.txreq
      have hmid : mid.txreq = Function.update t.txreq cid (selected choice (t.txreq cid)) :=
        hfirst.txreq
      rw [hout]
      refine ⟨hmodes, fun c b => ?_, ?_, fun c other result hmem => ?_⟩
      · exact (htaken.message c b).trans ((hfirst.message c b).trans (h.message c b))
      · exact htaken.queue.trans (hfirst.queue.trans h.queue)
      · rw [hdevice, htxreq, hmid]
        rcases List.mem_append.mp hmem with hmem | hmem
        · have hc : c ≠ cid := fun heq => hfresh other result (heq ▸ hmem)
          obtain ⟨hcomm, hchosen⟩ := h.sends c other result hmem
          rw [hother c hc, Function.update_of_ne hc, Function.update_of_ne hc]
          exact ⟨hcomm, hchosen⟩
        · cases List.mem_singleton.mp hmem
          rw [channel_commEvent_self (s := t.modifyTxreq cid (selected choice)) (hp.channel cid),
            hidle, Function.update_self, Function.update_self]
          refine ⟨rfl, ?_⟩
          obtain ⟨hbuffer, hqueue⟩ := getTxdata_ok hget
          have hchosen := chosenMessage_of_source hchoice hbuffer hqueue (t.txreq cid)
          exact hchosen.congr (h.message cid) (congrFun h.queue cid)

/-! ## The calls of each part -/

theorem canRxProc_outputs (h : CanController.canRxProc bus s = some (s', outputs)) :
    ∀ output ∈ outputs, ∃ cid frame, output = .received cid frame := by
  refine eachChannel_induction
    (P := fun _ outputs => ∀ output ∈ outputs, ∃ cid frame, output = .received cid frame)
    (fun cid t before t' after hbefore hone output hmem => ?_) (fun _ hmem => nomatch hmem) h
  rcases List.mem_append.mp hmem with hmem | hmem
  · exact hbefore output hmem
  · unfold canRxProcOne at hone
    dsimp only at hone
    split_ifs at hone
    · cases hone
      cases hmem
    · cases hone
      cases hmem
    · cases hone
      cases hmem
    · obtain ⟨_, _, heq⟩ := Option.map_eq_some_iff.mp hone
      cases heq
      exact ⟨_, _, List.mem_singleton.mp hmem⟩

theorem canTxProc_outputs (hp : ∃ p, Represents p s.modeGlobal)
    (h : CanController.canTxProc bus s = some (s', outputs)) :
    ∀ output ∈ outputs, ∃ cid message, output = .startSend cid message (bus.startSend cid message) := by
  have hall := eachChannel_induction
    (P := fun t outputs => (∃ p, Represents p t.modeGlobal) ∧ ∀ output ∈ outputs,
      ∃ cid message, output = .startSend cid message (bus.startSend cid message))
    (fun cid t before t' after hbefore hone => ?_) ⟨hp, fun _ hmem => nomatch hmem⟩ h
  · exact hall.2
  · obtain ⟨⟨p, hp⟩, hbefore⟩ := hbefore
    refine ⟨(canTxProcOne_clockStep hone).modes p hp, fun output hmem => ?_⟩
    rcases List.mem_append.mp hmem with hmem | hmem
    · exact hbefore output hmem
    · rcases canTxProcOne_cases (hp.channel cid) hone with ⟨hnone, _⟩ | ⟨choice, _, _, hsend⟩
      · rw [hnone] at hmem
        cases hmem
      · rcases canTxSend_cases hsend with ⟨_, _, hnone⟩ | ⟨message, _, _, hout, _⟩
        · rw [hnone] at hmem
          cases hmem
        · rw [hout] at hmem
          exact ⟨cid, message, List.mem_singleton.mp hmem⟩

theorem txreq_notifyTxdone {source : CanTxSource} {bufidx : CanTxBufferIdx}
    (h : s.notifyTxdone cid source bufidx = some s') : s'.txreq = s.txreq := by
  cases source with
  | fifo =>
    unfold notifyTxdone at h
    dsimp only at h
    split_ifs at h
    cases h
    rfl
  | _ =>
    cases h
    rfl

/-- A completion keeps what was chosen. -/
theorem canTxDone_keeps (h : CanController.canTxDone bus s = some (s', outputs)) :
    (∀ output ∈ outputs, ∃ cid source bufidx, output = .txDone cid source bufidx) ∧
      ∀ c, (s'.txreq c).bufidx = (s.txreq c).bufidx ∧
        (s'.txreq c).history = (s.txreq c).history := by
  refine eachChannel_induction
    (P := fun t outputs =>
      (∀ output ∈ outputs, ∃ cid source bufidx, output = .txDone cid source bufidx) ∧
        ∀ c, (t.txreq c).bufidx = (s.txreq c).bufidx ∧
          (t.txreq c).history = (s.txreq c).history)
    (fun cid t before t' after hbefore hone => ?_)
    ⟨nofun, fun _ => ⟨rfl, rfl⟩⟩ h
  unfold canTxDoneOne at hone
  split_ifs at hone
  · cases hone
    rw [List.append_nil]
    exact hbefore
  · cases hone
    rw [List.append_nil]
    exact hbefore
  · cases hone
    rw [List.append_nil]
    exact hbefore
  · obtain ⟨source, _, hone⟩ := Option.bind_eq_some_iff.mp hone
    obtain ⟨mid, hmid, heq⟩ := Option.map_eq_some_iff.mp hone
    cases heq
    have htxreq : mid.txreq = t.txreq := txreq_notifyTxdone hmid
    refine ⟨fun output hmem => ?_, fun c => ?_⟩
    · rcases List.mem_append.mp hmem with hmem | hmem
      · exact hbefore.1 output hmem
      · exact ⟨_, _, _, List.mem_singleton.mp hmem⟩
    · show (Function.update mid.txreq cid _ c).bufidx = _ ∧
        (Function.update mid.txreq cid _ c).history = _
      rw [htxreq]
      by_cases hc : c = cid
      · subst hc
        rw [Function.update_self]
        exact hbefore.2 c
      · rw [Function.update_of_ne hc]
        exact hbefore.2 c

theorem canIntrRun_outputs : ∀ output ∈ s.canIntrRun, ∃ intno, output = .raiseInt intno := by
  intro output hmem
  unfold canIntrRun at hmem
  simp only [List.mem_append, List.mem_flatMap] at hmem
  rcases hmem with (hmem | hmem) | ⟨_, _, hmem | hmem⟩ <;> split_ifs at hmem <;>
    first
      | exact ⟨_, List.mem_singleton.mp hmem⟩
      | cases hmem

/-! ## The clock -/

end CanController

/-- A completion clears the request of its slot. -/
theorem txData_notifyTxdone (finished : CanTxBufferIdx) (queue : CanTxQueue)
    (bufno : CanTxBufferIdx) :
    (canTxqueNotifyTxdone finished queue).txData bufno = queue.txData bufno ∨
      finished = bufno ∧ (canTxqueNotifyTxdone finished queue).txData bufno =
        { queue.txData bufno with txReq := false } := by
  unfold canTxqueNotifyTxdone
  by_cases hfilled : (queue.txData finished).txReq = true
  · rw [if_pos hfilled]
    dsimp only
    by_cases hb : bufno = finished
    · subst hb
      rw [Function.update_self]
      exact Or.inr ⟨rfl, rfl⟩
    · rw [Function.update_of_ne hb]
      exact Or.inl rfl
  · rw [if_neg hfilled]
    exact Or.inl rfl

namespace ClockStep

variable {s s' : CanController} {outputs : List CanOutput}

/-- No clock changes the message of a transmit buffer. -/
theorem message (h : ClockStep outputs s s') (c : CanChannelId)
    (bufno : CanTxBufferIdx) : (s'.txBuffer c bufno).message = (s.txBuffer c bufno).message := by
  refine (h.evolves.txBuffer c bufno).same (f := CanTxBuffer.message) fun op hop buffer => ?_
  cases op with
  | send => rfl
  | done =>
    show (canTxbufferNotifyTxdone buffer).message = buffer.message
    unfold canTxbufferNotifyTxdone
    split_ifs <;> rfl
  | _ => cases hop

/-- A clock changes a queue only where it completes a message of it. -/
theorem queue (h : ClockStep outputs s s') {cid : CanChannelId}
    (hnone : ∀ bufno, .txDone cid .queue bufno ∉ outputs) :
    s'.txQueue cid = s.txQueue cid := by
  refine (h.evolves.txQueue cid).same (f := id) fun op hop queue => ?_
  cases op with
  | done bufno => exact absurd hop (hnone bufno)
  | _ => cases hop

/-- A clock changes no message of a queue and adds none. -/
theorem slot (h : ClockStep outputs s s') (cid : CanChannelId) (bufno : CanTxBufferIdx) :
    ((s'.txQueue cid).txData bufno).data = ((s.txQueue cid).txData bufno).data ∧
      (((s'.txQueue cid).txData bufno).txReq = true →
        ((s.txQueue cid).txData bufno).txReq = true) := by
  refine (h.evolves.txQueue cid).invariant
    (I := fun queue => (queue.txData bufno).data = ((s.txQueue cid).txData bufno).data ∧
      ((queue.txData bufno).txReq = true → ((s.txQueue cid).txData bufno).txReq = true))
    (fun op hop queue hqueue => ?_) ⟨rfl, id⟩
  cases op with
  | done finished =>
    show ((canTxqueNotifyTxdone finished queue).txData bufno).data = _ ∧
      (((canTxqueNotifyTxdone finished queue).txData bufno).txReq = true → _)
    rcases txData_notifyTxdone finished queue bufno with hsame | ⟨_, hdone⟩
    · rw [hsame]
      exact hqueue
    · rw [hdone]
      exact ⟨hqueue.1, nofun⟩
  | _ => cases hop

/-- A slot changes only when its message is completed. -/
theorem slot_kept (h : ClockStep outputs s s') {cid : CanChannelId} {bufno : CanTxBufferIdx}
    (hnone : .txDone cid .queue bufno ∉ outputs) :
    (s'.txQueue cid).txData bufno = (s.txQueue cid).txData bufno := by
  refine (h.evolves.txQueue cid).same (f := fun queue => queue.txData bufno)
    fun op hop queue => ?_
  cases op with
  | done finished =>
    rcases txData_notifyTxdone finished queue bufno with hsame | ⟨hfinished, _⟩
    · exact hsame
    · rw [← hfinished] at hnone
      exact absurd hop hnone
  | _ => cases hop

/-- So does the request of a transmit buffer, with its result. -/
theorem buffer_kept (h : ClockStep outputs s s') {cid : CanChannelId} {bufno : CanTxBufferIdx}
    (hnone : .txDone cid .buffer bufno ∉ outputs) :
    (s'.txBuffer cid bufno).result = (s.txBuffer cid bufno).result ∧
      (s'.txBuffer cid bufno).reqTx = (s.txBuffer cid bufno).reqTx := by
  have hkept := (h.evolves.txBuffer cid bufno).same
    (f := fun buffer : CanTxBuffer => (buffer.result, buffer.reqTx)) fun op hop buffer => by
      cases op with
      | send => rfl
      | done => exact absurd hop hnone
      | _ => cases hop
  exact Prod.mk.inj hkept

/-- A history takes an entry only when a transmission starts. -/
theorem history_kept (h : ClockStep outputs s s') {cid : CanChannelId}
    (hnone : ∀ message result, .startSend cid message result ∉ outputs) :
    s'.txHistory cid = s.txHistory cid := by
  refine (h.evolves.txHistory cid).same (f := id) fun op hop history => ?_
  cases op with
  | put entry =>
    obtain ⟨message, result, hmem, _⟩ := hop
    exact absurd hmem (hnone message result)
  | _ => cases hop

end ClockStep

namespace CanController

variable {s s' : CanController} {bus : CanBus} {cid : CanChannelId} {outputs : List CanOutput}

/-- Every message that a clock gives to the bus is the one that its channel
chose. -/
theorem sends_of_clock {p : ControllerPhase} (hp : Represents p s.modeGlobal)
    (h : s.deviceSupplyClockCan bus = some (s', outputs)) {message : CanData}
    {result : CanStartSend} (hmem : .startSend cid message result ∈ outputs) :
    ChosenMessage s (s'.txreq cid) cid message := by
  obtain ⟨s₁, s₂, received, sent, done, hrx, htx, hdone, heq⟩ := clock_cases h
  have hreceived := canRxProc_outputs hrx
  obtain ⟨hdones, hkept⟩ := canTxDone_keeps hdone
  have hclock := eachChannel_clockStep (fun _ _ _ _ => canRxProcOne_clockStep) hrx
  have hp₁ := hclock.modes p hp
  have hsent : Sent s₁ s₂ sent :=
    eachChannel_induction (P := fun t outputs => Sent s₁ t outputs)
      (fun _ _ _ _ _ hbefore hone => sent_step hbefore hone)
      ⟨hp₁, fun _ _ => rfl, rfl, fun _ _ _ hmem => nomatch hmem⟩ htx
  have hin : .startSend cid message result ∈ sent := by
    rw [heq] at hmem
    simp only [List.mem_append] at hmem
    rcases hmem with ((hmem | hmem) | hmem) | hmem
    · obtain ⟨_, _, habsurd⟩ := hreceived _ hmem
      cases habsurd
    · exact hmem
    · obtain ⟨_, _, _, habsurd⟩ := hdones _ hmem
      cases habsurd
    · obtain ⟨_, habsurd⟩ := canIntrRun_outputs _ hmem
      cases habsurd
  have hchosen := (hsent.sends cid message result hin).2
  have hsame : ChosenMessage s₁ (s'.txreq cid) cid message := by
    obtain ⟨hbufidx, hhistory⟩ := hkept cid
    refine ⟨fun htype => ?_, fun htype => ?_⟩
    · rw [hbufidx]
      exact hchosen.buffer (hhistory ▸ htype)
    · rw [hbufidx]
      exact hchosen.queue (hhistory ▸ htype)
  refine hsame.congr (fun bufno => hclock.message cid bufno) (hclock.queue fun bufno hmem => ?_)
  obtain ⟨_, _, habsurd⟩ := hreceived _ hmem
  cases habsurd

end CanController

end Athrill
