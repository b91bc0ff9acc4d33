import Athrill.Can.Rules

/-!
# Where the frames of a clock go

A rule matches a frame by its masked fields and its length, and the frame then
goes to every store that the rule names.  The loop over the rules delivers it
in their order, and no channel receives outside a clock.

* `RuleMatches`: a rule and a frame, apart from the code.
* `deliveries`: the matching rules of all channels that receive.
* `Delivered`: what a list of deliveries leaves in the stores.
* `Quiet`: no channel is in the middle of a reception.
* `reception_exact`: the whole of `can_rx_proc`.
-/

namespace Athrill

open CanController

/-! ## Matching -/

/-- The masked fields of the rule are those of the frame, and the frame is long
enough when lengths are checked. -/
def RuleMatches (enableDlcCheck : Bool) (rule : CanRxRule) (frame : CanData) : Prop :=
  (rule.mask.ide = true → rule.id.ide = frame.ide) ∧
    (rule.mask.rtr = true → rule.id.rtr = frame.rtr) ∧
    rule.id.canid &&& rule.mask.canid = frame.id &&& rule.mask.canid ∧
    (enableDlcCheck = true → rule.filterBuffer.dlc ≤ frame.dlc)

instance (enableDlcCheck : Bool) (rule : CanRxRule) (frame : CanData) :
    Decidable (RuleMatches enableDlcCheck rule frame) :=
  inferInstanceAs (Decidable (_ ∧ _ ∧ _ ∧ _))

theorem acceptance_iff (rule : CanRxRule) (frame : CanData) :
    canRxProcFilterAcceptance rule frame = true ↔
      (rule.mask.ide = true → rule.id.ide = frame.ide) ∧
        (rule.mask.rtr = true → rule.id.rtr = frame.rtr) ∧
        rule.id.canid &&& rule.mask.canid = frame.id &&& rule.mask.canid := by
  unfold canRxProcFilterAcceptance
  by_cases hide : rule.mask.ide = true ∧ rule.id.ide ≠ frame.ide
  · rw [if_pos hide]
    exact iff_of_false nofun fun h => hide.2 (h.1 hide.1)
  · rw [if_neg hide]
    by_cases hrtr : rule.mask.rtr = true ∧ rule.id.rtr ≠ frame.rtr
    · rw [if_pos hrtr]
      exact iff_of_false nofun fun h => hrtr.2 (h.2.1 hrtr.1)
    · rw [if_neg hrtr]
      by_cases hzero : rule.mask.canid = 0
      · rw [if_neg fun h => h.1 hzero]
        refine iff_of_true rfl ⟨fun h => ?_, fun h => ?_, ?_⟩
        · exact not_not.mp fun hne => hide ⟨h, hne⟩
        · exact not_not.mp fun hne => hrtr ⟨h, hne⟩
        · rw [hzero]
          simp
      · by_cases hid : rule.id.canid &&& rule.mask.canid = frame.id &&& rule.mask.canid
        · rw [if_neg fun h => h.2 hid]
          refine iff_of_true rfl ⟨fun h => ?_, fun h => ?_, hid⟩
          · exact not_not.mp fun hne => hide ⟨h, hne⟩
          · exact not_not.mp fun hne => hrtr ⟨h, hne⟩
        · rw [if_pos ⟨hzero, hid⟩]
          exact iff_of_false nofun fun h => hid h.2.2

theorem dlc_iff (enableDlcCheck : Bool) (rule : CanRxRule) (frame : CanData) :
    canRxProcFilterDlc enableDlcCheck rule frame = true ↔
      (enableDlcCheck = true → rule.filterBuffer.dlc ≤ frame.dlc) := by
  unfold canRxProcFilterDlc
  cases enableDlcCheck with
  | false => simp
  | true =>
    by_cases hdlc : rule.filterBuffer.dlc = 0
    · rw [if_neg nofun, if_neg (not_not.mpr hdlc), hdlc]
      exact iff_of_true rfl fun _ => Nat.zero_le _
    · rw [if_neg nofun, if_pos hdlc]
      simp

theorem ruleMatches_iff (enableDlcCheck : Bool) (rule : CanRxRule) (frame : CanData) :
    RuleMatches enableDlcCheck rule frame ↔
      canRxProcFilterAcceptance rule frame = true ∧
        canRxProcFilterDlc enableDlcCheck rule frame = true := by
  rw [acceptance_iff, dlc_iff, RuleMatches]
  simp only [and_assoc]

/-! ## Deliveries -/

/-- A frame arrives on a channel that is idle in its communication mode. -/
def Receives (bus : CanBus) (s : CanController) (cid : CanChannelId) : Prop :=
  bus.isArrived cid = true ∧ (s.modeGlobal.channel cid).mode = .comm ∧
    (s.modeGlobal.channel cid).commMode = .idle

instance (bus : CanBus) (s : CanController) (cid : CanChannelId) :
    Decidable (Receives bus s cid) :=
  inferInstanceAs (Decidable (_ ∧ _ ∧ _))

/-- The matching rules of a channel, with the channel. -/
def channelDeliveries (bus : CanBus) (s : CanController) (cid : CanChannelId) :
    List (CanChannelId × CanRxRule) :=
  ((s.channelRules cid).filter fun rule =>
    RuleMatches s.modeGlobal.config.enableDlcCheck rule (bus.receive cid)).map fun rule => (cid, rule)

/-- The matching rules of all channels that receive. -/
def deliveries (bus : CanBus) (s : CanController) : List (CanChannelId × CanRxRule) :=
  ((List.finRange canChannelNum).filter fun cid => Receives bus s cid).flatMap
    (channelDeliveries bus s)

/-- The frame of a delivery, with the label of its rule. -/
def delivered (bus : CanBus) (delivery : CanChannelId × CanRxRule) : CanData :=
  labelled delivery.2 (bus.receive delivery.1)

/-- The rule stores into this receive buffer. -/
def StoresInto (number : Fin canRxBufferNum) (rule : CanRxRule) : Prop :=
  rule.filterBuffer.enableRxbuffer = true ∧ rule.filterBuffer.rxbufferNumber.toNat = number.val

instance (number : Fin canRxBufferNum) (rule : CanRxRule) : Decidable (StoresInto number rule) :=
  inferInstanceAs (Decidable (_ ∧ _))

/-- Every store takes the deliveries that name it, in order, and nothing else
changes. -/
structure Delivered (bus : CanBus) (ds : List (CanChannelId × CanRxRule))
    (s s' : CanController) : Prop where
  rxBuffer : ∀ number, s'.rxBuffer.buf number =
    (ds.filter fun d => StoresInto number d.2).foldl (fun _ d => delivered bus d)
      (s.rxBuffer.buf number)
  rxFifo : ∀ x, s'.rxFifo x =
    (ds.filter fun d => d.2.filterFifo.rxFifo.getLsbD x.val).foldl
      (fun fifo d => (canRxfifoPutRxdata (delivered bus d) fifo).2) (s.rxFifo x)
  txrxFifo : ∀ cid k, s'.txrxFifo cid k =
    (ds.filter fun d =>
        d.1 = cid ∧ d.2.filterFifo.txrxFifo.getLsbD (3 * cid.val + k.val)).foldl
      (fun fifo d => (canTxrxfifoPutRxdata (delivered bus d) fifo).2) (s.txrxFifo cid k)
  txBuffer : s'.txBuffer = s.txBuffer
  txQueue : s'.txQueue = s.txQueue
  txHistory : s'.txHistory = s.txHistory

namespace Delivered

variable {bus : CanBus} {ds ds' : List (CanChannelId × CanRxRule)} {s s' s'' : CanController}

theorem nil (s : CanController) : Delivered bus [] s s :=
  ⟨fun _ => rfl, fun _ => rfl, fun _ _ => rfl, rfl, rfl, rfl⟩

theorem append (h : Delivered bus ds s s') (h' : Delivered bus ds' s' s'') :
    Delivered bus (ds ++ ds') s s'' where
  rxBuffer number := by
    rw [List.filter_append, List.foldl_append, ← h.rxBuffer, ← h'.rxBuffer]
  rxFifo x := by
    rw [List.filter_append, List.foldl_append, ← h.rxFifo, ← h'.rxFifo]
  txrxFifo cid k := by
    rw [List.filter_append, List.foldl_append, ← h.txrxFifo, ← h'.txrxFifo]
  txBuffer := h'.txBuffer.trans h.txBuffer
  txQueue := h'.txQueue.trans h.txQueue
  txHistory := h'.txHistory.trans h.txHistory

/-- The modes are not a store. -/
theorem modes (h : Delivered bus ds s s') (gmode gmode' : CanModeGlobal) :
    Delivered bus ds { s with modeGlobal := gmode } { s' with modeGlobal := gmode' } :=
  ⟨h.rxBuffer, h.rxFifo, h.txrxFifo, h.txBuffer, h.txQueue, h.txHistory⟩

end Delivered

namespace CanController

variable {s : CanController} {bus : CanBus}

theorem buf_storeRxBuffer {rule : CanRxRule} (hbuffer : BufferExists rule) (frame : CanData)
    (control : CanRxBufferControl) (number : Fin canRxBufferNum) :
    ((storeRxBuffer rule frame control).getD control).buf number =
      if StoresInto number rule then labelled rule frame else control.buf number := by
  unfold storeRxBuffer
  by_cases henable : rule.filterBuffer.enableRxbuffer = true
  · have hexists : rule.filterBuffer.rxbufferNumber.toNat < canRxBufferNum := hbuffer henable
    rw [if_pos henable, canRxbufferPutRxdata, dif_pos hexists]
    show Function.update control.buf ⟨_, hexists⟩ _ number = _
    by_cases hnumber : rule.filterBuffer.rxbufferNumber.toNat = number.val
    · have heq : number = ⟨rule.filterBuffer.rxbufferNumber.toNat, hexists⟩ := Fin.ext hnumber.symm
      have hstores : StoresInto number rule := ⟨henable, hnumber⟩
      rw [if_pos hstores, heq, Function.update_self]
    · have hne : number ≠ ⟨rule.filterBuffer.rxbufferNumber.toNat, hexists⟩ :=
        fun heq => hnumber (congrArg Fin.val heq).symm
      have hstores : ¬ StoresInto number rule := fun h => hnumber h.2
      rw [if_neg hstores, Function.update_of_ne hne]
  · have hstores : ¬ StoresInto number rule := fun h => henable h.1
    rw [if_neg henable, if_neg hstores]
    rfl

/-- One rule of a channel. -/
theorem delivered_afterRule {rule : CanRxRule} (hbuffer : BufferExists rule) (bus : CanBus)
    (cid : CanChannelId) (s : CanController) :
    Delivered bus
      (if RuleMatches s.modeGlobal.config.enableDlcCheck rule (bus.receive cid) then [(cid, rule)]
        else []) s (s.afterRule cid (bus.receive cid) rule) := by
  unfold afterRule
  by_cases hmatches : RuleMatches s.modeGlobal.config.enableDlcCheck rule (bus.receive cid)
  · obtain ⟨haccept, hdlc⟩ := (ruleMatches_iff _ _ _).mp hmatches
    rw [if_pos hmatches, if_neg (by rw [haccept]; nofun), if_neg (by rw [hdlc]; nofun)]
    refine ⟨fun number => ?_, fun x => ?_, fun c k => ?_, rfl, rfl, rfl⟩
    · show ((storeRxBuffer rule _ s.rxBuffer).getD s.rxBuffer).buf number = _
      rw [buf_storeRxBuffer hbuffer, List.foldl_filter]
      simp [delivered]
    · rw [List.foldl_filter]
      rfl
    · show Function.update s.txrxFifo cid _ c k = _
      rw [List.foldl_filter]
      by_cases hc : c = cid
      · subst hc
        rw [Function.update_self]
        simp [offerTxrxFifo, delivered]
      · rw [Function.update_of_ne hc]
        simp [Ne.symm hc]
  · rw [if_neg hmatches]
    have hrejected : ¬ (canRxProcFilterAcceptance rule (bus.receive cid) = true ∧ _) :=
      fun h => hmatches ((ruleMatches_iff _ _ _).mpr h)
    split_ifs with haccept hdlc
    · exact .nil s
    · exact Delivered.modes (.nil s) s.modeGlobal _
    · exact absurd ⟨by simpa using haccept, by simpa using hdlc⟩ hrejected

/-- A rule changes no mode and no configuration. -/
theorem modes_afterRule (cid : CanChannelId) (frame : CanData) (s : CanController)
    (rule : CanRxRule) :
    (s.afterRule cid frame rule).modeGlobal.channel = s.modeGlobal.channel ∧
      (s.afterRule cid frame rule).modeGlobal.config = s.modeGlobal.config := by
  unfold afterRule
  split_ifs <;> exact ⟨rfl, rfl⟩

/-- The rules of a channel, one after another. -/
theorem delivered_foldl {rules : List CanRxRule} (hbuffers : ∀ rule ∈ rules, BufferExists rule)
    (bus : CanBus) (cid : CanChannelId) (s : CanController) :
    Delivered bus
        ((rules.filter fun rule =>
          RuleMatches s.modeGlobal.config.enableDlcCheck rule (bus.receive cid)).map
            fun rule => (cid, rule))
        s (rules.foldl (afterRule cid (bus.receive cid)) s) ∧
      (rules.foldl (afterRule cid (bus.receive cid)) s).modeGlobal.channel =
        s.modeGlobal.channel ∧
      (rules.foldl (afterRule cid (bus.receive cid)) s).modeGlobal.config = s.modeGlobal.config := by
  induction rules generalizing s with
  | nil => exact ⟨.nil s, rfl, rfl⟩
  | cons rule rules ih =>
    have hone := delivered_afterRule (hbuffers rule List.mem_cons_self) bus cid s
    obtain ⟨hchannel, hconfig⟩ := modes_afterRule cid (bus.receive cid) s rule
    obtain ⟨hrest, hchannels, hconfigs⟩ :=
      ih (fun r hr => hbuffers r (List.mem_cons_of_mem rule hr))
        (s.afterRule cid (bus.receive cid) rule)
    refine ⟨?_, hchannels.trans hchannel, hconfigs.trans hconfig⟩
    rw [hconfig] at hrest
    have hboth := hone.append hrest
    by_cases hmatches : RuleMatches s.modeGlobal.config.enableDlcCheck rule (bus.receive cid)
    · rw [if_pos hmatches] at hboth
      rw [List.filter_cons_of_pos (by simpa using hmatches)]
      exact hboth
    · rw [if_neg hmatches] at hboth
      rw [List.filter_cons_of_neg (by simpa using hmatches)]
      exact hboth

theorem buffers_channelRules (hfit : CountsFit s.rxRuleTable s.rxNumber) (cid : CanChannelId) :
    ∀ rule ∈ s.channelRules cid, BufferExists rule := by
  intro rule hmem
  obtain ⟨rid, hrid, heq⟩ := List.mem_map.mp hmem
  have htotal : rid < ruleTotal s.rxNumber :=
    exists_channel_iff.mp ⟨cid, List.mem_range'_1.mp hrid⟩
  have hlt : rid < canRxRuleTablePageNum * canRxPageRuleNum := Nat.lt_of_lt_of_le htotal hfit.1
  rw [← heq]
  exact hfit.2 rid htotal _ (s.rxRuleTable.rule_eq hlt)

end CanController

/-! ## Channels -/

/-- The phases of a transfer in which the channel receives. -/
def ChannelPhase.Receiving : ChannelPhase → Prop
  | rx _ => True
  | _ => False

theorem ChannelPhase.receiving_step {event : CanModeChannelEvent} (hevent : event ≠ .commRxStart)
    {phase : ChannelPhase} (hphase : ¬ phase.Receiving) : ¬ (phase.step event).Receiving := by
  cases phase with
  | rx => exact absurd trivial hphase
  | tx waiting => cases event <;> cases waiting <;> exact id
  | _ => cases event <;> first | exact id | exact absurd rfl hevent

theorem ChannelPhase.commMode_record (cid : CanChannelId) (phase : ChannelPhase) :
    (phase.record cid).commMode = .rx ↔ phase.Receiving := by
  cases phase <;> simp [record, Receiving]

/-- A channel is free for a frame in one phase only. -/
theorem ChannelPhase.idle_iff (cid : CanChannelId) (phase : ChannelPhase) :
    (phase.record cid).mode = .comm ∧ (phase.record cid).commMode = .idle ↔ phase = .idle := by
  cases phase <;> simp [record]

/-- No channel is in the middle of a reception. -/
def Quiet (s : CanController) : Prop :=
  ∀ cid, (s.modeGlobal.channel cid).commMode ≠ .rx

namespace CanController

variable {s s' : CanController} {bus : CanBus}

theorem commEvent_eq {cid : CanChannelId} {phase : ChannelPhase}
    (h : s.modeGlobal.channel cid = phase.record cid) (event : CanModeChannelEvent) :
    s.commEvent cid event =
      { s with
        modeGlobal := s.modeGlobal.modifyChannel cid fun _ => (phase.step event).record cid } := by
  unfold commEvent
  rw [canModeChannelEvent_eq event h]

theorem channel_commEvent_self {cid : CanChannelId} {phase : ChannelPhase}
    (h : s.modeGlobal.channel cid = phase.record cid) (event : CanModeChannelEvent) :
    (s.commEvent cid event).modeGlobal.channel cid = (phase.step event).record cid := by
  rw [commEvent_eq h]
  exact Function.update_self ..

theorem channel_commEvent_of_ne {c cid : CanChannelId} {phase : ChannelPhase}
    (h : s.modeGlobal.channel cid = phase.record cid) (hc : c ≠ cid)
    (event : CanModeChannelEvent) :
    (s.commEvent cid event).modeGlobal.channel c = s.modeGlobal.channel c := by
  rw [commEvent_eq h]
  exact Function.update_of_ne hc ..

theorem config_commEvent {cid : CanChannelId} {phase : ChannelPhase}
    (h : s.modeGlobal.channel cid = phase.record cid) (event : CanModeChannelEvent) :
    (s.commEvent cid event).modeGlobal.config = s.modeGlobal.config := by
  rw [commEvent_eq h]
  rfl

theorem receives_iff {cid : CanChannelId} {phase : ChannelPhase}
    (h : s.modeGlobal.channel cid = phase.record cid) :
    Receives bus s cid ↔ bus.isArrived cid = true ∧ phase = .idle := by
  rw [Receives, h, ChannelPhase.idle_iff]

/-- What the reception of one channel does, given whether it receives. -/
def ReceivesOnly (bus : CanBus) (cid : CanChannelId) (ds : List (CanChannelId × CanRxRule))
    (outputs : List CanOutput) (s : CanController) : Prop :=
  Delivered bus ds s (receiveOne bus cid s).1 ∧ (receiveOne bus cid s).2 = outputs ∧
    (∀ c, c ≠ cid → (receiveOne bus cid s).1.modeGlobal.channel c = s.modeGlobal.channel c) ∧
    (receiveOne bus cid s).1.modeGlobal.config = s.modeGlobal.config

/-- An idle channel. -/
theorem receivesOnly_of_receives (hfit : CountsFit s.rxRuleTable s.rxNumber) {cid : CanChannelId}
    (hphase : s.modeGlobal.channel cid = ChannelPhase.idle.record cid)
    (harrived : bus.isArrived cid = true) :
    ReceivesOnly bus cid (channelDeliveries bus s cid) [.received cid (bus.receive cid)] s := by
  have hstarted := channel_commEvent_self hphase .commRxStart
  obtain ⟨hloop, hchannel, hconfig⟩ :=
    delivered_foldl (buffers_channelRules hfit cid) bus cid (s.commEvent cid .commRxStart)
  rw [config_commEvent hphase] at hloop hconfig
  have hreceive : receiveOne bus cid s =
      (((s.channelRules cid).foldl (afterRule cid (bus.receive cid))
        (s.commEvent cid .commRxStart)).commEvent cid .commRxDone,
        [.received cid (bus.receive cid)]) := by
    unfold receiveOne
    dsimp only
    have hcomm : ¬ (ChannelPhase.idle.record cid).mode ≠ .comm := fun h => h rfl
    have hrx : ¬ ((ChannelPhase.idle.step .commRxStart).record cid).commMode ≠ .rx := fun h => h rfl
    rw [if_neg (by rw [harrived]; nofun), hphase, if_neg hcomm, hstarted, if_neg hrx]
    rfl
  have hlast := (congrFun hchannel cid).trans hstarted
  unfold ReceivesOnly
  rw [hreceive]
  refine ⟨hloop.modes s.modeGlobal _, rfl, fun c hc => ?_,
    (config_commEvent hlast .commRxDone).trans hconfig⟩
  rw [channel_commEvent_of_ne hlast hc, hchannel, channel_commEvent_of_ne hphase hc]

/-- A channel receives its frame when it is idle, and otherwise leaves it. -/
theorem receiveOne_delivered (hfit : CountsFit s.rxRuleTable s.rxNumber) {cid : CanChannelId}
    {phase : ChannelPhase} (hphase : s.modeGlobal.channel cid = phase.record cid)
    (hquiet : ¬ phase.Receiving) (bus : CanBus) :
    ReceivesOnly bus cid (if Receives bus s cid then channelDeliveries bus s cid else [])
      (if Receives bus s cid then [.received cid (bus.receive cid)] else []) s := by
  by_cases hreceives : Receives bus s cid
  · obtain ⟨harrived, hidle⟩ := (receives_iff hphase).mp hreceives
    rw [if_pos hreceives, if_pos hreceives]
    rw [hidle] at hphase
    exact receivesOnly_of_receives hfit hphase harrived
  · rw [if_neg hreceives, if_neg hreceives]
    unfold ReceivesOnly receiveOne
    dsimp only
    split_ifs with harrived hmode hrx
    · exact ⟨.nil s, rfl, fun _ _ => rfl, rfl⟩
    · exact ⟨.nil s, rfl, fun _ _ => rfl, rfl⟩
    · exact ⟨(Delivered.nil s).modes s.modeGlobal _, rfl,
        fun c hc => channel_commEvent_of_ne hphase hc _, config_commEvent hphase _⟩
    · -- a started reception comes from an idle channel
      refine absurd ((receives_iff hphase).mpr ⟨by simpa using harrived, ?_⟩) hreceives
      rw [channel_commEvent_self hphase, not_not, ChannelPhase.commMode_record] at hrx
      rw [hphase, not_not] at hmode
      cases phase with
      | idle => rfl
      | rx => exact absurd trivial hquiet
      | tx => exact absurd hrx id
      | _ => exact absurd hmode nofun

/-- The frames that the channels of a list receive, as calls. -/
def receivedOutputs (bus : CanBus) (s : CanController) (cids : List CanChannelId) :
    List CanOutput :=
  (cids.filter fun cid => Receives bus s cid).map fun cid => .received cid (bus.receive cid)

/-- The loop over the channels, where the ones that are left are as they were
before it. -/
theorem receive_foldl {s t : CanController} (bus : CanBus)
    (hfit : CountsFit s.rxRuleTable s.rxNumber)
    (hphases : ∀ cid, ∃ phase : ChannelPhase,
      s.modeGlobal.channel cid = phase.record cid ∧ ¬ phase.Receiving)
    (cids : List CanChannelId) (hnodup : cids.Nodup) (outputs : List CanOutput)
    (hrules : SameRules s t) (hconfig : t.modeGlobal.config = s.modeGlobal.config)
    (hchannels : ∀ cid ∈ cids, t.modeGlobal.channel cid = s.modeGlobal.channel cid) :
    Delivered bus
        ((cids.filter fun cid => Receives bus s cid).flatMap (channelDeliveries bus s)) t
        (cids.foldl (fun acc cid =>
          ((receiveOne bus cid acc.1).1, acc.2 ++ (receiveOne bus cid acc.1).2)) (t, outputs)).1 ∧
      (cids.foldl (fun acc cid =>
          ((receiveOne bus cid acc.1).1, acc.2 ++ (receiveOne bus cid acc.1).2)) (t, outputs)).2 =
        outputs ++ receivedOutputs bus s cids := by
  induction cids generalizing t outputs with
  | nil => exact ⟨.nil t, (List.append_nil _).symm⟩
  | cons cid cids ih =>
    obtain ⟨hnot, hnodup'⟩ := List.nodup_cons.mp hnodup
    obtain ⟨phase, hphase, hquiet⟩ := hphases cid
    have hcid := hchannels cid List.mem_cons_self
    have hfit' : CountsFit t.rxRuleTable t.rxNumber := by
      rw [hrules.1, hrules.2.1]
      exact hfit
    have hreceives : Receives bus t cid ↔ Receives bus s cid := by
      rw [Receives, Receives, hcid]
    have hsame : channelDeliveries bus t cid = channelDeliveries bus s cid := by
      rw [channelDeliveries, channelDeliveries, hconfig, channelRules, channelRules, hrules.1,
        hrules.2.1]
    obtain ⟨hone, hout, hother, hconfig'⟩ :=
      receiveOne_delivered hfit' (hcid.trans hphase) hquiet bus
    have hrules' : SameRules s (receiveOne bus cid t).1 := hrules.trans (sameRules_receiveOne bus cid t)
    obtain ⟨hrest, houts⟩ := ih (t := (receiveOne bus cid t).1) hnodup'
      (outputs ++ (receiveOne bus cid t).2) hrules' (hconfig'.trans hconfig)
      (fun c hc => (hother c fun heq => hnot (heq ▸ hc)).trans
        (hchannels c (List.mem_cons_of_mem cid hc)))
    rw [List.foldl_cons]
    have hboth := hone.append hrest
    rw [hsame] at hboth
    unfold receivedOutputs at houts ⊢
    by_cases hr : Receives bus s cid
    · rw [if_pos (hreceives.mpr hr)] at hboth hout
      rw [List.filter_cons_of_pos (by simpa using hr)]
      refine ⟨hboth, ?_⟩
      rw [houts, hout, List.append_assoc]
      rfl
    · rw [if_neg fun h => hr (hreceives.mp h)] at hboth hout
      rw [List.filter_cons_of_neg (by simpa using hr)]
      refine ⟨hboth, ?_⟩
      rw [houts, hout, List.append_nil]

end CanController

/-! ## Between the clocks -/

section Between

variable {s s' : CanController} {p : ControllerPhase} {outputs : List CanOutput}

theorem quiet_iff (hp : Represents p s.modeGlobal) :
    Quiet s ↔ ∀ cid, ¬ (p.channel cid).Receiving := by
  unfold Quiet
  simp only [hp.channel, Ne, ChannelPhase.commMode_record]

theorem Quiet.phases (h : Quiet s) (hp : Represents p s.modeGlobal) (cid : CanChannelId) :
    ∃ phase : ChannelPhase, s.modeGlobal.channel cid = phase.record cid ∧ ¬ phase.Receiving :=
  ⟨p.channel cid, hp.channel cid, (quiet_iff hp).mp h cid⟩

/-- The start of a reception or of a transmission. -/
def CanModeChannelEvent.StartsTransfer (event : CanModeChannelEvent) : Prop :=
  event = .commRxStart ∨ event = .commTxStart

/-- What holds of a phase after every event that starts no transfer. -/
theorem phase_step {P : ChannelPhase → Prop}
    (hP : ∀ event : CanModeChannelEvent, ¬ event.StartsTransfer →
      ∀ phase, P phase → P (phase.step event))
    {event : CanModeEvent} (hevent : ∀ cid e, event = .channel cid e → ¬ e.StartsTransfer)
    {cid : CanChannelId} (h : P (p.channel cid)) : P ((p.step event).channel cid) := by
  cases event with
  | channel index event =>
    show P (Function.update p.channel index _ cid)
    by_cases hcid : cid = index
    · subst hcid
      rw [Function.update_self]
      exact hP event (hevent cid event rfl) _ h
    · rw [Function.update_of_ne hcid]
      exact h
  | global event =>
    cases event <;> unfold ControllerPhase.step <;> dsimp only <;> split_ifs <;>
      first
        | exact h
        | exact hP _ (by simp [CanModeChannelEvent.StartsTransfer]) _ h

theorem phase_events {P : ChannelPhase → Prop}
    (hP : ∀ event : CanModeChannelEvent, ¬ event.StartsTransfer →
      ∀ phase, P phase → P (phase.step event))
    {es : List CanModeEvent}
    (hes : ∀ event ∈ es, ∀ cid e, event = .channel cid e → ¬ e.StartsTransfer)
    {cid : CanChannelId} (h : P (p.channel cid)) : P ((p.events es).channel cid) := by
  induction es generalizing p with
  | nil => exact h
  | cons event es ih =>
    exact ih (fun e he => hes e (List.mem_cons_of_mem event he))
      (phase_step hP (hes event List.mem_cons_self) h)

/-- Software starts no transfer. -/
theorem sentEvents_quiet (size : AccessSize) (address : Nat) (data : BitVec 32) (d : CanDevice) :
    ∀ event ∈ d.sentEvents size address data, ∀ cid e, event = .channel cid e →
      ¬ e.StartsTransfer := by
  intro event hmem cid e heq hstarts
  rw [heq] at hmem
  unfold CanDevice.sentEvents CanDevice.cmctrEvents CanDevice.gctrEvents at hmem
  dsimp only at hmem
  split_ifs at hmem
  · obtain ⟨e', he, hce⟩ := List.mem_map.mp hmem
    cases hce
    unfold modeBitEvents chmdcEvents at he
    rcases hstarts with rfl | rfl <;> split_ifs at he <;> simp at he
  · obtain ⟨e', _, hce⟩ := List.mem_map.mp hmem
    cases hce
  · cases hmem

namespace CanController

/-- The event of a transfer, when it does not leave its channel receiving. -/
theorem quiet_commEvent {cid : CanChannelId} {event : CanModeChannelEvent}
    (hp : Represents p s.modeGlobal)
    (hother : ∀ c, c ≠ cid → (s.modeGlobal.channel c).commMode ≠ .rx)
    (hphase : ¬ ((p.channel cid).step event).Receiving) : Quiet (s.commEvent cid event) := by
  intro c
  by_cases hc : c = cid
  · subst hc
    rw [channel_commEvent_self (hp.channel c), Ne, ChannelPhase.commMode_record]
    exact hphase
  · rw [channel_commEvent_of_ne (hp.channel cid) hc]
    exact hother c hc

theorem canRxProcRule_channel {cid : CanChannelId} {frame : CanData} {pointer : CanRxRulePointer}
    (h : s.canRxProcRule cid frame pointer = some s') :
    s'.modeGlobal.channel = s.modeGlobal.channel := by
  rcases canRxProcRule_cases h with heq | heq | ⟨_, _, _, _, _, _, heq⟩
  · rw [heq]
  · rw [heq]
    rfl
  · rw [heq]

theorem canRxProcOne_quiet {bus : CanBus} {cid : CanChannelId} (hp : Represents p s.modeGlobal)
    (hquiet : Quiet s) (h : canRxProcOne bus cid s = some (s', outputs)) : Quiet s' := by
  unfold canRxProcOne at h
  dsimp only at h
  split_ifs at h with harrived hmode hcomm
  · cases h
    exact hquiet
  · cases h
    exact hquiet
  · cases h
    refine quiet_commEvent hp (fun c _ => hquiet c) ?_
    rw [channel_commEvent_self (hp.channel cid), Ne, ChannelPhase.commMode_record] at hcomm
    exact hcomm
  · obtain ⟨mid, hmid, heq⟩ := Option.map_eq_some_iff.mp h
    cases heq
    have hchannel : mid.modeGlobal.channel = (s.commEvent cid .commRxStart).modeGlobal.channel :=
      Pointwise.foldlM_invariant
        (I := fun t => t.modeGlobal.channel = (s.commEvent cid .commRxStart).modeGlobal.channel)
        (fun t _ t' ht hpass => (canRxProcRule_channel hpass).trans ht) _ rfl hmid
    have hcid := (congrFun hchannel cid).trans (channel_commEvent_self (hp.channel cid) _)
    intro c
    by_cases hc : c = cid
    · subst hc
      rw [channel_commEvent_self hcid, Ne, ChannelPhase.commMode_record]
      cases p.channel c with
      | idle => exact id
      | rx waiting => cases waiting <;> exact id
      | _ => exact id
    · rw [channel_commEvent_of_ne hcid hc, hchannel, channel_commEvent_of_ne (hp.channel cid) hc]
      exact hquiet c

theorem getTxdata_modes {cid : CanChannelId} {source : CanTxSource} {bufidx : CanTxBufferIdx}
    {txdata : Except CanReturn CanData} (h : s.getTxdata cid source bufidx = some (txdata, s')) :
    s'.modeGlobal = s.modeGlobal := by
  cases source with
  | fifo =>
    unfold getTxdata at h
    dsimp only at h
    split_ifs at h
    cases h
    rfl
  | _ =>
    cases h
    rfl

theorem canTxSend_modes {bus : CanBus} {cid : CanChannelId} {source : CanTxSource}
    {bufidx : CanTxBufferIdx} (h : canTxSend bus cid source bufidx s = some (s', outputs)) :
    s'.modeGlobal = s.modeGlobal := by
  obtain ⟨⟨txdata, mid⟩, hget, heq⟩ := Option.map_eq_some_iff.mp h
  rw [← getTxdata_modes hget]
  cases txdata with
  | error e =>
    cases heq
    rfl
  | ok message =>
    dsimp only at heq
    split_ifs at heq <;> cases heq <;> rfl

theorem notifyTxdone_modes {cid : CanChannelId} {source : CanTxSource} {bufidx : CanTxBufferIdx}
    (h : s.notifyTxdone cid source bufidx = some s') : s'.modeGlobal = s.modeGlobal := by
  cases source with
  | fifo =>
    unfold notifyTxdone at h
    dsimp only at h
    split_ifs at h
    cases h
    rfl
  | _ =>
    cases h
    rfl

theorem canTxProcOne_quiet {bus : CanBus} {cid : CanChannelId} (hp : Represents p s.modeGlobal)
    (hquiet : Quiet s) (h : canTxProcOne bus cid s = some (s', outputs)) : Quiet s' := by
  have hphases := (quiet_iff hp).mp hquiet
  have hstarted : ∀ req, Quiet ((s.modifyTxreq cid req).commEvent cid .commTxStart) := fun req =>
    have hevent : CanModeChannelEvent.commTxStart ≠ .commRxStart := by decide
    quiet_commEvent (s := s.modifyTxreq cid req) hp (fun c _ => hquiet c)
      (ChannelPhase.receiving_step hevent (hphases cid))
  unfold canTxProcOne at h
  split_ifs at h
  · cases h
    exact hquiet
  · cases h
    exact hquiet
  · cases hchoice : s.selection cid with
    | none =>
      rw [hchoice] at h
      cases h
      exact hquiet
    | some choice =>
      rw [hchoice] at h
      dsimp only at h
      split_ifs at h
      · cases h
        exact hstarted _
      · intro c
        rw [canTxSend_modes h]
        exact hstarted _ c

theorem canTxDoneOne_quiet {bus : CanBus} {cid : CanChannelId} (hp : Represents p s.modeGlobal)
    (hquiet : Quiet s) (h : canTxDoneOne bus cid s = some (s', outputs)) : Quiet s' := by
  have hphases := (quiet_iff hp).mp hquiet
  unfold canTxDoneOne at h
  split_ifs at h
  · cases h
    exact hquiet
  · cases h
    exact hquiet
  · cases h
    exact hquiet
  · obtain ⟨source, _, h⟩ := Option.bind_eq_some_iff.mp h
    obtain ⟨mid, hmid, heq⟩ := Option.map_eq_some_iff.mp h
    cases heq
    have hmodes := notifyTxdone_modes hmid
    have hp' : Represents p (mid.modifyTxreq cid fun req => { req with source := none }).modeGlobal := by
      show Represents p mid.modeGlobal
      rw [hmodes]
      exact hp
    have hevent : CanModeChannelEvent.commTxDone ≠ .commRxStart := by decide
    refine quiet_commEvent hp' (fun c _ => ?_) (ChannelPhase.receiving_step hevent (hphases cid))
    show (mid.modeGlobal.channel c).commMode ≠ .rx
    rw [hmodes]
    exact hquiet c

/-- A loop over the channels whose work keeps them quiet. -/
theorem eachChannel_quiet
    {f : CanChannelId → CanController → Option (CanController × List CanOutput)}
    (hclock : ∀ cid s s' outputs, f cid s = some (s', outputs) → ClockStep outputs s s')
    (hstep : ∀ cid p s s' outputs, Represents p s.modeGlobal → Quiet s →
      f cid s = some (s', outputs) → Quiet s')
    (hp : Represents p s.modeGlobal) (hquiet : Quiet s)
    (h : whenRunning (eachChannel f) s = some (s', outputs)) :
    (∃ p', Represents p' s'.modeGlobal) ∧ Quiet s' := by
  refine eachChannel_induction
    (P := fun t _ => (∃ q, Represents q t.modeGlobal) ∧ Quiet t) ?_ ⟨⟨p, hp⟩, hquiet⟩ h
  intro cid t _ t' after ht hone
  obtain ⟨⟨q, hq⟩, htquiet⟩ := ht
  exact ⟨(hclock cid t t' after hone).modes q hq, hstep cid q t t' after hq htquiet hone⟩

/-- A store keeps the channels out of receptions. -/
theorem put_quiet {size : AccessSize} {address : Nat} {data : BitVec 32}
    (hp : Represents p s.modeGlobal) (hquiet : Quiet s)
    (h : s.put size address data = some s') : Quiet s' := by
  have hstore := CanDevice.represents_put hp size address data
  have hphases : ∀ cid, ¬ ((p.events (s.sentEvents size address data)).channel cid).Receiving :=
    fun cid => phase_events (P := fun phase => ¬ phase.Receiving)
      (fun _ hstart _ => ChannelPhase.receiving_step fun heq => hstart (Or.inl heq))
      (sentEvents_quiet size address data s.toCanDevice) ((quiet_iff hp).mp hquiet cid)
  rw [put_eq] at h
  cases hgroup : searchMap address with
  | none =>
    simp only [hgroup] at h
    cases h
    exact (quiet_iff hstore).mpr hphases
  | some group =>
    simp only [hgroup] at h
    have hafter : Represents (p.events (s.sentEvents size address data))
        (s.afterStore size address data).modeGlobal := hstore
    exact (quiet_iff (writeHook_modes hafter h)).mpr hphases

/-- No channel is in a reception when a clock begins. -/
theorem quiet_of_reachable (h : canController.Reachable s) : Quiet s := by
  induction h with
  | init hinit =>
    rw [show _ = initialCan from hinit]
    exact (quiet_iff (represents_canReset blankCan)).mpr fun _ => id
  | @step event s s' hreach hstep ih =>
    obtain ⟨p, hp⟩ := modes_of_reachable hreach
    obtain ⟨outputs, hstep⟩ := hstep
    cases event with
    | put size address data =>
      obtain ⟨mid, hmid, heq⟩ := Option.map_eq_some_iff.mp hstep
      cases heq
      exact put_quiet hp ih hmid
    | get size address indeterminate =>
      cases hstep
      obtain ⟨memory, hmemory⟩ := s.get_eq address indeterminate
      rw [hmemory]
      exact ih
    | clock bus =>
      obtain ⟨s₁, s₂, received, sent, done, hrx, htx, hdone, _⟩ := clock_cases hstep
      obtain ⟨⟨p₁, hp₁⟩, hquiet₁⟩ := eachChannel_quiet (fun _ _ _ _ => canRxProcOne_clockStep)
        (fun _ _ _ _ _ => canRxProcOne_quiet) hp ih hrx
      obtain ⟨⟨p₂, hp₂⟩, hquiet₂⟩ := eachChannel_quiet (fun _ _ _ _ => canTxProcOne_clockStep)
        (fun _ _ _ _ _ => canTxProcOne_quiet) hp₁ hquiet₁ htx
      exact (eachChannel_quiet (fun _ _ _ _ => canTxDoneOne_clockStep)
        (fun _ _ _ _ _ => canTxDoneOne_quiet) hp₂ hquiet₂ hdone).2

end CanController

end Between

/-! ## The reception of a clock -/

/-- A FIFO takes an offered frame unless it is disabled, full or, for a TXRX
FIFO, in transmit mode. -/
structure TakesOffers : Prop where
  rxFifo : ∀ frame (fifo : CanRxFifoBuffer),
    if fifo.config.enableFifo = true ∧ fifo.fifoControl.count < fifo.cap then
      (canRxfifoPutRxdata frame fifo).1 = .ok ∧
        (canRxfifoPutRxdata frame fifo).2.buffer =
          Function.update fifo.buffer fifo.fifoControl.woff frame ∧
        (canRxfifoPutRxdata frame fifo).2.fifoControl = fifo.fifoControl.put fifo.cap
    else
      (canRxfifoPutRxdata frame fifo).1 ≠ .ok ∧
        (canRxfifoPutRxdata frame fifo).2.buffer = fifo.buffer ∧
        (canRxfifoPutRxdata frame fifo).2.fifoControl = fifo.fifoControl
  txrxFifo : ∀ frame (fifo : CanTxRxFifoBuffer),
    if fifo.config.mode ≠ canTxrxFifoModeTx ∧ fifo.config.enableFifo = true ∧
        fifo.fifoControl.count < fifo.cap then
      (canTxrxfifoPutRxdata frame fifo).1 = .ok ∧
        (canTxrxfifoPutRxdata frame fifo).2.rx =
          Function.update fifo.rx fifo.fifoControl.woff frame ∧
        (canTxrxfifoPutRxdata frame fifo).2.fifoControl = fifo.fifoControl.put fifo.cap
    else
      (canTxrxfifoPutRxdata frame fifo).1 ≠ .ok ∧
        (canTxrxfifoPutRxdata frame fifo).2.rx = fifo.rx ∧
        (canTxrxfifoPutRxdata frame fifo).2.fifoControl = fifo.fifoControl

theorem takesOffers : TakesOffers where
  rxFifo frame fifo := by
    unfold canRxfifoPutRxdata
    by_cases henable : fifo.config.enableFifo = false
    · rw [henable, if_neg fun h => absurd h.1 nofun, if_pos rfl]
      exact ⟨nofun, rfl, rfl⟩
    · rw [if_neg henable]
      by_cases hfull : fifo.fifoControl.count ≥ fifo.cap
      · rw [if_neg fun h => absurd h.2 (Nat.not_lt.mpr hfull), if_pos hfull]
        exact ⟨nofun, rfl, rfl⟩
      · rw [if_pos ⟨by simpa using henable, Nat.not_le.mp hfull⟩, if_neg hfull]
        exact ⟨rfl, rfl, rfl⟩
  txrxFifo frame fifo := by
    unfold canTxrxfifoPutRxdata
    by_cases hmode : fifo.config.mode = canTxrxFifoModeTx
    · rw [if_neg fun h => h.1 hmode, if_pos hmode]
      exact ⟨nofun, rfl, rfl⟩
    · rw [if_neg hmode]
      by_cases henable : fifo.config.enableFifo = false
      · rw [henable, if_neg fun h => absurd h.2.1 nofun, if_pos rfl]
        exact ⟨nofun, rfl, rfl⟩
      · rw [if_neg henable]
        by_cases hfull : fifo.fifoControl.count ≥ fifo.cap
        · rw [if_neg fun h => absurd h.2.2 (Nat.not_lt.mpr hfull), if_pos hfull]
          exact ⟨nofun, rfl, rfl⟩
        · rw [if_pos ⟨hmode, by simpa using henable, Nat.not_le.mp hfull⟩, if_neg hfull]
          exact ⟨rfl, rfl, rfl⟩

/-- While the counts end within the table and the counted rules name receive
buffers that exist, a clock of a running controller receives the frame of every
idle channel once and delivers it to the stores that its matching rules name. -/
theorem reception_exact {s : CanController} (hreach : canController.Reachable s)
    (hfit : CountsFit s.rxRuleTable s.rxNumber) (hrun : s.modeGlobal.mode = .run) (bus : CanBus) :
    (∃ s', CanController.canRxProc bus s =
        some (s', receivedOutputs bus s (List.finRange canChannelNum)) ∧
      Delivered bus (deliveries bus s) s s') ∧ TakesOffers := by
  obtain ⟨p, hp⟩ := modes_of_reachable hreach
  have hphases := (quiet_of_reachable hreach).phases hp
  obtain ⟨hdelivered, houtputs⟩ := receive_foldl bus hfit hphases _ (List.nodup_finRange _) []
    ⟨rfl, rfl, rfl⟩ rfl fun _ _ => rfl
  refine ⟨⟨(receiveAll bus s).1, ?_, hdelivered⟩, takesOffers⟩
  rw [canRxProc_eq (linked_of_reachable hreach) hfit, if_neg (not_not.mpr hrun)]
  exact congrArg some (Prod.ext rfl houtputs)

/-- A frame of zeros matches the only rule of channel 0 and goes into receive
FIFO 0. -/
theorem reception_exact_one :
    ∃ s s', canController.Reachable s ∧
      CanController.canRxProc arrivingBus s = some (s', [.received 0 zeroCanData]) ∧
      (s'.rxFifo 0).fifoControl.count = 1 := by
  have hview : ((CanController.run
      ([.put .word 0x009C 0x01000000, .put .word 0x050C 0x1] ++ startChannel ++
        [.put .word 0x00B8 0x101]) initialCan).map fun s =>
      decide (s.modeGlobal.mode = .run ∧ ruleTotal s.rxNumber = 1 ∧
        (s.rxRuleTable.rule (canRxRulePointer 0)).map (·.filterBuffer.enableRxbuffer) =
          some false ∧
        receivedOutputs arrivingBus s (List.finRange canChannelNum) = [.received 0 zeroCanData] ∧
        ((deliveries arrivingBus s).filter fun d => d.2.filterFifo.rxFifo.getLsbD 0).length = 1 ∧
        (s.rxFifo 0).config.enableFifo = true ∧ (s.rxFifo 0).fifoControl.count = 0 ∧
        (s.rxFifo 0).config.quelen = 1)) = some true := by
    decide +kernel
  obtain ⟨s, hreach, hs⟩ := exists_reachable hview
  obtain ⟨hrun, htotal, hrule, hreceived, hlength, henable, hcount, hquelen⟩ :=
    of_decide_eq_true hs
  have hfit : CountsFit s.rxRuleTable s.rxNumber := by
    refine ⟨by rw [htotal]; decide, fun rid hrid rule hpointer henabled => ?_⟩
    have hzero : rid = 0 := by omega
    rw [hzero] at hpointer
    rw [hpointer] at hrule
    exact absurd (henabled.symm.trans (Option.some.inj hrule)) nofun
  obtain ⟨⟨s', hproc, hdelivered⟩, htakes⟩ := reception_exact hreach hfit hrun arrivingBus
  refine ⟨s, s', hreach, hreceived ▸ hproc, ?_⟩
  obtain ⟨delivery, hone⟩ := List.length_eq_one_iff.mp hlength
  have hfifo := hdelivered.rxFifo 0
  rw [show ((0 : CanRxFifoId).val) = 0 from rfl, hone] at hfifo
  have hput := htakes.rxFifo (delivered arrivingBus delivery) (s.rxFifo 0)
  rw [if_pos ⟨henable, by rw [hcount, CanRxFifoBuffer.cap, hquelen]; decide⟩] at hput
  rw [hfifo]
  show ((canRxfifoPutRxdata _ (s.rxFifo 0)).2).fifoControl.count = 1
  rw [hput.2.2]
  show (s.rxFifo 0).fifoControl.count + 1 = 1
  rw [hcount]

end Athrill
