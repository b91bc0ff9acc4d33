import Athrill.Can.BusRings

/-!
# Two controllers linked by Hakoniwa

One controller publishes, another one subscribes, and the PDUs between them
each hold the frame that was written last.  The frames that come out on a
channel are frames that went in: each PDU keeps their order, gives none of them
twice, and what is missing was overwritten before it was read or found the ring
full.

* `PduReader`, `PduWriter`: what is asked of the Hakoniwa asset.
* `ReadStep`: the loop over the subscribed topics.
* `hakoLink`: the two buses and the PDUs, with a record of what was sent, read
  and received.
* `hako_frames_delivered`: the account of the frames in every run.
-/

namespace Athrill

/-! ## The Hakoniwa asset -/

variable {D : Type}

/-- A dirty PDU holds a frame that has not been read since it was written, and a
read gives that frame and leaves the PDU clean.  Nothing is asked of a read of a
clean PDU, which may give the same frame again. -/
structure PduReader (asset : HakoAsset D) (unread : D → Int → Option HakoCan) : Prop where
  dirty : ∀ d ch, asset.isPduDirty d ch = (unread d ch).isSome
  read : ∀ d ch msg d', asset.isPduDirty d ch = true → asset.readPdu d ch = (some msg, d') →
    unread d ch = some msg ∧ unread d' = Function.update (unread d) ch none
  readFailed : ∀ d ch d', asset.readPdu d ch = (none, d') → unread d' = unread d
  notifyRead : ∀ d, unread (asset.notifyReadPduDone d) = unread d
  notifyWrite : ∀ d, unread (asset.notifyWritePduDone d) = unread d

/-- A write replaces the content of a PDU. -/
structure PduWriter (asset : HakoAsset D) (unread : D → Int → Option HakoCan) : Prop where
  write : ∀ d ch msg d', asset.writePdu d ch msg = (true, d') →
    unread d' = Function.update (unread d) ch (some msg)
  writeFailed : ∀ d ch msg d', asset.writePdu d ch msg = (false, d') → unread d' = unread d
  notifyWrite : ∀ d, unread (asset.notifyWritePduDone d) = unread d

/-! ## The loop over the topics -/

/-- The frames that the ring has taken. -/
def takenFrames (label : BitVec 16) (reads : List HakoRead) : List CanData :=
  (reads.filter HakoRead.taken).map fun read => hakoFrame label read.msg

/-- The PDUs of one PDU channel, as they were read. -/
def readsOf (ch : Int) (reads : List HakoRead) : List HakoCan :=
  (reads.filter fun read => read.pduChannel = ch).map HakoRead.msg

/-- The PDU channel is subscribed for the channel. -/
def HakoRead.Routed (topics : List CanBusTopic) (read : HakoRead) : Prop :=
  ∃ topic ∈ topics, topic.cid = BitVec.ofNat 32 read.cid.val ∧ topic.pduChannel = read.pduChannel

theorem HakoRead.Routed.cons {topics : List CanBusTopic} {read : HakoRead}
    (h : read.Routed topics) (topic : CanBusTopic) : read.Routed (topic :: topics) := by
  obtain ⟨found, hmem, hfound⟩ := h
  exact ⟨found, List.mem_cons_of_mem _ hmem, hfound⟩

/-- The effect of the loop: what is read disappears from the PDUs, and what the
ring takes comes last. -/
structure ReadStep (unread : D → Int → Option HakoCan) (label : BitVec 16) (cid : CanChannelId)
    (topics : List CanBusTopic) (reads : List HakoRead) (rx rx' : CanBusRx) (d d' : D) :
    Prop where
  put : CanBusRx.PutStep cid (takenFrames label reads) rx rx'
  cid : ∀ read ∈ reads, read.cid = cid
  routed : ∀ read ∈ reads, read.Routed topics
  unread : ∀ ch, readsOf ch reads ++ (unread d' ch).toList = (unread d ch).toList

theorem readStep_hakoReadTopics {asset : HakoAsset D} {unread : D → Int → Option HakoCan}
    (hasset : PduReader asset unread) (label : BitVec 16) (cid : CanChannelId)
    (topics : List CanBusTopic) (rx : CanBusRx) (d : D) :
    ReadStep unread label cid topics (hakoReadTopics asset label cid topics rx d).1 rx
      (hakoReadTopics asset label cid topics rx d).2.1 d
      (hakoReadTopics asset label cid topics rx d).2.2 := by
  induction topics generalizing rx d with
  | nil => exact ⟨.refl cid rx, nofun, nofun, fun _ => rfl⟩
  | cons topic topics ih =>
    have hskip (d₁ : D) (hleft : unread d₁ = unread d) :
        ReadStep unread label cid (topic :: topics)
          (hakoReadTopics asset label cid topics rx d₁).1 rx
          (hakoReadTopics asset label cid topics rx d₁).2.1 d
          (hakoReadTopics asset label cid topics rx d₁).2.2 := by
      obtain ⟨hput, hcid, hrouted, hunread⟩ := ih rx d₁
      rw [hleft] at hunread
      exact ⟨hput, hcid, fun read hmem => (hrouted read hmem).cons topic, hunread⟩
    unfold hakoReadTopics
    split_ifs with hother hclean
    · exact hskip d rfl
    · exact hskip d rfl
    · rcases hread : asset.readPdu d topic.pduChannel with ⟨_ | msg, d₁⟩
      · exact hskip d₁ (hasset.readFailed d _ d₁ hread)
      · dsimp only
        obtain ⟨hput, hcid, hrouted, hunread⟩ := ih (rx.put cid (hakoFrame label msg)).2 d₁
        have hdirty := Bool.of_not_eq_false hclean
        obtain ⟨hcontent, hleft⟩ := hasset.read d _ msg d₁ hdirty hread
        have hfirst := CanBusRx.put_step cid (hakoFrame label msg) rx
        refine ⟨?_, fun read hmem => ?_, fun read hmem => ?_, fun ch => ?_⟩
        · have hstep := hfirst.trans hput
          unfold takenFrames at hstep ⊢
          cases htaken : (rx.put cid (hakoFrame label msg)).1 with
          | false =>
            rw [htaken, if_neg nofun] at hstep
            exact hstep
          | true =>
            rw [htaken, if_pos rfl] at hstep
            exact hstep
        · obtain rfl | hmem := List.mem_cons.mp hmem
          · rfl
          · exact hcid read hmem
        · obtain rfl | hmem := List.mem_cons.mp hmem
          · exact ⟨topic, List.mem_cons_self, not_not.mp hother, rfl⟩
          · exact (hrouted read hmem).cons topic
        · have hrest := hunread ch
          rw [hleft] at hrest
          unfold readsOf at hrest ⊢
          by_cases hch : ch = topic.pduChannel
          · subst hch
            rw [Function.update_self] at hrest
            rw [List.filter_cons_of_pos (by simp), List.map_cons, List.cons_append, hrest,
              hcontent]
            rfl
          · rw [Function.update_of_ne hch] at hrest
            rw [List.filter_cons_of_neg (by simpa using Ne.symm hch), hrest]

/-- The whole of `rx.is_arrived`. -/
theorem readStep_hakoRxIsArrived {asset : HakoAsset D} {unread : D → Int → Option HakoCan}
    (hasset : PduReader asset unread) (label : BitVec 16) (cid : CanChannelId)
    (bus : CanBusHako) (d : D) :
    ReadStep unread label cid bus.subTopic (hakoRxIsArrived asset label cid bus d).2.1 bus.rx
      (hakoRxIsArrived asset label cid bus d).2.2.1.rx d
      (hakoRxIsArrived asset label cid bus d).2.2.2 := by
  have hnone (d' : D) (hleft : unread d' = unread d) :
      ReadStep unread label cid bus.subTopic [] bus.rx bus.rx d d' :=
    ⟨.refl cid bus.rx, nofun, nofun, fun ch => by rw [hleft]; rfl⟩
  unfold hakoRxIsArrived
  split_ifs
  · obtain ⟨hput, hcid, hrouted, hunread⟩ :=
      readStep_hakoReadTopics hasset label cid bus.subTopic bus.rx d
    refine ⟨hput, hcid, hrouted, fun ch => ?_⟩
    dsimp only
    rw [hasset.notifyRead]
    exact hunread ch
  · exact hnone _ (hasset.notifyWrite d)
  · exact hnone d rfl

/-! ## Frames in PDUs -/

/-- A frame apart from its label. -/
def CanData.unlabelled (data : CanData) : CanData :=
  { data with label := 0 }

/-- A frame comes out of a PDU as it went in. -/
theorem hakoFrame_hakoMessage (cid : CanChannelId) (data : CanData) :
    hakoFrame 0 (hakoMessage cid data) = data.unlabelled := by
  obtain ⟨ide, rtr, dlc, label, id, bytes⟩ := data
  have hbool (b : Bool) : (boolWord b != 0) = b := by
    cases b <;> rfl
  have hdlc : (dlc.setWidth 32).setWidth 8 = dlc := by
    rw [BitVec.setWidth_setWidth_of_le _ (by decide), BitVec.setWidth_eq]
  unfold hakoFrame hakoMessage CanData.unlabelled
  simp only [hbool, hdlc]

theorem unlabelled_takenFrames (label : BitVec 16) (reads : List HakoRead) :
    (takenFrames label reads).map CanData.unlabelled =
      (reads.filter HakoRead.taken).map fun read => hakoFrame 0 read.msg := by
  unfold takenFrames
  rw [List.map_map]
  rfl

/-! ## The link -/

/-- The two buses and the PDUs.  The other fields record a run: the frames
written to each PDU channel, how many of them replaced one that had not been
read, the PDUs that were read, and the frames given to the controller. -/
structure HakoLink (D : Type) where
  pdu : D
  publisher : CanBusHako
  subscriber : CanBusHako
  sent : Int → List CanData
  overwritten : Int → Nat
  reads : List HakoRead
  received : CanChannelId → List CanData

/-- What happens next: one of the controllers calls its bus, or the simulation
goes on. -/
inductive HakoEvent where
  | startSend (cid : CanChannelId) (data : CanData)
  | isArrived (cid : CanChannelId) (label : BitVec 16)
  | receive (cid : CanChannelId)
  | simulation

namespace HakoLink

/-- A frame was written to a PDU channel. -/
def written (unread : D → Int → Option HakoCan) (ch : Int) (data : CanData) (s : HakoLink D) :
    HakoLink D :=
  { s with
    sent := Function.update s.sent ch (s.sent ch ++ [data])
    overwritten := Function.update s.overwritten ch
      (s.overwritten ch + (unread s.pdu ch).toList.length) }

/-- `tx.start_send` of the publisher. -/
def startSend (asset : HakoAsset D) (unread : D → Int → Option HakoCan) (cid : CanChannelId)
    (data : CanData) (s : HakoLink D) : HakoLink D :=
  let result := hakoTxStartSend asset cid data s.publisher s.pdu
  { result.2.1.elim s fun ch => s.written unread ch data with pdu := result.2.2 }

/-- `rx.is_arrived` of the subscriber. -/
def isArrived (asset : HakoAsset D) (cid : CanChannelId) (label : BitVec 16) (s : HakoLink D) :
    HakoLink D :=
  let result := hakoRxIsArrived asset label cid s.subscriber s.pdu
  { s with
    pdu := result.2.2.2
    subscriber := result.2.2.1
    reads := s.reads ++ result.2.1 }

/-- `rx.receive` of the subscriber. -/
def receive (cid : CanChannelId) (s : HakoLink D) : HakoLink D :=
  let result := hakoRxReceive cid s.subscriber
  { s with
    subscriber := result.2
    received := Function.update s.received cid (s.received cid ++ result.1.toList) }

/-- Nothing has been written, read or received. -/
structure Fresh (unread : D → Int → Option HakoCan) (s : HakoLink D) : Prop where
  rx : ∃ rxQueueMax memory, s.subscriber.rx = CanBusRx.init rxQueueMax memory
  unread : ∀ ch, unread s.pdu ch = none
  sent : ∀ ch, s.sent ch = []
  overwritten : ∀ ch, s.overwritten ch = 0
  reads : s.reads = []
  received : ∀ cid, s.received cid = []

end HakoLink

/-- One step of the link. -/
inductive HakoStep (publisher subscriber : HakoAsset D) (unread : D → Int → Option HakoCan) :
    HakoEvent → HakoLink D → HakoLink D → Prop
  | startSend (s : HakoLink D) (cid : CanChannelId) (data : CanData) :
      HakoStep publisher subscriber unread (.startSend cid data) s
        (s.startSend publisher unread cid data)
  | isArrived (s : HakoLink D) (cid : CanChannelId) (label : BitVec 16) :
      HakoStep publisher subscriber unread (.isArrived cid label) s
        (s.isArrived subscriber cid label)
  | receive (s : HakoLink D) (cid : CanChannelId) :
      HakoStep publisher subscriber unread (.receive cid) s (s.receive cid)
  | simulation (s : HakoLink D) (d : D) (h : unread d = unread s.pdu) :
      HakoStep publisher subscriber unread .simulation s { s with pdu := d }

/-- The link as a transition system. -/
def hakoLink (publisher subscriber : HakoAsset D) (unread : D → Int → Option HakoCan) :
    TransitionSystem (HakoLink D) HakoEvent where
  init := HakoLink.Fresh unread
  step := HakoStep publisher subscriber unread

/-! ## The account of the frames -/

/-- The frames on their way. -/
structure HakoLink.Accounted (unread : D → Int → Option HakoCan) (s : HakoLink D) : Prop where
  ok : s.subscriber.rx.Ok
  /-- A channel gives the frames that its ring took, in order. -/
  channel : ∀ cid,
    (s.received cid ++ s.subscriber.rx.waiting cid).map CanData.unlabelled =
      ((s.reads.filter fun read => read.cid = cid).filter HakoRead.taken).map
        fun read => hakoFrame 0 read.msg
  /-- They were read from PDUs that are subscribed for the channel. -/
  routed : ∀ read ∈ s.reads, read.Routed s.subscriber.subTopic
  /-- A PDU gives frames that were written to it, each at most once and in order. -/
  order : ∀ ch,
    ((readsOf ch s.reads ++ (unread s.pdu ch).toList).map (hakoFrame 0)).Sublist
      ((s.sent ch).map CanData.unlabelled)
  /-- What is missing was replaced. -/
  count : ∀ ch,
    (readsOf ch s.reads).length + (unread s.pdu ch).toList.length + s.overwritten ch =
      (s.sent ch).length

namespace HakoLink.Accounted

variable {unread : D → Int → Option HakoCan} {s : HakoLink D}

theorem fresh (h : s.Fresh unread) : s.Accounted unread := by
  obtain ⟨rxQueueMax, memory, hrx⟩ := h.rx
  refine ⟨?_, fun cid => ?_, fun read hmem => ?_, fun ch => ?_, fun ch => ?_⟩
  · rw [hrx]
    exact CanBusRx.ok_init rxQueueMax memory
  · rw [hrx, CanBusRx.waiting_init, h.received, h.reads]
    rfl
  · rw [h.reads] at hmem
    exact absurd hmem List.not_mem_nil
  · rw [h.reads, h.unread, h.sent]
    exact List.Sublist.refl _
  · rw [h.reads, h.unread, h.sent, h.overwritten]
    rfl

/-- The PDUs change, and keep what has not been read. -/
theorem of_unread (h : s.Accounted unread) {d : D} (hd : unread d = unread s.pdu) :
    ({ s with pdu := d } : HakoLink D).Accounted unread where
  ok := h.ok
  channel := h.channel
  routed := h.routed
  order ch := by
    rw [hd]
    exact h.order ch
  count ch := by
    rw [hd]
    exact h.count ch

/-- A frame is written to a PDU. -/
theorem written (h : s.Accounted unread) (cid : CanChannelId) (data : CanData) (ch : Int) {d : D}
    (hd : unread d = Function.update (unread s.pdu) ch (some (hakoMessage cid data))) :
    ({ s.written unread ch data with pdu := d } : HakoLink D).Accounted unread where
  ok := h.ok
  channel := h.channel
  routed := h.routed
  order c := by
    have hold := h.order c
    unfold HakoLink.written
    rw [hd]
    by_cases hc : c = ch
    · subst hc
      have hread : ((readsOf c s.reads).map (hakoFrame 0)).Sublist
          ((s.sent c).map CanData.unlabelled) := by
        rw [List.map_append] at hold
        exact (List.sublist_append_left _ _).trans hold
      simp only [Function.update_self, Option.toList_some, List.map_append, List.map_cons,
        List.map_nil, hakoFrame_hakoMessage]
      exact hread.append (List.Sublist.refl _)
    · simp only [Function.update_of_ne hc]
      exact hold
  count c := by
    have hold := h.count c
    unfold HakoLink.written
    rw [hd]
    by_cases hc : c = ch
    · subst hc
      simp only [Function.update_self, Option.toList_some, List.length_append, List.length_cons,
        List.length_nil]
      omega
    · simp only [Function.update_of_ne hc]
      exact hold

/-- `tx.start_send`. -/
theorem startSend (h : s.Accounted unread) {asset : HakoAsset D} (hasset : PduWriter asset unread)
    (cid : CanChannelId) (data : CanData) :
    (s.startSend asset unread cid data).Accounted unread := by
  unfold HakoLink.startSend hakoTxStartSend
  split
  · exact h
  · rename_i topic hfound
    split_ifs
    · rcases hwrite : asset.writePdu s.pdu topic.pduChannel (hakoMessage cid data) with ⟨_ | _, d⟩
      · refine h.of_unread ?_
        exact (hasset.notifyWrite d).trans (hasset.writeFailed _ _ _ d hwrite)
      · refine h.written cid data topic.pduChannel ?_
        exact (hasset.notifyWrite d).trans (hasset.write _ _ _ d hwrite)
    · exact h

/-- `rx.is_arrived`. -/
theorem isArrived (h : s.Accounted unread) {asset : HakoAsset D}
    (hasset : PduReader asset unread) (cid : CanChannelId) (label : BitVec 16) :
    (s.isArrived asset cid label).Accounted unread := by
  have hstep := readStep_hakoRxIsArrived hasset label cid s.subscriber s.pdu
  have htopic : (hakoRxIsArrived asset label cid s.subscriber s.pdu).2.2.1.subTopic =
      s.subscriber.subTopic := by
    unfold hakoRxIsArrived
    split_ifs
    · rfl
    · rfl
    · rfl
  unfold HakoLink.isArrived
  generalize hakoRxIsArrived asset label cid s.subscriber s.pdu = result at hstep htopic
  obtain ⟨arrived, new, bus, d⟩ := result
  obtain ⟨hput, hcid, hrouted, hunread⟩ := hstep
  have hsame (ch : Int) : readsOf ch (s.reads ++ new) ++ (unread d ch).toList =
      readsOf ch s.reads ++ (unread s.pdu ch).toList := by
    rw [← hunread ch]
    unfold readsOf
    rw [List.filter_append, List.map_append, List.append_assoc]
  refine ⟨hput.ok h.ok, fun c => ?_, fun read hmem => ?_, fun ch => ?_, fun ch => ?_⟩
  · have hsplit : (((s.reads ++ new).filter fun read => read.cid = c).filter
        HakoRead.taken).map (fun read => hakoFrame 0 read.msg) =
          (s.received c ++ s.subscriber.rx.waiting c).map CanData.unlabelled ++
            ((new.filter fun read => read.cid = c).filter HakoRead.taken).map
              fun read => hakoFrame 0 read.msg := by
      rw [List.filter_append, List.filter_append, List.map_append, h.channel c]
    dsimp only
    rw [hsplit]
    by_cases hc : c = cid
    · subst hc
      have hall : (new.filter fun read => read.cid = c) = new :=
        List.filter_eq_self.mpr fun read hmem => decide_eq_true (hcid read hmem)
      rw [hall, hput.waiting h.ok, ← List.append_assoc, List.map_append, unlabelled_takenFrames]
    · have hnone : (new.filter fun read => read.cid = c) = [] := by
        refine List.filter_eq_nil_iff.mpr fun read hmem => ?_
        rw [hcid read hmem, decide_eq_true_eq]
        exact Ne.symm hc
      rw [hnone, hput.other c hc]
      simp
  · dsimp only at hmem ⊢
    rw [htopic]
    obtain hmem | hmem := List.mem_append.mp hmem
    · exact h.routed read hmem
    · exact hrouted read hmem
  · dsimp only
    rw [hsame ch]
    exact h.order ch
  · have hlength := congrArg List.length (hsame ch)
    rw [List.length_append, List.length_append] at hlength
    dsimp only
    rw [hlength]
    exact h.count ch

/-- `rx.receive`. -/
theorem receive (h : s.Accounted unread) (cid : CanChannelId) :
    (s.receive cid).Accounted unread := by
  obtain ⟨hok, hother, hsame⟩ := CanBusRx.get_cases h.ok cid
  refine ⟨hok, fun c => ?_, h.routed, h.order, h.count⟩
  have hold := h.channel c
  unfold HakoLink.receive hakoRxReceive
  dsimp only
  rw [← hold]
  by_cases hc : c = cid
  · subst hc
    rw [Function.update_self, hsame, List.append_assoc]
  · rw [Function.update_of_ne hc, hother c hc]

end HakoLink.Accounted

theorem accounted_invariant {publisher subscriber : HakoAsset D}
    {unread : D → Int → Option HakoCan} (hwriter : PduWriter publisher unread)
    (hreader : PduReader subscriber unread) :
    (hakoLink publisher subscriber unread).Invariant (HakoLink.Accounted unread) where
  init _ h := .fresh h
  step e s s' h hstep := by
    cases hstep with
    | startSend _ cid data => exact h.startSend hwriter cid data
    | isArrived _ cid label => exact h.isArrived hreader cid label
    | receive _ cid => exact h.receive cid
    | simulation _ d hd => exact h.of_unread hd

/-- In every run, and apart from labels: a channel gives the frames that its
ring took from PDUs that are subscribed for it, in order.  A PDU gives frames
that were written to it, each at most once and in order: each was read, or
replaced before it was read, or is the one that a dirty PDU still holds, and none
is missing but that one exactly when no frame was replaced. -/
theorem hako_frames_delivered {publisher subscriber : HakoAsset D}
    {unread : D → Int → Option HakoCan} (hwriter : PduWriter publisher unread)
    (hreader : PduReader subscriber unread) {s : HakoLink D}
    (h : (hakoLink publisher subscriber unread).Reachable s) :
    (∀ cid,
      (s.received cid ++ s.subscriber.rx.waiting cid).map CanData.unlabelled =
        ((s.reads.filter fun read => read.cid = cid).filter HakoRead.taken).map
          fun read => hakoFrame 0 read.msg) ∧
      (∀ read ∈ s.reads, read.Routed s.subscriber.subTopic) ∧
      ∀ ch, ((readsOf ch s.reads).map (hakoFrame 0)).Sublist
          ((s.sent ch).map CanData.unlabelled) ∧
        (readsOf ch s.reads).length + (subscriber.isPduDirty s.pdu ch).toNat +
          s.overwritten ch = (s.sent ch).length ∧
        ((readsOf ch s.reads ++ (unread s.pdu ch).toList).map (hakoFrame 0) =
          (s.sent ch).map CanData.unlabelled ↔ s.overwritten ch = 0) := by
  have hacc := (accounted_invariant hwriter hreader).of_reachable h
  refine ⟨hacc.channel, hacc.routed, fun ch => ?_⟩
  have horder := hacc.order ch
  have hcount := hacc.count ch
  have hlength : ((readsOf ch s.reads ++ (unread s.pdu ch).toList).map (hakoFrame 0)).length +
      s.overwritten ch = ((s.sent ch).map CanData.unlabelled).length := by
    simp only [List.length_map, List.length_append]
    exact hcount
  refine ⟨?_, ?_, fun heq => ?_, fun hzero => ?_⟩
  · rw [List.map_append] at horder
    exact (List.sublist_append_left _ _).trans horder
  · have hheld : (subscriber.isPduDirty s.pdu ch).toNat = (unread s.pdu ch).toList.length := by
      rw [hreader.dirty]
      cases unread s.pdu ch with
      | none => rfl
      | some _ => rfl
    rw [hheld]
    exact hcount
  · rw [heq] at hlength
    omega
  · rw [hzero, Nat.add_zero] at hlength
    exact horder.eq_of_length hlength

/-! ## PDUs in a table -/

/-- What a PDU holds, and whether it was written since it was read last. -/
structure PduContent where
  msg : HakoCan
  dirty : Bool

/-- PDUs that are always there and whose accesses never fail.  A read of a clean
PDU gives what the read before gave. -/
def pduTable : HakoAsset (Int → PduContent) where
  isPduCreated _ := true
  isSimulationMode _ := true
  isPduSyncMode _ := false
  isPduDirty d ch := (d ch).dirty
  readPdu d ch := (some (d ch).msg, Function.update d ch { d ch with dirty := false })
  writePdu d ch msg := (true, Function.update d ch ⟨msg, true⟩)
  notifyReadPduDone d := d
  notifyWritePduDone d := d

def tableUnread (d : Int → PduContent) (ch : Int) : Option HakoCan :=
  if (d ch).dirty then some (d ch).msg else none

theorem tableUnread_update (d : Int → PduContent) (ch : Int) (content : PduContent) :
    tableUnread (Function.update d ch content) =
      Function.update (tableUnread d) ch (if content.dirty then some content.msg else none) := by
  funext c
  unfold tableUnread
  by_cases hc : c = ch
  · subst hc
    simp only [Function.update_self]
  · simp only [Function.update_of_ne hc]

theorem pduReader_pduTable : PduReader pduTable tableUnread where
  dirty d ch := by
    unfold tableUnread
    rw [show pduTable.isPduDirty d ch = (d ch).dirty from rfl]
    cases (d ch).dirty with
    | false => rfl
    | true => rfl
  read d ch msg d' hdirty h := by
    cases h
    refine ⟨if_pos hdirty, ?_⟩
    rw [tableUnread_update]
    rfl
  readFailed d ch d' h := by cases h
  notifyRead _ := rfl
  notifyWrite _ := rfl

theorem pduWriter_pduTable : PduWriter pduTable tableUnread where
  write d ch msg d' h := by
    cases h
    rw [tableUnread_update]
    rfl
  writeFailed d ch msg d' h := by cases h
  notifyWrite _ := rfl

/-- Channel 0 of one controller is linked to channel 1 of the other one by PDU
channel 7, for frames of two bytes. -/
def channelLink : HakoLink (Int → PduContent) where
  pdu _ := ⟨hakoMessage 0 zeroCanData, false⟩
  publisher :=
    { rx := CanBusRx.init 256 fun _ _ => zeroCanData
      pubTopic := [{ pduChannel := 7, cid := 0, ide := 0, rtr := 0, dlc := 2, canid := 0x100 }]
      subTopic := [] }
  subscriber :=
    { rx := CanBusRx.init 256 fun _ _ => zeroCanData
      pubTopic := []
      subTopic := [{ pduChannel := 7, cid := 1, ide := 0, rtr := 0, dlc := 2, canid := 0x100 }] }
  sent _ := []
  overwritten _ := 0
  reads := []
  received _ := []

theorem fresh_channelLink : channelLink.Fresh tableUnread :=
  ⟨⟨256, fun _ _ => zeroCanData, rfl⟩, fun _ => rfl, fun _ => rfl, fun _ => rfl, rfl, fun _ => rfl⟩

def twoByteFrame (byte : BitVec 8) : CanData :=
  { zeroCanData with dlc := 2, id := 0x100, label := 5, data := fun _ => byte }

/-- The second frame replaces the first one, and the subscriber looks twice. -/
def lookedRun : HakoLink (Int → PduContent) :=
  let replaced := (channelLink.startSend pduTable tableUnread 0 (twoByteFrame 1)).startSend
    pduTable tableUnread 0 (twoByteFrame 2)
  (replaced.isArrived pduTable 1 9).isArrived pduTable 1 9

/-- A third frame follows, and both are received. -/
def linkedRun : HakoLink (Int → PduContent) :=
  let sent := lookedRun.startSend pduTable tableUnread 0 (twoByteFrame 3)
  ((sent.isArrived pduTable 1 9).receive 1).receive 1

theorem reachable_lookedRun :
    (hakoLink pduTable pduTable tableUnread).Reachable lookedRun :=
  .step (.step (.step (.step (.init fresh_channelLink) (.startSend _ 0 (twoByteFrame 1)))
    (.startSend _ 0 (twoByteFrame 2))) (.isArrived _ 1 9)) (.isArrived _ 1 9)

theorem reachable_linkedRun :
    (hakoLink pduTable pduTable tableUnread).Reachable linkedRun :=
  .step (.step (.step (.step reachable_lookedRun (.startSend _ 0 (twoByteFrame 3)))
    (.isArrived _ 1 9)) (.receive _ 1)) (.receive _ 1)

theorem hako_frames_delivered_channel :
    ((linkedRun.received 1).map (fun frame => frame.data 0) = [2, 3] ∧
        linkedRun.overwritten 7 = 1) ∧
      (linkedRun.received 1 ++ linkedRun.subscriber.rx.waiting 1).map CanData.unlabelled =
        ((linkedRun.reads.filter fun read => read.cid = 1).filter HakoRead.taken).map
          fun read => hakoFrame 0 read.msg :=
  ⟨by decide +kernel, (hako_frames_delivered pduWriter_pduTable pduReader_pduTable
    reachable_linkedRun).1 1⟩

end Athrill
