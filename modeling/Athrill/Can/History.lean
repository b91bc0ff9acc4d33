import Athrill.Can.BufferOrder
import Athrill.Can.Entries
import Athrill.Can.Reports

/-!
# The history that software reads

A message that the bus takes leaves an entry in the history of its channel.  The
entry was made when the message was selected, from the label of the message
before it, and its number runs into the label when the register shows it.

* `SentMessage`, `EntryShows`: a message, and a register value that shows it.
* `OwnEntry`, `entryShows_iff`: the messages whose entries show them.
* `Starts`, `clock_finished`: what each channel sends in a clock.
* `HistoryLog`, `historyWatch`: the messages sent and the entries removed.
* `history_exact`: the runs in which software reads them all, in order.
* `next_read_shows`: what it reads next in such a run.
-/

namespace Athrill

open CanController Ring

/-! ## Entries and messages -/

/-- A message that was given to the bus: where it came from, and its label. -/
structure SentMessage where
  source : CanTxSource
  bufidx : CanTxBufferIdx
  label : BitVec 16

/-- `BT` for a source. -/
def CanTxSource.buftype : CanTxSource → Nat
  | buffer => 1
  | fifo => 2
  | queue => 4

/-- The number of the source in its channel, from `BN`; the FIFOs are numbered
through all channels. -/
def sourceNumber (cid : CanChannelId) (source : CanTxSource) (bn : Nat) : Nat :=
  match source with
  | .fifo => (bn + (16 - 3 * cid.val)) % 16
  | _ => bn

/-- The fields of the register give the label, the kind and the number of the
source of a message. -/
structure EntryShows (cid : CanChannelId) (word : BitVec 32) (sent : SentMessage) : Prop where
  tid : thlTid word = sent.label.toNat
  bt : thlBt word = sent.source.buftype
  bn : sourceNumber cid sent.source (thlBn word) = sent.bufidx.val

/-- What the number of a source adds to the label. -/
def labelCarry (cid : CanChannelId) (source : CanTxSource) : Nat :=
  match source with
  | .fifo => 0
  | _ => cid.val / 2

/-- The label of the message before, with what the number adds to it, is that of
the message, and the message does not come from a FIFO that was chosen by its
buffer number. -/
def OwnEntry (s : CanController) (cid : CanChannelId) (source : CanTxSource)
    (message : CanData) : Prop :=
  ((s.txreq cid).txdata.label.toNat % 256) ||| labelCarry cid source = message.label.toNat ∧
    (source = .fifo → s.modeGlobal.config.enableTxBufnoFirst = false)

namespace CanController

variable {s t u : CanController} {bus : CanBus} {cid : CanChannelId} {outputs : List CanOutput}

/-- As long as the loop over the FIFOs stays with a buffer it keeps its number. -/
theorem prioBufnoFifos_buffer {start : Nat}
    (h : (s.prioBufnoFifos cid start).2 = true) : (s.prioBufnoFifos cid start).1 = start := by
  have hall : ∀ (l : List CanTxrxFifoIdx) (acc : Nat × Bool), (acc.2 = true → acc.1 = start) →
      (l.foldl (loopFifo s cid) acc).2 = true → (l.foldl (loopFifo s cid) acc).1 = start := by
    intro l
    induction l with
    | nil => exact fun _ hacc => hacc
    | cons k l ih =>
      intro acc hacc
      refine ih _ fun hbuffer => ?_
      unfold loopFifo at hbuffer ⊢
      dsimp only at hbuffer ⊢
      split_ifs at hbuffer ⊢
      · exact hacc hbuffer
      · exact hacc hbuffer
      · exact hacc hbuffer
  exact hall (List.finRange 3) (start, true) (fun _ => rfl) h

/-- The number that a selection puts into the history. -/
theorem bufno_selection {choice : Selection} (h : s.selection cid = some choice) :
    (choice.source ≠ .fifo → choice.bufno = cid.val * 16 + choice.bufidx.val) ∧
      (choice.source = .fifo → choice.bufno =
        if s.modeGlobal.config.enableTxBufnoFirst then cid.val * 3 + 3
        else cid.val * 3 + choice.bufidx.val) := by
  unfold selection at h
  by_cases hprio : s.modeGlobal.config.enableTxBufnoFirst = true
  · rw [if_pos hprio] at h
    unfold canTxSelectBufferPrioBufno at h
    dsimp only at h
    split_ifs at h with hsome hbuffer
    · cases h
      refine ⟨fun _ => ?_, nofun⟩
      have hkept := prioBufnoFifos_buffer hbuffer
      cases hfirst : s.firstTxBuffer cid with
      | none =>
        rw [hfirst] at hsome hkept
        exact absurd hkept hsome
      | some bufno =>
        rw [hfirst] at hkept
        have hlt := bufno.isLt
        dsimp only at hkept ⊢
        rw [hkept]
        show cid.val * 16 + bufno.val = cid.val * 16 + (cid.val * 16 + bufno.val) % 16
        omega
    · cases h
      refine ⟨fun hne => absurd rfl hne, fun _ => ?_⟩
      rw [if_pos hprio]
  · rw [if_neg hprio] at h
    obtain ⟨best, _, heq⟩ := Option.map_eq_some_iff.mp h
    rw [← heq, if_neg hprio]
    cases best.source with
    | buffer => exact ⟨fun _ => rfl, nofun⟩
    | fifo => exact ⟨fun hne => absurd rfl hne, fun _ => rfl⟩
    | queue => exact ⟨fun _ => rfl, nofun⟩

/-- The kind of the source in the history. -/
theorem toNat_buftype_selection {choice : Selection} (h : s.selection cid = some choice) :
    choice.buftype.toNat = choice.source.buftype := by
  rcases buftype_selection h with ⟨htype, hsource⟩ | ⟨htype, hsource⟩ | ⟨htype, hsource⟩
  · rw [htype, hsource]
    rfl
  · rw [htype, hsource]
    rfl
  · rw [htype, hsource]
    rfl

/-- Only the index of a FIFO leads to a message. -/
theorem index_of_taken {source : CanTxSource} {bufidx : CanTxBufferIdx} {message : CanData}
    (h : s.taken cid source bufidx = some (.ok message)) (hfifo : source = .fifo) :
    bufidx.val < 3 := by
  rw [hfifo] at h
  unfold taken getTxdata at h
  by_contra hnot
  dsimp only at h
  rw [dif_neg hnot] at h
  cases h

/-- The number of a source has what it adds to the label above its field. -/
theorem bufno_div {choice : Selection} (hchoice : s.selection cid = some choice)
    (hindex : choice.source = .fifo → choice.bufidx.val < 3) :
    choice.bufno < 256 ∧ choice.bufno / 32 = labelCarry cid choice.source := by
  obtain ⟨hother, hfifo⟩ := bufno_selection hchoice
  have hcid := cid.isLt
  have hbufidx := choice.bufidx.isLt
  unfold canChannelNum at hcid
  unfold labelCarry
  cases hsource : choice.source with
  | fifo =>
    have hlt := hindex hsource
    have hbufno := hfifo hsource
    dsimp only
    split_ifs at hbufno
    · omega
    · omega
  | _ =>
    have hbufno := hother (by rw [hsource]; exact nofun)
    dsimp only
    omega

/-- The field leads back to the number, unless a FIFO was chosen by its buffer
number. -/
theorem sourceNumber_bufno {choice : Selection} (hchoice : s.selection cid = some choice)
    (hindex : choice.source = .fifo → choice.bufidx.val < 3) :
    sourceNumber cid choice.source (choice.bufno % 16) = choice.bufidx.val ↔
      (choice.source = .fifo → s.modeGlobal.config.enableTxBufnoFirst = false) := by
  obtain ⟨hother, hfifo⟩ := bufno_selection hchoice
  have hcid := cid.isLt
  have hbufidx := choice.bufidx.isLt
  unfold canChannelNum at hcid
  unfold sourceNumber
  cases hsource : choice.source with
  | fifo =>
    have hlt := hindex hsource
    have hbufno := hfifo hsource
    dsimp only
    cases hprio : s.modeGlobal.config.enableTxBufnoFirst with
    | true =>
      rw [hprio, if_pos rfl] at hbufno
      refine iff_of_false ?_ fun hfalse => nomatch hfalse rfl
      omega
    | false =>
      rw [hprio, if_neg nofun] at hbufno
      refine iff_of_true ?_ fun _ => rfl
      omega
  | _ =>
    have hbufno := hother (by rw [hsource]; exact nofun)
    refine iff_of_true ?_ nofun
    dsimp only
    omega

/-- The entry of a message shows it exactly if it is its own. -/
theorem entryShows_iff {choice : Selection} {message : CanData}
    (hchoice : s.selection cid = some choice)
    (htaken : s.taken cid choice.source choice.bufidx = some (.ok message)) :
    EntryShows cid (thlaccWord (selected choice (s.txreq cid)).history)
        { source := choice.source, bufidx := choice.bufidx, label := message.label } ↔
      OwnEntry s cid choice.source message := by
  have hindex := index_of_taken htaken
  obtain ⟨hbound, hcarry⟩ := bufno_div hchoice hindex
  have hnumber := sourceNumber_bufno hchoice hindex
  have hlabel : (selected choice (s.txreq cid)).history.label.toNat =
      (s.txreq cid).txdata.label.toNat % 256 := BitVec.toNat_setWidth ..
  have hbufno : (selected choice (s.txreq cid)).history.bufno.toNat = choice.bufno :=
    (BitVec.toNat_ofNat ..).trans (Nat.mod_eq_of_lt hbound)
  have hbuftype : (selected choice (s.txreq cid)).history.buftype.toNat = choice.source.buftype :=
    toNat_buftype_selection hchoice
  have hsmall : (selected choice (s.txreq cid)).history.buftype.toNat < 8 := by
    rw [hbuftype]
    cases choice.source <;> decide
  have htid := thlTid_word hsmall
  have hbn := thlBn_word hsmall
  have hbt := thlBt_word hsmall
  rw [hlabel, hbufno, hcarry] at htid
  rw [hbufno] at hbn
  rw [hbuftype] at hbt
  constructor
  · intro h
    have hshown := h.bn
    rw [hbn] at hshown
    exact ⟨htid.symm.trans h.tid, hnumber.mp hshown⟩
  · intro h
    refine ⟨htid.trans h.1, hbt, ?_⟩
    rw [hbn]
    exact hnumber.mpr h.2

/-! ## One channel in a clock -/

/-- The channel starts to send a message, and the bus takes it. -/
structure Starts (bus : CanBus) (s : CanController) (cid : CanChannelId) (choice : Selection)
    (message : CanData) : Prop where
  idle : IdleChannel s cid
  choice_eq : s.selection cid = some choice
  taken_eq : s.taken cid choice.source choice.bufidx = some (.ok message)
  isOk : (bus.startSend cid message).isOk = true

/-- What it starts is determined. -/
theorem Starts.unique {choice other : Selection} {message sent : CanData}
    (h : Starts bus s cid choice message) (h' : Starts bus s cid other sent) :
    choice = other ∧ message = sent := by
  have hchoice : choice = other := Option.some.inj (h.choice_eq.symm.trans h'.choice_eq)
  have htaken := h.taken_eq
  rw [hchoice, h'.taken_eq] at htaken
  exact ⟨hchoice, (Except.ok.inj (Option.some.inj htaken)).symm⟩

/-- The message of a call, if the channel sends it and the bus takes it. -/
def startOf (cid : CanChannelId) : CanOutput → Option CanData
  | .startSend c message result => if c = cid ∧ result.isOk = true then some message else none
  | _ => none

/-- The messages that the calls give to the bus for a channel. -/
def starts (cid : CanChannelId) (outputs : List CanOutput) : List CanData :=
  outputs.filterMap (startOf cid)

/-- What a channel has done in its turn: the entry of its message, or nothing. -/
def Finished (bus : CanBus) (s : CanController) (cid : CanChannelId) (t : CanController)
    (outputs : List CanOutput) : Prop :=
  (∃ choice message, Starts bus s cid choice message ∧ starts cid outputs = [message] ∧
      t.txHistory cid =
        (canTxhlPutThldata (selected choice (s.txreq cid)).history (s.txHistory cid)).2) ∨
    (∀ choice message, ¬ Starts bus s cid choice message) ∧ starts cid outputs = [] ∧
      t.txHistory cid = s.txHistory cid

/-- A channel before its turn. -/
structure Untouched (s t : CanController) (cid : CanChannelId) : Prop where
  channel : t.modeGlobal.channel cid = s.modeGlobal.channel cid
  offers : SameOffers cid s t
  txreq : t.txreq cid = s.txreq cid
  history : t.txHistory cid = s.txHistory cid

theorem Untouched.refl (cid : CanChannelId) (s : CanController) : Untouched s s cid :=
  ⟨rfl, .refl cid s, rfl, rfl⟩

theorem Untouched.trans (h : Untouched s t cid) (h' : Untouched t u cid) : Untouched s u cid :=
  ⟨h'.channel.trans h.channel, h.offers.trans h'.offers, h'.txreq.trans h.txreq,
    h'.history.trans h.history⟩

/-- It starts what it would have started before. -/
theorem Untouched.starts_iff (h : Untouched s t cid) (bus : CanBus) (choice : Selection)
    (message : CanData) : Starts bus t cid choice message ↔ Starts bus s cid choice message := by
  have hidle : IdleChannel t cid ↔ IdleChannel s cid := by
    unfold IdleChannel
    rw [h.channel]
  have hselection := selection_congr h.offers
  have htaken := taken_congr h.offers choice.source choice.bufidx
  constructor
  · intro hstarts
    exact ⟨hidle.mp hstarts.idle, hselection.symm.trans hstarts.choice_eq,
      htaken.symm.trans hstarts.taken_eq, hstarts.isOk⟩
  · intro hstarts
    exact ⟨hidle.mpr hstarts.idle, hselection.trans hstarts.choice_eq,
      htaken.trans hstarts.taken_eq, hstarts.isOk⟩

theorem starts_append (cid : CanChannelId) (before after : List CanOutput) :
    starts cid (before ++ after) = starts cid before ++ starts cid after :=
  List.filterMap_append

/-- The call that starts a transmission. -/
theorem starts_startSend (c cid : CanChannelId) (message : CanData) (result : CanStartSend) :
    starts c [.startSend cid message result] =
      if cid = c ∧ result.isOk = true then [message] else [] := by
  by_cases htaken : cid = c ∧ result.isOk = true
  · have hstart : startOf c (.startSend cid message result) = some message := if_pos htaken
    unfold starts
    rw [List.filterMap_cons_some hstart, if_pos htaken]
    rfl
  · have hstart : startOf c (.startSend cid message result) = none := if_neg htaken
    unfold starts
    rw [List.filterMap_cons_none hstart, if_neg htaken]
    rfl

theorem txHistory_getTxdata {source : CanTxSource} {bufidx : CanTxBufferIdx}
    {txdata : Except CanReturn CanData} (h : s.getTxdata cid source bufidx = some (txdata, t)) :
    t.txHistory = s.txHistory := by
  cases source with
  | fifo =>
    unfold getTxdata at h
    dsimp only at h
    split_ifs at h
    cases h
    rfl
  | _ =>
    cases h
    rfl

theorem untouched_modifyTxreq {c : CanChannelId} (hc : c ≠ cid) (f : CanTxReq → CanTxReq)
    (s : CanController) : Untouched s (s.modifyTxreq cid f) c :=
  ⟨rfl, sameOffers_modifyTxreq cid c f s, Function.update_of_ne hc .., rfl⟩

theorem untouched_modifyTxHistory {c : CanChannelId} (hc : c ≠ cid)
    (f : CanTxHistory → CanTxHistory) (s : CanController) :
    Untouched s (s.modifyTxHistory cid f) c :=
  ⟨rfl, ⟨rfl, fun _ => rfl, fun _ => rfl, fun _ => Or.inl rfl, rfl⟩, rfl,
    Function.update_of_ne hc ..⟩

/-- The selection and the start of a channel do not touch another one. -/
theorem untouched_started {c : CanChannelId} (hc : c ≠ cid) {phase : ChannelPhase}
    (hphase : s.modeGlobal.channel cid = phase.record cid) (choice : Selection) :
    Untouched s ((s.modifyTxreq cid (selected choice)).commEvent cid .commTxStart) c := by
  have hphase' : (s.modifyTxreq cid (selected choice)).modeGlobal.channel cid =
      phase.record cid := hphase
  exact (untouched_modifyTxreq hc (selected choice) s).trans
    ⟨channel_commEvent_of_ne hphase' hc _, sameOffers_commEvent hphase' .commTxStart c, rfl, rfl⟩

/-- Neither does taking its message. -/
theorem untouched_getTxdata {c : CanChannelId} (hc : c ≠ cid) {source : CanTxSource}
    {bufidx : CanTxBufferIdx} {txdata : Except CanReturn CanData}
    (h : s.getTxdata cid source bufidx = some (txdata, t)) : Untouched s t c := by
  have htaken := getTxdata_taken h
  refine ⟨?_, htaken.offers hc, congrFun htaken.txreq c, congrFun (txHistory_getTxdata h) c⟩
  rw [htaken.device]

/-- Sending the message of a selection that `u` has noted. -/
theorem canTxSend_finished {choice : Selection} (hidle : IdleChannel s cid)
    (hchoice : s.selection cid = some choice) (hoffers : SameOffers cid s u)
    (hentry : (u.txreq cid).history = (selected choice (s.txreq cid)).history)
    (hhistory : u.txHistory = s.txHistory) (hothers : ∀ c, c ≠ cid → Untouched s u c)
    (h : canTxSend bus cid choice.source choice.bufidx u = some (t, outputs)) :
    Finished bus s cid t outputs ∧ ∀ c, c ≠ cid → Untouched s t c ∧ starts c outputs = [] := by
  obtain ⟨⟨txdata, mid⟩, hget, heq⟩ := Option.map_eq_some_iff.mp h
  have htaken : s.taken cid choice.source choice.bufidx = some txdata :=
    (taken_congr hoffers _ _).symm.trans (taken_of_getTxdata hget)
  have hmid := (txHistory_getTxdata hget).trans hhistory
  have hmidOthers : ∀ c, c ≠ cid → Untouched s mid c := fun c hc =>
    (hothers c hc).trans (untouched_getTxdata hc hget)
  have hsame : ∀ {other message}, Starts bus s cid other message → txdata = .ok message := by
    intro other message hstarts
    have hother : other = choice := Option.some.inj (hstarts.choice_eq.symm.trans hchoice)
    have hmessage := hstarts.taken_eq
    rw [hother, htaken] at hmessage
    exact Option.some.inj hmessage
  cases txdata with
  | error e =>
    cases heq
    refine ⟨Or.inr ⟨fun other message hstarts => ?_, rfl, congrFun hmid cid⟩,
      fun c hc => ⟨hmidOthers c hc, rfl⟩⟩
    cases hsame hstarts
  | ok message =>
    dsimp only at heq
    split_ifs at heq with hrefused
    · -- the bus does not take the message
      cases heq
      have hnot : ¬ (bus.startSend cid message).isOk = true := by
        rw [hrefused]
        exact nofun
      refine ⟨Or.inr ⟨fun other message' hstarts => ?_, ?_, congrFun hmid cid⟩,
        fun c hc => ⟨(hmidOthers c hc).trans (untouched_modifyTxreq hc _ mid), ?_⟩⟩
      · have hmessage : message = message' := Except.ok.inj (hsame hstarts)
        have hok := hstarts.isOk
        rw [← hmessage] at hok
        exact hnot hok
      · rw [starts_startSend, if_neg fun hboth => hnot hboth.2]
      · rw [starts_startSend, if_neg fun hboth => hnot hboth.2]
    · cases heq
      have hok : (bus.startSend cid message).isOk = true := by simpa using hrefused
      refine ⟨Or.inl ⟨choice, message, ⟨hidle, hchoice, htaken, hok⟩, ?_, ?_⟩, fun c hc => ⟨?_, ?_⟩⟩
      · rw [starts_startSend, if_pos ⟨rfl, hok⟩]
      · have hreq : ((mid.modifyTxreq cid fun req => { req with txdata := message }).txreq
            cid).history = (selected choice (s.txreq cid)).history := by
          rw [← hentry, ← (getTxdata_taken hget).txreq]
          show (Function.update mid.txreq cid _ cid).history = (mid.txreq cid).history
          rw [Function.update_self]
        rw [txHistory_modifyTxHistory_self, hreq]
        exact congrArg (fun history => (canTxhlPutThldata _ history).2) (congrFun hmid cid)
      · exact ((hmidOthers c hc).trans (untouched_modifyTxreq hc _ mid)).trans
          (untouched_modifyTxHistory hc _ _)
      · rw [starts_startSend, if_neg fun hboth => hc hboth.1.symm]

/-- The turn of a channel. -/
theorem canTxProcOne_finished {phase : ChannelPhase}
    (hphase : s.modeGlobal.channel cid = phase.record cid)
    (h : canTxProcOne bus cid s = some (t, outputs)) :
    Finished bus s cid t outputs ∧ ∀ c, c ≠ cid → Untouched s t c ∧ starts c outputs = [] := by
  unfold canTxProcOne at h
  split_ifs at h with hmode hcomm
  · cases h
    exact ⟨Or.inr ⟨fun _ _ hstarts => hmode hstarts.idle.1, rfl, rfl⟩,
      fun c _ => ⟨.refl c s, rfl⟩⟩
  · cases h
    exact ⟨Or.inr ⟨fun _ _ hstarts => hcomm hstarts.idle.2, rfl, rfl⟩,
      fun c _ => ⟨.refl c s, rfl⟩⟩
  · rw [not_not] at hmode hcomm
    have hidle : phase = .idle := by
      rw [hphase] at hmode hcomm
      exact (ChannelPhase.idle_iff cid phase).mp ⟨hmode, hcomm⟩
    cases hchoice : s.selection cid with
    | none =>
      rw [hchoice] at h
      cases h
      refine ⟨Or.inr ⟨fun choice _ hstarts => ?_, rfl, rfl⟩,
        fun c hc => ⟨untouched_modifyTxreq hc _ s, rfl⟩⟩
      rw [hstarts.choice_eq] at hchoice
      cases hchoice
    | some choice =>
      rw [hchoice] at h
      dsimp only at h
      have hphase' : (s.modifyTxreq cid (selected choice)).modeGlobal.channel cid =
          phase.record cid := hphase
      have hstarted : (((s.modifyTxreq cid (selected choice)).commEvent cid
          .commTxStart).modeGlobal.channel cid).commMode = .tx := by
        rw [channel_commEvent_self hphase', hidle]
        rfl
      rw [if_neg (not_not.mpr hstarted)] at h
      have hoffers := (sameOffers_modifyTxreq cid cid (selected choice) s).trans
        (sameOffers_commEvent hphase' .commTxStart cid)
      refine canTxSend_finished ⟨hmode, hcomm⟩ hchoice hoffers ?_ rfl
        (fun c hc => untouched_started hc hphase choice) h
      show (Function.update s.txreq cid _ cid).history = _
      rw [Function.update_self]

/-! ## A clock -/

/-- A loop over the channels, with those that it has visited. -/
theorem eachChannel_visited {P : List CanChannelId → CanController → List CanOutput → Prop}
    {f : CanChannelId → CanController → Option (CanController × List CanOutput)}
    (hstep : ∀ visited cid t before t' after, cid ∉ visited → P visited t before →
      f cid t = some (t', after) → P (visited ++ [cid]) t' (before ++ after))
    (hinit : P [] s []) (h : eachChannel f s = some (t, outputs)) :
    P (List.finRange canChannelNum) t outputs := by
  refine Pointwise.foldlM_visited (I := fun visited acc => P visited acc.1 acc.2) ?_
    (List.finRange canChannelNum) [] (List.nodup_finRange canChannelNum) hinit h
  intro visited acc cid acc' hfresh hacc hpass
  obtain ⟨result, hresult, heq⟩ := Option.map_eq_some_iff.mp hpass
  cases heq
  exact hstep visited cid acc.1 acc.2 result.1 result.2 hfresh hacc hresult

/-- The invariant of the loop: the channels visited have finished, the others
wait. -/
structure Transmitting (bus : CanBus) (s : CanController) (visited : List CanChannelId)
    (t : CanController) (outputs : List CanOutput) : Prop where
  modes : ∃ p, Represents p t.modeGlobal
  finished : ∀ cid ∈ visited, Finished bus s cid t outputs
  waiting : ∀ cid, cid ∉ visited → Untouched s t cid ∧ starts cid outputs = []

/-- The turn of a channel that has waited since `s`. -/
theorem Finished.of_untouched {before after : List CanOutput} (hwaiting : Untouched s t cid)
    (hnone : starts cid before = []) (h : Finished bus t cid u after) :
    Finished bus s cid u (before ++ after) := by
  have hstarts : starts cid (before ++ after) = starts cid after := by
    rw [starts_append, hnone, List.nil_append]
  unfold Finished at h ⊢
  rw [hstarts]
  rw [hwaiting.history, hwaiting.txreq] at h
  rcases h with ⟨choice, message, hstart, hrest⟩ | ⟨hnot, hrest⟩
  · exact Or.inl ⟨choice, message, (hwaiting.starts_iff bus choice message).mp hstart, hrest⟩
  · refine Or.inr ⟨fun choice message hstart => ?_, hrest⟩
    exact hnot choice message ((hwaiting.starts_iff bus choice message).mpr hstart)

/-- What a finished channel has done stays. -/
theorem Finished.kept {before after : List CanOutput} (h : Finished bus s cid t before)
    (hnone : starts cid after = []) (hhistory : u.txHistory cid = t.txHistory cid) :
    Finished bus s cid u (before ++ after) := by
  unfold Finished at h ⊢
  rw [starts_append, hnone, List.append_nil, hhistory]
  exact h

theorem transmitting_step {visited : List CanChannelId} {before after : List CanOutput}
    (hfresh : cid ∉ visited) (hbefore : Transmitting bus s visited t before)
    (hone : canTxProcOne bus cid t = some (u, after)) :
    Transmitting bus s (visited ++ [cid]) u (before ++ after) := by
  obtain ⟨p, hp⟩ := hbefore.modes
  obtain ⟨hfinished, hothers⟩ := canTxProcOne_finished (hp.channel cid) hone
  refine ⟨(canTxProcOne_clockStep hone).modes p hp, fun c hmem => ?_, fun c hnot => ?_⟩
  · rcases List.mem_append.mp hmem with hmem | hmem
    · have hc : c ≠ cid := by
        intro heq
        rw [heq] at hmem
        exact hfresh hmem
      obtain ⟨huntouched, hnone⟩ := hothers c hc
      exact (hbefore.finished c hmem).kept hnone huntouched.history
    · obtain ⟨hwaiting, hnone⟩ := hbefore.waiting cid hfresh
      rw [List.mem_singleton.mp hmem]
      exact hfinished.of_untouched hwaiting hnone
  · rw [List.mem_append, not_or, List.mem_singleton] at hnot
    obtain ⟨huntouched, hnone⟩ := hothers c hnot.2
    obtain ⟨hwaiting, hempty⟩ := hbefore.waiting c hnot.1
    refine ⟨hwaiting.trans huntouched, ?_⟩
    rw [starts_append, hempty, hnone]
    rfl

/-- Calls of other kinds start nothing. -/
theorem starts_eq_nil (h : ∀ message result, .startSend cid message result ∉ outputs) :
    starts cid outputs = [] := by
  refine List.filterMap_eq_nil_iff.mpr fun output hmem => ?_
  cases output with
  | startSend c message result =>
    refine if_neg fun hboth => ?_
    rw [hboth.1] at hmem
    exact h message result hmem
  | _ => rfl

/-- Every channel has its turn in a clock of the running controller, and none in
another clock. -/
theorem clock_finished (hreach : canController.Reachable s)
    (h : s.deviceSupplyClockCan bus = some (t, outputs)) (cid : CanChannelId) :
    if s.modeGlobal.mode = .run then Finished bus s cid t outputs
    else starts cid outputs = [] ∧ t.txHistory cid = s.txHistory cid := by
  obtain ⟨p, hp⟩ := modes_of_reachable hreach
  obtain ⟨s₁, s₂, received, sent, done, hrx, htx, hdone, heq⟩ := clock_cases h
  have hsame := sameTx_canRxProc hp (quiet_of_reachable hreach) hrx
  have hreceiving := eachChannel_clockStep (fun _ _ _ _ => canRxProcOne_clockStep) hrx
  have hcompleting := eachChannel_clockStep (fun _ _ _ _ => canTxDoneOne_clockStep) hdone
  have hreceived : ∀ c message result, .startSend c message result ∉ received := by
    intro c message result hmem
    obtain ⟨_, _, habsurd⟩ := canRxProc_outputs hrx _ hmem
    cases habsurd
  have hdones : ∀ c message result, .startSend c message result ∉ done := by
    intro c message result hmem
    obtain ⟨_, _, _, habsurd⟩ := (canTxDone_keeps hdone).1 _ hmem
    cases habsurd
  have hraised : ∀ c message result, .startSend c message result ∉ t.canIntrRun := by
    intro c message result hmem
    obtain ⟨_, habsurd⟩ := canIntrRun_outputs _ hmem
    cases habsurd
  have hwaiting : ∀ c, Untouched s s₁ c := fun c =>
    ⟨congrFun hsame.channel c, hsame.offers c, congrFun hsame.txreq c,
      hreceiving.history_kept (hreceived c)⟩
  have hdoneHistory := hcompleting.history_kept (hdones cid)
  rw [heq]
  unfold canTxProc whenRunning at htx
  by_cases hrun : s.modeGlobal.mode = .run
  · have hrun₁ : s₁.modeGlobal.mode = .run := hsame.mode.trans hrun
    rw [if_neg (not_not.mpr hrun₁)] at htx
    have hall := eachChannel_visited (P := Transmitting bus s₁)
      (fun _ _ _ _ _ _ hfresh hbefore hone => transmitting_step hfresh hbefore hone)
      ⟨hreceiving.modes p hp, nofun, fun c _ => ⟨.refl c s₁, rfl⟩⟩ htx
    rw [if_pos hrun]
    have hsent := (hall.finished cid (List.mem_finRange cid)).of_untouched (hwaiting cid)
      (starts_eq_nil (hreceived cid))
    exact (hsent.kept (starts_eq_nil (hdones cid)) hdoneHistory).kept
      (starts_eq_nil (hraised cid)) rfl
  · have hrun₁ : s₁.modeGlobal.mode ≠ .run := fun hmode => hrun (hsame.mode.symm.trans hmode)
    rw [if_pos hrun₁] at htx
    cases htx
    rw [if_neg hrun, starts_append, starts_append, starts_append,
      starts_eq_nil (hreceived cid), starts_eq_nil (hdones cid), starts_eq_nil (hraised cid)]
    exact ⟨rfl, hdoneHistory.trans (hwaiting cid).history⟩

/-! ## Software reads the histories -/

/-- The message of a call with the source that its channel has chosen. -/
def sentMessages (s : CanController) (cid : CanChannelId) (outputs : List CanOutput) :
    List SentMessage :=
  (starts cid outputs).flatMap fun message =>
    ((s.selection cid).map fun choice =>
      SentMessage.mk choice.source choice.bufidx message.label).toList

theorem sentMessages_of_none (h : starts cid outputs = []) : s.sentMessages cid outputs = [] := by
  unfold sentMessages
  rw [h]
  rfl

theorem sentMessages_of_one {choice : Selection} {message : CanData}
    (hchoice : s.selection cid = some choice) (h : starts cid outputs = [message]) :
    s.sentMessages cid outputs =
      [SentMessage.mk choice.source choice.bufidx message.label] := by
  unfold sentMessages
  rw [h, hchoice]
  rfl

end CanController

/-- For each channel, the messages that the bus has taken while the history was
open, and the entries that software has removed, as the register showed them. -/
structure HistoryLog where
  sent : CanChannelId → List SentMessage
  shown : CanChannelId → List (BitVec 32)

/-- The entries of a channel that a step removes. -/
def removedEntries (event : CanEvent) (s : CanController) (cid : CanChannelId) :
    List CanTxHistoryData :=
  match event with
  | .put size address data =>
    if Advances size address data s cid then (s.txHistory cid).oldest.toList else []
  | _ => []

/-- The log after a step. -/
def HistoryLog.after (event : CanEvent) (s : CanController) (outputs : List CanOutput)
    (log : HistoryLog) : HistoryLog where
  sent cid := log.sent cid ++ if (s.txHistory cid).Open then s.sentMessages cid outputs else []
  shown cid := log.shown cid ++ (removedEntries event s cid).map thlaccWord

/-- The controller beside the log. -/
def historyWatch : TransitionSystem (CanController × HistoryLog) CanEvent where
  init w := w = (initialCan, { sent := fun _ => [], shown := fun _ => [] })
  step event w w' := ∃ outputs, w.1.step event = some (w'.1, outputs) ∧
    w'.2 = w.2.after event w.1 outputs

/-- The entries of a channel that software has read, and those that it can still
read, show the messages sent, in their order. -/
def ChannelRight (cid : CanChannelId) (w : CanController × HistoryLog) : Prop :=
  List.Forall₂ (EntryShows cid)
    (w.2.shown cid ++ (w.1.txHistory cid).entries.map thlaccWord) (w.2.sent cid)

/-- The same for all channels. -/
def HistoryRight (w : CanController × HistoryLog) : Prop :=
  ∀ cid, ChannelRight cid w

/-- The condition on a step: a message that the bus takes while the history is
open has its own entry. -/
def SendsOwnEntries (event : CanEvent) (s : CanController) : Prop :=
  match event with
  | .clock bus => s.modeGlobal.mode = .run → ∀ cid choice message,
      Starts bus s cid choice message → (s.txHistory cid).Open →
        OwnEntry s cid choice.source message
  | _ => True

section Step

variable {s t : CanController} {cid : CanChannelId} {outputs : List CanOutput} {log : HistoryLog}

/-- One more pair at the end. -/
theorem forall₂_concat_iff {α β : Type} {R : α → β → Prop} {as : List α} {bs : List β} {a : α}
    {b : β} (h : List.Forall₂ R as bs) : List.Forall₂ R (as ++ [a]) (bs ++ [b]) ↔ R a b := by
  have hreverse : List.Forall₂ R as.reverse bs.reverse := List.forall₂_reverse_iff.mpr h
  rw [← List.forall₂_reverse_iff, List.reverse_concat, List.reverse_concat, List.forall₂_cons]
  exact and_iff_left hreverse

/-- A step that gives nothing to the bus and moves the entries into the log. -/
theorem channelRight_quiet {event : CanEvent} (hnone : starts cid outputs = [])
    (hentries : (s.txHistory cid).entries =
      removedEntries event s cid ++ (t.txHistory cid).entries)
    (h : ChannelRight cid (s, log)) : ChannelRight cid (t, log.after event s outputs) := by
  have hsent : (log.after event s outputs).sent cid = log.sent cid := by
    show (log.sent cid ++ if (s.txHistory cid).Open then s.sentMessages cid outputs else []) = _
    rw [sentMessages_of_none hnone, ite_self, List.append_nil]
  have hshown : (log.after event s outputs).shown cid ++
        (t.txHistory cid).entries.map thlaccWord =
      log.shown cid ++ (s.txHistory cid).entries.map thlaccWord := by
    show log.shown cid ++ (removedEntries event s cid).map thlaccWord ++ _ = _
    rw [hentries, List.map_append, List.append_assoc]
  unfold ChannelRight
  dsimp only
  rw [hsent, hshown]
  exact h

/-- The channel that starts a message. -/
theorem channelRight_starts {bus : CanBus} {choice : Selection} {message : CanData}
    (hformed : Ring.Formed canTxHistoryBufferNum (s.txHistory cid).fifoControl)
    (hstarts : Starts bus s cid choice message) (houtputs : starts cid outputs = [message])
    (hhistory : t.txHistory cid =
      (canTxhlPutThldata (selected choice (s.txreq cid)).history (s.txHistory cid)).2)
    (h : ChannelRight cid (s, log)) :
    ChannelRight cid (t, log.after (.clock bus) s outputs) ↔
      ((s.txHistory cid).Open → OwnEntry s cid choice.source message) := by
  have hsent : (log.after (.clock bus) s outputs).sent cid = log.sent cid ++
      if (s.txHistory cid).Open then
        [SentMessage.mk choice.source choice.bufidx message.label] else [] := by
    rw [← sentMessages_of_one hstarts.choice_eq houtputs]
    rfl
  have hshown : (log.after (.clock bus) s outputs).shown cid = log.shown cid :=
    List.append_nil _
  have hentries := CanTxHistory.entries_put hformed (selected choice (s.txreq cid)).history
  rw [← hhistory] at hentries
  have hbefore : List.Forall₂ (EntryShows cid)
      (log.shown cid ++ (s.txHistory cid).entries.map thlaccWord) (log.sent cid) := h
  unfold ChannelRight
  dsimp only
  rw [hsent, hshown, hentries]
  by_cases hopen : (s.txHistory cid).Open
  · rw [if_pos hopen, if_pos hopen, List.map_append, ← List.append_assoc, List.map_singleton,
      forall₂_concat_iff hbefore, entryShows_iff hstarts.choice_eq hstarts.taken_eq,
      forall_prop_of_true hopen]
  · rw [if_neg hopen, if_neg hopen, List.append_nil, List.append_nil]
    exact iff_of_true hbefore fun hyes => absurd hyes hopen

end Step

/-- One step keeps the histories right if and only if every message that it
sends has its own entry. -/
theorem historyRight_step {event : CanEvent} {w w' : CanController × HistoryLog}
    (hreach : canController.Reachable w.1) (h : HistoryRight w)
    (hstep : historyWatch.step event w w') :
    HistoryRight w' ↔ SendsOwnEntries event w.1 := by
  obtain ⟨s, log⟩ := w
  obtain ⟨t, log'⟩ := w'
  obtain ⟨outputs, hstep, hlog⟩ := hstep
  dsimp only at hreach hstep hlog
  rw [hlog]
  cases event with
  | put size address data =>
    obtain ⟨mid, hput, heq⟩ := Option.map_eq_some_iff.mp hstep
    cases heq
    refine iff_of_true (fun cid => ?_) trivial
    exact channelRight_quiet rfl (put_entries hput (historyFormed_of_reachable hreach cid)) (h cid)
  | get size address indeterminate =>
    obtain ⟨memory, hget⟩ := get_eq address indeterminate s
    obtain ⟨ht, houtputs⟩ := Prod.mk.inj (Option.some.inj hstep)
    rw [← ht, ← houtputs, hget]
    exact iff_of_true (fun cid => channelRight_quiet rfl rfl (h cid)) trivial
  | clock bus =>
    have hformed := historyFormed_of_reachable hreach
    have hclock := clock_finished hreach hstep
    by_cases hrun : s.modeGlobal.mode = .run
    · simp only [if_pos hrun] at hclock
      constructor
      · intro hright _ cid choice message hstarts
        rcases hclock cid with ⟨other, sent, hother, houtputs, hhistory⟩ | ⟨hnot, _⟩
        · have hright' := (channelRight_starts (hformed cid) hother houtputs hhistory (h cid)).mp
            (hright cid)
          obtain ⟨rfl, rfl⟩ := hstarts.unique hother
          exact hright'
        · exact absurd hstarts (hnot choice message)
      · intro hown cid
        rcases hclock cid with ⟨choice, message, hstarts, houtputs, hhistory⟩ |
          ⟨_, hnone, hhistory⟩
        · exact (channelRight_starts (hformed cid) hstarts houtputs hhistory (h cid)).mpr
            (hown hrun cid choice message hstarts)
        · refine channelRight_quiet hnone ?_ (h cid)
          rw [hhistory]
          rfl
    · simp only [if_neg hrun] at hclock
      refine iff_of_true (fun cid => ?_) fun hmode => absurd hmode hrun
      obtain ⟨hnone, hhistory⟩ := hclock cid
      refine channelRight_quiet hnone ?_ (h cid)
      rw [hhistory]
      rfl

/-- The controller of a watched run is reachable. -/
theorem historyWatch_invariant :
    historyWatch.Invariant fun w => canController.Reachable w.1 where
  init := by
    intro w hinit
    rw [show w = _ from hinit]
    exact .init rfl
  step := by
    intro event w w' hreach hstep
    obtain ⟨outputs, hstep, _⟩ := hstep
    exact .step hreach ⟨outputs, hstep⟩

/-- The entries that software reads from every history are, all along a run and
in their order, those of the messages that its channel has sent, if and only if
every message sent to an open history has its own entry. -/
theorem history_exact {past : List (CanEvent × CanController × HistoryLog)}
    {w : CanController × HistoryLog} (h : historyWatch.Trace past w) :
    (∀ e ∈ past, HistoryRight e.2) ∧ HistoryRight w ↔ ∀ e ∈ past, SendsOwnEntries e.1 e.2.1 :=
  TransitionSystem.Trace.always_iff_of_invariant historyWatch_invariant
    (fun w hinit => by
      rw [show w = _ from hinit]
      exact fun cid => .nil)
    (fun _ _ _ hreach hright hstep => historyRight_step hreach hright hstep) h

/-- What software reads next is the entry of the message after those that it has
read. -/
theorem next_read_shows {w : CanController × HistoryLog} (hreach : canController.Reachable w.1)
    (hright : HistoryRight w) {cid : CanChannelId} {thldata : CanTxHistoryData}
    (hoffered : (w.1.txHistory cid).oldest = some thldata) (indeterminate : BitVec 32) :
    ∃ message, (w.2.sent cid)[(w.2.shown cid).length]? = some message ∧
      EntryShows cid
        ((w.1.get (0x1800 + 4 * cid.val) indeterminate).word (0x1800 + 4 * cid.val)) message := by
  have hentries := CanTxHistory.entries_next (historyFormed_of_reachable hreach cid)
  rw [hoffered] at hentries
  have hpairs := hright cid
  unfold ChannelRight at hpairs
  rw [hentries, List.map_append] at hpairs
  have hrest := List.forall₂_drop (w.2.shown cid).length hpairs
  rw [List.drop_left] at hrest
  obtain ⟨message, later, hshows, _, hdrop⟩ := List.forall₂_cons_left_iff.mp hrest
  refine ⟨message, ?_, ?_⟩
  · rw [← Nat.add_zero (w.2.shown cid).length, ← List.getElem?_drop, hdrop]
    rfl
  · rw [word_get_thlacc hoffered]
    exact hshows

/-! ## Runs on fixed inputs -/

/-- Runs without a clock send nothing. -/
theorem exists_history {s : CanController}
    (h : (canController.guarded fun event _ => NoClock event).Reachable s) :
    ∃ past log, historyWatch.Trace past (s, log) ∧ ∀ e ∈ past, SendsOwnEntries e.1 e.2.1 := by
  have hrecord : ∃ log,
      (historyWatch.guarded fun event w => SendsOwnEntries event w.1).Reachable (s, log) := by
    refine h.exists_record (fun s hs => ⟨_, congrArg (fun s => (s, _)) hs⟩)
      fun event s s' log hstep => ?_
    obtain ⟨hnone, outputs, hstep⟩ := hstep
    refine ⟨_, ?_, outputs, hstep, rfl⟩
    cases event with
    | clock bus => exact hnone.elim
    | _ => trivial
  obtain ⟨log, hlog⟩ := hrecord
  obtain ⟨past, htrace⟩ := hlog.exists_trace
  exact ⟨past, log, htrace⟩

/-- Channel 0 in communication with its history, and a request for buffer 0 with
a label. -/
def labelledRequest (label : BitVec 32) : List CanEvent :=
  startChannel ++
    [.put .word 0x1004 (label <<< 16), .put .word 0x0400 0x1, .put .byte 0x0250 0x1]

/-- What it leads to: only channel 0 sends, for the first time, and the clock
does not fail. -/
def LabelledReady (label : BitVec 16) (s : CanController) : Prop :=
  (s.modeGlobal.mode = .run ∧ (s.modeGlobal.channel 0).mode = .comm ∧
    (s.modeGlobal.channel 0).commMode = .idle ∧ (s.txHistory 0).Open) ∧
      ((∀ cid, (s.modeGlobal.channel cid).mode = .comm → cid = 0) ∧
        ((s.selection 0).map fun choice => (choice.source, choice.bufidx)) = some (.buffer, 0) ∧
          (s.txBuffer 0 0).message.label = label ∧ (s.txreq 0).txdata.label = 0) ∧
        (s.deviceSupplyClockCan promptBus).isSome = true

instance (label : BitVec 16) (s : CanController) : Decidable (LabelledReady label s) :=
  inferInstanceAs (Decidable ((_ ∧ _ ∧ _ ∧ _) ∧ (_ ∧ _ ∧ _ ∧ _) ∧ _))

theorem LabelledReady.starts {label : BitVec 16} {s : CanController} (h : LabelledReady label s) :
    ∃ choice message, Starts promptBus s 0 choice message ∧ choice.source = .buffer ∧
      choice.bufidx = 0 ∧ message.label = label := by
  obtain ⟨⟨_, hmode, hcomm, _⟩, ⟨_, hselection, hlabel, _⟩, _⟩ := h
  obtain ⟨choice, hchoice, heq⟩ := Option.map_eq_some_iff.mp hselection
  obtain ⟨hsource, hbufidx⟩ := Prod.mk.inj heq
  refine ⟨choice, (s.txBuffer 0 0).message, ⟨⟨hmode, hcomm⟩, hchoice, ?_, rfl⟩, hsource, hbufidx,
    hlabel⟩
  rw [hsource, hbufidx]
  rfl

/-- The clock sends the message of buffer 0 and logs it. -/
theorem LabelledReady.step {label : BitVec 16} {s : CanController} (h : LabelledReady label s)
    (hreach : canController.Reachable s) (log : HistoryLog) :
    ∃ w', historyWatch.step (.clock promptBus) (s, log) w' ∧
      SentMessage.mk .buffer 0 label ∈ w'.2.sent 0 := by
  obtain ⟨choice, message, hstarts, hsource, hbufidx, hlabel⟩ := h.starts
  obtain ⟨⟨hrun, _, _, hopen⟩, _, hsome⟩ := h
  obtain ⟨⟨t, outputs⟩, hclock⟩ := Option.isSome_iff_exists.mp hsome
  refine ⟨(t, log.after (.clock promptBus) s outputs), ⟨outputs, hclock, rfl⟩, ?_⟩
  have hfinished := clock_finished hreach hclock 0
  rw [if_pos hrun] at hfinished
  rcases hfinished with ⟨other, sent, hother, houtputs, _⟩ | ⟨hnot, _⟩
  · obtain ⟨rfl, rfl⟩ := hstarts.unique hother
    refine List.mem_append_right _ ?_
    rw [if_pos hopen, sentMessages_of_one hstarts.choice_eq houtputs, hsource, hbufidx, hlabel]
    exact List.mem_singleton_self _
  · exact absurd hstarts (hnot choice message)

/-- A message with the label 0 is shown as it was sent. -/
theorem history_exact_one :
    ∃ past w, historyWatch.Trace past w ∧ SentMessage.mk .buffer 0 0 ∈ w.2.sent 0 ∧
      HistoryRight w := by
  have hview : (runWhile (fun event _ => NoClock event) (labelledRequest 0) initialCan).map
      (fun s => decide (LabelledReady 0 s)) = some true := by
    decide +kernel
  obtain ⟨s, hreach, hfacts⟩ := exists_guarded hview
  have hready : LabelledReady 0 s := of_decide_eq_true hfacts
  obtain ⟨past, log, htrace, hown⟩ := exists_history hreach
  obtain ⟨w', hstep, hmem⟩ := hready.step hreach.of_guarded log
  have htrace' : historyWatch.Trace ((.clock promptBus, s, log) :: past) w' := .step htrace hstep
  have hclock : SendsOwnEntries (.clock promptBus) s := by
    intro _ cid choice message hstarts _
    obtain ⟨first, sent, hfirst, hsource, _, hlabel⟩ := hready.starts
    obtain ⟨_, ⟨honly, _, _, hbefore⟩, _⟩ := hready
    have hcid : cid = 0 := honly cid hstarts.idle.1
    rw [hcid] at hstarts ⊢
    obtain ⟨rfl, rfl⟩ := hfirst.unique hstarts
    unfold OwnEntry
    rw [hsource, hlabel, hbefore]
    exact ⟨rfl, nofun⟩
  exact ⟨_, w', htrace', hmem,
    ((history_exact htrace').mpr (List.forall_mem_cons.mpr ⟨hclock, hown⟩)).2⟩

/-- The label 5 is not in the entry of its message. -/
theorem label_of_message_before :
    ¬ ∀ past w, historyWatch.Trace past w → HistoryRight w := by
  intro hall
  have hview : (runWhile (fun event _ => NoClock event) (labelledRequest 5) initialCan).map
      (fun s => decide (LabelledReady 5 s)) = some true := by
    decide +kernel
  obtain ⟨s, hreach, hfacts⟩ := exists_guarded hview
  have hready : LabelledReady 5 s := of_decide_eq_true hfacts
  obtain ⟨past, log, htrace, _⟩ := exists_history hreach
  obtain ⟨w', hstep, _⟩ := hready.step hreach.of_guarded log
  have hown := (historyRight_step hreach.of_guarded (hall past _ htrace) hstep).mp
    (hall _ w' (.step htrace hstep))
  obtain ⟨choice, message, hstarts, hsource, _, hlabel⟩ := hready.starts
  obtain ⟨⟨hmode, _, _, hopen⟩, ⟨_, _, _, hbefore⟩, _⟩ := hready
  have hentry := (hown hmode 0 choice message hstarts hopen).1
  rw [hsource, hlabel, hbefore] at hentry
  exact absurd hentry (by decide)

end Athrill
