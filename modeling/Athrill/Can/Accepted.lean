import Athrill.Can.History

/-!
# Only accepted messages are reported

In a clock a channel gives at most one message to the bus, and completes at most
one.  Its FIFOs lose an entry only to the message that it gives, its history
gets the entry of that message only, and its transmit interrupt comes with one
of the two or was due before.

* `Turned`, `turned_of_clock`: the message that a channel gives to the bus, and
  its transmit FIFOs.
* `fifoDone`, `canTxDone_fifo`: the FIFO whose message it completes.
* `txrxFifo_clock`: a transmit FIFO over a clock.
* `entry_clock`: the entry in the history.
* `canIntrTxRun_kept`: the transmit interrupt.
* `OnlyAccepted`, `accepted_exact`: the runs in which the bus takes what it is
  offered.
-/

namespace Athrill

namespace CanController

variable {s t u : CanController} {bus : CanBus} {cid : CanChannelId} {outputs : List CanOutput}

/-! ## Starts -/

/-- The idle channel has chosen a message. -/
structure Offers (s : CanController) (cid : CanChannelId) (choice : Selection)
    (message : CanData) : Prop where
  idle : IdleChannel s cid
  choice_eq : s.selection cid = some choice
  taken_eq : s.taken cid choice.source choice.bufidx = some (.ok message)

/-- It offers what it offered before. -/
theorem Offers.of_untouched {choice : Selection} {message : CanData} (h : Untouched s t cid)
    (hoffers : Offers t cid choice message) : Offers s cid choice message where
  idle := by
    have hidle := hoffers.idle
    unfold IdleChannel at hidle ⊢
    rw [h.channel] at hidle
    exact hidle
  choice_eq := (selection_congr h.offers).symm.trans hoffers.choice_eq
  taken_eq := (taken_congr h.offers _ _).symm.trans hoffers.taken_eq

/-- A FIFO after the message of a choice has been taken. -/
def fifoTaken (choice : Selection) (k : CanTxrxFifoIdx) (fifo : CanTxRxFifoBuffer) :
    CanTxRxFifoBuffer :=
  if choice.source = .fifo ∧ choice.bufidx = k.castLE txrxFifoNum_le then
    (canTxrxfifoGetTxdata fifo).2
  else fifo

/-- The turn of a channel: it gives one message to the bus, taken from the source
of its choice, or it gives none and its transmit FIFOs stay. -/
def Turned (bus : CanBus) (s : CanController) (cid : CanChannelId) (t : CanController)
    (outputs : List CanOutput) : Prop :=
  (∃ choice message, Offers s cid choice message ∧
      (∀ m r, .startSend cid m r ∈ outputs ↔ m = message ∧ r = bus.startSend cid message) ∧
      ∀ k, (s.txrxFifo cid k).config.mode = canTxrxFifoModeTx →
        t.txrxFifo cid k = fifoTaken choice k (s.txrxFifo cid k)) ∨
    (∀ m r, .startSend cid m r ∉ outputs) ∧
      ∀ k, (s.txrxFifo cid k).config.mode = canTxrxFifoModeTx →
        t.txrxFifo cid k = s.txrxFifo cid k

theorem fifoTaken_getTxdata {choice : Selection} {txdata : Except CanReturn CanData}
    (h : s.getTxdata cid choice.source choice.bufidx = some (txdata, t)) (k : CanTxrxFifoIdx) :
    t.txrxFifo cid k = fifoTaken choice k (s.txrxFifo cid k) := by
  unfold fifoTaken
  cases hsource : choice.source with
  | fifo =>
    rw [hsource] at h
    unfold getTxdata at h
    dsimp only at h
    split_ifs at h with hlt
    cases h
    show Function.update s.txrxFifo cid _ cid k = _
    rw [Function.update_self]
    by_cases hk : k = ⟨choice.bufidx.val, hlt⟩
    · have hindex : choice.bufidx = k.castLE txrxFifoNum_le := by
        rw [hk]
        rfl
      rw [if_pos ⟨rfl, hindex⟩, hk, Function.update_self]
    · have hindex : ¬ choice.bufidx = k.castLE txrxFifoNum_le := fun hindex =>
        hk (Fin.ext (congrArg Fin.val hindex).symm)
      rw [if_neg fun hboth => hindex hboth.2, Function.update_of_ne hk]
  | buffer =>
    rw [hsource] at h
    cases h
    rw [if_neg fun hboth => absurd hboth.1 (by decide)]
    rfl
  | queue =>
    rw [hsource] at h
    cases h
    rw [if_neg fun hboth => absurd hboth.1 (by decide)]

/-- Sending it does not touch the FIFOs again. -/
theorem fifoTaken_canTxSend {choice : Selection}
    (h : canTxSend bus cid choice.source choice.bufidx s = some (t, outputs))
    (k : CanTxrxFifoIdx) : t.txrxFifo cid k = fifoTaken choice k (s.txrxFifo cid k) := by
  obtain ⟨⟨txdata, mid⟩, hget, heq⟩ := Option.map_eq_some_iff.mp h
  rw [← fifoTaken_getTxdata hget k]
  cases txdata with
  | error e =>
    cases heq
    rfl
  | ok message =>
    dsimp only at heq
    split_ifs at heq
    · cases heq
      rfl
    · cases heq
      rfl

/-- Without a message, the FIFO of the choice stays as well. -/
theorem txrxFifo_getTxdata_error {choice : Selection} {e : CanReturn}
    (h : s.getTxdata cid choice.source choice.bufidx = some (.error e, t)) :
    t.txrxFifo cid = s.txrxFifo cid := by
  cases hsource : choice.source with
  | fifo =>
    rw [hsource] at h
    unfold getTxdata at h
    dsimp only at h
    split_ifs at h with hlt
    obtain ⟨herror, heq⟩ := Prod.mk.inj (Option.some.inj h)
    have hsame : (canTxrxfifoGetTxdata (s.txrxFifo cid ⟨choice.bufidx.val, hlt⟩)).2 =
        s.txrxFifo cid ⟨choice.bufidx.val, hlt⟩ := by
      unfold canTxrxfifoGetTxdata at herror ⊢
      split at herror
      · rfl
      · cases herror
    rw [← heq]
    show Function.update s.txrxFifo cid (Function.update (s.txrxFifo cid) _
      (canTxrxfifoGetTxdata _).2) cid = _
    rw [Function.update_self, hsame, Function.update_eq_self]
  | buffer =>
    rw [hsource] at h
    cases h
  | queue =>
    rw [hsource] at h
    rw [(Prod.mk.inj (Option.some.inj h)).2]

theorem canTxProcOne_turned {phase : ChannelPhase}
    (hphase : s.modeGlobal.channel cid = phase.record cid)
    (h : canTxProcOne bus cid s = some (t, outputs)) :
    Turned bus s cid t outputs ∧ ∀ c, c ≠ cid → ∀ m r, .startSend c m r ∉ outputs := by
  rcases canTxProcOne_cases hphase h with ⟨rfl, heq | ⟨_, heq⟩⟩ | ⟨choice, hidle, hchoice, hsend⟩
  · rw [heq]
    exact ⟨Or.inr ⟨nofun, fun _ _ => rfl⟩, nofun⟩
  · rw [heq]
    exact ⟨Or.inr ⟨nofun, fun _ _ => rfl⟩, nofun⟩
  · have hphase' : (s.modifyTxreq cid (selected choice)).modeGlobal.channel cid =
        phase.record cid := hphase
    have hoffers := (sameOffers_modifyTxreq cid cid (selected choice) s).trans
      (sameOffers_commEvent hphase' .commTxStart cid)
    have hfifo : ((s.modifyTxreq cid (selected choice)).commEvent cid .commTxStart).txrxFifo =
        s.txrxFifo := rfl
    rcases canTxSend_cases hsend with ⟨e, hget, rfl⟩ | ⟨message, mid, hget, rfl, hrest⟩
    · refine ⟨Or.inr ⟨nofun, fun k _ => ?_⟩, nofun⟩
      rw [txrxFifo_getTxdata_error hget, hfifo]
    · have hidleChannel : IdleChannel s cid := by
        rw [IdleChannel, hphase, hidle]
        exact ⟨rfl, rfl⟩
      have htaken := (taken_congr hoffers _ _).symm.trans (taken_of_getTxdata hget)
      refine ⟨Or.inl ⟨choice, message, ⟨hidleChannel, hchoice, htaken⟩, fun m r => ?_,
        fun k _ => ?_⟩, fun c hc m r hmem => ?_⟩
      · rw [List.mem_singleton]
        constructor
        · intro heq
          cases heq
          exact ⟨rfl, rfl⟩
        · rintro ⟨rfl, rfl⟩
          rfl
      · rw [fifoTaken_canTxSend hsend k, hfifo]
      · cases List.mem_singleton.mp hmem
        exact hc rfl

/-- The channels that have had their turn, and those that wait. -/
structure Turning (bus : CanBus) (s : CanController) (visited : List CanChannelId)
    (t : CanController) (outputs : List CanOutput) : Prop where
  modes : ∃ p, Represents p t.modeGlobal
  turned : ∀ cid ∈ visited, Turned bus s cid t outputs
  waiting : ∀ cid, cid ∉ visited → Untouched s t cid ∧ ∀ m r, .startSend cid m r ∉ outputs

/-- The turn of a channel that has waited since `s`. -/
theorem Turned.of_untouched {before after : List CanOutput} (hwaiting : Untouched s t cid)
    (hnone : ∀ m r, .startSend cid m r ∉ before) (h : Turned bus t cid u after) :
    Turned bus s cid u (before ++ after) := by
  have hmem (m : CanData) (r : CanStartSend) :
      .startSend cid m r ∈ before ++ after ↔ .startSend cid m r ∈ after :=
    List.mem_append.trans (or_iff_right (hnone m r))
  have hfifo {k : CanTxrxFifoIdx} (hmode : (s.txrxFifo cid k).config.mode = canTxrxFifoModeTx) :
      t.txrxFifo cid k = s.txrxFifo cid k := hwaiting.offers.txFifo hmode
  rcases h with ⟨choice, message, hoffers, hstart, hfifos⟩ | ⟨hstart, hfifos⟩
  · refine Or.inl ⟨choice, message, hoffers.of_untouched hwaiting,
      fun m r => (hmem m r).trans (hstart m r), fun k hmode => ?_⟩
    rw [hfifos k (by rw [hfifo hmode, hmode]), hfifo hmode]
  · refine Or.inr ⟨fun m r h => hstart m r ((hmem m r).mp h), fun k hmode => ?_⟩
    rw [hfifos k (by rw [hfifo hmode, hmode]), hfifo hmode]

/-- What a channel has done in its turn stays. -/
theorem Turned.kept {before after : List CanOutput} (h : Turned bus s cid t before)
    (hnone : ∀ m r, .startSend cid m r ∉ after)
    (hfifo : ∀ k, (s.txrxFifo cid k).config.mode = canTxrxFifoModeTx →
      (t.txrxFifo cid k).config.mode = canTxrxFifoModeTx → u.txrxFifo cid k = t.txrxFifo cid k) :
    Turned bus s cid u (before ++ after) := by
  have hmem (m : CanData) (r : CanStartSend) :
      .startSend cid m r ∈ before ++ after ↔ .startSend cid m r ∈ before :=
    List.mem_append.trans (or_iff_left (hnone m r))
  have hconfig (choice : Selection) (k : CanTxrxFifoIdx) (fifo : CanTxRxFifoBuffer) :
      (fifoTaken choice k fifo).config = fifo.config := by
    unfold fifoTaken canTxrxfifoGetTxdata
    split_ifs
    · split <;> rfl
    · rfl
  rcases h with ⟨choice, message, hoffers, hstart, hfifos⟩ | ⟨hstart, hfifos⟩
  · refine Or.inl ⟨choice, message, hoffers, fun m r => (hmem m r).trans (hstart m r),
      fun k hmode => ?_⟩
    have htaken := hfifos k hmode
    rw [hfifo k hmode (by rw [htaken, hconfig, hmode]), htaken]
  · refine Or.inr ⟨fun m r h => hstart m r ((hmem m r).mp h), fun k hmode => ?_⟩
    have hsame := hfifos k hmode
    rw [hfifo k hmode (by rw [hsame, hmode]), hsame]

theorem turning_step {visited : List CanChannelId} {before after : List CanOutput}
    (hfresh : cid ∉ visited) (hbefore : Turning bus s visited t before)
    (hone : canTxProcOne bus cid t = some (u, after)) :
    Turning bus s (visited ++ [cid]) u (before ++ after) := by
  obtain ⟨p, hp⟩ := hbefore.modes
  obtain ⟨hturned, hnone⟩ := canTxProcOne_turned (hp.channel cid) hone
  obtain ⟨_, hothers⟩ := canTxProcOne_finished (hp.channel cid) hone
  refine ⟨(canTxProcOne_clockStep hone).modes p hp, fun c hmem => ?_, fun c hnot => ?_⟩
  · rcases List.mem_append.mp hmem with hmem | hmem
    · have hc : c ≠ cid := by
        intro heq
        rw [heq] at hmem
        exact hfresh hmem
      exact (hbefore.turned c hmem).kept (hnone c hc) fun k _ hmode =>
        (hothers c hc).1.offers.txFifo hmode
    · obtain ⟨hwaiting, hempty⟩ := hbefore.waiting cid hfresh
      rw [List.mem_singleton.mp hmem]
      exact hturned.of_untouched hwaiting hempty
  · rw [List.mem_append, not_or, List.mem_singleton] at hnot
    obtain ⟨hwaiting, hempty⟩ := hbefore.waiting c hnot.1
    refine ⟨hwaiting.trans (hothers c hnot.2).1, fun m r hmem => ?_⟩
    rcases List.mem_append.mp hmem with hmem | hmem
    · exact hempty m r hmem
    · exact hnone c hnot.2 m r hmem

/-! ## Completions -/

/-- A FIFO after the completions of a clock. -/
def fifoDone (outputs : List CanOutput) (cid : CanChannelId) (k : CanTxrxFifoIdx)
    (fifo : CanTxRxFifoBuffer) : CanTxRxFifoBuffer :=
  if .txDone cid .fifo (k.castLE txrxFifoNum_le) ∈ outputs then canTxrxfifoNotifyTxdone fifo
  else fifo

theorem fifoDone_congr {outputs' : List CanOutput} {k : CanTxrxFifoIdx}
    (h : .txDone cid .fifo (k.castLE txrxFifoNum_le) ∈ outputs' ↔
      .txDone cid .fifo (k.castLE txrxFifoNum_le) ∈ outputs) (fifo : CanTxRxFifoBuffer) :
    fifoDone outputs' cid k fifo = fifoDone outputs cid k fifo := by
  unfold fifoDone
  simp only [h]

theorem txrxFifo_notifyTxdone {source : CanTxSource} {bufidx : CanTxBufferIdx}
    (h : s.notifyTxdone cid source bufidx = some t) :
    (∀ c, c ≠ cid → t.txrxFifo c = s.txrxFifo c) ∧
      ∀ k, t.txrxFifo cid k = fifoDone [.txDone cid source bufidx] cid k (s.txrxFifo cid k) := by
  have hmem (k : CanTxrxFifoIdx) :
      (.txDone cid .fifo (k.castLE txrxFifoNum_le) : CanOutput) ∈
          [.txDone cid source bufidx] ↔
        source = .fifo ∧ bufidx = k.castLE txrxFifoNum_le := by
    rw [List.mem_singleton]
    constructor
    · intro heq
      cases heq
      exact ⟨rfl, rfl⟩
    · rintro ⟨rfl, rfl⟩
      rfl
  unfold fifoDone
  simp only [hmem]
  cases source with
  | fifo =>
    unfold notifyTxdone at h
    dsimp only at h
    split_ifs at h with hlt
    cases h
    refine ⟨fun c hc => Function.update_of_ne hc .., fun k => ?_⟩
    show Function.update s.txrxFifo cid _ cid k = _
    rw [Function.update_self]
    by_cases hk : k = ⟨bufidx.val, hlt⟩
    · have hindex : bufidx = k.castLE txrxFifoNum_le := by
        rw [hk]
        rfl
      rw [if_pos ⟨rfl, hindex⟩, hk, Function.update_self]
    · have hindex : ¬ bufidx = k.castLE txrxFifoNum_le := fun hindex =>
        hk (Fin.ext (congrArg Fin.val hindex).symm)
      rw [if_neg fun hboth => hindex hboth.2, Function.update_of_ne hk]
  | buffer =>
    cases h
    refine ⟨fun _ _ => rfl, fun k => ?_⟩
    rw [if_neg fun hboth => absurd hboth.1 (by decide)]
    rfl
  | queue =>
    cases h
    refine ⟨fun _ _ => rfl, fun k => ?_⟩
    rw [if_neg fun hboth => absurd hboth.1 (by decide)]
    rfl

theorem canTxDoneOne_fifo (h : canTxDoneOne bus cid s = some (t, outputs)) :
    (∀ c, c ≠ cid → t.txrxFifo c = s.txrxFifo c ∧ ∀ source bufidx,
        .txDone c source bufidx ∉ outputs) ∧
      ∀ k, t.txrxFifo cid k = fifoDone outputs cid k (s.txrxFifo cid k) := by
  have hnone : (∀ c, c ≠ cid → s.txrxFifo c = s.txrxFifo c ∧ ∀ source bufidx,
      .txDone c source bufidx ∉ ([] : List CanOutput)) ∧
      ∀ k, s.txrxFifo cid k = fifoDone [] cid k (s.txrxFifo cid k) :=
    ⟨fun _ _ => ⟨rfl, nofun⟩, fun _ => (if_neg List.not_mem_nil).symm⟩
  unfold canTxDoneOne at h
  split_ifs at h
  · cases h
    exact hnone
  · cases h
    exact hnone
  · cases h
    exact hnone
  · obtain ⟨source, _, h⟩ := Option.bind_eq_some_iff.mp h
    obtain ⟨mid, hmid, heq⟩ := Option.map_eq_some_iff.mp h
    cases heq
    obtain ⟨hothers, hself⟩ := txrxFifo_notifyTxdone hmid
    refine ⟨fun c hc => ⟨hothers c hc, fun source' bufidx hmem => ?_⟩, hself⟩
    cases List.mem_singleton.mp hmem
    exact hc rfl

/-- Each channel completes one message at most. -/
theorem canTxDone_fifo (h : CanController.canTxDone bus s = some (t, outputs))
    (cid : CanChannelId) (k : CanTxrxFifoIdx) :
    t.txrxFifo cid k = fifoDone outputs cid k (s.txrxFifo cid k) := by
  unfold CanController.canTxDone whenRunning at h
  split_ifs at h
  · cases h
    exact (if_neg List.not_mem_nil).symm
  · have hall := eachChannel_visited (s := s)
      (P := fun visited t outputs => ∀ c,
        (c ∈ visited → ∀ k, t.txrxFifo c k = fifoDone outputs c k (s.txrxFifo c k)) ∧
          (c ∉ visited → t.txrxFifo c = s.txrxFifo c ∧ ∀ source bufidx,
            .txDone c source bufidx ∉ outputs)) ?_ (fun c => ⟨nofun, fun _ => ⟨rfl, nofun⟩⟩) h
    · exact (hall cid).1 (List.mem_finRange cid) k
    · intro visited c t before u after hfresh hbefore hone d
      obtain ⟨hothers, hself⟩ := canTxDoneOne_fifo hone
      have hmem {source : CanTxSource} {bufidx : CanTxBufferIdx} (hd : d ≠ c) :
          .txDone d source bufidx ∈ before ++ after ↔ .txDone d source bufidx ∈ before :=
        List.mem_append.trans (or_iff_left ((hothers d hd).2 source bufidx))
      by_cases hd : d = c
      · subst hd
        obtain ⟨hsame, hnone⟩ := (hbefore d).2 hfresh
        refine ⟨fun _ k => ?_, fun hnot => absurd (List.mem_append_right _
          (List.mem_singleton_self d)) hnot⟩
        rw [hself k, hsame]
        exact fifoDone_congr (List.mem_append.trans (or_iff_right (hnone _ _))).symm _
      · have hvisited : d ∈ visited ++ [c] ↔ d ∈ visited := by
          rw [List.mem_append, List.mem_singleton]
          exact or_iff_left hd
        rw [hvisited]
        refine ⟨fun hmemd k => ?_, fun hnot => ?_⟩
        · rw [(hothers d hd).1, (hbefore d).1 hmemd k]
          exact fifoDone_congr (hmem hd).symm _
        · obtain ⟨hsame, hnone⟩ := (hbefore d).2 hnot
          exact ⟨(hothers d hd).1.trans hsame, fun source bufidx h =>
            hnone source bufidx ((hmem hd).mp h)⟩

/-! ## A clock -/

/-- The parts of a clock: what each channel gives to the bus before the
completions, and which calls come from which part. -/
theorem turned_of_clock (hreach : canController.Reachable s)
    (h : s.deviceSupplyClockCan bus = some (t, outputs)) (cid : CanChannelId) :
    ∃ mid, Turned bus s cid mid outputs ∧
      ∀ k, t.txrxFifo cid k = fifoDone outputs cid k (mid.txrxFifo cid k) := by
  obtain ⟨p, hp⟩ := modes_of_reachable hreach
  obtain ⟨s₁, s₂, received, sent, done, hrx, htx, hdone, heq⟩ := clock_cases h
  have hsame := sameTx_canRxProc hp (quiet_of_reachable hreach) hrx
  have hreceiving := eachChannel_clockStep (fun _ _ _ _ => canRxProcOne_clockStep) hrx
  obtain ⟨p₁, hp₁⟩ := hreceiving.modes p hp
  have hreceived : ∀ c message result, .startSend c message result ∉ received := by
    intro c message result hmem
    obtain ⟨_, _, habsurd⟩ := canRxProc_outputs hrx _ hmem
    cases habsurd
  have hdones : ∀ c message result, .startSend c message result ∉ done ++ t.canIntrRun := by
    intro c message result hmem
    rcases List.mem_append.mp hmem with hmem | hmem
    · obtain ⟨_, _, _, habsurd⟩ := (canTxDone_keeps hdone).1 _ hmem
      cases habsurd
    · obtain ⟨_, habsurd⟩ := canIntrRun_outputs _ hmem
      cases habsurd
  have hwaiting : Untouched s s₁ cid :=
    ⟨congrFun hsame.channel cid, hsame.offers cid, congrFun hsame.txreq cid,
      hreceiving.history_kept (hreceived cid)⟩
  have hsent : Turned bus s₁ cid s₂ sent := by
    unfold canTxProc whenRunning at htx
    split_ifs at htx with hrun
    · cases htx
      exact Or.inr ⟨nofun, fun _ _ => rfl⟩
    · have hall := eachChannel_visited (P := Turning bus s₁)
        (fun _ _ _ _ _ _ hfresh hbefore hone => turning_step hfresh hbefore hone)
        ⟨⟨p₁, hp₁⟩, nofun, fun c _ => ⟨.refl c s₁, nofun⟩⟩ htx
      exact hall.turned cid (List.mem_finRange cid)
  refine ⟨s₂, ?_, fun k => ?_⟩
  · rw [heq, List.append_assoc]
    exact (hsent.of_untouched hwaiting (hreceived cid)).kept (hdones cid) fun _ _ _ => rfl
  · rw [canTxDone_fifo hdone cid k, heq]
    refine fifoDone_congr ?_ _
    have hsentDone : .txDone cid .fifo (k.castLE txrxFifoNum_le) ∉ sent := by
      intro hmem
      obtain ⟨_, _, habsurd⟩ := canTxProc_outputs ⟨p₁, hp₁⟩ htx _ hmem
      cases habsurd
    have hreceivedDone : .txDone cid .fifo (k.castLE txrxFifoNum_le) ∉ received := by
      intro hmem
      obtain ⟨_, _, habsurd⟩ := canRxProc_outputs hrx _ hmem
      cases habsurd
    have hraised : .txDone cid .fifo (k.castLE txrxFifoNum_le) ∉ t.canIntrRun := by
      intro hmem
      obtain ⟨_, habsurd⟩ := canIntrRun_outputs _ hmem
      cases habsurd
    simp only [List.mem_append, hsentDone, hreceivedDone, hraised, false_or, or_false]

/-- The clock gives the message of this source to the bus. -/
def StartedFrom (s : CanController) (outputs : List CanOutput) (cid : CanChannelId)
    (source : CanTxSource) (bufidx : CanTxBufferIdx) : Prop :=
  (∃ message result, .startSend cid message result ∈ outputs) ∧
    ∃ choice, s.selection cid = some choice ∧ choice.source = source ∧ choice.bufidx = bufidx

/-- A transmit FIFO over a clock: its message is taken exactly if the clock gives
it to the bus. -/
theorem txrxFifo_clock (hreach : canController.Reachable s)
    (h : s.deviceSupplyClockCan bus = some (t, outputs)) {k : CanTxrxFifoIdx}
    (hmode : (s.txrxFifo cid k).config.mode = canTxrxFifoModeTx) :
    ∃ fifo, t.txrxFifo cid k = fifoDone outputs cid k fifo ∧
      (StartedFrom s outputs cid .fifo (k.castLE txrxFifoNum_le) →
        fifo = (canTxrxfifoGetTxdata (s.txrxFifo cid k)).2) ∧
      (¬ StartedFrom s outputs cid .fifo (k.castLE txrxFifoNum_le) →
        fifo = s.txrxFifo cid k) := by
  obtain ⟨mid, hturned, hdone⟩ := turned_of_clock hreach h cid
  refine ⟨mid.txrxFifo cid k, hdone k, ?_⟩
  rcases hturned with ⟨choice, message, hoffers, hstart, hfifos⟩ | ⟨hstart, hfifos⟩
  · rw [hfifos k hmode]
    unfold fifoTaken
    refine ⟨fun hstarted => ?_, fun hnot => ?_⟩
    · obtain ⟨_, other, hother, hsource, hbufidx⟩ := hstarted
      obtain rfl := Option.some.inj (hother.symm.trans hoffers.choice_eq)
      rw [if_pos ⟨hsource, hbufidx⟩]
    · rw [if_neg]
      rintro ⟨hsource, hbufidx⟩
      exact hnot ⟨⟨message, _, (hstart _ _).mpr ⟨rfl, rfl⟩⟩, choice, hoffers.choice_eq, hsource,
        hbufidx⟩
  · rw [hfifos k hmode]
    refine ⟨fun hstarted => ?_, fun _ => rfl⟩
    obtain ⟨⟨m, r, hmem⟩, _⟩ := hstarted
    exact absurd hmem (hstart m r)

/-- What a call that starts a transmission gives to the bus. -/
theorem offers_of_clock (hreach : canController.Reachable s)
    (h : s.deviceSupplyClockCan bus = some (t, outputs)) {message : CanData}
    {result : CanStartSend} (hmem : .startSend cid message result ∈ outputs) :
    result = bus.startSend cid message ∧ ∃ choice, Offers s cid choice message := by
  obtain ⟨_, hturned, _⟩ := turned_of_clock hreach h cid
  rcases hturned with ⟨choice, sent, hoffers, hstart, _⟩ | ⟨hstart, _⟩
  · obtain ⟨rfl, rfl⟩ := (hstart _ _).mp hmem
    exact ⟨rfl, choice, hoffers⟩
  · exact absurd hmem (hstart _ _)

/-- Only the running controller starts transmissions. -/
theorem running_of_startSend (hreach : canController.Reachable s)
    (h : s.deviceSupplyClockCan bus = some (t, outputs)) {message : CanData}
    {result : CanStartSend} (hmem : .startSend cid message result ∈ outputs) :
    s.modeGlobal.mode = .run := by
  obtain ⟨p, hp⟩ := modes_of_reachable hreach
  obtain ⟨s₁, s₂, received, sent, done, hrx, htx, hdone, heq⟩ := clock_cases h
  rw [← (sameTx_canRxProc hp (quiet_of_reachable hreach) hrx).mode]
  rw [heq] at hmem
  simp only [List.mem_append] at hmem
  rcases hmem with ((hmem | hmem) | hmem) | hmem
  · obtain ⟨_, _, habsurd⟩ := canRxProc_outputs hrx _ hmem
    cases habsurd
  · unfold canTxProc whenRunning at htx
    split_ifs at htx with hrun
    · cases htx
      cases hmem
    · exact not_not.mp hrun
  · obtain ⟨_, _, _, habsurd⟩ := (canTxDone_keeps hdone).1 _ hmem
    cases habsurd
  · obtain ⟨_, habsurd⟩ := canIntrRun_outputs _ hmem
    cases habsurd

/-- The history gets the entry of the message, if the bus answers that it has
taken it. -/
theorem entry_clock (hreach : canController.Reachable s)
    (h : s.deviceSupplyClockCan bus = some (t, outputs)) {message : CanData}
    {result : CanStartSend} (hmem : .startSend cid message result ∈ outputs) {choice : Selection}
    (hchoice : s.selection cid = some choice) :
    t.txHistory cid =
      if result.isOk then
        (canTxhlPutThldata (selected choice (s.txreq cid)).history (s.txHistory cid)).2
      else s.txHistory cid := by
  obtain ⟨_, hturned, _⟩ := turned_of_clock hreach h cid
  obtain ⟨sent, hall⟩ : ∃ sent, ∀ m r, .startSend cid m r ∈ outputs →
      m = sent ∧ r = bus.startSend cid sent := by
    rcases hturned with ⟨_, sent, _, hstart, _⟩ | ⟨hstart, _⟩
    · exact ⟨sent, fun m r => (hstart m r).mp⟩
    · exact absurd hmem (hstart _ _)
  obtain ⟨rfl, rfl⟩ := hall _ _ hmem
  have hfinished := clock_finished hreach h cid
  cases hok : (bus.startSend cid message).isOk with
  | false =>
    have hempty : starts cid outputs = [] := by
      refine List.filterMap_eq_nil_iff.mpr fun output hout => ?_
      cases output with
      | startSend c m r =>
        refine if_neg fun hboth => ?_
        obtain ⟨rfl, hyes⟩ := hboth
        rw [(hall m r hout).2, hok] at hyes
        cases hyes
      | _ => rfl
    rw [if_neg Bool.false_ne_true]
    split_ifs at hfinished
    · rcases hfinished with ⟨_, _, _, hstarts, _⟩ | ⟨_, _, hsame⟩
      · rw [hempty] at hstarts
        cases hstarts
      · exact hsame
    · exact hfinished.2
  | true =>
    have hstarted : starts cid outputs ≠ [] := by
      intro hempty
      have hnone : startOf cid (.startSend cid message (bus.startSend cid message)) = none :=
        List.filterMap_eq_nil_iff.mp hempty _ hmem
      have hsome : startOf cid (.startSend cid message (bus.startSend cid message)) =
          some message := if_pos ⟨rfl, hok⟩
      rw [hsome] at hnone
      cases hnone
    rw [if_pos rfl]
    split_ifs at hfinished
    · rcases hfinished with ⟨other, _, hother, _, hentry⟩ | ⟨_, hempty, _⟩
      · obtain rfl := Option.some.inj (hother.choice_eq.symm.trans hchoice)
        exact hentry
      · exact absurd hempty hstarted
    · exact absurd hfinished.1 hstarted

/-! ## Interrupts -/

/-- A FIFO gets its transmit interrupt when a message of it is completed. -/
theorem fifoIntr_kept (h : ClockStep outputs s t) {k : CanTxrxFifoIdx}
    (hnone : .txDone cid .fifo (k.castLE txrxFifoNum_le) ∉ outputs) :
    (t.txrxFifo cid k).config.enableTxIntr = (s.txrxFifo cid k).config.enableTxIntr ∧
      (t.txrxFifo cid k).status.txIntr = (s.txrxFifo cid k).status.txIntr := by
  refine Prod.mk.inj ((h.evolves.txrxFifo cid k).same
    (f := fun fifo => (fifo.config.enableTxIntr, fifo.status.txIntr)) fun op hop fifo => ?_)
  cases op with
  | putRx frame =>
    show ((canTxrxfifoPutRxdata frame fifo).2.config.enableTxIntr,
      (canTxrxfifoPutRxdata frame fifo).2.status.txIntr) = _
    unfold canTxrxfifoPutRxdata
    split_ifs <;> rfl
  | getTx =>
    show ((canTxrxfifoGetTxdata fifo).2.config.enableTxIntr,
      (canTxrxfifoGetTxdata fifo).2.status.txIntr) = _
    unfold canTxrxfifoGetTxdata
    split <;> rfl
  | done => exact absurd hop hnone
  | _ => cases hop

/-- The numbers of the interrupts differ. -/
theorem txdoneIntno_eq_iff : ∀ cid c : CanChannelId,
    txdoneIntno cid ≠ canGlobalErrorIntno ∧ txdoneIntno cid ≠ canGlobalRxfifoIntno ∧
      txdoneIntno cid ≠ txrxfifoRxdoneIntno c ∧ (txdoneIntno cid = txdoneIntno c ↔ cid = c) := by
  decide

/-- The transmit interrupt of a channel is raised if it is due. -/
theorem raiseInt_mem_canIntrRun :
    .raiseInt (txdoneIntno cid) ∈ s.canIntrRun ↔ s.canIntrTxRun cid = true := by
  unfold canIntrRun
  simp only [List.mem_append, List.mem_flatMap]
  constructor
  · rintro ((hmem | hmem) | ⟨c, -, hmem | hmem⟩)
    · split_ifs at hmem
      · exact absurd (CanOutput.raiseInt.inj (List.mem_singleton.mp hmem))
          (txdoneIntno_eq_iff cid 0).1
      · cases hmem
    · split_ifs at hmem
      · exact absurd (CanOutput.raiseInt.inj (List.mem_singleton.mp hmem))
          (txdoneIntno_eq_iff cid 0).2.1
      · cases hmem
    · split_ifs at hmem
      · exact absurd (CanOutput.raiseInt.inj (List.mem_singleton.mp hmem))
          (txdoneIntno_eq_iff cid c).2.2.1
      · cases hmem
    · split_ifs at hmem with hdue
      · have hcid := (txdoneIntno_eq_iff cid c).2.2.2.mp
          (CanOutput.raiseInt.inj (List.mem_singleton.mp hmem))
        rw [hcid]
        exact hdue
      · cases hmem
  · intro hdue
    refine Or.inr ⟨cid, List.mem_finRange cid, Or.inr ?_⟩
    rw [if_pos hdue]
    exact List.mem_singleton_self _

/-- In a clock it is raised if it is due at the end. -/
theorem raiseInt_of_clock (hreach : canController.Reachable s)
    (h : s.deviceSupplyClockCan bus = some (t, outputs)) :
    .raiseInt (txdoneIntno cid) ∈ outputs ↔ t.canIntrTxRun cid = true := by
  obtain ⟨p, hp⟩ := modes_of_reachable hreach
  obtain ⟨s₁, s₂, received, sent, done, hrx, htx, hdone, heq⟩ := clock_cases h
  obtain ⟨p₁, hp₁⟩ := (eachChannel_clockStep (fun _ _ _ _ => canRxProcOne_clockStep) hrx).modes p hp
  have hreceived : .raiseInt (txdoneIntno cid) ∉ received := by
    intro hmem
    obtain ⟨_, _, habsurd⟩ := canRxProc_outputs hrx _ hmem
    cases habsurd
  have hsent : .raiseInt (txdoneIntno cid) ∉ sent := by
    intro hmem
    obtain ⟨_, _, habsurd⟩ := canTxProc_outputs ⟨p₁, hp₁⟩ htx _ hmem
    cases habsurd
  have hdones : .raiseInt (txdoneIntno cid) ∉ done := by
    intro hmem
    obtain ⟨_, _, _, habsurd⟩ := (canTxDone_keeps hdone).1 _ hmem
    cases habsurd
  rw [← raiseInt_mem_canIntrRun, heq]
  simp only [List.mem_append, hreceived, hsent, hdones, false_or]

/-- Without a completion and without an entry in the history, the transmit
interrupt of a channel is due if it was due before. -/
theorem canIntrTxRun_kept (hreach : canController.Reachable s)
    (h : s.deviceSupplyClockCan bus = some (t, outputs))
    (hdone : ∀ source bufidx, .txDone cid source bufidx ∉ outputs)
    (hstart : ∀ message result, .startSend cid message result ∈ outputs → result.isOk = false) :
    t.canIntrTxRun cid = s.canIntrTxRun cid := by
  have hstep := clock_clockStep h
  have hqueue : t.txQueue cid = s.txQueue cid := hstep.queue fun bufno => hdone .queue bufno
  have hbuffer (bufno : CanTxBufferIdx) :
      (t.txBuffer cid bufno).result = (s.txBuffer cid bufno).result :=
    (hstep.buffer_kept (hdone .buffer bufno)).1
  have hfifo (k : CanTxrxFifoIdx) := fifoIntr_kept hstep (hdone .fifo (k.castLE txrxFifoNum_le))
  have hhistory : t.txHistory cid = s.txHistory cid := by
    by_cases hany : ∃ message result, .startSend cid message result ∈ outputs
    · obtain ⟨message, result, hmem⟩ := hany
      obtain ⟨_, choice, hoffers⟩ := offers_of_clock hreach h hmem
      rw [entry_clock hreach h hmem hoffers.choice_eq, hstart message result hmem,
        if_neg Bool.false_ne_true]
    · exact hstep.history_kept fun message result hmem => hany ⟨message, result, hmem⟩
  unfold canIntrTxRun canIntrTxBufferCheck canIntrTxFifoCheck txIntrEnabled
  simp only [hstep.txIntrEnable, hqueue, hbuffer, (hfifo _).1, (hfifo _).2, hhistory]

end CanController

open CanController

/-! ## Runs -/

/-- What a clock may report, and what it leaves pending. -/
structure OnlyAccepted (s : CanController) (flight : Flight) (t : CanController)
    (outputs : List CanOutput) : Prop where
  /-- the bus takes what is given to it: the message that an idle channel chose -/
  accepted : ∀ cid message result, .startSend cid message result ∈ outputs →
    result.isAccepted = true ∧ ∃ choice, Offers s cid choice message
  reported : Reported s flight outputs
  buffer : ∀ cid bufno, .txDone cid .buffer bufno ∉ outputs →
    (t.txBuffer cid bufno).result = (s.txBuffer cid bufno).result ∧
      (t.txBuffer cid bufno).reqTx = (s.txBuffer cid bufno).reqTx
  /-- an entry leaves a transmit FIFO only to be given to the bus -/
  fifo : ∀ cid (k : CanTxrxFifoIdx), (s.txrxFifo cid k).config.mode = canTxrxFifoModeTx →
    ∃ fifo, t.txrxFifo cid k = fifoDone outputs cid k fifo ∧
      (StartedFrom s outputs cid .fifo (k.castLE txrxFifoNum_le) →
        fifo = (canTxrxfifoGetTxdata (s.txrxFifo cid k)).2) ∧
      (¬ StartedFrom s outputs cid .fifo (k.castLE txrxFifoNum_le) → fifo = s.txrxFifo cid k)
  slot : ∀ cid bufno, .txDone cid .queue bufno ∉ outputs →
    (t.txQueue cid).txData bufno = (s.txQueue cid).txData bufno
  queue : ∀ cid, (∀ bufno, .txDone cid .queue bufno ∉ outputs) → t.txQueue cid = s.txQueue cid
  history : ∀ cid, (∀ message result, .startSend cid message result ∉ outputs) →
    t.txHistory cid = s.txHistory cid
  /-- a history gets the entry of the message that is given to the bus -/
  entry : ∀ cid message result choice, .startSend cid message result ∈ outputs →
    s.selection cid = some choice →
      t.txHistory cid =
        if result.isOk then
          (canTxhlPutThldata (selected choice (s.txreq cid)).history (s.txHistory cid)).2
        else s.txHistory cid
  /-- an interrupt that was not due comes with a completion or an entry -/
  interrupt : ∀ cid, .raiseInt (txdoneIntno cid) ∈ outputs →
    s.canIntrTxRun cid = true ∨ (∃ source bufidx, .txDone cid source bufidx ∈ outputs) ∨
      ∃ message result, .startSend cid message result ∈ outputs ∧ result.isOk = true

/-- In the runs in which the bus takes what the idle channels offer, a clock
completes only messages that the bus has taken: no other buffer gets a result,
no other slot loses its request, no FIFO loses an entry that is not given to the
bus, no history gets another entry, and no transmit interrupt is raised for
anything else. -/
theorem accepted_exact {w : CanController × Flight} {bus : CanBus} {t : CanController}
    {outputs : List CanOutput} (h : (sendWatch.guarded AcceptsSends).Reachable w)
    (haccepts : AcceptsSends (.clock bus) w)
    (hclock : w.1.deviceSupplyClockCan bus = some (t, outputs)) :
    OnlyAccepted w.1 w.2 t outputs := by
  have hcan := reachable_of_sendWatch h.of_guarded
  obtain ⟨p, hp⟩ := modes_of_reachable hcan
  obtain ⟨_, hreported⟩ := reported_clock hp (quiet_of_reachable hcan)
    (inFlight_of_reachable h) haccepts hclock
  have hstep := clock_clockStep hclock
  exact
    { accepted := fun cid message result hmem => by
        obtain ⟨hresult, choice, hoffers⟩ := offers_of_clock hcan hclock hmem
        refine ⟨?_, choice, hoffers⟩
        obtain ⟨taken, htaken, haccepted⟩ :=
          haccepts (running_of_startSend hcan hclock hmem) cid choice hoffers.idle hoffers.choice_eq
        rw [hoffers.taken_eq] at htaken
        rw [hresult, Except.ok.inj (Option.some.inj htaken)]
        exact haccepted
      reported := hreported
      buffer := fun _ _ => hstep.buffer_kept
      fifo := fun _ _ => txrxFifo_clock hcan hclock
      slot := fun _ _ => hstep.slot_kept
      queue := fun _ => hstep.queue
      history := fun _ => hstep.history_kept
      entry := fun _ _ _ _ hmem hchoice => entry_clock hcan hclock hmem hchoice
      interrupt := fun cid hmem => by
        have hdue := (raiseInt_of_clock hcan hclock).mp hmem
        by_contra hnot
        rw [not_or, not_or] at hnot
        obtain ⟨hbefore, hdone, hstart⟩ := hnot
        refine hbefore ((canIntrTxRun_kept hcan hclock (fun source bufidx hmem =>
          hdone ⟨source, bufidx, hmem⟩) fun message result hmem => ?_).symm.trans hdue)
        exact Bool.eq_false_iff.mpr fun hok => hstart ⟨message, result, hmem, hok⟩ }

/-- The message in the FIFO. -/
def fifoMessage : CanData := { zeroCanData with id := 0x123 }

/-- What the prompt bus is asked to do: the message is sent and completed, and
the interrupt is raised. -/
def fifoOutputs : List CanOutput :=
  [.startSend 0 fifoMessage { isOk := true, isAccepted := true }, .txDone 0 .fifo 0,
    .raiseInt (txdoneIntno 0)]

/-- The prompt bus takes the message of the FIFO. -/
theorem accepted_exact_fifo :
    ∃ w t, (sendWatch.guarded AcceptsSends).Reachable w ∧
      w.1.deviceSupplyClockCan promptBus = some (t, fifoOutputs) ∧
      (w.1.txrxFifo 0 0).fifoControl.count = 1 ∧ (t.txrxFifo 0 0).fifoControl.count = 0 ∧
      (t.txHistory 0).fifoControl.count = 1 ∧ OnlyAccepted w.1 w.2 t fifoOutputs := by
  have hview : (runWhile (fun event _ => NoClock event) fifoStores initialCan).bind (fun s =>
      (s.deviceSupplyClockCan promptBus).map fun result =>
        decide ((result.2 = fifoOutputs ∧ (s.txrxFifo 0 0).fifoControl.count = 1 ∧
            (result.1.txrxFifo 0 0).fifoControl.count = 0 ∧
            (result.1.txHistory 0).fifoControl.count = 1) ∧
          (∀ cid, (s.modeGlobal.channel cid).mode = .comm → cid = 0) ∧
          ((s.selection 0).map fun choice => (choice.source, choice.bufidx)) =
            some (.fifo, 0) ∧
          s.taken 0 .fifo 0 = some (.ok fifoMessage))) = some true := by
    decide +kernel
  obtain ⟨s, hrun, hclock⟩ := Option.bind_eq_some_iff.mp hview
  obtain ⟨⟨t, outputs⟩, hclock, hfacts⟩ := Option.map_eq_some_iff.mp hclock
  obtain ⟨⟨houtputs, hbefore, hafter, hhistory⟩, honly, hselection, htaken⟩ :=
    of_decide_eq_true hfacts
  obtain ⟨flight, hreach⟩ := exists_flight (reachable_runWhile (.init rfl) hrun)
  have haccepts : AcceptsSends (.clock promptBus) (s, flight) := by
    intro _ cid choice hidle hchoice
    rw [honly cid hidle.1] at hchoice ⊢
    rw [hchoice] at hselection
    obtain ⟨hsource, hbufidx⟩ := Prod.mk.inj (Option.some.inj hselection)
    rw [hsource, hbufidx]
    exact ⟨fifoMessage, htaken, rfl⟩
  have houtputs' : outputs = fifoOutputs := houtputs
  rw [houtputs'] at hclock
  exact ⟨(s, flight), t, hreach, hclock, hbefore, hafter, hhistory,
    accepted_exact hreach haccepts hclock⟩

/-- Channel 0 in communication, with a request for transmit buffer 0. -/
def requestStores : List CanEvent := startChannel ++ [.put .byte 0x0250 0x1]

/-- The bus whose `start_send` loses the message and says that it is done. -/
def losingBus : CanBus where
  isArrived _ := false
  receive _ := zeroCanData
  startSend _ _ := { isOk := true, isAccepted := false }
  isDone _ := true

/-- The message of buffer 0 is lost, and completed in the same clock. -/
theorem accepted_lost :
    ∃ w t outputs, sendWatch.Reachable w ∧
      w.1.deviceSupplyClockCan losingBus = some (t, outputs) ∧
      .startSend 0 zeroCanData { isOk := true, isAccepted := false } ∈ outputs ∧
      (t.txBuffer 0 0).result = canTxBufferResultOk ∧ (t.txBuffer 0 0).reqTx = false ∧
      ¬ Reported w.1 w.2 outputs := by
  have hview : (runWhile (fun event _ => NoClock event) requestStores initialCan).bind (fun s =>
      (s.deviceSupplyClockCan losingBus).map fun result =>
        decide (result.2 = [.startSend 0 zeroCanData { isOk := true, isAccepted := false },
            .txDone 0 .buffer 0] ∧
          (result.1.txBuffer 0 0).result = canTxBufferResultOk ∧
          (result.1.txBuffer 0 0).reqTx = false)) = some true := by
    decide +kernel
  obtain ⟨s, hrun, hclock⟩ := Option.bind_eq_some_iff.mp hview
  obtain ⟨⟨t, outputs⟩, hclock, hfacts⟩ := Option.map_eq_some_iff.mp hclock
  obtain ⟨houtputs, hresult, hreq⟩ := of_decide_eq_true hfacts
  obtain ⟨flight, hreach⟩ := exists_flight (reachable_runWhile (.init rfl) hrun)
  have houtputs' : outputs = [.startSend 0 zeroCanData { isOk := true, isAccepted := false },
      .txDone 0 .buffer 0] := houtputs
  refine ⟨(s, flight), t, outputs, hreach.of_guarded, hclock, ?_, hresult, hreq,
    fun hreported => ?_⟩
  · rw [houtputs']
    exact List.mem_cons_self
  · rw [houtputs'] at hreported
    have hflight := hreported.2.1 0 .buffer 0 rfl
    have hnone : launched s flight
        (.startSend 0 zeroCanData { isOk := true, isAccepted := false }) 0 = none := by
      show Function.update flight 0 none 0 = none
      rw [Function.update_self]
    rw [hnone] at hflight
    cases hflight

end Athrill
