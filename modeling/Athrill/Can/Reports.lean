import Athrill.Can.Offers

/-!
# What is reported as transmitted

A channel reports a transmission when the bus says that it is done, whether or
not the bus took the message when it was started.  As long as the bus takes all
messages that it is given, only those are reported.

* `Flight`, `sendWatch`: the messages that the bus has taken.
* `Reported`: every completion is one of a message that the bus has taken.
* `AcceptsSends`: the bus takes what the idle channels offer.
* `InFlight`, `inFlight_of_reachable`: the invariant of the runs in which it does.
* `reported_clock`: the completions of a clock in such a run.
-/

namespace Athrill

open CanController

/-! ## Messages in flight -/

/-- For each channel, where the message comes from that the bus has taken and
not yet completed. -/
abbrev Flight := CanChannelId → Option (CanTxSource × CanTxBufferIdx)

/-- A start puts the chosen message into flight if the bus takes it, and a
completion ends the flight. -/
def launched (s : CanController) (flight : Flight) : CanOutput → Flight
  | .startSend cid _ result =>
    Function.update flight cid
      (if result.isAccepted then
        (s.selection cid).map fun choice => (choice.source, choice.bufidx)
      else none)
  | .txDone cid _ _ => Function.update flight cid none
  | _ => flight

/-- Every completion is one of the message in flight. -/
def Reported (s : CanController) : Flight → List CanOutput → Prop
  | _, [] => True
  | flight, output :: outputs =>
    (∀ cid source bufidx, output = .txDone cid source bufidx →
      flight cid = some (source, bufidx)) ∧
      Reported s (launched s flight output) outputs

/-- The controller beside the messages in flight. -/
def sendWatch : TransitionSystem (CanController × Flight) CanEvent where
  init w := w = (initialCan, fun _ => none)
  step event w w' := ∃ outputs, w.1.step event = some (w'.1, outputs) ∧
    w'.2 = outputs.foldl (launched w.1) w.2

/-- A channel may start a transmission. -/
def IdleChannel (s : CanController) (cid : CanChannelId) : Prop :=
  (s.modeGlobal.channel cid).mode = .comm ∧ (s.modeGlobal.channel cid).commMode = .idle

/-- The condition on a step: an idle channel of the running controller that
chooses a source gets a message from it, and the bus takes that message. -/
def AcceptsSends (event : CanEvent) (w : CanController × Flight) : Prop :=
  match event with
  | .clock bus => w.1.modeGlobal.mode = .run → ∀ cid choice, IdleChannel w.1 cid →
      w.1.selection cid = some choice →
        ∃ message, w.1.taken cid choice.source choice.bufidx = some (.ok message) ∧
          (bus.startSend cid message).isAccepted = true
  | _ => True

/-- A channel in a transmission has its message in flight. -/
def InFlight (t : CanController) (flight : Flight) : Prop :=
  ∀ cid, (t.modeGlobal.channel cid).commMode = .tx →
    ∃ source, (t.txreq cid).source = some source ∧
      flight cid = some (source, (t.txreq cid).bufidx)

section Reports

variable {s t t' : CanController} {flight : Flight} {outputs outputs' : List CanOutput}

theorem reported_append :
    Reported s flight (outputs ++ outputs') ↔
      Reported s flight outputs ∧ Reported s (outputs.foldl (launched s) flight) outputs' := by
  induction outputs generalizing flight with
  | nil => simp [Reported]
  | cons output outputs ih =>
    rw [List.cons_append, Reported, Reported, ih, and_assoc]
    rfl

/-- Calls among which there is no completion. -/
theorem reported_of_not_done
    (h : ∀ output ∈ outputs, ∀ cid source bufidx, output ≠ .txDone cid source bufidx) :
    Reported s flight outputs := by
  induction outputs generalizing flight with
  | nil => trivial
  | cons output outputs ih =>
    refine ⟨fun cid source bufidx heq => ?_, ih fun o ho => h o (List.mem_cons_of_mem output ho)⟩
    exact absurd heq (h output List.mem_cons_self cid source bufidx)

/-- Calls among which there is no start and no completion. -/
theorem launched_other
    (h : ∀ output ∈ outputs, ∀ flight, launched s flight output = flight) (flight : Flight) :
    outputs.foldl (launched s) flight = flight := by
  induction outputs with
  | nil => rfl
  | cons output outputs ih =>
    rw [List.foldl_cons, h output List.mem_cons_self]
    exact ih fun o ho => h o (List.mem_cons_of_mem output ho)

/-! ## Transmission -/

/-- The transmissions of a clock from `s` on: an idle channel offers what it
did, and every channel in a transmission has its message in flight. -/
structure Launching (bus : CanBus) (s : CanController) (flight : Flight) (t : CanController)
    (outputs : List CanOutput) : Prop where
  modes : ∃ p, Represents p t.modeGlobal
  offers : ∀ cid, IdleChannel t cid → IdleChannel s cid ∧ SameOffers cid s t
  inFlight : InFlight t (outputs.foldl (launched s) flight)

/-- A channel that starts: its message is in flight, and the others are as
before. -/
theorem launching_start {bus : CanBus} {cid : CanChannelId} {choice : Selection}
    {phase : ChannelPhase} {before after : List CanOutput} (h : Launching bus s flight t before)
    (haccepts : ∀ cid choice, IdleChannel s cid → s.selection cid = some choice →
      ∃ message, s.taken cid choice.source choice.bufidx = some (.ok message) ∧
        (bus.startSend cid message).isAccepted = true)
    (hphase : t.modeGlobal.channel cid = phase.record cid) (hidle : phase = .idle)
    (hchoice : t.selection cid = some choice)
    (hmodes : ∃ p, Represents p t'.modeGlobal)
    (hsend : canTxSend bus cid choice.source choice.bufidx
      ((t.modifyTxreq cid (selected choice)).commEvent cid .commTxStart) = some (t', after)) :
    Launching bus s flight t' (before ++ after) := by
  rw [hidle] at hphase
  have hidleChannel : IdleChannel t cid := by
    rw [IdleChannel, hphase]
    exact ⟨rfl, rfl⟩
  obtain ⟨hidle₀, hoffers⟩ := h.offers cid hidleChannel
  have hchoice₀ : s.selection cid = some choice := (selection_congr hoffers).symm.trans hchoice
  obtain ⟨message, htaken₀, haccepted⟩ := haccepts cid choice hidle₀ hchoice₀
  have hstarted : ∀ c, SameOffers c t
      ((t.modifyTxreq cid (selected choice)).commEvent cid .commTxStart) := fun c =>
    (sameOffers_modifyTxreq cid c (selected choice) t).trans
      (sameOffers_commEvent (s := t.modifyTxreq cid (selected choice)) hphase .commTxStart c)
  have htaken : ((t.modifyTxreq cid (selected choice)).commEvent cid .commTxStart).taken cid
      choice.source choice.bufidx = some (.ok message) :=
    (taken_congr (hoffers.trans (hstarted cid)) _ _).trans htaken₀
  rcases canTxSend_cases hsend with ⟨e, hget, _⟩ | ⟨found, mid, hget, hout, hrest⟩
  · have herror := (taken_of_getTxdata hget).symm.trans htaken
    cases herror
  · have hfound : found = message :=
      Except.ok.inj (Option.some.inj ((taken_of_getTxdata hget).symm.trans htaken))
    rw [hfound] at hout hrest
    have hfirst := getTxdata_taken hget
    have hdevice : t'.toCanDevice = ((t.modifyTxreq cid (selected choice)).commEvent cid
        .commTxStart).toCanDevice := hrest.device.trans hfirst.device
    have htxreq : t'.txreq = Function.update (Function.update t.txreq cid
        (selected choice (t.txreq cid))) cid
        { selected choice (t.txreq cid) with txdata := message } := by
      have hmid : mid.txreq = Function.update t.txreq cid (selected choice (t.txreq cid)) :=
        hfirst.txreq
      have hlast : t'.txreq = Function.update mid.txreq cid
          { mid.txreq cid with txdata := message } := hrest.txreq
      rw [hlast, hmid, Function.update_self]
    have hother : ∀ c, c ≠ cid → t'.modeGlobal.channel c = t.modeGlobal.channel c := by
      intro c hc
      rw [hdevice]
      exact channel_commEvent_of_ne (s := t.modifyTxreq cid (selected choice)) hphase hc _
    have hself : (t'.modeGlobal.channel cid).commMode = .tx := by
      rw [hdevice, channel_commEvent_self (s := t.modifyTxreq cid (selected choice)) hphase]
      rfl
    rw [hout]
    refine ⟨hmodes, fun c hc => ?_, fun c hc => ?_⟩
    · have hne : c ≠ cid := by
        intro heq
        rw [heq] at hc
        exact absurd (hself.symm.trans hc.2) nofun
      have hidleBefore : IdleChannel t c := by
        unfold IdleChannel at hc ⊢
        rw [hother c hne] at hc
        exact hc
      obtain ⟨hidle₁, hsame⟩ := h.offers c hidleBefore
      have hmid := sameOffers_modifyTxreq cid c (fun req => { req with txdata := message }) mid
      exact ⟨hidle₁, (((hsame.trans (hstarted c)).trans (hfirst.offers hne)).trans hmid).trans
        (hrest.offers hne)⟩
    · rw [List.foldl_append]
      show ∃ source, _ ∧ Function.update _ cid _ c = _
      by_cases hne : c = cid
      · rw [hne, htxreq, Function.update_self, Function.update_self, if_pos haccepted, hchoice₀]
        exact ⟨choice.source, rfl, rfl⟩
      · rw [hother c hne] at hc
        rw [htxreq, Function.update_of_ne hne, Function.update_of_ne hne, Function.update_of_ne hne]
        exact h.inFlight c hc

/-- One more channel. -/
theorem launching_step {bus : CanBus} {cid : CanChannelId} {before after : List CanOutput}
    (haccepts : ∀ cid choice, IdleChannel s cid → s.selection cid = some choice →
      ∃ message, s.taken cid choice.source choice.bufidx = some (.ok message) ∧
        (bus.startSend cid message).isAccepted = true)
    (h : Launching bus s flight t before)
    (hone : CanController.canTxProcOne bus cid t = some (t', after)) :
    Launching bus s flight t' (before ++ after) := by
  obtain ⟨p, hp⟩ := h.modes
  have hmodes := (canTxProcOne_clockStep hone).modes p hp
  rcases canTxProcOne_cases (hp.channel cid) hone with
    ⟨hnone, heq | ⟨hidle, heq⟩⟩ | ⟨choice, hidle, hchoice, hsend⟩
  · rw [hnone, List.append_nil, heq]
    exact h
  · rw [hnone, List.append_nil, heq]
    refine ⟨⟨p, hp⟩, fun c hc => ?_, fun c hc => ?_⟩
    · obtain ⟨hidle₀, hoffers⟩ := h.offers c hc
      exact ⟨hidle₀, hoffers.trans (sameOffers_modifyTxreq cid c _ t)⟩
    · have hne : c ≠ cid := by
        intro hcid
        have htx : (t.modeGlobal.channel c).commMode = .tx := hc
        rw [hcid, hp.channel cid, hidle] at htx
        exact absurd htx nofun
      have hsame : (t.modifyTxreq cid fun req => { req with source := none }).txreq c =
          t.txreq c := Function.update_of_ne hne ..
      rw [hsame]
      exact h.inFlight c hc
  · exact launching_start h haccepts (hp.channel cid) hidle hchoice hmodes hsend

/-! ## Completion -/

/-- The completions of a clock. -/
structure Completing (s : CanController) (flight : Flight) (t : CanController)
    (outputs : List CanOutput) : Prop where
  modes : ∃ p, Represents p t.modeGlobal
  inFlight : InFlight t (outputs.foldl (launched s) flight)
  reported : Reported s flight outputs

theorem completing_step {bus : CanBus} {cid : CanChannelId} {before after : List CanOutput}
    (h : Completing s flight t before)
    (hone : CanController.canTxDoneOne bus cid t = some (t', after)) :
    Completing s flight t' (before ++ after) := by
  obtain ⟨p, hp⟩ := h.modes
  have hmodes := (canTxDoneOne_clockStep hone).modes p hp
  unfold CanController.canTxDoneOne at hone
  split_ifs at hone with hmode hcomm hdone
  · cases hone
    rw [List.append_nil]
    exact h
  · cases hone
    rw [List.append_nil]
    exact h
  · cases hone
    rw [List.append_nil]
    exact h
  · rw [not_not] at hcomm
    obtain ⟨source, hsource, hone⟩ := Option.bind_eq_some_iff.mp hone
    obtain ⟨mid, hmid, heq⟩ := Option.map_eq_some_iff.mp hone
    cases heq
    obtain ⟨found, hfound, hflight⟩ := h.inFlight cid hcomm
    rw [hsource] at hfound
    rw [← Option.some.inj hfound] at hflight
    have hmodes' := notifyTxdone_modes hmid
    have htxreq : mid.txreq = t.txreq := txreq_notifyTxdone hmid
    have hphase : (mid.modifyTxreq cid fun req => { req with source := none }).modeGlobal.channel
        cid = (p.channel cid).record cid := by
      show mid.modeGlobal.channel cid = _
      rw [hmodes']
      exact hp.channel cid
    refine ⟨hmodes, fun c hc => ?_, reported_append.mpr ⟨h.reported, ?_, trivial⟩⟩
    · have hne : c ≠ cid := by
        intro hcid
        rw [hcid, channel_commEvent_self hphase] at hc
        rw [hp.channel cid] at hcomm
        cases hphase' : p.channel cid with
        | tx waiting =>
          rw [hphase'] at hc
          cases waiting <;> exact absurd hc nofun
        | _ =>
          rw [hphase'] at hcomm
          exact absurd hcomm nofun
      rw [channel_commEvent_of_ne hphase hne] at hc
      have hc' : (t.modeGlobal.channel c).commMode = .tx := by
        rw [← hmodes']
        exact hc
      rw [List.foldl_append]
      have hreq : ((mid.modifyTxreq cid fun req => { req with source := none }).commEvent cid
          .commTxDone).txreq c = t.txreq c := by
        rw [← htxreq]
        exact Function.update_of_ne hne ..
      have hother : ([.txDone cid source (t.txreq cid).bufidx].foldl (launched s)
          (before.foldl (launched s) flight)) c = before.foldl (launched s) flight c :=
        Function.update_of_ne hne ..
      rw [hreq, hother]
      exact h.inFlight c hc'
    · intro c source' bufidx heq
      cases heq
      exact hflight

/-! ## The clock -/

/-- A clock in which the bus takes all messages: the completions are those of
messages in flight. -/
theorem reported_clock {bus : CanBus} {p : ControllerPhase} (hp : Represents p s.modeGlobal)
    (hquiet : Quiet s) (hflight : InFlight s flight)
    (haccepts : AcceptsSends (.clock bus) (s, flight))
    (h : s.deviceSupplyClockCan bus = some (t, outputs)) :
    InFlight t (outputs.foldl (launched s) flight) ∧ Reported s flight outputs := by
  obtain ⟨s₁, s₂, received, sent, done, hrx, htx, hdone, heq⟩ := clock_cases h
  have hsame := sameTx_canRxProc hp hquiet hrx
  obtain ⟨p₁, hp₁⟩ := (eachChannel_clockStep (fun _ _ _ _ => canRxProcOne_clockStep) hrx).modes p hp
  have hbase : Launching bus s flight s₁ [] := by
    refine ⟨⟨p₁, hp₁⟩, fun c hc => ?_, fun c hc => ?_⟩
    · unfold IdleChannel at hc ⊢
      rw [hsame.channel] at hc
      exact ⟨hc, hsame.offers c⟩
    · rw [hsame.channel] at hc
      rw [hsame.txreq]
      exact hflight c hc
  have hlaunching : Launching bus s flight s₂ sent := by
    by_cases hrun : s₁.modeGlobal.mode = .run
    · have hrun₀ : s.modeGlobal.mode = .run := hsame.mode.symm.trans hrun
      exact eachChannel_induction (P := fun t outputs => Launching bus s flight t outputs)
        (fun _ _ _ _ _ hbefore hone => launching_step (haccepts hrun₀) hbefore hone) hbase htx
    · unfold CanController.canTxProc whenRunning at htx
      rw [if_pos hrun] at htx
      cases htx
      exact hbase
  have hcompleting : Completing s (sent.foldl (launched s) flight) t done :=
    eachChannel_induction
      (P := fun t outputs => Completing s (sent.foldl (launched s) flight) t outputs)
      (fun _ _ _ _ _ hbefore hone => completing_step hbefore hone)
      ⟨hlaunching.modes, hlaunching.inFlight, trivial⟩ hdone
  have hreceived := canRxProc_outputs hrx
  have hsent := canTxProc_outputs ⟨p₁, hp₁⟩ htx
  have hintr := canIntrRun_outputs (s := t)
  have hreceivedFold : received.foldl (launched s) flight = flight := by
    refine launched_other (fun output hmem flight => ?_) flight
    obtain ⟨_, _, rfl⟩ := hreceived output hmem
    rfl
  have hfold : outputs.foldl (launched s) flight =
      done.foldl (launched s) (sent.foldl (launched s) flight) := by
    rw [heq, List.foldl_append, List.foldl_append, List.foldl_append, hreceivedFold]
    refine launched_other (fun output hmem flight => ?_) _
    obtain ⟨_, rfl⟩ := hintr output hmem
    rfl
  refine ⟨?_, ?_⟩
  · rw [hfold]
    exact hcompleting.inFlight
  · rw [heq, reported_append, reported_append, reported_append, List.foldl_append, hreceivedFold]
    refine ⟨⟨⟨reported_of_not_done ?_, reported_of_not_done ?_⟩, hcompleting.reported⟩,
      reported_of_not_done ?_⟩
    · intro output hmem cid source bufidx hdone
      obtain ⟨_, _, rfl⟩ := hreceived output hmem
      cases hdone
    · intro output hmem cid source bufidx hdone
      obtain ⟨_, _, rfl⟩ := hsent output hmem
      cases hdone
    · intro output hmem cid source bufidx hdone
      obtain ⟨_, rfl⟩ := hintr output hmem
      cases hdone

/-! ## Stores -/

/-- The phases in which the channel transmits. -/
def ChannelPhase.Sending : ChannelPhase → Prop
  | tx _ => True
  | _ => False

theorem ChannelPhase.sending_step {event : CanModeChannelEvent} (hevent : event ≠ .commTxStart)
    {phase : ChannelPhase} (hphase : ¬ phase.Sending) : ¬ (phase.step event).Sending := by
  cases phase with
  | tx => exact absurd trivial hphase
  | rx waiting => cases event <;> cases waiting <;> exact id
  | _ => cases event <;> first | exact id | exact absurd rfl hevent

theorem ChannelPhase.commMode_sending (cid : CanChannelId) (phase : ChannelPhase) :
    (phase.record cid).commMode = .tx ↔ phase.Sending := by
  cases phase <;> simp [record, Sending]

/-- The handlers of the registers keep the transmissions under way. -/
theorem txreq_writeHook {group : CanRegisterGroup} {address : Nat}
    (h : s.writeHook group address = some t) : t.txreq = s.txreq := by
  have hkept : KeptByHook group address fun t => t.txreq = s.txreq :=
    { dlcError := fun _ _ ht => ht
      rules := fun _ _ _ _ _ ht => ht
      rxBuffer := fun _ _ ht => ht
      rxFifo := fun _ _ _ ht => ht
      txrxFifo := fun _ _ _ _ ht => ht
      staged := fun _ _ ht => ht
      txBuffer := fun _ _ _ _ _ ht => ht
      txIntrEnable := fun _ _ ht => ht
      txQueue := fun _ _ _ _ ht => ht
      txHistory := fun _ _ _ _ ht => ht
      cleared := fun _ _ ht => ht }
  exact hkept.keeps rfl h

theorem txreq_put {size : AccessSize} {address : Nat} {data : BitVec 32}
    (h : s.put size address data = some t) : t.txreq = s.txreq := by
  have hafter : (s.afterStore size address data).txreq = s.txreq :=
    afterStore_induction (R := fun s t => t.txreq = s.txreq) (fun _ => rfl)
      (fun _ _ _ h h' => h'.trans h) (fun _ _ => rfl) (fun _ => rfl) (fun _ _ => rfl) size address
      data s
  rw [put_eq] at h
  cases hgroup : searchMap address with
  | none =>
    simp only [hgroup] at h
    cases h
    exact hafter
  | some group =>
    simp only [hgroup] at h
    exact (txreq_writeHook h).trans hafter

/-- Software starts no transmission. -/
theorem sending_put {size : AccessSize} {address : Nat} {data : BitVec 32} {p : ControllerPhase}
    (hp : Represents p s.modeGlobal) (h : s.put size address data = some t) {cid : CanChannelId}
    (hsending : (t.modeGlobal.channel cid).commMode = .tx) :
    (s.modeGlobal.channel cid).commMode = .tx := by
  have hstore : Represents (p.events (s.sentEvents size address data))
      (s.afterStore size address data).modeGlobal :=
    CanDevice.represents_put hp size address data
  have hstored : Represents (p.events (s.sentEvents size address data)) t.modeGlobal := by
    rw [put_eq] at h
    cases hgroup : searchMap address with
    | none =>
      simp only [hgroup] at h
      cases h
      exact hstore
    | some group =>
      simp only [hgroup] at h
      exact writeHook_modes hstore h
  rw [hstored.channel, ChannelPhase.commMode_sending] at hsending
  rw [hp.channel, ChannelPhase.commMode_sending]
  by_contra hnot
  exact phase_events (P := fun phase => ¬ phase.Sending)
    (fun _ hstart _ => ChannelPhase.sending_step fun heq => hstart (Or.inr heq))
    (sentEvents_quiet size address data s.toCanDevice) hnot hsending

end Reports

/-! ## Runs -/

theorem inFlight_init : InFlight initialCan fun _ => none := by
  intro cid htx
  have hstop : (initialCan.modeGlobal.channel cid) = ChannelPhase.stop.record cid :=
    (represents_canReset blankCan).channel cid
  rw [hstop] at htx
  exact absurd htx nofun

/-- A run of the watched controller is one of the controller. -/
theorem reachable_of_sendWatch {w : CanController × Flight} (h : sendWatch.Reachable w) :
    canController.Reachable w.1 := by
  refine h.of_record (fun _ hinit => congrArg Prod.fst hinit) fun event before after hstep => ?_
  obtain ⟨outputs, hstep, _⟩ := hstep
  exact ⟨outputs, hstep⟩

/-- In the runs in which the bus takes what it is offered, every channel in a
transmission has its message in flight. -/
theorem inFlight_of_reachable {w : CanController × Flight}
    (h : (sendWatch.guarded AcceptsSends).Reachable w) : InFlight w.1 w.2 := by
  induction h with
  | init hinit =>
    cases hinit
    exact inFlight_init
  | @step event w w' hreach hstep ih =>
    obtain ⟨haccepts, outputs, hstep, hflight⟩ := hstep
    have hcan := reachable_of_sendWatch hreach.of_guarded
    obtain ⟨p, hp⟩ := modes_of_reachable hcan
    rw [hflight]
    cases event with
    | put size address data =>
      obtain ⟨mid, hput, heq⟩ := Option.map_eq_some_iff.mp hstep
      obtain ⟨hmid, houtputs⟩ := Prod.mk.inj heq
      rw [← hmid, ← houtputs]
      intro cid htx
      rw [txreq_put hput]
      exact ih cid (sending_put hp hput htx)
    | get size address indeterminate =>
      obtain ⟨hmid, houtputs⟩ := Prod.mk.inj (Option.some.inj hstep)
      obtain ⟨memory, hget⟩ := get_eq address indeterminate w.1
      rw [← hmid, ← houtputs, hget]
      exact ih
    | clock bus => exact (reported_clock hp (quiet_of_reachable hcan) ih haccepts hstep).1

/-- Stores and loads ask nothing of the bus. -/
theorem exists_flight {s : CanController}
    (h : (canController.guarded fun event _ => NoClock event).Reachable s) :
    ∃ flight, (sendWatch.guarded AcceptsSends).Reachable (s, flight) := by
  refine h.exists_record (fun s hs => ⟨_, congrArg (fun s => (s, _)) hs⟩)
    fun event s s' flight hstep => ?_
  obtain ⟨hnone, outputs, hstep⟩ := hstep
  refine ⟨_, ?_, outputs, hstep, rfl⟩
  cases event with
  | clock bus => exact hnone.elim
  | _ => trivial

end Athrill
