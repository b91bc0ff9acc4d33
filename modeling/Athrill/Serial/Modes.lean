import Athrill.Serial.Send

/-!
# Reset mode and the channels without a clock

A channel in reset mode transfers nothing, and leaves that mode only by a store
to its mode register.  The channels that get no clock never transfer anything.

* `ChannelOk`, `channelsOk_of_run`: the flags of a channel in every run.
* `Silent`: calls that transfer nothing and raise no interrupt.
* `reset_mode_silent`: runs in reset mode.
* `status_load`: what software reads from the status registers.
-/

namespace Athrill

open ByteMemory Routine

variable {H E : Type} {p : SerialPlatform H E}

/-- Nothing is enabled or transferred in reset mode, nor ever transferred on a
channel without a clock. -/
structure ChannelOk (ch : Fin udnChannelNum) (serial : SerialDevice H) : Prop where
  readEnable : serial.isResetMode = true → serial.isReadEnable = false
  sendEnable : serial.isResetMode = true → serial.isSendEnable = false
  sending : serial.isResetMode = true ∨ ch ≠ 1 → serial.isSending = false
  receiving : serial.isResetMode = true ∨ ch ≠ 1 → serial.isReceiving = false

/-- All channels are in order. -/
def ChannelsOk (s : Serial H) : Prop := ∀ ch, ChannelOk ch (s.device ch)

theorem channelsOk_setDevice {s t : Serial H} {ch : Fin udnChannelNum} {serial : SerialDevice H}
    (hs : ChannelsOk s) (ht : t.device = s.device) (hok : ChannelOk ch serial) :
    ChannelsOk (t.setDevice ch serial) := by
  intro ch'
  by_cases hch : ch' = ch
  · subst hch
    rw [Serial.device_setDevice_self]
    exact hok
  · rw [Serial.device_setDevice_of_ne _ _ _ hch, ht]
    exact hs ch'

theorem channelOk_initial (ch : Fin udnChannelNum) (sendData : BitVec 8)
    (ops : Option (DeviceExSerialOp H)) :
    ChannelOk ch { initialSerialDevice (H := H) sendData with ops := ops } :=
  ⟨fun _ => rfl, fun _ => rfl, fun _ => rfl, fun _ => rfl⟩

theorem channelsOk_resetSerial (ops : DeviceExSerialOp H) (s : Serial H) :
    ChannelsOk (resetSerial ops s) := by
  intro ch
  unfold resetSerial deviceExSerialRegisterOps
  by_cases hch : ch = 1
  · subst hch
    rw [Serial.device_setDevice_self]
    exact channelOk_initial 1 _ _
  · rw [Serial.device_setDevice_of_ne _ _ _ hch]
    exact channelOk_initial ch _ _

section Events

variable {s t s' : Serial H} {calls : List SerialCall} {times : SerialTimes}

/-- A clock that does something has found its channel out of reset mode. -/
theorem ChannelOk.operating {serial : SerialDevice H} (h : ChannelOk 1 serial)
    (henable : serial.isReadEnable = true ∨ serial.isSendEnable = true) :
    serial.isResetMode = false := by
  cases hmode : serial.isResetMode with
  | false => rfl
  | true =>
    obtain hread | hsend := henable
    · exact absurd (hread.symm.trans (h.readEnable hmode)) nofun
    · exact absurd (hsend.symm.trans (h.sendEnable hmode)) nofun

/-- A channel out of reset mode may have any flags when it gets the clock. -/
theorem channelOk_operating {serial : SerialDevice H} (hmode : serial.isResetMode = false) :
    ChannelOk 1 serial where
  readEnable h := absurd (hmode.symm.trans h) nofun
  sendEnable h := absurd (hmode.symm.trans h) nofun
  sending h := h.elim (fun h => absurd (hmode.symm.trans h) nofun) (fun h => absurd rfl h)
  receiving h := h.elim (fun h => absurd (hmode.symm.trans h) nofun) (fun h => absurd rfl h)

theorem ReceiveStep.channelsOk (h : ReceiveStep times 1 s calls t) (hs : ChannelsOk s) :
    ChannelsOk t := by
  cases h with
  | off h => exact hs
  | empty hops henable hidle hnone => exact hs
  | take hops henable hidle hbyte =>
    have hmode := (hs 1).operating (.inl henable)
    exact channelsOk_setDevice hs (by rfl) (channelOk_operating (by exact hmode))
  | wait hops henable hbusy hcount =>
    have hmode := (hs 1).operating (.inl henable)
    exact channelsOk_setDevice hs (by rfl) (channelOk_operating (by exact hmode))
  | done hops henable hbusy hcount =>
    have hmode := (hs 1).operating (.inl henable)
    exact channelsOk_setDevice hs (by rfl) (channelOk_operating (by exact hmode))

theorem SendStep.channelsOk (h : SendStep times 1 s calls s') (hs : ChannelsOk s) :
    ChannelsOk s' := by
  cases h with
  | off h => exact hs
  | start hops henable hsend hcount =>
    have hmode := (hs 1).operating (.inr henable)
    exact channelsOk_setDevice hs (by rfl) (channelOk_operating (by exact hmode))
  | finish henable hsend hcount hend =>
    have hmode := (hs 1).operating (.inr henable)
    exact channelsOk_setDevice hs (by rfl) (channelOk_operating (by exact hmode))
  | wait henable hsend hcount hlt =>
    have hmode := (hs 1).operating (.inr henable)
    exact channelsOk_setDevice hs (by rfl) (channelOk_operating (by exact hmode))

theorem PutStep.channelsOk {addr : BitVec 32} {data : BitVec 8} (h : PutStep addr data s calls s')
    (hs : ChannelsOk s) : ChannelsOk s' := by
  cases h with
  | @transmit ch ops haddr hops =>
    obtain ⟨hread, hsend, hsending, hreceiving⟩ := hs ch
    exact channelsOk_setDevice hs (by rfl) ⟨hread, hsend, hsending, hreceiving⟩
  | @operate ch haddr hdata =>
    obtain ⟨-, -, hsending, hreceiving⟩ := hs ch
    exact channelsOk_setDevice hs (by rfl)
      ⟨nofun, nofun, fun h => hsending (h.elim nofun .inr), fun h => hreceiving (h.elim nofun .inr)⟩
  | @silence ch haddr hdata =>
    exact channelsOk_setDevice hs (by rfl)
      ⟨fun _ => rfl, fun _ => rfl, fun _ => rfl, fun _ => rfl⟩
  | @enable ch haddr hmode =>
    obtain ⟨-, -, hsending, hreceiving⟩ := hs ch
    refine channelsOk_setDevice hs (by rfl) ⟨fun h => ?_, fun h => ?_, hsending, hreceiving⟩
    · exact absurd (hmode.symm.trans h) nofun
    · exact absurd (hmode.symm.trans h) nofun
  | locked haddr hmode => exact hs
  | @option ch haddr =>
    obtain ⟨hread, hsend, hsending, hreceiving⟩ := hs ch
    exact channelsOk_setDevice hs (by rfl) ⟨hread, hsend, hsending, hreceiving⟩
  | plain hlutdrl hlcuc => exact hs

theorem EventStep.channelsOk {e : SerialEvent E} (h : EventStep p s e calls s')
    (hs : ChannelsOk s) : ChannelsOk s' := by
  cases h with
  | get8 addr => exact hs
  | get16 addr => exact hs
  | get32 addr => exact hs
  | put8 hput => exact hput.channelsOk hs
  | @transmit16 addr data ch haddr =>
    obtain ⟨hread, hsend, hsending, hreceiving⟩ := hs ch
    exact channelsOk_setDevice hs (by rfl) ⟨hread, hsend, hsending, hreceiving⟩
  | put16 haddr => exact hs
  | put32 addr data => exact hs
  | storePointer addr data => exact hs
  | clock hreceive hsend => exact hsend.channelsOk (hreceive.channelsOk hs)
  | host e => exact hs
  | reset => exact channelsOk_resetSerial p.ops s

end Events

/-- The channels are in order after every run. -/
theorem channelsOk_of_run {events : List (SerialEvent E)} {log : List (SerialEntry H E)}
    {s : Serial H} {host : H}
    (h : (serialWatch p events).run (bootSerial p.ops host) = (.ok log, s)) : ChannelsOk s :=
  serialWatch_induction (I := fun _ s => ChannelsOk s) (channelsOk_resetSerial p.ops _)
    (fun _ _ _ _ _ hs _ hstep => hstep.channelsOk hs) h

/-! ## Calls -/

/-- Calls that take no byte and raise no interrupt. -/
def Silent (calls : List SerialCall) : Prop :=
  ∀ call ∈ calls, ∃ ch byte, call = .putchar ch byte

/-- An event that lets channel 1 leave reset mode. -/
def SerialEvent.Operates (e : SerialEvent E) : Prop :=
  ∃ data : BitVec 8, data ≠ 0 ∧ e = .put8 (rlin3xLcuc (channelNo 1)) data

section Silent

variable {s t s' : Serial H} {calls : List SerialCall} {times : SerialTimes}

theorem silent_nil : Silent [] := nofun

/-- In reset mode a clock does nothing. -/
theorem ReceiveStep.eq_of_resetMode (h : ReceiveStep times 1 s calls t) (hs : ChannelsOk s)
    (hmode : (s.device 1).isResetMode = true) : calls = [] ∧ t = s := by
  have hread := (hs 1).readEnable hmode
  cases h with
  | off h => exact ⟨rfl, rfl⟩
  | empty hops henable hidle hnone => exact absurd (henable.symm.trans hread) nofun
  | take hops henable hidle hbyte => exact absurd (henable.symm.trans hread) nofun
  | wait hops henable hbusy hcount => exact absurd (henable.symm.trans hread) nofun
  | done hops henable hbusy hcount => exact absurd (henable.symm.trans hread) nofun

theorem SendStep.eq_of_resetMode (h : SendStep times 1 s calls s') (hs : ChannelsOk s)
    (hmode : (s.device 1).isResetMode = true) : calls = [] ∧ s' = s := by
  have hsend := (hs 1).sendEnable hmode
  cases h with
  | off h => exact ⟨rfl, rfl⟩
  | start hops henable hsend' hcount => exact absurd (henable.symm.trans hsend) nofun
  | finish henable hsend' hcount hend => exact absurd (henable.symm.trans hsend) nofun
  | wait henable hsend' hcount hlt => exact absurd (henable.symm.trans hsend) nofun

theorem PutStep.silent {addr : BitVec 32} {data : BitVec 8} (h : PutStep addr data s calls s')
    (hmode : (s.device 1).isResetMode = true)
    (hstay : ¬ (addr = rlin3xLcuc (channelNo 1) ∧ data ≠ 0)) :
    Silent calls ∧ (s'.device 1).isResetMode = true := by
  have hkeep {t : Serial H} {ch : Fin udnChannelNum} {serial : SerialDevice H}
      (ht : t.device = s.device) (hserial : ch = 1 → serial.isResetMode = true) :
      ((t.setDevice ch serial).device 1).isResetMode = true := by
    by_cases hch : ch = 1
    · subst hch
      rw [Serial.device_setDevice_self]
      exact hserial rfl
    · rw [Serial.device_setDevice_of_ne _ _ _ (Ne.symm hch), ht]
      exact hmode
  cases h with
  | @transmit ch ops haddr hops =>
    refine ⟨fun call hcall => ⟨ch, data, List.mem_singleton.mp hcall⟩, hkeep (by rfl) ?_⟩
    rintro rfl
    exact hmode
  | @operate ch haddr hdata =>
    refine ⟨silent_nil, hkeep (by rfl) ?_⟩
    rintro rfl
    exact absurd ⟨haddr, hdata⟩ hstay
  | silence haddr hdata => exact ⟨silent_nil, hkeep (by rfl) fun _ => rfl⟩
  | @enable ch haddr hmode' =>
    refine ⟨silent_nil, hkeep (by rfl) ?_⟩
    rintro rfl
    exact hmode
  | locked haddr hmode' => exact ⟨silent_nil, hmode⟩
  | @option ch haddr =>
    refine ⟨silent_nil, hkeep (by rfl) ?_⟩
    rintro rfl
    exact hmode
  | plain hlutdrl hlcuc => exact ⟨silent_nil, hmode⟩

/-- In reset mode every event is silent, and only one leads out of it. -/
theorem EventStep.silent {e : SerialEvent E} (h : EventStep p s e calls s') (hs : ChannelsOk s)
    (hmode : (s.device 1).isResetMode = true) (hstay : ¬ e.Operates) :
    Silent calls ∧ (s'.device 1).isResetMode = true := by
  cases h with
  | get8 addr => exact ⟨silent_nil, hmode⟩
  | get16 addr => exact ⟨silent_nil, hmode⟩
  | get32 addr => exact ⟨silent_nil, hmode⟩
  | @put8 addr data _ _ hput =>
    exact hput.silent hmode fun h => hstay ⟨data, h.2, by rw [h.1]⟩
  | @transmit16 addr data ch haddr =>
    refine ⟨silent_nil, ?_⟩
    by_cases hch : ch = 1
    · subst hch
      rw [Serial.device_setDevice_self]
      exact hmode
    · rw [Serial.device_setDevice_of_ne _ _ _ (Ne.symm hch)]
      exact hmode
  | put16 haddr => exact ⟨silent_nil, hmode⟩
  | put32 addr data => exact ⟨silent_nil, hmode⟩
  | storePointer addr data => exact ⟨silent_nil, hmode⟩
  | clock hreceive hsend =>
    obtain ⟨hreceived, rfl⟩ := hreceive.eq_of_resetMode hs hmode
    obtain ⟨hsent, rfl⟩ := hsend.eq_of_resetMode hs hmode
    rw [hreceived, hsent]
    exact ⟨silent_nil, hmode⟩
  | host e => exact ⟨silent_nil, hmode⟩
  | reset =>
    refine ⟨silent_nil, ?_⟩
    unfold resetSerial deviceExSerialRegisterOps
    rw [Serial.device_setDevice_self]
    rfl

end Silent

section Runs

variable {events events' : List (SerialEvent E)} {log log' : List (SerialEntry H E)}
  {s s' : Serial H} {host : H}

/-- From a state in reset mode a run takes no byte and raises no interrupt, and
stays in reset mode, until software stores another value than zero to the mode
register. -/
theorem reset_mode_silent
    (h : (serialWatch p events).run (bootSerial p.ops host) = (.ok log, s))
    (hmode : (s.device 1).isResetMode = true)
    (h' : (serialWatch p events').run s = (.ok log', s'))
    (hstay : ∀ entry ∈ log', ¬ entry.label.Operates) :
    (∀ entry ∈ log', Silent entry.result) ∧ (s'.device 1).isResetMode = true := by
  have hwired : OpsWired p s :=
    serialWatch_induction (I := fun _ s => OpsWired p s) (wired_resetSerial p _)
      (fun _ _ _ _ _ _ hwired hstep => hwired.step hstep) h
  have hall := watched_induction
    (I := fun log s => OpsWired p s ∧ ChannelsOk s ∧
      ((∀ entry ∈ log, ¬ entry.label.Operates) →
        (∀ entry ∈ log, Silent entry.result) ∧ (s.device 1).isResetMode = true))
    ⟨hwired, channelsOk_of_run h, fun _ => ⟨nofun, hmode⟩⟩
    (fun log s e calls s' ih hrun => ?_) h'
  · exact hall.2.2 hstay
  · obtain ⟨hwired, hok, hpast⟩ := ih
    have hstep := serialStep_cases hwired.ne_none hrun
    refine ⟨hwired.step hstep, hstep.channelsOk hok, fun hstay => ?_⟩
    obtain ⟨hsilent, hmode⟩ := hpast fun entry hentry => hstay entry (List.mem_append_left _ hentry)
    have hlast := hstay _ (List.mem_append_right _ List.mem_cons_self)
    obtain ⟨hcalls, hmode'⟩ := hstep.silent hok hmode hlast
    refine ⟨fun entry hentry => ?_, hmode'⟩
    obtain hentry | hentry := List.mem_append.mp hentry
    · exact hsilent entry hentry
    · rw [List.mem_singleton.mp hentry]
      exact hcalls

/-- A store to the enable register and a clock, in reset mode with a letter on
the line. -/
def lockedEvents : List (SerialEvent (BitVec 8 × BitVec 8)) :=
  [.put8 (rlin3xLuoer 1) 3, .host (1, 0x41), .clock]

theorem not_operates_lockedEvents : ∀ e ∈ lockedEvents, ¬ e.Operates := by
  intro e he
  rintro ⟨data, -, rfl⟩
  have hplace : rlin3xLcuc (channelNo 1) ≠ rlin3xLuoer 1 := register_ne (by decide) 1
  simp [lockedEvents] at he
  exact hplace he.1

theorem reset_mode_silent_letter :
    ∃ log s, (serialWatch (dbgPlatform ⟨0, 0⟩) lockedEvents).run
        (bootSerial deviceExSerialOp DbgSerial.start) = (.ok log, s) ∧
      (∀ entry ∈ log, Silent entry.result) ∧ (s.device 1).isResetMode = true := by
  have hsucceeds : Succeeds (serialWatch (dbgPlatform ⟨0, 0⟩) lockedEvents)
      (bootSerial deviceExSerialOp DbgSerial.start) :=
    serialWatch_succeeds (wired_resetSerial _ _) (by decide)
  obtain ⟨log, s, h⟩ := hsucceeds
  have hboot : (serialWatch (dbgPlatform ⟨0, 0⟩) []).run
      (bootSerial deviceExSerialOp DbgSerial.start) =
        (.ok [], bootSerial deviceExSerialOp DbgSerial.start) := rfl
  have hlabels := labels_of_watched h
  refine ⟨log, s, h, reset_mode_silent hboot rfl h ?_⟩
  intro entry hentry
  refine not_operates_lockedEvents _ ?_
  rw [← hlabels]
  exact List.mem_map_of_mem hentry

/-- The status as a load gives it. -/
theorem serialGetData8_lst (ch : Fin udnChannelNum) (s : Serial H) :
    (serialGetData8 (rlin3xLst (channelNo ch))).run s = (.ok (serialStatus (s.device ch)), s) := by
  have hlt : ch.val < 4 := ch.isLt
  have hchannel : rlinGetChannel (rlin3xLst (channelNo ch)) = channelNo ch :=
    getChannel_register (by decide) (by rw [toNat_channelNo]; omega)
  unfold serialGetData8
  dsimp only
  rw [hchannel, if_pos rfl, run_bind, run_channelNo, andThen_ok, run_bind, run_getDevice,
    andThen_ok, run_pure]

theorem serialStatus_eq (serial : SerialDevice H) :
    serialStatus serial =
      if serial.isReceiving = true ∨ serial.isSending = true then 1 else 0 := by
  unfold serialStatus
  cases serial.isReceiving with
  | true => cases serial.isSending <;> decide
  | false => cases serial.isSending <;> decide

/-- After every run a load of a status register gives 1 when the channel is
channel 1 and transfers a byte in any direction, and else 0: the bits that the
header names for the two directions are never set. -/
theorem status_load (h : (serialWatch p events).run (bootSerial p.ops host) = (.ok log, s))
    (ch : Fin udnChannelNum) :
    ∃ status : BitVec 8, (serialGetData8 (rlin3xLst (channelNo ch))).run s = (.ok status, s) ∧
      (status = 1 ↔ ch = 1 ∧ ((s.device 1).isReceiving = true ∨ (s.device 1).isSending = true)) ∧
      (status = 0 ∨ status = 1) ∧ status.getLsbD 4 = false ∧ status.getLsbD 5 = false := by
  have hok := channelsOk_of_run h ch
  refine ⟨_, serialGetData8_lst ch s, ?_⟩
  rw [serialStatus_eq]
  by_cases hch : ch = 1
  · subst hch
    split_ifs with hbusy
    · exact ⟨iff_of_true rfl ⟨rfl, hbusy⟩, .inr rfl, rfl, rfl⟩
    · exact ⟨iff_of_false (by decide) fun hand => hbusy hand.2, .inl rfl, rfl, rfl⟩
  · have hidle : ¬ ((s.device ch).isReceiving = true ∨ (s.device ch).isSending = true) := by
      rw [hok.receiving (.inr hch), hok.sending (.inr hch)]
      decide
    rw [if_neg hidle]
    exact ⟨iff_of_false (by decide) fun hand => hch hand.1, .inl rfl, rfl, rfl⟩

theorem status_load_letter :
    ∃ log s, (serialWatch (dbgPlatform ⟨0, 0⟩) letterEvents).run
        (bootSerial deviceExSerialOp DbgSerial.start) = (.ok log, s) ∧
      ∃ status : BitVec 8, (serialGetData8 (rlin3xLst (channelNo 1))).run s = (.ok status, s) ∧
        (status = 0 ∨ status = 1) := by
  obtain ⟨log, s, h⟩ := letterEvents_succeeds
  obtain ⟨status, hload, -, hvalue, -⟩ := status_load (p := dbgPlatform ⟨0, 0⟩) h 1
  exact ⟨log, s, h, status, hload, hvalue⟩

end Runs

end Athrill
