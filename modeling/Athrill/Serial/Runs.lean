import Athrill.Serial.Steps

/-!
# Runs of the serial interface

Any event as a relation with few cases, and the runs in which the C code has
defined behaviour: it depends on the addresses of the accesses alone.

* `EventStep`, `serialStep_cases`: an event that goes through.
* `OpsWired`: only channel 1 has operations.
* `SafeEvent`, `serialRun_ok_iff`: the runs that go through.
-/

namespace Athrill

open ByteMemory SerialM

variable {H E : Type} {p : SerialPlatform H E}

/-! ## Events -/

/-- What an event does. -/
inductive EventStep (p : SerialPlatform H E) (s : Serial H) :
    SerialEvent E → List SerialCall → Serial H → Prop
  | get8 (addr : BitVec 32) : EventStep p s (.get8 addr) [] s
  | get16 (addr : BitVec 32) : EventStep p s (.get16 addr) [] s
  | get32 (addr : BitVec 32) : EventStep p s (.get32 addr) [] s
  | put8 {addr : BitVec 32} {data : BitVec 8} {calls : List SerialCall} {s' : Serial H}
      (h : PutStep addr data (s.stored addr 1 data.toNat) calls s') :
    EventStep p s (.put8 addr data) calls s'
  /-- A halfword store to the data register has its byte sent, but not printed. -/
  | transmit16 {addr : BitVec 32} {data : BitVec 16} {ch : Fin udnChannelNum}
      (haddr : addr = rlin3xLutdrl (channelNo ch)) :
    EventStep p s (.put16 addr data) []
      ((s.stored addr 2 data.toNat).setDevice ch
        { s.device ch with sendData := data.truncate 8, isSendData := true })
  | put16 {addr : BitVec 32} {data : BitVec 16} (haddr : addr ≠ rlin3xLutdrl (rlinGetChannel addr)) :
    EventStep p s (.put16 addr data) [] (s.stored addr 2 data.toNat)
  | put32 (addr data : BitVec 32) : EventStep p s (.put32 addr data) [] (s.stored addr 4 data.toNat)
  | storePointer (addr data : BitVec 32) :
    EventStep p s (.storePointer addr data) [] (s.stored addr 4 data.toNat)
  | clock {received sent : List SerialCall} {t s' : Serial H}
      (hreceive : ReceiveStep p.times 1 s received t) (hsend : SendStep p.times 1 t sent s') :
    EventStep p s .clock (received ++ sent) s'
  | host (e : E) : EventStep p s (.host e) [] { s with host := p.hostStep e s.host }
  | reset : EventStep p s .reset [] (resetSerial p.ops s)

/-- A reception leaves the operations and the transmitter alone. -/
theorem ReceiveStep.sameSend {times : SerialTimes} {ch : Fin udnChannelNum} {s t : Serial H}
    {calls : List SerialCall} (h : ReceiveStep times ch s calls t) :
    (∀ ch', (t.device ch').ops = (s.device ch').ops) ∧
      (t.device ch).isSendData = (s.device ch).isSendData ∧
      (t.device ch).isSending = (s.device ch).isSending ∧
      (t.device ch).sendCounter = (s.device ch).sendCounter ∧
      (t.device ch).isSendEnable = (s.device ch).isSendEnable ∧
      (t.device ch).isSendStartIntr = (s.device ch).isSendStartIntr ∧
      (t.device ch).isResetMode = (s.device ch).isResetMode := by
  have hops {u : Serial H} {serial : SerialDevice H} (hu : u.device = s.device)
      (hserial : serial.ops = (s.device ch).ops) (ch' : Fin udnChannelNum) :
      ((u.setDevice ch serial).device ch').ops = (s.device ch').ops := by
    by_cases hch : ch' = ch
    · subst hch
      rw [Serial.device_setDevice_self, hserial]
    · rw [Serial.device_setDevice_of_ne _ _ _ hch, hu]
  cases h with
  | off h => exact ⟨fun _ => rfl, rfl, rfl, rfl, rfl, rfl, rfl⟩
  | empty hsome henable hidle hnone => exact ⟨fun _ => rfl, rfl, rfl, rfl, rfl, rfl, rfl⟩
  | take hsome henable hidle hbyte =>
    refine ⟨hops rfl rfl, ?_⟩
    rw [Serial.device_setDevice_self]
    exact ⟨rfl, rfl, rfl, rfl, rfl, rfl⟩
  | wait hsome henable hbusy hcount =>
    refine ⟨hops rfl rfl, ?_⟩
    rw [Serial.device_setDevice_self]
    exact ⟨rfl, rfl, rfl, rfl, rfl, rfl⟩
  | done hsome henable hbusy hcount =>
    refine ⟨hops rfl rfl, ?_⟩
    rw [Serial.device_setDevice_self]
    exact ⟨rfl, rfl, rfl, rfl, rfl, rfl⟩

/-- A clock goes through when operations are registered. -/
theorem supplyClockSerial_run (times : SerialTimes) {s : Serial H}
    (hops : (s.device 1).ops ≠ none) :
    ∃ received sent t s', (deviceSupplyClockSerial times).run s = (.ok (received ++ sent), s') ∧
      ReceiveStep times 1 s received t ∧ SendStep times 1 t sent s' := by
  obtain ⟨received, t, hreceive, hrstep⟩ := serialReceive_run times 1 s
  have hops' : (t.device 1).ops ≠ none := by
    rw [hrstep.sameSend.1]
    exact hops
  obtain ⟨sent, s', hsend, hsstep⟩ := serialSend_run times 1 t hops'
  refine ⟨received, sent, t, s', ?_, hrstep, hsstep⟩
  unfold deviceSupplyClockSerial deviceDoSerial
  rw [Routine.run_bind, hreceive, Routine.andThen_ok, Routine.run_bind, hsend, Routine.andThen_ok,
    Routine.run_pure]

/-- A load leaves the device alone. -/
theorem getBytes_eq_ok {addr : BitVec 32} {size value : Nat} {s s' : Serial H}
    (h : (getBytes addr size).run s = (.ok value, s')) : InSerialRegion addr size ∧ s' = s := by
  unfold getBytes at h
  rw [Routine.run_lift] at h
  dsimp only at h
  split_ifs at h with hin
  · exact ⟨hin, (congrArg Prod.snd h).symm⟩
  · exact absurd (congrArg Prod.fst h) nofun

theorem run_getBytes {addr : BitVec 32} {size : Nat} (h : InSerialRegion addr size) (s : Serial H) :
    (getBytes addr size).run s = (.ok (load s.data (addr - rlin3xBase) size), s) := by
  unfold getBytes
  rw [Routine.run_lift]
  exact if_pos h

theorem serialGetData8_eq_ok {addr : BitVec 32} {data : BitVec 8} {s s' : Serial H}
    (h : (serialGetData8 addr).run s = (.ok data, s')) : s' = s := by
  unfold serialGetData8 at h
  dsimp only at h
  rw [Routine.run_ite] at h
  split_ifs at h with hlst
  · obtain ⟨ch, t, hch, hrest⟩ := Routine.bind_eq_ok h
    obtain ⟨-, rfl⟩ := channel_eq_ok hch
    exact (congrArg Prod.snd hrest).symm
  · obtain ⟨value, t, ht, hrest⟩ := Routine.bind_eq_ok h
    obtain ⟨-, rfl⟩ := getBytes_eq_ok ht
    exact (congrArg Prod.snd hrest).symm

/-- An event that goes through. -/
theorem serialStep_cases {s s' : Serial H} {e : SerialEvent E} {calls : List SerialCall}
    (hops : (s.device 1).ops ≠ none) (h : (serialStep p e).run s = (.ok calls, s')) :
    EventStep p s e calls s' := by
  cases e with
  | get8 addr =>
    obtain ⟨data, t, ht, hrest⟩ := Routine.bind_eq_ok h
    obtain rfl := serialGetData8_eq_ok ht
    rw [Routine.run_pure, Prod.mk.injEq, Except.ok.injEq] at hrest
    obtain ⟨rfl, rfl⟩ := hrest
    exact .get8 addr
  | get16 addr =>
    obtain ⟨data, t, ht, hrest⟩ := Routine.bind_eq_ok h
    obtain ⟨value, u, hu, hlast⟩ := Routine.bind_eq_ok ht
    obtain ⟨-, rfl⟩ := getBytes_eq_ok hu
    rw [Routine.run_pure, Prod.mk.injEq, Except.ok.injEq] at hrest hlast
    obtain ⟨rfl, rfl⟩ := hrest
    obtain ⟨-, rfl⟩ := hlast
    exact .get16 addr
  | get32 addr =>
    obtain ⟨data, t, ht, hrest⟩ := Routine.bind_eq_ok h
    obtain ⟨value, u, hu, hlast⟩ := Routine.bind_eq_ok ht
    obtain ⟨-, rfl⟩ := getBytes_eq_ok hu
    rw [Routine.run_pure, Prod.mk.injEq, Except.ok.injEq] at hrest hlast
    obtain ⟨rfl, rfl⟩ := hrest
    obtain ⟨-, rfl⟩ := hlast
    exact .get32 addr
  | put8 addr data => exact .put8 (serialPutData8_step h).2
  | put16 addr data =>
    obtain ⟨u, t, ht, hrest⟩ := Routine.bind_eq_ok h
    obtain ⟨-, rfl⟩ := putBytes_eq_ok ht
    by_cases hlutdrl : addr = rlin3xLutdrl (rlinGetChannel addr)
    · rw [if_pos hlutdrl] at hrest
      obtain ⟨ch, t', hch, hlast⟩ := Routine.bind_eq_ok hrest
      obtain ⟨hno, rfl⟩ := channel_eq_ok hch
      rw [Routine.run_bind, run_modifyDevice, Routine.andThen_ok, Routine.run_pure, Prod.mk.injEq,
        Except.ok.injEq] at hlast
      obtain ⟨rfl, rfl⟩ := hlast
      exact .transmit16 (by rw [← hno]; exact hlutdrl)
    · rw [if_neg hlutdrl, Routine.run_pure, Prod.mk.injEq, Except.ok.injEq] at hrest
      obtain ⟨rfl, rfl⟩ := hrest
      exact .put16 hlutdrl
  | put32 addr data =>
    obtain ⟨u, t, ht, hrest⟩ := Routine.bind_eq_ok h
    obtain ⟨-, rfl⟩ := putBytes_eq_ok ht
    rw [Routine.run_pure, Prod.mk.injEq, Except.ok.injEq] at hrest
    obtain ⟨rfl, rfl⟩ := hrest
    exact .put32 addr data
  | storePointer addr data =>
    obtain ⟨u, t, ht, hrest⟩ := Routine.bind_eq_ok h
    obtain ⟨-, rfl⟩ := putBytes_eq_ok ht
    rw [Routine.run_pure, Prod.mk.injEq, Except.ok.injEq] at hrest
    obtain ⟨rfl, rfl⟩ := hrest
    exact .storePointer addr data
  | clock =>
    obtain ⟨received, sent, t, u, hrun, hreceive, hsend⟩ := supplyClockSerial_run p.times hops
    have heq : (Except.ok (received ++ sent), u) = (Except.ok calls, s') := hrun.symm.trans h
    rw [Prod.mk.injEq, Except.ok.injEq] at heq
    obtain ⟨rfl, rfl⟩ := heq
    exact .clock hreceive hsend
  | host e =>
    rw [show (serialStep p (.host e)).run s =
      (.ok [], { s with host := p.hostStep e s.host }) from rfl, Prod.mk.injEq,
      Except.ok.injEq] at h
    obtain ⟨rfl, rfl⟩ := h
    exact .host e
  | reset =>
    rw [show (serialStep p .reset).run s = (.ok [], resetSerial p.ops s) from rfl, Prod.mk.injEq,
      Except.ok.injEq] at h
    obtain ⟨rfl, rfl⟩ := h
    exact .reset

/-! ## Runs with defined behaviour -/

/-- Only channel 1 has operations. -/
structure OpsWired (p : SerialPlatform H E) (s : Serial H) : Prop where
  ops : (s.device 1).ops = some p.ops
  others : ∀ ch, ch ≠ 1 → (s.device ch).ops = none

theorem OpsWired.ne_none {s : Serial H} (h : OpsWired p s) : (s.device 1).ops ≠ none := by
  rw [h.ops]
  exact nofun

theorem OpsWired.of_ops {s s' : Serial H} (h : OpsWired p s)
    (hops : ∀ ch, (s'.device ch).ops = (s.device ch).ops) : OpsWired p s' where
  ops := (hops 1).trans h.ops
  others ch hch := (hops ch).trans (h.others ch hch)

theorem wired_resetSerial (p : SerialPlatform H E) (s : Serial H) :
    OpsWired p (resetSerial p.ops s) where
  ops := by
    unfold resetSerial deviceExSerialRegisterOps
    rw [Serial.device_setDevice_self]
  others ch hch := by
    unfold resetSerial deviceExSerialRegisterOps
    rw [Serial.device_setDevice_of_ne _ _ _ hch]
    rfl

/-- A channel gets other values, but keeps its operations. -/
theorem ops_setDevice {s t : Serial H} {ch : Fin udnChannelNum} {serial : SerialDevice H}
    (ht : t.device = s.device) (hserial : serial.ops = (s.device ch).ops)
    (ch' : Fin udnChannelNum) : ((t.setDevice ch serial).device ch').ops = (s.device ch').ops := by
  by_cases hch : ch' = ch
  · subst hch
    rw [Serial.device_setDevice_self, hserial]
  · rw [Serial.device_setDevice_of_ne _ _ _ hch, ht]

theorem PutStep.ops {addr : BitVec 32} {data : BitVec 8} {s s' : Serial H}
    {calls : List SerialCall} (h : PutStep addr data s calls s') (ch : Fin udnChannelNum) :
    (s'.device ch).ops = (s.device ch).ops := by
  cases h with
  | transmit haddr hops => exact ops_setDevice (by rfl) (by rfl) ch
  | operate haddr hdata => exact ops_setDevice (by rfl) (by rfl) ch
  | silence haddr hdata => exact ops_setDevice (by rfl) (by rfl) ch
  | enable haddr hmode => exact ops_setDevice (by rfl) (by rfl) ch
  | locked haddr hmode => rfl
  | option haddr => exact ops_setDevice (by rfl) (by rfl) ch
  | plain hlutdrl hlcuc => rfl

theorem SendStep.ops {times : SerialTimes} {ch : Fin udnChannelNum} {s s' : Serial H}
    {calls : List SerialCall} (h : SendStep times ch s calls s') (ch' : Fin udnChannelNum) :
    (s'.device ch').ops = (s.device ch').ops := by
  cases h with
  | off h => rfl
  | start hops henable hsend hcount => exact ops_setDevice (by rfl) (by rfl) ch'
  | finish henable hsend hcount hend => exact ops_setDevice (by rfl) (by rfl) ch'
  | wait henable hsend hcount hlt => exact ops_setDevice (by rfl) (by rfl) ch'

theorem OpsWired.step {s s' : Serial H} {e : SerialEvent E} {calls : List SerialCall}
    (h : OpsWired p s) (hstep : EventStep p s e calls s') : OpsWired p s' := by
  cases hstep with
  | get8 addr => exact h
  | get16 addr => exact h
  | get32 addr => exact h
  | put8 hput => exact h.of_ops fun ch => hput.ops ch
  | transmit16 haddr => exact h.of_ops fun ch => ops_setDevice (by rfl) (by rfl) ch
  | put16 haddr => exact h.of_ops fun _ => rfl
  | put32 addr data => exact h.of_ops fun _ => rfl
  | storePointer addr data => exact h.of_ops fun _ => rfl
  | clock hreceive hsend =>
    exact h.of_ops fun ch => (hsend.ops ch).trans (hreceive.sameSend.1 ch)
  | host e => exact h.of_ops fun _ => rfl
  | reset => exact wired_resetSerial p s

theorem OpsWired.serialStep {s s' : Serial H} {e : SerialEvent E} {calls : List SerialCall}
    (h : OpsWired p s) (hstep : (serialStep p e).run s = (.ok calls, s')) : OpsWired p s' :=
  h.step (serialStep_cases h.ne_none hstep)

/-- A property of the events, the calls and the state is proved for one event
that goes through. -/
theorem serialRun_induction {I : List (SerialEvent E) → List (List SerialCall) → Serial H → Prop}
    {host : H} (hinit : I [] [] (bootSerial p.ops host))
    (hstep : ∀ es cs s e c s', I es cs s → OpsWired p s → EventStep p s e c s' →
      I (es ++ [e]) (cs ++ [c]) s')
    {events : List (SerialEvent E)} {journal : List (List SerialCall)} {s : Serial H}
    (h : (serialRun p events).run (bootSerial p.ops host) = (.ok journal, s)) :
    I events journal s := by
  have hall := Routine.journal_induction (I := fun es cs s => I es cs s ∧ OpsWired p s)
    ⟨hinit, wired_resetSerial p _⟩
    (fun es cs s e c s' hs hrun => by
      have hcases := serialStep_cases hs.2.ne_none hrun
      exact ⟨hstep es cs s e c s' hs.1 hs.2 hcases, hs.2.step hcases⟩) h
  exact hall.1

/-- An access that the C code has defined behaviour for, in any state. -/
def SafeEvent : SerialEvent E → Prop
  | .get8 addr =>
    InSerialRegion addr 1 ∧
      (addr = rlin3xLst (rlinGetChannel addr) → (rlinGetChannel addr).toNat < udnChannelNum)
  | .get16 addr => InSerialRegion addr 2
  | .get32 addr => InSerialRegion addr 4
  | .put8 addr _ =>
    InSerialRegion addr 1 ∧ (addr = rlin3xLutdrl (rlinGetChannel addr) → rlinGetChannel addr = 1) ∧
      (addr = rlin3xLcuc (rlinGetChannel addr) ∨ addr = rlin3xLuoer (rlinGetChannel addr) ∨
        addr = rlin3xLuor1 (rlinGetChannel addr) → (rlinGetChannel addr).toNat < udnChannelNum)
  | .put16 addr _ =>
    InSerialRegion addr 2 ∧
      (addr = rlin3xLutdrl (rlinGetChannel addr) → (rlinGetChannel addr).toNat < udnChannelNum)
  | .put32 addr _ => InSerialRegion addr 4
  | .storePointer addr _ => InSerialRegion addr 4
  | .clock => True
  | .host _ => True
  | .reset => True

instance (e : SerialEvent E) : Decidable (SafeEvent e) := by
  cases e <;> unfold SafeEvent <;> infer_instance

section Safe

open Routine

variable {s : Serial H} {addr : BitVec 32}

theorem succeeds_putBytes (size value : Nat) :
    Succeeds (putBytes addr size value) s ↔ InSerialRegion addr size :=
  ⟨fun ⟨_, _, h⟩ => (putBytes_eq_ok h).1, fun h => succeeds_of_run (run_putBytes_eq h value s)⟩

theorem succeeds_getBytes (size : Nat) :
    Succeeds (getBytes addr size) s ↔ InSerialRegion addr size :=
  ⟨fun ⟨_, _, h⟩ => (getBytes_eq_ok h).1, fun h => succeeds_of_run (run_getBytes h s)⟩

theorem succeeds_channel {no : BitVec 8} :
    Succeeds (channel no) s ↔ no.toNat < udnChannelNum := by
  constructor
  · rintro ⟨ch, s', h⟩
    rw [(channel_eq_ok h).1, toNat_channelNo]
    exact ch.isLt
  · exact fun h => succeeds_of_run (run_channel h s)

/-- Bytes go into the region, and then the rest decides. -/
theorem succeeds_putBytes_bind {α : Type} {size value : Nat} {x : SerialM H α} :
    Succeeds (do putBytes addr size value; x) s ↔
      InSerialRegion addr size ∧ Succeeds x (s.stored addr size value) := by
  constructor
  · intro h
    have hin := (succeeds_putBytes size value).mp h.bind
    exact ⟨hin, (succeeds_bind_iff (run_putBytes_eq hin value s)).mp h⟩
  · rintro ⟨hin, hx⟩
    exact (succeeds_bind_iff (run_putBytes_eq hin value s)).mpr hx

/-- The rest of a register access is defined once its channel is. -/
theorem succeeds_channel_bind {α : Type} (no : BitVec 8) {f : Fin udnChannelNum → SerialM H α}
    (hf : ∀ ch, Succeeds (f ch) s) :
    Succeeds (channel no >>= f) s ↔ no.toNat < udnChannelNum := by
  constructor
  · exact fun h => succeeds_channel.mp h.bind
  · exact fun h => (succeeds_bind_iff (run_channel h s)).mpr (hf _)

theorem succeeds_putLutdrl (hwired : OpsWired p s) (no data : BitVec 8) :
    Succeeds (putLutdrl no data) s ↔ no = 1 := by
  constructor
  · rintro ⟨calls, s', h⟩
    obtain ⟨ch, t, hch, hrest⟩ := bind_eq_ok h
    obtain ⟨rfl, rfl⟩ := channel_eq_ok hch
    by_contra hno
    have hne : ch ≠ 1 := by
      rintro rfl
      exact hno rfl
    rw [run_bind, run_modifyDevice, andThen_ok, run_bind, run_getDevice, andThen_ok] at hrest
    simp only [Serial.device_setDevice_self, hwired.others ch hne] at hrest
    exact absurd (congrArg Prod.fst hrest) nofun
  · rintro rfl
    have hchannel := run_channelNo 1 s
    unfold putLutdrl
    refine (succeeds_bind_iff hchannel).mpr ?_
    refine (succeeds_bind_iff (run_modifyDevice ..)).mpr ?_
    refine (succeeds_bind_iff (run_getDevice ..)).mpr ?_
    simp only [Serial.device_setDevice_self, hwired.ops]
    exact succeeds_of_run rfl

theorem succeeds_putLcuc (no data : BitVec 8) :
    Succeeds (putLcuc no data) s ↔ no.toNat < udnChannelNum := by
  unfold putLcuc
  rw [succeeds_putBytes_bind]
  have hrest : ∀ t : Serial H, Succeeds (channel no >>= fun ch => do
      modifyDevice ch fun serial => { serial with isResetMode := decide (data = 0) }
      let serial ← getDevice ch
      if serial.isResetMode then
        serialChangeModeReset ch
        pure []
      else (pure [] : SerialM H (List SerialCall))) t ↔ no.toNat < udnChannelNum := by
    intro t
    refine succeeds_channel_bind _ fun ch => ?_
    refine (succeeds_bind_iff (run_modifyDevice ..)).mpr ?_
    refine (succeeds_bind_iff (run_getDevice ..)).mpr ?_
    split_ifs with hmode
    · exact (succeeds_bind_iff (run_serialChangeModeReset ..)).mpr (succeeds_pure _ _)
    · exact succeeds_pure _ _
  rw [hrest]
  refine and_iff_right_of_imp fun hlt => ?_
  have hno : no = channelNo ⟨no.toNat, hlt⟩ :=
    BitVec.eq_of_toNat_eq (toNat_channelNo ⟨no.toNat, hlt⟩).symm
  rw [hno]
  exact inSerialRegion_register (by decide) _

theorem succeeds_putLuoer (no data : BitVec 8) :
    Succeeds (putLuoer no data) s ↔ no.toNat < udnChannelNum := by
  unfold putLuoer
  refine succeeds_channel_bind _ fun ch => ?_
  refine (succeeds_bind_iff (run_getDevice ..)).mpr ?_
  split_ifs with hmode
  · exact (succeeds_bind_iff (run_modifyDevice ..)).mpr (succeeds_pure _ _)
  · exact succeeds_pure _ _

theorem succeeds_putLuor1 (no data : BitVec 8) :
    Succeeds (putLuor1 no data) s ↔ no.toNat < udnChannelNum := by
  unfold putLuor1
  refine succeeds_channel_bind _ fun ch => ?_
  exact (succeeds_bind_iff (run_modifyDevice ..)).mpr (succeeds_pure _ _)

theorem succeeds_serialPutData8 (hwired : OpsWired p s) (data : BitVec 8) :
    Succeeds (serialPutData8 addr data) s ↔
      SafeEvent (.put8 addr data : SerialEvent E) := by
  have hstored : OpsWired p (s.stored addr 1 data.toNat) := hwired.of_ops fun _ => rfl
  have hregister {a b : BitVec 32} (hne : a ≠ b) {no : BitVec 8}
      (h : addr = rlin3xRegister a no) : addr ≠ rlin3xRegister b no := by
    rw [h]
    exact register_ne hne no
  unfold serialPutData8 SafeEvent
  rw [succeeds_putBytes_bind]
  refine and_congr_right fun hin => ?_
  generalize hno : rlinGetChannel addr = no
  by_cases hlutdrl : addr = rlin3xLutdrl no
  · have hlcuc : addr ≠ rlin3xLcuc no := hregister (by decide) hlutdrl
    have hluoer : addr ≠ rlin3xLuoer no := hregister (by decide) hlutdrl
    have hluor1 : addr ≠ rlin3xLuor1 no := hregister (by decide) hlutdrl
    rw [if_pos hlutdrl, succeeds_putLutdrl hstored]
    refine ⟨fun h => ⟨fun _ => h, ?_⟩, fun h => h.1 hlutdrl⟩
    rintro (hother | hother | hother)
    · exact absurd hother hlcuc
    · exact absurd hother hluoer
    · exact absurd hother hluor1
  · rw [if_neg hlutdrl]
    by_cases hlcuc : addr = rlin3xLcuc no
    · rw [if_pos hlcuc, succeeds_putLcuc]
      exact ⟨fun h => ⟨fun heq => absurd heq hlutdrl, fun _ => h⟩, fun h => h.2 (.inl hlcuc)⟩
    · rw [if_neg hlcuc]
      by_cases hluoer : addr = rlin3xLuoer no
      · rw [if_pos hluoer, succeeds_putLuoer]
        exact ⟨fun h => ⟨fun heq => absurd heq hlutdrl, fun _ => h⟩,
          fun h => h.2 (.inr (.inl hluoer))⟩
      · rw [if_neg hluoer]
        by_cases hluor1 : addr = rlin3xLuor1 no
        · rw [if_pos hluor1, succeeds_putLuor1]
          exact ⟨fun h => ⟨fun heq => absurd heq hlutdrl, fun _ => h⟩,
            fun h => h.2 (.inr (.inr hluor1))⟩
        · rw [if_neg hluor1]
          refine iff_of_true (succeeds_pure _ _) ⟨fun h => absurd h hlutdrl, ?_⟩
          rintro (hother | hother | hother)
          · exact absurd hother hlcuc
          · exact absurd hother hluoer
          · exact absurd hother hluor1

/-- A load of one byte: the status register is computed, and needs its channel. -/
theorem succeeds_serialGetData8 :
    Succeeds (serialGetData8 addr) s ↔ SafeEvent (.get8 addr : SerialEvent E) := by
  unfold serialGetData8 SafeEvent
  dsimp only
  generalize hno : rlinGetChannel addr = no
  by_cases hlst : addr = rlin3xLst no
  · rw [if_pos hlst]
    have hrest : Succeeds (channel no >>= fun ch => do
        let serial ← getDevice ch
        (pure (serialStatus serial) : SerialM H (BitVec 8))) s ↔ no.toNat < udnChannelNum :=
      succeeds_channel_bind _ fun ch =>
        (succeeds_bind_iff (run_getDevice ..)).mpr (succeeds_pure _ _)
    rw [hrest]
    refine ⟨fun hlt => ⟨?_, fun _ => hlt⟩, fun h => h.2 hlst⟩
    have hchannel : no = channelNo ⟨no.toNat, hlt⟩ :=
      BitVec.eq_of_toNat_eq (toNat_channelNo ⟨no.toNat, hlt⟩).symm
    rw [hlst, hchannel]
    exact inSerialRegion_register (by decide) _
  · rw [if_neg hlst]
    refine ⟨fun h => ⟨(succeeds_getBytes 1).mp h.bind, fun heq => absurd heq hlst⟩, fun h => ?_⟩
    exact (succeeds_bind_iff (run_getBytes h.1 s)).mpr (succeeds_pure _ _)

/-- What an event needs does not depend on the state. -/
theorem succeeds_serialStep (hwired : OpsWired p s) (e : SerialEvent E) :
    Succeeds (serialStep p e) s ↔ SafeEvent e := by
  cases e with
  | get8 addr =>
    unfold serialStep
    rw [succeeds_bind_of_forall fun _ => succeeds_pure _, succeeds_serialGetData8]
  | get16 addr =>
    unfold serialStep serialGetData16
    rw [succeeds_bind_of_forall fun _ => succeeds_pure _,
      succeeds_bind_of_forall fun _ => succeeds_pure _]
    exact succeeds_getBytes 2
  | get32 addr =>
    unfold serialStep serialGetData32
    rw [succeeds_bind_of_forall fun _ => succeeds_pure _,
      succeeds_bind_of_forall fun _ => succeeds_pure _]
    exact succeeds_getBytes 4
  | put8 addr data => exact succeeds_serialPutData8 hwired data
  | put16 addr data =>
    unfold serialStep serialPutData16 SafeEvent
    rw [succeeds_putBytes_bind]
    refine and_congr_right fun _ => ?_
    by_cases hlutdrl : addr = rlin3xLutdrl (rlinGetChannel addr)
    · rw [if_pos hlutdrl]
      have hrest := succeeds_channel_bind (rlinGetChannel addr)
        (s := s.stored addr 2 data.toNat)
        (f := fun ch => do
          modifyDevice ch fun serial =>
            { serial with sendData := data.truncate 8, isSendData := true }
          (pure [] : SerialM H (List SerialCall)))
        fun ch => (succeeds_bind_iff (run_modifyDevice ..)).mpr (succeeds_pure _ _)
      rw [hrest]
      exact ⟨fun h _ => h, fun h => h hlutdrl⟩
    · rw [if_neg hlutdrl]
      exact iff_of_true (succeeds_pure _ _) fun h => absurd h hlutdrl
  | put32 addr data =>
    unfold serialStep serialPutData32 SafeEvent
    rw [succeeds_putBytes_bind]
    exact and_iff_left (succeeds_pure _ _)
  | storePointer addr data =>
    unfold serialStep SafeEvent
    rw [succeeds_putBytes_bind]
    exact and_iff_left (succeeds_pure _ _)
  | clock =>
    obtain ⟨received, sent, t, s', hrun, -, -⟩ := supplyClockSerial_run p.times hwired.ne_none
    exact iff_of_true (succeeds_of_run hrun) trivial
  | host e => exact iff_of_true (succeeds_of_run rfl) trivial
  | reset => exact iff_of_true (succeeds_of_run rfl) trivial

/-- A run of such accesses goes through. -/
theorem serialRun_succeeds (hwired : OpsWired p s) {events : List (SerialEvent E)}
    (hsafe : ∀ e ∈ events, SafeEvent e) : Succeeds (serialRun p events) s :=
  (journal_ok_iff (fun _ e hwired => succeeds_serialStep hwired e)
    (fun _ _ _ _ hwired hrun => hwired.serialStep hrun) hwired events).mpr hsafe

/-- The C code has defined behaviour all along a run if and only if each access
meets the conditions on its address. -/
theorem serialRun_succeeds_iff (p : SerialPlatform H E) (host : H)
    (events : List (SerialEvent E)) :
    Succeeds (serialRun p events) (bootSerial p.ops host) ↔ ∀ e ∈ events, SafeEvent e :=
  journal_ok_iff (fun _ e hwired => succeeds_serialStep hwired e)
    (fun _ _ _ _ hwired hrun => hwired.serialStep hrun) (wired_resetSerial p _) events

end Safe

end Athrill
