import Athrill.Serial.Debug
import Athrill.Serial.Runs

/-!
# Reception

Every byte that the debugger puts on the line of channel 1 is taken once, in
order, and announced by one interrupt while it is in the data register.

* `serialWatch`: a run with its events and states.
* `Disturbs`: the events that interfere with a reception.
* `Reception`, `EventStep.reception`: what an event does to the receiver.
* `taken`, `announced`, `accepted`: the bytes along a run.
* `dbgPlatform`: the operations that `device.c` registers.
* `bytes_delivered_once`: what was accepted, was announced or still waits.
-/

namespace Athrill

open ByteMemory Routine

variable {H E : Type} {p : SerialPlatform H E}

/-! ## Watched runs -/

abbrev SerialEntry (H E : Type) := LogEntry (SerialEvent E) (Serial H) (List SerialCall)

/-- The events one after the other, with the states. -/
def serialWatch (p : SerialPlatform H E) (events : List (SerialEvent E)) :
    SerialM H (List (SerialEntry H E)) :=
  events.mapM (watched (serialStep p))

/-- A property of a watched run is proved for one event that goes through. -/
theorem serialWatch_induction {I : List (SerialEntry H E) → Serial H → Prop} {host : H}
    (hinit : I [] (bootSerial p.ops host))
    (hstep : ∀ log s e calls s', I log s → OpsWired p s → EventStep p s e calls s' →
      I (log ++ [⟨e, s, calls, s'⟩]) s')
    {events : List (SerialEvent E)} {log : List (SerialEntry H E)} {s : Serial H}
    (h : (serialWatch p events).run (bootSerial p.ops host) = (.ok log, s)) : I log s := by
  have hall := watched_induction (I := fun log s => I log s ∧ OpsWired p s)
    ⟨hinit, wired_resetSerial p _⟩
    (fun log s e calls s' hs hrun => by
      have hcases := serialStep_cases hs.2.ne_none hrun
      exact ⟨hstep log s e calls s' hs.1 hs.2 hcases, hs.2.step hcases⟩) h
  exact hall.1

/-- A run of accesses with defined behaviour goes through. -/
theorem serialWatch_succeeds {events : List (SerialEvent E)} {s : Serial H} (hwired : OpsWired p s)
    (hsafe : ∀ e ∈ events, SafeEvent e) : Succeeds (serialWatch p events) s :=
  (journal_ok_iff
    (fun _ e hwired => succeeds_watched.trans (succeeds_serialStep hwired e))
    (fun _ _ _ _ hwired hrun => hwired.serialStep (watched_eq_ok.mp hrun).1) hwired events).mpr hsafe

/-! ## The receiver of channel 1 -/

/-- The receive data register of channel 1. -/
def Serial.received (s : Serial H) : BitVec 8 := s.data (receiveOffset 1)

/-- The bytes that calls have taken from outside. -/
def takenBytes (calls : List SerialCall) : List (BitVec 8) :=
  calls.filterMap fun call =>
    match call with
    | .getchar _ byte => some byte
    | _ => none

/-- How often calls raise the receive interrupt of channel 1. -/
def announcements (calls : List SerialCall) : Nat :=
  calls.count (.raiseInt (serialRlin3xGetRxIntno 1))

/-- A store that reaches a byte of the region. -/
def SerialEvent.Covers (offset : BitVec 32) : SerialEvent E → Prop
  | .put8 addr _ => Within (addr - rlin3xBase) 1 offset
  | .put16 addr _ => Within (addr - rlin3xBase) 2 offset
  | .put32 addr _ => Within (addr - rlin3xBase) 4 offset
  | .storePointer addr _ => Within (addr - rlin3xBase) 4 offset
  | _ => False

/-- The receive data register is overwritten, or channel 1 is reset. -/
def Disturbs (e : SerialEvent E) : Prop :=
  e.Covers (receiveOffset 1) ∨ e = .put8 (rlin3xLcuc (channelNo 1)) 0 ∨ e = .reset

/-- What an event does to the receiver; an event that disturbs it may change the
data register or drop the byte. -/
inductive Reception (disturbs : Prop) (s : Serial H) (calls : List SerialCall) (s' : Serial H) :
    Prop
  | keep (htaken : takenBytes calls = []) (hquiet : announcements calls = 0)
      (hflag : (s'.device 1).isReceiving = (s.device 1).isReceiving)
      (hbyte : ¬ disturbs → s'.received = s.received)
  | take (htaken : takenBytes calls = [s'.received]) (hquiet : announcements calls = 0)
      (hidle : (s.device 1).isReceiving = false) (hbusy : (s'.device 1).isReceiving = true)
  | done (htaken : takenBytes calls = []) (hraise : announcements calls = 1)
      (hbusy : (s.device 1).isReceiving = true) (hidle : (s'.device 1).isReceiving = false)
      (hbyte : s'.received = s.received)
  | drop (hdisturbs : disturbs) (htaken : takenBytes calls = []) (hquiet : announcements calls = 0)
      (hidle : (s'.device 1).isReceiving = false)

theorem not_within_one {a b : BitVec 32} (h : a ≠ b) : ¬ Within a 1 b := by
  intro hin
  have hlt : (b - a).toNat < 1 := hin
  have hsub : b - a = 0#32 := BitVec.eq_of_toNat_eq (by rw [BitVec.toNat_zero]; omega)
  have hba : b = 0#32 + a := BitVec.sub_eq_iff_eq_add.mp hsub
  rw [BitVec.zero_add] at hba
  exact h hba.symm

/-- A byte is where it was stored. -/
theorem store_byte (mem : Memory 32) (addr : BitVec 32) (byte : BitVec 8) :
    store mem addr 1 byte.toNat addr = byte := by
  have hinside := @store_inside 32 addr 1 mem byte.toNat (by decide) 0 (by decide)
  rw [BitVec.add_zero] at hinside
  rw [hinside]
  unfold ByteMemory.byteOf
  rw [Nat.pow_zero, Nat.div_one, BitVec.ofNat_toNat, BitVec.setWidth_eq]

/-- No other register is in the place of the receive data register. -/
theorem receiveOffset_ne {offset : BitVec 32} (hoffset : offset.toNat < 0x40)
    (hne : offset ≠ 0x26) (ch : Fin udnChannelNum) :
    rlin3xRegister offset (channelNo ch) - rlin3xBase ≠ receiveOffset 1 := by
  have hlt : ch.val < 4 := ch.isLt
  have hch : (channelNo ch).toNat < 6 := by
    rw [toNat_channelNo]
    omega
  have hoff := toNat_register hoffset hch
  have hplace : (receiveOffset 1).toNat = 0x66 := by decide
  intro heq
  rw [heq, hplace, toNat_channelNo] at hoff
  exact hne (BitVec.eq_of_toNat_eq (by show offset.toNat = 0x26; omega))

namespace Serial

/-- A store that does not reach the data register. -/
theorem received_stored {addr : BitVec 32} {size value : Nat} {s : Serial H}
    (h : ¬ Within (addr - rlin3xBase) size (receiveOffset 1)) :
    (s.stored addr size value).received = s.received :=
  store_outside s.data value h

theorem received_register (offset : BitVec 32) (hoffset : offset.toNat < 0x40)
    (hne : offset ≠ 0x26) (ch : Fin udnChannelNum) (value : Nat) (s : Serial H) :
    (s.stored (rlin3xRegister offset (channelNo ch)) 1 value).received = s.received :=
  received_stored (not_within_one (receiveOffset_ne hoffset hne ch))

/-- The receiver of channel 1 stays as it is when a channel is changed in other
fields. -/
theorem isReceiving_setDevice {s t : Serial H} {ch : Fin udnChannelNum} {serial : SerialDevice H}
    (ht : t.device = s.device) (hserial : serial.isReceiving = (s.device ch).isReceiving)
    (ch' : Fin udnChannelNum) :
    ((t.setDevice ch serial).device ch').isReceiving = (s.device ch').isReceiving := by
  by_cases hch : ch' = ch
  · subst hch
    rw [device_setDevice_self, hserial]
  · rw [device_setDevice_of_ne _ _ _ hch, ht]

end Serial

/-! ## What each event does -/

section Events

variable {s t s' : Serial H} {calls : List SerialCall} {times : SerialTimes}

/-- A transmission has nothing to do with the receiver. -/
theorem SendStep.receiver (h : SendStep times 1 s calls s') :
    takenBytes calls = [] ∧ announcements calls = 0 ∧
      (s'.device 1).isReceiving = (s.device 1).isReceiving ∧ s'.received = s.received := by
  have hraise : takenBytes [.raiseInt (serialRlin3xGetTxIntno 1)] = [] ∧
      announcements [.raiseInt (serialRlin3xGetTxIntno 1)] = 0 := by decide
  have hnone : takenBytes [] = [] ∧ announcements [] = 0 := by decide
  cases h with
  | off h => exact ⟨hnone.1, hnone.2, rfl, rfl⟩
  | start hops henable hsend hcount =>
    rw [Serial.device_setDevice_self]
    split_ifs
    · exact ⟨hraise.1, hraise.2, rfl, rfl⟩
    · exact ⟨hnone.1, hnone.2, rfl, rfl⟩
  | finish henable hsend hcount hend =>
    rw [Serial.device_setDevice_self]
    split_ifs
    · exact ⟨hnone.1, hnone.2, rfl, rfl⟩
    · exact ⟨hraise.1, hraise.2, rfl, rfl⟩
  | wait henable hsend hcount hlt =>
    rw [Serial.device_setDevice_self]
    exact ⟨hnone.1, hnone.2, rfl, rfl⟩

/-- A clock of the receiver. -/
theorem ReceiveStep.reception (h : ReceiveStep times 1 s calls t) (disturbs : Prop) :
    Reception disturbs s calls t := by
  cases h with
  | off h => exact .keep rfl (by decide) rfl fun _ => rfl
  | empty hops henable hidle hnone => exact .keep rfl (by decide) rfl fun _ => rfl
  | @take ops byte hops henable hidle hbyte =>
    refine .take ?_ (by simp [announcements]) hidle ?_
    · show [byte] = [store s.data (receiveOffset 1) 1 byte.toNat (receiveOffset 1)]
      rw [store_byte]
    · rw [Serial.device_setDevice_self]
      rfl
  | wait hops henable hbusy hcount =>
    refine .keep rfl (by decide) ?_ fun _ => rfl
    rw [Serial.device_setDevice_self]
  | done hops henable hbusy hcount =>
    refine .done rfl (by decide) hbusy ?_ rfl
    rw [Serial.device_setDevice_self]

/-- A byte store. -/
theorem PutStep.reception {addr : BitVec 32} {data : BitVec 8} {disturbs : Prop}
    (h : PutStep addr data t calls s')
    (hmode : addr = rlin3xLcuc (channelNo 1) → data = 0 → disturbs)
    (hflag : (t.device 1).isReceiving = (s.device 1).isReceiving)
    (hbyte : ¬ disturbs → t.received = s.received) : Reception disturbs s calls s' := by
  have hnone : takenBytes [] = [] ∧ announcements [] = 0 := by decide
  cases h with
  | @transmit ch ops haddr hops =>
    exact .keep rfl (by simp [announcements])
      ((Serial.isReceiving_setDevice (by rfl) (by rfl) 1).trans hflag) hbyte
  | @operate ch haddr hdata =>
    refine .keep hnone.1 hnone.2
      ((Serial.isReceiving_setDevice (by rfl) (by rfl) 1).trans hflag) fun hcalm => ?_
    exact (Serial.received_register _ (by decide) (by decide) ch _ t).trans (hbyte hcalm)
  | @silence ch haddr hdata =>
    by_cases hch : ch = 1
    · subst hch
      refine .drop (hmode haddr hdata) hnone.1 hnone.2 ?_
      rw [Serial.device_setDevice_self]
      rfl
    · refine .keep hnone.1 hnone.2 ?_ fun hcalm => ?_
      · rw [Serial.device_setDevice_of_ne _ _ _ (Ne.symm hch)]
        exact hflag
      · have hluoer := Serial.received_register 0x20 (by decide) (by decide) ch 0
          ((t.stored (rlin3xLmst (channelNo ch)) 1 data.toNat).stored
            (rlin3xLst (channelNo ch)) 1 0)
        have hlst := Serial.received_register 0x12 (by decide) (by decide) ch 0
          (t.stored (rlin3xLmst (channelNo ch)) 1 data.toNat)
        have hlmst := Serial.received_register 0x11 (by decide) (by decide) ch
          data.toNat t
        exact (hluoer.trans (hlst.trans hlmst)).trans (hbyte hcalm)
  | enable haddr hmode =>
    exact .keep hnone.1 hnone.2
      ((Serial.isReceiving_setDevice (by rfl) (by rfl) 1).trans hflag) hbyte
  | locked haddr hmode => exact .keep hnone.1 hnone.2 hflag hbyte
  | option haddr =>
    exact .keep hnone.1 hnone.2
      ((Serial.isReceiving_setDevice (by rfl) (by rfl) 1).trans hflag) hbyte
  | plain hlutdrl hlcuc => exact .keep hnone.1 hnone.2 hflag hbyte

/-- The transmitter adds nothing to what the receiver takes and announces. -/
theorem takenBytes_append (received : List SerialCall) {sent : List SerialCall}
    (hsent : takenBytes sent = []) :
    takenBytes (received ++ sent) = takenBytes received := by
  unfold takenBytes at hsent ⊢
  rw [List.filterMap_append, hsent, List.append_nil]

theorem announcements_append (received : List SerialCall) {sent : List SerialCall}
    (hsent : announcements sent = 0) :
    announcements (received ++ sent) = announcements received := by
  unfold announcements at hsent ⊢
  rw [List.count_append, hsent, Nat.add_zero]

/-- Every event. -/
theorem EventStep.reception {e : SerialEvent E} (h : EventStep p s e calls s') :
    Reception (Disturbs e) s calls s' := by
  have hnone : takenBytes [] = [] ∧ announcements [] = 0 := by decide
  have hcalm {e : SerialEvent E} {addr : BitVec 32} {size value : Nat}
      (hcovers : Within (addr - rlin3xBase) size (receiveOffset 1) → e.Covers (receiveOffset 1))
      (hquiet : ¬ Disturbs e) : (s.stored addr size value).received = s.received :=
    Serial.received_stored fun hin => hquiet (.inl (hcovers hin))
  cases h with
  | get8 addr => exact .keep hnone.1 hnone.2 rfl fun _ => rfl
  | get16 addr => exact .keep hnone.1 hnone.2 rfl fun _ => rfl
  | get32 addr => exact .keep hnone.1 hnone.2 rfl fun _ => rfl
  | @put8 addr data _ _ hput =>
    refine hput.reception (fun haddr hdata => ?_) rfl (hcalm id)
    rw [haddr, hdata]
    exact .inr (.inl rfl)
  | transmit16 haddr =>
    exact .keep hnone.1 hnone.2 (Serial.isReceiving_setDevice (by rfl) (by rfl) 1) (hcalm id)
  | put16 haddr => exact .keep hnone.1 hnone.2 rfl (hcalm id)
  | put32 addr data => exact .keep hnone.1 hnone.2 rfl (hcalm id)
  | storePointer addr data => exact .keep hnone.1 hnone.2 rfl (hcalm id)
  | @clock received sent t _ hreceive hsend =>
    obtain ⟨hsent, hsentQuiet, hflag, hbyte⟩ := hsend.receiver
    have htaken := takenBytes_append received hsent
    have hraised := announcements_append received hsentQuiet
    cases hreceive.reception (Disturbs (.clock : SerialEvent E)) with
    | keep ht hq hf hb =>
      exact .keep (htaken.trans ht) (hraised.trans hq) (hflag.trans hf)
        fun hcalm => hbyte.trans (hb hcalm)
    | take ht hq hi hb =>
      refine .take ?_ (hraised.trans hq) hi (hflag.trans hb)
      rw [htaken, ht, hbyte]
    | done ht hr hb hi hd =>
      exact .done (htaken.trans ht) (hraised.trans hr) hb (hflag.trans hi) (hbyte.trans hd)
    | drop hd ht hq hi => exact .drop hd (htaken.trans ht) (hraised.trans hq) (hflag.trans hi)
  | host e => exact .keep hnone.1 hnone.2 rfl fun _ => rfl
  | reset =>
    refine .drop (.inr (.inr rfl)) hnone.1 hnone.2 ?_
    unfold resetSerial deviceExSerialRegisterOps
    rw [Serial.device_setDevice_self]
    rfl

end Events

/-! ## Along a run -/

/-- The bytes taken from outside. -/
def taken (log : List (SerialEntry H E)) : List (BitVec 8) :=
  log.flatMap fun entry => takenBytes entry.result

/-- The bytes that are in the data register when the interrupt is raised. -/
def announced (log : List (SerialEntry H E)) : List (BitVec 8) :=
  log.flatMap fun entry => List.replicate (announcements entry.result) entry.after.received

/-- The byte that is being received. -/
def Serial.inFlight (s : Serial H) : List (BitVec 8) :=
  if (s.device 1).isReceiving = true then [s.received] else []

theorem taken_snoc (log : List (SerialEntry H E)) (entry : SerialEntry H E) :
    taken (log ++ [entry]) = taken log ++ takenBytes entry.result := by
  unfold taken
  rw [List.flatMap_append, List.flatMap_singleton]

theorem announced_snoc (log : List (SerialEntry H E)) (entry : SerialEntry H E) :
    announced (log ++ [entry]) =
      announced log ++ List.replicate (announcements entry.result) entry.after.received := by
  unfold announced
  rw [List.flatMap_append, List.flatMap_singleton]

variable {log : List (SerialEntry H E)} {s : Serial H} {events : List (SerialEvent E)} {host : H}

/-- As long as nothing disturbs it, the receiver announces each byte it takes
while the byte is in the data register. -/
theorem taken_eq_announced
    (h : (serialWatch p events).run (bootSerial p.ops host) = (.ok log, s))
    (hquiet : ∀ entry ∈ log, ¬ Disturbs entry.label) :
    taken log = announced log ++ s.inFlight := by
  refine serialWatch_induction
    (I := fun log s => (∀ entry ∈ log, ¬ Disturbs entry.label) → taken log = announced log ++ s.inFlight)
    (fun _ => rfl) ?_ h hquiet
  intro log s e calls s' ih _ hstep hquiet
  have hpast := ih fun entry hentry => hquiet entry (List.mem_append_left _ hentry)
  have hcalm : ¬ Disturbs e := hquiet _ (List.mem_append_right _ List.mem_cons_self)
  rw [taken_snoc, announced_snoc, hpast]
  unfold Serial.inFlight
  cases hstep.reception with
  | keep htaken hq hflag hbyte =>
    rw [htaken, hq, hflag, hbyte hcalm, List.append_nil, List.replicate_zero, List.append_nil]
  | take htaken hq hidle hbusy =>
    rw [htaken, hq, hidle, hbusy, if_neg nofun, if_pos rfl, List.replicate_zero, List.append_nil]
  | done htaken hraise hbusy hidle hbyte =>
    rw [htaken, hraise, hbusy, hidle, hbyte, if_pos rfl, if_neg nofun, List.append_nil,
      List.append_nil]
    rfl
  | drop hdisturbs => exact absurd hdisturbs hcalm

/-- Whatever happens, there is no interrupt without a byte of its own. -/
theorem announced_le_taken
    (h : (serialWatch p events).run (bootSerial p.ops host) = (.ok log, s)) :
    (announced log).length + s.inFlight.length ≤ (taken log).length := by
  refine serialWatch_induction
    (I := fun log s => (announced log).length + s.inFlight.length ≤ (taken log).length)
    (Nat.le_refl 0) ?_ h
  intro log s e calls s' ih _ hstep
  rw [taken_snoc, announced_snoc, List.length_append, List.length_append]
  unfold Serial.inFlight at ih ⊢
  cases hstep.reception with
  | keep htaken hq hflag hbyte =>
    rw [htaken, hq, hflag]
    split_ifs at ih ⊢ <;> simpa using ih
  | take htaken hq hidle hbusy =>
    rw [htaken, hq, hbusy, if_pos rfl]
    rw [hidle] at ih
    simpa using ih
  | done htaken hraise hbusy hidle hbyte =>
    rw [htaken, hraise, hidle]
    rw [hbusy] at ih
    simpa using ih
  | drop hdisturbs htaken hq hidle =>
    rw [htaken, hq, hidle]
    split_ifs at ih
    · simp at ih ⊢
      omega
    · simpa using ih

/-! ## The line of the debugger -/

/-- `device_ex_serial_op`. -/
def deviceExSerialOp : DeviceExSerialOp DbgSerial where
  putchar := dbgSerialPutchar
  getchar := dbgSerialGetchar
  flush := none

/-- The device as `device_serial_init` connects it without a server port; the
debugger may give bytes to any line at any time. -/
def dbgPlatform (times : SerialTimes) : SerialPlatform DbgSerial (BitVec 8 × BitVec 8) where
  ops := deviceExSerialOp
  times := times
  hostStep input host := (dbgSerialIn input.1 input.2 host).2

abbrev DbgEntry := SerialEntry DbgSerial (BitVec 8 × BitVec 8)

/-- The byte of a step of the debugger that the line of channel 1 accepts. -/
def acceptedByte (entry : DbgEntry) : List (BitVec 8) :=
  match entry.label with
  | .host (channel, data) =>
    if channel = 1 ∧ (dbgSerialIn channel data entry.before.host).1 = .ok then [data] else []
  | _ => []

/-- The bytes that the line has accepted. -/
def accepted (log : List DbgEntry) : List (BitVec 8) :=
  log.flatMap acceptedByte

/-- The line is a queue, and a step moves its bytes in order. -/
structure LineStep (s s' : Serial DbgSerial) (input output : List (BitVec 8)) : Prop where
  queues : s'.host.Queues
  moved : s.host.waiting 1 ++ input = output ++ s'.host.waiting 1

section Line

variable {s t s' : Serial DbgSerial} {calls : List SerialCall} {times : SerialTimes}

theorem LineStep.refl (hqueues : s.host.Queues) (hsame : s'.host.fifo = s.host.fifo) :
    LineStep s s' [] [] := by
  refine ⟨fun ch => ?_, ?_⟩
  · rw [hsame]
    exact hqueues ch
  · unfold DbgSerial.waiting
    rw [hsame, List.append_nil, List.nil_append]

theorem ReceiveStep.line (h : ReceiveStep times 1 s calls t)
    (hops : (s.device 1).ops = some deviceExSerialOp) (hqueues : s.host.Queues) :
    LineStep s t [] (takenBytes calls) := by
  have hno : (channelNo 1).toNat = (1 : Fin dbgSerialChannelNum).val := rfl
  have hcases := DbgSerial.dbgSerialGetchar_cases hqueues (channelNo 1) 1 hno
  cases h with
  | off h => exact .refl hqueues rfl
  | empty hsome henable hidle hnone =>
    obtain rfl := Option.some.inj (hsome.symm.trans hops)
    obtain ⟨-, heq⟩ | ⟨byte, hbyte, -⟩ := hcases
    · refine .refl hqueues ?_
      show (dbgSerialGetchar (channelNo 1) s.host).2.fifo = s.host.fifo
      rw [heq]
    · exact absurd (hbyte.symm.trans hnone) nofun
  | take hsome henable hidle hbyte =>
    obtain rfl := Option.some.inj (hsome.symm.trans hops)
    obtain ⟨-, heq⟩ | ⟨byte', hbyte', hwaiting, hqueues'⟩ := hcases
    · have hnone : (dbgSerialGetchar (channelNo 1) s.host).1 = none := by rw [heq]
      exact absurd (hnone.symm.trans hbyte) nofun
    · obtain rfl := Option.some.inj (hbyte'.symm.trans hbyte)
      exact ⟨hqueues', by rw [List.append_nil]; exact hwaiting⟩
  | wait hops henable hbusy hcount => exact .refl hqueues rfl
  | done hops henable hbusy hcount => exact .refl hqueues rfl

theorem SendStep.line (h : SendStep times 1 s calls s')
    (hops : (s.device 1).ops = some deviceExSerialOp) : s'.host = s.host := by
  cases h with
  | off h => rfl
  | start hsome henable hsend hcount =>
    obtain rfl := Option.some.inj (hsome.symm.trans hops)
    rfl
  | finish henable hsend hcount hend => rfl
  | wait henable hsend hcount hlt => rfl

theorem PutStep.line {addr : BitVec 32} {data : BitVec 8} (h : PutStep addr data s calls s')
    (hwired : OpsWired (dbgPlatform times) s) : s'.host.fifo = s.host.fifo ∧ takenBytes calls = [] := by
  cases h with
  | @transmit ch ops haddr hops =>
    refine ⟨?_, rfl⟩
    by_cases hch : ch = 1
    · subst hch
      obtain rfl := Option.some.inj (hops.symm.trans hwired.ops)
      exact DbgSerial.fifo_dbgSerialPutchar
    · exact absurd ((hwired.others ch hch).symm.trans hops) nofun
  | operate haddr hdata => exact ⟨rfl, rfl⟩
  | silence haddr hdata => exact ⟨rfl, rfl⟩
  | enable haddr hmode => exact ⟨rfl, rfl⟩
  | locked haddr hmode => exact ⟨rfl, rfl⟩
  | option haddr => exact ⟨rfl, rfl⟩
  | plain hlutdrl hlcuc => exact ⟨rfl, rfl⟩

/-- Every event moves the bytes of the line in order. -/
theorem EventStep.line {e : SerialEvent (BitVec 8 × BitVec 8)}
    (h : EventStep (dbgPlatform times) s e calls s') (hwired : OpsWired (dbgPlatform times) s)
    (hqueues : s.host.Queues) : LineStep s s' (acceptedByte ⟨e, s, calls, s'⟩) (takenBytes calls) := by
  cases h with
  | get8 addr => exact .refl hqueues rfl
  | get16 addr => exact .refl hqueues rfl
  | get32 addr => exact .refl hqueues rfl
  | put8 hput =>
    obtain ⟨hfifo, htaken⟩ := hput.line (hwired.of_ops fun _ => rfl)
    rw [htaken]
    exact .refl hqueues hfifo
  | transmit16 haddr => exact .refl hqueues rfl
  | put16 haddr => exact .refl hqueues rfl
  | put32 addr data => exact .refl hqueues rfl
  | storePointer addr data => exact .refl hqueues rfl
  | @clock received sent t _ hreceive hsend =>
    have hline := hreceive.line hwired.ops hqueues
    have hhost := hsend.line ((hreceive.sameSend.1 1).trans hwired.ops)
    rw [takenBytes_append _ hsend.receiver.1]
    refine ⟨?_, ?_⟩
    · rw [hhost]
      exact hline.queues
    · rw [hhost]
      exact hline.moved
  | host input =>
    obtain ⟨channel, data⟩ := input
    have hqueues' := hqueues.dbgSerialIn channel data
    refine ⟨hqueues', ?_⟩
    show s.host.waiting 1 ++ (if channel = 1 ∧ (dbgSerialIn channel data s.host).1 = .ok
      then [data] else []) = (dbgSerialIn channel data s.host).2.waiting 1
    by_cases hch : channel = 1
    · have hno : channel.toNat = (1 : Fin dbgSerialChannelNum).val := by rw [hch]; rfl
      obtain ⟨-, heq⟩ | ⟨-, hok, -, hwaiting, -⟩ :=
        DbgSerial.dbgSerialIn_cases hqueues 1 data hno
      · rw [heq, if_neg fun h => absurd h.2 nofun, List.append_nil]
      · rw [hok, if_pos ⟨hch, rfl⟩, hwaiting]
    · have hno : channel.toNat ≠ (1 : Fin dbgSerialChannelNum).val :=
        fun heq => hch (BitVec.eq_of_toNat_eq heq)
      rw [if_neg fun h => hch h.1, DbgSerial.dbgSerialIn_of_ne hno, List.append_nil]
  | reset => exact .refl hqueues rfl

/-- The line along a run: what it has accepted was taken or waits. -/
theorem accepted_eq {events : List (SerialEvent (BitVec 8 × BitVec 8))} {log : List DbgEntry}
    (h : (serialWatch (dbgPlatform times) events).run
      (bootSerial deviceExSerialOp DbgSerial.start) = (.ok log, s)) :
    accepted log = taken log ++ s.host.waiting 1 ∧ s.host.Queues := by
  refine serialWatch_induction (p := dbgPlatform times)
    (I := fun log s => accepted log = taken log ++ s.host.waiting 1 ∧ s.host.Queues)
    ⟨rfl, DbgSerial.queues_start⟩ ?_ h
  intro log s e calls s' ih hwired hstep
  obtain ⟨hpast, hqueues⟩ := ih
  have hline := hstep.line hwired hqueues
  refine ⟨?_, hline.queues⟩
  calc accepted (log ++ [⟨e, s, calls, s'⟩])
      = accepted log ++ acceptedByte ⟨e, s, calls, s'⟩ := by
        unfold accepted
        rw [List.flatMap_append, List.flatMap_singleton]
    _ = taken log ++ (s.host.waiting 1 ++ acceptedByte ⟨e, s, calls, s'⟩) := by
        rw [hpast, List.append_assoc]
    _ = taken log ++ (takenBytes calls ++ s'.host.waiting 1) := by rw [hline.moved]
    _ = taken (log ++ [⟨e, s, calls, s'⟩]) ++ s'.host.waiting 1 := by
        rw [taken_snoc, List.append_assoc]

end Line

/-- Each byte that the debugger's line accepts is announced by exactly one
receive interrupt, in order and while the data register has it, unless the
register is overwritten or the channel reset; the others are being received or
still wait, and there is never an interrupt without a byte. -/
theorem bytes_delivered_once (times : SerialTimes)
    {events : List (SerialEvent (BitVec 8 × BitVec 8))} {log : List DbgEntry}
    {s : Serial DbgSerial}
    (h : (serialWatch (dbgPlatform times) events).run
      (bootSerial deviceExSerialOp DbgSerial.start) = (.ok log, s)) :
    accepted log = taken log ++ s.host.waiting 1 ∧
      (s.host.waiting 1).length ≤ dbgSerialBufferSize ∧
      (announced log).length + s.inFlight.length ≤ (taken log).length ∧
      ((∀ entry ∈ log, ¬ Disturbs entry.label) →
        accepted log = announced log ++ s.inFlight ++ s.host.waiting 1) := by
  obtain ⟨haccepted, hqueues⟩ := accepted_eq h
  refine ⟨haccepted, hqueues.length_le 1, announced_le_taken (p := dbgPlatform times) h, ?_⟩
  intro hquiet
  rw [haccepted, taken_eq_announced (p := dbgPlatform times) h hquiet]

/-- Software enables channel 1 in both directions, the debugger gives a letter,
and software sends one. -/
def letterEvents : List (SerialEvent (BitVec 8 × BitVec 8)) :=
  [.put8 (rlin3xLcuc 1) 1, .put8 (rlin3xLuoer 1) 3, .host (1, 0x41), .put8 (rlin3xLutdrl 1) 0x42,
    .clock, .clock]

/-- The run goes through. -/
theorem letterEvents_succeeds :
    Succeeds (serialWatch (dbgPlatform ⟨0, 0⟩) letterEvents)
      (bootSerial deviceExSerialOp DbgSerial.start) :=
  serialWatch_succeeds (wired_resetSerial _ _) (by decide)

theorem bytes_delivered_once_letter :
    ∃ log s, (serialWatch (dbgPlatform ⟨0, 0⟩) letterEvents).run
        (bootSerial deviceExSerialOp DbgSerial.start) = (.ok log, s) ∧
      accepted log = taken log ++ s.host.waiting 1 := by
  obtain ⟨log, s, h⟩ := letterEvents_succeeds
  exact ⟨log, s, h, (bytes_delivered_once ⟨0, 0⟩ h).1⟩

end Athrill
