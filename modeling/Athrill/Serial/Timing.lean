import Athrill.Serial.Receive

/-!
# How long a reception takes

A byte that waits on the line is taken by the next clock of an enabled receiver
and announced after the reception time; the next one follows at once.

* `Listening`, `Receiving`: a receiver between two bytes, and within one.
* `Listening.clock`, `Receiving.clock`: one clock.
* `reception_exact`: the clocks at which the bytes of a line are announced.
-/

namespace Athrill

open ByteMemory Routine

variable {times : SerialTimes} {s t s' : Serial DbgSerial}

/-- The receiver of channel 1 is enabled, and the line has these bytes. -/
structure Enabled (times : SerialTimes) (s : Serial DbgSerial) (line : List (BitVec 8)) : Prop where
  wired : OpsWired (dbgPlatform times) s
  queues : s.host.Queues
  enable : (s.device 1).isReadEnable = true
  waiting : s.host.waiting 1 = line

/-- An enabled receiver between two bytes. -/
structure Listening (times : SerialTimes) (s : Serial DbgSerial) (line : List (BitVec 8)) :
    Prop extends Enabled times s line where
  idle : (s.device 1).isReceiving = false

/-- An enabled receiver that has taken a byte and waits for some clocks. -/
structure Receiving (times : SerialTimes) (s : Serial DbgSerial) (count : Nat) (byte : BitVec 8)
    (line : List (BitVec 8)) : Prop extends Enabled times s line where
  busy : (s.device 1).isReceiving = true
  counter : (s.device 1).receivedCounter = count
  received : s.received = byte

/-- A transmission leaves an enabled receiver as it is. -/
theorem SendStep.enabled {calls : List SerialCall} {line : List (BitVec 8)}
    (h : SendStep times 1 s calls s') (hs : Enabled times s line) :
    Enabled times s' line ∧ (s'.device 1).receivedCounter = (s.device 1).receivedCounter := by
  have hhost := h.line hs.wired.ops
  have hwired := hs.wired.of_ops fun ch => h.ops ch
  have hfields : (s'.device 1).isReadEnable = (s.device 1).isReadEnable ∧
      (s'.device 1).receivedCounter = (s.device 1).receivedCounter := by
    cases h with
    | off h => exact ⟨rfl, rfl⟩
    | start hops henable hsend hcount => rw [Serial.device_setDevice_self]; exact ⟨rfl, rfl⟩
    | finish henable hsend hcount hend => rw [Serial.device_setDevice_self]; exact ⟨rfl, rfl⟩
    | wait henable hsend hcount hlt => rw [Serial.device_setDevice_self]; exact ⟨rfl, rfl⟩
  refine ⟨⟨hwired, ?_, hfields.1.trans hs.enable, ?_⟩, hfields.2⟩
  · rw [hhost]
    exact hs.queues
  · rw [hhost]
    exact hs.waiting

/-- One clock as the watched run has it. -/
theorem run_watched_clock {received sent : List SerialCall}
    (hrun : (deviceSupplyClockSerial times).run s = (.ok (received ++ sent), s')) :
    (watched (serialStep (dbgPlatform times)) .clock).run s =
      (.ok ⟨.clock, s, received ++ sent, s'⟩, s') :=
  watched_eq_ok.mpr ⟨hrun, rfl⟩

theorem Listening.clock {byte : BitVec 8} {line : List (BitVec 8)}
    (h : Listening times s (byte :: line)) :
    ∃ entry s', (watched (serialStep (dbgPlatform times)) .clock).run s = (.ok entry, s') ∧
      announcements entry.result = 0 ∧ Receiving times s' times.receive byte line := by
  obtain ⟨received, sent, t, s', hrun, hreceive, hsend⟩ :=
    supplyClockSerial_run times h.wired.ne_none
  refine ⟨_, s', run_watched_clock hrun, ?_⟩
  have hline := hreceive.line h.wired.ops h.queues
  have hwired := h.wired.of_ops fun ch => hreceive.sameSend.1 ch
  obtain ⟨-, hsentQuiet, hflag, hbyte⟩ := hsend.receiver
  show announcements (received ++ sent) = 0 ∧ _
  rw [announcements_append _ hsentQuiet]
  have hmoved := hline.moved
  rw [h.waiting, List.append_nil] at hmoved
  cases hreceive with
  | off hoff =>
    rw [h.wired.ops, h.enable] at hoff
    exact absurd hoff (by simp)
  | empty hops henable hidle hnone =>
    obtain rfl := Option.some.inj (hops.symm.trans h.wired.ops)
    have hwaiting : s.host.waiting 1 = [] := by
      obtain ⟨hnil, -⟩ | ⟨b, hb, -⟩ := DbgSerial.dbgSerialGetchar_cases h.queues
        (channelNo 1) 1 rfl
      · exact hnil
      · exact absurd (hb.symm.trans hnone) (Option.some_ne_none b)
    exact absurd (h.waiting.symm.trans hwaiting) (List.cons_ne_nil byte line)
  | @take ops b hops henable hidle hb =>
    have hmoved : byte :: line = b :: _ := hmoved
    obtain ⟨rfl, hrest⟩ := List.cons.inj hmoved
    refine ⟨by simp [announcements], ?_⟩
    have hmiddle : Enabled times _ line :=
      ⟨hwired, hline.queues, by rw [Serial.device_setDevice_self]; exact henable, hrest.symm⟩
    obtain ⟨henabled, hcounter⟩ := hsend.enabled hmiddle
    refine ⟨henabled, ?_, ?_, ?_⟩
    · rw [hflag, Serial.device_setDevice_self]
      rfl
    · rw [hcounter, Serial.device_setDevice_self]
      rfl
    · rw [hbyte]
      exact store_byte s.data (receiveOffset 1) byte
  | wait hops henable hbusy hcount => exact Bool.noConfusion (hbusy.symm.trans h.idle)
  | done hops henable hbusy hcount => exact Bool.noConfusion (hbusy.symm.trans h.idle)

theorem Receiving.clock {count : Nat} {byte : BitVec 8} {line : List (BitVec 8)}
    (h : Receiving times s (count + 1) byte line) :
    ∃ entry s', (watched (serialStep (dbgPlatform times)) .clock).run s = (.ok entry, s') ∧
      announcements entry.result = 0 ∧ Receiving times s' count byte line := by
  obtain ⟨received, sent, t, s', hrun, hreceive, hsend⟩ :=
    supplyClockSerial_run times h.wired.ne_none
  refine ⟨_, s', run_watched_clock hrun, ?_⟩
  have hwired := h.wired.of_ops fun ch => hreceive.sameSend.1 ch
  obtain ⟨-, hsentQuiet, hflag, hbyte⟩ := hsend.receiver
  show announcements (received ++ sent) = 0 ∧ _
  rw [announcements_append _ hsentQuiet]
  cases hreceive with
  | off hoff =>
    rw [h.wired.ops, h.enable] at hoff
    exact absurd hoff (by simp)
  | empty hops henable hidle hnone => exact Bool.noConfusion (hidle.symm.trans h.busy)
  | take hops henable hidle hb => exact Bool.noConfusion (hidle.symm.trans h.busy)
  | wait hops henable hbusy hcount =>
    refine ⟨by decide, ?_⟩
    have hmiddle : Enabled times _ line :=
      ⟨hwired, h.queues, by rw [Serial.device_setDevice_self]; exact henable, h.waiting⟩
    obtain ⟨henabled, hcounter⟩ := hsend.enabled hmiddle
    refine ⟨henabled, ?_, ?_, hbyte.trans h.received⟩
    · rw [hflag, Serial.device_setDevice_self]
      exact hbusy
    · rw [hcounter, Serial.device_setDevice_self]
      show (s.device 1).receivedCounter - 1 = count
      rw [h.counter, Nat.add_sub_cancel]
  | done hops henable hbusy hcount =>
    rw [h.counter] at hcount
    exact absurd hcount (Nat.succ_ne_zero count)

theorem Receiving.clock_zero {byte : BitVec 8} {line : List (BitVec 8)}
    (h : Receiving times s 0 byte line) :
    ∃ entry s', (watched (serialStep (dbgPlatform times)) .clock).run s = (.ok entry, s') ∧
      announcements entry.result = 1 ∧ entry.after.received = byte ∧ Listening times s' line := by
  obtain ⟨received, sent, t, s', hrun, hreceive, hsend⟩ :=
    supplyClockSerial_run times h.wired.ne_none
  refine ⟨_, s', run_watched_clock hrun, ?_⟩
  have hwired := h.wired.of_ops fun ch => hreceive.sameSend.1 ch
  obtain ⟨-, hsentQuiet, hflag, hbyte⟩ := hsend.receiver
  show announcements (received ++ sent) = 1 ∧ s'.received = byte ∧ _
  rw [announcements_append _ hsentQuiet]
  cases hreceive with
  | off hoff =>
    rw [h.wired.ops, h.enable] at hoff
    exact absurd hoff (by simp)
  | empty hops henable hidle hnone => exact Bool.noConfusion (hidle.symm.trans h.busy)
  | take hops henable hidle hb => exact Bool.noConfusion (hidle.symm.trans h.busy)
  | wait hops henable hbusy hcount =>
    rw [h.counter] at hcount
    exact absurd hcount (Nat.lt_irrefl 0)
  | done hops henable hbusy hcount =>
    refine ⟨by decide, hbyte.trans h.received, ?_⟩
    have hmiddle : Enabled times _ line :=
      ⟨hwired, h.queues, by rw [Serial.device_setDevice_self]; exact henable, h.waiting⟩
    refine ⟨(hsend.enabled hmiddle).1, ?_⟩
    rw [hflag, Serial.device_setDevice_self]

/-! ## Clocks in a row -/

/-- How often each clock of a run announces a byte. -/
def announcing (log : List DbgEntry) : List Nat :=
  log.map fun entry => announcements entry.result

/-- A run of clocks: its log and the state after it. -/
def ClockRun (times : SerialTimes) (n : Nat) (s : Serial DbgSerial) (log : List DbgEntry)
    (s' : Serial DbgSerial) : Prop :=
  (serialWatch (dbgPlatform times) (List.replicate n .clock)).run s = (.ok log, s')

theorem ClockRun.zero (times : SerialTimes) (s : Serial DbgSerial) : ClockRun times 0 s [] s := rfl

theorem ClockRun.cons {n : Nat} {entry : DbgEntry} {log : List DbgEntry}
    (hfirst : (watched (serialStep (dbgPlatform times)) .clock).run s = (.ok entry, t))
    (hrest : ClockRun times n t log s') : ClockRun times (n + 1) s (entry :: log) s' := by
  unfold ClockRun serialWatch at hrest ⊢
  rw [List.replicate_succ, List.mapM_cons, run_bind, hfirst, andThen_ok, run_bind, hrest,
    andThen_ok, run_pure]

theorem ClockRun.append {m n : Nat} {log log' : List DbgEntry} (hfirst : ClockRun times m s log t)
    (hrest : ClockRun times n t log' s') : ClockRun times (m + n) s (log ++ log') s' := by
  unfold ClockRun serialWatch at *
  rw [List.replicate_add, List.mapM_append, run_bind, hfirst, andThen_ok, run_bind, hrest,
    andThen_ok, run_pure]

/-- From a byte that was taken to its announcement. -/
theorem Receiving.clocks {count : Nat} {byte : BitVec 8} {line : List (BitVec 8)}
    (h : Receiving times s count byte line) :
    ∃ log s', ClockRun times (count + 1) s log s' ∧
      announcing log = List.replicate count 0 ++ [1] ∧ announced log = [byte] ∧
      Listening times s' line := by
  induction count generalizing s with
  | zero =>
    obtain ⟨entry, s', hrun, hannounces, hbyte, hlistening⟩ := h.clock_zero
    refine ⟨[entry], s', .cons hrun (.zero times s'), ?_, ?_, hlistening⟩
    · simp [announcing, hannounces]
    · simp [announced, hannounces, hbyte]
  | succ count ih =>
    obtain ⟨entry, t, hrun, hquiet, hreceiving⟩ := h.clock
    obtain ⟨log, s', hlog, hclocks, hbytes, hlistening⟩ := ih hreceiving
    refine ⟨entry :: log, s', .cons hrun hlog, ?_, ?_, hlistening⟩
    · unfold announcing at hclocks ⊢
      rw [List.map_cons, hclocks, hquiet, List.replicate_succ, List.cons_append]
    · unfold announced at hbytes ⊢
      rw [List.flatMap_cons, hquiet, List.replicate_zero, List.nil_append, hbytes]

/-- One byte, from the line to its announcement. -/
theorem Listening.clocks {byte : BitVec 8} {line : List (BitVec 8)}
    (h : Listening times s (byte :: line)) :
    ∃ log s', ClockRun times (times.receive + 2) s log s' ∧
      announcing log = List.replicate (times.receive + 1) 0 ++ [1] ∧
      announced log = [byte] ∧ Listening times s' line := by
  obtain ⟨entry, t, hrun, hquiet, hreceiving⟩ := h.clock
  obtain ⟨log, s', hlog, hclocks, hbytes, hlistening⟩ := hreceiving.clocks
  refine ⟨entry :: log, s', .cons hrun hlog, ?_, ?_, hlistening⟩
  · unfold announcing at hclocks ⊢
    rw [List.map_cons, hclocks, hquiet, List.replicate_succ, List.cons_append]
  · unfold announced at hbytes ⊢
    rw [List.flatMap_cons, hquiet, List.replicate_zero, List.nil_append, hbytes]

/-- The bytes of a line are announced one after the other, each of them the
reception time and two clocks after the one before it. -/
theorem reception_time {bytes rest : List (BitVec 8)}
    (h : Listening times s (bytes ++ rest)) :
    ∃ log s', ClockRun times (bytes.length * (times.receive + 2)) s log s' ∧
      announcing log =
        (List.replicate bytes.length
          (List.replicate (times.receive + 1) 0 ++ [1])).flatten ∧
      announced log = bytes ∧ Listening times s' rest := by
  induction bytes generalizing s with
  | nil =>
    refine ⟨[], s, ?_, rfl, rfl, h⟩
    rw [List.length_nil, Nat.zero_mul]
    exact .zero times s
  | cons byte bytes ih =>
    obtain ⟨first, t, hfirst, hclocks, hbytes, hlistening⟩ := Listening.clocks h
    obtain ⟨log, s', hlog, hclocks', hbytes', hlast⟩ := ih hlistening
    have hlength : (byte :: bytes).length * (times.receive + 2) =
        times.receive + 2 + bytes.length * (times.receive + 2) := by
      rw [List.length_cons, Nat.succ_mul, Nat.add_comm]
    have hpattern (pattern : List Nat) (n : Nat) :
        (List.replicate (n + 1) pattern).flatten =
          pattern ++ (List.replicate n pattern).flatten := by
      rw [List.replicate_succ, List.flatten_cons]
    refine ⟨first ++ log, s', by rw [hlength]; exact hfirst.append hlog, ?_, ?_, hlast⟩
    · unfold announcing at hclocks hclocks' ⊢
      rw [List.map_append, hclocks, hclocks', List.length_cons, hpattern]
    · unfold announced at hbytes hbytes' ⊢
      rw [List.flatMap_append, hbytes, hbytes', List.singleton_append]

/-- A receiver that has been enabled, with two letters on its line. -/
def lettersWait : Serial DbgSerial :=
  let line := (dbgSerialIn 1 0x42 (dbgSerialIn 1 0x41 DbgSerial.start).2).2
  let s := bootSerial deviceExSerialOp line
  s.setDevice 1 { s.device 1 with isReadEnable := true }

theorem listening_lettersWait (times : SerialTimes) :
    Listening times lettersWait [0x41, 0x42] where
  wired := (wired_resetSerial (dbgPlatform times) _).of_ops
    fun ch => ops_setDevice (by rfl) (by rfl) ch
  queues := (DbgSerial.queues_start.dbgSerialIn 1 0x41).dbgSerialIn 1 0x42
  enable := rfl
  waiting := rfl
  idle := rfl

theorem reception_time_letters :
    ∃ log s', ClockRun ⟨100, 100⟩ ([0x41, 0x42].length * 102) lettersWait log s' ∧
      announcing log = (List.replicate 2 (List.replicate 101 0 ++ [1])).flatten ∧
      announced log = [0x41, 0x42] ∧ Listening ⟨100, 100⟩ s' [] :=
  @reception_time ⟨100, 100⟩ lettersWait [0x41, 0x42] [] (listening_lettersWait ⟨100, 100⟩)

end Athrill
