import Athrill.Serial.Receive

/-!
# Transmission

A byte for the data register is pending until the transmitter starts with it.
Along a run each start and each end of a transmission belongs to a store, so
that the interrupts are accounted for; the bytes are printed by the stores
themselves.

* `TxState`, `TxStep`: the transmitter of channel 1 and its steps.
* `EventStep.tx`: what an event does to it.
* `stores`, `raised`, `lost`: the counts along a run.
* `transmissions_accounted`: the interrupts of a run.
* `printed_eq`: what is printed.
-/

namespace Athrill

open ByteMemory Routine

variable {H E : Type} {p : SerialPlatform H E}

/-! ## The transmitter of channel 1 -/

structure TxState where
  startIntr : Bool
  pending : Bool
  sending : Bool
  counter : Nat
  deriving DecidableEq

/-- The transmitter part of a channel. -/
def SerialDevice.tx (serial : SerialDevice H) : TxState where
  startIntr := serial.isSendStartIntr
  pending := serial.isSendData
  sending := serial.isSending
  counter := serial.sendCounter

/-- The store of a byte to send on channel 1. -/
def SerialEvent.sends : SerialEvent E → Bool
  | .put8 addr _ => decide (addr = rlin3xLutdrl (channelNo 1))
  | .put16 addr _ => decide (addr = rlin3xLutdrl (channelNo 1))
  | _ => false

/-- The interrupt of channel 1 is to be raised at the end of a transmission. -/
def SerialEvent.EndIntr (e : SerialEvent E) : Prop :=
  ∃ data : BitVec 8, e = .put8 (rlin3xLuor1 (channelNo 1)) data ∧ data.getLsbD 0 = true

/-- How often calls raise the transmit interrupt of channel 1. -/
def txRaises (calls : List SerialCall) : Nat :=
  calls.count (.raiseInt (serialRlin3xGetTxIntno 1))

/-- A step of the transmitter, with how often it raises its interrupt. -/
inductive TxStep (e : SerialEvent E) (d : TxState) : Nat → TxState → Prop
  | keep (hsends : e.sends = false) (hreset : e ≠ .reset) : TxStep e d 0 d
  | store (hsends : e.sends = true) : TxStep e d 0 { d with pending := true }
  | start (hclock : e = .clock) (hsend : d.pending = true ∨ d.sending = true)
      (hcount : d.counter = 0) :
    TxStep e d d.startIntr.toNat { d with pending := false, sending := true, counter := 1 }
  | finish (hclock : e = .clock) (hcount : 0 < d.counter) :
    TxStep e d (!d.startIntr).toNat { d with sending := d.startIntr && d.pending, counter := 0 }
  | wait (hclock : e = .clock) (hcount : 0 < d.counter) :
    TxStep e d 0 { d with sending := true, counter := d.counter + 1 }
  | option (value : Bool) (hsends : e.sends = false) (hreset : e ≠ .reset)
      (hvalue : value = false → e.EndIntr) : TxStep e d 0 { d with startIntr := value }
  | silence (hsends : e.sends = false) (hreset : e ≠ .reset) :
    TxStep e d 0 { d with sending := false, counter := 0 }
  | reset (hreset : e = .reset) :
    TxStep e d 0 { startIntr := true, pending := false, sending := false, counter := 0 }

/-- Registers of different kinds or channels are in different places. -/
theorem register_ne_register {a b : BitVec 32} (ha : a.toNat < 0x40) (hb : b.toNat < 0x40)
    {ch ch' : Fin udnChannelNum} (h : a ≠ b ∨ ch ≠ ch') :
    rlin3xRegister a (channelNo ch) ≠ rlin3xRegister b (channelNo ch') := by
  have hlt : ch.val < 4 := ch.isLt
  have hlt' : ch'.val < 4 := ch'.isLt
  intro heq
  have hchannel : channelNo ch = channelNo ch' := by
    have hsix : (channelNo ch).toNat < 6 := by
      rw [toNat_channelNo]
      omega
    have hsix' : (channelNo ch').toNat < 6 := by
      rw [toNat_channelNo]
      omega
    rw [← getChannel_register ha hsix, heq, getChannel_register hb hsix']
  obtain hne | hne := h
  · rw [hchannel] at heq
    exact register_ne hne _ heq
  · refine hne (Fin.ext ?_)
    rw [← toNat_channelNo ch, hchannel, toNat_channelNo]

theorem getChannel_lutdrl : rlinGetChannel (rlin3xLutdrl (channelNo 1)) = channelNo 1 :=
  getChannel_register (by decide) (by decide)

section Events

variable {s t s' : Serial H} {calls : List SerialCall}

/-- Changes of other channels leave the transmitter of channel 1 alone. -/
theorem tx_setDevice_of_ne {ch : Fin udnChannelNum} (hch : ch ≠ 1) (serial : SerialDevice H) :
    ((s.setDevice ch serial).device 1).tx = (s.device 1).tx := by
  rw [Serial.device_setDevice_of_ne _ _ _ (Ne.symm hch)]

theorem SendStep.tx {times : SerialTimes} (h : SendStep times 1 s calls s') :
    TxStep (.clock : SerialEvent E) (s.device 1).tx (txRaises calls) (s'.device 1).tx := by
  have hraise : txRaises [.raiseInt (serialRlin3xGetTxIntno 1)] = 1 := by decide
  have hnone : txRaises [] = 0 := by decide
  cases h with
  | off h =>
    rw [hnone]
    exact .keep rfl nofun
  | start hops henable hsend hcount =>
    have hflag : txRaises (if (s.device 1).isSendStartIntr = true
        then [.raiseInt (serialRlin3xGetTxIntno 1)] else []) =
          (s.device 1).isSendStartIntr.toNat := by
      cases (s.device 1).isSendStartIntr with
      | true => exact hraise
      | false => exact hnone
    rw [Serial.device_setDevice_self, hflag]
    exact .start rfl hsend hcount
  | finish henable hsend hcount hend =>
    have hflag : txRaises (if (s.device 1).isSendStartIntr = true
        then [] else [.raiseInt (serialRlin3xGetTxIntno 1)]) =
          (!(s.device 1).isSendStartIntr).toNat := by
      cases (s.device 1).isSendStartIntr with
      | true => exact hnone
      | false => exact hraise
    rw [Serial.device_setDevice_self, hflag]
    exact .finish rfl hcount
  | wait henable hsend hcount hlt =>
    rw [Serial.device_setDevice_self, hnone]
    exact .wait rfl hcount

/-- A reception raises another interrupt. -/
theorem ReceiveStep.txRaises_eq {times : SerialTimes} (h : ReceiveStep times 1 s calls t) :
    txRaises calls = 0 := by
  cases h with
  | off h => decide
  | empty hops henable hidle hnone => decide
  | take hops henable hidle hbyte => simp [txRaises]
  | wait hops henable hbusy hcount => decide
  | done hops henable hbusy hcount => decide

theorem PutStep.tx {addr : BitVec 32} {data : BitVec 8} (h : PutStep addr data t calls s')
    (ht : t.device = s.device) :
    TxStep (.put8 addr data : SerialEvent E) (s.device 1).tx (txRaises calls)
      (s'.device 1).tx := by
  have hnone : txRaises [] = 0 := by decide
  have hsends {offset : BitVec 32} {ch : Fin udnChannelNum} (hoffset : offset.toNat < 0x40)
      (hne : offset ≠ 0x24) (haddr : addr = rlin3xRegister offset (channelNo ch)) :
      SerialEvent.sends (.put8 addr data : SerialEvent E) = false := by
    rw [haddr]
    exact decide_eq_false (register_ne_register hoffset (by decide) (.inl hne))
  cases h with
  | @transmit ch ops haddr hops =>
    have hquiet : txRaises [.putchar ch data] = 0 := by simp [txRaises]
    rw [hquiet]
    by_cases hch : ch = 1
    · subst hch
      rw [Serial.device_setDevice_self, ht]
      exact .store (decide_eq_true haddr)
    · rw [tx_setDevice_of_ne hch]
      show TxStep _ _ 0 (t.device 1).tx
      rw [ht]
      refine .keep ?_ nofun
      rw [haddr]
      exact decide_eq_false (register_ne_register (by decide) (by decide) (.inr hch))
  | @operate ch haddr hdata =>
    rw [hnone]
    have hkeep : ((Serial.setDevice ch { t.device ch with isResetMode := false }
        (t.stored (rlin3xLmst (channelNo ch)) 1 data.toNat)).device 1).tx = (s.device 1).tx := by
      by_cases hch : ch = 1
      · subst hch
        rw [Serial.device_setDevice_self, ht]
        rfl
      · rw [tx_setDevice_of_ne hch, ← ht]
        rfl
    rw [hkeep]
    exact .keep (hsends (by decide) (by decide) haddr) nofun
  | @silence ch haddr hdata =>
    rw [hnone]
    by_cases hch : ch = 1
    · subst hch
      rw [Serial.device_setDevice_self, ht]
      exact .silence (hsends (by decide) (by decide) haddr) nofun
    · rw [tx_setDevice_of_ne hch]
      show TxStep _ _ 0 (t.device 1).tx
      rw [ht]
      exact .keep (hsends (by decide) (by decide) haddr) nofun
  | @enable ch haddr hmode =>
    rw [hnone]
    have hkeep : ((t.setDevice ch { t.device ch with
        isReadEnable := data.getLsbD 1, isSendEnable := data.getLsbD 0 }).device 1).tx =
          (s.device 1).tx := by
      by_cases hch : ch = 1
      · subst hch
        rw [Serial.device_setDevice_self, ht]
        rfl
      · rw [tx_setDevice_of_ne hch, ht]
    rw [hkeep]
    exact .keep (hsends (by decide) (by decide) haddr) nofun
  | locked haddr hmode =>
    rw [hnone, ht]
    exact .keep (hsends (by decide) (by decide) haddr) nofun
  | @option ch haddr =>
    rw [hnone]
    by_cases hch : ch = 1
    · subst hch
      rw [Serial.device_setDevice_self, ht]
      refine .option _ (hsends (by decide) (by decide) haddr) nofun fun hvalue => ?_
      exact ⟨data, by rw [haddr], by simpa using hvalue⟩
    · rw [tx_setDevice_of_ne hch]
      show TxStep _ _ 0 (t.device 1).tx
      rw [ht]
      exact .keep (hsends (by decide) (by decide) haddr) nofun
  | plain hlutdrl hlcuc =>
    rw [hnone, ht]
    refine .keep (decide_eq_false ?_) nofun
    rintro rfl
    rw [getChannel_lutdrl] at hlutdrl
    exact hlutdrl rfl

/-- What an event does to the transmitter. -/
theorem EventStep.tx {e : SerialEvent E} (h : EventStep p s e calls s') :
    TxStep e (s.device 1).tx (txRaises calls) (s'.device 1).tx := by
  have hnone : txRaises [] = 0 := by decide
  cases h with
  | get8 addr => rw [hnone]; exact .keep rfl nofun
  | get16 addr => rw [hnone]; exact .keep rfl nofun
  | get32 addr => rw [hnone]; exact .keep rfl nofun
  | put8 hput => exact hput.tx rfl
  | @transmit16 addr data ch haddr =>
    rw [hnone]
    by_cases hch : ch = 1
    · subst hch
      rw [Serial.device_setDevice_self]
      exact .store (decide_eq_true haddr)
    · rw [tx_setDevice_of_ne hch]
      refine .keep ?_ nofun
      rw [haddr]
      exact decide_eq_false (register_ne_register (by decide) (by decide) (.inr hch))
  | put16 haddr =>
    rw [hnone]
    refine .keep (decide_eq_false ?_) nofun
    rintro rfl
    rw [getChannel_lutdrl] at haddr
    exact haddr rfl
  | put32 addr data => rw [hnone]; exact .keep rfl nofun
  | storePointer addr data => rw [hnone]; exact .keep rfl nofun
  | @clock received sent t _ hreceive hsend =>
    obtain ⟨-, hdata, hsending, hcounter, -, hstart, -⟩ := hreceive.sameSend
    have htx : (t.device 1).tx = (s.device 1).tx := by
      unfold SerialDevice.tx
      rw [hdata, hsending, hcounter, hstart]
    have hraised : txRaises (received ++ sent) = txRaises sent := by
      have hquiet := hreceive.txRaises_eq
      unfold txRaises at hquiet ⊢
      rw [List.count_append, hquiet, Nat.zero_add]
    rw [← htx, hraised]
    exact hsend.tx
  | host e => rw [hnone]; exact .keep rfl nofun
  | reset =>
    rw [hnone]
    unfold resetSerial deviceExSerialRegisterOps
    rw [Serial.device_setDevice_self]
    exact .reset rfl

end Events

/-! ## Along a run -/

/-- A transmitter with a byte to send or in the middle of a transmission. -/
structure TxOk (d : TxState) : Prop where
  pending : d.sending = true → d.counter = 0 → d.pending = true
  sending : 0 < d.counter → d.sending = true

namespace TxState

/-- Whether a byte is pending, as a number. -/
def pendingCount (d : TxState) : Nat := d.pending.toNat

/-- Whether a transmission has started and not ended, as a number. -/
def runningCount (d : TxState) : Nat := if 0 < d.counter then 1 else 0

end TxState

theorem TxStep.ok {e : SerialEvent E} {d d' : TxState} {raise : Nat} (h : TxStep e d raise d')
    (hok : TxOk d) : TxOk d' := by
  cases h with
  | keep hsends hreset => exact hok
  | store hsends => exact ⟨fun _ _ => rfl, hok.sending⟩
  | start hclock hsend hcount => exact ⟨fun _ h => absurd h nofun, fun _ => rfl⟩
  | finish hclock hcount =>
    refine ⟨fun h _ => ?_, fun h => absurd h (Nat.lt_irrefl 0)⟩
    exact (Bool.and_eq_true_iff.mp h).2
  | wait hclock hcount => exact ⟨fun _ h => absurd h (Nat.succ_ne_zero _), fun _ => rfl⟩
  | option value hsends hreset hvalue => exact ⟨hok.pending, hok.sending⟩
  | silence hsends hreset => exact ⟨nofun, fun h => absurd h (Nat.lt_irrefl 0)⟩
  | reset hreset => exact ⟨nofun, fun h => absurd h (Nat.lt_irrefl 0)⟩

/-- A step raises its interrupt at a start or an end, and both belong to a
store. -/
theorem TxStep.count {e : SerialEvent E} {d d' : TxState} {raise : Nat} (h : TxStep e d raise d')
    (hok : TxOk d) :
    raise + 2 * d'.pendingCount + d'.runningCount ≤
      2 * d.pendingCount + d.runningCount + 2 * e.sends.toNat := by
  unfold TxState.pendingCount TxState.runningCount
  cases h with
  | keep hsends hreset => simp
  | store hsends =>
    rw [hsends]
    simp
    omega
  | start hclock hsend hcount =>
    have hpending : d.pending = true := hsend.elim id fun h => hok.pending h hcount
    have hraise := Bool.toNat_le d.startIntr
    rw [hpending, hcount]
    simp
    omega
  | finish hclock hcount =>
    have hraise := Bool.toNat_le (!d.startIntr)
    rw [if_pos hcount]
    simp
    omega
  | wait hclock hcount =>
    rw [if_pos hcount]
    simp
  | option value hsends hreset hvalue => simp
  | silence hsends hreset =>
    simp
    omega
  | reset hreset => simp

/-- `device_reset`. -/
def SerialEvent.isReset : SerialEvent E → Bool
  | .reset => true
  | _ => false

/-- With its interrupt at the start, a transmitter raises one for each store,
but for a byte that another one or a reset replaces. -/
theorem TxStep.exact {e : SerialEvent E} {d d' : TxState} {raise : Nat} (h : TxStep e d raise d')
    (hok : TxOk d) (hstart : d.startIntr = true) (hend : ¬ e.EndIntr) :
    d'.startIntr = true ∧
      raise + d'.pendingCount + (d.pending && (e.sends || e.isReset)).toNat =
        d.pendingCount + e.sends.toNat := by
  unfold TxState.pendingCount
  cases h with
  | keep hsends hreset =>
    have hnot : e.isReset = false := by
      cases e with
      | reset => exact absurd rfl hreset
      | _ => rfl
    rw [hsends, hnot]
    exact ⟨hstart, by simp⟩
  | store hsends =>
    rw [hsends]
    refine ⟨hstart, ?_⟩
    cases d.pending <;> rfl
  | start hclock hsend hcount =>
    subst hclock
    have hpending : d.pending = true := hsend.elim id fun h => hok.pending h hcount
    rw [hpending, hstart]
    exact ⟨rfl, rfl⟩
  | finish hclock hcount =>
    subst hclock
    rw [hstart]
    exact ⟨rfl, by cases d.pending <;> rfl⟩
  | wait hclock hcount =>
    subst hclock
    exact ⟨hstart, by cases d.pending <;> rfl⟩
  | option value hsends hreset hvalue =>
    have hnot : e.isReset = false := by
      cases e with
      | reset => exact absurd rfl hreset
      | _ => rfl
    have htrue : value = true := by
      cases value with
      | true => rfl
      | false => exact absurd (hvalue rfl) hend
    rw [hsends, hnot]
    exact ⟨htrue, by simp⟩
  | silence hsends hreset =>
    have hnot : e.isReset = false := by
      cases e with
      | reset => exact absurd rfl hreset
      | _ => rfl
    rw [hsends, hnot]
    exact ⟨hstart, by simp⟩
  | reset hreset =>
    subst hreset
    refine ⟨rfl, ?_⟩
    cases d.pending <;> rfl

/-- The stores of a byte to send. -/
def stores (log : List (SerialEntry H E)) : Nat :=
  log.countP fun entry => entry.label.sends

/-- The transmit interrupts. -/
def raised (log : List (SerialEntry H E)) : Nat :=
  (log.map fun entry => txRaises entry.result).sum

/-- The pending bytes that were replaced by another one or by a reset. -/
def lost (log : List (SerialEntry H E)) : Nat :=
  log.countP fun entry =>
    (entry.before.device 1).tx.pending && (entry.label.sends || entry.label.isReset)

theorem countP_snoc {α : Type} (f : α → Bool) (l : List α) (a : α) :
    (l ++ [a]).countP f = l.countP f + (f a).toNat := by
  rw [List.countP_append, List.countP_singleton]
  cases f a <;> rfl

theorem raised_snoc (log : List (SerialEntry H E)) (entry : SerialEntry H E) :
    raised (log ++ [entry]) = raised log + txRaises entry.result := by
  unfold raised
  rw [List.map_append, List.sum_append, List.map_singleton, List.sum_singleton]

section Runs

variable {log : List (SerialEntry H E)} {s : Serial H} {events : List (SerialEvent E)} {host : H}

/-- In every run there are at most two transmit interrupts for each store of a
byte.  As long as the interrupt stays at the start, each store has exactly one,
unless its byte still is to be sent or was replaced before it was. -/
theorem transmissions_accounted
    (h : (serialWatch p events).run (bootSerial p.ops host) = (.ok log, s)) :
    raised log + 2 * (s.device 1).tx.pendingCount + (s.device 1).tx.runningCount ≤
        2 * stores log ∧
      ((∀ entry ∈ log, ¬ entry.label.EndIntr) →
        raised log + (s.device 1).tx.pendingCount + lost log = stores log) := by
  have hall := serialWatch_induction (p := p)
    (I := fun log s => TxOk (s.device 1).tx ∧
      raised log + 2 * (s.device 1).tx.pendingCount + (s.device 1).tx.runningCount ≤
        2 * stores log ∧
      ((∀ entry ∈ log, ¬ entry.label.EndIntr) → (s.device 1).tx.startIntr = true ∧
        raised log + (s.device 1).tx.pendingCount + lost log = stores log))
    ⟨⟨nofun, fun h => absurd h (Nat.lt_irrefl 0)⟩, Nat.le_refl 0, fun _ => ⟨rfl, rfl⟩⟩
    (fun log s e calls s' ih _ hstep => ?_) h
  · exact ⟨hall.2.1, fun hend => (hall.2.2 hend).2⟩
  · obtain ⟨hok, hle, hexact⟩ := ih
    refine ⟨hstep.tx.ok hok, ?_, fun hend => ?_⟩
    · have hcount := hstep.tx.count hok
      unfold stores at *
      rw [raised_snoc, countP_snoc]
      dsimp only
      omega
    · have hpast := hexact fun entry hentry => hend entry (List.mem_append_left _ hentry)
      have hlast := hend _ (List.mem_append_right _ List.mem_cons_self)
      obtain ⟨hstart, hcount⟩ := hstep.tx.exact hok hpast.1 hlast
      refine ⟨hstart, ?_⟩
      have heq := hpast.2
      unfold stores lost at *
      rw [raised_snoc, countP_snoc, countP_snoc]
      dsimp only
      omega

end Runs

theorem transmissions_accounted_letter :
    ∃ log s, (serialWatch (dbgPlatform ⟨0, 0⟩) letterEvents).run
        (bootSerial deviceExSerialOp DbgSerial.start) = (.ok log, s) ∧
      raised log + 2 * (s.device 1).tx.pendingCount + (s.device 1).tx.runningCount ≤
        2 * stores log := by
  obtain ⟨log, s, h⟩ := letterEvents_succeeds
  exact ⟨log, s, h, (transmissions_accounted (p := dbgPlatform ⟨0, 0⟩) h).1⟩

/-! ## What is printed -/

/-- The byte that an event has printed. -/
def SerialEvent.printed : SerialEvent E → List (BitVec 8)
  | .put8 addr data => if addr = rlin3xLutdrl (channelNo 1) then [data] else []
  | _ => []

theorem printed_put8 {addr : BitVec 32} (data : BitVec 8)
    (h : addr = rlin3xLutdrl (channelNo 1)) :
    (.put8 addr data : SerialEvent E).printed = [data] :=
  if_pos h

theorem printed_put8_of_ne {addr : BitVec 32} (data : BitVec 8)
    (h : addr ≠ rlin3xLutdrl (channelNo 1)) : (.put8 addr data : SerialEvent E).printed = [] :=
  if_neg h

section Printed

variable {times : SerialTimes} {s t s' : Serial DbgSerial} {calls : List SerialCall}

theorem ReceiveStep.output (h : ReceiveStep times 1 s calls t)
    (hops : (s.device 1).ops = some deviceExSerialOp) :
    t.host.stdout = s.host.stdout ∧ t.host.stderr = s.host.stderr := by
  cases h with
  | off h => exact ⟨rfl, rfl⟩
  | empty hsome henable hidle hnone =>
    obtain rfl := Option.some.inj (hsome.symm.trans hops)
    exact ⟨DbgSerial.stdout_dbgSerialGetchar, DbgSerial.stderr_dbgSerialGetchar⟩
  | take hsome henable hidle hbyte =>
    obtain rfl := Option.some.inj (hsome.symm.trans hops)
    exact ⟨DbgSerial.stdout_dbgSerialGetchar, DbgSerial.stderr_dbgSerialGetchar⟩
  | wait hops henable hbusy hcount => exact ⟨rfl, rfl⟩
  | done hops henable hbusy hcount => exact ⟨rfl, rfl⟩

theorem PutStep.output {addr : BitVec 32} {data : BitVec 8} (h : PutStep addr data s calls s')
    (hwired : OpsWired (dbgPlatform times) s) :
    s'.host.stdout = s.host.stdout ∧
      s'.host.stderr =
        s.host.stderr ++ (.put8 addr data : SerialEvent (BitVec 8 × BitVec 8)).printed := by
  have hother {offset : BitVec 32} {ch : Fin udnChannelNum} (hoffset : offset.toNat < 0x40)
      (hne : offset ≠ 0x24) (haddr : addr = rlin3xRegister offset (channelNo ch)) :
      s.host.stderr =
        s.host.stderr ++ (.put8 addr data : SerialEvent (BitVec 8 × BitVec 8)).printed := by
    have haddr' : addr ≠ rlin3xLutdrl (channelNo 1) := by
      rw [haddr]
      exact register_ne_register hoffset (by decide) (.inl hne)
    rw [printed_put8_of_ne data haddr', List.append_nil]
  cases h with
  | @transmit ch ops haddr hops =>
    by_cases hch : ch = 1
    · subst hch
      obtain rfl := Option.some.inj (hops.symm.trans hwired.ops)
      refine ⟨rfl, ?_⟩
      rw [printed_put8 data haddr]
      rfl
    · exact absurd ((hwired.others ch hch).symm.trans hops) nofun
  | operate haddr hdata => exact ⟨rfl, hother (by decide) (by decide) haddr⟩
  | silence haddr hdata => exact ⟨rfl, hother (by decide) (by decide) haddr⟩
  | enable haddr hmode => exact ⟨rfl, hother (by decide) (by decide) haddr⟩
  | locked haddr hmode => exact ⟨rfl, hother (by decide) (by decide) haddr⟩
  | option haddr => exact ⟨rfl, hother (by decide) (by decide) haddr⟩
  | plain hlutdrl hlcuc =>
    refine ⟨rfl, ?_⟩
    have haddr : addr ≠ rlin3xLutdrl (channelNo 1) := by
      rintro rfl
      rw [getChannel_lutdrl] at hlutdrl
      exact hlutdrl rfl
    rw [printed_put8_of_ne data haddr, List.append_nil]

theorem EventStep.output {e : SerialEvent (BitVec 8 × BitVec 8)}
    (h : EventStep (dbgPlatform times) s e calls s') (hwired : OpsWired (dbgPlatform times) s) :
    s'.host.stdout = s.host.stdout ∧ s'.host.stderr = s.host.stderr ++ e.printed := by
  have hkeep : s.host.stdout = s.host.stdout ∧ s.host.stderr = s.host.stderr ++ [] :=
    ⟨rfl, (List.append_nil _).symm⟩
  cases h with
  | get8 addr => exact hkeep
  | get16 addr => exact hkeep
  | get32 addr => exact hkeep
  | put8 hput => exact hput.output (hwired.of_ops fun _ => rfl)
  | transmit16 haddr => exact hkeep
  | put16 haddr => exact hkeep
  | put32 addr data => exact hkeep
  | storePointer addr data => exact hkeep
  | @clock received sent t _ hreceive hsend =>
    have hout := hreceive.output hwired.ops
    have hhost := hsend.line ((hreceive.sameSend.1 1).trans hwired.ops)
    rw [hhost]
    exact ⟨hout.1, hout.2.trans (List.append_nil _).symm⟩
  | host input =>
    have hstdout := DbgSerial.stdout_dbgSerialIn input.1 input.2 s.host
    have hstderr := DbgSerial.stderr_dbgSerialIn input.1 input.2 s.host
    exact ⟨hstdout, hstderr.trans (List.append_nil _).symm⟩
  | reset => exact hkeep

end Printed

/-- What a run prints are the bytes of the byte stores to the data register of
channel 1, in program order and whatever the state of the transmitter; a
halfword store prints nothing. -/
theorem printed_eq (times : SerialTimes) {events : List (SerialEvent (BitVec 8 × BitVec 8))}
    {journal : List (List SerialCall)} {s : Serial DbgSerial}
    (h : (serialRun (dbgPlatform times) events).run
      (bootSerial deviceExSerialOp DbgSerial.start) = (.ok journal, s)) :
    s.host.stdout = [] ∧ s.host.stderr = events.flatMap SerialEvent.printed := by
  refine serialRun_induction (p := dbgPlatform times)
    (I := fun events _ s => s.host.stdout = [] ∧
      s.host.stderr = events.flatMap SerialEvent.printed) ⟨rfl, rfl⟩ ?_ h
  intro events _ s e calls s' ih hwired hstep
  obtain ⟨hstdout, hstderr⟩ := hstep.output hwired
  rw [hstdout, hstderr, ih.1, ih.2, List.flatMap_append, List.flatMap_singleton]
  exact ⟨rfl, rfl⟩

theorem printed_eq_letter :
    ∃ journal s, (serialRun (dbgPlatform ⟨0, 0⟩) letterEvents).run
        (bootSerial deviceExSerialOp DbgSerial.start) = (.ok journal, s) ∧
      s.host.stdout = [] ∧ s.host.stderr = letterEvents.flatMap SerialEvent.printed := by
  have hsucceeds : Succeeds (serialRun (dbgPlatform ⟨0, 0⟩) letterEvents)
      (bootSerial deviceExSerialOp DbgSerial.start) :=
    serialRun_succeeds (wired_resetSerial _ _) (by decide)
  obtain ⟨journal, s, h⟩ := hsucceeds
  exact ⟨journal, s, h, printed_eq ⟨0, 0⟩ h⟩

end Athrill
