import Athrill.Can.Steps

/-!
# The fill level that raises a receive interrupt

With the threshold mode a put raises the flag once the FIFO holds the eighths of
its depth that the timing field asks for.  A TXRX FIFO takes all three bits of
the field, a receive FIFO only two, so that the upper four levels fall back to
the lower four.

* `level`, `lowLevel`: the level of a written word, and that of the two low bits.
* `RxFifoOp.watch`, `TxrxFifoOp.watch`: a FIFO beside that word.
* `rxFifo_watched`, `txrxFifo_watched`: the FIFOs of the controller are such.
* `FlagAtLevel`: a put raises the flag from the level on.
* `threshold_exact`: the puts that do so.
-/

namespace Athrill

open Ring

/-! ## The written word -/

/-- The timing field, `RFIGCV` and `CFIGCV`. -/
def igcv (data : BitVec 32) : Nat := ((data >>> 13) &&& 0x7).toNat

/-- The depth that a word selects. -/
def depth (data : BitVec 32) : Nat := canFifoQuelen (Fin.ofNat 8 ((data >>> 8) &&& 0x7).toNat)

/-- The number of messages that the timing field asks for. -/
def level (data : BitVec 32) : Nat := depth data * (igcv data + 1) / 8

/-- The same for the two low bits of the field. -/
def lowLevel (data : BitVec 32) : Nat := depth data * (igcv data % 4 + 1) / 8

/-- A word selects the threshold mode. -/
def SelectsThreshold (data : BitVec 32) : Prop := canRegUpdateModelFlag data 12 = false

theorem lowLevel_le (data : BitVec 32) : lowLevel data ≤ level data := by
  have hfield : igcv data % 4 + 1 ≤ igcv data + 1 := by omega
  exact Nat.div_le_div_right (Nat.mul_le_mul_left _ hfield)

/-- Two bits of the field. -/
theorem timing_two_bits (data : BitVec 32) :
    ((data >>> 13) &&& 0x3).toNat = igcv data % 4 := by
  have hlow : ((data >>> 13) &&& 0x3).toNat = (data >>> 13).toNat % 2 ^ 2 :=
    Nat.and_two_pow_sub_one_eq_mod _ 2
  have hall : ((data >>> 13) &&& 0x7).toNat = (data >>> 13).toNat % 2 ^ 3 :=
    Nat.and_two_pow_sub_one_eq_mod _ 3
  unfold igcv
  rw [hlow, hall]
  omega

/-- In threshold mode the number of eighths decides; the case of the highest
value gives the same. -/
theorem interruptOccured_eq (control : Control) (cap timing : Nat) :
    canFifoRxInterruptOccured control
        { enableIntr := true, enableIntrEverytime := false, intrTimingCnt := timing
          quelenMax := cap } = decide (cap * (timing + 1) / 8 ≤ control.count) := by
  unfold canFifoRxInterruptOccured
  dsimp only
  rw [if_neg nofun, if_neg nofun]
  by_cases hmax : timing = 7
  · have heighths : cap * (timing + 1) / 8 = cap := by
      rw [hmax]
      omega
    rw [if_pos hmax, heighths]
  · rw [if_neg hmax]

/-! ## FIFOs beside their configuration word -/

/-- The last word written to the configuration register of a receive FIFO. -/
def RxFifoOp.word : RxFifoOp → BitVec 32 → BitVec 32
  | config data, _ => data
  | _, data => data

/-- A receive FIFO beside it. -/
def RxFifoOp.watch : TransitionSystem (CanRxFifoBuffer × BitVec 32) RxFifoOp where
  init w := w = (initialCan.rxFifo 0, 0)
  step op w w' := w' = (op.apply w.1, op.word w.2)

/-- The last word written to the configuration register of a TXRX FIFO. -/
def TxrxFifoOp.word : TxrxFifoOp → BitVec 32 → BitVec 32
  | config data, _ => data
  | _, data => data

/-- A TXRX FIFO beside it. -/
def TxrxFifoOp.watch : TransitionSystem (CanTxRxFifoBuffer × BitVec 32) TxrxFifoOp where
  init w := w = (initialCan.txrxFifo 0 0, 0)
  step op w w' := w' = (op.apply w.1, op.word w.2)

/-- Every receive FIFO of the controller runs like that. -/
theorem rxFifo_watched {s : CanController} (h : canController.Reachable s) (x : CanRxFifoId) :
    ∃ data, RxFifoOp.watch.Reachable (s.rxFifo x, data) := by
  refine CanController.part_of_reachable (fun s => s.rxFifo x)
    (I := fun fifo => ∃ data, RxFifoOp.watch.Reachable (fifo, data)) ⟨0, .init rfl⟩ ?_ h
  intro s s' ops hmoves hbefore
  refine (hmoves.rxFifo x).invariant
    (I := fun fifo => ∃ data, RxFifoOp.watch.Reachable (fifo, data)) ?_ hbefore
  intro op _ fifo hfifo
  obtain ⟨data, hreach⟩ := hfifo
  exact ⟨op.word data, .step hreach (rfl : _ = (op.apply fifo, op.word data))⟩

/-- So does every TXRX FIFO. -/
theorem txrxFifo_watched {s : CanController} (h : canController.Reachable s) (cid : CanChannelId)
    (k : CanTxrxFifoIdx) : ∃ data, TxrxFifoOp.watch.Reachable (s.txrxFifo cid k, data) := by
  refine CanController.part_of_reachable (fun s => s.txrxFifo cid k)
    (I := fun fifo => ∃ data, TxrxFifoOp.watch.Reachable (fifo, data)) ⟨0, .init rfl⟩ ?_ h
  intro s s' ops hmoves hbefore
  refine (hmoves.txrxFifo cid k).invariant
    (I := fun fifo => ∃ data, TxrxFifoOp.watch.Reachable (fifo, data)) ?_ hbefore
  intro op _ fifo hfifo
  obtain ⟨data, hreach⟩ := hfifo
  exact ⟨op.word data, .step hreach (rfl : _ = (op.apply fifo, op.word data))⟩

/-- The configuration of a receive FIFO has two bits of the timing field. -/
structure RxConfigured (config : RxFifoConfig) (data : BitVec 32) : Prop where
  timing : config.intrTimingCnt = igcv data % 4
  everytime : config.enableIntrEverytime = canRegUpdateModelFlag data 12
  quelen : canFifoQuelen config.quelen = depth data

/-- That of a TXRX FIFO has all three. -/
structure TxrxConfigured (config : TxRxFifoConfig) (data : BitVec 32) : Prop where
  timing : config.intrTimingCnt = igcv data
  everytime : config.enableIntrEverytime = canRegUpdateModelFlag data 12
  quelen : canFifoQuelen config.quelen = depth data

theorem rxConfigured_of_reachable {fifo : CanRxFifoBuffer} {data : BitVec 32}
    (h : RxFifoOp.watch.Reachable (fifo, data)) : RxConfigured fifo.config data := by
  refine TransitionSystem.Invariant.of_reachable
    (I := fun w : CanRxFifoBuffer × BitVec 32 => RxConfigured w.1.config w.2) ⟨?_, ?_⟩ h
  · intro w hw
    rw [show w = (initialCan.rxFifo 0, 0) from hw]
    exact ⟨rfl, rfl, rfl⟩
  · intro op w w' hconfigured hstep
    rw [show w' = (op.apply w.1, op.word w.2) from hstep]
    cases op with
    | put frame =>
      show RxConfigured (canRxfifoPutRxdata frame w.1).2.config w.2
      unfold canRxfifoPutRxdata
      split_ifs <;> exact hconfigured
    | next =>
      show RxConfigured (canRxfifoNextRxdata w.1).2.config w.2
      unfold canRxfifoNextRxdata
      split_ifs <;> exact hconfigured
    | config data =>
      show RxConfigured (w.1.writeRfcc data).config data
      unfold CanRxFifoBuffer.writeRfcc
      dsimp only
      split_ifs <;> exact ⟨timing_two_bits data, rfl, rfl⟩
    | status data => exact hconfigured
    | reset => exact ⟨hconfigured.timing, hconfigured.everytime, hconfigured.quelen⟩

theorem txrxConfigured_of_reachable {fifo : CanTxRxFifoBuffer} {data : BitVec 32}
    (h : TxrxFifoOp.watch.Reachable (fifo, data)) : TxrxConfigured fifo.config data := by
  refine TransitionSystem.Invariant.of_reachable
    (I := fun w : CanTxRxFifoBuffer × BitVec 32 => TxrxConfigured w.1.config w.2) ⟨?_, ?_⟩ h
  · intro w hw
    rw [show w = (initialCan.txrxFifo 0 0, 0) from hw]
    exact ⟨rfl, rfl, rfl⟩
  · intro op w w' hconfigured hstep
    rw [show w' = (op.apply w.1, op.word w.2) from hstep]
    cases op with
    | putRx frame =>
      show TxrxConfigured (canTxrxfifoPutRxdata frame w.1).2.config w.2
      unfold canTxrxfifoPutRxdata
      split_ifs <;> exact hconfigured
    | nextRx =>
      show TxrxConfigured (canTxrxfifoNextRxdata w.1).2.config w.2
      unfold canTxrxfifoNextRxdata
      split_ifs <;> exact hconfigured
    | putTx message =>
      show TxrxConfigured (canTxrxfifoPutTxdata message w.1).2.config w.2
      unfold canTxrxfifoPutTxdata
      split_ifs <;> exact hconfigured
    | getTx =>
      show TxrxConfigured (canTxrxfifoGetTxdata w.1).2.config w.2
      unfold canTxrxfifoGetTxdata
      split <;> exact hconfigured
    | done => exact hconfigured
    | config data =>
      show TxrxConfigured (w.1.writeCfcc data).config data
      unfold CanTxRxFifoBuffer.writeCfcc
      dsimp only
      split_ifs <;> exact ⟨rfl, rfl, rfl⟩
    | status data => exact hconfigured
    | reset => exact ⟨hconfigured.timing, hconfigured.everytime, hconfigured.quelen⟩

/-! ## Puts -/

/-- A put raises the flag when the FIFO then holds as many messages as the word
asks for, and leaves it as it is otherwise. -/
def FlagAtLevel (data : BitVec 32) (before after : Bool) (count : Nat) : Prop :=
  after = (before || decide (level data ≤ count))

/-- A flag that a condition sets. -/
theorem ite_true_eq_or (b : Prop) [Decidable b] (flag : Bool) :
    (if decide b = true then true else flag) = (flag || decide b) := by
  by_cases hb : b
  · simp [hb]
  · simp [hb]

/-- A successful put into a receive FIFO. -/
theorem put_rxFifo {fifo : CanRxFifoBuffer} {data : BitVec 32} {frame : CanData}
    (hconfigured : RxConfigured fifo.config data) (hmode : SelectsThreshold data)
    (hok : (canRxfifoPutRxdata frame fifo).1 = .ok) :
    (canRxfifoPutRxdata frame fifo).2.fifoControl.count = fifo.fifoControl.count + 1 ∧
      (canRxfifoPutRxdata frame fifo).2.status.rxIntr =
        (fifo.status.rxIntr || decide (lowLevel data ≤ fifo.fifoControl.count + 1)) := by
  have heverytime : fifo.config.enableIntrEverytime = false := hconfigured.everytime.trans hmode
  have hcap : fifo.cap = depth data := hconfigured.quelen
  unfold canRxfifoPutRxdata at *
  split_ifs at * with henable hroom
  have hon : fifo.config.enableFifo = true := by simpa using henable
  refine ⟨rfl, ?_⟩
  dsimp only
  rw [hon, heverytime, hconfigured.timing, interruptOccured_eq, hcap]
  exact ite_true_eq_or _ _

/-- A successful put into a TXRX FIFO in receive mode. -/
theorem put_txrxFifo {fifo : CanTxRxFifoBuffer} {data : BitVec 32} {frame : CanData}
    (hconfigured : TxrxConfigured fifo.config data) (hmode : SelectsThreshold data)
    (hok : (canTxrxfifoPutRxdata frame fifo).1 = .ok) :
    (canTxrxfifoPutRxdata frame fifo).2.fifoControl.count = fifo.fifoControl.count + 1 ∧
      (canTxrxfifoPutRxdata frame fifo).2.status.rxIntr =
        (fifo.status.rxIntr || decide (level data ≤ fifo.fifoControl.count + 1)) := by
  have heverytime : fifo.config.enableIntrEverytime = false := hconfigured.everytime.trans hmode
  have hcap : fifo.cap = depth data := hconfigured.quelen
  unfold canTxrxfifoPutRxdata at *
  split_ifs at * with htransmit henable hroom
  have hon : fifo.config.enableFifo = true := by simpa using henable
  refine ⟨rfl, ?_⟩
  dsimp only
  rw [hon, heverytime, hconfigured.timing, interruptOccured_eq, hcap]
  exact ite_true_eq_or _ _

/-- Two levels tell the same when the flag is set or the count lies on the same
side of both. -/
theorem or_decide_eq_iff (flag : Bool) {low high count : Nat} (hle : low ≤ high) :
    (flag || decide (low ≤ count)) = (flag || decide (high ≤ count)) ↔
      flag = true ∨ count < low ∨ high ≤ count := by
  cases flag with
  | true => simp
  | false =>
    rw [Bool.false_or, Bool.false_or, decide_eq_decide]
    simp only [Bool.false_eq_true, false_or]
    omega

/-- In threshold mode, after any sequence of accesses, a put into a TXRX FIFO
raises the flag at the level that was written; one into a receive FIFO does so
exactly when the flag is set already or the level of the two low bits is not
reached or the full level is.  Every FIFO of a controller has come about by such a
sequence. -/
theorem threshold_exact (data : BitVec 32) (frame : CanData) :
    (SelectsThreshold data →
      (∀ fifo, RxFifoOp.watch.Reachable (fifo, data) → (canRxfifoPutRxdata frame fifo).1 = .ok →
        (FlagAtLevel data fifo.status.rxIntr (canRxfifoPutRxdata frame fifo).2.status.rxIntr
            (canRxfifoPutRxdata frame fifo).2.fifoControl.count ↔
          fifo.status.rxIntr = true ∨ fifo.fifoControl.count + 1 < lowLevel data ∨
            level data ≤ fifo.fifoControl.count + 1)) ∧
        ∀ fifo, TxrxFifoOp.watch.Reachable (fifo, data) →
          (canTxrxfifoPutRxdata frame fifo).1 = .ok →
            FlagAtLevel data fifo.status.rxIntr
              (canTxrxfifoPutRxdata frame fifo).2.status.rxIntr
              (canTxrxfifoPutRxdata frame fifo).2.fifoControl.count) ∧
      ∀ s, canController.Reachable s →
        (∀ x, ∃ written, RxFifoOp.watch.Reachable (s.rxFifo x, written)) ∧
          ∀ cid k, ∃ written, TxrxFifoOp.watch.Reachable (s.txrxFifo cid k, written) := by
  refine ⟨fun hmode => ⟨fun fifo hreach hok => ?_, fun fifo hreach hok => ?_⟩,
    fun s hs => ⟨rxFifo_watched hs, txrxFifo_watched hs⟩⟩
  · obtain ⟨hcount, hflag⟩ := put_rxFifo (rxConfigured_of_reachable hreach) hmode hok
    unfold FlagAtLevel
    rw [hcount, hflag]
    exact or_decide_eq_iff _ (lowLevel_le data)
  · obtain ⟨hcount, hflag⟩ := put_txrxFifo (txrxConfigured_of_reachable hreach) hmode hok
    unfold FlagAtLevel
    rw [hcount]
    exact hflag

/-- The first write to the configuration of a receive FIFO. -/
theorem reachable_writeRfcc (data : BitVec 32) :
    RxFifoOp.watch.Reachable ((initialCan.rxFifo 0).writeRfcc data, data) := by
  have hinit : RxFifoOp.watch.Reachable (initialCan.rxFifo 0, 0) := .init rfl
  have hstep : RxFifoOp.watch.step (.config data) (initialCan.rxFifo 0, 0)
      ((initialCan.rxFifo 0).writeRfcc data, data) := rfl
  exact .step hinit hstep

/-- A depth of 8 and four eighths of it, which two bits can say. -/
theorem threshold_exact_low :
    SelectsThreshold 0x6201 ∧
      ∃ fifo, RxFifoOp.watch.Reachable (fifo, 0x6201) ∧
        (canRxfifoPutRxdata zeroCanData fifo).1 = .ok ∧
        FlagAtLevel 0x6201 fifo.status.rxIntr
          (canRxfifoPutRxdata zeroCanData fifo).2.status.rxIntr
          (canRxfifoPutRxdata zeroCanData fifo).2.fifoControl.count := by
  have hmode : SelectsThreshold 0x6201 := by
    unfold SelectsThreshold
    decide
  have hreach := reachable_writeRfcc 0x6201
  have hok : (canRxfifoPutRxdata zeroCanData ((initialCan.rxFifo 0).writeRfcc 0x6201)).1 = .ok := by
    decide
  have hlow : ((initialCan.rxFifo 0).writeRfcc 0x6201).fifoControl.count + 1 < lowLevel 0x6201 := by
    decide
  have hrx := ((threshold_exact 0x6201 zeroCanData).1 hmode).1
  exact ⟨hmode, _, hreach, hok, (hrx _ hreach hok).mpr (Or.inr (Or.inl hlow))⟩

/-- A depth of 8 and five eighths of it: the first put into a receive FIFO raises
the flag. -/
theorem first_put_raises :
    ¬ ∀ (data : BitVec 32) (fifo : CanRxFifoBuffer) (frame : CanData),
      SelectsThreshold data → RxFifoOp.watch.Reachable (fifo, data) →
        (canRxfifoPutRxdata frame fifo).1 = .ok →
          FlagAtLevel data fifo.status.rxIntr (canRxfifoPutRxdata frame fifo).2.status.rxIntr
            (canRxfifoPutRxdata frame fifo).2.fifoControl.count := by
  intro hall
  have hmode : SelectsThreshold 0x8201 := by
    unfold SelectsThreshold
    decide
  have hflag := hall 0x8201 _ zeroCanData hmode (reachable_writeRfcc 0x8201) (by decide)
  revert hflag
  unfold FlagAtLevel
  decide

end Athrill
