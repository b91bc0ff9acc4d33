import Athrill.Can.Steps

/-!
# Event flags

The flags that report a message: they should be set by the controller alone,
and a write should only clear them.  The handlers of `RSCANnCFSTSk` and
`RSCANnTMSTSp` copy the written bits.

* `CanFlag`, `CanController.flag`: the flags.
* `FlagCause`, `Honest`: what may set a flag, and a step in which nothing else
  does.
* `FlagSafe`: a write that sets no bit of a cleared flag.
* `honest_iff`: the steps that fabricate no event are exactly those.
* `flagWatch`, `flags_have_causes`: the runs of such steps.
-/

namespace Athrill

/-! ## The flags -/

/-- The event flags; `tmtrf` is a bit of the transmission result. -/
inductive CanFlag where
  | cftxif (cid : CanChannelId) (k : CanTxrxFifoIdx)
  | cfrxif (cid : CanChannelId) (k : CanTxrxFifoIdx)
  | cfmlt (cid : CanChannelId) (k : CanTxrxFifoIdx)
  | rfif (x : CanRxFifoId)
  | rfmlt (x : CanRxFifoId)
  | txqif (cid : CanChannelId)
  | thlif (cid : CanChannelId)
  | tmtrf (cid : CanChannelId) (bufno : CanTxBufferIdx) (bit : Fin 2)

/-- The value of a flag. -/
def CanController.flag (s : CanController) : CanFlag → Bool
  | .cftxif cid k => (s.txrxFifo cid k).status.txIntr
  | .cfrxif cid k => (s.txrxFifo cid k).status.rxIntr
  | .cfmlt cid k => (s.txrxFifo cid k).status.txrxLost
  | .rfif x => (s.rxFifo x).status.rxIntr
  | .rfmlt x => (s.rxFifo x).status.rxLost
  | .txqif cid => (s.txQueue cid).status.intrReq
  | .thlif cid => (s.txHistory cid).status.thlIntr
  | .tmtrf cid bufno bit => (s.txBuffer cid bufno).result.getLsbD bit.val

/-- The controller transmitted, received or lost a message in this step.  A
store can lose one: the message of a pointer-control write to a full FIFO. -/
def FlagCause (flag : CanFlag) (event : CanEvent) (outputs : List CanOutput)
    (s : CanController) : Prop :=
  match event, flag with
  | .clock _, .cftxif cid k => .txDone cid .fifo (k.castLE txrxFifoNum_le) ∈ outputs
  | .clock _, .cfrxif cid _ => ∃ frame, .received cid frame ∈ outputs
  | .clock _, .cfmlt cid _ => ∃ frame, .received cid frame ∈ outputs
  | .clock _, .rfif _ => ∃ cid frame, .received cid frame ∈ outputs
  | .clock _, .rfmlt _ => ∃ cid frame, .received cid frame ∈ outputs
  | .clock _, .txqif cid => ∃ bufno, .txDone cid .queue bufno ∈ outputs
  | .clock _, .thlif cid =>
    ∃ message result, .startSend cid message result ∈ outputs ∧ result.isOk = true
  | .clock _, .tmtrf cid bufno _ => .txDone cid .buffer bufno ∈ outputs
  | .put _ address _, .cfmlt cid k =>
    searchMap address = some .cfpctr ∧ cid = txrxFifoCid (groupIndex address 0x01D8 4) ∧
      k = txrxFifoBid (groupIndex address 0x01D8 4) ∧
      (canTxrxfifoPutTxdata s.txrxTxFifodata (s.txrxFifo cid k)).1 = .limit
  | _, _ => False

/-- Every flag that the step sets has a cause in it. -/
def Honest (event : CanEvent) (s : CanController) : Prop :=
  ∀ s' outputs, s.step event = some (s', outputs) → ∀ flag, s'.flag flag = true →
    s.flag flag = true ∨ FlagCause flag event outputs s

/-- A store into `RSCANnCFSTSk` or `RSCANnTMSTSp` leaves the bits of cleared
flags zero in the register. -/
def FlagSafe (event : CanEvent) (s : CanController) : Prop :=
  match event with
  | .put size address data =>
    let after := s.toCanDevice.put size address data
    (searchMap address = some .cfsts →
      let written := after.register (canRegGetAlignedAddr address)
      let status := (s.txrxFifoAt (groupIndex address 0x0178 4)).status
      (canRegUpdateModelFlag written 4 = true → status.txIntr = true) ∧
        (canRegUpdateModelFlag written 3 = true → status.rxIntr = true) ∧
        (canRegUpdateModelFlag written 2 = true → status.txrxLost = true)) ∧
    (searchMap address = some .tmsts → ∀ bit : Fin 2,
      (after.memory address).getLsbD (bit.val + 1) = true →
        (s.txBufferAt (address - 0x02D0)).result.getLsbD bit.val = true)
  | _ => True

instance (event : CanEvent) (s : CanController) : Decidable (FlagSafe event s) :=
  match event with
  | .put _ _ _ => inferInstanceAs (Decidable (_ ∧ _))
  | .get _ _ _ => .isTrue trivial
  | .clock _ => .isTrue trivial

/-! ## What sets a flag -/

theorem RxFifoOp.rxIntr_of_apply (op : RxFifoOp) (fifo : CanRxFifoBuffer)
    (h : (op.apply fifo).status.rxIntr = true) :
    fifo.status.rxIntr = true ∨ ∃ frame, op = .put frame := by
  cases op with
  | put frame => exact Or.inr ⟨frame, rfl⟩
  | next =>
    have hnext : (canRxfifoNextRxdata fifo).2.status.rxIntr = true := h
    unfold canRxfifoNextRxdata at hnext
    split_ifs at hnext <;> exact Or.inl hnext
  | config data =>
    have hconfig : (fifo.writeRfcc data).status.rxIntr = true := h
    unfold CanRxFifoBuffer.writeRfcc at hconfig
    dsimp only at hconfig
    split_ifs at hconfig <;> exact Or.inl hconfig
  | status data =>
    have hstatus : (if data &&& (1#32 <<< 3) = 0 then false else fifo.status.rxIntr) = true := h
    split_ifs at hstatus
    exact Or.inl hstatus
  | reset => cases h

theorem RxFifoOp.rxLost_of_apply (op : RxFifoOp) (fifo : CanRxFifoBuffer)
    (h : (op.apply fifo).status.rxLost = true) :
    fifo.status.rxLost = true ∨ ∃ frame, op = .put frame := by
  cases op with
  | put frame => exact Or.inr ⟨frame, rfl⟩
  | next =>
    have hnext : (canRxfifoNextRxdata fifo).2.status.rxLost = true := h
    unfold canRxfifoNextRxdata at hnext
    split_ifs at hnext <;> exact Or.inl hnext
  | config data =>
    have hconfig : (fifo.writeRfcc data).status.rxLost = true := h
    unfold CanRxFifoBuffer.writeRfcc at hconfig
    dsimp only at hconfig
    split_ifs at hconfig <;> exact Or.inl hconfig
  | status data =>
    have hstatus : (if data &&& (1#32 <<< 2) = 0 then false else fifo.status.rxLost) = true := h
    split_ifs at hstatus
    exact Or.inl hstatus
  | reset => cases h

/-- The operations that touch the flags of a TXRX FIFO. -/
theorem TxrxFifoOp.status_of_apply (op : TxrxFifoOp) (fifo : CanTxRxFifoBuffer) :
    ((op.apply fifo).status.txIntr = true → fifo.status.txIntr = true ∨ op = .done ∨
      ∃ data, op = .status data ∧ canRegUpdateModelFlag data 4 = true) ∧
    ((op.apply fifo).status.rxIntr = true → fifo.status.rxIntr = true ∨
      (∃ frame, op = .putRx frame) ∨
      ∃ data, op = .status data ∧ canRegUpdateModelFlag data 3 = true) ∧
    ((op.apply fifo).status.txrxLost = true → fifo.status.txrxLost = true ∨
      (∃ frame, op = .putRx frame) ∨ (∃ message, op = .putTx message) ∨
      ∃ data, op = .status data ∧ canRegUpdateModelFlag data 2 = true) := by
  cases op with
  | putRx frame =>
    refine ⟨fun h => Or.inl ?_, fun _ => Or.inr (Or.inl ⟨frame, rfl⟩),
      fun _ => Or.inr (Or.inl ⟨frame, rfl⟩)⟩
    have hput : (canTxrxfifoPutRxdata frame fifo).2.status.txIntr = true := h
    unfold canTxrxfifoPutRxdata at hput
    split_ifs at hput <;> exact hput
  | nextRx =>
    have hnext : (canTxrxfifoNextRxdata fifo).2.status.txIntr = fifo.status.txIntr ∧
        (canTxrxfifoNextRxdata fifo).2.status.rxIntr = fifo.status.rxIntr ∧
        (canTxrxfifoNextRxdata fifo).2.status.txrxLost = fifo.status.txrxLost := by
      unfold canTxrxfifoNextRxdata
      split_ifs <;> exact ⟨rfl, rfl, rfl⟩
    exact ⟨fun h => Or.inl (hnext.1.symm.trans h), fun h => Or.inl (hnext.2.1.symm.trans h),
      fun h => Or.inl (hnext.2.2.symm.trans h)⟩
  | putTx message =>
    have hput : (canTxrxfifoPutTxdata message fifo).2.status.txIntr = fifo.status.txIntr ∧
        (canTxrxfifoPutTxdata message fifo).2.status.rxIntr = fifo.status.rxIntr := by
      unfold canTxrxfifoPutTxdata
      split_ifs <;> exact ⟨rfl, rfl⟩
    exact ⟨fun h => Or.inl (hput.1.symm.trans h), fun h => Or.inl (hput.2.symm.trans h),
      fun _ => Or.inr (Or.inr (Or.inl ⟨message, rfl⟩))⟩
  | getTx =>
    have hget : (canTxrxfifoGetTxdata fifo).2.status.txIntr = fifo.status.txIntr ∧
        (canTxrxfifoGetTxdata fifo).2.status.rxIntr = fifo.status.rxIntr ∧
        (canTxrxfifoGetTxdata fifo).2.status.txrxLost = fifo.status.txrxLost := by
      unfold canTxrxfifoGetTxdata
      split <;> exact ⟨rfl, rfl, rfl⟩
    exact ⟨fun h => Or.inl (hget.1.symm.trans h), fun h => Or.inl (hget.2.1.symm.trans h),
      fun h => Or.inl (hget.2.2.symm.trans h)⟩
  | done => exact ⟨fun _ => Or.inr (Or.inl rfl), Or.inl, Or.inl⟩
  | config data =>
    have hconfig : (fifo.writeCfcc data).status.txIntr = fifo.status.txIntr ∧
        (fifo.writeCfcc data).status.rxIntr = fifo.status.rxIntr ∧
        (fifo.writeCfcc data).status.txrxLost = fifo.status.txrxLost := by
      unfold CanTxRxFifoBuffer.writeCfcc
      dsimp only
      split_ifs <;> exact ⟨rfl, rfl, rfl⟩
    exact ⟨fun h => Or.inl (hconfig.1.symm.trans h), fun h => Or.inl (hconfig.2.1.symm.trans h),
      fun h => Or.inl (hconfig.2.2.symm.trans h)⟩
  | status data =>
    exact ⟨fun h => Or.inr (Or.inr ⟨data, rfl, h⟩), fun h => Or.inr (Or.inr ⟨data, rfl, h⟩),
      fun h => Or.inr (Or.inr (Or.inr ⟨data, rfl, h⟩))⟩
  | reset => exact ⟨nofun, nofun, nofun⟩

theorem TxQueueOp.intrReq_of_apply (op : TxQueueOp) (queue : CanTxQueue)
    (h : (op.apply queue).status.intrReq = true) :
    queue.status.intrReq = true ∨ ∃ bufno, op = .done bufno := by
  cases op with
  | put message =>
    have hput : (canTxquePutTxdata message queue).status.intrReq = queue.status.intrReq := by
      unfold canTxquePutTxdata
      dsimp only
      split_ifs <;> first | rfl | (split <;> rfl)
    exact Or.inl (hput.symm.trans h)
  | done bufno => exact Or.inr ⟨bufno, rfl⟩
  | config data => exact Or.inl h
  | status data =>
    have hstatus : (if data &&& (1#32 <<< 2) = 0 then false else queue.status.intrReq) = true := h
    split_ifs at hstatus
    exact Or.inl hstatus

theorem TxHistoryOp.thlIntr_of_apply (op : TxHistoryOp) (history : CanTxHistory)
    (h : (op.apply history).status.thlIntr = true) :
    history.status.thlIntr = true ∨ ∃ thldata, op = .put thldata := by
  cases op with
  | put thldata => exact Or.inr ⟨thldata, rfl⟩
  | next =>
    have hnext : (canTxhlNextThldata history).2.status.thlIntr = true := h
    unfold canTxhlNextThldata at hnext
    split_ifs at hnext <;> exact Or.inl hnext
  | config data => exact Or.inl h
  | status data =>
    have hstatus : (if data &&& (1#32 <<< 3) = 0 then false else history.status.thlIntr) = true :=
      h
    split_ifs at hstatus
    exact Or.inl hstatus

theorem TxBufferOp.result_of_apply (bit : Fin 2) (op : TxBufferOp) (buffer : CanTxBuffer)
    (h : (op.apply buffer).result.getLsbD bit.val = true) :
    buffer.result.getLsbD bit.val = true ∨ op = .done ∨
      ∃ bits, op = .result bits ∧ bits.getLsbD bit.val = true := by
  cases op with
  | request flag => exact Or.inl h
  | result bits => exact Or.inr (Or.inr ⟨bits, rfl, h⟩)
  | message reg data => exact Or.inl h
  | send => exact Or.inl h
  | done => exact Or.inr (Or.inl rfl)
  | reset =>
    have hzero : (0#8).getLsbD bit.val = true := h
    simp at hzero

/-! ## Steps -/

namespace CanController

variable {s s' : CanController} {outputs : List CanOutput}

/-- A flag that a clock sets comes with a call of its channel. -/
theorem honest_clock (bus : CanBus) (s : CanController) : Honest (.clock bus) s := by
  intro s' outputs hstep flag hflag
  have hevolves : Evolves (clockOps outputs) s s' := (clock_clockStep hstep).evolves
  cases flag with
  | cftxif cid k =>
    rcases (hevolves.txrxFifo cid k).flag (f := fun fifo => fifo.status.txIntr)
      (fun op fifo => (op.status_of_apply fifo).1) hflag with hbefore | ⟨op, hop, hset⟩
    · exact Or.inl hbefore
    · rcases hset with heq | ⟨data, heq, _⟩
      · rw [heq] at hop
        exact Or.inr hop
      · rw [heq] at hop
        exact hop.elim
  | cfrxif cid k =>
    rcases (hevolves.txrxFifo cid k).flag (f := fun fifo => fifo.status.rxIntr)
      (fun op fifo => (op.status_of_apply fifo).2.1) hflag with hbefore | ⟨op, hop, hset⟩
    · exact Or.inl hbefore
    · rcases hset with ⟨frame, heq⟩ | ⟨data, heq, _⟩
      · rw [heq] at hop
        exact Or.inr hop
      · rw [heq] at hop
        exact hop.elim
  | cfmlt cid k =>
    rcases (hevolves.txrxFifo cid k).flag (f := fun fifo => fifo.status.txrxLost)
      (fun op fifo => (op.status_of_apply fifo).2.2) hflag with hbefore | ⟨op, hop, hset⟩
    · exact Or.inl hbefore
    · rcases hset with ⟨frame, heq⟩ | ⟨message, heq⟩ | ⟨data, heq, _⟩
      · rw [heq] at hop
        exact Or.inr hop
      · rw [heq] at hop
        exact hop.elim
      · rw [heq] at hop
        exact hop.elim
  | rfif x =>
    rcases (hevolves.rxFifo x).flag (f := fun fifo => fifo.status.rxIntr)
      (fun op fifo => op.rxIntr_of_apply fifo) hflag with hbefore | ⟨op, hop, frame, heq⟩
    · exact Or.inl hbefore
    · rw [heq] at hop
      exact Or.inr hop
  | rfmlt x =>
    rcases (hevolves.rxFifo x).flag (f := fun fifo => fifo.status.rxLost)
      (fun op fifo => op.rxLost_of_apply fifo) hflag with hbefore | ⟨op, hop, frame, heq⟩
    · exact Or.inl hbefore
    · rw [heq] at hop
      exact Or.inr hop
  | txqif cid =>
    rcases (hevolves.txQueue cid).flag (f := fun queue => queue.status.intrReq)
      (fun op queue => op.intrReq_of_apply queue) hflag with hbefore | ⟨op, hop, bufno, heq⟩
    · exact Or.inl hbefore
    · rw [heq] at hop
      exact Or.inr ⟨bufno, hop⟩
  | thlif cid =>
    rcases (hevolves.txHistory cid).flag (f := fun history => history.status.thlIntr)
      (fun op history => op.thlIntr_of_apply history) hflag with hbefore | ⟨op, hop, thldata, heq⟩
    · exact Or.inl hbefore
    · rw [heq] at hop
      exact Or.inr hop
  | tmtrf cid bufno bit =>
    rcases (hevolves.txBuffer cid bufno).flag (f := fun buffer => buffer.result.getLsbD bit.val)
      (fun op buffer => op.result_of_apply bit buffer) hflag with hbefore | ⟨op, hop, hset⟩
    · exact Or.inl hbefore
    · rcases hset with heq | ⟨bits, heq, _⟩
      · rw [heq] at hop
        exact Or.inr hop
      · rw [heq] at hop
        exact hop.elim

/-- The FIFO after a pointer-control write. -/
theorem writeCfpctr_txrxFifo (address : Nat) (s : CanController) :
    (s.writeCfpctr address).txrxFifo (txrxFifoCid (groupIndex address 0x01D8 4))
        (txrxFifoBid (groupIndex address 0x01D8 4)) =
      let fifo := s.txrxFifoAt (groupIndex address 0x01D8 4)
      if s.word address &&& 0xFF = 0xFF then
        if fifo.config.mode = canTxrxFifoModeTx then
          (canTxrxfifoPutTxdata s.txrxTxFifodata fifo).2
        else (canTxrxfifoNextRxdata fifo).2
      else fifo := by
  unfold writeCfpctr txrxFifoAt
  dsimp only
  split_ifs
  · simp [putWord, modifyTxrxFifo]
  · simp [putWord, modifyTxrxFifo]
  · rfl

theorem lost_of_putTxdata {message : CanData} {fifo : CanTxRxFifoBuffer}
    (h : (canTxrxfifoPutTxdata message fifo).2.status.txrxLost = true) :
    fifo.status.txrxLost = true ∨ (canTxrxfifoPutTxdata message fifo).1 = .limit := by
  unfold canTxrxfifoPutTxdata at h ⊢
  split_ifs at h ⊢
  · exact Or.inl h
  · exact Or.inl h
  · exact Or.inr rfl
  · exact Or.inl h

/-- A store that loses a message: the pointer-control write of a full FIFO. -/
theorem lost_of_writeCfpctr {address : Nat}
    (h : ((s.writeCfpctr address).txrxFifoAt (groupIndex address 0x01D8 4)).status.txrxLost = true) :
    (s.txrxFifoAt (groupIndex address 0x01D8 4)).status.txrxLost = true ∨
      (canTxrxfifoPutTxdata s.txrxTxFifodata
        (s.txrxFifoAt (groupIndex address 0x01D8 4))).1 = .limit := by
  rw [txrxFifoAt, writeCfpctr_txrxFifo] at h
  dsimp only at h
  split_ifs at h
  · exact lost_of_putTxdata h
  · rcases (TxrxFifoOp.nextRx.status_of_apply _).2.2 h with hbefore | hother
    · exact Or.inl hbefore
    · rcases hother with ⟨frame, heq⟩ | ⟨message, heq⟩ | ⟨data, heq, _⟩ <;> cases heq
  · exact Or.inl h

/-- A flag that a store sets: a message was lost, or the store has its bit. -/
theorem honest_put {size : AccessSize} {address : Nat} {data : BitVec 32}
    (hsafe : FlagSafe (.put size address data) s) : Honest (.put size address data) s := by
  intro s' outputs hstep flag hflag
  obtain ⟨mid, hput, heq⟩ := Option.map_eq_some_iff.mp hstep
  cases heq
  obtain ⟨hcfsts, htmsts⟩ := hsafe
  have hevolves := put_evolves hput
  cases flag with
  | cftxif cid k =>
    rcases (hevolves.txrxFifo cid k).flag (f := fun fifo => fifo.status.txIntr)
      (fun op fifo => (op.status_of_apply fifo).1) hflag with hbefore | ⟨op, hop, hset⟩
    · exact Or.inl hbefore
    · rcases hset with heq | ⟨data, heq, hbit⟩
      · rw [heq] at hop
        exact hop.elim
      · rw [heq] at hop
        obtain ⟨hgroup, hcid, hk, hdata⟩ := hop
        rw [hdata] at hbit
        rw [hcid, hk]
        exact Or.inl ((hcfsts hgroup).1 hbit)
  | cfrxif cid k =>
    rcases (hevolves.txrxFifo cid k).flag (f := fun fifo => fifo.status.rxIntr)
      (fun op fifo => (op.status_of_apply fifo).2.1) hflag with hbefore | ⟨op, hop, hset⟩
    · exact Or.inl hbefore
    · rcases hset with ⟨frame, heq⟩ | ⟨data, heq, hbit⟩
      · rw [heq] at hop
        exact hop.elim
      · rw [heq] at hop
        obtain ⟨hgroup, hcid, hk, hdata⟩ := hop
        rw [hdata] at hbit
        rw [hcid, hk]
        exact Or.inl ((hcfsts hgroup).2.1 hbit)
  | cfmlt cid k =>
    rcases (hevolves.txrxFifo cid k).flag (f := fun fifo => fifo.status.txrxLost)
      (fun op fifo => (op.status_of_apply fifo).2.2) hflag with hbefore | ⟨op, hop, hset⟩
    · exact Or.inl hbefore
    · rcases hset with ⟨frame, heq⟩ | ⟨message, heq⟩ | ⟨data, heq, hbit⟩
      · rw [heq] at hop
        exact hop.elim
      · rw [heq] at hop
        obtain ⟨hgroup, hcid, hk⟩ := hop
        subst hcid
        subst hk
        rw [put_of_group hgroup nofun nofun] at hput
        rw [← Option.some.inj hput] at hflag
        exact (lost_of_writeCfpctr hflag).imp_right fun hlimit => ⟨hgroup, rfl, rfl, hlimit⟩
      · rw [heq] at hop
        obtain ⟨hgroup, hcid, hk, hdata⟩ := hop
        rw [hdata] at hbit
        rw [hcid, hk]
        exact Or.inl ((hcfsts hgroup).2.2 hbit)
  | rfif x =>
    rcases (hevolves.rxFifo x).flag (f := fun fifo => fifo.status.rxIntr)
      (fun op fifo => op.rxIntr_of_apply fifo) hflag with hbefore | ⟨op, hop, frame, heq⟩
    · exact Or.inl hbefore
    · rw [heq] at hop
      exact hop.elim
  | rfmlt x =>
    rcases (hevolves.rxFifo x).flag (f := fun fifo => fifo.status.rxLost)
      (fun op fifo => op.rxLost_of_apply fifo) hflag with hbefore | ⟨op, hop, frame, heq⟩
    · exact Or.inl hbefore
    · rw [heq] at hop
      exact hop.elim
  | txqif cid =>
    rcases (hevolves.txQueue cid).flag (f := fun queue => queue.status.intrReq)
      (fun op queue => op.intrReq_of_apply queue) hflag with hbefore | ⟨op, hop, bufno, heq⟩
    · exact Or.inl hbefore
    · rw [heq] at hop
      exact hop.elim
  | thlif cid =>
    rcases (hevolves.txHistory cid).flag (f := fun history => history.status.thlIntr)
      (fun op history => op.thlIntr_of_apply history) hflag with hbefore | ⟨op, hop, thldata, heq⟩
    · exact Or.inl hbefore
    · rw [heq] at hop
      exact hop.elim
  | tmtrf cid bufno bit =>
    rcases (hevolves.txBuffer cid bufno).flag (f := fun buffer => buffer.result.getLsbD bit.val)
      (fun op buffer => op.result_of_apply bit buffer) hflag with hbefore | ⟨op, hop, hset⟩
    · exact Or.inl hbefore
    · rcases hset with heq | ⟨bits, heq, hbit⟩
      · rw [heq] at hop
        exact hop.elim
      · rw [heq] at hop
        obtain ⟨hgroup, hcid, hbufno, hbits⟩ := hop
        rw [hcid, hbufno]
        refine Or.inl (htmsts hgroup bit ?_)
        rw [hbits] at hbit
        simp only [BitVec.getLsbD_and, BitVec.getLsbD_ushiftRight, Bool.and_eq_true] at hbit
        rw [Nat.add_comm]
        exact hbit.1

/-- A store into a status register loses no message. -/
theorem not_flagCause_put {size : AccessSize} {address : Nat} {data : BitVec 32}
    (hgroup : searchMap address ≠ some .cfpctr) (flag : CanFlag) (outputs : List CanOutput)
    (s : CanController) : ¬ FlagCause flag (.put size address data) outputs s := by
  intro hcause
  cases flag with
  | cfmlt cid k => exact hgroup hcause.1
  | _ => exact hcause

@[simp] theorem modifyTxrxFifo_self (cid : CanChannelId) (k : CanTxrxFifoIdx)
    (f : CanTxRxFifoBuffer → CanTxRxFifoBuffer) (s : CanController) :
    (s.modifyTxrxFifo cid k f).txrxFifo cid k = f (s.txrxFifo cid k) := by
  simp [modifyTxrxFifo]

@[simp] theorem modifyTxBuffer_self (cid : CanChannelId) (bufno : CanTxBufferIdx)
    (f : CanTxBuffer → CanTxBuffer) (s : CanController) :
    (s.modifyTxBuffer cid bufno f).txBuffer cid bufno = f (s.txBuffer cid bufno) := by
  simp [modifyTxBuffer]

/-- A store with a bit of a cleared flag sets the flag. -/
theorem flagSafe_of_honest {size : AccessSize} {address : Nat} {data : BitVec 32}
    (h : Honest (.put size address data) s) : FlagSafe (.put size address data) s := by
  have hset : ∀ s', s.put size address data = some s' → searchMap address ≠ some .cfpctr →
      ∀ flag, s'.flag flag = true → s.flag flag = true := by
    intro s' hput hgroup flag hflag
    have hstep : s.step (.put size address data) = some (s', []) :=
      Option.map_eq_some_iff.mpr ⟨s', hput, rfl⟩
    exact (h s' [] hstep flag hflag).resolve_right (not_flagCause_put hgroup flag [] s)
  refine ⟨fun hgroup => ?_, fun hgroup bit hbit => ?_⟩
  · have hput := put_of_group hgroup nofun nofun size data s
    have hother : searchMap address ≠ some .cfpctr := by rw [hgroup]; nofun
    have hflags := hset _ hput hother
    refine ⟨fun hbit => ?_, fun hbit => ?_, fun hbit => ?_⟩
    · refine hflags (.cftxif _ _) ?_
      simp only [flag, modifyTxrxFifo_self]
      exact hbit
    · refine hflags (.cfrxif _ _) ?_
      simp only [flag, modifyTxrxFifo_self]
      exact hbit
    · refine hflags (.cfmlt _ _) ?_
      simp only [flag, modifyTxrxFifo_self]
      exact hbit
  · have hput := put_of_group hgroup nofun nofun size data s
    have hother : searchMap address ≠ some .cfpctr := by rw [hgroup]; nofun
    refine hset _ hput hother (.tmtrf _ _ bit) ?_
    have hmask : ∀ bit : Fin 2, (0x3 : BitVec 8).getLsbD bit.val = true := by decide
    simp only [flag, modifyTxBuffer_self]
    rw [BitVec.getLsbD_and, BitVec.getLsbD_ushiftRight, hmask bit, Nat.add_comm, Bool.and_true]
    exact hbit

end CanController

/-- A step sets no flag without a cause exactly when it is no write that puts
the bit of a cleared flag into a status register. -/
theorem honest_iff (event : CanEvent) (s : CanController) :
    Honest event s ↔ FlagSafe event s := by
  cases event with
  | put size address data =>
    exact ⟨CanController.flagSafe_of_honest, CanController.honest_put⟩
  | get size address indeterminate =>
    refine ⟨fun _ => trivial, fun _ s' outputs hstep flag hflag => Or.inl ?_⟩
    obtain ⟨memory, hmemory⟩ := s.get_eq address indeterminate
    have heq : s' = s.get address indeterminate := (congrArg Prod.fst (Option.some.inj hstep)).symm
    rw [heq, hmemory] at hflag
    cases flag <;> exact hflag
  | clock bus => exact ⟨fun _ => trivial, fun _ => CanController.honest_clock bus s⟩

/-! ## Runs -/

/-- The controller with the flags that a cause has set and that have been set
since. -/
def flagWatch : TransitionSystem (CanController × (CanFlag → Prop)) CanEvent where
  init w := w.1 = initialCan ∧ ∀ flag, ¬ w.2 flag
  step event w w' := ∃ outputs, w.1.step event = some (w'.1, outputs) ∧
    ∀ flag, w'.2 flag ↔
      w'.1.flag flag = true ∧ (w.2 flag ∨ FlagCause flag event outputs w.1)

/-- In every run whose writes set no bit of a cleared flag, a set flag goes back
to a message; and these are exactly the steps that fabricate none. -/
theorem flags_have_causes {w : CanController × (CanFlag → Prop)}
    (hw : (flagWatch.guarded fun event w => FlagSafe event w.1).Reachable w) :
    (∀ flag, w.1.flag flag = true → w.2 flag) ∧
      ∀ event s, Honest event s ↔ FlagSafe event s := by
  refine ⟨?_, honest_iff⟩
  refine TransitionSystem.Invariant.of_reachable
    (I := fun w => ∀ flag, w.1.flag flag = true → w.2 flag) ⟨?_, ?_⟩ hw
  · intro w hinit flag hflag
    rw [hinit.1] at hflag
    cases flag <;> simp [CanController.flag, initialCan] at hflag
  · intro event w w' hinv hstep flag hflag
    obtain ⟨hsafe, outputs, hstep, hwatch⟩ := hstep
    rw [hwatch flag]
    refine ⟨hflag, ?_⟩
    rcases (honest_iff event w.1).mpr hsafe w'.1 outputs hstep flag hflag with hbefore | hcause
    · exact Or.inl (hinv flag hbefore)
    · exact Or.inr hcause

/-- A run is a watched run. -/
theorem exists_flagWatch {s : CanController}
    (h : (canController.guarded FlagSafe).Reachable s) :
    ∃ watched, (flagWatch.guarded fun event w => FlagSafe event w.1).Reachable (s, watched) := by
  refine h.exists_record (fun s hs => ?_) fun event s s' watched hstep => ?_
  · exact ⟨fun _ => False, hs, fun _ => id⟩
  obtain ⟨hsafe, outputs, hstep⟩ := hstep
  let watched' flag := s'.flag flag = true ∧ (watched flag ∨ FlagCause flag event outputs s)
  exact ⟨watched', hsafe, outputs, hstep, fun _ => Iff.rfl⟩

/-- FIFO 0 has sent its message, and a write to its status keeps the flag. -/
theorem flags_have_causes_fifo :
    ∃ w, (flagWatch.guarded fun event w => FlagSafe event w.1).Reachable w ∧
      w.1.flag (.cftxif 0 0) = true ∧ w.2 (.cftxif 0 0) := by
  have hview : (CanController.runWhile FlagSafe
      (fifoStores ++ [.clock promptBus, .put .word 0x0178 0x10]) initialCan).map (fun s =>
        s.flag (.cftxif 0 0)) = some true := by
    decide +kernel
  obtain ⟨s, hreach, hflag⟩ := CanController.exists_guarded hview
  obtain ⟨watched, hreach⟩ := exists_flagWatch hreach
  exact ⟨(s, watched), hreach, hflag, (flags_have_causes hreach).1 _ hflag⟩

/-- The first write after a reset can set the transmission flag of a FIFO,
although nothing was sent. -/
theorem cfsts_write_sets_cftxif :
    canController.Reachable initialCan ∧ ¬ Honest (.put .word 0x0178 0x10) initialCan ∧
      ((initialCan.step (.put .word 0x0178 0x10)).map fun result =>
        (result.1.flag (.cftxif 0 0), result.2)) = some (true, []) := by
  refine ⟨.init rfl, fun h => ?_, by decide +kernel⟩
  have hsafe := ((honest_iff _ _).mp h).1 (by decide +kernel)
  exact absurd (hsafe.1 (by decide +kernel)) nofun

end Athrill
