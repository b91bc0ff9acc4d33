import Athrill.Intc.Starts

/-!
# The records of a request

The request of a channel stands in bit 12 of its IC register, in the bank of
the core, and in the user queue of the core.  When the judge has forwarded it, a
copy waits in an exception queue for its start.  `intc_isset_user_intr_reqflag`
reads the bank of core 0 for both cores.

* `RequestRecord`, `record`: what is recorded of a channel on a core.
* `RequestRecord.Shows`: the records say the same.
* `RequestRecord.Follows`: a change that forwards a request.
* the lemmas of `record`: what every function does to the records.
-/

namespace Athrill

open TargetCore Bits Levels

/-! ## The records -/

/-- `RFn` in the IC register. -/
def icReq (memory : IntcMemory) (c : CoreId) (n : Nat) : Bool :=
  (memory ((icCell c n).add 1)).getLsbD 4

/-- An entry of the user queue is a request of the channel. -/
def ofChannel (n : Nat) (req : ExceptionRequest) : Bool :=
  decide (req.intno = n)

/-- In the user queue: the judge has forwarded it.  In an exception queue: what
the hook of the IC registers looks for. -/
def isRunnableOf (n : Nat) (req : ExceptionRequest) : Bool :=
  ofChannel n req && decide (req.status = .runnable)

/-- An entry of an exception queue is the copy of a request of the channel and
has not been started. -/
def isCopy (n : Nat) (req : ExceptionRequest) : Bool :=
  isRequestOf (fun i => decide (i = n)) req

theorem isRunnableOf_of_ne {req : ExceptionRequest} (h : req.status ≠ .runnable) (n : Nat) :
    isRunnableOf n req = false := by
  unfold isRunnableOf
  rw [decide_eq_false h, Bool.and_false]

theorem isCopy_of_ne {req : ExceptionRequest} (h : req.status ≠ .runnable) (n : Nat) :
    isCopy n req = false := by
  unfold isCopy isRequestOf
  rw [decide_eq_false h, Bool.and_false, Bool.false_and]

/-- What is recorded of a channel on a core: the request bit, the entries of the
user queue, those of them that the judge has forwarded, and their copies. -/
@[ext]
structure RequestRecord where
  flag : Bool
  queued : Nat
  forwarded : Nat
  copies : Nat
  deriving DecidableEq, Repr

/-- The record of a channel with the queues of a core. -/
def recordOn (flag : Bool) (control : ExceptionController) (n : Nat) : RequestRecord where
  flag := flag
  queued := control.userQueue.countP (ofChannel n)
  forwarded := control.userQueue.countP (isRunnableOf n)
  copies := ∑ level, (control.exceptionQueue level).countP (isCopy n)

/-- The record of channel `n` on core `c`. -/
def record (intc : Intc) (c : CoreId) (n : Nat) : RequestRecord :=
  recordOn (icReq intc.memory c n) (intc.control c) n

namespace RequestRecord

/-- The records say that one request is outstanding, or that none is; a copy
waits exactly when it has been forwarded. -/
structure Shows (r : RequestRecord) (requested : Bool) : Prop where
  flag : r.flag = requested
  queued : r.queued = if requested then 1 else 0
  copies : r.copies = r.forwarded

/-- The bit and the number of requests are as before; as many requests have been
forwarded as copies made. -/
structure Follows (r r' : RequestRecord) : Prop where
  flag : r'.flag = r.flag
  queued : r'.queued = r.queued
  copies : r'.copies + r.forwarded = r.copies + r'.forwarded

variable {r r' : RequestRecord}

theorem Follows.of_eq (h : r' = r) : Follows r r' :=
  h ▸ ⟨rfl, rfl, rfl⟩

theorem Follows.shows (h : Follows r r') {requested : Bool} (hr : r.Shows requested) :
    r'.Shows requested := by
  obtain ⟨hflag, hqueued, hcopies⟩ := h
  have hsame := hr.copies
  exact ⟨hflag.trans hr.flag, hqueued.trans hr.queued, by omega⟩

/-- Another value of the bit. -/
theorem Shows.withFlag_iff {requested requested' flag : Bool} (h : r.Shows requested) :
    ({ r with flag := flag } : RequestRecord).Shows requested' ↔
      flag = requested ∧ requested' = requested := by
  constructor
  · rintro ⟨hflag, hqueued, -⟩
    dsimp only at hflag hqueued
    rw [h.queued] at hqueued
    have hsame : requested' = requested := by
      cases requested <;> cases requested' <;> first | rfl | cases hqueued
    exact ⟨hflag.trans hsame, hsame⟩
  · rintro ⟨rfl, rfl⟩
    exact ⟨rfl, h.queued, h.copies⟩

/-- A request is queued and its bit set. -/
def raised (r : RequestRecord) : RequestRecord :=
  { r with flag := true, queued := r.queued + 1 }

/-- A request is marked as forwarded. -/
def passed (r : RequestRecord) : RequestRecord :=
  { r with forwarded := r.forwarded + 1 }

/-- A copy is made. -/
def copied (r : RequestRecord) : RequestRecord :=
  { r with copies := r.copies + 1 }

/-- A copy is started. -/
def started (r : RequestRecord) : RequestRecord :=
  { r with copies := r.copies - 1 }

/-- A request leaves the user queue; it may have been forwarded. -/
def dropped (r : RequestRecord) (forwarded : Bool) : RequestRecord :=
  { r with queued := r.queued - 1, forwarded := r.forwarded - if forwarded then 1 else 0 }

theorem follows_passed_copied (r : RequestRecord) : r.Follows r.passed.copied :=
  ⟨rfl, rfl, by dsimp only [passed, copied]; omega⟩

end RequestRecord

theorem forwarded_le_queued (flag : Bool) (control : ExceptionController) (n : Nat) :
    (recordOn flag control n).forwarded ≤ (recordOn flag control n).queued :=
  List.countP_mono_left fun _ _ h => (Bool.and_eq_true _ _ ▸ h).1

/-! ## The queues of one core -/

section Control

variable {c : CoreId} {nextEntry : Nat} {control : ExceptionController} {n : Nat} {flag : Bool}

/-- A change of the other fields. -/
theorem recordOn_congr {control' : ExceptionController}
    (hqueue : control'.exceptionQueue = control.exceptionQueue)
    (huser : control'.userQueue = control.userQueue) :
    recordOn flag control' n = recordOn flag control n := by
  unfold recordOn
  rw [hqueue, huser]

/-- One exception queue is changed. -/
theorem copies_modifyQueue (level : Fin 16) (f : List ExceptionRequest → List ExceptionRequest) :
    (recordOn flag (control.modifyQueue level f) n).copies +
        (control.exceptionQueue level).countP (isCopy n) =
      (recordOn flag control n).copies +
        (f (control.exceptionQueue level)).countP (isCopy n) :=
  sum_modifyQueue (List.countP (isCopy n)) control level f

/-- A new request. -/
theorem recordOn_pushUser (req : ExceptionRequest) :
    recordOn flag { control with userQueue := control.userQueue ++ [req] } n =
      { recordOn flag control n with
        queued := (recordOn flag control n).queued + if ofChannel n req then 1 else 0
        forwarded := (recordOn flag control n).forwarded + if isRunnableOf n req then 1 else 0 } := by
  unfold recordOn
  dsimp only
  rw [List.countP_append, List.countP_append, List.countP_singleton, List.countP_singleton]

/-- A new entry in an exception queue. -/
theorem recordOn_pushException (level : Fin 16) (req : ExceptionRequest) :
    recordOn flag (control.modifyQueue level fun queue => queue ++ [req]) n =
      if isCopy n req = true then (recordOn flag control n).copied else recordOn flag control n := by
  have hsum := @copies_modifyQueue control n flag level
    fun queue => queue ++ [req]
  rw [List.countP_append, List.countP_singleton] at hsum
  split_ifs at hsum ⊢
  · refine RequestRecord.ext rfl rfl rfl ?_
    dsimp only [RequestRecord.copied]
    omega
  · refine RequestRecord.ext rfl rfl rfl ?_
    omega

/-- The judge forwards a request. -/
theorem recordOn_forward (h : ControlFormed c nextEntry control) {candidate : ExceptionRequest}
    (hmem : candidate ∈ control.userQueue) (hstatus : candidate.status ≠ .runnable) :
    recordOn flag { control with
        userQueue := setStatus candidate.entry .runnable control.userQueue } n =
      if ofChannel n candidate = true then (recordOn flag control n).passed
      else recordOn flag control n := by
  have hqueued := countP_setStatus h.userSorted hmem .runnable (ofChannel n)
  have hforwarded := countP_setStatus h.userSorted hmem .runnable (isRunnableOf n)
  have hafter : isRunnableOf n { candidate with status := .runnable } = ofChannel n candidate :=
    Bool.and_true _
  rw [isRunnableOf_of_ne hstatus, hafter, if_neg Bool.false_ne_true, Nat.add_zero] at hforwarded
  split_ifs at hforwarded ⊢
  · exact RequestRecord.ext rfl (Nat.add_right_cancel hqueued) hforwarded rfl
  · exact RequestRecord.ext rfl (Nat.add_right_cancel hqueued) hforwarded rfl

/-- A request leaves the user queue. -/
theorem recordOn_removeUser (h : ControlFormed c nextEntry control) {req : ExceptionRequest}
    (hmem : req ∈ control.userQueue) :
    recordOn flag { control with userQueue := removeEntry req.entry control.userQueue } n =
      if ofChannel n req = true then
        (recordOn flag control n).dropped (isRunnableOf n req)
      else recordOn flag control n := by
  have hqueued := countP_removeEntry h.userSorted hmem (ofChannel n)
  have hforwarded := countP_removeEntry h.userSorted hmem (isRunnableOf n)
  by_cases hchannel : ofChannel n req = true
  · rw [if_pos hchannel] at hqueued ⊢
    exact RequestRecord.ext rfl (Nat.eq_sub_of_add_eq hqueued) (Nat.eq_sub_of_add_eq hforwarded) rfl
  · have hnot : isRunnableOf n req = false := by
      unfold isRunnableOf
      rw [Bool.eq_false_iff.mpr hchannel, Bool.false_and]
    rw [hnot, if_neg Bool.false_ne_true] at hforwarded
    rw [if_neg hchannel] at hqueued ⊢
    exact RequestRecord.ext rfl hqueued hforwarded rfl

/-- An entry of an exception queue gets a status of a handler. -/
theorem recordOn_putStatus (h : ControlFormed c nextEntry control) {level : Fin 16}
    {req : ExceptionRequest} (hmem : req ∈ control.exceptionQueue level)
    {status : ExceptionRequestStatus} (hstatus : status ≠ .runnable) :
    recordOn flag (control.putStatus req.entry status) n =
      if isCopy n req = true then (recordOn flag control n).started
      else recordOn flag control n := by
  have huser : setStatus req.entry status control.userQueue = control.userQueue :=
    setStatus_eq_self (fun a ha => (h.userApart level req hmem a ha).symm) status
  have hqueue : (control.putStatus req.entry status).exceptionQueue =
      (control.modifyQueue level (setStatus req.entry status)).exceptionQueue := by
    funext level'
    show setStatus req.entry status (control.exceptionQueue level') =
      Function.update control.exceptionQueue level _ level'
    rw [Function.update_apply]
    split_ifs with hlevel
    · rw [hlevel]
    · refine setStatus_eq_self (fun a ha heq => ?_) status
      exact hlevel (h.apart level' level a ha req hmem heq)
  have hsum := @copies_modifyQueue control n flag level
    (setStatus req.entry status)
  have hcount := countP_setStatus (h.sorted level) hmem status (isCopy n)
  have hafter : isCopy n { req with status := status } = false := isCopy_of_ne hstatus n
  rw [hafter, if_neg Bool.false_ne_true, Nat.add_zero] at hcount
  have hsame : recordOn flag (control.putStatus req.entry status) n =
      recordOn flag (control.modifyQueue level (setStatus req.entry status)) n :=
    recordOn_congr hqueue huser
  rw [hsame]
  split_ifs at hcount ⊢
  · refine RequestRecord.ext rfl rfl rfl ?_
    dsimp only [RequestRecord.started]
    omega
  · refine RequestRecord.ext rfl rfl rfl ?_
    omega

/-- A started entry leaves its queue. -/
theorem recordOn_removeException (h : ControlFormed c nextEntry control) {level : Fin 16}
    {req : ExceptionRequest} (hmem : req ∈ control.exceptionQueue level)
    (hstatus : req.status ≠ .runnable) :
    recordOn flag (control.modifyQueue level (removeEntry req.entry)) n =
      recordOn flag control n := by
  have hsum := @copies_modifyQueue control n flag level
    (removeEntry req.entry)
  have hcount := countP_removeEntry (h.sorted level) hmem (isCopy n)
  rw [isCopy_of_ne hstatus, if_neg Bool.false_ne_true, Nat.add_zero] at hcount
  refine RequestRecord.ext rfl rfl rfl ?_
  omega

end Control

/-! ## Clearing the request bit -/

/-- What the hook of the IC registers finds in the exception queues. -/
def hookFinds (n : Nat) (control : ExceptionController) : Option ExceptionRequest :=
  (allExceptions control).find? (isRunnableOf n)

/-- The queues after the hook has cleared the request of channel `n`. -/
def cleared (n : Nat) (control : ExceptionController) : ExceptionController :=
  dropRunnable (icAddress n)
    { control with userQueue := control.userQueue.eraseP (isAtIcAddr (icAddress n)) }

section Clear

variable {control : ExceptionController} {n : Nat} {flag : Bool}

theorem userQueue_cleared : (cleared n control).userQueue = control.userQueue.eraseP (ofChannel n) := by
  unfold cleared
  rw [dropRunnable_eq, isAtIcAddr_eq]
  rfl

/-- The entry that the hook finds leaves the exception queues. -/
theorem copies_cleared (n' : Nat) :
    (recordOn flag (cleared n control) n').copies +
        (if (hookFinds n control).any (isCopy n') then 1 else 0) =
      (recordOn flag control n').copies := by
  have hqueue : (cleared n control).exceptionQueue =
      dropFirst (List.finRange 16) control.exceptionQueue (isRunnableOf n) := by
    unfold cleared
    rw [dropRunnable_eq]
    rfl
  unfold recordOn hookFinds allExceptions
  dsimp only
  rw [hqueue]
  rcases dropFirst_find? (List.finRange 16) control.exceptionQueue (isRunnableOf n) with
    ⟨heq, hnone⟩ | ⟨level, heq, hfirst⟩
  · rw [heq, hnone, Option.any_none, if_neg Bool.false_ne_true, Nat.add_zero]
  · have hsum := sum_modifyQueue (List.countP (isCopy n')) control level
      fun queue => queue.eraseP (isRunnableOf n)
    have hcount := countP_eraseP (isRunnableOf n) (isCopy n') (control.exceptionQueue level)
    have hmodify : (control.modifyQueue level fun queue =>
        queue.eraseP (isRunnableOf n)).exceptionQueue =
          Function.update control.exceptionQueue level
            ((control.exceptionQueue level).eraseP (isRunnableOf n)) := rfl
    rw [hmodify] at hsum
    rw [heq, hfirst]
    omega

/-- The requests of other channels are left. -/
theorem recordOn_cleared_of_ne {n' : Nat} (hne : n' ≠ n) :
    recordOn flag (cleared n control) n' = recordOn flag control n' := by
  have hqueued := countP_eraseP (ofChannel n) (ofChannel n') control.userQueue
  have hforwarded := countP_eraseP (ofChannel n) (isRunnableOf n') control.userQueue
  have hcopies := @copies_cleared control n flag n'
  have hother (req : ExceptionRequest) (h : ofChannel n req = true) : ofChannel n' req = false := by
    unfold ofChannel at h ⊢
    rw [decide_eq_true_eq] at h
    exact decide_eq_false (by omega)
  have huser (kind : ExceptionRequest → Bool) (hkind : ∀ req, kind req = true →
      ofChannel n' req = true) : (control.userQueue.find? (ofChannel n)).any kind = false := by
    cases hfind : control.userQueue.find? (ofChannel n) with
    | none => rfl
    | some req =>
      have hnot := hother req (List.find?_some hfind)
      exact Bool.eq_false_iff.mpr fun h => by simp [hkind req h] at hnot
  have hfound : (hookFinds n control).any (isCopy n') = false := by
    unfold hookFinds
    cases hfind : (allExceptions control).find? (isRunnableOf n) with
    | none => rfl
    | some req =>
      have hnot := hother req (Bool.and_eq_true _ _ ▸ List.find?_some hfind).1
      exact Bool.eq_false_iff.mpr fun h => by
        have hchannel : ofChannel n' req = true := (Bool.and_eq_true _ _ ▸ h).2
        simp [hchannel] at hnot
  rw [huser _ fun req h => h, if_neg Bool.false_ne_true, Nat.add_zero] at hqueued
  rw [huser _ fun req h => (Bool.and_eq_true _ _ ▸ h).1, if_neg Bool.false_ne_true,
    Nat.add_zero] at hforwarded
  rw [hfound, if_neg Bool.false_ne_true, Nat.add_zero] at hcopies
  rw [← userQueue_cleared] at hqueued hforwarded
  exact RequestRecord.ext rfl hqueued hforwarded hcopies

/-- One request of the channel leaves the user queue. -/
theorem queued_cleared : (recordOn flag (cleared n control) n).queued =
    (recordOn flag control n).queued - 1 := by
  have hqueued := countP_eraseP (ofChannel n) (ofChannel n) control.userQueue
  show (cleared n control).userQueue.countP (ofChannel n) =
    control.userQueue.countP (ofChannel n) - 1
  rw [userQueue_cleared]
  cases hfind : control.userQueue.find? (ofChannel n) with
  | none =>
    have hzero : control.userQueue.countP (ofChannel n) = 0 :=
      List.countP_eq_zero.mpr (List.find?_eq_none.mp hfind)
    omega
  | some req =>
    have hpass : ofChannel n req = true := List.find?_some hfind
    rw [hfind, Option.any_some, if_pos hpass] at hqueued
    omega

end Clear

/-! ## The request bits -/

theorem icReq_writeCells (memory : IntcMemory) (cell : IntcCell) (len : Nat)
    (data : Nat → Byte) (c : CoreId) (n : Nat) :
    icReq (writeCells memory cell len data) c n =
      if InCells cell len ((icCell c n).add 1) then
        (data (((icCell c n).add 1).index - cell.index)).getLsbD 4
      else icReq memory c n := by
  unfold icReq writeCells
  split_ifs <;> rfl

theorem inCells_icCell_high {c c' : CoreId} {n n' : Nat} (hn : n < 384) (hn' : n' < 384) :
    InCells (icCell c n) 2 ((icCell c' n').add 1) ↔ c' = c ∧ n' = n := by
  rw [icCell_eq, icCell_eq, Fin.ext_iff]
  have hc := c.isLt
  have hc' := c'.isLt
  unfold InCells IntcCell.add
  split_ifs <;> simp only [false_and, false_iff, true_and] <;> omega

/-- One bit of an IC register is written, through the whole register. -/
theorem icReq_putIcBit (intc : Intc) {c c' : CoreId} {n n' bit : Nat} {flag : Bool}
    (hn : n < 384) (hn' : n' < 384) (hbit : bit < 16) :
    icReq (putIcBit intc c n bit flag).memory c' n' =
      if (c' = c ∧ n' = n) ∧ bit = icIntreq then flag else icReq intc.memory c' n' := by
  show icReq (intc.memory.put16 (icCell c n) (putBit (intc.memory.get16 (icCell c n)) bit flag))
    c' n' = _
  rw [put16_eq_writeCells, icReq_writeCells]
  by_cases hw : InCells (icCell c n) 2 ((icCell c' n').add 1)
  · obtain ⟨rfl, rfl⟩ := (inCells_icCell_high hn hn').mp hw
    have hindex : ((icCell c' n').add 1).index - (icCell c' n').index = 1 :=
      Nat.add_sub_cancel_left _ 1
    have hhigh : (intc.memory.get16 (icCell c' n')).getLsbD icIntreq =
        icReq intc.memory c' n' := by
      unfold IntcMemory.get16 icReq
      rw [BitVec.getLsbD_append]
      rfl
    have hbyte (x : HalfWord) : (byteOf x 1).getLsbD 4 = x.getLsbD icIntreq := by
      simp [byteOf, icIntreq]
    rw [if_pos hw, hindex, hbyte]
    by_cases hreq : bit = icIntreq
    · subst hreq
      rw [getLsbD_putBit_self _ hbit, if_pos ⟨⟨rfl, rfl⟩, rfl⟩]
    · rw [getLsbD_putBit_ne _ hreq, hhigh, if_neg fun h => hreq h.2]
  · rw [if_neg hw, if_neg fun h => hw ((inCells_icCell_high hn hn').mpr h.1)]

/-- The bit that is read before a request is queued. -/
theorem issetReqflag_eq (intc : Intc) (n : Nat) :
    intcIssetUserIntrReqflag intc n = icReq intc.memory 0 n := by
  show ((intc.memory.get16 (icCell 0 n))).getLsbD icIntreq = icReq intc.memory 0 n
  unfold IntcMemory.get16 icReq
  rw [BitVec.getLsbD_append]
  rfl

/-- The hook of the IMR registers writes mask bits. -/
theorem icReq_imrHookBytes (intc : Intc) (c : CoreId) {first len : Nat}
    (hlen : first + len * 8 ≤ 384) (data : Nat → Byte) {c' : CoreId} {n : Nat} (hn : n < 384) :
    icReq (imrHookBytes c first len data intc).memory c' n = icReq intc.memory c' n := by
  have hbits (k first : Nat) (hk : first + k ≤ 384) (flag : Nat → Bool) (intc : Intc) :
      icReq ((List.range k).foldl (fun intc bit => putIntmask intc c (first + bit) (flag bit))
        intc).memory c' n = icReq intc.memory c' n := by
    induction k with
    | zero => rfl
    | succ k ih =>
      rw [List.range_succ, List.foldl_append, List.foldl_cons, List.foldl_nil, putIntmask,
        icReq_putIcBit _ (by omega) hn (by decide), if_neg fun h => absurd h.2 (by decide),
        ih (by omega)]
  induction len with
  | zero => rfl
  | succ len ih =>
    rw [imrHookBytes_succ, imrHookByte, hbits 8 _ (by omega), ih (by omega)]

/-- The hook for the lower byte of an IC register writes the lowest byte of an IMR
register, which has an even index. -/
theorem icReq_icLowerbit (intc : Intc) (c : CoreId) (regaddr : Nat) (data : HalfWord)
    (c' : CoreId) (n : Nat) :
    icReq (intcHookUpdateIcLowerbit c regaddr data intc).memory c' n =
      icReq intc.memory c' n := by
  unfold intcHookUpdateIcLowerbit
  dsimp only
  rw [put8_eq_writeCells, icReq_writeCells, if_neg]
  rw [mpuGetPointer_imrAddress, icCell_eq]
  have hc := c.isLt
  have hc' := c'.isLt
  unfold InCells IntcCell.add
  split_ifs <;> simp only [false_and, not_false_eq_true, true_and] <;> omega

/-! ## Requests -/

section Requests

variable {intc : Intc} {c c' : CoreId} {n n' : Nat}

theorem record_congr {intc' : Intc} (hreq : icReq intc'.memory c n = icReq intc.memory c n)
    (hcontrol : intc'.control c = intc.control c) : record intc' c n = record intc c n := by
  unfold record
  rw [hreq, hcontrol]

theorem record_modifyControl (f : ExceptionController → ExceptionController) :
    record (intc.modifyControl c f) c n =
      recordOn (icReq intc.memory c n) (f (intc.control c)) n := by
  have hself : (intc.modifyControl c f).control c = f (intc.control c) :=
    Function.update_self _ _ _
  unfold record
  rw [hself]
  rfl

/-- The queues of the other core. -/
theorem record_modifyControl_of_ne (hne : c ≠ c') (f : ExceptionController → ExceptionController) :
    record (intc.modifyControl c' f) c n = record intc c n :=
  record_congr rfl (Function.update_of_ne hne _ _)

/-- A request is queued on a core when the bit of the channel is clear in the
bank of core 0. -/
theorem record_commonRaiseUserIntr (hn : n < 384) (hn' : n' < 384) :
    record (commonRaiseUserIntr n' c' intc) c n =
      if (c = c' ∧ n = n') ∧ icReq intc.memory 0 n' = false then (record intc c n).raised
      else record intc c n := by
  unfold commonRaiseUserIntr
  dsimp only
  rw [issetReqflag_eq]
  by_cases hset : icReq intc.memory 0 n' = true
  · rw [if_pos hset, if_neg fun h => absurd (hset.symm.trans h.2) (by decide)]
  · rw [if_neg hset]
    unfold intcSetUserIntrReqflag record
    rw [icReq_putIcBit _ hn' hn (by decide)]
    by_cases hself : c = c' ∧ n = n'
    · obtain ⟨rfl, rfl⟩ := id hself
      rw [if_pos ⟨hself, rfl⟩, if_pos ⟨hself, Bool.eq_false_iff.mpr hset⟩]
      unfold putIcBit addUser
      dsimp only
      have hcontrol (f : ExceptionController → ExceptionController) :
          (intc.modifyControl c f).control c = f (intc.control c) := Function.update_self _ _ _
      have hpending : ExceptionRequestStatus.pending ≠ .runnable := by decide
      rw [hcontrol, recordOn_pushUser, isRunnableOf_of_ne hpending]
      unfold ofChannel
      dsimp only
      rw [if_pos (decide_eq_true rfl), if_neg Bool.false_ne_true, Nat.add_zero]
      rfl
    · rw [if_neg fun h => hself h.1, if_neg fun h => hself h.1]
      unfold putIcBit addUser
      dsimp only
      by_cases hc : c = c'
      · subst hc
        have hne : n' ≠ n := fun h => hself ⟨rfl, h.symm⟩
        have hcontrol (f : ExceptionController → ExceptionController) :
            (intc.modifyControl c f).control c = f (intc.control c) := Function.update_self _ _ _
        have hpending : ExceptionRequestStatus.pending ≠ .runnable := by decide
        rw [hcontrol, recordOn_pushUser, isRunnableOf_of_ne hpending]
        unfold ofChannel
        dsimp only
        rw [decide_eq_false hne, if_neg Bool.false_ne_true, Nat.add_zero, Nat.add_zero]
        rfl
      · exact record_modifyControl_of_ne hc _

/-- A request of a peripheral is queued on core 0 alone: it sets the bit that
is read again for core 1. -/
theorem record_intcRaiseIntr (hn : n < 384) (hn' : n' < 384) :
    record (intcRaiseIntr n' intc) c n =
      if (c = 0 ∧ n = n') ∧ icReq intc.memory 0 n' = false then (record intc c n).raised
      else record intc c n := by
  have hset : icReq (commonRaiseUserIntr n' 0 intc).memory 0 n' = true := by
    have hflag := congrArg RequestRecord.flag
      (@record_commonRaiseUserIntr intc 0 0 n' n' hn' hn')
    show (record (commonRaiseUserIntr n' 0 intc) 0 n').flag = true
    rw [hflag]
    cases hbit : icReq intc.memory 0 n' with
    | true =>
      rw [if_neg fun h => absurd h.2 (by decide)]
      exact hbit
    | false =>
      rw [if_pos ⟨⟨rfl, rfl⟩, rfl⟩]
      rfl
  unfold intcRaiseIntr
  rw [record_commonRaiseUserIntr hn hn', if_neg fun h => absurd (hset.symm.trans h.2) (by decide),
    record_commonRaiseUserIntr hn hn']

end Requests

/-! ## The judge -/

section Judge

variable {intc : Intc} {c c' : CoreId} {n : Nat}

/-- A new entry in an exception queue. -/
theorem record_addException (level : Fin 16) (req : ExceptionRequest) :
    record (addException intc c' level req) c n =
      if c = c' ∧ isCopy n req = true then (record intc c n).copied else record intc c n := by
  have hcopy : isCopy n { req with entry := intc.nextEntry } = isCopy n req := rfl
  by_cases hc : c = c'
  · subst hc
    have hself : (addException intc c level req).control c = (intc.control c).modifyQueue level
        fun queue => queue ++ [{ req with entry := intc.nextEntry }] := Function.update_self _ _ _
    have hmemory : (addException intc c level req).memory = intc.memory := rfl
    unfold record
    rw [hself, hmemory, recordOn_pushException, hcopy]
    simp only [true_and]
  · rw [if_neg fun h => hc h.1]
    exact record_congr rfl (Function.update_of_ne hc _ _)

/-- The judge forwards a request and makes its copy. -/
theorem follows_judgePendingUserIntr {s : CpuIntc} (h : IntcFormed s.intc) :
    (record s.intc c n).Follows (record (judgePendingUserIntr c' s).intc c n) := by
  have hforward (candidate : ExceptionRequest) (s : CpuIntc) (h : IntcFormed s.intc)
      (hmem : candidate ∈ (s.intc.control c').userQueue) (hstatus : candidate.status ≠ .runnable) :
      (record s.intc c n).Follows (record (judgeCpuMaskUserIntr candidate s).intc c n) := by
    obtain ⟨hexno, hcore, -, -⟩ := (h c').user candidate hmem
    have hcopy : isCopy n { candidate with status := .runnable } = ofChannel n candidate := by
      unfold isCopy isRequestOf ofChannel
      rw [decide_eq_true hexno, decide_eq_true rfl, Bool.true_and, Bool.true_and]
    unfold judgeCpuMaskUserIntr
    dsimp only
    split_ifs
    · exact .of_eq rfl
    · exact .of_eq rfl
    · dsimp only
      rw [hcore] at hcopy ⊢
      rw [record_addException, hcopy]
      by_cases hc : c = c'
      · subst hc
        rw [record_modifyControl, recordOn_forward (h c) hmem hstatus, ← record]
        by_cases hchannel : ofChannel n candidate = true
        · rw [if_pos ⟨rfl, hchannel⟩, if_pos hchannel]
          exact RequestRecord.follows_passed_copied _
        · rw [if_neg fun h => hchannel h.2, if_neg hchannel]
          exact .of_eq rfl
      · rw [if_neg fun h => hc h.1]
        exact .of_eq (record_modifyControl_of_ne hc _)
  unfold judgePendingUserIntr
  split
  · exact .of_eq rfl
  · rename_i candidate hcandidate
    split_ifs with hstatus
    · exact .of_eq rfl
    · exact hforward candidate { s with cpu := { s.cpu with isHalt := false } } h
        (userCandidate_mem hcandidate).1 hstatus

/-- An entry becomes a handler, running or waiting. -/
theorem record_putStatus (h : IntcFormed intc) {level : Fin 16} {req : ExceptionRequest}
    (hmem : req ∈ (intc.control c').exceptionQueue level) {status : ExceptionRequestStatus}
    (hstatus : status ≠ .runnable) (current : Option Nat) :
    record (intc.modifyControl c' fun control =>
        { control.putStatus req.entry status with currentException := current }) c n =
      if c = c' ∧ isCopy n req = true then (record intc c n).started else record intc c n := by
  by_cases hc : c = c'
  · subst hc
    rw [record_modifyControl]
    have hsame : recordOn (icReq intc.memory c n)
        { (intc.control c).putStatus req.entry status with currentException := current } n =
        recordOn (icReq intc.memory c n) ((intc.control c).putStatus req.entry status) n :=
      recordOn_congr rfl rfl
    rw [hsame, recordOn_putStatus (h c) hmem hstatus, ← record]
    simp only [true_and]
  · rw [if_neg fun h => hc h.1]
    exact record_modifyControl_of_ne hc _

theorem record_markWaiting (h : IntcFormed intc) :
    record (markWaiting c' intc) c n = record intc c n := by
  unfold markWaiting
  split
  · rename_i current hcurrent
    obtain ⟨level, req, hmem, rfl, hstatus⟩ := (h c').current current hcurrent
    have hwaiting : ExceptionRequestStatus.waiting ≠ .runnable := by decide
    have hput := @record_putStatus intc c c' n h level req hmem .waiting hwaiting
      (intc.control c').currentException
    rw [if_neg fun h => by rw [isCopy_of_ne hstatus] at h; exact absurd h.2 (by decide)] at hput
    exact hput
  · rfl

/-- Another entry than the running exception keeps its status. -/
theorem mem_markWaiting {level : Fin 16} {req : ExceptionRequest}
    (hmem : req ∈ (intc.control c').exceptionQueue level)
    (hother : some req.entry ≠ (intc.control c').currentException) :
    req ∈ ((markWaiting c' intc).control c').exceptionQueue level := by
  unfold markWaiting
  split
  · rename_i current hcurrent
    have hself : (intc.modifyControl c' fun control =>
        control.putStatus current .waiting).control c' =
        (intc.control c').putStatus current .waiting := Function.update_self _ _ _
    rw [hself]
    refine List.mem_map.mpr ⟨req, hmem, if_neg ?_⟩
    rintro rfl
    exact hother hcurrent.symm
  · exact hmem

/-- The judge starts the copy of a request of the channel. -/
def startsCopy (c : CoreId) (s : CpuIntc) (n : Nat) : Bool :=
  (judgePendingException c s).1.any fun e =>
    (allExceptions (s.intc.control c)).any fun req => decide (req.entry = e.entry) && isCopy n req

theorem mem_allExceptions {control : ExceptionController} {req : ExceptionRequest} :
    req ∈ allExceptions control ↔ ∃ level, req ∈ control.exceptionQueue level := by
  unfold allExceptions
  rw [List.mem_flatMap]
  exact exists_congr fun level => and_iff_right (List.mem_finRange level)

/-- The entry that is started is found again. -/
theorem startsCopy_of_started {s : CpuIntc} (h : IntcFormed s.intc) {level : Fin 16}
    {candidate e : ExceptionRequest} (hmem : candidate ∈ (s.intc.control c).exceptionQueue level)
    (hstarted : (judgePendingException c s).1 = some e) (hentry : e.entry = candidate.entry) :
    startsCopy c s n = isCopy n candidate := by
  unfold startsCopy
  rw [hstarted, Option.any_some, Bool.eq_iff_iff, List.any_eq_true]
  constructor
  · rintro ⟨req, hreq, hfound⟩
    rw [Bool.and_eq_true, decide_eq_true_eq] at hfound
    obtain ⟨level', hreq⟩ := mem_allExceptions.mp hreq
    rw [← (h c).eq_of_entry hreq hmem (hfound.1.trans hentry)]
    exact hfound.2
  · intro hcopy
    refine ⟨candidate, mem_allExceptions.mpr ⟨level, hmem⟩, ?_⟩
    rw [Bool.and_eq_true, decide_eq_true_eq]
    exact ⟨hentry.symm, hcopy⟩

/-- What the judge starts is no longer a copy that waits. -/
theorem record_judgePendingException {s : CpuIntc} (h : IntcFormed s.intc) :
    record (judgePendingException c' s).2.intc c n =
      if c = c' ∧ startsCopy c' s n = true then (record s.intc c n).started
      else record s.intc c n := by
  have hstarts := fun level candidate e hmem => @startsCopy_of_started c' n s h level candidate e hmem
  have hnone (hnot : (judgePendingException c' s).1 = none) : ¬ startsCopy c' s n = true := by
    unfold startsCopy
    rw [hnot]
    exact Bool.false_ne_true
  generalize startsCopy c' s n = starts at hstarts hnone ⊢
  have houtcome := judgeOutcome_judgePendingException c' s
  generalize judgePendingException c' s = result at houtcome hstarts hnone ⊢
  have hrunning : ExceptionRequestStatus.running ≠ .runnable := by decide
  cases houtcome with
  | idle _ => rw [if_neg fun h => hnone rfl h.2]
  | resumed candidate hnew hstatus =>
    obtain ⟨level, hmem⟩ := judgeSearch_mem (h c') hnew.best hnew.other
    have hput := @record_putStatus s.intc c c' n h level candidate hmem .running hrunning
      (some candidate.entry)
    have hnot : isCopy n candidate = false := isCopy_of_ne (by rw [hstatus]; decide) n
    rw [hnot, if_neg fun h => Bool.false_ne_true h.2] at hput
    rw [if_neg fun h => hnone rfl h.2]
    exact hput
  | started candidate hnew _ _ =>
    obtain ⟨level, hmem⟩ := judgeSearch_mem (h c') hnew.best hnew.other
    have hput := @record_putStatus (markWaiting c' s.intc) c c' n (intcFormed_markWaiting h c')
      level candidate (mem_markWaiting hmem hnew.other) .running hrunning (some candidate.entry)
    rw [record_markWaiting h] at hput
    rw [hstarts level candidate _ hmem rfl rfl]
    exact hput
  | refused _ _ _ _ =>
    rw [if_neg fun h => hnone rfl h.2]
    exact record_markWaiting h

end Judge

/-! ## Starts and ends -/

section Starts

variable {c : CoreId} {n : Nat} {s : CpuIntc}

/-- The first request of the channel leaves the user queue, and its bit is
cleared. -/
theorem record_hookUserIntrRaised (h : IntcFormed s.intc) (hn : n < 384)
    {exception found : ExceptionRequest}
    (hfind : (s.intc.control exception.coreId).userQueue.find?
      (fun req => decide (req.intno = exception.intno)) = some found) :
    record (hookUserIntrRaised exception s).intc c n =
      if c = exception.coreId ∧ n = exception.intno then
        { (record s.intc c n).dropped (isRunnableOf n found) with flag := false }
      else record s.intc c n := by
  have hmem := List.mem_of_find?_eq_some hfind
  obtain ⟨-, hcore, hintno, -⟩ := (h exception.coreId).user found hmem
  have hchannel : found.intno = exception.intno := of_decide_eq_true (List.find?_some hfind :)
  have hlt : exception.intno < 384 := hchannel ▸ hintno.trans (by decide)
  unfold hookUserIntrRaised
  dsimp only
  rw [hfind]
  dsimp only
  rw [hcore, hchannel]
  unfold intcSetUserIntrReqflag record
  rw [icReq_putIcBit _ hlt hn (by decide)]
  unfold putIcBit
  dsimp only
  by_cases hc : c = exception.coreId
  · subst hc
    have hself (f : ExceptionController → ExceptionController) :
        (s.intc.modifyControl exception.coreId f).control exception.coreId =
          f (s.intc.control exception.coreId) := Function.update_self _ _ _
    rw [hself, recordOn_removeUser (h exception.coreId) hmem]
    have hof : ofChannel n found = true ↔ n = exception.intno := by
      unfold ofChannel
      rw [decide_eq_true_eq, hchannel]
      exact eq_comm
    by_cases hsame : n = exception.intno
    · rw [if_pos (hof.mpr hsame), if_pos ⟨⟨rfl, hsame⟩, rfl⟩, if_pos ⟨rfl, hsame⟩]
      rfl
    · rw [if_neg (mt hof.mp hsame), if_neg fun h => hsame h.1.2, if_neg fun h => hsame h.2]
      rfl
  · have hother (f : ExceptionController → ExceptionController) :
        (s.intc.modifyControl exception.coreId f).control c = s.intc.control c :=
      Function.update_of_ne hc _ _
    rw [hother, if_neg fun h => hc h.1.1, if_neg fun h => hc h.1]
    rfl

/-- Without a request of the channel nothing is changed. -/
theorem intc_hookUserIntrRaised_of_none {exception : ExceptionRequest}
    (hfind : (s.intc.control exception.coreId).userQueue.find?
      (fun req => decide (req.intno = exception.intno)) = none) :
    (hookUserIntrRaised exception s).intc = s.intc := by
  unfold hookUserIntrRaised
  dsimp only
  rw [hfind]

/-- The running exception has been started. -/
theorem record_dropCurrent {intc : Intc} (h : IntcFormed intc) {c' : CoreId}
    {exp : ExceptionRequest} (hcurrent : (intc.control c').current = some exp) :
    record (dropCurrent c' exp intc) c n = record intc c n := by
  obtain ⟨req, hsome, -, hstatus, hmem⟩ :=
    (h c').current_eq_some ((h c').current_isSome_iff hcurrent)
  obtain rfl := Option.some.inj (hcurrent.symm.trans hsome)
  unfold dropCurrent
  by_cases hc : c = c'
  · subst hc
    have hsame : recordOn (icReq intc.memory c n)
        { (intc.control c).modifyQueue exp.level (removeEntry exp.entry) with
          currentException := none } n =
        recordOn (icReq intc.memory c n)
          ((intc.control c).modifyQueue exp.level (removeEntry exp.entry)) n :=
      recordOn_congr rfl rfl
    rw [record_modifyControl]
    exact hsame.trans (recordOn_removeException (h c) hmem hstatus)
  · exact record_modifyControl_of_ne hc _

theorem record_intcClrEi (h : IntcFormed s.intc) (c' : CoreId) :
    record (intcClrEi c' s).intc c n = record s.intc c n := by
  unfold intcClrEi
  cases hcurrent : (s.intc.control c').current with
  | none => rfl
  | some exp => exact record_dropCurrent h hcurrent

theorem record_intcClrFe (h : IntcFormed s.intc) (c' : CoreId) :
    record (intcClrFe c' s).intc c n = record s.intc c n := by
  unfold intcClrFe
  cases hcurrent : (s.intc.control c').current with
  | none => rfl
  | some exp => exact record_dropCurrent h hcurrent

end Starts

end Athrill
