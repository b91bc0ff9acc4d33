import Athrill.Can.Offers
import Athrill.Lib.Bits
import Athrill.Lib.MinScan

/-!
# Choosing by the identifier

With the priority of the identifiers a channel compares all messages that wait
through one word for each and sends the first one with the smallest word.  The
word of an extended frame has the low bits of its identifier at the place of the
base identifier and loses the ten highest bits.

* `Wins`, `busKey`: the order of the bus.
* `WaitingMessage`, `waiting`: the messages that wait, in the order of the loops.
* `checkKey`, `canGetCheckId_toNat`: the word as a number.
* `prioStandardCandidate_eq_scan`: the loops are one scan of these messages.
* `ServesWinner`, `SelectsWinner`, `selectsWinner_exact`: when the choice is a
  message that no other one beats on the bus.
-/

namespace Athrill

/-! ## The order of the bus -/

/-- The identifier of a frame, 11 or 29 bits. -/
def CanData.frameId (message : CanData) : Nat :=
  message.id.toNat % 2 ^ (if message.ide then 29 else 11)

/-- `a` wins the arbitration against `b`: the smaller identifier, then the data
frame; between the formats the base identifier, then the standard frame. -/
def Wins (a b : CanData) : Prop :=
  match a.ide, b.ide with
  | false, true => a.frameId ≤ b.frameId / 2 ^ 18
  | true, false => a.frameId / 2 ^ 18 < b.frameId
  | _, _ => a.frameId < b.frameId ∨ a.frameId = b.frameId ∧ a.rtr = false ∧ b.rtr = true

/-- The bits that a frame sends in the arbitration, the first one highest: the
11 bits of the base, then the bits that the formats send at the same places. -/
def CanData.busKey (message : CanData) : Nat :=
  if message.ide then
    message.frameId / 2 ^ 18 * 2 ^ 20 + 2 ^ 19 + message.frameId % 2 ^ 18 * 2 + message.rtr.toNat
  else message.frameId * 2 ^ 20 + message.rtr.toNat

/-- The frame with the smaller bits wins. -/
theorem wins_iff (a b : CanData) : Wins a b ↔ a.busKey < b.busKey := by
  have hrtr := Bool.toNat_le a.rtr
  have hrtr' := Bool.toNat_le b.rtr
  have hflags : a.rtr.toNat < b.rtr.toNat ↔ a.rtr = false ∧ b.rtr = true := by
    cases a.rtr <;> cases b.rtr <;> simp
  have hmod := Nat.mod_lt a.frameId (show 0 < 2 ^ 18 by decide)
  have hmod' := Nat.mod_lt b.frameId (show 0 < 2 ^ 18 by decide)
  unfold Wins CanData.busKey
  cases ha : a.ide with
  | false =>
    cases hb : b.ide with
    | false =>
      simp only [Bool.false_eq_true, if_false, ← hflags]
      omega
    | true =>
      simp only [Bool.false_eq_true, if_false, if_true]
      omega
  | true =>
    cases hb : b.ide with
    | false =>
      simp only [Bool.false_eq_true, if_false, if_true]
      omega
    | true =>
      simp only [if_true, ← hflags]
      omega

/-! ## The compared word -/

/-- The word of a message as a number: of an extended frame only the bits from
17 down keep a place of their own, and bit 18 shares one with the remote bit. -/
def CanData.checkKey (message : CanData) : Nat :=
  if message.ide then
    message.id.toNat % 2 ^ 11 + 3 * 2 ^ 11 + message.id.toNat / 2 ^ 11 % 2 ^ 7 * 2 ^ 24 +
      (message.id.getLsbD 18 || message.rtr).toNat * 2 ^ 31
  else message.id.toNat % 2 ^ 11 + message.rtr.toNat * 2 ^ 11

theorem toNat_stdid (id : BitVec 32) : (id &&& 0x7FF).toNat = id.toNat % 2 ^ 11 := by
  have hmask : ∀ i : Fin 32,
      (0x7FF : BitVec 32).getLsbD i.val = decide (0 ≤ i.val ∧ i.val < 0 + 11) := by
    decide
  rw [BitVec.and_comm, Bits.toNat_mask_and hmask, Nat.pow_zero, Nat.div_one, Nat.mul_one]

theorem toNat_extid (id : BitVec 32) :
    (id &&& 0x1FFFF800).toNat = id.toNat / 2 ^ 11 % 2 ^ 18 * 2 ^ 11 := by
  have hmask : ∀ i : Fin 32,
      (0x1FFFF800 : BitVec 32).getLsbD i.val = decide (11 ≤ i.val ∧ i.val < 11 + 18) := by
    decide
  rw [BitVec.and_comm, Bits.toNat_mask_and hmask]

/-- Words without a common bit. -/
theorem toNat_or {x y : BitVec 32} (h : x &&& y = 0) : (x ||| y).toNat = x.toNat + y.toNat := by
  rw [← BitVec.add_eq_or_of_and_eq_zero x y h, BitVec.toNat_add_of_and_eq_zero h]

theorem and_and_eq_zero {a b : BitVec 32} (h : a &&& b = 0) (x y : BitVec 32) :
    (x &&& a) &&& (y &&& b) = 0 := by
  rw [BitVec.and_assoc, ← BitVec.and_assoc a, BitVec.and_comm a y, BitVec.and_assoc y a, h]
  simp

/-- The word of an extended frame without its remote bit. -/
theorem toNat_extended (id : BitVec 32) :
    ((id &&& (0x7FF : BitVec 32)) ||| (1#32 <<< 11) ||| (1#32 <<< 12) |||
        ((id &&& (0x1FFFF800 : BitVec 32)) <<< 13)).toNat =
      id.toNat % 2 ^ 11 + 3 * 2 ^ 11 + id.toNat / 2 ^ 11 % 2 ^ 8 * 2 ^ 24 := by
  have hflags : (id &&& (0x7FF : BitVec 32)) ||| (1#32 <<< 11) ||| (1#32 <<< 12) =
      (id &&& (0x7FF : BitVec 32)) ||| (0x1800 : BitVec 32) := by
    rw [BitVec.or_assoc]
    rfl
  have hlow : (id &&& (0x7FF : BitVec 32)) &&& (0x1800 : BitVec 32) = 0 := by
    rw [BitVec.and_assoc]
    exact BitVec.and_zero
  have hshift : (id &&& (0x1FFFF800 : BitVec 32)) <<< 13 =
      (id <<< 13) &&& (0xFF000000 : BitVec 32) := by
    rw [BitVec.shiftLeft_and_distrib]
    rfl
  have hhigh : ((id &&& (0x7FF : BitVec 32)) ||| (0x1800 : BitVec 32)) &&&
      ((id &&& (0x1FFFF800 : BitVec 32)) <<< 13) = 0 := by
    have hid := and_and_eq_zero (show 0x7FF &&& 0xFF000000 = (0 : BitVec 32) from rfl) id
      (id <<< 13)
    have hset := and_and_eq_zero (show 0x1800 &&& 0xFF000000 = (0 : BitVec 32) from rfl)
      0x1800 (id <<< 13)
    rw [BitVec.and_self] at hset
    rw [hshift, BitVec.and_or_distrib_right, hid, hset, BitVec.or_self]
  rw [hflags, toNat_or hhigh, toNat_or hlow, BitVec.toNat_shiftLeft, toNat_extid, toNat_stdid]
  have hset : (0x1800 : BitVec 32).toNat = 3 * 2 ^ 11 := rfl
  rw [hset, Nat.shiftLeft_eq]
  omega

/-- Setting the highest bit. -/
theorem toNat_or_top (x : BitVec 32) : (x ||| (1#32 <<< 31)).toNat = x.toNat % 2 ^ 31 + 2 ^ 31 := by
  have hmask : ∀ i : Fin 32,
      (0x7FFFFFFF : BitVec 32).getLsbD i.val = decide (0 ≤ i.val ∧ i.val < 0 + 31) := by
    decide
  have hlow : ((0x7FFFFFFF : BitVec 32) &&& x).toNat = x.toNat % 2 ^ 31 := by
    rw [Bits.toNat_mask_and hmask, Nat.pow_zero, Nat.div_one, Nat.mul_one]
  have hreplace : x ||| (1#32 <<< 31) = ((0x7FFFFFFF : BitVec 32) &&& x) ||| (1#32 <<< 31) := by
    apply BitVec.eq_of_getLsbD_eq
    intro i hi
    have hi' := hmask ⟨i, hi⟩
    have htop : (1#32 <<< 31).getLsbD i = decide (i = 31) := by
      show (BitVec.twoPow 32 31).getLsbD i = decide (i = 31)
      rw [BitVec.getLsbD_twoPow]
      simp [eq_comm]
    rw [BitVec.getLsbD_or, BitVec.getLsbD_or, BitVec.getLsbD_and, hi', htop]
    by_cases hlast : i = 31
    · simp [hlast]
    · have hlt : i < 31 := by omega
      simp [hlt]
  have hapart : ((0x7FFFFFFF : BitVec 32) &&& x) &&& (1#32 <<< 31) = 0 := by
    rw [BitVec.and_comm 0x7FFFFFFF x, BitVec.and_assoc]
    exact BitVec.and_zero
  have htop : (1#32 <<< 31).toNat = 2 ^ 31 := rfl
  rw [hreplace, toNat_or hapart, hlow, htop]

/-- The code's word is the one above. -/
theorem canGetCheckId_toNat (message : CanData) :
    (CanController.canGetCheckId message).toNat = message.checkKey := by
  have hext := toNat_extended message.id
  have hbit : (message.id.getLsbD 18).toNat = message.id.toNat / 2 ^ 18 % 2 := by
    rw [← BitVec.testBit_toNat, Nat.toNat_testBit]
  unfold CanController.canGetCheckId CanData.checkKey
  cases message.ide with
  | true =>
    cases message.rtr with
    | true =>
      rw [if_pos rfl, if_pos rfl, if_pos rfl, toNat_or_top, hext, Bool.or_true]
      show _ = _ + 2 ^ 31
      omega
    | false =>
      have hdiv : message.id.toNat / 2 ^ 18 = message.id.toNat / 2 ^ 11 / 2 ^ 7 := by
        rw [Nat.div_div_eq_div_mul, ← Nat.pow_add]
      rw [if_pos rfl, if_neg nofun, if_pos rfl, hext, Bool.or_false, hbit, hdiv]
      omega
  | false =>
    have hrtr : (message.id &&& (0x7FF : BitVec 32)) &&& (1#32 <<< 11) = 0 := by
      rw [BitVec.and_assoc]
      exact BitVec.and_zero
    cases message.rtr with
    | true =>
      rw [if_neg nofun, if_pos rfl, if_neg nofun, toNat_or hrtr, toNat_stdid]
      rfl
    | false =>
      rw [if_neg nofun, if_neg nofun, if_neg nofun, toNat_stdid]
      rfl

/-! ## The messages that wait -/

/-- A message that waits, with its source. -/
structure WaitingMessage where
  source : CanTxSource
  bufidx : CanTxBufferIdx
  message : CanData
  deriving DecidableEq

/-- Its word. -/
def WaitingMessage.key (w : WaitingMessage) : Nat := w.message.checkKey

namespace CanController

variable {s : CanController} {cid : CanChannelId}

/-- What a loop finds at one index. -/
def waitingAt (source : CanTxSource) (bufidx : CanTxBufferIdx) :
    Except CanReturn CanData → Option WaitingMessage
  | .ok message => some { source := source, bufidx := bufidx, message := message }
  | .error _ => none

/-- The pending buffers of a channel, then the heads of its transmit FIFOs, then
the filled slots of its queue. -/
def waiting (s : CanController) (cid : CanChannelId) : List WaitingMessage :=
  ((List.finRange 16).filterMap fun bufno =>
      waitingAt .buffer bufno (canTxbufferPeekTxdata (s.txBuffer cid bufno))) ++
    ((List.finRange 3).filterMap fun k =>
      waitingAt .fifo (k.castLE txrxFifoNum_le) (canTxrxfifoPeekTxdata (s.txrxFifo cid k))) ++
    (List.finRange 16).filterMap fun bufno =>
      waitingAt .queue bufno (canTxquePeekTxdata bufno (s.txQueue cid))

theorem waitingAt_eq_some {source : CanTxSource} {bufidx : CanTxBufferIdx}
    {peek : Except CanReturn CanData} {w : WaitingMessage}
    (h : waitingAt source bufidx peek = some w) :
    w.source = source ∧ w.bufidx = bufidx ∧ peek = .ok w.message := by
  cases peek with
  | error e => cases h
  | ok message =>
    cases h
    exact ⟨rfl, rfl, rfl⟩

/-- A message that waits is the one that its source gives. -/
theorem taken_of_waiting {w : WaitingMessage} (h : w ∈ s.waiting cid) :
    s.taken cid w.source w.bufidx = some (.ok w.message) := by
  unfold waiting at h
  rcases List.mem_append.mp h with h | h
  · rcases List.mem_append.mp h with h | h
    · obtain ⟨bufno, _, hw⟩ := List.mem_filterMap.mp h
      obtain ⟨hsource, hbufidx, hpeek⟩ := waitingAt_eq_some hw
      unfold canTxbufferPeekTxdata at hpeek
      split_ifs at hpeek
      rw [hsource, hbufidx]
      exact congrArg some hpeek
    · obtain ⟨k, _, hw⟩ := List.mem_filterMap.mp h
      obtain ⟨hsource, hbufidx, hpeek⟩ := waitingAt_eq_some hw
      have hlt : (k.castLE txrxFifoNum_le).val < 3 := k.isLt
      rw [hsource, hbufidx]
      unfold taken getTxdata
      dsimp only
      rw [dif_pos hlt]
      have hget : canTxrxfifoGetTxdata (s.txrxFifo cid k) =
          (.ok w.message, (canTxrxfifoGetTxdata (s.txrxFifo cid k)).2) := by
        unfold canTxrxfifoGetTxdata
        rw [hpeek]
      exact congrArg some (congrArg Prod.fst hget)
  · obtain ⟨bufno, _, hw⟩ := List.mem_filterMap.mp h
    obtain ⟨hsource, hbufidx, hpeek⟩ := waitingAt_eq_some hw
    rw [hsource, hbufidx]
    exact congrArg some hpeek

/-! ## The loops as one scan -/

/-- What the loops remember of a message. -/
def asCandidate (w : WaitingMessage) : Candidate where
  minId := canGetCheckId w.message
  bufidx := w.bufidx
  source := w.source

/-- `min_id` at the start. -/
def noId : Nat := 2 ^ 32 - 1

/-- The value of `min_id` goes with the candidate. -/
def Bounded (acc : Nat × Option WaitingMessage) : Prop :=
  acc.1 = match acc.2 with
    | none => noId
    | some w => WaitingMessage.key w

theorem bounded_step {acc : Nat × Option WaitingMessage} (h : Bounded acc) (w : WaitingMessage) :
    Bounded (MinScan.step WaitingMessage.key acc w) := by
  unfold MinScan.step
  split_ifs
  · rfl
  · exact h

/-- One index of a loop. -/
theorem consider_eq {acc : Nat × Option WaitingMessage} (h : Bounded acc) (source : CanTxSource)
    (bufidx : CanTxBufferIdx) (peek : Except CanReturn CanData) :
    consider source bufidx peek (acc.2.map asCandidate) =
      (MinScan.scan WaitingMessage.key acc
        (waitingAt source bufidx peek).toList).2.map asCandidate := by
  cases peek with
  | error e => rfl
  | ok message =>
    have hstep : MinScan.scan WaitingMessage.key acc
        (waitingAt source bufidx (.ok message)).toList =
        MinScan.step WaitingMessage.key acc ⟨source, bufidx, message⟩ := rfl
    have hless : ∀ minId : BitVec 32, minId.toNat = acc.1 →
        (canGetCheckId message < minId ↔ message.checkKey < acc.1) := by
      intro minId hminId
      rw [BitVec.lt_def, canGetCheckId_toNat, hminId]
    rw [hstep]
    unfold MinScan.step
    obtain ⟨bound, best⟩ := acc
    cases best with
    | none =>
      have hiff := hless 0xFFFFFFFF h.symm
      by_cases hlt : message.checkKey < bound
      · rw [if_pos (show WaitingMessage.key ⟨source, bufidx, message⟩ < bound from hlt)]
        exact if_pos (hiff.mpr hlt)
      · rw [if_neg (show ¬ WaitingMessage.key ⟨source, bufidx, message⟩ < bound from hlt)]
        exact if_neg (mt hiff.mp hlt)
    | some w =>
      have hiff := hless (canGetCheckId w.message) ((canGetCheckId_toNat w.message).trans h.symm)
      by_cases hlt : message.checkKey < bound
      · rw [if_pos (show WaitingMessage.key ⟨source, bufidx, message⟩ < bound from hlt)]
        exact if_pos (hiff.mpr hlt)
      · rw [if_neg (show ¬ WaitingMessage.key ⟨source, bufidx, message⟩ < bound from hlt)]
        exact if_neg (mt hiff.mp hlt)

/-- One loop. -/
theorem foldl_consider {ι : Type} (source : CanTxSource) (bufidx : ι → CanTxBufferIdx)
    (peek : ι → Except CanReturn CanData) (l : List ι) {acc : Nat × Option WaitingMessage}
    (h : Bounded acc) :
    Bounded (MinScan.scan WaitingMessage.key acc
        (l.filterMap fun i => waitingAt source (bufidx i) (peek i))) ∧
      l.foldl (fun best i => consider source (bufidx i) (peek i) best) (acc.2.map asCandidate) =
        (MinScan.scan WaitingMessage.key acc
          (l.filterMap fun i => waitingAt source (bufidx i) (peek i))).2.map asCandidate := by
  induction l generalizing acc with
  | nil => exact ⟨h, rfl⟩
  | cons i l ih =>
    rw [List.foldl_cons, consider_eq h]
    cases hat : waitingAt source (bufidx i) (peek i) with
    | none =>
      have hskip : (i :: l).filterMap (fun i => waitingAt source (bufidx i) (peek i)) =
          l.filterMap fun i => waitingAt source (bufidx i) (peek i) :=
        List.filterMap_cons_none hat
      rw [hskip]
      exact ih h
    | some w =>
      have htake : (i :: l).filterMap (fun i => waitingAt source (bufidx i) (peek i)) =
          w :: l.filterMap fun i => waitingAt source (bufidx i) (peek i) :=
        List.filterMap_cons_some hat
      rw [htake]
      exact ih (bounded_step h w)

theorem scan_append {acc : Nat × Option WaitingMessage} (l l' : List WaitingMessage) :
    MinScan.scan WaitingMessage.key acc (l ++ l') =
      MinScan.scan WaitingMessage.key (MinScan.scan WaitingMessage.key acc l) l' :=
  List.foldl_append

/-- A queue that is not enabled offers nothing. -/
theorem waiting_queue_disabled (h : (s.txQueue cid).config.enableQueue = false) :
    ((List.finRange 16).filterMap fun bufno =>
      waitingAt .queue bufno (canTxquePeekTxdata bufno (s.txQueue cid))) = [] := by
  refine List.filterMap_eq_nil_iff.mpr fun bufno _ => ?_
  unfold canTxquePeekTxdata
  rw [if_pos h]
  rfl

/-- The three loops keep the first message with the smallest word. -/
theorem prioStandardCandidate_eq_scan (s : CanController) (cid : CanChannelId) :
    s.prioStandardCandidate cid =
      (MinScan.scan WaitingMessage.key (noId, none) (s.waiting cid)).2.map asCandidate := by
  have hstart : Bounded (noId, none) := rfl
  obtain ⟨hbounded, hbuffers⟩ := foldl_consider .buffer (fun bufno => bufno)
    (fun bufno => canTxbufferPeekTxdata (s.txBuffer cid bufno)) (List.finRange 16) hstart
  obtain ⟨hbounded', hfifos⟩ := foldl_consider .fifo (fun k => k.castLE txrxFifoNum_le)
    (fun k => canTxrxfifoPeekTxdata (s.txrxFifo cid k)) (List.finRange 3) hbounded
  obtain ⟨_, hqueue⟩ := foldl_consider .queue (fun bufno => bufno)
    (fun bufno => canTxquePeekTxdata bufno (s.txQueue cid)) (List.finRange 16) hbounded'
  unfold prioStandardCandidate waiting
  rw [scan_append, scan_append]
  dsimp only
  split_ifs with henable
  · rw [← hqueue, ← hfifos, ← hbuffers]
    rfl
  · have hnil : ∀ acc, MinScan.scan WaitingMessage.key acc [] = acc := fun _ => rfl
    rw [waiting_queue_disabled (by simpa using henable), hnil, ← hfifos, ← hbuffers]
    rfl

/-! ## The choice -/

/-- The channel sends a message that waits and that no other one beats. -/
def SelectsWinner (s : CanController) (cid : CanChannelId) : Prop :=
  ∃ choice, s.selection cid = some choice ∧
    ∃ w ∈ s.waiting cid, choice.source = w.source ∧ choice.bufidx = w.bufidx ∧
      s.taken cid choice.source choice.bufidx = some (.ok w.message) ∧
      ∀ v ∈ s.waiting cid, ¬ Wins v.message w.message

/-- No message of the list beats this one. -/
def Unbeaten (l : List WaitingMessage) (w : WaitingMessage) : Prop :=
  ∀ v ∈ l, ¬ Wins v.message w.message

/-- An unbeaten message has a word that is not all ones and smaller than those
of all beaten messages, or equal where the beaten one comes later. -/
def ServesWinner (l : List WaitingMessage) : Prop :=
  ∃ before w after, l = before ++ w :: after ∧ Unbeaten l w ∧
    w.message.checkKey < 2 ^ 32 - 1 ∧
    (∀ v ∈ before, ¬ Unbeaten l v → w.message.checkKey < v.message.checkKey) ∧
    ∀ v ∈ after, ¬ Unbeaten l v → w.message.checkKey ≤ v.message.checkKey

/-- The first message with the smallest word is unbeaten exactly if an unbeaten
one comes before all beaten ones in the order of the words. -/
theorem unbeaten_firstMin_iff {l : List WaitingMessage} {w : WaitingMessage}
    (hmin : MinScan.IsFirstMin WaitingMessage.key l w) (hkey : w.key < noId) :
    Unbeaten l w ↔ ServesWinner l := by
  constructor
  · intro hwins
    obtain ⟨before, after, heq, hbefore, hafter⟩ := hmin
    exact ⟨before, w, after, heq, hwins, hkey, fun v hv _ => hbefore v hv,
      fun v hv _ => hafter v hv⟩
  · intro hserves
    obtain ⟨before, u, after, heq, hwins, _, hbefore, hafter⟩ := hserves
    by_contra hbeaten
    rcases hmin.split heq with hsame | ⟨hmem, hle⟩ | ⟨hmem, hlt⟩
    · rw [hsame] at hbeaten
      exact hbeaten hwins
    · exact absurd (hbefore w hmem hbeaten) (Nat.not_lt.mpr hle)
    · exact absurd (hafter w hmem hbeaten) (Nat.not_le.mpr hlt)

/-- What the selection makes of a candidate. -/
theorem selection_of_candidate (cid : CanChannelId)
    (hprio : s.modeGlobal.config.enableTxBufnoFirst = false) :
    (s.prioStandardCandidate cid = none → s.selection cid = none) ∧
      ∀ best, s.prioStandardCandidate cid = some best →
        ∃ choice, s.selection cid = some choice ∧ choice.source = best.source ∧
          choice.bufidx = best.bufidx := by
  have hselection : s.selection cid = s.canTxSelectBufferPrioStandard cid := by
    unfold selection
    rw [hprio]
    rfl
  rw [hselection]
  unfold canTxSelectBufferPrioStandard
  refine ⟨fun hnone => by rw [hnone]; rfl, fun best hbest => ?_⟩
  rw [hbest]
  obtain ⟨minId, bufidx, source⟩ := best
  cases source with
  | buffer => exact ⟨_, rfl, rfl, rfl⟩
  | fifo => exact ⟨_, rfl, rfl, rfl⟩
  | queue => exact ⟨_, rfl, rfl, rfl⟩

/-- With the priority of the identifiers a channel chooses a message that no
other one beats exactly when the words of the messages put one before all beaten
ones. -/
theorem selectsWinner_exact (s : CanController) (cid : CanChannelId)
    (hprio : s.modeGlobal.config.enableTxBufnoFirst = false) :
    SelectsWinner s cid ↔ ServesWinner (s.waiting cid) := by
  obtain ⟨hnone, hsome⟩ := selection_of_candidate cid hprio
  have hscan := prioStandardCandidate_eq_scan s cid
  rcases MinScan.scan_cases WaitingMessage.key (noId, none) (s.waiting cid) with
    ⟨hkeep, hall⟩ | ⟨w, hgive, hlt, hmin⟩
  · -- every word is all ones, so that nothing is chosen
    rw [hkeep] at hscan
    refine iff_of_false (fun hselects => ?_) fun hserves => ?_
    · obtain ⟨choice, hchoice, _⟩ := hselects
      rw [hnone hscan] at hchoice
      cases hchoice
    · obtain ⟨before, u, after, heq, _, hkey, _⟩ := hserves
      have hle := hall u (by rw [heq]; simp)
      exact absurd hkey (Nat.not_lt.mpr hle)
  · rw [hgive] at hscan
    obtain ⟨choice, hchoice, hsource, hbufidx⟩ := hsome (asCandidate w) hscan
    have htaken := taken_of_waiting hmin.mem
    rw [← unbeaten_firstMin_iff hmin hlt]
    constructor
    · intro hselects
      obtain ⟨choice', hchoice', u, _, hsource', hbufidx', htaken', hwins⟩ := hselects
      have hsame : choice' = choice := Option.some.inj (hchoice'.symm.trans hchoice)
      have hmessage : u.message = w.message := by
        rw [hsame, hsource, hbufidx] at htaken'
        exact Except.ok.inj (Option.some.inj (htaken'.symm.trans htaken))
      rw [hmessage] at hwins
      exact hwins
    · intro hwins
      refine ⟨choice, hchoice, w, hmin.mem, hsource, hbufidx, ?_, hwins⟩
      rw [hsource, hbufidx]
      exact htaken

/-- Among standard data frames the words are the identifiers. -/
theorem servesWinner_of_data {l : List WaitingMessage} (hsome : l ≠ [])
    (hdata : ∀ w ∈ l, w.message.ide = false ∧ w.message.rtr = false) : ServesWinner l := by
  have hkey : ∀ w ∈ l, w.key < 2 ^ 11 ∧ w.message.busKey = w.key * 2 ^ 20 := by
    intro w hw
    obtain ⟨hide, hrtr⟩ := hdata w hw
    unfold WaitingMessage.key CanData.checkKey CanData.busKey CanData.frameId
    simp only [hide, hrtr, Bool.false_eq_true, if_false, Bool.toNat_false]
    omega
  rcases MinScan.scan_cases WaitingMessage.key (noId, none) l with
    ⟨_, hall⟩ | ⟨w, _, hlt, hmin⟩
  · obtain ⟨w, hw⟩ := List.exists_mem_of_ne_nil l hsome
    have hle : noId ≤ w.key := hall w hw
    have hsmall := (hkey w hw).1
    unfold noId at hle
    omega
  · refine (unbeaten_firstMin_iff hmin hlt).mp fun v hv hwins => ?_
    have hle := hmin.le v hv
    have hbus := (wins_iff v.message w.message).mp hwins
    rw [(hkey v hv).2, (hkey w hmin.mem).2] at hbus
    omega

/-- Standard data frames in two buffers, a FIFO and the queue. -/
def fourWaiting : List CanEvent :=
  fifoStores ++ [.put .word 0x1000 0x300, .put .word 0x1010 0x100, .put .byte 0x0250 0x1,
    .put .byte 0x0251 0x1, .put .word 0x03A0 0x301, .put .word 0x10F0 0x200, .put .word 0x03E0 0xFF]

/-- Buffer 1 is selected of the four. -/
theorem selectsWinner_four :
    ∃ s, canController.Reachable s ∧ s.modeGlobal.config.enableTxBufnoFirst = false ∧
      ((s.waiting 0).length = 4 ∧
        (s.selection 0).map (fun choice => (choice.source, choice.bufidx)) = some (.buffer, 1)) ∧
      SelectsWinner s 0 := by
  have hview : (run fourWaiting initialCan).map (fun s =>
      decide (s.modeGlobal.config.enableTxBufnoFirst = false ∧
        ((s.waiting 0).length = 4 ∧
          (s.selection 0).map (fun choice => (choice.source, choice.bufidx)) =
            some (.buffer, 1)) ∧
        ∀ w ∈ s.waiting 0, w.message.ide = false ∧ w.message.rtr = false)) = some true := by
    decide +kernel
  obtain ⟨s, hreach, hs⟩ := exists_reachable hview
  obtain ⟨hprio, hfour, hdata⟩ := of_decide_eq_true hs
  have hsome : s.waiting 0 ≠ [] := by
    intro hnil
    rw [hnil] at hfour
    cases hfour.1
  exact ⟨s, hreach, hprio, hfour,
    (selectsWinner_exact s 0 hprio).mpr (servesWinner_of_data hsome hdata)⟩

/-- Of two extended frames that differ in their highest bit the larger
identifier is sent first. -/
theorem larger_identifier_first :
    ¬ ∀ s, canController.Reachable s → ∀ cid, s.modeGlobal.config.enableTxBufnoFirst = false →
      s.waiting cid ≠ [] → SelectsWinner s cid := by
  intro hall
  have hview : (run [.put .word 0x1000 0x90000000, .put .word 0x1010 0x80000000,
      .put .byte 0x0250 1, .put .byte 0x0251 1] initialCan).map (fun s =>
      (s.modeGlobal.config.enableTxBufnoFirst, s.waiting 0,
        (s.selection 0).map fun choice => choice.bufidx)) =
      some (false,
        [⟨.buffer, 0, { zeroCanData with ide := true, id := 0x10000000 }⟩,
          ⟨.buffer, 1, { zeroCanData with ide := true }⟩],
        some 0) := by
    decide +kernel
  obtain ⟨s, hreach, hs⟩ := exists_reachable hview
  obtain ⟨hprio, hrest⟩ := Prod.mk.inj hs
  obtain ⟨hwaiting, hchoice⟩ := Prod.mk.inj hrest
  have hsome : s.waiting 0 ≠ [] := by
    rw [hwaiting]
    exact List.cons_ne_nil _ _
  obtain ⟨choice, hselection, w, hw, _, hbufidx, _, hwins⟩ := hall s hreach 0 hprio hsome
  rw [hselection] at hchoice
  have hzero : choice.bufidx = 0 := Option.some.inj hchoice
  rw [hwaiting] at hw hwins
  rcases List.mem_cons.mp hw with hfirst | hw
  · refine hwins ⟨.buffer, 1, { zeroCanData with ide := true }⟩ (by simp) ?_
    rw [hfirst]
    exact (wins_iff _ _).mpr (by decide)
  · have hsecond := List.mem_singleton.mp hw
    rw [hsecond, hzero] at hbufidx
    exact absurd hbufidx (by decide)

end CanController

end Athrill
