import Athrill.Can.Memory
import Athrill.Can.Queue
import Athrill.Can.Sends

/-!
# The messages of the transmit buffers and queues

The message of a transmit buffer is the decoding of the bytes that software
wrote last to its registers, in whatever widths and order, and a slot of a
queue keeps the message that it was given.

* `txBufferBase`, `decodeTxBuffer`: the registers of a buffer.
* `TxWritten`, `txWatch`: what software wrote last, beside the controller.
* `Snapshots`: the invariant.
* `snapshots_exact`: the runs of naturally aligned stores.
-/

namespace Athrill

open CanController

/-! ## The registers of a buffer -/

/-- The address of `RSCANnTMIDp`. -/
def txBufferBase (cid : CanChannelId) (bufno : CanTxBufferIdx) : Nat :=
  0x1000 + 16 * canTxBufferId cid.val bufno.val

/-- The message in the registers of a transmit buffer. -/
def decodeTxBuffer (bytes : CanMemory) (cid : CanChannelId) (bufno : CanTxBufferIdx) : CanData :=
  decodeMessage 0xFF bytes (txBufferBase cid bufno)

/-- The number of the buffer whose registers hold an address. -/
def txBufferNumber (address : Nat) : Nat := groupIndex address 0x1000 16

theorem txBufferBase_bounds (cid : CanChannelId) (bufno : CanTxBufferIdx) :
    0x1000 ≤ txBufferBase cid bufno ∧ txBufferBase cid bufno + 16 ≤ 0x1600 := by
  have hcid : cid.val < 6 := cid.isLt
  have hbufno : bufno.val < 16 := bufno.isLt
  unfold txBufferBase canTxBufferId
  omega

theorem searchMap_txBuffer {address : Nat} (hle : 0x1000 ≤ address) (hlt : address < 0x1600) :
    searchMap address = some .txBuffer := by
  have hmem : ⟨0x1000, 16 * 96, .txBuffer⟩ ∈ canRegisterMappingTable := by
    simp [canRegisterMappingTable]
  exact searchMap_of_mem _ hmem hle hlt

theorem bounds_of_txBuffer {address : Nat} (h : searchMap address = some .txBuffer) :
    0x1000 ≤ address ∧ address < 0x1600 := by
  obtain ⟨map, hmem, heq, hle, hlt⟩ := searchMap_bounds h
  have hone : ∀ map ∈ canRegisterMappingTable, map.group = .txBuffer →
      map.start = 0x1000 ∧ map.size = 0x600 := by
    decide
  obtain ⟨hstart, hsize⟩ := hone map hmem heq
  omega

/-- The handler of an address works on the buffer whose registers hold it. -/
theorem txBuffer_address {address : Nat} (h : searchMap address = some .txBuffer) :
    canRegGetAlignedAddr address = txBufferBase (txBufferCid (txBufferNumber address))
        (txBufferBid (txBufferNumber address)) + canRegGetAlignedAddr address % 16 ∧
      IsMessageRegister (canRegGetAlignedAddr address % 16) := by
  obtain ⟨hle, hlt⟩ := bounds_of_txBuffer h
  have hcid : (txBufferCid (txBufferNumber address)).val = txBufferNumber address / 16 % 6 := rfl
  have hbid : (txBufferBid (txBufferNumber address)).val = txBufferNumber address % 16 := rfl
  unfold txBufferBase canTxBufferId IsMessageRegister
  rw [hcid, hbid]
  unfold txBufferNumber groupIndex canRegGetAlignedAddr
  omega

/-- Two buffers share no register. -/
theorem txBufferBase_apart {cid cid' : CanChannelId} {bufno bufno' : CanTxBufferIdx}
    (h : ¬ (cid = cid' ∧ bufno = bufno')) :
    txBufferBase cid bufno + 16 ≤ txBufferBase cid' bufno' ∨
      txBufferBase cid' bufno' + 16 ≤ txBufferBase cid bufno := by
  have hbufno : bufno.val < 16 := bufno.isLt
  have hbufno' : bufno'.val < 16 := bufno'.isLt
  have hne : ¬ (cid.val = cid'.val ∧ bufno.val = bufno'.val) := fun heq =>
    h ⟨Fin.ext heq.1, Fin.ext heq.2⟩
  unfold txBufferBase canTxBufferId
  omega

/-! ## Stores -/

namespace CanController

variable {s s' : CanController} {size : AccessSize} {address : Nat} {data : BitVec 32}

/-- The transmit messages and the slots of the queues are the same. -/
def SameMessages (s s' : CanController) : Prop :=
  (∀ cid bufno, (s'.txBuffer cid bufno).message = (s.txBuffer cid bufno).message) ∧
    ∀ cid, (s'.txQueue cid).txData = (s.txQueue cid).txData

theorem SameMessages.trans {s'' : CanController} (h : SameMessages s s')
    (h' : SameMessages s' s'') : SameMessages s s'' :=
  ⟨fun cid bufno => (h'.1 cid bufno).trans (h.1 cid bufno),
    fun cid => (h'.2 cid).trans (h.2 cid)⟩

theorem sameMessages_refl (s : CanController) : SameMessages s s :=
  ⟨fun _ _ => rfl, fun _ => rfl⟩

theorem sameMessages_afterStore (size : AccessSize) (address : Nat) (data : BitVec 32)
    (s : CanController) : SameMessages s (s.afterStore size address data) := by
  refine afterStore_induction sameMessages_refl (fun _ _ _ h h' => h.trans h') ?_
    (fun t => sameMessages_refl t) (fun t _ => sameMessages_refl t) size address data s
  intro cid t
  refine ⟨fun c bufno => ?_, fun _ => rfl⟩
  show (Function.update t.txBuffer cid _ c bufno).message = _
  by_cases hc : c = cid
  · subst hc
    rw [Function.update_self]
    rfl
  · rw [Function.update_of_ne hc]

theorem sameMessages_modifyTxBuffer {f : CanTxBuffer → CanTxBuffer}
    (hf : ∀ buffer, (f buffer).message = buffer.message) (cid : CanChannelId)
    (bufno : CanTxBufferIdx) (s : CanController) : SameMessages s (s.modifyTxBuffer cid bufno f) := by
  refine ⟨fun c b => ?_, fun _ => rfl⟩
  show (Function.update s.txBuffer cid _ c b).message = _
  by_cases hc : c = cid
  · subst hc
    rw [Function.update_self]
    by_cases hb : b = bufno
    · subst hb
      rw [Function.update_self]
      exact hf _
    · rw [Function.update_of_ne hb]
  · rw [Function.update_of_ne hc]

theorem sameMessages_modifyTxQueue {f : CanTxQueue → CanTxQueue}
    (hf : ∀ queue, (f queue).txData = queue.txData) (cid : CanChannelId) (s : CanController) :
    SameMessages s (s.modifyTxQueue cid f) := by
  refine ⟨fun _ _ => rfl, fun c => ?_⟩
  show (Function.update s.txQueue cid _ c).txData = _
  by_cases hc : c = cid
  · subst hc
    rw [Function.update_self]
    exact hf _
  · rw [Function.update_of_ne hc]

/-- The handlers of the other registers. -/
theorem sameMessages_writeHook {group : CanRegisterGroup} (hbuffer : group ≠ .txBuffer)
    (hqueue : group ≠ .txqpctr) (h : s.writeHook group address = some s') : SameMessages s s' := by
  have hkept : KeptByHook group address (SameMessages s) :=
    { dlcError := fun _ _ ht => ht
      rules := fun _ _ _ _ _ ht => ht
      rxBuffer := fun _ _ ht => ht
      rxFifo := fun _ _ _ ht => ht
      txrxFifo := fun _ _ _ _ ht => ht
      staged := fun _ _ ht => ht
      txBuffer := fun cid bufno _ t hf ht =>
        ht.trans (sameMessages_modifyTxBuffer (fun buffer => hf buffer hbuffer) cid bufno t)
      txIntrEnable := fun _ _ ht => ht
      txQueue := fun cid _ t hf ht =>
        ht.trans (sameMessages_modifyTxQueue (fun queue => hf queue hqueue) cid t)
      txHistory := fun _ _ _ _ ht => ht
      cleared := fun _ _ ht => ht }
  exact hkept.keeps (sameMessages_refl s) h

/-- A put changes no slot with a request, and stores its message in a slot
without one. -/
theorem txData_put (message : CanData) (queue : CanTxQueue) (bufno : CanTxBufferIdx) :
    (canTxquePutTxdata message queue).txData bufno = queue.txData bufno ∨
      (queue.txData bufno).txReq = false ∧
        (canTxquePutTxdata message queue).txData bufno = { txReq := true, data := message } := by
  unfold canTxquePutTxdata
  by_cases henable : queue.config.enableQueue = false
  · rw [if_pos henable]
    exact Or.inl rfl
  · by_cases hquelen : queue.config.quelen = 0
    · rw [if_neg henable, if_pos hquelen]
      exact Or.inl rfl
    · rw [if_neg henable, if_neg hquelen]
      dsimp only
      by_cases hroom : queue.reqbufnum ≥ queue.config.quelen.val + 1
      · rw [if_pos hroom]
        exact Or.inl rfl
      · rw [if_neg hroom]
        cases hsearch : canTxqueSearch queue.txData (queue.config.quelen.val + 1) 15 with
        | none => exact Or.inl rfl
        | some free =>
          have hcount : queue.config.quelen.val + 1 ≤ (15 : CanTxBufferIdx).val + 1 := by
            have hlt := queue.config.quelen.isLt
            show _ ≤ 16
            omega
          have hfree := (canTxqueSearch_some hcount hsearch).2
          show Function.update queue.txData free _ bufno = _ ∨
            _ ∧ Function.update queue.txData free _ bufno = _
          by_cases hb : bufno = free
          · subst hb
            rw [Function.update_self]
            exact Or.inr ⟨hfree, rfl⟩
          · rw [Function.update_of_ne hb]
            exact Or.inl rfl

end CanController

/-! ## What software wrote last -/

/-- The last byte written to each address, and the message that each slot of a
queue was given. -/
structure TxWritten where
  bytes : CanMemory
  queued : CanChannelId → CanTxBufferIdx → CanData

/-- A put into a slot takes the message of the last buffer of its channel. -/
def TxWritten.after (event : CanEvent) (s s' : CanController) (written : TxWritten) : TxWritten :=
  { bytes := event.written written.bytes
    queued := fun cid bufno =>
      if ((s.txQueue cid).txData bufno).txReq = false ∧
          ((s'.txQueue cid).txData bufno).txReq = true then
        decodeTxBuffer (event.written written.bytes) cid 15
      else written.queued cid bufno }

/-- The controller beside what software wrote last. -/
def txWatch : TransitionSystem (CanController × TxWritten) CanEvent where
  init w := w = (initialCan, { bytes := fun _ => 0, queued := fun _ _ => zeroCanData })
  step event w w' := canController.step event w.1 w'.1 ∧ w'.2 = w.2.after event w.1 w'.1

/-- The stores are naturally aligned. -/
def NaturallyAligned : CanEvent → Prop
  | .put size address _ => address % size.bytes = 0
  | _ => True

instance (event : CanEvent) : Decidable (NaturallyAligned event) :=
  match event with
  | .put _ _ _ => inferInstanceAs (Decidable (_ = _))
  | .get _ _ _ => .isTrue trivial
  | .clock _ => .isTrue trivial

theorem NaturallyAligned.within {size : AccessSize} {address : Nat} {data : BitVec 32}
    (h : NaturallyAligned (.put size address data)) : address % 4 + size.bytes ≤ 4 := by
  cases size with
  | byte =>
    show address % 4 + 1 ≤ 4
    omega
  | half =>
    have heven : address % 2 = 0 := h
    show address % 4 + 2 ≤ 4
    omega
  | word =>
    have hfour : address % 4 = 0 := h
    show address % 4 + 4 ≤ 4
    omega

/-- The messages are those of the registers, the registers hold what was
written, and the slots hold what they were given. -/
structure Snapshots (w : CanController × TxWritten) : Prop where
  message : ∀ cid bufno, (w.1.txBuffer cid bufno).message = decodeTxBuffer w.1.memory cid bufno
  bytes : ∀ cid bufno, AgreeOn w.1.memory w.2.bytes (txBufferBase cid bufno)
  queued : ∀ cid bufno, ((w.1.txQueue cid).txData bufno).txReq = true →
    ((w.1.txQueue cid).txData bufno).data = w.2.queued cid bufno

theorem Snapshots.decoded {w : CanController × TxWritten} (h : Snapshots w) (cid : CanChannelId)
    (bufno : CanTxBufferIdx) :
    (w.1.txBuffer cid bufno).message = decodeTxBuffer w.2.bytes cid bufno :=
  (h.message cid bufno).trans (h.bytes cid bufno).decode

section Steps

variable {s s' : CanController} {size : AccessSize} {address : Nat} {data : BitVec 32}

/-- Registers whose bytes are the same hold the same message. -/
theorem decodeTxBuffer_congr {old new : CanMemory} {cid : CanChannelId} {bufno : CanTxBufferIdx}
    (h : ∀ i, i < 16 → new (txBufferBase cid bufno + i) = old (txBufferBase cid bufno + i)) :
    decodeTxBuffer new cid bufno = decodeTxBuffer old cid bufno := by
  have hagree : AgreeOn new old (txBufferBase cid bufno) := by
    intro i hi j _ _
    rw [h i hi]
  exact hagree.decode

/-- Away from the register of an address nothing of a buffer changes. -/
theorem decodeTxBuffer_outside {old new : CanMemory} {cid : CanChannelId} {bufno : CanTxBufferIdx}
    (hsame : ∀ i, 0x500 ≤ i →
      (i < canRegGetAlignedAddr address ∨ canRegGetAlignedAddr address + 4 ≤ i) → new i = old i)
    (hother : ¬ (searchMap address = some .txBuffer ∧
      cid = txBufferCid (txBufferNumber address) ∧ bufno = txBufferBid (txBufferNumber address))) :
    decodeTxBuffer new cid bufno = decodeTxBuffer old cid bufno := by
  obtain ⟨hlow, hhigh⟩ := txBufferBase_bounds cid bufno
  refine decodeTxBuffer_congr fun i hi => hsame _ (by omega) ?_
  by_cases hmap : searchMap address = some .txBuffer
  · obtain ⟨haddr, hreg⟩ := txBuffer_address hmap
    have hapart := txBufferBase_apart fun heq => hother ⟨hmap, heq⟩
    have hreg' : canRegGetAlignedAddr address % 16 + 4 ≤ 16 := by
      rcases hreg with h | h | h | h <;> omega
    omega
  · have hout : ¬ (0x1000 ≤ address ∧ address < 0x1600) := fun h =>
      hmap (searchMap_txBuffer h.1 h.2)
    unfold canRegGetAlignedAddr
    omega

/-- A store to a register of a buffer. -/
theorem message_put_txBuffer (hmap : searchMap address = some .txBuffer)
    (h : s.put size address data = some s') (cid : CanChannelId) (bufno : CanTxBufferIdx) :
    (s'.txBuffer cid bufno).message =
      (if cid = txBufferCid (txBufferNumber address) ∧
          bufno = txBufferBid (txBufferNumber address) then
        writeTxBuffer (canRegGetAlignedAddr address % 16)
          (canRegisterReadData32 (canRegGetAlignedAddr address) s'.memory)
          (s.txBuffer cid bufno).message
      else (s.txBuffer cid bufno).message) ∧ s'.txQueue = s.txQueue := by
  rw [put_of_group hmap nofun nofun] at h
  cases h
  refine ⟨?_, rfl⟩
  show (Function.update s.txBuffer _ _ cid bufno).message = _
  by_cases hcid : cid = txBufferCid (txBufferNumber address)
  · rw [hcid]
    by_cases hbid : bufno = txBufferBid (txBufferNumber address)
    · rw [if_pos ⟨rfl, hbid⟩, hbid]
      unfold txBufferNumber
      rw [Function.update_self, Function.update_self]
      rfl
    · rw [if_neg fun heq => hbid heq.2]
      unfold txBufferNumber at hbid ⊢
      rw [Function.update_self, Function.update_of_ne hbid]
  · rw [if_neg fun heq => hcid heq.1]
    unfold txBufferNumber at hcid
    rw [Function.update_of_ne hcid]

/-- What a load of a register of a buffer writes back. -/
theorem readWord_txBuffer (s : CanController) (address : Nat) (indeterminate : BitVec 32) :
    readWord .txBuffer address indeterminate
        { s with toCanDevice := s.toCanDevice.get address } =
      some (messageWord (canRegGetAlignedAddr address % 16)
        (s.txBuffer (txBufferCid (txBufferNumber address))
          (txBufferBid (txBufferNumber address))).message) :=
  rfl

/-- A slot is as before, or it was free and has taken the message of the last
buffer. -/
def SlotStep (s s' : CanController) (cid : CanChannelId) (bufno : CanTxBufferIdx) : Prop :=
  (s'.txQueue cid).txData bufno = (s.txQueue cid).txData bufno ∨
    ((s.txQueue cid).txData bufno).txReq = false ∧
      (s'.txQueue cid).txData bufno = { txReq := true, data := (s.txBuffer cid 15).message }

/-- A store to any other register. -/
theorem messages_put (hmap : searchMap address ≠ some .txBuffer)
    (h : s.put size address data = some s') :
    (∀ cid bufno, (s'.txBuffer cid bufno).message = (s.txBuffer cid bufno).message) ∧
      ∀ cid bufno, SlotStep s s' cid bufno := by
  have hafter := sameMessages_afterStore size address data s
  by_cases hqueue : searchMap address = some .txqpctr
  · rw [put_of_group hqueue nofun nofun] at h
    cases h
    unfold writeTxqpctr
    dsimp only
    split_ifs
    · refine ⟨fun _ _ => rfl, fun cid bufno => ?_⟩
      unfold SlotStep
      show (Function.update s.txQueue _ _ cid).txData bufno = _ ∨
        _ ∧ (Function.update s.txQueue _ _ cid).txData bufno = _
      by_cases hcid : cid = Fin.ofNat canChannelNum (groupIndex address 0x03E0 4)
      · rw [hcid, Function.update_self]
        exact txData_put _ _ bufno
      · rw [Function.update_of_ne hcid]
        exact Or.inl rfl
    · exact ⟨fun _ _ => rfl, fun _ _ => Or.inl rfl⟩
  · have hsame : SameMessages s s' := by
      rw [put_eq] at h
      cases hgroup : searchMap address with
      | none =>
        simp only [hgroup] at h
        cases h
        exact hafter
      | some group =>
        simp only [hgroup] at h
        refine hafter.trans (sameMessages_writeHook ?_ ?_ h)
        · exact fun heq => hmap (heq ▸ hgroup)
        · exact fun heq => hqueue (heq ▸ hgroup)
    exact ⟨hsame.1, fun cid bufno => Or.inl (congrFun (hsame.2 cid) bufno)⟩

end Steps

namespace Snapshots

variable {w : CanController × TxWritten} {s' : CanController}

/-- A slot that is not filled keeps its message, and one that is filled has
taken the message that its buffer has after the step. -/
theorem queued_step (h : Snapshots w) (event : CanEvent)
    (hdecoded : ∀ cid bufno, (s'.txBuffer cid bufno).message =
      decodeTxBuffer (w.2.after event w.1 s').bytes cid bufno)
    (hmessage : ∀ cid bufno, (s'.txBuffer cid bufno).message = (w.1.txBuffer cid bufno).message ∨
      s'.txQueue = w.1.txQueue)
    (hslot : ∀ cid bufno, SlotStep w.1 s' cid bufno) (cid : CanChannelId)
    (bufno : CanTxBufferIdx) (hreq : ((s'.txQueue cid).txData bufno).txReq = true) :
    ((s'.txQueue cid).txData bufno).data = (w.2.after event w.1 s').queued cid bufno := by
  unfold TxWritten.after at hdecoded ⊢
  dsimp only at hdecoded ⊢
  rcases hslot cid bufno with hsame | ⟨hfree, htaken⟩
  · rw [hsame] at hreq ⊢
    rw [if_neg fun hfilled => absurd (hfilled.1.symm.trans hreq) nofun]
    exact h.queued cid bufno hreq
  · rw [if_pos ⟨hfree, hreq⟩, htaken, ← hdecoded cid 15]
    rcases hmessage cid 15 with hmessage | hqueue
    · exact hmessage.symm
    · rw [hqueue, hfree] at hreq
      exact absurd hreq nofun

theorem put (h : Snapshots w) {size : AccessSize} {address : Nat} {data : BitVec 32}
    (haligned : NaturallyAligned (.put size address data)) (hput : w.1.put size address data = some s') :
    Snapshots (s', w.2.after (.put size address data) w.1 s') := by
  have hmemory : ∀ i, 0x500 ≤ i → s'.memory i = storeBytes size.bytes address data w.1.memory i :=
    fun i hi => memory_put hi hput
  have hsame : ∀ i, 0x500 ≤ i →
      (i < canRegGetAlignedAddr address ∨ canRegGetAlignedAddr address + 4 ≤ i) →
        s'.memory i = w.1.memory i :=
    fun i hi hout => (hmemory i hi).trans (storeBytes_within haligned.within hout)
  have hbytes : ∀ cid bufno, AgreeOn s'.memory (storeBytes size.bytes address data w.2.bytes)
      (txBufferBase cid bufno) := by
    intro cid bufno i hi j hj hkept
    have hlow := (txBufferBase_bounds cid bufno).1
    rw [hmemory _ (by omega)]
    exact (h.bytes cid bufno).store size.bytes address data i hi j hj hkept
  have hmessage : ∀ cid bufno,
      (s'.txBuffer cid bufno).message = decodeTxBuffer s'.memory cid bufno := by
    intro cid bufno
    by_cases hown : searchMap address = some .txBuffer ∧
        cid = txBufferCid (txBufferNumber address) ∧ bufno = txBufferBid (txBufferNumber address)
    · obtain ⟨hmap, hcid, hbid⟩ := hown
      obtain ⟨haddr, hreg⟩ := txBuffer_address hmap
      rw [← hcid, ← hbid] at haddr
      rw [(message_put_txBuffer hmap hput cid bufno).1, if_pos ⟨hcid, hbid⟩, h.message]
      have hlow := (txBufferBase_bounds cid bufno).1
      have houtside : SameOutside (canRegGetAlignedAddr address % 16) w.1.memory s'.memory
          (txBufferBase cid bufno) :=
        fun i _ hout => hsame _ (by omega) (by omega)
      have hdecode := writeTxBuffer_decode hreg houtside
      rw [← haddr] at hdecode
      exact hdecode
    · rw [decodeTxBuffer_outside hsame hown, ← h.message]
      by_cases hmap : searchMap address = some .txBuffer
      · rw [(message_put_txBuffer hmap hput cid bufno).1, if_neg fun heq => hown ⟨hmap, heq⟩]
      · exact (messages_put hmap hput).1 cid bufno
  have hdecoded : ∀ cid bufno, (s'.txBuffer cid bufno).message =
      decodeTxBuffer (storeBytes size.bytes address data w.2.bytes) cid bufno :=
    fun cid bufno => (hmessage cid bufno).trans (hbytes cid bufno).decode
  have hkept : ∀ cid bufno, (s'.txBuffer cid bufno).message = (w.1.txBuffer cid bufno).message ∨
      s'.txQueue = w.1.txQueue := by
    intro cid bufno
    by_cases hmap : searchMap address = some .txBuffer
    · exact Or.inr (message_put_txBuffer hmap hput cid bufno).2
    · exact Or.inl ((messages_put hmap hput).1 cid bufno)
  have hslot : ∀ cid bufno, SlotStep w.1 s' cid bufno := by
    intro cid bufno
    by_cases hmap : searchMap address = some .txBuffer
    · rw [SlotStep, (message_put_txBuffer hmap hput cid bufno).2]
      exact Or.inl rfl
    · exact (messages_put hmap hput).2 cid bufno
  exact ⟨hmessage, hbytes, queued_step h (.put size address data) hdecoded hkept hslot⟩

/-- A load writes a register back that decodes to the same message. -/
theorem agreeOn_get (h : Snapshots w) (address : Nat) (indeterminate : BitVec 32)
    (cid : CanChannelId) (bufno : CanTxBufferIdx) :
    AgreeOn (w.1.get address indeterminate).memory w.1.memory (txBufferBase cid bufno) := by
  obtain ⟨hlow, hhigh⟩ := txBufferBase_bounds cid bufno
  by_cases hown : searchMap address = some .txBuffer ∧
      cid = txBufferCid (txBufferNumber address) ∧ bufno = txBufferBid (txBufferNumber address)
  · obtain ⟨hmap, hcid, hbid⟩ := hown
    obtain ⟨haddr, hreg⟩ := txBuffer_address hmap
    rw [← hcid, ← hbid] at haddr
    have hword := readWord_txBuffer w.1 address indeterminate
    rw [← hcid, ← hbid, h.message cid bufno] at hword
    have hkeeps := agreeOn_messageWord hreg w.1.memory (txBufferBase cid bufno)
    rw [← haddr] at hkeeps
    intro i hi j hj hkept
    have habove : 0x500 ≤ txBufferBase cid bufno + i := by omega
    rw [memory_get_of_group habove hmap indeterminate hword]
    exact hkeeps i hi j hj hkept
  · by_cases hmap : searchMap address = some .txBuffer
    · obtain ⟨haddr, hreg⟩ := txBuffer_address hmap
      have hapart := txBufferBase_apart fun heq => hown ⟨hmap, heq⟩
      have hreg' : canRegGetAlignedAddr address % 16 + 4 ≤ 16 := by
        rcases hreg with h | h | h | h <;> omega
      intro i hi j _ _
      rw [memory_get indeterminate (by omega) (by omega)]
    · have hout : ¬ (0x1000 ≤ address ∧ address < 0x1600) := fun h =>
        hmap (searchMap_txBuffer h.1 h.2)
      intro i hi j _ _
      have haway : txBufferBase cid bufno + i < canRegGetAlignedAddr address ∨
          canRegGetAlignedAddr address + 4 ≤ txBufferBase cid bufno + i := by
        unfold canRegGetAlignedAddr
        omega
      rw [memory_get indeterminate (by omega) haway]

theorem get (h : Snapshots w) (size : AccessSize) (address : Nat) (indeterminate : BitVec 32) :
    Snapshots (w.1.get address indeterminate,
      w.2.after (.get size address indeterminate) w.1 (w.1.get address indeterminate)) := by
  have hagree := h.agreeOn_get address indeterminate
  obtain ⟨memory, heq⟩ := get_eq address indeterminate w.1
  have hmessage : ∀ cid bufno, ((w.1.get address indeterminate).txBuffer cid bufno).message =
      decodeTxBuffer (w.1.get address indeterminate).memory cid bufno := by
    intro cid bufno
    have hsame : (w.1.get address indeterminate).txBuffer = w.1.txBuffer := by
      rw [heq]
    rw [hsame, h.message]
    exact (hagree cid bufno).decode.symm
  have hbytes : ∀ cid bufno, AgreeOn (w.1.get address indeterminate).memory w.2.bytes
      (txBufferBase cid bufno) :=
    fun cid bufno => (hagree cid bufno).trans (h.bytes cid bufno)
  have hqueue : (w.1.get address indeterminate).txQueue = w.1.txQueue := by
    rw [heq]
  refine ⟨hmessage, hbytes, queued_step h (.get size address indeterminate)
    (fun cid bufno => (hmessage cid bufno).trans (hbytes cid bufno).decode)
    (fun _ _ => Or.inr hqueue) fun cid bufno => Or.inl ?_⟩
  rw [hqueue]

theorem clock (h : Snapshots w) {bus : CanBus} {outputs : List CanOutput}
    (hclock : ClockStep outputs w.1 s') : Snapshots (s', w.2.after (.clock bus) w.1 s') := by
  have hmemory : s'.memory = w.1.memory := by
    rw [hclock.registers]
  refine ⟨fun cid bufno => ?_, fun cid bufno => ?_, fun cid bufno hreq => ?_⟩
  · show (s'.txBuffer cid bufno).message = decodeTxBuffer s'.memory cid bufno
    rw [hclock.message, hmemory]
    exact h.message cid bufno
  · show AgreeOn s'.memory w.2.bytes (txBufferBase cid bufno)
    rw [hmemory]
    exact h.bytes cid bufno
  · obtain ⟨hdata, hkept⟩ := hclock.slot cid bufno
    have hbefore : ((w.1.txQueue cid).txData bufno).txReq = true := hkept hreq
    show ((s'.txQueue cid).txData bufno).data = if _ then _ else w.2.queued cid bufno
    rw [hdata, if_neg fun hfilled => absurd (hfilled.1.symm.trans hbefore) nofun]
    exact h.queued cid bufno hbefore

end Snapshots

/-! ## Runs -/

theorem snapshots_init :
    Snapshots (initialCan, { bytes := fun _ => 0, queued := fun _ _ => zeroCanData }) := by
  have hmemory : initialCan.memory = fun _ => 0 := rfl
  refine ⟨fun cid bufno => ?_, fun cid bufno => .refl _ _, fun _ _ hreq => nomatch hreq⟩
  show zeroCanData = decodeTxBuffer initialCan.memory cid bufno
  rw [hmemory]
  simp [decodeTxBuffer, decodeMessage, canRegisterReadData32, zeroCanData]

/-- The messages follow the registers in every run of aligned stores. -/
theorem snapshots_invariant :
    (txWatch.guarded fun event _ => NaturallyAligned event).Invariant Snapshots where
  init w hw := by
    cases hw
    exact snapshots_init
  step event w w' h hstep := by
    obtain ⟨haligned, ⟨outputs, hstep⟩, hafter⟩ := hstep
    obtain ⟨s', written⟩ := w'
    have hwritten : written = w.2.after event w.1 s' := hafter
    rw [hwritten]
    cases event with
    | put size address data =>
      obtain ⟨mid, hput, heq⟩ := Option.map_eq_some_iff.mp hstep
      cases heq
      exact h.put haligned hput
    | get size address indeterminate =>
      cases hstep
      exact h.get size address indeterminate
    | clock bus => exact h.clock (clock_clockStep hstep)

/-- A run of the watched controller is one of the controller. -/
theorem reachable_of_txWatch {w : CanController × TxWritten} (h : txWatch.Reachable w) :
    canController.Reachable w.1 := by
  refine h.of_record (fun _ hinit => congrArg Prod.fst hinit) fun event before after hstep => ?_
  exact hstep.1

/-- What a clock sends from the buffers and the queues. -/
theorem Snapshots.sends {w : CanController × TxWritten} (h : Snapshots w)
    (hreach : canController.Reachable w.1) {bus : CanBus} {s' : CanController}
    {outputs : List CanOutput} (hclock : w.1.deviceSupplyClockCan bus = some (s', outputs))
    {cid : CanChannelId} {message : CanData} {result : CanStartSend}
    (hmem : .startSend cid message result ∈ outputs) :
    ((s'.txreq cid).history.buftype = 1 →
        message = decodeTxBuffer w.2.bytes cid (s'.txreq cid).bufidx) ∧
      ((s'.txreq cid).history.buftype = 4 →
        message = w.2.queued cid (s'.txreq cid).bufidx) := by
  obtain ⟨p, hp⟩ := modes_of_reachable hreach
  have hchosen := sends_of_clock hp hclock hmem
  refine ⟨fun htype => ?_, fun htype => ?_⟩
  · rw [hchosen.buffer htype]
    exact h.decoded cid _
  · obtain ⟨hreq, hmessage⟩ := hchosen.queue htype
    rw [hmessage]
    exact h.queued cid _ hreq

/-- The messages of the transmit buffers and queues in every run of naturally
aligned stores: a buffer decodes to the bytes that software wrote last to its
registers, a slot has what it was given, that is what the bus gets, and a store
to one buffer changes no other. -/
theorem snapshots_exact {w : CanController × TxWritten}
    (h : (txWatch.guarded fun event _ => NaturallyAligned event).Reachable w) :
    (∀ cid bufno, (w.1.txBuffer cid bufno).message = decodeTxBuffer w.2.bytes cid bufno) ∧
      (∀ cid bufno, ((w.1.txQueue cid).txData bufno).txReq = true →
        ((w.1.txQueue cid).txData bufno).data = w.2.queued cid bufno) ∧
      (∀ bus s' outputs, w.1.deviceSupplyClockCan bus = some (s', outputs) →
        ∀ cid message result, .startSend cid message result ∈ outputs →
          ((s'.txreq cid).history.buftype = 1 →
              message = decodeTxBuffer w.2.bytes cid (s'.txreq cid).bufidx) ∧
            ((s'.txreq cid).history.buftype = 4 →
              message = w.2.queued cid (s'.txreq cid).bufidx)) ∧
      ∀ size address data s', w.1.put size address data = some s' → ∀ cid bufno,
        ¬ (searchMap address = some .txBuffer ∧ cid = txBufferCid (txBufferNumber address) ∧
            bufno = txBufferBid (txBufferNumber address)) →
          (s'.txBuffer cid bufno).message = (w.1.txBuffer cid bufno).message := by
  have hsnap := snapshots_invariant.of_reachable h
  have hreach := reachable_of_txWatch h.of_guarded
  refine ⟨hsnap.decoded, hsnap.queued, fun bus s' outputs hclock cid message result hmem =>
    hsnap.sends hreach hclock hmem, fun size address data s' hput cid bufno hother => ?_⟩
  by_cases hmap : searchMap address = some .txBuffer
  · rw [(message_put_txBuffer hmap hput cid bufno).1, if_neg fun heq => hother ⟨hmap, heq⟩]
  · exact (messages_put hmap hput).1 cid bufno

/-- A run is a watched run. -/
theorem exists_txWatch {s : CanController}
    (h : (canController.guarded fun event _ => NaturallyAligned event).Reachable s) :
    ∃ written, (txWatch.guarded fun event _ => NaturallyAligned event).Reachable (s, written) := by
  refine h.exists_record (fun _ hs => ⟨_, congrArg (fun s => (s, _)) hs⟩)
    fun event s s' written hstep => ?_
  exact ⟨written.after event s s', hstep.1, hstep.2, rfl⟩

/-- The queue of channel 0 gets the message of buffer 15, and the buffer another
one. -/
def queueStores : List CanEvent :=
  [.put .word 0x03A0 0x301, .put .word 0x10F0 0x80000123, .put .word 0x03E0 0xFF,
    .put .word 0x10F0 0x456]

/-- The slot keeps what the buffer held at the put. -/
theorem snapshots_exact_queue :
    ∃ w, (txWatch.guarded fun event _ => NaturallyAligned event).Reachable w ∧
      w.2.queued 0 15 = { zeroCanData with ide := true, id := 0x123 } ∧
      decodeTxBuffer w.2.bytes 0 15 = { zeroCanData with id := 0x456 } := by
  have hview : (CanController.runWhile (fun event _ => NaturallyAligned event) queueStores
      initialCan).map (fun s => decide (((s.txQueue 0).txData 15).txReq = true ∧
        ((s.txQueue 0).txData 15).data = { zeroCanData with ide := true, id := 0x123 } ∧
        (s.txBuffer 0 15).message = { zeroCanData with id := 0x456 })) = some true := by
    decide +kernel
  obtain ⟨s, hreach, hs⟩ := CanController.exists_guarded hview
  obtain ⟨hreq, hslot, hbuffer⟩ := of_decide_eq_true hs
  obtain ⟨written, hreach⟩ := exists_txWatch hreach
  obtain ⟨hbuffers, hqueued, _⟩ := snapshots_exact hreach
  exact ⟨(s, written), hreach, (hqueued 0 15 hreq).symm.trans hslot,
    (hbuffers 0 15).symm.trans hbuffer⟩

end Athrill
