import Athrill.Can.Messages
import Athrill.Can.Rings
import Athrill.Can.Memory

/-!
# Reading received messages

A received message is read from a receive buffer, a receive FIFO or a TXRX FIFO
in receive mode, each with its own handler.  All three write the same four
registers, and these hold the whole message.

* `extractMessage`, `extract_messageWord`: the fields in the four registers.
* `Filled`: a FIFO that holds something is enabled.
* `RxStore`, `RxStore.Holds`: the stores and the message that each one shows.
* `RxStore.load_eq`: what a load of one of the registers finds.
* `rx_codec`: the round trip.
-/

namespace Athrill

open Ring

/-! ## Fields -/

/-- The message in the registers of a store: identifier, header and data. -/
def extractMessage (word : Nat → BitVec 32) : CanData where
  ide := (word 0x0).getLsbD 31
  rtr := (word 0x0).getLsbD 30
  id := word 0x0 &&& 0x1FFFFFFF
  dlc := ((word 0x4 >>> 28) &&& 0xF).setWidth 8
  label := ((word 0x4 >>> 16) &&& 0xFFF).setWidth 16
  data i := if i.val < 4 then wordByte (word 0x8) i.val else wordByte (word 0xC) (i.val - 4)

/-- The fields of the message fit their registers. -/
structure CanData.Fits (message : CanData) : Prop where
  id : message.id.toNat < 2 ^ 29
  dlc : message.dlc.toNat < 16
  label : message.label.toNat < 4096

/-- A bit of a mask of the lowest bits. -/
theorem getLsbD_lowMask {w k : Nat} (hk : k ≤ w) (i : Nat) :
    (BitVec.setWidth w (BitVec.allOnes k)).getLsbD i = decide (i < k) := by
  rw [BitVec.getLsbD_setWidth, BitVec.getLsbD_allOnes]
  by_cases hi : i < k
  · have hw : i < w := by omega
    simp [hi, hw]
  · simp [hi]

/-- Bits that a small value cannot have. -/
theorem getLsbD_of_small {w k i : Nat} {x : BitVec w} (hx : x.toNat < 2 ^ k) (hi : k ≤ i) :
    x.getLsbD i = false := by
  have hpow : 2 ^ k ≤ 2 ^ i := Nat.pow_le_pow_right (by omega) hi
  exact Nat.testBit_lt_two_pow (by omega)

section Fields

variable {message : CanData} (h : message.Fits)

include h

/-- The bits of the first register. -/
theorem getLsbD_idWord (i : Nat) :
    (messageWord 0x0 message).getLsbD i =
      if i = 30 then message.rtr else if i = 31 then message.ide else message.id.getLsbD i := by
  show (canRegUpdateRegBit message.rtr 30 (canRegUpdateRegBit message.ide 31 0) |||
    message.id).getLsbD i = _
  rw [BitVec.getLsbD_or, getLsbD_canRegUpdateRegBit _ (by omega),
    getLsbD_canRegUpdateRegBit _ (by omega)]
  split_ifs with h30 h31
  · rw [getLsbD_of_small h.id (by omega), Bool.or_false]
  · rw [getLsbD_of_small h.id (by omega), Bool.or_false]
  · simp

/-- The bits of the second register. -/
theorem getLsbD_ptrWord {i : Nat} (hi : i < 32) :
    (messageWord 0x4 message).getLsbD i =
      if 28 ≤ i then message.dlc.getLsbD (i - 28)
      else if 16 ≤ i then message.label.getLsbD (i - 16) else false := by
  show ((message.dlc.setWidth 32 <<< 28) ||| (message.label.setWidth 32 <<< 16)).getLsbD i = _
  rw [BitVec.getLsbD_or, BitVec.getLsbD_shiftLeft, BitVec.getLsbD_shiftLeft,
    BitVec.getLsbD_setWidth, BitVec.getLsbD_setWidth]
  split_ifs with h28 h16
  · have hlabel : message.label.getLsbD (i - 16) = false :=
      getLsbD_of_small (k := 12) h.label (by omega)
    have hlt : i - 28 < 32 := by omega
    have hnot : ¬ i < 28 := by omega
    simp [hi, hlt, hnot, hlabel]
  · have hlt : i < 28 := by omega
    have hlt' : i - 16 < 32 := by omega
    have hnot : ¬ i < 16 := by omega
    simp [hi, hlt, hlt', hnot]
  · have hlt : i < 28 := by omega
    have hlt' : i < 16 := by omega
    simp [hi, hlt, hlt']

theorem extract_id : messageWord 0x0 message &&& 0x1FFFFFFF = message.id := by
  have hmask : (0x1FFFFFFF : BitVec 32) = BitVec.setWidth 32 (BitVec.allOnes 29) := by decide
  refine BitVec.eq_of_getLsbD_eq fun i hi => ?_
  rw [BitVec.getLsbD_and, getLsbD_idWord h, hmask, getLsbD_lowMask (by omega)]
  by_cases hlt : i < 29
  · rw [if_neg (by omega), if_neg (by omega), decide_eq_true hlt, Bool.and_true]
  · rw [decide_eq_false hlt, Bool.and_false, getLsbD_of_small h.id (by omega)]

theorem extract_dlc : ((messageWord 0x4 message >>> 28) &&& 0xF).setWidth 8 = message.dlc := by
  have hmask : (0xF : BitVec 32) = BitVec.setWidth 32 (BitVec.allOnes 4) := by decide
  refine BitVec.eq_of_getLsbD_eq fun i hi => ?_
  rw [BitVec.getLsbD_setWidth, BitVec.getLsbD_and, BitVec.getLsbD_ushiftRight, hmask,
    getLsbD_lowMask (by omega), decide_eq_true hi, Bool.true_and]
  by_cases hlt : i < 4
  · have hsub : 28 + i - 28 = i := by omega
    rw [getLsbD_ptrWord h (by omega), if_pos (by omega), hsub, decide_eq_true hlt, Bool.and_true]
  · rw [decide_eq_false hlt, Bool.and_false, getLsbD_of_small (k := 4) h.dlc (by omega)]

theorem extract_label :
    ((messageWord 0x4 message >>> 16) &&& 0xFFF).setWidth 16 = message.label := by
  have hmask : (0xFFF : BitVec 32) = BitVec.setWidth 32 (BitVec.allOnes 12) := by decide
  refine BitVec.eq_of_getLsbD_eq fun i hi => ?_
  rw [BitVec.getLsbD_setWidth, BitVec.getLsbD_and, BitVec.getLsbD_ushiftRight, hmask,
    getLsbD_lowMask (by omega), decide_eq_true hi, Bool.true_and]
  by_cases hlt : i < 12
  · have hsub : 16 + i - 16 = i := by omega
    rw [getLsbD_ptrWord h (by omega), if_neg (by omega), if_pos (by omega), hsub,
      decide_eq_true hlt, Bool.and_true]
  · rw [decide_eq_false hlt, Bool.and_false, getLsbD_of_small (k := 12) h.label (by omega)]

end Fields

/-- The bytes of the third and fourth register. -/
theorem extract_data (message : CanData) (i : Fin 8) :
    (if i.val < 4 then wordByte (messageWord 0x8 message) i.val
      else wordByte (messageWord 0xC message) (i.val - 4)) = message.data i := by
  have hlt : i.val < 8 := i.isLt
  -- the two words as registers of the data bytes
  have hlow : messageWord 0x8 message =
      canRegisterReadData32 0 fun j => message.data (Fin.ofNat 8 j) := rfl
  have hhigh : messageWord 0xC message =
      canRegisterReadData32 4 fun j => message.data (Fin.ofNat 8 j) := rfl
  rw [hlow, hhigh]
  split_ifs with h4
  · rw [wordByte_read _ _ h4, Nat.zero_add]
    exact congrArg message.data (Fin.ext (Nat.mod_eq_of_lt hlt))
  · have hadd : 4 + (i.val - 4) = i.val := by omega
    rw [wordByte_read _ _ (by omega), hadd]
    exact congrArg message.data (Fin.ext (Nat.mod_eq_of_lt hlt))

/-- The registers hold the whole message. -/
theorem extract_messageWord {message : CanData} (h : message.Fits) :
    extractMessage (fun reg => messageWord reg message) = message := by
  have hide : (messageWord 0x0 message).getLsbD 31 = message.ide := by
    rw [getLsbD_idWord h, if_neg (by omega), if_pos rfl]
  have hrtr : (messageWord 0x0 message).getLsbD 30 = message.rtr := by
    rw [getLsbD_idWord h, if_pos rfl]
  unfold extractMessage
  simp only [hide, hrtr, extract_id h, extract_dlc h, extract_label h, extract_data]

/-! ## Full FIFOs -/

/-- A FIFO that holds something is enabled. -/
def CanRxFifoBuffer.Filled (fifo : CanRxFifoBuffer) : Prop :=
  fifo.fifoControl.count ≠ 0 → fifo.config.enableFifo = true

/-- A TXRX FIFO that holds something is enabled. -/
def CanTxRxFifoBuffer.Filled (fifo : CanTxRxFifoBuffer) : Prop :=
  fifo.fifoControl.count ≠ 0 → fifo.config.enableFifo = true

theorem RxFifoOp.apply_filled (op : RxFifoOp) {fifo : CanRxFifoBuffer} (h : fifo.Filled) :
    (op.apply fifo).Filled := by
  have henabled : ∀ enable : Bool, enable ≠ false → enable = true := fun enable => by
    cases enable <;> simp
  cases op with
  | put frame =>
    show (canRxfifoPutRxdata frame fifo).2.Filled
    unfold canRxfifoPutRxdata
    split_ifs with henable
    · exact h
    · exact h
    · exact fun _ => henabled _ henable
  | next =>
    show (canRxfifoNextRxdata fifo).2.Filled
    unfold canRxfifoNextRxdata
    split_ifs with henable
    · exact h
    · exact h
    · exact fun _ => henabled _ henable
  | config data =>
    show (fifo.writeRfcc data).Filled
    unfold CanRxFifoBuffer.writeRfcc
    dsimp only
    split_ifs with henable
    · exact fun hcount => absurd rfl hcount
    · exact fun _ => henabled _ henable
  | status data => exact h
  | reset => exact fun hcount => absurd rfl hcount

theorem TxrxFifoOp.apply_filled (op : TxrxFifoOp) {fifo : CanTxRxFifoBuffer} (h : fifo.Filled) :
    (op.apply fifo).Filled := by
  have henabled : ∀ enable : Bool, enable ≠ false → enable = true := fun enable => by
    cases enable <;> simp
  cases op with
  | putRx frame =>
    show (canTxrxfifoPutRxdata frame fifo).2.Filled
    unfold canTxrxfifoPutRxdata
    split_ifs with hmode henable
    · exact h
    · exact h
    · exact h
    · exact fun _ => henabled _ henable
  | nextRx =>
    show (canTxrxfifoNextRxdata fifo).2.Filled
    unfold canTxrxfifoNextRxdata
    split_ifs with hmode henable
    · exact h
    · exact h
    · exact h
    · exact fun _ => henabled _ henable
  | putTx message =>
    show (canTxrxfifoPutTxdata message fifo).2.Filled
    unfold canTxrxfifoPutTxdata
    split_ifs with hmode henable
    · exact h
    · exact h
    · exact h
    · exact fun _ => henabled _ henable
  | getTx =>
    show (canTxrxfifoGetTxdata fifo).2.Filled
    by_cases hcount : fifo.fifoControl.count = 0
    · have hpeek : ∃ e, canTxrxfifoPeekTxdata fifo = .error e := by
        unfold canTxrxfifoPeekTxdata
        split_ifs <;> exact ⟨_, rfl⟩
      obtain ⟨e, hpeek⟩ := hpeek
      unfold canTxrxfifoGetTxdata
      rw [hpeek]
      exact h
    · have henable := h hcount
      unfold canTxrxfifoGetTxdata
      cases canTxrxfifoPeekTxdata fifo with
      | error e => exact h
      | ok txdata => exact fun _ => henable
  | done =>
    intro hcount
    by_cases henable : fifo.config.enableFifo = true
    · exact henable
    · refine absurd ?_ hcount
      show (if fifo.config.enableFifo = false then Control.clear else fifo.fifoControl).count = 0
      rw [if_pos (Bool.eq_false_iff.mpr henable)]
      rfl
  | config data =>
    show (fifo.writeCfcc data).Filled
    unfold CanTxRxFifoBuffer.writeCfcc
    dsimp only
    split_ifs with henable
    · exact fun hcount => absurd rfl hcount
    · exact fun _ => henabled _ henable
  | status data => exact h
  | reset => exact fun hcount => absurd rfl hcount

theorem rxFifo_filled {s : CanController} (h : canController.Reachable s) (x : CanRxFifoId) :
    (s.rxFifo x).Filled :=
  CanController.part_of_reachable (fun s => s.rxFifo x) (fun hcount => absurd rfl hcount)
    (fun _ _ _ hstep hs =>
      (hstep.rxFifo x).invariant (I := CanRxFifoBuffer.Filled)
        (fun op _ _ hfifo => op.apply_filled hfifo) hs) h

theorem txrxFifo_filled {s : CanController} (h : canController.Reachable s) (cid : CanChannelId)
    (bid : CanTxrxFifoIdx) : (s.txrxFifo cid bid).Filled :=
  CanController.part_of_reachable (fun s => s.txrxFifo cid bid) (fun hcount => absurd rfl hcount)
    (fun _ _ _ hstep hs =>
      (hstep.txrxFifo cid bid).invariant (I := CanTxRxFifoBuffer.Filled)
        (fun op _ _ hfifo => op.apply_filled hfifo) hs) h

/-! ## Stores -/

/-- The stores of received messages. -/
inductive RxStore where
  | rxBuffer (q : Fin canRxBufferNum)
  | rxFifo (x : CanRxFifoId)
  | txrxFifo (cid : CanChannelId) (bid : CanTxrxFifoIdx)

namespace RxStore

/-- The address of the first register. -/
def base : RxStore → Nat
  | rxBuffer q => 0x0600 + 16 * q.val
  | rxFifo x => 0x0E00 + 16 * x.val
  | txrxFifo cid bid => 0x0E80 + 16 * (3 * cid.val + bid.val)

/-- The handler of the registers. -/
def group : RxStore → CanRegisterGroup
  | rxBuffer _ => .rxBuffer
  | rxFifo _ => .rxFifo
  | txrxFifo _ _ => .txrxFifo

/-- The message is in the buffer, or at the head of the FIFO. -/
def Holds (s : CanController) (message : CanData) : RxStore → Prop
  | rxBuffer q => s.rxBuffer.buf q = message
  | rxFifo x =>
    (s.rxFifo x).fifoControl.count ≠ 0 ∧
      (s.rxFifo x).buffer (s.rxFifo x).fifoControl.roff = message
  | txrxFifo cid bid =>
    (s.txrxFifo cid bid).config.mode = canTxrxFifoModeRx ∧
      (s.txrxFifo cid bid).fifoControl.count ≠ 0 ∧
      (s.txrxFifo cid bid).rx (s.txrxFifo cid bid).fifoControl.roff = message

/-- The word that a load at some byte of a register finds in it. -/
def load (store : RxStore) (reg offset : Nat) (indeterminate : BitVec 32) (s : CanController) :
    BitVec 32 :=
  (s.get (store.base + reg + offset) indeterminate).register (store.base + reg)

section Load

variable {reg offset : Nat}

/-- The registers of a store lie in the group of its handler. -/
theorem searchMap_base (store : RxStore) (hreg : IsMessageRegister reg) (hoffset : offset < 4) :
    searchMap (store.base + reg + offset) = some store.group := by
  unfold IsMessageRegister at hreg
  cases store with
  | rxBuffer q =>
    have hq : q.val < 96 := q.isLt
    have hmem : ⟨0x0600, 16 * 96, .rxBuffer⟩ ∈ canRegisterMappingTable := by
      simp [canRegisterMappingTable]
    refine searchMap_of_mem _ hmem ?_ ?_
    · show 0x0600 ≤ 0x0600 + 16 * q.val + reg + offset
      omega
    · show 0x0600 + 16 * q.val + reg + offset < 0x0600 + 16 * 96
      omega
  | rxFifo x =>
    have hx : x.val < 8 := x.isLt
    have hmem : ⟨0x0E00, 16 * 8, .rxFifo⟩ ∈ canRegisterMappingTable := by
      simp [canRegisterMappingTable]
    refine searchMap_of_mem _ hmem ?_ ?_
    · show 0x0E00 ≤ 0x0E00 + 16 * x.val + reg + offset
      omega
    · show 0x0E00 + 16 * x.val + reg + offset < 0x0E00 + 16 * 8
      omega
  | txrxFifo cid bid =>
    have hcid : cid.val < 6 := cid.isLt
    have hbid : bid.val < 3 := bid.isLt
    have hmem : ⟨0x0E80, 16 * 18, .txrxFifo⟩ ∈ canRegisterMappingTable := by
      simp [canRegisterMappingTable]
    refine searchMap_of_mem _ hmem ?_ ?_
    · show 0x0E80 ≤ 0x0E80 + 16 * (3 * cid.val + bid.val) + reg + offset
      omega
    · show 0x0E80 + 16 * (3 * cid.val + bid.val) + reg + offset < 0x0E80 + 16 * 18
      omega

theorem aligned_base (store : RxStore) (hreg : IsMessageRegister reg) (hoffset : offset < 4) :
    canRegGetAlignedAddr (store.base + reg + offset) = store.base + reg := by
  unfold IsMessageRegister at hreg
  unfold canRegGetAlignedAddr base
  cases store <;> dsimp only <;> omega

theorem register_of_base (store : RxStore) (hreg : IsMessageRegister reg) :
    (store.base + reg) % 16 = reg := by
  unfold IsMessageRegister at hreg
  unfold base
  cases store <;> dsimp only <;> omega

/-- The handler of a store encodes the message that it holds. -/
theorem readWord_eq {s : CanController} (hs : canController.Reachable s) {store : RxStore}
    {message : CanData} (hstore : store.Holds s message) (hreg : IsMessageRegister reg)
    (hoffset : offset < 4) (indeterminate : BitVec 32) (d : CanDevice) :
    CanController.readWord store.group (store.base + reg + offset) indeterminate
      { s with toCanDevice := d } = some (messageWord reg message) := by
  have hregister : canRegGetAlignedAddr (store.base + reg + offset) % 16 = reg := by
    rw [store.aligned_base hreg hoffset, store.register_of_base hreg]
  have haligned := store.aligned_base hreg hoffset
  unfold IsMessageRegister at hreg
  cases store with
  | rxBuffer q =>
    have hq : q.val < 96 := q.isLt
    have hindex : Fin.ofNat canRxBufferNum
        (groupIndex ((rxBuffer q).base + reg + offset) 0x0600 16) = q := by
      refine Fin.ext ?_
      show groupIndex ((rxBuffer q).base + reg + offset) 0x0600 16 % 96 = q.val
      unfold groupIndex
      rw [haligned]
      show (0x0600 + 16 * q.val + reg - 0x0600) / 16 % 96 = q.val
      omega
    show some (messageWord (canRegGetAlignedAddr _ % 16) (s.rxBuffer.buf (Fin.ofNat _ _))) = _
    rw [hregister, hindex, show s.rxBuffer.buf q = message from hstore]
  | rxFifo x =>
    obtain ⟨hcount, hmessage⟩ := hstore
    have hx : x.val < 8 := x.isLt
    have hindex : Fin.ofNat 8 (groupIndex ((rxFifo x).base + reg + offset) 0x0E00 16) = x := by
      refine Fin.ext ?_
      show groupIndex ((rxFifo x).base + reg + offset) 0x0E00 16 % 8 = x.val
      unfold groupIndex
      rw [haligned]
      show (0x0E00 + 16 * x.val + reg - 0x0E00) / 16 % 8 = x.val
      omega
    have hpeek : canRxfifoPeekRxdata (s.rxFifo x) = .ok message := by
      unfold canRxfifoPeekRxdata
      rw [rxFifo_filled hs x hcount, if_neg (by decide), if_neg hcount, hmessage]
    unfold CanController.readWord group
    dsimp only
    rw [hindex, hpeek, hregister]
  | txrxFifo cid bid =>
    obtain ⟨hmode, hcount, hmessage⟩ := hstore
    have hcid : cid.val < 6 := cid.isLt
    have hbid : bid.val < 3 := bid.isLt
    have hindex : groupIndex ((txrxFifo cid bid).base + reg + offset) 0x0E80 16 =
        3 * cid.val + bid.val := by
      unfold groupIndex
      rw [haligned]
      show (0x0E80 + 16 * (3 * cid.val + bid.val) + reg - 0x0E80) / 16 = 3 * cid.val + bid.val
      omega
    have hfifo : CanController.txrxFifoAt { s with toCanDevice := d } (3 * cid.val + bid.val) =
        s.txrxFifo cid bid := by
      have hc : txrxFifoCid (3 * cid.val + bid.val) = cid := Fin.ext (by
        show (3 * cid.val + bid.val) / 3 % 6 = cid.val
        omega)
      have hb : txrxFifoBid (3 * cid.val + bid.val) = bid := Fin.ext (by
        show (3 * cid.val + bid.val) % 3 = bid.val
        omega)
      show s.txrxFifo (txrxFifoCid _) (txrxFifoBid _) = _
      rw [hc, hb]
    have hpeek : canTxrxfifoPeekRxdata (s.txrxFifo cid bid) = .ok message := by
      unfold canTxrxfifoPeekRxdata
      rw [hmode, if_neg (by decide), txrxFifo_filled hs cid bid hcount, if_neg (by decide),
        if_neg hcount, hmessage]
    unfold CanController.readWord group
    dsimp only
    rw [hindex, hfifo, if_pos hmode, hpeek, hregister]

/-- A load of a register finds that part of the message. -/
theorem load_eq {s : CanController} (hs : canController.Reachable s) {store : RxStore}
    {message : CanData} (hstore : store.Holds s message) (hreg : IsMessageRegister reg)
    (hoffset : offset < 4) (indeterminate : BitVec 32) :
    store.load reg offset indeterminate s = messageWord reg message := by
  have hword := readWord_eq hs hstore hreg hoffset indeterminate
    (s.toCanDevice.get (store.base + reg + offset))
  unfold load CanController.get
  rw [store.searchMap_base hreg hoffset]
  dsimp only
  rw [hword]
  show canRegisterReadData32 _ (canRegisterWriteData32 (canRegGetAlignedAddr _) _ _) = _
  rw [store.aligned_base hreg hoffset, read_write]

end Load

/-- A load leaves the stores alone. -/
theorem Holds.get {s : CanController} {store : RxStore} {message : CanData}
    (h : store.Holds s message) (address : Nat) (indeterminate : BitVec 32) :
    store.Holds (s.get address indeterminate) message := by
  obtain ⟨memory, heq⟩ := CanController.get_eq address indeterminate s
  rw [heq]
  cases store <;> exact h

end RxStore

/-! ## The round trip -/

/-- The controller after some loads, each with its address. -/
def CanController.loads (reads : List (Nat × BitVec 32)) (s : CanController) : CanController :=
  reads.foldl (fun s read => s.get read.1 read.2) s

theorem RxStore.Holds.loads {store : RxStore} {message : CanData}
    (reads : List (Nat × BitVec 32)) {s : CanController} (hs : canController.Reachable s)
    (h : store.Holds s message) :
    canController.Reachable (s.loads reads) ∧ store.Holds (s.loads reads) message := by
  induction reads generalizing s with
  | nil => exact ⟨hs, h⟩
  | cons read reads ih =>
    have hstep : canController.step (.get .word read.1 read.2) s (s.get read.1 read.2) :=
      ⟨[], rfl⟩
    exact ih (.step hs hstep) (h.get read.1 read.2)

/-- Whatever is read before and between, the four registers of a store give
back the message that it holds, and every store of this message shows the same
words. -/
theorem rx_codec {s : CanController} (hs : canController.Reachable s) {store : RxStore}
    {message : CanData} (hstore : store.Holds s message) (hfits : message.Fits)
    (reads : Nat → List (Nat × BitVec 32)) (offset : Nat → Fin 4)
    (indeterminate : Nat → BitVec 32) :
    extractMessage (fun reg =>
        store.load reg (offset reg) (indeterminate reg) (s.loads (reads reg))) = message ∧
      ∀ s', canController.Reachable s' → ∀ store' : RxStore, store'.Holds s' message →
        ∀ reg, IsMessageRegister reg →
          store'.load reg (offset reg) (indeterminate reg) s' =
            store.load reg (offset reg) (indeterminate reg) s := by
  have hload : ∀ reg, IsMessageRegister reg →
      store.load reg (offset reg) (indeterminate reg) (s.loads (reads reg)) =
        messageWord reg message := by
    intro reg hreg
    obtain ⟨hs', hstore'⟩ := hstore.loads (reads reg) hs
    exact RxStore.load_eq hs' hstore' hreg (offset reg).isLt (indeterminate reg)
  refine ⟨?_, ?_⟩
  · have hfields := extract_messageWord hfits
    unfold extractMessage at hfields ⊢
    dsimp only
    rw [hload 0x0 (Or.inl rfl), hload 0x4 (Or.inr (Or.inl rfl)),
      hload 0x8 (Or.inr (Or.inr (Or.inl rfl))), hload 0xC (Or.inr (Or.inr (Or.inr rfl)))]
    exact hfields
  · intro s' hs' store' hstore' reg hreg
    rw [RxStore.load_eq hs' hstore' hreg (offset reg).isLt,
      RxStore.load_eq hs hstore hreg (offset reg).isLt]

/-- An extended frame of eight bytes. -/
def extendedFrame : CanData :=
  { ide := true, rtr := false, dlc := 8, label := 0, id := 0x1ABCDEF5
    data := fun i => BitVec.ofNat 8 (i.val + 1) }

def frameBus : CanBus where
  isArrived _ := true
  receive _ := extendedFrame
  startSend _ _ := { isOk := true, isAccepted := true }
  isDone _ := false

/-- Channel 0 receives this frame by a rule with the label 0xA5C, for receive
buffer 5 and receive FIFO 0. -/
def receiveEvents : List CanEvent :=
  [.put .word 0x009C 0x01000000, .put .word 0x0508 0x0A5C8500, .put .word 0x050C 0x1] ++
    startChannel ++ [.put .word 0x00B8 0x101, .clock frameBus]

/-- The frame in the buffer, with a load in between, and in the FIFO. -/
theorem rx_codec_frame :
    ∃ s, canController.Reachable s ∧
      extractMessage (fun reg =>
        (RxStore.rxBuffer 5).load reg 0 0 (s.loads [(0x0650, 0)])) =
          { extendedFrame with label := 0xA5C } ∧
      ∀ reg, IsMessageRegister reg →
        (RxStore.rxFifo 0).load reg 0 0 s = (RxStore.rxBuffer 5).load reg 0 0 s := by
  have hview : (CanController.run receiveEvents initialCan).map (fun s =>
      decide (s.rxBuffer.buf 5 = { extendedFrame with label := 0xA5C } ∧
        (s.rxFifo 0).fifoControl.count ≠ 0 ∧
        (s.rxFifo 0).buffer (s.rxFifo 0).fifoControl.roff =
          { extendedFrame with label := 0xA5C })) = some true := by
    decide +kernel
  obtain ⟨s, hreach, hs⟩ := CanController.exists_reachable hview
  obtain ⟨hbuffer, hfifo⟩ := of_decide_eq_true hs
  have hholds : (RxStore.rxBuffer 5).Holds s { extendedFrame with label := 0xA5C } := hbuffer
  obtain ⟨hmessage, hsame⟩ := rx_codec hreach hholds ⟨by decide, by decide, by decide⟩
    (fun _ => [(0x0650, 0)]) (fun _ => 0) fun _ => 0
  exact ⟨s, hreach, hmessage, fun reg hreg => hsame s hreach (.rxFifo 0) hfifo reg hreg⟩

end Athrill
