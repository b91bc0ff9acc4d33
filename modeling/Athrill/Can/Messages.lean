import Athrill.Can.Words

/-!
# Messages in register bytes

A message takes 16 bytes of registers: the identifier, the header and eight
data bytes.  A handler decodes one register at a time, and a load encodes the
message again, with zeros for the bits that it does not keep.

* `decodeMessage`: the message in 16 bytes.
* `KeptBit`, `AgreeOn`: the bits that a message keeps.
* `writeTxBuffer_decode`: one register of a message.
* `agreeOn_messageWord`: what a load writes back decodes to the same message.
* `CanData.part`: the part of a message that one register holds.
-/

namespace Athrill

/-- The message in the registers from a base address on; the label has eight
bits in a transmit buffer and twelve in a TXRX FIFO. -/
def decodeMessage (labelMask : BitVec 32) (bytes : CanMemory) (base : Nat) : CanData where
  ide := (canRegisterReadData32 base bytes).getLsbD 31
  rtr := (canRegisterReadData32 base bytes).getLsbD 30
  id := canRegisterReadData32 base bytes &&& 0x1FFFFFFF
  dlc := (canRegisterReadData32 (base + 4) bytes >>> 28).setWidth 8
  label := ((canRegisterReadData32 (base + 4) bytes >>> 16) &&& labelMask).setWidth 16
  data i := bytes (base + 8 + i.val)

theorem canRegUpdateModelFlag_eq (data : BitVec 32) {bits : Nat} (hbits : bits < 32) :
    canRegUpdateModelFlag data bits = data.getLsbD bits := by
  unfold canRegUpdateModelFlag
  have hbit : (data &&& (1#32 <<< bits)).getLsbD bits = data.getLsbD bits := by
    simp [hbits]
  cases hdata : data.getLsbD bits with
  | true =>
    refine decide_eq_true fun hzero => ?_
    rw [hzero, hdata] at hbit
    simp at hbit
  | false =>
    refine decide_eq_false (not_not.mpr (BitVec.eq_of_getLsbD_eq fun i hi => ?_))
    by_cases hi' : i = bits
    · rw [hi', hbit, hdata]
      simp
    · have hone : (1#32 <<< bits).getLsbD i = false := by
        rw [BitVec.getLsbD_shiftLeft, BitVec.getLsbD_one]
        by_cases hlt : i < bits
        · simp [hlt]
        · have hpos : ¬ i - bits = 0 := by omega
          simp [hpos]
      rw [BitVec.getLsbD_and, hone]
      simp

/-- The four bits that a shift leaves need no mask. -/
theorem dlc_mask (data : BitVec 32) : (data >>> 28) &&& (0x0F : BitVec 32) = data >>> 28 := by
  refine BitVec.eq_of_getLsbD_eq fun i hi => ?_
  by_cases hlt : i < 4
  · have hbit : (0x0F : BitVec 32).getLsbD i = true := by
      match i, hlt with
      | 0, _ | 1, _ | 2, _ | 3, _ => rfl
    rw [BitVec.getLsbD_and, hbit, Bool.and_true]
  · have hge : 32 ≤ 28 + i := by omega
    have hbit : (data >>> 28).getLsbD i = false := by
      rw [BitVec.getLsbD_ushiftRight, BitVec.getLsbD_of_ge _ _ hge]
    rw [BitVec.getLsbD_and, hbit, Bool.false_and]

/-- The same bytes read the same. -/
theorem read_congr {old new : CanMemory} {offset : Nat}
    (h : ∀ i, i < 4 → new (offset + i) = old (offset + i)) :
    canRegisterReadData32 offset new = canRegisterReadData32 offset old := by
  refine word_ext fun i hi => ?_
  rw [wordByte_read offset new hi, wordByte_read offset old hi, h i hi]

section OneRegister

variable {old new : CanMemory} {base : Nat}

/-- The data bytes after a write to one of their registers. -/
theorem putDataWord_decode (first : Nat)
    (hother : ∀ i, i < 16 → ¬ (8 + first ≤ i ∧ i < 8 + first + 4) →
      new (base + i) = old (base + i)) (i : Fin 8) :
    putDataWord first (canRegisterReadData32 (base + 8 + first) new)
      (fun j => old (base + 8 + j.val)) i = new (base + 8 + i.val) := by
  have hi : i.val < 8 := i.isLt
  unfold putDataWord
  by_cases hin : first ≤ i.val ∧ i.val < first + 4
  · have hsub : i.val - first < 4 := by omega
    have haddr : base + 8 + first + (i.val - first) = base + 8 + i.val := by omega
    rw [if_pos hin, wordByte_read _ _ hsub, haddr]
  · have hout : ¬ (8 + first ≤ 8 + i.val ∧ 8 + i.val < 8 + first + 4) := by omega
    rw [if_neg hin]
    dsimp only
    rw [Nat.add_assoc, hother (8 + i.val) (by omega) hout]

/-- Only the bytes of one register have changed. -/
def SameOutside (reg : Nat) (old new : CanMemory) (base : Nat) : Prop :=
  ∀ i, i < 16 → ¬ (reg ≤ i ∧ i < reg + 4) → new (base + i) = old (base + i)

theorem SameOutside.read {reg : Nat} (h : SameOutside reg old new base) (offset : Nat)
    (hoffset : offset + 4 ≤ reg ∨ reg + 4 ≤ offset) (hle : offset + 4 ≤ 16) :
    canRegisterReadData32 (base + offset) new = canRegisterReadData32 (base + offset) old := by
  refine read_congr fun i hi => ?_
  rw [Nat.add_assoc]
  exact h (offset + i) (by omega) (by omega)

/-- The registers of a message. -/
def IsMessageRegister (reg : Nat) : Prop := reg = 0x0 ∨ reg = 0x4 ∨ reg = 0x8 ∨ reg = 0xC

/-- A write to a register of a transmit buffer. -/
theorem writeTxBuffer_decode {reg : Nat} (hreg : IsMessageRegister reg)
    (h : SameOutside reg old new base) :
    writeTxBuffer reg (canRegisterReadData32 (base + reg) new) (decodeMessage 0xFF old base) =
      decodeMessage 0xFF new base := by
  have hdata : reg = 0x0 ∨ reg = 0x4 → ∀ i : Fin 8,
      new (base + 8 + i.val) = old (base + 8 + i.val) := by
    intro hreg i
    have hi : i.val < 8 := i.isLt
    rw [Nat.add_assoc]
    exact h (8 + i.val) (by omega) (by omega)
  rcases hreg with rfl | rfl | rfl | rfl
  · have hptr := h.read 4 (by omega) (by omega)
    have hbytes := funext (hdata (by omega))
    simp only [writeTxBuffer, decodeMessage, idOfWord, Nat.add_zero, hptr, hbytes,
      canRegUpdateModelFlag_eq _ (by decide : 31 < 32),
      canRegUpdateModelFlag_eq _ (by decide : 30 < 32)]
  · have hid := h.read 0 (by omega) (by omega)
    have hbytes := funext (hdata (by omega))
    rw [Nat.add_zero] at hid
    simp only [writeTxBuffer, decodeMessage, hid, hbytes, dlc_mask]
  · have hid := h.read 0 (by omega) (by omega)
    have hptr := h.read 4 (by omega) (by omega)
    have hbytes := funext (putDataWord_decode 0 h)
    rw [Nat.add_zero] at hid
    simp only [writeTxBuffer, decodeMessage, hid, hptr]
    rw [← hbytes]
  · have hid := h.read 0 (by omega) (by omega)
    have hptr := h.read 4 (by omega) (by omega)
    have hbytes := funext (putDataWord_decode 4 h)
    rw [Nat.add_zero] at hid
    simp only [writeTxBuffer, decodeMessage, hid, hptr]
    rw [← hbytes]

end OneRegister

/-! ## Kept bits -/

/-- The bit `j` of byte `i` is part of the message of a transmit buffer. -/
def KeptBit (i j : Nat) : Prop :=
  ¬ (i = 3 ∧ j = 5) ∧ i ≠ 4 ∧ i ≠ 5 ∧ (i = 7 → 4 ≤ j)

/-- Two sets of registers agree on the bits of the message. -/
def AgreeOn (bytes bytes' : CanMemory) (base : Nat) : Prop :=
  ∀ i, i < 16 → ∀ j, j < 8 → KeptBit i j →
    (bytes (base + i)).getLsbD j = (bytes' (base + i)).getLsbD j

namespace AgreeOn

variable {bytes bytes' bytes'' : CanMemory} {base : Nat}

theorem refl (bytes : CanMemory) (base : Nat) : AgreeOn bytes bytes base :=
  fun _ _ _ _ _ => rfl

theorem trans (h : AgreeOn bytes bytes' base) (h' : AgreeOn bytes' bytes'' base) :
    AgreeOn bytes bytes'' base :=
  fun i hi j hj hkept => (h i hi j hj hkept).trans (h' i hi j hj hkept)

/-- The same store into both. -/
theorem store (h : AgreeOn bytes bytes' base) (size address : Nat) (data : BitVec 32) :
    AgreeOn (storeBytes size address data bytes) (storeBytes size address data bytes') base := by
  intro i hi j hj hkept
  unfold storeBytes
  split_ifs
  · rfl
  · exact h i hi j hj hkept

/-- A bit of a register by its byte. -/
theorem read (h : AgreeOn bytes bytes' base) (offset : Nat) {n : Nat} (hn : n < 32)
    (hoffset : offset + 4 ≤ 16) (hkept : KeptBit (offset + n / 8) (n % 8)) :
    (canRegisterReadData32 (base + offset) bytes).getLsbD n =
      (canRegisterReadData32 (base + offset) bytes').getLsbD n := by
  have hsplit : n = 8 * (n / 8) + n % 8 := by omega
  rw [hsplit, getLsbD_read _ _ (by omega) (by omega), getLsbD_read _ _ (by omega) (by omega),
    Nat.add_assoc]
  exact h _ (by omega) _ (by omega) hkept

/-- The message is made of the kept bits. -/
theorem decode (h : AgreeOn bytes bytes' base) :
    decodeMessage 0xFF bytes base = decodeMessage 0xFF bytes' base := by
  have hid : ∀ n, n < 32 → n ≠ 29 → (canRegisterReadData32 base bytes).getLsbD n =
      (canRegisterReadData32 base bytes').getLsbD n := by
    intro n hn hne
    have hbit := h.read 0 hn (by omega) ⟨by omega, by omega, by omega, by omega⟩
    simpa only [Nat.add_zero] using hbit
  have hptr : ∀ n, n < 32 → 16 ≤ n → ¬ (24 ≤ n ∧ n < 28) →
      (canRegisterReadData32 (base + 4) bytes).getLsbD n =
        (canRegisterReadData32 (base + 4) bytes').getLsbD n := by
    intro n hn hge hne
    exact h.read 4 hn (by omega) ⟨by omega, by omega, by omega, by omega⟩
  unfold decodeMessage
  congr 1
  · exact hid 31 (by omega) (by omega)
  · exact hid 30 (by omega) (by omega)
  · refine BitVec.eq_of_getLsbD_eq fun i hi => ?_
    by_cases hlt : i < 4
    · simpa [hi] using hptr (28 + i) (by omega) (by omega) (by omega)
    · have hge : 32 ≤ 28 + i := by omega
      simp [hge]
  · refine BitVec.eq_of_getLsbD_eq fun i hi => ?_
    by_cases hlt : i < 8
    · simp [hptr (16 + i) (by omega) (by omega) (by omega)]
    · have hmask : ∀ i, i < 16 → 8 ≤ i → (255#16).getLsbD i = false := by decide
      simp [hmask i hi (by omega)]
  · refine BitVec.eq_of_getLsbD_eq fun i hi => ?_
    rw [BitVec.getLsbD_and, BitVec.getLsbD_and]
    by_cases hne : i = 29
    · rw [hne]
      simp
    · rw [hid i hi hne]
  · funext i
    have hi : i.val < 8 := i.isLt
    refine BitVec.eq_of_getLsbD_eq fun j hj => ?_
    rw [Nat.add_assoc]
    exact h (8 + i.val) (by omega) j hj ⟨by omega, by omega, by omega, by omega⟩

end AgreeOn

/-- The bits that a load encodes are those of the register. -/
theorem getLsbD_messageWord {reg n : Nat} (hreg : IsMessageRegister reg) (hn : n < 32)
    (hkept : KeptBit (reg + n / 8) (n % 8)) (bytes : CanMemory) (base : Nat) :
    (messageWord reg (decodeMessage 0xFF bytes base)).getLsbD n =
      (canRegisterReadData32 (base + reg) bytes).getLsbD n := by
  obtain ⟨h29, h4, h5, h7⟩ := hkept
  rcases hreg with rfl | rfl | rfl | rfl
  · show (canRegUpdateRegBit _ 30 (canRegUpdateRegBit _ 31 0) ||| _).getLsbD n = _
    rw [BitVec.getLsbD_or, getLsbD_canRegUpdateRegBit _ (by omega),
      getLsbD_canRegUpdateRegBit _ (by omega)]
    have hne : n ≠ 29 := by omega
    by_cases h31 : n = 31
    · subst h31
      simp [decodeMessage]
    · by_cases h30 : n = 30
      · subst h30
        simp [decodeMessage]
      · have hmask : ∀ n, n < 29 → (536870911#32).getLsbD n = true := by decide
        simp [decodeMessage, h31, h30, hmask n (by omega)]
  · show ((BitVec.setWidth 32 (BitVec.setWidth 8 _) <<< 28) |||
      (BitVec.setWidth 32 (BitVec.setWidth 16 _) <<< 16)).getLsbD n = _
    rw [BitVec.getLsbD_or, BitVec.getLsbD_shiftLeft, BitVec.getLsbD_shiftLeft]
    by_cases h28 : n < 28
    · have hmask : ∀ i, i < 8 → (255#32).getLsbD i = true := by decide
      have hsub : 16 + (n - 16) = n := by omega
      have hlt : n - 16 < 8 := by omega
      have hge : ¬ n < 16 := by omega
      have h16 : n - 16 < 16 := by omega
      have h32 : n - 16 < 32 := by omega
      simp [h28, hn, hge, hsub, h16, h32, hmask _ hlt]
    · have hmask : ∀ i, i < 32 → 8 ≤ i → (255#32).getLsbD i = false := by decide
      have hsub : 28 + (n - 28) = n := by omega
      have h8 : n - 28 < 8 := by omega
      have h32 : n - 28 < 32 := by omega
      simp [h28, hn, hsub, h8, h32, hmask (n - 16) (by omega) (by omega)]
  · rfl
  · rfl

/-- What a load writes back decodes to the same message. -/
theorem agreeOn_messageWord {reg : Nat} (hreg : IsMessageRegister reg) (bytes : CanMemory)
    (base : Nat) :
    AgreeOn (canRegisterWriteData32 (base + reg) (messageWord reg (decodeMessage 0xFF bytes base))
      bytes) bytes base := by
  intro i hi j hj hkept
  have hle : reg ≤ 12 ∧ reg % 4 = 0 := by
    rcases hreg with rfl | rfl | rfl | rfl <;> omega
  by_cases hin : reg ≤ i ∧ i < reg + 4
  · have hsplit : base + i = base + reg + (i - reg) := by omega
    have hbyte : reg + (8 * (i - reg) + j) / 8 = i := by omega
    have hbit : (8 * (i - reg) + j) % 8 = j := by omega
    rw [hsplit, canRegisterWriteData32, storeBytes_of_mem (by omega), getLsbD_wordByte,
      getLsbD_messageWord hreg (by omega) (by rw [hbyte, hbit]; exact hkept),
      getLsbD_read _ _ (by omega) hj]
    simp [hj]
  · rw [write_of_ne _ _ (by omega)]

/-! ## The parts of a message -/

/-- The part of a message that one of its registers holds, but for the flags of
the identifier. -/
def CanData.part (reg : Nat) (message : CanData) : CanData :=
  match reg with
  | 0x0 => { zeroCanData with id := message.id }
  | 0x4 => { zeroCanData with dlc := message.dlc, label := message.label }
  | 0x8 => { zeroCanData with data := fun i => if i.val < 4 then message.data i else 0 }
  | 0xC => { zeroCanData with data := fun i => if 4 ≤ i.val then message.data i else 0 }
  | _ => zeroCanData

/-- A message is its flags and its parts. -/
theorem CanData.eq_of_parts {message message' : CanData} (hide : message.ide = message'.ide)
    (hrtr : message.rtr = message'.rtr)
    (h : ∀ reg, IsMessageRegister reg → message.part reg = message'.part reg) :
    message = message' := by
  have hid : message.id = message'.id := by
    have hpart := congrArg CanData.id (h 0x0 (Or.inl rfl))
    exact hpart
  have hptr := h 0x4 (Or.inr (Or.inl rfl))
  have hdlc : message.dlc = message'.dlc := by
    have hpart := congrArg CanData.dlc hptr
    exact hpart
  have hlabel : message.label = message'.label := by
    have hpart := congrArg CanData.label hptr
    exact hpart
  have hdata : message.data = message'.data := by
    funext i
    by_cases hlow : i.val < 4
    · have hpart := congrFun (congrArg CanData.data (h 0x8 (by simp [IsMessageRegister]))) i
      simpa [part, hlow] using hpart
    · have hhigh : 4 ≤ i.val := by omega
      have hpart := congrFun (congrArg CanData.data (h 0xC (by simp [IsMessageRegister]))) i
      simpa [part, hhigh] using hpart
  obtain ⟨ide, rtr, dlc, label, id, data⟩ := message
  rw [CanData.mk.injEq]
  exact ⟨hide, hrtr, hdlc, hlabel, hid, hdata⟩

/-- Equal bytes of a register hold the same part. -/
theorem decodeMessage_part_congr {labelMask : BitVec 32} {old new : CanMemory} {base reg : Nat}
    (hreg : IsMessageRegister reg)
    (h : ∀ i, i < 4 → new (base + reg + i) = old (base + reg + i)) :
    (decodeMessage labelMask new base).part reg = (decodeMessage labelMask old base).part reg := by
  have hword := read_congr h
  rcases hreg with rfl | rfl | rfl | rfl
  · rw [Nat.add_zero] at hword
    simp only [CanData.part, decodeMessage, hword]
  · simp only [CanData.part, decodeMessage, hword]
  · have hbytes : ∀ i : Fin 8, i.val < 4 → new (base + 8 + i.val) = old (base + 8 + i.val) :=
      fun i hi => h i.val hi
    simp only [CanData.part, decodeMessage, CanData.mk.injEq, true_and]
    funext i
    split_ifs with hi
    · exact hbytes i hi
    · rfl
  · have hbytes : ∀ i : Fin 8, 4 ≤ i.val → new (base + 8 + i.val) = old (base + 8 + i.val) := by
      intro i hi
      have hlt : i.val < 8 := i.isLt
      have hbyte := h (i.val - 4) (by omega)
      have haddr : base + 0xC + (i.val - 4) = base + 8 + i.val := by omega
      rw [haddr] at hbyte
      exact hbyte
    simp only [CanData.part, decodeMessage, CanData.mk.injEq, true_and]
    funext i
    split_ifs with hi
    · exact hbytes i hi
    · rfl

section Staged

variable {reg reg' : Nat} {message : CanData}

/-- A write to a register of a TXRX FIFO takes the part of that register. -/
theorem writeTxrxFifo_part (hreg : IsMessageRegister reg) (bytes : CanMemory) (base : Nat)
    (message : CanData) :
    (writeTxrxFifo reg (canRegisterReadData32 (base + reg) bytes) message).part reg =
      (decodeMessage 0xFFF bytes base).part reg := by
  rcases hreg with rfl | rfl | rfl | rfl
  · simp only [CanData.part, writeTxrxFifo, decodeMessage, Nat.add_zero]
  · simp only [CanData.part, writeTxrxFifo, decodeMessage, dlc_mask]
  · simp only [CanData.part, writeTxrxFifo, decodeMessage, CanData.mk.injEq, true_and]
    funext i
    split_ifs with hi
    · unfold putDataWord
      rw [if_pos ⟨Nat.zero_le _, hi⟩, wordByte_read _ _ (by omega), Nat.sub_zero]
    · rfl
  · simp only [CanData.part, writeTxrxFifo, decodeMessage, CanData.mk.injEq, true_and]
    funext i
    have hlt : i.val < 8 := i.isLt
    split_ifs with hi
    · have haddr : base + 12 + (i.val - 4) = base + 8 + i.val := by omega
      unfold putDataWord
      rw [if_pos ⟨hi, by omega⟩, wordByte_read _ _ (by omega), haddr]
    · rfl

/-- It leaves the parts of the other registers. -/
theorem writeTxrxFifo_part_of_ne (hreg : IsMessageRegister reg) (hreg' : IsMessageRegister reg')
    (hne : reg' ≠ reg) (data : BitVec 32) :
    (writeTxrxFifo reg data message).part reg' = message.part reg' := by
  rcases hreg with rfl | rfl | rfl | rfl <;> rcases hreg' with rfl | rfl | rfl | rfl <;>
    first
    | exact absurd rfl hne
    | rfl
    | skip
  · simp only [CanData.part, writeTxrxFifo, CanData.mk.injEq, true_and]
    funext i
    split_ifs with hi
    · unfold putDataWord
      rw [if_neg (by omega)]
    · rfl
  · simp only [CanData.part, writeTxrxFifo, CanData.mk.injEq, true_and]
    funext i
    split_ifs with hi
    · unfold putDataWord
      rw [if_neg (by omega)]
    · rfl

/-- It sets no flag of the identifier. -/
theorem writeTxrxFifo_flags (reg : Nat) (data : BitVec 32) (message : CanData) :
    (writeTxrxFifo reg data message).ide = message.ide ∧
      (writeTxrxFifo reg data message).rtr = message.rtr := by
  unfold writeTxrxFifo
  split <;> exact ⟨rfl, rfl⟩

end Staged

end Athrill
