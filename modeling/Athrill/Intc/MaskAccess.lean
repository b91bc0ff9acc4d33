import Athrill.Intc.Access
import Athrill.Intc.Store

/-!
# The two records of a mask

The mask of a channel stands in bit 7 of its IC register and in a bit of an IMR
register, in the bank of every core.  A write to one register is carried over
to the other by the hook for its width.  The hook of the IC registers reaches
only the lowest byte of an IMR register, and a 32-bit write to IC registers has
no hook.

* `icMask`, `imrMask`: the two records.
* `RegAccess`: what a write of any width does to the registers.
* `maskWrite`: the channels that a write addresses, with the bits it gives them.
* `MaskGuard`, `maskWritten_of_regAccess`: the writes that change both records.
-/

namespace Athrill

open TargetCore Bits

/-! ## The records -/

/-- `MKn` in the IC register. -/
def icMask (memory : IntcMemory) (c : CoreId) (n : Nat) : Bool :=
  (memory (icCell c n)).getLsbD icIntmask

/-- The bit of the IMR register that mirrors channel `n`. -/
def imrMask (memory : IntcMemory) (c : CoreId) (n : Nat) : Bool :=
  (memory (imrCell c n)).getLsbD (n % 8)

theorem icMask_writeCells (memory : IntcMemory) (cell : IntcCell) (len : Nat)
    (data : Nat → Byte) (c : CoreId) (n : Nat) :
    icMask (writeCells memory cell len data) c n =
      if InCells cell len (icCell c n) then
        (data ((icCell c n).index - cell.index)).getLsbD icIntmask
      else icMask memory c n := by
  unfold icMask writeCells
  split_ifs <;> rfl

theorem imrMask_writeCells (memory : IntcMemory) (cell : IntcCell) (len : Nat)
    (data : Nat → Byte) (c : CoreId) (n : Nat) :
    imrMask (writeCells memory cell len data) c n =
      if InCells cell len (imrCell c n) then
        (data ((imrCell c n).index - cell.index)).getLsbD (n % 8)
      else imrMask memory c n := by
  unfold imrMask writeCells
  split_ifs <;> rfl

/-- The IC registers of the two banks do not overlap; numbers below 384 stay
below the IMR registers. -/
theorem inCells_icCell {c c' : CoreId} {n n' : Nat} (hn : n < 384) (hn' : n' < 384) :
    InCells (icCell c n) 2 (icCell c' n') ↔ c' = c ∧ n' = n := by
  rw [icCell_eq, icCell_eq, Fin.ext_iff]
  have hc := c.isLt
  have hc' := c'.isLt
  unfold InCells
  split_ifs <;> simp only [false_and, false_iff, true_and] <;> omega

theorem not_inCells_imrCell {c c' : CoreId} {n n' : Nat} (hn : n < 384) (hn' : n' < 384) :
    ¬ InCells (icCell c n) 2 (imrCell c' n') := by
  rw [icCell_eq, imrCell_eq]
  have hc := c.isLt
  have hc' := c'.isLt
  unfold InCells
  split_ifs <;> simp only [false_and, not_false_eq_true, true_and] <;> omega

/-- One bit of an IC register is written, through the whole register. -/
theorem icMask_putIcBit (intc : Intc) {c c' : CoreId} {n n' bit : Nat} {flag : Bool}
    (hn : n < 384) (hn' : n' < 384) (hbit : bit < 16) :
    icMask (putIcBit intc c n bit flag).memory c' n' =
      if (c' = c ∧ n' = n) ∧ bit = icIntmask then flag else icMask intc.memory c' n' := by
  show icMask (intc.memory.put16 (icCell c n) (putBit (intc.memory.get16 (icCell c n)) bit flag))
    c' n' = _
  rw [put16_eq_writeCells, icMask_writeCells]
  by_cases hw : InCells (icCell c n) 2 (icCell c' n')
  · obtain ⟨rfl, rfl⟩ := (inCells_icCell hn hn').mp hw
    rw [if_pos hw, Nat.sub_self]
    have hlow : (intc.memory.get16 (icCell c' n')).getLsbD icIntmask =
        icMask intc.memory c' n' := by
      unfold IntcMemory.get16 icMask
      rw [BitVec.getLsbD_append]
      rfl
    have hbyte : (byteOf (putBit (intc.memory.get16 (icCell c' n')) bit flag) 0).getLsbD icIntmask =
        (putBit (intc.memory.get16 (icCell c' n')) bit flag).getLsbD icIntmask := by
      simp [byteOf, icIntmask]
    rw [hbyte]
    by_cases hmask : bit = icIntmask
    · subst hmask
      rw [getLsbD_putBit_self _ hbit, if_pos ⟨⟨rfl, rfl⟩, rfl⟩]
    · rw [getLsbD_putBit_ne _ hmask, hlow, if_neg fun h => hmask h.2]
  · rw [if_neg hw, if_neg fun h => hw ((inCells_icCell hn hn').mpr h.1)]

theorem imrMask_putIcBit (intc : Intc) {c c' : CoreId} {n n' bit : Nat} {flag : Bool}
    (hn : n < 384) (hn' : n' < 384) :
    imrMask (putIcBit intc c n bit flag).memory c' n' = imrMask intc.memory c' n' := by
  show imrMask (intc.memory.put16 (icCell c n) _) c' n' = _
  rw [put16_eq_writeCells, imrMask_writeCells, if_neg (not_inCells_imrCell hn hn')]

/-! ## The hooks -/

/-- The mask bits of a row of channels are written. -/
theorem icMask_putIntmasks (intc : Intc) (c : CoreId) {first k : Nat} (hk : first + k ≤ 384)
    (flag : Nat → Bool) {c' : CoreId} {n : Nat} (hn : n < 384) :
    icMask ((List.range k).foldl (fun intc bit => putIntmask intc c (first + bit) (flag bit))
        intc).memory c' n =
      if c' = c ∧ first ≤ n ∧ n < first + k then flag (n - first)
      else icMask intc.memory c' n := by
  induction k with
  | zero => rw [if_neg (by omega)]; rfl
  | succ k ih =>
    rw [List.range_succ, List.foldl_append, List.foldl_cons, List.foldl_nil]
    rw [putIntmask, icMask_putIcBit _ (by omega) hn (by decide), ih (by omega)]
    by_cases hc : c' = c
    · by_cases hnew : n = first + k
      · have hflag : flag (n - first) = flag k := by
          rw [hnew, Nat.add_sub_cancel_left]
        rw [if_pos ⟨⟨hc, hnew⟩, rfl⟩, if_pos ⟨hc, by omega, by omega⟩, hflag]
      · rw [if_neg fun h => hnew h.1.2]
        exact if_congr (and_congr_right fun _ => by omega) rfl rfl
    · rw [if_neg fun h => hc h.1.1, if_neg fun h => hc h.1, if_neg fun h => hc h.1]

theorem imrMask_putIntmasks (intc : Intc) (c : CoreId) {first k : Nat} (hk : first + k ≤ 384)
    (flag : Nat → Bool) {c' : CoreId} {n : Nat} (hn : n < 384) :
    imrMask ((List.range k).foldl (fun intc bit => putIntmask intc c (first + bit) (flag bit))
        intc).memory c' n = imrMask intc.memory c' n := by
  induction k with
  | zero => rfl
  | succ k ih =>
    rw [List.range_succ, List.foldl_append, List.foldl_cons, List.foldl_nil]
    rw [putIntmask, imrMask_putIcBit _ (by omega) hn, ih (by omega)]

/-- The bit of a write that goes to channel `n`, from channel `first` on. -/
def maskBit (data : Nat → Byte) (first n : Nat) : Bool :=
  (data ((n - first) / 8)).getLsbD ((n - first) % 8)

/-- The loops of `intc_hook_update_imr`. -/
def imrHookBytes (c : CoreId) (first len : Nat) (data : Nat → Byte) (intc : Intc) : Intc :=
  (List.range len).foldl
    (fun intc byte => imrHookByte c (first + byte * 8) (data byte) intc) intc

theorem imrHookBytes_succ (c : CoreId) (first len : Nat) (data : Nat → Byte) (intc : Intc) :
    imrHookBytes c first (len + 1) data intc =
      imrHookByte c (first + len * 8) (data len) (imrHookBytes c first len data intc) := by
  unfold imrHookBytes
  rw [List.range_succ, List.foldl_append, List.foldl_cons, List.foldl_nil]

theorem imrHookBytes_zero (c : CoreId) (first : Nat) (data : Nat → Byte) (intc : Intc) :
    imrHookBytes c first 0 data intc = intc :=
  rfl

theorem imrHookBytes_congr (c : CoreId) (first : Nat) {len : Nat} {data data' : Nat → Byte}
    (intc : Intc) (h : ∀ k < len, data k = data' k) :
    imrHookBytes c first len data intc = imrHookBytes c first len data' intc := by
  induction len with
  | zero => rw [imrHookBytes_zero, imrHookBytes_zero]
  | succ len ih =>
    rw [imrHookBytes_succ, imrHookBytes_succ, ih fun k hk => h k (by omega), h len (by omega)]

theorem icMask_imrHookBytes (intc : Intc) (c : CoreId) {first len : Nat}
    (hlen : first + len * 8 ≤ 384) (data : Nat → Byte) {c' : CoreId} {n : Nat} (hn : n < 384) :
    icMask (imrHookBytes c first len data intc).memory c' n =
      if c' = c ∧ first ≤ n ∧ n < first + len * 8 then maskBit data first n
      else icMask intc.memory c' n := by
  induction len with
  | zero => rw [if_neg (by omega)]; rfl
  | succ len ih =>
    rw [imrHookBytes_succ, imrHookByte, icMask_putIntmasks _ _ (by omega) _ hn, ih (by omega)]
    by_cases hnew : c' = c ∧ first + len * 8 ≤ n ∧ n < first + len * 8 + 8
    · obtain ⟨hc, hle, hlt⟩ := id hnew
      rw [if_pos hnew, if_pos ⟨hc, by omega, by omega⟩]
      unfold maskBit
      rw [show (n - first) / 8 = len by omega,
        show n - (first + len * 8) = (n - first) % 8 by omega]
    · rw [if_neg hnew]
      refine if_congr (and_congr_right fun hc => ?_) rfl rfl
      have hout : ¬ (first + len * 8 ≤ n ∧ n < first + len * 8 + 8) := fun h => hnew ⟨hc, h⟩
      omega

theorem imrMask_imrHookBytes (intc : Intc) (c : CoreId) {first len : Nat}
    (hlen : first + len * 8 ≤ 384) (data : Nat → Byte) {c' : CoreId} {n : Nat} (hn : n < 384) :
    imrMask (imrHookBytes c first len data intc).memory c' n = imrMask intc.memory c' n := by
  induction len with
  | zero => rfl
  | succ len ih =>
    rw [imrHookBytes_succ, imrHookByte, imrMask_putIntmasks _ _ (by omega) _ hn, ih (by omega)]

/-- The hook of the IC registers reaches the channels whose bit lies in the
lowest byte of the IMR register. -/
theorem imrMask_icLowerbit (intc : Intc) (c : CoreId) {regaddr : Nat} (data : HalfWord)
    (hno : icaddr2intno regaddr < 384) {c' : CoreId} {n : Nat} (hn : n < 384) :
    imrMask (intcHookUpdateIcLowerbit c regaddr data intc).memory c' n =
      if (c' = c ∧ n = icaddr2intno regaddr) ∧ n % 32 < 8 then data.getLsbD icIntmask
      else imrMask intc.memory c' n := by
  unfold intcHookUpdateIcLowerbit
  generalize icaddr2intno regaddr = intno at hno ⊢
  dsimp only
  rw [put8_eq_writeCells, imrMask_writeCells]
  have hinCells : InCells (mpuGetPointer c (imrAddress intno)) 1 (imrCell c' n) ↔
      c' = c ∧ n / 32 = intno / 32 ∧ n % 32 < 8 := by
    rw [mpuGetPointer_imrAddress, imrCell_eq, Fin.ext_iff]
    have hc := c.isLt
    have hc' := c'.isLt
    unfold InCells
    split_ifs <;> simp only [false_and, false_iff, true_and] <;> omega
  by_cases hw : InCells (mpuGetPointer c (imrAddress intno)) 1 (imrCell c' n)
  · obtain ⟨rfl, hreg, hlow⟩ := hinCells.mp hw
    have hcell : mpuGetPointer c' (imrAddress intno) = imrCell c' n := by
      rw [mpuGetPointer_imrAddress, imrCell_eq]
      split_ifs
      · rw [IntcCell.mk.injEq]
        exact ⟨rfl, by omega⟩
      · omega
      · omega
      · rw [IntcCell.mk.injEq]
        exact ⟨rfl, by omega⟩
    rw [if_pos hw, hcell, Nat.sub_self]
    have hbyte (x : Word) : (byteOf (x.truncate 8) 0).getLsbD (n % 8) = x.getLsbD (n % 8) := by
      have hlt : n % 8 < 8 := by omega
      simp [byteOf, hlt]
    rw [hbyte]
    by_cases hself : n = intno
    · subst hself
      rw [if_pos ⟨⟨rfl, rfl⟩, hlow⟩, show n % 32 = n % 8 by omega,
        getLsbD_putBit_self _ (by omega)]
    · rw [if_neg fun h => hself h.1.2, getLsbD_putBit_ne _ (by omega), BitVec.getLsbD_setWidth]
      have hlt : n % 8 < 32 := by omega
      simp [hlt, imrMask]
  · rw [if_neg hw, if_neg]
    rintro ⟨⟨rfl, rfl⟩, hlow⟩
    exact hw (hinCells.mpr ⟨rfl, rfl, hlow⟩)

theorem icMask_icLowerbit (intc : Intc) (c : CoreId) {regaddr : Nat} (data : HalfWord)
    (hno : icaddr2intno regaddr < 384) {c' : CoreId} {n : Nat} (hn : n < 384) :
    icMask (intcHookUpdateIcLowerbit c regaddr data intc).memory c' n =
      icMask intc.memory c' n := by
  unfold intcHookUpdateIcLowerbit
  generalize icaddr2intno regaddr = intno at hno ⊢
  dsimp only
  rw [put8_eq_writeCells, icMask_writeCells, if_neg]
  rw [mpuGetPointer_imrAddress, icCell_eq]
  have hc := c.isLt
  have hc' := c'.isLt
  unfold InCells
  split_ifs <;> simp only [false_and, not_false_eq_true, true_and] <;> omega

/-! ## Steps that leave the masks alone -/

/-- Both records of every channel are as before. -/
def SameMasks (memory memory' : IntcMemory) : Prop :=
  ∀ c n, n < 384 → icMask memory' c n = icMask memory c n ∧
    imrMask memory' c n = imrMask memory c n

theorem SameMasks.refl (memory : IntcMemory) : SameMasks memory memory :=
  fun _ _ _ => ⟨rfl, rfl⟩

theorem SameMasks.trans {memory memory' memory'' : IntcMemory} (h : SameMasks memory memory')
    (h' : SameMasks memory' memory'') : SameMasks memory memory'' :=
  fun c n hn => ⟨(h' c n hn).1.trans (h c n hn).1, (h' c n hn).2.trans (h c n hn).2⟩

/-- The request bit of a channel. -/
theorem sameMasks_reqflag (intc : Intc) (c : CoreId) {n : Nat} (hn : n < 384) (flag : Bool) :
    SameMasks intc.memory (intcSetUserIntrReqflag intc c n flag).memory := by
  intro c' n' hn'
  unfold intcSetUserIntrReqflag
  refine ⟨?_, imrMask_putIcBit intc hn hn'⟩
  rw [icMask_putIcBit intc hn hn' (by decide), if_neg fun h => absurd h.2 (by decide)]

theorem sameMasks_commonRaiseUserIntr (intc : Intc) (c : CoreId) {n : Nat} (hn : n < 384) :
    SameMasks intc.memory (commonRaiseUserIntr n c intc).memory := by
  unfold commonRaiseUserIntr
  split_ifs
  · exact SameMasks.refl _
  · exact sameMasks_reqflag (addUser intc c _) c hn true

theorem sameMasks_intcRaiseIntr (intc : Intc) {n : Nat} (hn : n < 384) :
    SameMasks intc.memory (intcRaiseIntr n intc).memory :=
  (sameMasks_commonRaiseUserIntr intc 0 hn).trans (sameMasks_commonRaiseUserIntr _ 1 hn)

theorem sameMasks_icUpperbit (intc : Intc) (c : CoreId) {regaddr : Nat} (data : HalfWord)
    (hno : icaddr2intno regaddr < 384) :
    SameMasks intc.memory (intcHookUpdateIcUpperbit c regaddr data intc).memory := by
  unfold intcHookUpdateIcUpperbit
  split_ifs
  · exact sameMasks_intcRaiseIntr intc hno
  · exact SameMasks.refl _

/-! ## Writes -/

/-- The bit that a write of `len` bytes gives to the mask of channel `n` of core
`c'`, if it addresses it through its IC or its IMR register. -/
def maskWrite (c : CoreId) (addr len : Nat) (data : Nat → Byte) (c' : CoreId) (n : Nat) :
    Option Bool :=
  let cell := mpuGetPointer c addr
  if c' ≠ c then none
  else if InCells cell len (icCell c' n) then
    some ((data ((icCell c' n).index - cell.index)).getLsbD icIntmask)
  else if InCells cell len (imrCell c' n) then
    some ((data ((imrCell c' n).index - cell.index)).getLsbD (n % 8))
  else none

/-- A write gives both records what it addresses and keeps the others. -/
def MaskWritten (write : CoreId → Nat → Option Bool) (memory memory' : IntcMemory) (c : CoreId)
    (n : Nat) : Prop :=
  icMask memory' c n = (write c n).getD (icMask memory c n) ∧
    imrMask memory' c n = (write c n).getD (imrMask memory c n)

/-- The IMR registers that mirror a channel: the first of INTC2 does not. -/
def isImrOfChannels (addr : Nat) : Bool :=
  isImrAddr addr && decide (addr < 0xFFFFB400 ∨ 0xFFFFB404 ≤ addr)

theorem mpuGetPointer_imr {addr : Nat} (c : CoreId) (h : isImrAddr addr = true) :
    mpuGetPointer c addr =
        if addr < 0xFFFFB000 then ⟨.intc1, 0xF0 + (addr - 0xFFFEEAF0) + c.val * 0x200⟩
        else ⟨.intc2, 0x400 + (addr - 0xFFFFB400) + c.val * 0x1000⟩ := by
  simp only [isImrAddr, isImr1Addr, isImr2Addr, Bool.or_eq_true, decide_eq_true_eq] at h
  unfold mpuGetPointer intcRegionOf
  split_ifs with h₁ h₂ h₂
  · omega
  · simp only [IntcRegion.start, IntcRegion.size, IntcCell.mk.injEq, true_and]
    omega
  · simp only [IntcRegion.start, IntcRegion.size, IntcCell.mk.injEq, true_and]
    omega
  · omega

theorem imrFirstIntno_eq {addr : Nat} (h : isImrAddr addr = true) :
    imrFirstIntno addr =
      if addr < 0xFFFFB000 then (addr - 0xFFFEEAF0) * 8 else (addr - 0xFFFFB400) * 8 := by
  simp only [isImrAddr, isImr1Addr, isImr2Addr, Bool.or_eq_true, decide_eq_true_eq] at h
  unfold imrFirstIntno isImr1Addr
  simp only [decide_eq_true_eq]
  split_ifs <;> omega

/-- The widths of the writes. -/
def IsWidth (len : Nat) : Prop :=
  len = 1 ∨ len = 2 ∨ len = 4

/-- No IC register lies among the IMR registers. -/
theorem not_inCells_icCell (c c' : CoreId) {addr len n : Nat} (h : isImrAddr addr = true)
    (hlen : IsWidth len) (halign : addr % len = 0) (hn : n < 384) :
    ¬ InCells (mpuGetPointer c addr) len (icCell c' n) := by
  rw [mpuGetPointer_imr c h, icCell_eq]
  simp only [isImrAddr, isImr1Addr, isImr2Addr, Bool.or_eq_true, decide_eq_true_eq] at h
  have hc := c.isLt
  have hc' := c'.isLt
  have hbound : len ≤ 4 := by
    rcases hlen with rfl | rfl | rfl <;> omega
  unfold InCells
  split_ifs <;> simp only [false_and, not_false_eq_true, true_and] <;> omega

/-- The channels of the cells that a write reaches. -/
theorem inCells_imrCell (c c' : CoreId) {addr len n : Nat} (h : isImrOfChannels addr = true)
    (hlen : IsWidth len) (halign : addr % len = 0) (hn : n < 384) :
    InCells (mpuGetPointer c addr) len (imrCell c' n) ↔
      c' = c ∧ imrFirstIntno addr ≤ n ∧ n < imrFirstIntno addr + len * 8 := by
  unfold isImrOfChannels at h
  rw [Bool.and_eq_true, decide_eq_true_eq] at h
  obtain ⟨himr, hproper⟩ := h
  rw [mpuGetPointer_imr c himr, imrFirstIntno_eq himr, imrCell_eq, Fin.ext_iff]
  simp only [isImrAddr, isImr1Addr, isImr2Addr, Bool.or_eq_true, decide_eq_true_eq] at himr
  have hc := c.isLt
  have hc' := c'.isLt
  have hbound : len ≤ 4 ∧ (addr < 0xFFFFB000 → addr - 0xFFFEEAF0 + len ≤ 4) := by
    rcases hlen with rfl | rfl | rfl <;> omega
  unfold InCells
  split_ifs <;> simp only [false_and, false_iff, true_and] <;> omega

/-- A write to an IMR register that mirrors channels. -/
theorem maskWritten_imr {intc : Intc} {c : CoreId} {addr len : Nat} {data : Nat → Byte}
    (hlen : IsWidth len) (haddr : isImrOfChannels addr = true) (halign : addr % len = 0)
    {c' : CoreId} {n : Nat} (hn : n < 384) :
    MaskWritten (maskWrite c addr len data) intc.memory
      (writeCells (imrHookBytes c (imrFirstIntno addr) len data intc).memory
        (mpuGetPointer c addr) len data) c' n := by
  have himr : isImrAddr addr = true := (Bool.and_eq_true _ _ ▸ haddr).1
  have hfirst := imrFirstIntno_eq himr
  have hcell := mpuGetPointer_imr c himr
  have hnotic := not_inCells_icCell c c' himr hlen halign hn
  have hinCells := inCells_imrCell c c' haddr hlen halign hn
  have hbound : imrFirstIntno addr + len * 8 ≤ 384 := by
    simp only [isImrAddr, isImr1Addr, isImr2Addr, Bool.or_eq_true, decide_eq_true_eq] at himr
    rcases hlen with rfl | rfl | rfl <;> split_ifs at hfirst <;> omega
  unfold MaskWritten maskWrite
  rw [icMask_writeCells, if_neg hnotic, imrMask_writeCells, icMask_imrHookBytes _ _ hbound _ hn,
    imrMask_imrHookBytes _ _ hbound _ hn]
  dsimp only
  rw [if_neg hnotic]
  by_cases hw : c' = c ∧ imrFirstIntno addr ≤ n ∧ n < imrFirstIntno addr + len * 8
  · obtain ⟨hc, hle, hlt⟩ := id hw
    have hpos : (imrCell c' n).index - (mpuGetPointer c addr).index =
          (n - imrFirstIntno addr) / 8 ∧ (n - imrFirstIntno addr) % 8 = n % 8 := by
      obtain ⟨hreg, _, _⟩ := hinCells.mpr hw
      rw [hcell, imrCell_eq] at hreg ⊢
      rw [hc] at hreg ⊢
      split_ifs at hfirst hreg ⊢
      · dsimp only
        omega
      · dsimp only
        omega
    have hbit : (data ((imrCell c' n).index - (mpuGetPointer c addr).index)).getLsbD (n % 8) =
        maskBit data (imrFirstIntno addr) n := by
      unfold maskBit
      rw [hpos.1, hpos.2]
    rw [if_pos hw, if_pos (hinCells.mpr hw), if_neg (not_not.mpr hw.1), if_pos (hinCells.mpr hw),
      hbit]
    exact ⟨rfl, rfl⟩
  · rw [if_neg hw, if_neg (mt hinCells.mp hw), if_neg (mt hinCells.mp hw), ite_self]
    exact ⟨rfl, rfl⟩

/-- The first IMR register of INTC2 is no mirror: the hook writes the masks of
the channels of INTC1. -/
theorem masks_imr0 (intc : Intc) (c c' : CoreId) {addr len : Nat} (data : Nat → Byte)
    (hlen : IsWidth len) (haddr : 0xFFFFB400 ≤ addr ∧ addr < 0xFFFFB404) (halign : addr % len = 0)
    {n : Nat} (hn : n < 384) :
    let memory' := writeCells (imrHookBytes c (imrFirstIntno addr) len data intc).memory
      (mpuGetPointer c addr) len data
    icMask memory' c' n =
        (if c' = c ∧ imrFirstIntno addr ≤ n ∧ n < imrFirstIntno addr + len * 8 then
          maskBit data (imrFirstIntno addr) n
        else icMask intc.memory c' n) ∧
      imrMask memory' c' n = imrMask intc.memory c' n ∧
        maskWrite c addr len data c' n = none := by
  have himr : isImrAddr addr = true := by
    simp only [isImrAddr, isImr1Addr, isImr2Addr, Bool.or_eq_true, decide_eq_true_eq]
    omega
  have hfirst := imrFirstIntno_eq himr
  rw [if_neg (by omega)] at hfirst
  have hnotic := not_inCells_icCell c c' himr hlen halign hn
  have hnotimr : ¬ InCells (mpuGetPointer c addr) len (imrCell c' n) := by
    rw [mpuGetPointer_imr c himr, imrCell_eq]
    have hc := c.isLt
    have hc' := c'.isLt
    have hbound : addr - 0xFFFFB400 + len ≤ 4 := by
      rcases hlen with rfl | rfl | rfl <;> omega
    unfold InCells
    split_ifs <;> simp only [false_and, not_false_eq_true, true_and] <;> omega
  have hbound : imrFirstIntno addr + len * 8 ≤ 384 := by
    rcases hlen with rfl | rfl | rfl <;> omega
  dsimp only
  rw [icMask_writeCells, if_neg hnotic, imrMask_writeCells, if_neg hnotimr,
    icMask_imrHookBytes _ _ hbound _ hn, imrMask_imrHookBytes _ _ hbound _ hn]
  refine ⟨rfl, rfl, ?_⟩
  unfold maskWrite
  dsimp only
  rw [if_neg hnotic, if_neg hnotimr, ite_self]

/-- The registers of the IC ranges. -/
theorem icAddress_icaddr2intno {addr : Nat} (h : isIcAddr addr = true) (heven : addr % 2 = 0) :
    icAddress (icaddr2intno addr) = addr := by
  simp only [isIcAddr, Bool.or_eq_true, decide_eq_true_eq] at h
  unfold icaddr2intno icAddress
  simp only [Nat.le_refl, if_true]
  split_ifs <;> omega

/-- The register of a high byte. -/
theorem isIcAddr_pred {addr : Nat} (h : isIcAddr addr = true) (hodd : addr % 2 = 1) :
    isIcAddr (addr - 1) = true := by
  simp only [isIcAddr, Bool.or_eq_true, decide_eq_true_eq] at h ⊢
  omega

theorem icaddr2intno_lt {addr : Nat} (h : isIcAddr addr = true) :
    icaddr2intno addr < tnumInt := by
  simp only [isIcAddr, Bool.or_eq_true, decide_eq_true_eq] at h
  unfold icaddr2intno icAddress tnumInt
  simp only [Nat.le_refl, if_true]
  split_ifs <;> omega

/-- A write to the lower byte of an IC register, of one or two bytes. -/
theorem masks_icLower {intc : Intc} {c : CoreId} {addr len : Nat} {data : Nat → Byte}
    {data16 : HalfWord} (hlen : len = 1 ∨ len = 2) (haddr : isIcAddr addr = true)
    (heven : addr % 2 = 0) (hdata : (data 0).getLsbD icIntmask = data16.getLsbD icIntmask)
    {memory : IntcMemory}
    (hhook : SameMasks (intcHookUpdateIcLowerbit c addr data16 intc).memory memory)
    (c' : CoreId) {n : Nat} (hn : n < 384) :
    let memory' := writeCells memory (mpuGetPointer c addr) len data
    icMask memory' c' n =
        (if c' = c ∧ n = icaddr2intno addr then data16.getLsbD icIntmask
        else icMask intc.memory c' n) ∧
      imrMask memory' c' n =
          (if (c' = c ∧ n = icaddr2intno addr) ∧ n % 32 < 8 then data16.getLsbD icIntmask
          else imrMask intc.memory c' n) ∧
        maskWrite c addr len data c' n =
          if c' = c ∧ n = icaddr2intno addr then some (data16.getLsbD icIntmask) else none := by
  have hno : icaddr2intno addr < 384 := (icaddr2intno_lt haddr).trans (by decide)
  obtain ⟨hic, himr⟩ := hhook c' n hn
  rw [icMask_icLowerbit _ _ _ hno hn] at hic
  rw [imrMask_icLowerbit _ _ _ hno hn] at himr
  have hcell : mpuGetPointer c addr = icCell c (icaddr2intno addr) := by
    unfold icCell
    rw [icAddress_icaddr2intno haddr heven]
  generalize icaddr2intno addr = intno at *
  have hshort {target : IntcCell} (h : InCells (icCell c intno) len target) :
      InCells (icCell c intno) 2 target :=
    ⟨h.1, h.2.1, by have := h.2.2; omega⟩
  have hself : InCells (icCell c intno) len (icCell c intno) :=
    ⟨rfl, le_rfl, by omega⟩
  have hinCells : InCells (icCell c intno) len (icCell c' n) ↔ c' = c ∧ n = intno := by
    constructor
    · intro h
      exact (inCells_icCell hno hn).mp (hshort h)
    · rintro ⟨rfl, rfl⟩
      exact hself
  have hnotimr : ¬ InCells (icCell c intno) len (imrCell c' n) :=
    fun h => not_inCells_imrCell hno hn (hshort h)
  dsimp only
  rw [hcell, icMask_writeCells, imrMask_writeCells, if_neg hnotimr, hic, himr]
  unfold maskWrite
  dsimp only
  rw [hcell, if_neg hnotimr]
  by_cases hw : c' = c ∧ n = intno
  · obtain ⟨rfl, rfl⟩ := id hw
    have hsame : ¬ c' ≠ c' := not_not.mpr rfl
    rw [if_pos hself, if_pos hw, Nat.sub_self, hdata, if_neg hsame, if_pos hw]
    exact ⟨rfl, rfl, if_pos hself⟩
  · rw [if_neg (mt hinCells.mp hw), if_neg hw, if_neg (mt hinCells.mp hw), if_neg hw, ite_self]
    exact ⟨rfl, rfl, rfl⟩

/-- A write to the upper byte of an IC register. -/
theorem masks_icUpper (c c' : CoreId) {addr : Nat} (data : Nat → Byte)
    (haddr : isIcAddr addr = true) (hodd : addr % 2 = 1) (memory : IntcMemory)
    {n : Nat} (hn : n < 384) :
    let memory' := writeCells memory (mpuGetPointer c addr) 1 data
    icMask memory' c' n = icMask memory c' n ∧ imrMask memory' c' n = imrMask memory c' n ∧
      maskWrite c addr 1 data c' n = none := by
  have hcell : mpuGetPointer c addr =
      if addr < 0xFFFFB000 then ⟨.intc1, addr - 0xFFFEEA00 + c.val * 0x200⟩
      else ⟨.intc2, addr - 0xFFFFB000 + c.val * 0x1000⟩ := by
    unfold mpuGetPointer intcRegionOf
    split_ifs <;> first | omega | rfl
  have hc := c.isLt
  have hc' := c'.isLt
  simp only [isIcAddr, Bool.or_eq_true, decide_eq_true_eq] at haddr
  have hnotic : ¬ InCells (mpuGetPointer c addr) 1 (icCell c' n) := by
    rw [hcell, icCell_eq]
    unfold InCells
    split_ifs <;> simp only [false_and, not_false_eq_true, true_and] <;> omega
  have hnotimr : ¬ InCells (mpuGetPointer c addr) 1 (imrCell c' n) := by
    rw [hcell, imrCell_eq]
    unfold InCells
    split_ifs <;> simp only [false_and, not_false_eq_true, true_and] <;> omega
  dsimp only
  unfold maskWrite
  dsimp only
  rw [icMask_writeCells, if_neg hnotic, imrMask_writeCells, if_neg hnotimr, if_neg hnotic,
    if_neg hnotimr, ite_self]
  exact ⟨rfl, rfl, rfl⟩

/-- The writes that go through a hook. -/
def isHooked (addr len : Nat) : Bool :=
  isImrAddr addr || (isIcAddr addr && decide (len ≠ 4))

/-- The writes that a hook refuses. -/
def isRefused (cpu : TargetCore) (addr len : Nat) : Bool :=
  isHooked addr len && (decide (addr % len ≠ 0) || cpu.issetUM)

/-- What a write of any width does to the registers. -/
inductive RegAccess (cpu : TargetCore) (intc : Intc) (c : CoreId) (addr len : Nat)
    (data : Nat → Byte) : IntcMemory → Prop
  | refused (h : isRefused cpu addr len = true) : RegAccess cpu intc c addr len data intc.memory
  | imr (haddr : isImrAddr addr = true) (halign : addr % len = 0) (hum : cpu.issetUM = false) :
      RegAccess cpu intc c addr len data
        (writeCells (imrHookBytes c (imrFirstIntno addr) len data intc).memory
          (mpuGetPointer c addr) len data)
  | icLower (data16 : HalfWord) (memory : IntcMemory) (hlen : len = 1 ∨ len = 2)
      (haddr : isIcAddr addr = true) (heven : addr % 2 = 0) (hum : cpu.issetUM = false)
      (hdata : (data 0).getLsbD icIntmask = data16.getLsbD icIntmask)
      (hhook : SameMasks (intcHookUpdateIcLowerbit c addr data16 intc).memory memory) :
      RegAccess cpu intc c addr len data
        (writeCells memory (mpuGetPointer c addr) len data)
  | icUpper (memory : IntcMemory) (hlen : len = 1) (haddr : isIcAddr addr = true)
      (hodd : addr % 2 = 1) (hum : cpu.issetUM = false)
      (hhook : SameMasks intc.memory memory) :
      RegAccess cpu intc c addr len data
        (writeCells memory (mpuGetPointer c addr) len data)
  | raw (h : isHooked addr len = false) :
      RegAccess cpu intc c addr len data
        (writeCells intc.memory (mpuGetPointer c addr) len data)

theorem memory_storeIf_ok (s : CpuIntc) (store : IntcMemory → IntcMemory) :
    (storeIf (.ok, s) store).2.intc.memory = store s.intc.memory :=
  rfl

theorem memory_storeIf_perm (s : CpuIntc) (store : IntcMemory → IntcMemory) :
    (storeIf (.perm, flagUserAccess s) store).2.intc.memory = s.intc.memory :=
  rfl

theorem memory_storeIf_invalid (s : CpuIntc) (store : IntcMemory → IntcMemory) :
    (storeIf (.invalid, s) store).2.intc.memory = s.intc.memory :=
  rfl

/-- The hook of the IMR registers, followed by the store. -/
theorem regAccess_imr {c : CoreId} {addr len : Nat} {data data' : Nat → Byte} {s : CpuIntc}
    {store : IntcMemory → IntcMemory} (haddr : isImrAddr addr = true) (halign : addr % len = 0)
    (hstore : ∀ memory, store memory = writeCells memory (mpuGetPointer c addr) len data)
    (hdata : ∀ k < len, data' k = data k) :
    RegAccess s.cpu s.intc c addr len data
      (storeIf (intcHookUpdateImr c addr len data' s) store).2.intc.memory := by
  unfold intcHookUpdateImr
  split_ifs with hum
  · rw [memory_storeIf_perm]
    exact .refused (by simp [isRefused, isHooked, haddr, hum])
  · rw [memory_storeIf_ok, hstore]
    show RegAccess _ _ _ _ _ _ (writeCells
      (imrHookBytes c (imrFirstIntno addr) len data' s.intc).memory _ _ _)
    rw [imrHookBytes_congr _ _ _ hdata]
    exact .imr haddr halign (by simpa using hum)

theorem regAccess_put8 (c : CoreId) (addr : Nat) (data : Byte) (s : CpuIntc) :
    RegAccess s.cpu s.intc c addr 1 (byteOf data) (intcPutData8 c addr data s).2.intc.memory := by
  have hbyte : byteOf data 0 = data := by simp [byteOf]
  have hput (memory : IntcMemory) := put8_eq_writeCells memory (mpuGetPointer c addr) data
  unfold intcPutData8 intcHookUpdateReg8
  split_ifs with hic himr
  · unfold intcHookUpdateIcReg8
    split_ifs with hum hodd
    · rw [memory_storeIf_perm]
      exact .refused (by simp [isRefused, isHooked, hic, hum])
    · rw [memory_storeIf_ok, hput]
      refine .icUpper _ rfl hic hodd (by simpa using hum) (sameMasks_icUpperbit _ _ _ ?_)
      simp only [isIcAddr, Bool.or_eq_true, decide_eq_true_eq] at hic
      unfold icaddr2intno icAddress
      simp only [Nat.le_refl, if_true]
      split_ifs <;> omega
    · rw [memory_storeIf_ok, hput]
      refine .icLower (data.setWidth 16) _ (Or.inl rfl) hic (by omega) (by simpa using hum) ?_
        (SameMasks.refl _)
      rw [hbyte]
      simp [icIntmask]
  · refine regAccess_imr himr (Nat.mod_one _) hput fun k hk => ?_
    rw [show k = 0 by omega, hbyte]
  · rw [memory_storeIf_ok, hput]
    exact .raw (by simp [isHooked, hic, himr])

theorem regAccess_put16 (c : CoreId) (addr : Nat) (data : HalfWord) (s : CpuIntc) :
    RegAccess s.cpu s.intc c addr 2 (byteOf data) (intcPutData16 c addr data s).2.intc.memory := by
  have hput (memory : IntcMemory) := put16_eq_writeCells memory (mpuGetPointer c addr) data
  unfold intcPutData16 intcHookUpdateReg16
  split_ifs with hic hodd himr hodd
  · rw [memory_storeIf_invalid]
    exact .refused (by simp [isRefused, isHooked, hic, hodd])
  · have hno : icaddr2intno addr < 384 := (icaddr2intno_lt hic).trans (by decide)
    unfold intcHookUpdateIcReg16
    split_ifs with hum
    · rw [memory_storeIf_perm]
      exact .refused (by simp [isRefused, isHooked, hic, hum])
    · rw [memory_storeIf_ok, hput]
      refine .icLower data _ (Or.inr rfl) hic (by omega) (by simpa using hum) ?_
        (sameMasks_icUpperbit _ c data hno)
      simp [byteOf, icIntmask]
  · rw [memory_storeIf_invalid]
    exact .refused (by simp [isRefused, isHooked, himr, hodd])
  · exact regAccess_imr himr (by omega) hput fun _ _ => rfl
  · rw [memory_storeIf_ok, hput]
    exact .raw (by simp [isHooked, hic, himr])

theorem regAccess_put32 (c : CoreId) (addr : Nat) (data : Word) (s : CpuIntc) :
    RegAccess s.cpu s.intc c addr 4 (byteOf data) (intcPutData32 c addr data s).2.intc.memory := by
  have hput (memory : IntcMemory) := put32_eq_writeCells memory (mpuGetPointer c addr) data
  unfold intcPutData32 intcHookUpdateReg32
  split_ifs with himr hodd
  · rw [memory_storeIf_invalid]
    exact .refused (by simp [isRefused, isHooked, himr, hodd])
  · exact regAccess_imr himr (by omega) hput fun _ _ => rfl
  · rw [memory_storeIf_ok, hput]
    exact .raw (by simp [isHooked, himr])

/-! ## One write -/

/-- Both records of every channel that reset covers agree. -/
def MasksAgree (memory : IntcMemory) : Prop :=
  ∀ c n, n < 352 → icMask memory c n = imrMask memory c n

/-- The writes that keep the records together. -/
structure MaskGuard (cpu : TargetCore) (memory : IntcMemory) (c : CoreId) (addr len : Nat)
    (data : Nat → Byte) : Prop where
  /-- A mask that the hook of the IC registers does not carry over is not changed. -/
  ic : cpu.issetUM = false → isIcAddr addr = true → len ≠ 4 → addr % 2 = 0 →
    icaddr2intno addr % 32 < 8 ∨
      (data 0).getLsbD icIntmask = icMask memory c (icaddr2intno addr)
  /-- The IMR register that mirrors no channel leaves the masks alone. -/
  imr : cpu.issetUM = false → isImrAddr addr = true → isImrOfChannels addr = false →
    addr % len = 0 → ∀ n, imrFirstIntno addr ≤ n → n < imrFirstIntno addr + len * 8 →
      maskBit data (imrFirstIntno addr) n = icMask memory c n
  /-- So do the writes without a hook. -/
  raw : isHooked addr len = false → ∀ c' n, n < 352 →
    icMask (writeCells memory (mpuGetPointer c addr) len data) c' n = icMask memory c' n ∧
      imrMask (writeCells memory (mpuGetPointer c addr) len data) c' n = imrMask memory c' n

/-- What a write does to the mask of a channel. -/
def maskEffect (cpu : TargetCore) (c : CoreId) (addr len : Nat) (data : Nat → Byte)
    (c' : CoreId) (n : Nat) : Option Bool :=
  if isRefused cpu addr len then none else maskWrite c addr len data c' n

theorem maskWritten_of_none {write : CoreId → Nat → Option Bool} {memory memory' : IntcMemory}
    {c : CoreId} {n : Nat} (hwrite : write c n = none) (hic : icMask memory' c n = icMask memory c n)
    (himr : imrMask memory' c n = imrMask memory c n) : MaskWritten write memory memory' c n := by
  unfold MaskWritten
  rw [hwrite, hic, himr]
  exact ⟨rfl, rfl⟩

/-- A write without a hook gives the records the bytes they hold already. -/
theorem maskWritten_raw {memory : IntcMemory} {c : CoreId} {addr len : Nat} {data : Nat → Byte}
    {c' : CoreId} {n : Nat} (hagree : icMask memory c' n = imrMask memory c' n)
    (hic : icMask (writeCells memory (mpuGetPointer c addr) len data) c' n = icMask memory c' n)
    (himr : imrMask (writeCells memory (mpuGetPointer c addr) len data) c' n =
      imrMask memory c' n) :
    MaskWritten (maskWrite c addr len data) memory
      (writeCells memory (mpuGetPointer c addr) len data) c' n := by
  have hic' := hic
  have himr' := himr
  rw [icMask_writeCells] at hic'
  rw [imrMask_writeCells] at himr'
  unfold MaskWritten
  rw [hic, himr]
  unfold maskWrite
  dsimp only
  by_cases hc : c' ≠ c
  · rw [if_pos hc]
    exact ⟨rfl, rfl⟩
  · rw [if_neg hc]
    by_cases hw : InCells (mpuGetPointer c addr) len (icCell c' n)
    · rw [if_pos hw] at hic' ⊢
      rw [hic', hagree]
      exact ⟨rfl, rfl⟩
    · rw [if_neg hw]
      by_cases hw' : InCells (mpuGetPointer c addr) len (imrCell c' n)
      · rw [if_pos hw'] at himr' ⊢
        rw [himr', hagree]
        exact ⟨rfl, rfl⟩
      · rw [if_neg hw']
        exact ⟨rfl, rfl⟩

/-- A write that meets the condition changes both records of the channels that
it addresses, and of no others. -/
theorem maskWritten_of_regAccess {cpu : TargetCore} {intc : Intc} {c : CoreId} {addr len : Nat}
    {data : Nat → Byte} {memory' : IntcMemory} (hlen : IsWidth len)
    (haccess : RegAccess cpu intc c addr len data memory')
    (hguard : MaskGuard cpu intc.memory c addr len data) (hagree : MasksAgree intc.memory)
    {c' : CoreId} {n : Nat} (hn : n < 352) :
    MaskWritten (maskEffect cpu c addr len data) intc.memory memory' c' n := by
  have hn' : n < 384 := by omega
  have heffect (h : isRefused cpu addr len = false) :
      maskEffect cpu c addr len data = maskWrite c addr len data := by
    funext c' n
    exact if_neg (by simp [h])
  cases haccess with
  | refused h => exact maskWritten_of_none (if_pos h) rfl rfl
  | imr haddr halign hum =>
    rw [heffect (by simp [isRefused, halign, hum])]
    by_cases hproper : isImrOfChannels addr = true
    · exact maskWritten_imr hlen hproper halign hn'
    · have hrange : 0xFFFFB400 ≤ addr ∧ addr < 0xFFFFB404 := by
        simp only [isImrOfChannels, haddr, Bool.true_and, decide_eq_true_eq] at hproper
        omega
      obtain ⟨hic, himr, hwrite⟩ := masks_imr0 intc c c' data hlen hrange halign hn'
      refine maskWritten_of_none hwrite ?_ himr
      rw [hic]
      split_ifs with h
      · obtain ⟨rfl, hle, hlt⟩ := h
        exact hguard.imr hum haddr (by simpa using hproper) halign n hle hlt
      · rfl
  | icLower data16 memory hlen' haddr heven hum hdata hhook =>
    have hno4 : len ≠ 4 := by omega
    have halign : addr % len = 0 := by
      rcases hlen' with rfl | rfl <;> omega
    rw [heffect (by simp [isRefused, halign, hum])]
    obtain ⟨hic, himr, hwrite⟩ := masks_icLower hlen' haddr heven hdata hhook c' hn'
    unfold MaskWritten
    rw [hic, himr, hwrite]
    by_cases hself : c' = c ∧ n = icaddr2intno addr
    · obtain ⟨rfl, rfl⟩ := id hself
      rw [if_pos hself, if_pos hself]
      refine ⟨rfl, ?_⟩
      split_ifs with hlow
      · rfl
      · have hsame := (hguard.ic hum haddr hno4 heven).resolve_left fun h => hlow ⟨hself, h⟩
        rw [← hdata, hsame, hagree c' _ hn]
        rfl
    · rw [if_neg hself, if_neg hself, if_neg fun h => hself h.1]
      exact ⟨rfl, rfl⟩
  | icUpper memory hlen' haddr hodd hum hhook =>
    subst hlen'
    rw [heffect (by simp [isRefused, Nat.mod_one, hum])]
    obtain ⟨hic, himr, hwrite⟩ := masks_icUpper c c' data haddr hodd memory hn'
    obtain ⟨hic', himr'⟩ := hhook c' n hn'
    exact maskWritten_of_none hwrite (hic.trans hic') (himr.trans himr')
  | raw h =>
    rw [heffect (by simp [isRefused, h])]
    obtain ⟨hic, himr⟩ := hguard.raw h c' n hn
    exact maskWritten_raw (hagree c' n hn) hic himr

end Athrill
