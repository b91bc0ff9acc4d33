import Athrill.Intc.Control

/-!
# Software writes to the interrupt controller registers

`intc_put_data8`, `intc_put_data16` and `intc_put_data32` with the hooks of
`intc_config.c`.  A write goes to the bank of the writing core, after a hook
for its width and range has kept the other record of the same fact up to date:
the mask bit of a channel stands in its IC register and in an IMR register, a
request stands in the IC register and in a queue.

The build defines `FIX_INTR_CPU_RCV_CLR`.

* `intcHookUpdateReg8`, `intcHookUpdateReg16`, `intcHookUpdateReg32`: the hooks.
* `intcPutData8`, `intcPutData16`, `intcPutData32`: the writes.
-/

namespace Athrill

open TargetCore Bits

/-- The results that a write to the registers can have. -/
inductive IntcReturn where
  | ok | perm | invalid
  deriving DecidableEq, Repr

/-! ## Ranges -/

/-- `INTC1_IC_ADDR_START` to `INTC1_IC_ADDR_END`, and the same for INTC2. -/
def isIcAddr (regaddr : Nat) : Bool :=
  decide (0xFFFEEA00 ≤ regaddr ∧ regaddr ≤ 0xFFFEEA3F) ||
    decide (0xFFFFB040 ≤ regaddr ∧ regaddr ≤ 0xFFFFB2CB)

/-- `INTC1_IMR_ADDR_START` to `INTC1_IMR_ADDR_END`. -/
def isImr1Addr (regaddr : Nat) : Bool :=
  decide (0xFFFEEAF0 ≤ regaddr ∧ regaddr ≤ 0xFFFEEAF3)

/-- `INTC2_IMR_ADDR_START` to `INTC2_IMR_ADDR_END`. -/
def isImr2Addr (regaddr : Nat) : Bool :=
  decide (0xFFFFB400 ≤ regaddr ∧ regaddr ≤ 0xFFFFB42F)

def isImrAddr (regaddr : Nat) : Bool :=
  isImr1Addr regaddr || isImr2Addr regaddr

/-- `INTC1_ICADDR2INTNO` and `INTC2_ICADDR2INTNO`, with the test before them. -/
def icaddr2intno (regaddr : Nat) : Nat :=
  if 0xFFFEEA00 ≤ regaddr ∧ regaddr ≤ icAddress 31 then (regaddr - 0xFFFEEA00) / 2
  else (regaddr - 0xFFFFB040) / 2 + 32

/-! ## Hooks -/

/-- The `UM` check of the hooks. -/
def flagUserAccess (s : CpuIntc) : CpuIntc :=
  { s with cpu := { s.cpu with currentCodeException := ⟨true, some .pie⟩ } }

/-- `imr_no` and `index` of `intc_hook_update_imr`: the channel of bit 0. -/
def imrFirstIntno (regaddr : Nat) : Nat :=
  if isImr1Addr regaddr then (regaddr - 0xFFFEEAF0) * 8
  else
    let imrNo := (regaddr - 0xFFFFB400) / 4
    imrNo * 32 + (regaddr - (0xFFFFB400 + imrNo * 4)) * 8

/-- The inner loop of `intc_hook_update_imr`: the mask bits of eight channels. -/
def imrHookByte (coreId : CoreId) (first : Nat) (data : Byte) (intc : Intc) : Intc :=
  (List.range 8).foldl
    (fun intc bit => putIntmask intc coreId (first + bit) (data.getLsbD bit)) intc

/-- `intc_hook_update_imr`; `data` are the bytes of the write. -/
def intcHookUpdateImr (coreId : CoreId) (regaddr len : Nat) (data : Nat → Byte) (s : CpuIntc) :
    IntcReturn × CpuIntc :=
  if s.cpu.issetUM then (.perm, flagUserAccess s)
  else
    (.ok, { s with
      intc := (List.range len).foldl
        (fun intc byte => imrHookByte coreId (imrFirstIntno regaddr + byte * 8) (data byte) intc)
        s.intc })

/-- `intc_hook_update_ic_lowerbit`; the pointer goes to one byte, whatever the
number of the bit. -/
def intcHookUpdateIcLowerbit (coreId : CoreId) (regaddr : Nat) (data : HalfWord) (intc : Intc) :
    Intc :=
  let intno := icaddr2intno regaddr
  let imrDatap := mpuGetPointer coreId (imrAddress intno)
  let old : Word := (intc.memory imrDatap).setWidth 32
  let new := putBit old (intno % 32) (data.getLsbD icIntmask)
  { intc with memory := intc.memory.put8 imrDatap (new.truncate 8) }

/-- `ino_regaddr == regaddr`, whatever the exception of the entry. -/
def isAtIcAddr (regaddr : Nat) (req : ExceptionRequest) : Bool :=
  decide (icAddress req.intno = regaddr)

/-- The test in the loop over the levels. -/
def isRunnableAtIcAddr (regaddr : Nat) (req : ExceptionRequest) : Bool :=
  isAtIcAddr regaddr req && decide (req.status = .runnable)

/-- The loop over the levels in `intc_hook_update_ic_upperbit`: the first entry
that passes the test leaves its queue. -/
def dropRunnable (regaddr : Nat) (control : ExceptionController) : ExceptionController :=
  let found := (List.finRange 16).find? fun level =>
    (control.exceptionQueue level).any (isRunnableAtIcAddr regaddr)
  match found with
  | some level =>
    control.modifyQueue level fun queue => queue.eraseP (isRunnableAtIcAddr regaddr)
  | none => control

/-- `intc_hook_update_ic_upperbit`. -/
def intcHookUpdateIcUpperbit (coreId : CoreId) (regaddr : Nat) (data : HalfWord) (intc : Intc) :
    Intc :=
  if data.getLsbD icIntreq then intcRaiseIntr (icaddr2intno regaddr) intc
  else
    intc.modifyControl coreId fun control =>
      dropRunnable regaddr
        { control with userQueue := control.userQueue.eraseP (isAtIcAddr regaddr) }

/-- `intc_hook_update_ic_reg8`. -/
def intcHookUpdateIcReg8 (coreId : CoreId) (regaddr : Nat) (data : Byte) (s : CpuIntc) :
    IntcReturn × CpuIntc :=
  if s.cpu.issetUM then (.perm, flagUserAccess s)
  else if regaddr % 2 = 1 then
    (.ok, { s with
      intc := intcHookUpdateIcUpperbit coreId (regaddr - 1) (data.setWidth 16 <<< 8) s.intc })
  else
    (.ok, { s with intc := intcHookUpdateIcLowerbit coreId regaddr (data.setWidth 16) s.intc })

/-- `intc_hook_update_ic_reg16`. -/
def intcHookUpdateIcReg16 (coreId : CoreId) (regaddr : Nat) (data : HalfWord) (s : CpuIntc) :
    IntcReturn × CpuIntc :=
  if s.cpu.issetUM then (.perm, flagUserAccess s)
  else
    (.ok, { s with
      intc := intcHookUpdateIcUpperbit coreId regaddr data
        (intcHookUpdateIcLowerbit coreId regaddr data s.intc) })

/-- `intc_hook_update_reg8`. -/
def intcHookUpdateReg8 (coreId : CoreId) (regaddr : Nat) (data : Byte) (s : CpuIntc) :
    IntcReturn × CpuIntc :=
  if isIcAddr regaddr then intcHookUpdateIcReg8 coreId regaddr data s
  else if isImrAddr regaddr then intcHookUpdateImr coreId regaddr 1 (fun _ => data) s
  else (.ok, s)

/-- `intc_hook_update_reg16`. -/
def intcHookUpdateReg16 (coreId : CoreId) (regaddr : Nat) (data : HalfWord) (s : CpuIntc) :
    IntcReturn × CpuIntc :=
  if isIcAddr regaddr then
    if regaddr % 2 ≠ 0 then (.invalid, s) else intcHookUpdateIcReg16 coreId regaddr data s
  else if isImrAddr regaddr then
    if regaddr % 2 ≠ 0 then (.invalid, s)
    else intcHookUpdateImr coreId regaddr 2 (fun byte => (data >>> (8 * byte)).truncate 8) s
  else (.ok, s)

/-- `intc_hook_update_reg32`. -/
def intcHookUpdateReg32 (coreId : CoreId) (regaddr : Nat) (data : Word) (s : CpuIntc) :
    IntcReturn × CpuIntc :=
  if isImrAddr regaddr then
    if regaddr % 4 ≠ 0 then (.invalid, s)
    else intcHookUpdateImr coreId regaddr 4 (fun byte => (data >>> (8 * byte)).truncate 8) s
  else (.ok, s)

/-! ## Writes -/

/-- The write after the hook. -/
def storeIf (result : IntcReturn × CpuIntc) (store : IntcMemory → IntcMemory) :
    IntcReturn × CpuIntc :=
  if result.1 = .ok then
    (.ok, { result.2 with
      intc := { result.2.intc with memory := store result.2.intc.memory } })
  else result

/-- `intc_put_data8`. -/
def intcPutData8 (coreId : CoreId) (addr : Nat) (data : Byte) (s : CpuIntc) :
    IntcReturn × CpuIntc :=
  storeIf (intcHookUpdateReg8 coreId addr data s) fun memory =>
    memory.put8 (mpuGetPointer coreId addr) data

/-- `intc_put_data16`. -/
def intcPutData16 (coreId : CoreId) (addr : Nat) (data : HalfWord) (s : CpuIntc) :
    IntcReturn × CpuIntc :=
  storeIf (intcHookUpdateReg16 coreId addr data s) fun memory =>
    memory.put16 (mpuGetPointer coreId addr) data

/-- `intc_put_data32`. -/
def intcPutData32 (coreId : CoreId) (addr : Nat) (data : Word) (s : CpuIntc) :
    IntcReturn × CpuIntc :=
  storeIf (intcHookUpdateReg32 coreId addr data s) fun memory =>
    memory.put32 (mpuGetPointer coreId addr) data

end Athrill
