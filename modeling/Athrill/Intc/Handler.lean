import Athrill.Cpu.Run
import Athrill.Intc.Access
import Athrill.Intc.Store

/-!
# Handler addresses

`intc_get_exception_handler_addr` serves user interrupts and all other
exceptions.  While `RINT` is clear it looks at bit `TB` of an IC register and
reads the address from the table at `INTBP` when the bit is set.  An exception
that is no user interrupt has no channel; it is looked up under the number of
its request, which is 0, and when the bit is set the assertion in
`intc_get_handler_addr_intbp` stops the emulator.  The IC register is always the
one of core 0.

* `BasesDecide`, `OwnRegistersDecide`: what an address depends on, over two
  states.
* `handlerAddr_of_rint`, `handlerAddr_of_direct`, `handlerAddr_of_table`: the
  ways to an address, `handlerAddr_of_assert` the way to none.
* `handlerAddr_exact`: the states in which only the permitted registers decide.
-/

namespace Athrill

open TargetCore Bits

variable {D : Type}

/-! ## Two states -/

/-- The base registers agree. -/
structure SameBases (cpu cpu' : TargetCore) : Prop where
  ebv : cpu'.issetEBV = cpu.issetEBV
  rbase : cpu'.getSysreg2 .rbase = cpu.getSysreg2 .rbase
  ebase : cpu'.getSysreg2 .ebase = cpu.getSysreg2 .ebase

/-- `ICn` of a channel in the bank of a core. -/
def icRegister (intc : Intc) (c : CoreId) (intno : Nat) : HalfWord :=
  intc.memory.get16 (mpuGetPointer c (icAddress intno))

/-- The handler address of an exception; `none` when the emulator stops before it
has one. -/
def handlerAddr (bus : Bus D) (s : CpuState D) (exno : ExceptionId) (intno : Nat) :
    Option Word :=
  (intcGetExceptionHandlerAddr bus s exno intno).map Prod.fst

/-- The word of a channel in the table at `INTBP`. -/
def tableWord (bus : Bus D) (s : CpuState D) (intno : Nat) : Option Word :=
  (bus.getData32 s (s.cpu.getSysreg2 .intbp + BitVec.ofNat 32 intno * 4)).1

/-- The base registers of `s` decide the handler address: every state with the
same base registers has the same address. -/
def BasesDecide (exno : ExceptionId) (intno : Nat) (s : CpuState D) : Prop :=
  ∀ (bus : Bus D) (s' : CpuState D), SameBases s.cpu s'.cpu →
    handlerAddr bus s' exno intno = handlerAddr bus s exno intno

/-- Two states of one core agree on all that belongs to a channel: the base
registers, `INTBP`, the core's own `ICn` and the word in the table. -/
structure SameChannel (bus : Bus D) (intno : Nat) (s s' : CpuState D) : Prop where
  core : s'.cpu.coreId = s.cpu.coreId
  bases : SameBases s.cpu s'.cpu
  intbp : s'.cpu.getSysreg2 .intbp = s.cpu.getSysreg2 .intbp
  register : icRegister s'.intc s.cpu.coreId intno = icRegister s.intc s.cpu.coreId intno
  word : tableWord bus s' intno = tableWord bus s intno
  readable : tableWord bus s intno ≠ none

/-- The base registers and the channel's own register decide the handler address
of a user interrupt. -/
def OwnRegistersDecide (intno : Nat) (s : CpuState D) : Prop :=
  ∀ (bus : Bus D) (s' : CpuState D), SameChannel bus intno s s' →
    handlerAddr bus s' .userIntr intno = handlerAddr bus s .userIntr intno

/-! ## The ways to an address -/

/-- `RINT` of the base register that `PSW.EBV` selects. -/
def issetRint (cpu : TargetCore) : Bool :=
  if cpu.issetEBV then (cpu.getSysreg2 .ebase).getLsbD 0 else (cpu.getSysreg2 .rbase).getLsbD 0

/-- The address relative to the base register that `PSW.EBV` selects. -/
def baseHandlerAddr (s : CpuIntc) (exno : ExceptionId) (intno : Nat) (isRint : Bool) : Word :=
  if s.cpu.issetEBV then intcGetHandlerAddrEbase s exno intno isRint
  else intcGetHandlerAddrRbase s exno intno isRint

variable {bus : Bus D} {s s' : CpuState D} {exno : ExceptionId} {intno : Nat}

theorem SameBases.issetRint_eq {cpu cpu' : TargetCore} (h : SameBases cpu cpu') :
    issetRint cpu' = issetRint cpu := by
  unfold issetRint
  rw [h.ebv, h.rbase, h.ebase]

/-- With `RINT` set, no table is looked at. -/
theorem handlerAddr_of_rint (h : issetRint s.cpu = true) :
    handlerAddr bus s exno intno = some (baseHandlerAddr s.toCpuIntc exno intno true) := by
  unfold issetRint at h
  unfold handlerAddr intcGetExceptionHandlerAddr intcGetAddrRefmethod baseHandlerAddr
  dsimp only
  rw [h, if_pos rfl]
  cases hebv : s.cpu.issetEBV with
  | true => rfl
  | false => rfl

/-- With `RINT` and `TB` clear. -/
theorem handlerAddr_of_direct (h : issetRint s.cpu = false)
    (htable : intcIsDevsettingTableref s.intc intno = false) :
    handlerAddr bus s exno intno = some (baseHandlerAddr s.toCpuIntc exno intno false) := by
  unfold issetRint at h
  unfold handlerAddr intcGetExceptionHandlerAddr intcGetAddrRefmethod baseHandlerAddr
  dsimp only
  rw [h, if_neg Bool.false_ne_true, htable]
  cases hebv : s.cpu.issetEBV with
  | true => rfl
  | false => rfl

/-- With `RINT` clear and `TB` set, the table is asked. -/
theorem refmethod_of_table (h : issetRint s.cpu = false)
    (htable : intcIsDevsettingTableref s.intc intno = true) :
    handlerAddr bus s exno intno = (intcGetHandlerAddrIntbp bus s exno intno).map Prod.fst := by
  unfold issetRint at h
  unfold handlerAddr intcGetExceptionHandlerAddr intcGetAddrRefmethod
  dsimp only
  rw [h, if_neg Bool.false_ne_true, htable]
  rfl

/-- For a user interrupt, the word of the table. -/
theorem handlerAddr_of_table {word : Word} (h : issetRint s.cpu = false)
    (htable : intcIsDevsettingTableref s.intc intno = true)
    (hword : tableWord bus s intno = some word) :
    handlerAddr bus s .userIntr intno = some word := by
  unfold tableWord at hword
  rw [refmethod_of_table h htable]
  unfold intcGetHandlerAddrIntbp
  dsimp only
  rw [if_pos rfl]
  split
  · rename_i data v hread
    rw [hread] at hword
    exact hword
  · rename_i v hread
    rw [hread] at hword
    cases hword

/-- For any other exception, the assertion fails. -/
theorem handlerAddr_of_assert (h : issetRint s.cpu = false)
    (htable : intcIsDevsettingTableref s.intc intno = true) (hno : exno ≠ .userIntr) :
    handlerAddr bus s exno intno = none := by
  rw [refmethod_of_table h htable]
  unfold intcGetHandlerAddrIntbp
  dsimp only
  rw [if_neg hno]
  rfl

/-- An address relative to a base: the base registers decide it, for a user
interrupt with the priority of its channel. -/
theorem baseHandlerAddr_congr (hbases : SameBases s.cpu s'.cpu) {isRint : Bool}
    (hoffset : exno = .userIntr →
      userHandlerOffset s'.intc intno isRint = userHandlerOffset s.intc intno isRint) :
    baseHandlerAddr s'.toCpuIntc exno intno isRint =
      baseHandlerAddr s.toCpuIntc exno intno isRint := by
  unfold baseHandlerAddr intcGetHandlerAddrEbase intcGetHandlerAddrRbase cpuRbaseAddr cpuEbaseAddr
  rw [hbases.ebv, hbases.rbase, hbases.ebase]
  by_cases huser : exno = .userIntr
  · rw [hoffset huser]
  · simp only [if_neg huser]

/-! ## Writes to `TB` -/

theorem get16_put16_self (memory : IntcMemory) (cell : IntcCell) (data : HalfWord) :
    (memory.put16 cell data).get16 cell = data := by
  have hne : cell ≠ cell.add 1 := fun heq => by
    have hindex : cell.index = cell.index + 1 := congrArg IntcCell.index heq
    omega
  unfold IntcMemory.get16 IntcMemory.put16 IntcMemory.put8
  rw [Function.update_self, Function.update_of_ne hne, Function.update_self]
  apply BitVec.eq_of_getLsbD_eq
  intro i hi
  simp only [BitVec.truncate_eq_setWidth, BitVec.getLsbD_append, BitVec.getLsbD_setWidth,
    BitVec.getLsbD_ushiftRight]
  by_cases hlow : i < 8
  · simp [hlow]
  · have hindex : 8 + (i - 8) = i := by omega
    have hbound : i - 8 < 8 := by omega
    simp [hlow, hindex, hbound]

/-- Registers that do not overlap. -/
theorem get16_put16_of_ne {memory : IntcMemory} {cell target : IntcCell} {data : HalfWord}
    (hlow : ¬ InCells cell 2 target) (hhigh : ¬ InCells cell 2 (target.add 1)) :
    (memory.put16 cell data).get16 target = memory.get16 target := by
  rw [put16_eq_writeCells]
  unfold IntcMemory.get16
  rw [writeCells_of_not_inCells hlow, writeCells_of_not_inCells hhigh]

/-- The registers of a channel in the two banks do not overlap. -/
theorem not_inCells_bank (intno k : Nat) (hk : k ≤ 1) :
    ¬ InCells (mpuGetPointer 0 (icAddress intno)) 2
      ((mpuGetPointer 1 (icAddress intno)).add k) := by
  rw [mpuGetPointer_icAddress, mpuGetPointer_icAddress]
  rintro ⟨-, -, hlt⟩
  revert hlt
  split_ifs
  · show ¬ 2 * intno + 0x200 + k < 2 * intno + 0 * 0x200 + 2
    omega
  · show ¬ 0x40 + 2 * (intno - 32) + 0x1000 + k < 0x40 + 2 * (intno - 32) + 0 * 0x1000 + 2
    omega

/-- `TB` of a channel is written in the bank of core 0. -/
def putTableref (s : CpuState D) (intno : Nat) (flag : Bool) : CpuState D :=
  { s with intc := putIcBit s.intc 0 intno icTableref flag }

theorem tableref_putTableref (s : CpuState D) (intno : Nat) (flag : Bool) :
    intcIsDevsettingTableref (putTableref s intno flag).intc intno = flag := by
  show ((s.intc.memory.put16 (mpuGetPointer 0 (icAddress intno)) _).get16
    (mpuGetPointer 0 (icAddress intno))).getLsbD icTableref = flag
  rw [get16_put16_self]
  exact getLsbD_putBit_self _ (by decide) flag

/-- The register of core 1 is left. -/
theorem icRegister_putTableref (s : CpuState D) (intno : Nat) (flag : Bool) :
    icRegister (putTableref s intno flag).intc 1 intno = icRegister s.intc 1 intno :=
  get16_put16_of_ne (not_inCells_bank intno 0 (Nat.zero_le _)) (not_inCells_bank intno 1 le_rfl)

/-- A bus that reads the same word everywhere. -/
def constBus (word : Word) : Bus D where
  getData8 s _ := (some (word.truncate 8), s.view)
  getData16 s _ := (some (word.truncate 16), s.view)
  getData32 s _ := (some word, s.view)
  putData8 s _ _ := (none, s.view)
  putData16 s _ _ := (none, s.view)
  putData32 s _ _ := (none, s.view)
  getPointer _ _ := none
  storePointer _ _ _ := none

/-- With `RINT` clear, the bit `TB` of core 0 makes a difference: two states that
differ in it alone have different addresses over some bus, or one has none. -/
theorem putTableref_differ (s : CpuState D) (exno : ExceptionId) (intno : Nat)
    (h : issetRint s.cpu = false) :
    ∃ bus : Bus D, (∀ s' : CpuState D, tableWord bus s' intno ≠ none) ∧
      (∀ s' s'' : CpuState D, tableWord bus s' intno = tableWord bus s'' intno) ∧
      handlerAddr bus (putTableref s intno true) exno intno ≠
        handlerAddr bus (putTableref s intno false) exno intno := by
  have hdirect (bus : Bus D) : handlerAddr bus (putTableref s intno false) exno intno =
      some (baseHandlerAddr (putTableref s intno false).toCpuIntc exno intno false) :=
    handlerAddr_of_direct h (tableref_putTableref s intno false)
  generalize baseHandlerAddr (putTableref s intno false).toCpuIntc exno intno false = addr
    at hdirect
  refine ⟨constBus (addr + 1), fun _ => Option.some_ne_none _, fun _ _ => rfl, ?_⟩
  rw [hdirect]
  by_cases huser : exno = .userIntr
  · subst huser
    rw [handlerAddr_of_table (s := putTableref s intno true) h
      (tableref_putTableref s intno true) rfl]
    intro heq
    have hone : (1 : Word) = 0 := BitVec.add_right_eq_self.mp (Option.some.inj heq)
    exact absurd hone (by decide)
  · rw [handlerAddr_of_assert (s := putTableref s intno true) h
      (tableref_putTableref s intno true) huser]
    exact (Option.some_ne_none addr).symm

/-! ## The dependence -/

/-- The base registers decide the address of an exception that is no user
interrupt exactly when `RINT` is set.  The registers of a channel decide that of
its user interrupt when `RINT` is set or the core is core 0. -/
theorem handlerAddr_exact (s : CpuState D) :
    (∀ exno intno, exno ≠ .userIntr → (BasesDecide exno intno s ↔ issetRint s.cpu = true)) ∧
      ∀ intno, OwnRegistersDecide intno s ↔ issetRint s.cpu = true ∨ s.cpu.coreId = 0 := by
  refine ⟨fun exno intno hno => ⟨fun hdecide => ?_, fun hrint bus s' hbases => ?_⟩,
    fun intno => ⟨fun hdecide => ?_, ?_⟩⟩
  · cases hrint : issetRint s.cpu with
    | true => rfl
    | false =>
      obtain ⟨bus, -, -, hne⟩ := putTableref_differ s exno intno hrint
      have hset := hdecide bus (putTableref s intno true) ⟨rfl, rfl, rfl⟩
      have hclear := hdecide bus (putTableref s intno false) ⟨rfl, rfl, rfl⟩
      exact absurd (hset.trans hclear.symm) hne
  · rw [handlerAddr_of_rint hrint, handlerAddr_of_rint (hbases.issetRint_eq.trans hrint)]
    exact congrArg some (baseHandlerAddr_congr hbases fun huser => absurd huser hno)
  · cases hrint : issetRint s.cpu with
    | true => exact Or.inl rfl
    | false =>
      refine Or.inr (by_contra fun hcore => ?_)
      have hone : s.cpu.coreId = 1 := by
        have hlt := s.cpu.coreId.isLt
        have hval : s.cpu.coreId.val ≠ 0 := fun hval => hcore (Fin.ext hval)
        exact Fin.ext (show s.cpu.coreId.val = 1 by omega)
      obtain ⟨bus, hread, hsame, hne⟩ := putTableref_differ s .userIntr intno hrint
      have hchannel (flag : Bool) : SameChannel bus intno s (putTableref s intno flag) :=
        ⟨rfl, ⟨rfl, rfl, rfl⟩, rfl, by rw [hone]; exact icRegister_putTableref s intno flag,
          hsame _ _, hread s⟩
      have hset := hdecide bus _ (hchannel true)
      have hclear := hdecide bus _ (hchannel false)
      exact absurd (hset.trans hclear.symm) hne
  · rintro hcond bus s' ⟨-, hbases, hintbp, hregister, hword, hread⟩
    cases hrint : issetRint s.cpu with
    | true =>
      rw [handlerAddr_of_rint hrint, handlerAddr_of_rint (hbases.issetRint_eq.trans hrint)]
      exact congrArg some (baseHandlerAddr_congr hbases fun _ => rfl)
    | false =>
      have hzero : s.cpu.coreId = 0 := by
        rcases hcond with hset | hzero
        · exact absurd (hrint.symm.trans hset) Bool.false_ne_true
        · exact hzero
      have hrint' := hbases.issetRint_eq.trans hrint
      -- the register of core 0 is the one that is read
      rw [hzero] at hregister
      have hdata : deviceGetData16 s'.intc (icAddress intno) =
          deviceGetData16 s.intc (icAddress intno) := hregister
      have htable : intcIsDevsettingTableref s'.intc intno =
          intcIsDevsettingTableref s.intc intno := by
        unfold intcIsDevsettingTableref
        rw [hdata]
      cases hset : intcIsDevsettingTableref s.intc intno with
      | true =>
        obtain ⟨word, hsome⟩ := Option.ne_none_iff_exists'.mp hread
        rw [handlerAddr_of_table hrint hset hsome,
          handlerAddr_of_table hrint' (htable.trans hset) (hword.trans hsome)]
      | false =>
        rw [handlerAddr_of_direct hrint hset, handlerAddr_of_direct hrint' (htable.trans hset)]
        refine congrArg some (baseHandlerAddr_congr hbases fun _ => ?_)
        unfold userHandlerOffset intcGetUserIntrPriorityDegree
        rw [hdata]

/-- `IC0` is written after reset, and a privileged instruction raises `PIE`. -/
def pieAfter (data : HalfWord) : CpuState Unit :=
  { resetState with
    toCpuIntc := intcRaiseException 0 .pie
      (intcPutData16 0 0xFFFEEA00 data resetState.toCpuIntc).2 }

/-- With `RINT` set, `TB` of `IC0` makes no difference to `PIE`; on core 0 a channel
has its own registers anyway. -/
theorem handlerAddr_exact_pie :
    let s := pieAfter 0xCF
    BasesDecide .pie 0 { s with cpu := s.cpu.setSysreg2 .rbase 1 } ∧ OwnRegistersDecide 0 s := by
  refine ⟨((handlerAddr_exact _).1 .pie 0 (by decide)).mpr ?_,
    ((handlerAddr_exact _).2 0).mpr (Or.inr rfl)⟩
  decide +kernel

/-- With `TB` of `IC0` clear the handler of `PIE` starts at its offset; with `TB`
set the emulator stops in the clock that would start it. -/
theorem pie_stops_at_table :
    SameBases (pieAfter 0x8F).cpu (pieAfter 0xCF).cpu ∧
      handlerAddr (constBus 0x1234) (pieAfter 0x8F) .pie 0 = some 0xA0 ∧
      supplyClockReturns (constBus 0x1234) 0 (pieAfter 0x8F) = true ∧
      handlerAddr (constBus 0x1234) (pieAfter 0xCF) .pie 0 = none ∧
      supplyClockReturns (constBus 0x1234) 0 (pieAfter 0xCF) = false ∧
      ¬ BasesDecide .pie 0 (pieAfter 0x8F) := by
  obtain ⟨⟨hebv, hrbase, hebase⟩, hdirect, hreturns, htable, hstops⟩ :
      ((pieAfter 0xCF).cpu.issetEBV = (pieAfter 0x8F).cpu.issetEBV ∧
        (pieAfter 0xCF).cpu.getSysreg2 .rbase = (pieAfter 0x8F).cpu.getSysreg2 .rbase ∧
        (pieAfter 0xCF).cpu.getSysreg2 .ebase = (pieAfter 0x8F).cpu.getSysreg2 .ebase) ∧
      handlerAddr (constBus 0x1234) (pieAfter 0x8F) .pie 0 = some 0xA0 ∧
        supplyClockReturns (constBus 0x1234) 0 (pieAfter 0x8F) = true ∧
        handlerAddr (constBus 0x1234) (pieAfter 0xCF) .pie 0 = none ∧
        supplyClockReturns (constBus 0x1234) 0 (pieAfter 0xCF) = false := by
    decide +kernel
  have hbases : SameBases (pieAfter 0x8F).cpu (pieAfter 0xCF).cpu := ⟨hebv, hrbase, hebase⟩
  refine ⟨hbases, hdirect, hreturns, htable, hstops, fun h => ?_⟩
  have hsame := h (constBus 0x1234) _ hbases
  rw [htable, hdirect] at hsame
  cases hsame

end Athrill
