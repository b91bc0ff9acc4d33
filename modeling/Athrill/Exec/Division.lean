import Athrill.Exec.Compute
import Athrill.Lib.Division

/-!
# Division

The seven executors behind `DIV`, `DIVQ`, `DIVU`, `DIVQU`, `DIVH` and `DIVHU`.
Each tests the whole of `reg1` before it divides; the half-word forms divide by
the low half of `reg1`, and no signed form leaves out the quotient that does not
fit.

* `DivInstr`: the instructions, with what they test and what they divide by.
* `run_divides`, `run_zero`, `run_undefined`: the three ways they go.
* `DivCorrect`, `division_exact`: when a division is right.
-/

namespace Athrill

open TargetCore Routine

namespace Exec

variable {D : Type}

/-- The flags that a division leaves. -/
def quotientFlags (ov : Bool) (quotient : Word) (cpu : TargetCore) : TargetCore :=
  ((cpu.writePsw pswOV ov).writePsw pswZ (decide (quotient = 0))).writePsw pswS quotient.msb

section QuotientFlags

variable (ov : Bool) (quotient : Word) (cpu : TargetCore)

theorem r_quotientFlags : (quotientFlags ov quotient cpu).r = cpu.r := by
  unfold quotientFlags
  simp only [r_writePsw]

theorem ov_quotientFlags : (quotientFlags ov quotient cpu).issetPsw pswOV = ov := by
  unfold quotientFlags
  rw [issetPsw_writePsw_of_ne (by decide), issetPsw_writePsw_of_ne (by decide),
    issetPsw_writePsw_self (by decide)]

theorem z_quotientFlags :
    (quotientFlags ov quotient cpu).issetPsw pswZ = decide (quotient = 0) := by
  unfold quotientFlags
  rw [issetPsw_writePsw_of_ne (by decide), issetPsw_writePsw_self (by decide)]

theorem s_quotientFlags : (quotientFlags ov quotient cpu).issetPsw pswS = quotient.msb := by
  unfold quotientFlags
  rw [issetPsw_writePsw_self (by decide)]

end QuotientFlags

/-! ## The instructions -/

/-- The divisions with three registers. -/
inductive DivForm where
  | div | divq | divu | divqu | divh | divhu

namespace DivForm

/-- The executor; the table has `op_exec_div` for `DIVQ` too. -/
def exec (d : OpCodeFormatType11) : DivForm → Exec D Unit
  | div | divq => opExecDiv d
  | divu => opExecDivu d
  | divqu => opExecDivqu11 d
  | divh => opExecDivh11 d
  | divhu => opExecDivhu d

def signed : DivForm → Bool
  | div | divq | divh => true
  | divu | divqu | divhu => false

/-- The word that is divided by: the half-word forms extend the low half. -/
def divisor (reg1 : Word) : DivForm → Word
  | div | divq | divu | divqu => reg1
  | divh => signExtend16 reg1
  | divhu => (reg1.setWidth 16).setWidth 32

end DivForm

/-- The division instructions. -/
inductive DivInstr where
  | divh1 (d : OpCodeFormatType1)
  | format11 (form : DivForm) (d : OpCodeFormatType11)

namespace DivInstr

def exec : DivInstr → Exec D Unit
  | divh1 d => opExecDivh1 d
  | format11 form d => form.exec d

def reg1 : DivInstr → HalfWord
  | divh1 d => d.reg1
  | format11 _ d => d.reg1

/-- The dividend, and the register of the quotient. -/
def reg2 : DivInstr → HalfWord
  | divh1 d => d.reg2
  | format11 _ d => d.reg2

/-- The register of the remainder; format 1 writes none. -/
def reg3 : DivInstr → Option HalfWord
  | divh1 _ => none
  | format11 _ d => some d.reg3

def signed : DivInstr → Bool
  | divh1 _ => true
  | format11 form _ => form.signed

/-- The word that is divided by. -/
def divisor (cpu : TargetCore) : DivInstr → Word
  | divh1 d => signExtend16 (cpu.reg d.reg1)
  | format11 form d => form.divisor (cpu.reg d.reg1)

/-- A word as the instruction reads it. -/
def value (i : DivInstr) (x : Word) : Int :=
  if i.signed then x.toInt else x.toNat

/-- The quotient fits the register. -/
def Representable (cpu : TargetCore) (i : DivInstr) : Prop :=
  i.signed = true →
    ¬ Flags.OutOfRange 32 ((cpu.reg i.reg2).toInt.tdiv (i.divisor cpu).toInt)

/-- The registers exist, and the two results go to different ones. -/
structure Valid (i : DivInstr) : Prop where
  reg1 : i.reg1.toNat < 32
  reg2 : i.reg2.toNat < 32
  reg3 : ∀ n, i.reg3 = some n → n.toNat < 32 ∧ i.reg2 ≠ n

def len : DivInstr → Word
  | divh1 _ => 2
  | format11 _ _ => 4

def quotient (cpu : TargetCore) (i : DivInstr) : Word :=
  if i.signed then (cpu.reg i.reg2).sdiv (i.divisor cpu) else cpu.reg i.reg2 / i.divisor cpu

def remainder (cpu : TargetCore) (i : DivInstr) : Word :=
  if i.signed then (cpu.reg i.reg2).srem (i.divisor cpu) else cpu.reg i.reg2 % i.divisor cpu

/-- The host division has no defined value. -/
def Traps (cpu : TargetCore) (i : DivInstr) : Prop :=
  i.divisor cpu = 0 ∨
    (i.signed = true ∧ cpu.reg i.reg2 = BitVec.intMin 32 ∧ i.divisor cpu = -1)

theorem traps_iff (cpu : TargetCore) (i : DivInstr) :
    i.Traps cpu ↔ i.divisor cpu = 0 ∨ ¬ i.Representable cpu := by
  unfold Traps Representable
  rw [Division.outOfRange_tdiv_iff (by omega)]
  constructor
  · rintro (hzero | ⟨hsigned, hleast⟩)
    · exact Or.inl hzero
    · exact Or.inr fun h => h hsigned hleast
  · rintro (hzero | hnot)
    · exact Or.inl hzero
    · by_contra hne
      exact hnot fun hsigned hleast => hne (Or.inr ⟨hsigned, hleast⟩)

end DivInstr

/-! ## Runs -/

theorem run_defined_divSigned (a b : Word) (rest : Word → Exec D Unit) (s : CpuState D) :
    (defined (divSigned a b) >>= rest).run s =
      if b = 0 ∨ (a = BitVec.intMin 32 ∧ b = -1) then (.error .undefined, s)
      else (rest (a.sdiv b)).run s := by
  unfold divSigned
  by_cases htrap : b = 0 ∨ (a = BitVec.intMin 32 ∧ b = -1)
  · rw [if_pos htrap, if_pos htrap]
    rfl
  · rw [if_neg htrap, if_neg htrap]
    rfl

/-- The end of every division: the flags of the register `n`. -/
abbrev divTail (n : Nat) (len : Word) : Exec D Unit := do
  let result ← getR n
  opChkAndSetZero result
  opChkAndSetSign result
  addPc len

theorem run_divTail {n : HalfWord} (hn : n.toNat < 32) (len : Word) (ov : Bool)
    (r : Fin 32 → Word) (s : CpuState D) :
    (divTail n.toNat len).run { s with cpu := { s.cpu.writePsw pswOV ov with r := r } } =
      (.ok (), after s r (quotientFlags ov (r ⟨_, hn⟩)) len) := by
  unfold divTail
  rw [run_bind, run_getR hn, andThen_ok]
  cases ov with
  | false => rfl
  | true => rfl

/-- The ways a division goes. -/
inductive DivOutcome (i : DivInstr) (s : CpuState D) : Except Stop Unit × CpuState D → Prop where
  /-- the test finds a zero register -/
  | zero (htest : s.cpu.reg i.reg1 = 0) :
    DivOutcome i s (.ok (), after s s.cpu.r (quotientFlags true (s.cpu.reg i.reg2)) i.len)
  | trap (htest : s.cpu.reg i.reg1 ≠ 0) (htrap : i.Traps s.cpu) (s' : CpuState D) :
    DivOutcome i s (.error .undefined, s')
  | divides (htest : s.cpu.reg i.reg1 ≠ 0) (htrap : ¬ i.Traps s.cpu) (r : Fin 32 → Word)
    (hquot : ∀ h : i.reg2.toNat < 32, r ⟨_, h⟩ = i.quotient s.cpu)
    (hrem : ∀ n, i.reg3 = some n → ∀ h : n.toNat < 32, r ⟨_, h⟩ = i.remainder s.cpu) :
    DivOutcome i s (.ok (), after s r (quotientFlags false (i.quotient s.cpu)) i.len)

/-! ### Three registers -/

/-- The forms with three registers: `body` divides where `reg1` is not zero. -/
abbrev divShape (body : Word → Word → Exec D Unit) (d : OpCodeFormatType11) : Exec D Unit := do
  let reg1 ← getR d.reg1.toNat
  let reg2 ← getR d.reg2.toNat
  let _ ← getR d.reg3.toNat
  checkReg d.reg1.toNat
  checkReg d.reg2.toNat
  checkReg d.reg3.toNat
  (if reg1 = 0 then setOV true else body reg1 reg2)
  divTail d.reg2.toNat 4

section Shape

variable {d : OpCodeFormatType11}

theorem run_divShape (h1 : d.reg1.toNat < 32) (h2 : d.reg2.toNat < 32) (h3 : d.reg3.toNat < 32)
    (body : Word → Word → Exec D Unit) (s : CpuState D) :
    (divShape body d).run s =
      andThen (fun _ => divTail d.reg2.toNat 4)
        (if s.cpu.reg d.reg1 = 0 then (setOV true).run s
        else (body (s.cpu.reg d.reg1) (s.cpu.reg d.reg2)).run s) := by
  unfold divShape
  rw [run_bind, run_getR h1, andThen_ok, run_bind, run_getR h2, andThen_ok, run_bind, run_getR h3,
    andThen_ok, run_bind, run_checkReg h1, andThen_ok, run_bind, run_checkReg h2, andThen_ok,
    run_bind, run_checkReg h3, andThen_ok, ← reg_of_lt h1, ← reg_of_lt h2, run_bind, run_ite]

/-- The registers after the quotient and the remainder are written. -/
def divided (h2 : d.reg2.toNat < 32) (h3 : d.reg3.toNat < 32) (quotient remainder : Word)
    (r : Fin 32 → Word) : Fin 32 → Word :=
  Function.update (Function.update r ⟨_, h2⟩ quotient) ⟨_, h3⟩ remainder

theorem divided_reg2 {h2 : d.reg2.toNat < 32} {h3 : d.reg3.toNat < 32} (hne : d.reg2 ≠ d.reg3)
    (quotient remainder : Word) (r : Fin 32 → Word) :
    divided h2 h3 quotient remainder r ⟨_, h2⟩ = quotient := by
  have hfin : (⟨_, h2⟩ : Fin 32) ≠ ⟨_, h3⟩ := fun h =>
    hne (BitVec.eq_of_toNat_eq (Fin.mk.inj h))
  unfold divided
  rw [Function.update_of_ne hfin, Function.update_self]

theorem divided_reg3 {h2 : d.reg2.toNat < 32} {h3 : d.reg3.toNat < 32}
    (quotient remainder : Word) (r : Fin 32 → Word) :
    divided h2 h3 quotient remainder r ⟨_, h3⟩ = remainder :=
  Function.update_self _ _ _

/-- The forms with three registers, from what their bodies do. -/
theorem outcome_divShape {form : DivForm} {body : Word → Word → Exec D Unit}
    (h1 : d.reg1.toNat < 32) (h2 : d.reg2.toNat < 32) (h3 : d.reg3.toNat < 32)
    (hne : d.reg2 ≠ d.reg3) (s : CpuState D)
    (htrap : (DivInstr.format11 form d).Traps s.cpu →
      ∃ s', (body (s.cpu.reg d.reg1) (s.cpu.reg d.reg2)).run s = (.error .undefined, s'))
    (hdiv : ¬ (DivInstr.format11 form d).Traps s.cpu →
      (body (s.cpu.reg d.reg1) (s.cpu.reg d.reg2)).run s =
        (.ok (), { s with cpu := { s.cpu.writePsw pswOV false with
          r := divided h2 h3 ((DivInstr.format11 form d).quotient s.cpu)
            ((DivInstr.format11 form d).remainder s.cpu) s.cpu.r } })) :
    DivOutcome (.format11 form d) s ((divShape body d).run s) := by
  rw [run_divShape h1 h2 h3]
  by_cases htest : s.cpu.reg d.reg1 = 0
  · have hrun := run_divTail h2 4 true s.cpu.r s
    rw [← reg_of_lt h2] at hrun
    rw [if_pos htest]
    show DivOutcome _ s ((divTail d.reg2.toNat 4).run
      { s with cpu := { s.cpu.writePsw pswOV true with r := s.cpu.r } })
    rw [hrun]
    exact .zero htest
  · rw [if_neg htest]
    by_cases hhost : (DivInstr.format11 form d).Traps s.cpu
    · obtain ⟨s', hs'⟩ := htrap hhost
      rw [hs', andThen_error]
      exact .trap htest hhost s'
    · rw [hdiv hhost, andThen_ok, run_divTail h2, divided_reg2 hne]
      refine .divides htest hhost _ (fun _ => divided_reg2 hne _ _ _) ?_
      intro n hn _
      cases hn
      exact divided_reg3 _ _ _

theorem outcome_divUnsigned {form : DivForm} (hsigned : form.signed = false)
    (h1 : d.reg1.toNat < 32) (h2 : d.reg2.toNat < 32) (h3 : d.reg3.toNat < 32)
    (hne : d.reg2 ≠ d.reg3) (s : CpuState D) :
    DivOutcome (.format11 form d) s
      ((opExecDivUnsigned (fun reg1 => form.divisor reg1) d).run s) := by
  have htraps : (DivInstr.format11 form d).Traps s.cpu ↔ form.divisor (s.cpu.reg d.reg1) = 0 := by
    show _ ∨ (form.signed = true ∧ _) ↔ _
    rw [hsigned]
    simp [DivInstr.divisor]
  have hquot : (DivInstr.format11 form d).quotient s.cpu =
      s.cpu.reg d.reg2 / form.divisor (s.cpu.reg d.reg1) := by
    show (if form.signed = true then _ else _) = _
    rw [hsigned, if_neg Bool.false_ne_true]
    rfl
  have hrem : (DivInstr.format11 form d).remainder s.cpu =
      s.cpu.reg d.reg2 % form.divisor (s.cpu.reg d.reg1) := by
    show (if form.signed = true then _ else _) = _
    rw [hsigned, if_neg Bool.false_ne_true]
    rfl
  refine outcome_divShape h1 h2 h3 hne s ?_ ?_
  · intro hhost
    refine ⟨{ s with cpu := s.cpu.writePsw pswOV false }, ?_⟩
    show (if form.divisor (s.cpu.reg d.reg1) = 0 then undefined else _ : Exec D Unit).run _ = _
    rw [if_pos (htraps.mp hhost)]
    rfl
  · intro hhost
    rw [hquot, hrem]
    show (if form.divisor (s.cpu.reg d.reg1) = 0 then undefined else _ : Exec D Unit).run
      { s with cpu := s.cpu.writePsw pswOV false } = _
    rw [if_neg fun h => hhost (htraps.mpr h), run_bind, run_setR h2, andThen_ok, run_setR h3]
    rfl

/-- The signed forms write `OV` and go on to the host division. -/
theorem outcome_divSigned {form : DivForm} (hsigned : form.signed = true)
    (ov : Word → Word → Bool) (h1 : d.reg1.toNat < 32) (h2 : d.reg2.toNat < 32)
    (h3 : d.reg3.toNat < 32) (hne : d.reg2 ≠ d.reg3) (s : CpuState D)
    (hov : ¬ (DivInstr.format11 form d).Traps s.cpu →
      ov (s.cpu.reg d.reg1) (s.cpu.reg d.reg2) = false) :
    DivOutcome (.format11 form d) s
      ((divShape (fun reg1 reg2 => do
        setOV (ov reg1 reg2)
        let quot ← defined (divSigned reg2 (form.divisor reg1))
        setR d.reg2.toNat quot
        setR d.reg3.toNat (reg2.srem (form.divisor reg1))) d).run s) := by
  have htraps : (DivInstr.format11 form d).Traps s.cpu ↔
      form.divisor (s.cpu.reg d.reg1) = 0 ∨
        (s.cpu.reg d.reg2 = BitVec.intMin 32 ∧ form.divisor (s.cpu.reg d.reg1) = -1) := by
    show _ ∨ (form.signed = true ∧ _) ↔ _
    rw [hsigned]
    simp [DivInstr.divisor, DivInstr.reg2]
  have hquot : (DivInstr.format11 form d).quotient s.cpu =
      (s.cpu.reg d.reg2).sdiv (form.divisor (s.cpu.reg d.reg1)) := by
    show (if form.signed = true then _ else _) = _
    rw [hsigned, if_pos rfl]
    rfl
  have hrem : (DivInstr.format11 form d).remainder s.cpu =
      (s.cpu.reg d.reg2).srem (form.divisor (s.cpu.reg d.reg1)) := by
    show (if form.signed = true then _ else _) = _
    rw [hsigned, if_pos rfl]
    rfl
  refine outcome_divShape h1 h2 h3 hne s ?_ ?_
  · intro hhost
    obtain ⟨flag, hflag⟩ : ∃ flag, ov (s.cpu.reg d.reg1) (s.cpu.reg d.reg2) = flag := ⟨_, rfl⟩
    refine ⟨{ s with cpu := s.cpu.writePsw pswOV flag }, ?_⟩
    rw [run_bind]
    unfold setOV
    rw [run_putPsw, andThen_ok, run_defined_divSigned, if_pos (htraps.mp hhost), hflag]
  · intro hhost
    rw [hquot, hrem, hov hhost, run_bind]
    unfold setOV
    rw [run_putPsw, andThen_ok, run_defined_divSigned,
      if_neg fun h => hhost (htraps.mpr h), run_bind, run_setR h2, andThen_ok, run_setR h3]
    rfl

theorem outcome_format11 (form : DivForm) (h1 : d.reg1.toNat < 32) (h2 : d.reg2.toNat < 32)
    (h3 : d.reg3.toNat < 32) (hne : d.reg2 ≠ d.reg3) (s : CpuState D) :
    DivOutcome (.format11 form d) s ((form.exec d).run s) := by
  cases form with
  | div =>
    refine outcome_divSigned rfl (fun reg1 reg2 => decide (reg1 = -1 ∧ reg2 = 0x80000000))
      h1 h2 h3 hne s ?_
    intro hhost
    refine decide_eq_false ?_
    rintro ⟨hminus, hleast⟩
    exact hhost (Or.inr ⟨rfl, hleast, hminus⟩)
  | divq =>
    refine outcome_divSigned rfl (fun reg1 reg2 => decide (reg1 = -1 ∧ reg2 = 0x80000000))
      h1 h2 h3 hne s ?_
    intro hhost
    refine decide_eq_false ?_
    rintro ⟨hminus, hleast⟩
    exact hhost (Or.inr ⟨rfl, hleast, hminus⟩)
  | divh => exact outcome_divSigned rfl (fun _ _ => false) h1 h2 h3 hne s fun _ => rfl
  | divu => exact outcome_divUnsigned rfl h1 h2 h3 hne s
  | divqu => exact outcome_divUnsigned rfl h1 h2 h3 hne s
  | divhu => exact outcome_divUnsigned rfl h1 h2 h3 hne s

end Shape

/-! ### Two registers -/

theorem outcome_divh1 {d : OpCodeFormatType1} (h1 : d.reg1.toNat < 32) (h2 : d.reg2.toNat < 32)
    (s : CpuState D) : DivOutcome (.divh1 d) s ((opExecDivh1 d).run s) := by
  have hrun : (opExecDivh1 d).run s =
      andThen (fun _ => divTail d.reg2.toNat 2)
        ((if s.cpu.reg d.reg1 = 0 then setOV true else do
          setOV false
          let quot ← defined (divSigned (s.cpu.reg d.reg2) (signExtend16 (s.cpu.reg d.reg1)))
          setR d.reg2.toNat quot : Exec D Unit).run s) := by
    unfold opExecDivh1
    rw [run_bind, run_getR h1, andThen_ok, run_bind, run_getR h2, andThen_ok, run_bind,
      run_checkReg h1, andThen_ok, run_bind, run_checkReg h2, andThen_ok, ← reg_of_lt h1,
      ← reg_of_lt h2, run_bind]
  have htraps : (DivInstr.divh1 d).Traps s.cpu ↔
      signExtend16 (s.cpu.reg d.reg1) = 0 ∨
        (s.cpu.reg d.reg2 = BitVec.intMin 32 ∧ signExtend16 (s.cpu.reg d.reg1) = -1) := by
    simp [DivInstr.Traps, DivInstr.divisor, DivInstr.reg2, DivInstr.signed]
  rw [hrun]
  by_cases htest : s.cpu.reg d.reg1 = 0
  · have htail := run_divTail h2 2 true s.cpu.r s
    rw [← reg_of_lt h2] at htail
    rw [if_pos htest]
    show DivOutcome _ s ((divTail d.reg2.toNat 2).run
      { s with cpu := { s.cpu.writePsw pswOV true with r := s.cpu.r } })
    rw [htail]
    exact .zero htest
  · rw [if_neg htest, run_bind]
    unfold setOV
    rw [run_putPsw, andThen_ok, run_defined_divSigned]
    by_cases hhost : signExtend16 (s.cpu.reg d.reg1) = 0 ∨
        (s.cpu.reg d.reg2 = BitVec.intMin 32 ∧ signExtend16 (s.cpu.reg d.reg1) = -1)
    · rw [if_pos hhost, andThen_error]
      exact .trap htest (htraps.mpr hhost) _
    · rw [if_neg hhost, run_setR h2, andThen_ok]
      have htail := run_divTail h2 2 false
        (Function.update s.cpu.r ⟨_, h2⟩ ((DivInstr.divh1 d).quotient s.cpu)) s
      rw [Function.update_self] at htail
      show DivOutcome _ s ((divTail d.reg2.toNat 2).run { s with cpu :=
        { s.cpu.writePsw pswOV false with
          r := Function.update s.cpu.r ⟨_, h2⟩ ((DivInstr.divh1 d).quotient s.cpu) } })
      rw [htail]
      exact .divides htest (fun h => hhost (htraps.mp h)) _
        (fun _ => Function.update_self _ _ _) (fun _ hn => nomatch hn)

theorem divOutcome {i : DivInstr} (hvalid : i.Valid) (s : CpuState D) :
    DivOutcome i s (i.exec.run s) := by
  cases i with
  | divh1 d => exact outcome_divh1 hvalid.reg1 hvalid.reg2 s
  | format11 form d =>
    obtain ⟨h3, hne⟩ := hvalid.reg3 d.reg3 rfl
    exact outcome_format11 form hvalid.reg1 hvalid.reg2 h3 hne s

/-! ## Correctness -/

/-- A division does what it should: it never does an undefined host division,
divides where it can and sets `OV` where it cannot. -/
structure DivCorrect (i : DivInstr) (s : CpuState D) : Prop where
  no_trap : (i.exec.run s).1 ≠ .error .undefined
  divides : i.divisor s.cpu ≠ 0 → i.Representable s.cpu →
    ∃ s' remainder, i.exec.run s = (.ok (), s') ∧
      Division.Divides (i.value (s.cpu.reg i.reg2)) (i.value (i.divisor s.cpu))
        (i.value (s'.cpu.reg i.reg2)) (i.value remainder) ∧
      (∀ n, i.reg3 = some n → s'.cpu.reg n = remainder) ∧
      s'.cpu.issetPsw pswS = decide ((s'.cpu.reg i.reg2).toInt < 0) ∧
      s'.cpu.issetPsw pswZ = decide (s'.cpu.reg i.reg2 = 0) ∧
      s'.cpu.issetPsw pswOV = false
  overflow : i.divisor s.cpu = 0 ∨ ¬ i.Representable s.cpu →
    ∃ s', i.exec.run s = (.ok (), s') ∧ s'.cpu.issetPsw pswOV = true

/-- The quotient and the remainder of an instruction. -/
theorem divides_instr {i : DivInstr} {cpu : TargetCore} (htrap : ¬ i.Traps cpu) :
    Division.Divides (i.value (cpu.reg i.reg2)) (i.value (i.divisor cpu))
      (i.value (i.quotient cpu)) (i.value (i.remainder cpu)) := by
  have hne : i.divisor cpu ≠ 0 := fun h => htrap (Or.inl h)
  unfold DivInstr.value DivInstr.quotient DivInstr.remainder
  by_cases hsigned : i.signed = true
  · simp only [if_pos hsigned]
    exact Division.divides_signed hne fun h => htrap (Or.inr ⟨hsigned, h⟩)
  · simp only [if_neg hsigned]
    exact Division.divides_unsigned hne

/-- A zero register has a zero divisor. -/
theorem divisor_of_zero {i : DivInstr} {cpu : TargetCore} (htest : cpu.reg i.reg1 = 0) :
    i.divisor cpu = 0 := by
  cases i with
  | divh1 d =>
    show signExtend16 (cpu.reg d.reg1) = 0
    rw [show cpu.reg d.reg1 = 0 from htest]
    rfl
  | format11 form d =>
    show form.divisor (cpu.reg d.reg1) = 0
    rw [show cpu.reg d.reg1 = 0 from htest]
    cases form <;> rfl

/-- A division is right if and only if the whole of `reg1` is zero, or its
divisor is not zero and the quotient fits.  The tests of the half-word forms
look at the wrong operand, and `DIV` and `DIVQ` divide after they have set
`OV`. -/
theorem division_exact {i : DivInstr} (hvalid : i.Valid) (s : CpuState D) :
    DivCorrect i s ↔
      s.cpu.reg i.reg1 = 0 ∨ (i.divisor s.cpu ≠ 0 ∧ i.Representable s.cpu) := by
  have hiff := i.traps_iff s.cpu
  have houtcome := divOutcome hvalid s
  generalize hres : i.exec.run s = res at houtcome
  constructor
  · intro h
    by_contra hne
    have hpair := not_or.mp hne
    cases houtcome with
    | zero htest => exact hpair.1 htest
    | trap _ _ s' => exact h.no_trap (by rw [hres])
    | divides _ htrap =>
      refine hpair.2 ⟨fun hzero => htrap (Or.inl hzero), ?_⟩
      by_contra hrep
      exact htrap (hiff.mpr (Or.inr hrep))
  · intro h
    cases houtcome with
    | zero htest =>
      have hzero := divisor_of_zero htest
      exact
        { no_trap := by rw [hres]; exact fun h => nomatch h
          divides := fun hne => absurd hzero hne
          overflow := fun _ => ⟨_, hres, ov_quotientFlags _ _ _⟩ }
    | trap htest htrap =>
      rcases h with hzero | ⟨hne, hrep⟩
      · exact absurd hzero htest
      · rcases hiff.mp htrap with hzero | hnot
        · exact absurd hzero hne
        · exact absurd hrep hnot
    | divides htest htrap r hquot hrem =>
      have hreg2 : (after s r (quotientFlags false (i.quotient s.cpu)) i.len).cpu.reg i.reg2 =
          i.quotient s.cpu := by
        rw [reg_of_lt hvalid.reg2, r_after s r _ (r_quotientFlags _ _)]
        exact hquot hvalid.reg2
      exact
        { no_trap := by rw [hres]; exact fun h => nomatch h
          divides := by
            intro _ _
            refine ⟨_, i.remainder s.cpu, hres, ?_, ?_, ?_, ?_, ?_⟩
            · rw [hreg2]
              exact divides_instr htrap
            · intro n hn
              obtain ⟨h3, _⟩ := hvalid.reg3 n hn
              rw [reg_of_lt h3, r_after s r _ (r_quotientFlags _ _)]
              exact hrem n hn h3
            · rw [hreg2, issetPsw_after, s_quotientFlags, BitVec.msb_eq_toInt]
            · rw [hreg2, issetPsw_after, z_quotientFlags]
            · rw [issetPsw_after, ov_quotientFlags]
          overflow := fun hbad => absurd (hiff.mpr hbad) htrap }

/-- `DIV r1, r2, r3` and its relatives name registers that exist. -/
theorem valid_123 (form : DivForm) :
    (DivInstr.format11 form ⟨0, 1, 2, 3, 0, 0, 0⟩).Valid where
  reg1 := show (1 : HalfWord).toNat < 32 by decide
  reg2 := show (2 : HalfWord).toNat < 32 by decide
  reg3 n hn := by
    cases hn
    exact ⟨by decide, show (2 : HalfWord) ≠ 3 by decide⟩

/-- `DIV r1, r2, r3` divides -100 by 7. -/
theorem division_exact_negative :
    DivCorrect (.format11 .div ⟨0, 1, 2, 3, 0, 0, 0⟩) (operandState 7 (-100)) := by
  refine (division_exact (valid_123 .div) (operandState 7 (-100))).mpr (Or.inr ⟨?_, fun _ => ?_⟩)
  · decide
  · decide

/-- `DIVHU` divides by the low half of `0x00010000`, and `DIV` divides -2³¹ by -1. -/
theorem host_traps :
    ¬ DivCorrect (.format11 .divhu ⟨0, 1, 2, 3, 0, 0, 0⟩) (operandState 0x00010000 7) ∧
      ¬ DivCorrect (.format11 .div ⟨0, 1, 2, 3, 0, 0, 0⟩) (operandState (-1) 0x80000000) :=
  ⟨fun h => h.no_trap (by decide +kernel), fun h => h.no_trap (by decide +kernel)⟩

end Exec

end Athrill
