import Athrill.Dec.Extended
import Athrill.Exec.Arithm
import Athrill.Exec.Compute
import Athrill.Exec.Displacement
import Athrill.Lib.Shifts

/-!
# ROTL

`ROTL` rotates a register by five bits of immediate or by the low five bits of a
register.  The executor shifts bit by bit, and in the second form it goes by the
whole register, not by its low five bits.

* `RotlForm`: the two encodings and their amounts.
* `run_rotl`: the loop rotates; past 32 passes the shift is undefined.
* `RotlCorrect`, `rotl_exact`: when a form is right.
-/

namespace Athrill

open TargetCore Routine

namespace Exec

variable {D : Type}

/-! ## The encodings -/

inductive RotlForm where
  | immediate | register

namespace RotlForm

/-- Bits 26 to 17. -/
def selector : RotlForm → Word
  | immediate => 0b0001100010
  | register => 0b0001100011

/-- The amount by which the executor rotates. -/
def amount (code : OpCode) (cpu : TargetCore) : RotlForm → Nat
  | immediate => (bits code 4 0 : HalfWord).toNat
  | register => (cpu.reg (bits code 4 0)).toNat

end RotlForm

section Decode

variable (code : OpCode)

/-- A field of five bits in a halfword and in a word. -/
theorem toNat_bits_word {hi lo : Nat} (hw : hi < lo + 16) :
    (bits code hi lo : Word).toNat = (bits code hi lo : HalfWord).toNat := by
  rw [← setWidth_bits code hw, BitVec.toNat_setWidth]
  have hlt := (bits code hi lo : HalfWord).isLt
  omega

theorem rotl_reg3 :
    ((opDecode7 code).disp >>> 10 &&& 0x1F).toNat = (bits code 31 27 : HalfWord).toNat := by
  rw [disp_opDecode7, bits_shift_mask code (n := 5) (by decide) (by omega) (by omega) (by omega)]
  exact toNat_bits_word code (by omega)

theorem rotl_chk : (opDecode7 code).disp &&& 0x03FF = bits code 26 17 := by
  have hslice : (bits code 31 17 : Word) >>> 0 &&& 0x03FF = bits code (17 + 0 + 10 - 1) (17 + 0) :=
    bits_shift_mask code (by decide) (by omega) (by omega) (by omega)
  rw [disp_opDecode7]
  rw [BitVec.ushiftRight_zero] at hslice
  exact hslice

theorem toNat_rotl_imm :
    (opZeroExtend 5 ((opDecode7 code).reg1.setWidth 32)).toNat =
      (bits code 4 0 : HalfWord).toNat := by
  have hlt : (bits code 4 0 : HalfWord).toNat < 32 := toNat_bits_lt code 4 0
  rw [reg1_opDecode7, opZeroExtend_eq, BitVec.toNat_setWidth, BitVec.toNat_setWidth,
    BitVec.toNat_setWidth]
  omega

end Decode

/-! ## Runs -/

/-- The flags that `ROTL` leaves. -/
def rotlFlags (amount : Nat) (result : Word) : List (Nat × Bool) :=
  [(pswCY, decide (0 < amount) && result.getLsbD 0), (pswOV, false), (pswS, result.msb),
    (pswZ, decide (result = 0))]

theorem rotlLoop_eq (value : Word) {amount : Nat} (hamount : amount ≤ 32) :
    rotlLoop value amount = value.rotateLeft amount :=
  Shifts.rotateIn_eq_rotateLeft value hamount

section Run

variable {form : RotlForm} {code : OpCode} (hform : (bits code 26 17 : Word) = form.selector)
  (s : CpuState D)
include hform

theorem run_rotl_amount :
    (if (opDecode7 code).disp &&& 0x03FF = 0b0001100010 then
      pure (opZeroExtend 5 ((opDecode7 code).reg1.setWidth 32)).toNat
    else if (opDecode7 code).disp &&& 0x03FF = 0b0001100011 then do
      let reg1 ← getR (opDecode7 code).reg1.toNat
      pure reg1.toNat
    else pure 0 : Exec D Nat).run s = (.ok (form.amount code s.cpu), s) := by
  have h1 : (bits code 4 0 : HalfWord).toNat < 32 := toNat_bits_lt code 4 0
  rw [rotl_chk, hform]
  cases form with
  | immediate =>
    have hsel : RotlForm.immediate.selector = 0b0001100010 := rfl
    rw [if_pos hsel, toNat_rotl_imm]
    rfl
  | register =>
    have hsel : RotlForm.register.selector = 0b0001100011 := rfl
    rw [if_neg (by decide), if_pos hsel, reg1_opDecode7, run_bind, run_getR h1, andThen_ok, ← reg_of_lt h1]
    rfl

theorem run_rotl (hamount : form.amount code s.cpu ≤ 32) :
    ∃ h3 : (bits code 31 27 : HalfWord).toNat < 32, (opExecRotl7 (opDecode7 code)).run s =
      (.ok (), after s
        (Function.update s.cpu.r ⟨_, h3⟩
          ((s.cpu.reg (bits code 15 11)).rotateLeft (form.amount code s.cpu)))
        (writeFlags (rotlFlags (form.amount code s.cpu)
          ((s.cpu.reg (bits code 15 11)).rotateLeft (form.amount code s.cpu)))) 4) := by
  have h2 : (bits code 15 11 : HalfWord).toNat < 32 := toNat_bits_lt code 15 11
  have h3 : (bits code 31 27 : HalfWord).toNat < 32 := toNat_bits_lt code 31 27
  refine ⟨h3, ?_⟩
  unfold opExecRotl7
  rw [reg2_opDecode7, rotl_reg3, run_bind, run_getR h2, andThen_ok, ← reg_of_lt h2, run_bind,
    run_rotl_amount hform, andThen_ok, if_neg (by omega), rotlLoop_eq _ hamount]
  show (setR _ _ >>= fun _ => _).run s = _
  rw [run_bind, run_setR h3, andThen_ok]
  rfl

/-- Past 32 passes the executor shifts by a negative count. -/
theorem run_rotl_undefined (hamount : 32 < form.amount code s.cpu) :
    (opExecRotl7 (opDecode7 code)).run s = (.error .undefined, s) := by
  have h2 : (bits code 15 11 : HalfWord).toNat < 32 := toNat_bits_lt code 15 11
  unfold opExecRotl7
  rw [reg2_opDecode7, run_bind, run_getR h2, andThen_ok, run_bind, run_rotl_amount hform,
    andThen_ok, if_pos hamount]
  rfl

end Run

section Outcome

variable {form : RotlForm} {code : OpCode} (hform : (bits code 26 17 : Word) = form.selector)
  {s s' : CpuState D} (hrun : (opExecRotl7 (opDecode7 code)).run s = (.ok (), s'))
include hform hrun

/-- A rotation that ends has an amount of at most 32. -/
theorem amount_le_of_run : form.amount code s.cpu ≤ 32 := by
  by_contra hlarge
  rw [run_rotl_undefined hform s (by omega)] at hrun
  cases hrun

theorem reg_rotl (n : HalfWord) :
    s'.cpu.reg n = if n = bits code 31 27 then
      (s.cpu.reg (bits code 15 11)).rotateLeft (form.amount code s.cpu) else s.cpu.reg n := by
  obtain ⟨h3, hafter⟩ := run_rotl hform s (amount_le_of_run hform hrun)
  rw [hafter] at hrun
  cases hrun
  exact reg_after s 4 h3 _ (r_writeFlags _) n

theorem issetPsw_rotl {bit : Nat} (hbit : bit < 32) :
    s'.cpu.issetPsw bit =
      ((rotlFlags (form.amount code s.cpu)
        ((s.cpu.reg (bits code 15 11)).rotateLeft (form.amount code s.cpu))).reverse.lookup
          bit).getD (s.cpu.issetPsw bit) := by
  obtain ⟨h3, hafter⟩ := run_rotl hform s (amount_le_of_run hform hrun)
  rw [hafter] at hrun
  cases hrun
  exact issetPsw_writeFlags _ _ hbit

end Outcome

/-! ## Correctness -/

/-- What `ROTL` promises of the state `s'` it leaves: alone, against the immediate
form, and followed by another rotation of its result. -/
structure RotlCorrect (form : RotlForm) (code : OpCode) (s s' : CpuState D) : Prop where
  rotated : ∀ n, s'.cpu.reg n = if n = bits code 31 27 then
    (s.cpu.reg (bits code 15 11)).rotateLeft (form.amount code s.cpu % 32) else s.cpu.reg n
  carry : s'.cpu.issetPsw pswCY = (decide (form.amount code s.cpu % 32 ≠ 0) &&
    (s'.cpu.reg (bits code 31 27)).getLsbD 0)
  overflow : s'.cpu.issetPsw pswOV = false
  sign : s'.cpu.issetPsw pswS = (s'.cpu.reg (bits code 31 27)).msb
  zero : s'.cpu.issetPsw pswZ = decide (s'.cpu.reg (bits code 31 27) = 0)
  agrees : ∀ (code' : OpCode) (t t' : CpuState D),
    (bits code' 26 17 : Word) = RotlForm.immediate.selector →
    RotlForm.immediate.amount code' t.cpu = form.amount code s.cpu % 32 →
    t.cpu.reg (bits code' 15 11) = s.cpu.reg (bits code 15 11) →
    (opExecRotl7 (opDecode7 code')).run t = (.ok (), t') →
    t'.cpu.reg (bits code' 31 27) = s'.cpu.reg (bits code 31 27) ∧
      ∀ bit ∈ [pswCY, pswOV, pswS, pswZ], t'.cpu.issetPsw bit = s'.cpu.issetPsw bit
  composes : ∀ (form' : RotlForm) (code' : OpCode) (t : CpuState D),
    (bits code' 26 17 : Word) = form'.selector →
    (bits code' 15 11 : HalfWord) = bits code 31 27 →
    (opExecRotl7 (opDecode7 code')).run s' = (.ok (), t) →
    t.cpu.reg (bits code' 31 27) = (s.cpu.reg (bits code 15 11)).rotateLeft
      ((form.amount code s.cpu + form'.amount code' s'.cpu) % 32)

namespace RotlForm

/-- The amounts on which the carry flag is right. -/
def InRange (form : RotlForm) (code : OpCode) (cpu : TargetCore) : Prop :=
  form.amount code cpu < 32 ∨
    (form.amount code cpu = 32 ∧ (cpu.reg (bits code 15 11)).getLsbD 0 = false)

end RotlForm

theorem rotateLeft_mod (value : Word) (n : Nat) : value.rotateLeft (n % 32) = value.rotateLeft n :=
  BitVec.rotateLeft_mod_eq_rotateLeft

/-- A zero rotation by 32 differs from one by 0 in the carry flag only. -/
theorem rotl_carry_iff (value : Word) {amount : Nat} (hamount : amount ≤ 32) :
    (decide (0 < amount) && (value.rotateLeft amount).getLsbD 0) =
        (decide (amount % 32 ≠ 0) && (value.rotateLeft amount).getLsbD 0) ↔
      amount < 32 ∨ (amount = 32 ∧ value.getLsbD 0 = false) := by
  by_cases hlt : amount < 32
  · have hpos : 0 < amount ↔ amount % 32 ≠ 0 := by omega
    rw [decide_eq_decide.mpr hpos]
    exact iff_of_true rfl (Or.inl hlt)
  · have heq : amount = 32 := by omega
    subst heq
    have hself : value.rotateLeft 32 = value := by
      rw [← rotateLeft_mod]
      exact (Shifts.rotateIn_eq_rotateLeft value (Nat.zero_le 32)).symm
    rw [hself]
    simp

theorem rotlCorrect_iff {form : RotlForm} {code : OpCode}
    (hform : (bits code 26 17 : Word) = form.selector) {s s' : CpuState D}
    (hrun : (opExecRotl7 (opDecode7 code)).run s = (.ok (), s')) :
    RotlCorrect form code s s' ↔ form.InRange code s.cpu := by
  have hamount := amount_le_of_run hform hrun
  have hcarry := rotl_carry_iff (s.cpu.reg (bits code 15 11)) hamount
  have hcy : s'.cpu.issetPsw pswCY = (decide (0 < form.amount code s.cpu) &&
      ((s.cpu.reg (bits code 15 11)).rotateLeft (form.amount code s.cpu)).getLsbD 0) :=
    issetPsw_rotl hform hrun (by decide)
  have hresult := reg_rotl hform hrun (bits code 31 27)
  rw [if_pos rfl] at hresult
  constructor
  · intro h
    refine hcarry.mp ?_
    rw [← hcy, h.carry, hresult]
  · intro hrange
    have hright := hcarry.mpr hrange
    exact
      { rotated := by
          intro n
          rw [reg_rotl hform hrun, rotateLeft_mod]
        carry := by rw [hcy, hright, hresult]
        overflow := issetPsw_rotl hform hrun (by decide)
        sign := by
          rw [hresult]
          exact issetPsw_rotl hform hrun (by decide)
        zero := by
          rw [hresult]
          exact issetPsw_rotl hform hrun (by decide)
        agrees := by
          intro code' t t' hform' hsame hvalue hrun'
          have hflags : rotlFlags (form.amount code s.cpu % 32)
              ((s.cpu.reg (bits code 15 11)).rotateLeft (form.amount code s.cpu % 32)) =
              rotlFlags (form.amount code s.cpu)
                ((s.cpu.reg (bits code 15 11)).rotateLeft (form.amount code s.cpu)) := by
            have hpos : 0 < form.amount code s.cpu % 32 ↔ form.amount code s.cpu % 32 ≠ 0 := by
              omega
            unfold rotlFlags
            rw [rotateLeft_mod, hright, decide_eq_decide.mpr hpos]
          constructor
          · rw [reg_rotl hform' hrun', if_pos rfl, hsame, hvalue, hresult, rotateLeft_mod]
          · intro bit hbit
            simp only [List.mem_cons, List.not_mem_nil, or_false] at hbit
            have h32 : bit < 32 := by
              rcases hbit with rfl | rfl | rfl | rfl <;> decide
            rw [issetPsw_rotl hform' hrun' h32, issetPsw_rotl hform hrun h32, hsame, hvalue, hflags]
            rcases hbit with rfl | rfl | rfl | rfl <;> rfl
        composes := by
          intro form' code' t hform' hsource hrun'
          rw [reg_rotl hform' hrun', if_pos rfl, hsource, hresult]
          exact Shifts.rotateLeft_rotateLeft _ _ _ }

/-- A rotation is right for amounts below 32, and for 32 if bit 0 is clear; the
immediate form only has these. -/
theorem rotl_exact {form : RotlForm} {code : OpCode}
    (hform : (bits code 26 17 : Word) = form.selector) (s : CpuState D) :
    (∃ s', (opExecRotl7 (opDecode7 code)).run s = (.ok (), s') ∧ RotlCorrect form code s s') ↔
      form.InRange code s.cpu := by
  constructor
  · rintro ⟨s', hrun, hcorrect⟩
    exact (rotlCorrect_iff hform hrun).mp hcorrect
  · intro hrange
    have hamount : form.amount code s.cpu ≤ 32 := by
      rcases hrange with h | h <;> omega
    obtain ⟨h3, hrun⟩ := run_rotl hform s hamount
    exact ⟨_, hrun, (rotlCorrect_iff hform hrun).mpr hrange⟩

/-- `ROTL r1, r2, r3`. -/
def rotlRegister : OpCode := fun n => [0x17E1, 0x18C6].getD n 0

theorem rotl_exact_five :
    ∃ s', (opExecRotl7 (opDecode7 rotlRegister)).run (operandState 5 0x80000001) =
        (.ok (), s') ∧
      RotlCorrect .register rotlRegister (operandState 5 0x80000001) s' :=
  (rotl_exact (show (bits rotlRegister 26 17 : Word) = RotlForm.register.selector by decide)
    (operandState 5 0x80000001)).mpr (Or.inl (by decide))

/-- The machine after reset with 32 in `r1` and 1 in `r2`. -/
def rotateState : CpuState Unit := operandState 32 1

/-- A rotation by 32 is a zero rotation, but it sets the carry flag. -/
theorem rotl_carry_at_32 :
    parseOptype rotlRegister = some ⟨.rotl_7, .format7⟩ ∧
      ¬ ∃ s', (opExecRotl7 (opDecode7 rotlRegister)).run rotateState = (.ok (), s') ∧
        RotlCorrect .register rotlRegister rotateState s' := by
  refine ⟨by decide +kernel, ?_⟩
  rintro ⟨s', hrun, hcorrect⟩
  have hs' : s' = ((opExecRotl7 (opDecode7 rotlRegister)).run rotateState).2 := by
    rw [hrun]
  have hcarry := hcorrect.carry
  rw [hs'] at hcarry
  revert hcarry
  decide +kernel

end Exec

end Athrill
