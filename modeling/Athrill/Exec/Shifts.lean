import Athrill.Exec.Compute
import Athrill.Exec.Logic
import Athrill.Lib.Shifts

/-!
# Shifts

Nine executors for `SHL`, `SHR` and `SAR`: by an immediate, by a register, and
into a third register.  The forms with two operands do what a shift should.
Those with three take `Z` and `S` from `reg2`, and the one of `SAR` shifts in no
sign.

* `ShiftKind`: the result and the last bit shifted out.
* `ShiftInstr`: the encodings.
* `ShiftCorrect`, `shift_exact`: when an encoding is right.
-/

namespace Athrill

open TargetCore Routine

namespace Exec

variable {D : Type}

/-! ## The shifts -/

inductive ShiftKind where
  | shl | shr | sar

namespace ShiftKind

/-- The shifted value. -/
def result (value : Word) (count : Nat) : ShiftKind → Word
  | shl => value <<< count
  | shr => value >>> count
  | sar => value.sshiftRight count

/-- The last bit that is shifted out; none for a zero shift. -/
def lastOut (value : Word) (count : Nat) : ShiftKind → Bool
  | shl => decide (0 < count) && value.getLsbD (32 - count)
  | shr | sar => decide (0 < count) && value.getLsbD (count - 1)

end ShiftKind

/-- The encodings of the shifts. -/
inductive ShiftInstr where
  | format2 (kind : ShiftKind) (d : OpCodeFormatType2)
  | format9 (kind : ShiftKind) (d : OpCodeFormatType9)
  | format11 (kind : ShiftKind) (d : OpCodeFormatType11)

namespace ShiftInstr

def exec : ShiftInstr → Exec D Unit
  | format2 .shl d => opExecShl2 d
  | format2 .shr d => opExecShr2 d
  | format2 .sar d => opExecSar2 d
  | format9 .shl d => opExecShl9 d
  | format9 .shr d => opExecShr9 d
  | format9 .sar d => opExecSar9 d
  | format11 .shl d => opExecShl11 d
  | format11 .shr d => opExecShr11 d
  | format11 .sar d => opExecSar11 d

def kind : ShiftInstr → ShiftKind
  | format2 kind _ | format9 kind _ | format11 kind _ => kind

/-- The value that is shifted. -/
def value (cpu : TargetCore) : ShiftInstr → Word
  | format2 _ d => cpu.reg d.reg2
  | format9 _ d => cpu.reg d.reg2
  | format11 _ d => cpu.reg d.reg2

/-- The shift amount: the low five bits of the immediate or of the register. -/
def count (cpu : TargetCore) : ShiftInstr → Nat
  | format2 _ d => d.imm.toNat % 32
  | format9 _ d => (cpu.reg d.gen).toNat % 32
  | format11 _ d => (cpu.reg d.reg1).toNat % 32

/-- The register of the result. -/
def dest : ShiftInstr → HalfWord
  | format2 _ d => d.reg2
  | format9 _ d => d.reg2
  | format11 _ d => d.reg3

/-- The registers exist. -/
def Valid : ShiftInstr → Prop
  | format2 _ d => d.reg2.toNat < 32
  | format9 _ d => d.gen.toNat < 32 ∧ d.reg2.toNat < 32
  | format11 _ d => d.reg1.toNat < 32 ∧ d.reg2.toNat < 32 ∧ d.reg3.toNat < 32

def len : ShiftInstr → Word
  | format2 _ _ => 2
  | _ => 4

/-- The word that the executor puts in the destination. -/
def written (cpu : TargetCore) (i : ShiftInstr) : Word :=
  match i with
  | format11 .sar _ => (i.value cpu) >>> i.count cpu
  | _ => i.kind.result (i.value cpu) (i.count cpu)

/-- The word that the executor takes `Z` and `S` from. -/
def flagData (cpu : TargetCore) (i : ShiftInstr) : Word :=
  match i with
  | format11 _ d => if d.reg2 = d.reg3 then i.written cpu else i.value cpu
  | _ => i.written cpu

end ShiftInstr

/-! ## Runs -/

/-- The flags that a shift leaves. -/
def shiftFlags (cy : Bool) (flagData : Word) (cpu : TargetCore) : TargetCore :=
  (((cpu.writePsw pswOV false).writePsw pswCY cy).writePsw pswZ
    (decide (flagData = 0))).writePsw pswS flagData.msb

section ShiftFlags

variable (cy : Bool) (flagData : Word) (cpu : TargetCore)

theorem r_shiftFlags : (shiftFlags cy flagData cpu).r = cpu.r := by
  unfold shiftFlags
  simp only [r_writePsw]

theorem ov_shiftFlags : (shiftFlags cy flagData cpu).issetPsw pswOV = false := by
  unfold shiftFlags
  rw [issetPsw_writePsw_of_ne (by decide), issetPsw_writePsw_of_ne (by decide),
    issetPsw_writePsw_of_ne (by decide), issetPsw_writePsw_self (by decide)]

theorem cy_shiftFlags : (shiftFlags cy flagData cpu).issetPsw pswCY = cy := by
  unfold shiftFlags
  rw [issetPsw_writePsw_of_ne (by decide), issetPsw_writePsw_of_ne (by decide),
    issetPsw_writePsw_self (by decide)]

theorem z_shiftFlags :
    (shiftFlags cy flagData cpu).issetPsw pswZ = decide (flagData = 0) := by
  unfold shiftFlags
  rw [issetPsw_writePsw_of_ne (by decide), issetPsw_writePsw_self (by decide)]

theorem s_shiftFlags : (shiftFlags cy flagData cpu).issetPsw pswS = flagData.msb := by
  unfold shiftFlags
  rw [issetPsw_writePsw_self (by decide)]

end ShiftFlags

theorem toNat_immZeroExtend (imm : Word) :
    (opFormat2ImmZeroExtend imm).toNat = imm.toNat % 32 := by
  have hmask : ~~~(BitVec.allOnes 32 <<< 5) = (31 : Word) := by decide
  unfold opFormat2ImmZeroExtend opZeroExtend
  rw [hmask, BitVec.toNat_and]
  exact Nat.and_two_pow_sub_one_eq_mod imm.toNat 5

theorem toNat_lowFive (x : Word) : (x &&& 0x1F).toNat = x.toNat % 32 := by
  rw [BitVec.toNat_and]
  exact Nat.and_two_pow_sub_one_eq_mod x.toNat 5

section Run

variable (sh : Shift D) {lastOut : Word → Nat → Bool} (s : CpuState D)
include sh

theorem run_shift2 (hcarry : sh.carry = fun data count => setCY (lastOut data count))
    {d : OpCodeFormatType2} (h2 : d.reg2.toNat < 32) :
    (opExecShift2 sh d).run s =
      (.ok (), after s
        (Function.update s.cpu.r ⟨_, h2⟩ (sh.shift (s.cpu.reg d.reg2) (d.imm.toNat % 32)))
        (shiftFlags (lastOut (s.cpu.reg d.reg2) (d.imm.toNat % 32))
          (sh.shift (s.cpu.reg d.reg2) (d.imm.toNat % 32))) 2) := by
  unfold opExecShift2
  rw [run_bind, run_checkReg h2, andThen_ok, run_bind, run_getR h2, andThen_ok, ← reg_of_lt h2,
    toNat_immZeroExtend, hcarry]
  show (setR _ _ >>= fun _ => _).run s = _
  rw [run_bind, run_setR h2, andThen_ok]
  rfl

theorem run_shift9 (hcarry : sh.carry = fun data count => setCY (lastOut data count))
    {d : OpCodeFormatType9} (h1 : d.gen.toNat < 32) (h2 : d.reg2.toNat < 32) :
    (opExecShift9 sh d).run s =
      (.ok (), after s
        (Function.update s.cpu.r ⟨_, h2⟩
          (sh.shift (s.cpu.reg d.reg2) ((s.cpu.reg d.gen).toNat % 32)))
        (shiftFlags (lastOut (s.cpu.reg d.reg2) ((s.cpu.reg d.gen).toNat % 32))
          (sh.shift (s.cpu.reg d.reg2) ((s.cpu.reg d.gen).toNat % 32))) 4) := by
  unfold opExecShift9
  rw [run_bind, run_checkReg h1, andThen_ok, run_bind, run_checkReg h2, andThen_ok, run_bind,
    run_getR h2, andThen_ok, run_bind, run_getR h1, andThen_ok, ← reg_of_lt h2, ← reg_of_lt h1,
    toNat_lowFive, hcarry]
  show (setR _ _ >>= fun _ => _).run s = _
  rw [run_bind, run_setR h2, andThen_ok]
  rfl

theorem run_shift11 (hcarry : sh.carry = fun data count => setCY (lastOut data count))
    {d : OpCodeFormatType11} (h1 : d.reg1.toNat < 32) (h2 : d.reg2.toNat < 32)
    (h3 : d.reg3.toNat < 32) :
    (opExecShift11 sh d).run s =
      (.ok (), after s
        (Function.update s.cpu.r ⟨_, h3⟩
          (sh.shift (s.cpu.reg d.reg2) ((s.cpu.reg d.reg1).toNat % 32)))
        (shiftFlags (lastOut (s.cpu.reg d.reg2) ((s.cpu.reg d.reg1).toNat % 32))
          (if d.reg2 = d.reg3 then sh.shift (s.cpu.reg d.reg2) ((s.cpu.reg d.reg1).toNat % 32)
            else s.cpu.reg d.reg2)) 4) := by
  obtain ⟨result, hresult⟩ :
      ∃ x, sh.shift (s.cpu.reg d.reg2) ((s.cpu.reg d.reg1).toNat % 32) = x := ⟨_, rfl⟩
  have hflag : ({ s.cpu with r := Function.update s.cpu.r ⟨_, h3⟩ result } : TargetCore).reg
      d.reg2 = if d.reg2 = d.reg3 then result else s.cpu.reg d.reg2 :=
    reg_update h3 rfl d.reg2
  rw [reg_of_lt h2] at hflag
  unfold opExecShift11
  rw [run_bind, run_checkReg h1, andThen_ok, run_bind, run_checkReg h2, andThen_ok, run_bind,
    run_checkReg h3, andThen_ok, run_bind, run_getR h2, andThen_ok, run_bind, run_getR h1,
    andThen_ok, ← reg_of_lt h2, ← reg_of_lt h1, toNat_lowFive, hcarry]
  show (setR _ _ >>= fun _ => _).run s = _
  rw [hresult, run_bind, run_setR h3, andThen_ok, run_bind]
  unfold setOV setCY
  rw [run_putPsw, andThen_ok, run_bind, run_putPsw, andThen_ok, run_bind, run_getR h2, andThen_ok,
    r_writePsw, r_writePsw, hflag]
  rfl

end Run

namespace ShiftInstr

theorem run_exec {i : ShiftInstr} (hvalid : i.Valid) (s : CpuState D) :
    ∃ hdest : i.dest.toNat < 32, i.exec.run s =
      (.ok (), after s (Function.update s.cpu.r ⟨_, hdest⟩ (i.written s.cpu))
        (shiftFlags (i.kind.lastOut (i.value s.cpu) (i.count s.cpu)) (i.flagData s.cpu))
        i.len) := by
  cases i with
  | format2 kind d =>
    refine ⟨hvalid, ?_⟩
    cases kind with
    | shl => exact run_shift2 shl s rfl hvalid
    | shr => exact run_shift2 shr s rfl hvalid
    | sar => exact run_shift2 sar s rfl hvalid
  | format9 kind d =>
    obtain ⟨h1, h2⟩ := hvalid
    refine ⟨h2, ?_⟩
    cases kind with
    | shl => exact run_shift9 shl s rfl h1 h2
    | shr => exact run_shift9 shr s rfl h1 h2
    | sar => exact run_shift9 sar s rfl h1 h2
  | format11 kind d =>
    obtain ⟨h1, h2, h3⟩ := hvalid
    refine ⟨h3, ?_⟩
    cases kind with
    | shl => exact run_shift11 shl s rfl h1 h2 h3
    | shr => exact run_shift11 shr s rfl h1 h2 h3
    | sar => exact run_shift11 shr s rfl h1 h2 h3

end ShiftInstr

/-! ## Correctness -/

/-- A shift does what it should, whichever its form. -/
def ShiftCorrect (i : ShiftInstr) (s : CpuState D) : Prop :=
  ∃ s', i.exec.run s = (.ok (), s') ∧
    (∀ n, s'.cpu.reg n =
      if n = i.dest then i.kind.result (i.value s.cpu) (i.count s.cpu) else s.cpu.reg n) ∧
    s'.cpu.issetPsw pswZ = decide (i.kind.result (i.value s.cpu) (i.count s.cpu) = 0) ∧
    s'.cpu.issetPsw pswS = (i.kind.result (i.value s.cpu) (i.count s.cpu)).msb ∧
    s'.cpu.issetPsw pswOV = false ∧
    s'.cpu.issetPsw pswCY = i.kind.lastOut (i.value s.cpu) (i.count s.cpu)

namespace ShiftInstr

/-- The inputs for which the three-operand forms agree with the others, for
`value` shifted by `count`.  With `reg3` apart from `reg2`, the value and the
result are both zero or both not, and have the same sign. -/
def Agrees (cpu : TargetCore) (i : ShiftInstr) : Prop :=
  match i with
  | format2 _ _ | format9 _ _ => True
  | format11 .shl d => d.reg2 = d.reg3 ∨
      ((i.value cpu = 0 ∨ (i.value cpu).toNat % 2 ^ (32 - i.count cpu) ≠ 0) ∧
        (i.value cpu).msb = (i.value cpu).getLsbD (31 - i.count cpu))
  | format11 .shr d => d.reg2 = d.reg3 ∨
      ((i.value cpu = 0 ∨ 2 ^ i.count cpu ≤ (i.value cpu).toNat) ∧
        ((i.value cpu).msb = false ∨ i.count cpu = 0))
  | format11 .sar d => ((i.value cpu).msb = false ∨ i.count cpu = 0) ∧
      (d.reg2 = d.reg3 ∨ i.value cpu = 0 ∨ 2 ^ i.count cpu ≤ (i.value cpu).toNat)

theorem count_lt (i : ShiftInstr) (cpu : TargetCore) : i.count cpu < 32 := by
  cases i with
  | format2 _ d => exact Nat.mod_lt _ (by omega)
  | format9 _ d => exact Nat.mod_lt _ (by omega)
  | format11 _ d => exact Nat.mod_lt _ (by omega)

/-- The executor writes the right result and takes the flags from a word with
the right zero and sign. -/
def Faithful (cpu : TargetCore) (i : ShiftInstr) : Prop :=
  i.written cpu = i.kind.result (i.value cpu) (i.count cpu) ∧
    (i.flagData cpu = 0 ↔ i.kind.result (i.value cpu) (i.count cpu) = 0) ∧
    (i.flagData cpu).msb = (i.kind.result (i.value cpu) (i.count cpu)).msb

end ShiftInstr

theorem shiftCorrect_iff {i : ShiftInstr} (hvalid : i.Valid) (s : CpuState D) :
    ShiftCorrect i s ↔ i.Faithful s.cpu := by
  obtain ⟨hdest, hrun⟩ := ShiftInstr.run_exec hvalid s
  have hreg := fun n => reg_after s i.len hdest (i.written s.cpu)
    (r_shiftFlags (i.kind.lastOut (i.value s.cpu) (i.count s.cpu)) (i.flagData s.cpu)) n
  constructor
  · rintro ⟨s', hrun', hregs, hz, hs, -, -⟩
    rw [hrun] at hrun'
    cases hrun'
    have hresult := hregs i.dest
    rw [hreg, if_pos rfl, if_pos rfl] at hresult
    rw [issetPsw_after, z_shiftFlags, decide_eq_decide] at hz
    rw [issetPsw_after, s_shiftFlags] at hs
    exact ⟨hresult, hz, hs⟩
  · rintro ⟨hresult, hz, hs⟩
    refine ⟨_, hrun, ?_, ?_, ?_, ?_, ?_⟩
    · intro n
      rw [hreg, hresult]
    · rw [issetPsw_after, z_shiftFlags, decide_eq_decide]
      exact hz
    · rw [issetPsw_after, s_shiftFlags]
      exact hs
    · rw [issetPsw_after, ov_shiftFlags]
    · rw [issetPsw_after, cy_shiftFlags]

/-! ### The condition on the operands -/

/-- A value and its zero or non-zero shift. -/
theorem zero_agrees_iff {value shifted : Word} {P : Prop} (hzero : value = 0 → shifted = 0)
    (hP : shifted = 0 ↔ ¬ P) : (value = 0 ↔ shifted = 0) ↔ value = 0 ∨ P := by
  constructor
  · intro h
    by_cases hp : P
    · exact Or.inr hp
    · exact Or.inl (h.mpr (hP.mpr hp))
  · rintro (hvalue | hp)
    · exact ⟨fun _ => hzero hvalue, fun _ => hvalue⟩
    · exact ⟨hzero, fun h => absurd hp (hP.mp h)⟩

theorem shl_zero_iff (value : Word) {count : Nat} (hcount : count < 32) :
    (value = 0 ↔ value <<< count = 0) ↔ value = 0 ∨ value.toNat % 2 ^ (32 - count) ≠ 0 := by
  refine zero_agrees_iff ?_ ?_
  · rintro rfl
    exact BitVec.zero_shiftLeft count
  · rw [not_not]
    exact Shifts.shiftLeft_eq_zero_iff value (Nat.le_of_lt hcount)

theorem shr_zero_iff (value : Word) (count : Nat) :
    (value = 0 ↔ value >>> count = 0) ↔ value = 0 ∨ 2 ^ count ≤ value.toNat := by
  refine zero_agrees_iff ?_ ?_
  · rintro rfl
    exact BitVec.zero_ushiftRight
  · rw [Nat.not_le]
    exact Shifts.ushiftRight_eq_zero_iff value count

section Flags

variable (same : Prop) [Decidable same] (value : Word) {count : Nat}

/-- Flags from the shifted value, or from the value itself. -/
theorem shl_flags_iff (hcount : count < 32) :
    (((if same then value <<< count else value) = 0 ↔ value <<< count = 0) ∧
        (if same then value <<< count else value).msb = (value <<< count).msb) ↔
      same ∨ ((value = 0 ∨ value.toNat % 2 ^ (32 - count) ≠ 0) ∧
        value.msb = value.getLsbD (31 - count)) := by
  by_cases hsame : same
  · rw [if_pos hsame]
    exact ⟨fun _ => Or.inl hsame, fun _ => ⟨Iff.rfl, rfl⟩⟩
  · rw [if_neg hsame, shl_zero_iff value hcount, Shifts.msb_shiftLeft value hcount]
    exact (or_iff_right hsame).symm

theorem shr_flags_iff :
    (((if same then value >>> count else value) = 0 ↔ value >>> count = 0) ∧
        (if same then value >>> count else value).msb = (value >>> count).msb) ↔
      same ∨ ((value = 0 ∨ 2 ^ count ≤ value.toNat) ∧ (value.msb = false ∨ count = 0)) := by
  by_cases hsame : same
  · rw [if_pos hsame]
    exact ⟨fun _ => Or.inl hsame, fun _ => ⟨Iff.rfl, rfl⟩⟩
  · rw [if_neg hsame, shr_zero_iff value count, eq_comm (a := value.msb),
      Shifts.msb_ushiftRight_eq_msb_iff value count]
    exact (or_iff_right hsame).symm

/-- The logical shift and its flags in place of the arithmetic shift. -/
theorem sar_flags_iff (hcount : count < 32) :
    (value >>> count = value.sshiftRight count ∧
        ((if same then value >>> count else value) = 0 ↔ value.sshiftRight count = 0) ∧
        (if same then value >>> count else value).msb = (value.sshiftRight count).msb) ↔
      (value.msb = false ∨ count = 0) ∧
        (same ∨ value = 0 ∨ 2 ^ count ≤ value.toNat) := by
  have hresult := Shifts.ushiftRight_eq_sshiftRight_iff value hcount
  constructor
  · rintro ⟨heq, hflags⟩
    rw [← heq, shr_flags_iff same value] at hflags
    exact ⟨hresult.mp heq, hflags.imp id And.left⟩
  · rintro ⟨hsign, hzero⟩
    have heq := hresult.mpr hsign
    rw [← heq, shr_flags_iff same value]
    exact ⟨rfl, hzero.imp id fun h => ⟨h, hsign⟩⟩

end Flags

/-- A shift is right if and only if it has two operands, or its operands are
among those for which the flags of `reg2` are those of the result and no sign
has to be filled in. -/
theorem shift_exact {i : ShiftInstr} (hvalid : i.Valid) (s : CpuState D) :
    ShiftCorrect i s ↔ i.Agrees s.cpu := by
  rw [shiftCorrect_iff hvalid]
  have hcount := i.count_lt s.cpu
  cases i with
  | format2 kind d => exact ⟨fun _ => trivial, fun _ => ⟨rfl, Iff.rfl, rfl⟩⟩
  | format9 kind d => exact ⟨fun _ => trivial, fun _ => ⟨rfl, Iff.rfl, rfl⟩⟩
  | format11 kind d =>
    cases kind with
    | shl => exact (and_iff_right rfl).trans (shl_flags_iff (d.reg2 = d.reg3) _ hcount)
    | shr => exact (and_iff_right rfl).trans (shr_flags_iff (d.reg2 = d.reg3) _)
    | sar => exact sar_flags_iff (d.reg2 = d.reg3) _ hcount

/-- `SHL r1, r2, r3` by 4. -/
theorem shift_exact_four :
    ShiftCorrect (.format11 .shl ⟨0, 1, 2, 3, 0, 0, 0⟩) (operandState 4 0x01234567) := by
  refine (shift_exact (i := .format11 .shl ⟨0, 1, 2, 3, 0, 0, 0⟩)
    ⟨by decide, by decide, by decide⟩ (operandState 4 0x01234567)).mpr (Or.inr ⟨Or.inr ?_, ?_⟩)
  · decide
  · decide

/-- The machine after reset with 1 in `r1` and `0x80000000` in `r2`. -/
def signState : CpuState Unit := operandState 1 0x80000000

/-- `SAR r1, r2, r3` fills in a zero, and `SHL r1, r2, r3` leaves `Z` clear on a
zero result. -/
theorem shifts_differ :
    ¬ ShiftCorrect (.format11 .sar ⟨0, 1, 2, 3, 0, 0, 0⟩) signState ∧
      ¬ ShiftCorrect (.format11 .shl ⟨0, 1, 2, 3, 0, 0, 0⟩) signState := by
  refine ⟨?_, ?_⟩
  · rintro ⟨s', hrun, hreg, -⟩
    have hs' : s' = ((ShiftInstr.format11 .sar ⟨0, 1, 2, 3, 0, 0, 0⟩).exec.run signState).2 := by
      rw [hrun]
    have hresult := hreg 3
    rw [hs'] at hresult
    revert hresult
    decide +kernel
  · rintro ⟨s', hrun, -, hz, -⟩
    have hs' : s' = ((ShiftInstr.format11 .shl ⟨0, 1, 2, 3, 0, 0, 0⟩).exec.run signState).2 := by
      rw [hrun]
    rw [hs'] at hz
    revert hz
    decide +kernel

end Exec

end Athrill
