import Athrill.Dec.Extended
import Athrill.Exec.Compute
import Athrill.Exec.System

/-!
# The selector of LDSR and STSR

The selector is a field of five bits, the register file has eight groups.  The
executors test the register numbers and the permission, and index with the
selector as it is.

* `SysRegAccess`: the two instructions.
* `SelectorSafe`: no access outside the groups.
* `selector_exact`: when the access is safe.
-/

namespace Athrill

open TargetCore Routine

namespace Exec

variable {D : Type}

/-- Bits 31 to 27. -/
def selector (code : OpCode) : Nat :=
  (bits code 31 27 : HalfWord).toNat

inductive SysRegAccess where
  | ldsr | stsr

namespace SysRegAccess

def codeId : SysRegAccess → OpCodeId
  | ldsr => .ldsr_9
  | stsr => .stsr_9

def exec (code : OpCode) : SysRegAccess → Exec D Unit
  | ldsr => opExecLdsr (opDecode9 code)
  | stsr => opExecStsr (opDecode9 code)

/-- The number of the system register: bits 15 to 11 of `LDSR`, bits 4 to 0 of
`STSR`. -/
def regid (code : OpCode) : SysRegAccess → Nat
  | ldsr => (bits code 15 11 : HalfWord).toNat
  | stsr => (bits code 4 0 : HalfWord).toNat

/-- The access is permitted in the mode of the core. -/
def granted (code : OpCode) (cpu : TargetCore) (i : SysRegAccess) : Bool :=
  sysRegAccessHasPermission cpu (i.regid code) (selector code)

end SysRegAccess

/-- The access stays within the groups, and a selector without a group changes
nothing; at most it flags the exception of a denied access. -/
structure SelectorSafe (i : SysRegAccess) (code : OpCode) (s : CpuState D) : Prop where
  inside : ((i.exec code).run s).1 ≠ .error .undefined
  untouched : 8 ≤ selector code → ∃ raised, ((i.exec code).run s).2 =
    { s with cpu := { s.cpu with currentCodeException := raised } }

/-! ## Runs -/

section Run

variable (code : OpCode) (s : CpuState D)

theorem type9_fields :
    (opDecode9 code).gen = bits code 4 0 ∧ (opDecode9 code).reg2 = bits code 15 11 ∧
      (opDecode9 code).rfu2 = bits code 31 27 := by
  rw [type9_opDecode9]
  exact ⟨rfl, rfl, rfl⟩

theorem run_getSysregId_outside {selid : Nat} (hsel : 8 ≤ selid) (regid : Nat) :
    (getSysregId selid regid).run s = (.error .undefined, s) := by
  have hnot : ¬ (selid < 8 ∧ regid < 32) := by omega
  unfold getSysregId
  rw [dif_neg hnot]
  rfl

/-- The transfer, once the register is found. -/
def SysRegAccess.transfer (id : SysReg) : SysRegAccess → Exec D Unit
  | ldsr => do
    let data ← getR (bits code 4 0 : HalfWord).toNat
    modifyCpu fun cpu => fpuSyncSysreg id (ldsrWrite id data cpu)
    addPc 4
  | stsr => do
    let data ← getCpu fun cpu => cpu.getSysreg2 id
    setR (bits code 15 11 : HalfWord).toNat data
    addPc 4

/-- The executors test the numbers of the registers and the permission, in this
order, and then index with the selector. -/
theorem run_sysRegAccess (i : SysRegAccess) :
    (i.exec code).run s =
      if i.granted code s.cpu = false then (raiseCode .pie).run s
      else (getSysregId (selector code) (i.regid code) >>= fun id => i.transfer code id).run s := by
  obtain ⟨hgen, hreg2, hrfu2⟩ := type9_fields code
  have h1 : (bits code 4 0 : HalfWord).toNat < 32 := toNat_bits_lt code 4 0
  have h2 : (bits code 15 11 : HalfWord).toNat < 32 := toNat_bits_lt code 15 11
  cases i with
  | ldsr =>
    show (opExecLdsr (opDecode9 code)).run s = _
    unfold opExecLdsr
    rw [hgen, hreg2, hrfu2, run_bind, run_checkReg h1, andThen_ok, run_bind, run_checkReg h2,
      andThen_ok, run_bind, run_getGranted s rfl, andThen_ok, run_ite]
    rfl
  | stsr =>
    show (opExecStsr (opDecode9 code)).run s = _
    unfold opExecStsr
    rw [hgen, hreg2, hrfu2, run_bind, run_checkReg h2, andThen_ok, run_bind, run_checkReg h1,
      andThen_ok, run_bind, run_getGranted s rfl, andThen_ok, run_ite]
    rfl

theorem run_transfer (i : SysRegAccess) (id : SysReg) :
    ∃ s', (i.transfer code id).run s = (.ok (), s') := by
  have h1 : (bits code 4 0 : HalfWord).toNat < 32 := toNat_bits_lt code 4 0
  have h2 : (bits code 15 11 : HalfWord).toNat < 32 := toNat_bits_lt code 15 11
  cases i with
  | ldsr =>
    unfold SysRegAccess.transfer
    rw [run_bind, run_getR h1, andThen_ok]
    exact ⟨_, rfl⟩
  | stsr =>
    unfold SysRegAccess.transfer
    rw [run_bind]
    show ∃ s', (setR _ _ >>= fun _ => _).run s = _
    rw [run_bind, run_setR h2, andThen_ok]
    exact ⟨_, rfl⟩

end Run

/-! ## Safety -/

/-- Without a group for the selector, only a denied access is safe. -/
theorem selector_exact (i : SysRegAccess) (code : OpCode) (s : CpuState D) :
    SelectorSafe i code s ↔ selector code < 8 ∨ i.granted code s.cpu = false := by
  have hrun := run_sysRegAccess code s i
  constructor
  · intro h
    by_cases hsel : selector code < 8
    · exact Or.inl hsel
    · refine Or.inr ?_
      by_contra hgranted
      rw [if_neg hgranted, run_bind, run_getSysregId_outside s (Nat.not_lt.mp hsel)] at hrun
      exact h.inside (congrArg Prod.fst hrun)
  · intro h
    by_cases hgranted : i.granted code s.cpu = false
    · rw [if_pos hgranted] at hrun
      refine ⟨?_, fun _ => ⟨⟨true, some .pie⟩, congrArg Prod.snd hrun⟩⟩
      rw [hrun]
      intro heq
      cases heq
    · have hsel : selector code < 8 := h.resolve_right hgranted
      have hregid : i.regid code < 32 := by
        cases i with
        | ldsr => exact toNat_bits_lt code 15 11
        | stsr => exact toNat_bits_lt code 4 0
      have hid := run_getSysregId ⟨⟨selector code, hsel⟩, ⟨i.regid code, hregid⟩⟩ s
      obtain ⟨s', htransfer⟩ :=
        run_transfer code s i ⟨⟨selector code, hsel⟩, ⟨i.regid code, hregid⟩⟩
      rw [if_neg hgranted, run_bind, hid, andThen_ok, htransfer] at hrun
      refine ⟨?_, fun hout => absurd hsel (by omega)⟩
      rw [hrun]
      intro heq
      cases heq

/-- `STSR 0, r1, 8`: in supervisor mode, register 0 of a group that does not
exist is read. -/
def stsrGroup8 : OpCode := fun n => [0x0FE0, 0x4040].getD n 0

theorem selector_unchecked :
    parseOptype stsrGroup8 = some ⟨.stsr_9, .format9⟩ ∧
      ¬ SelectorSafe .stsr stsrGroup8 resetState := by
  refine ⟨by decide +kernel, ?_⟩
  intro h
  refine h.inside ?_
  decide +kernel

end Exec

end Athrill
