import Athrill.Exec.Conditions

/-!
# Instructions that compute

Most executors read registers, write one or two of them, write flags and go on
to the next instruction.  `after` is the state they leave.

* `reg_update`: one register is written, the others are kept.
* `writeFlags`: bits of `PSW` written one after the other.
* `after`: registers, flags and program counter of a computing instruction.
* `reg_after`, `issetPsw_after`: what such an instruction leaves.
-/

namespace Athrill

open TargetCore Routine

namespace TargetCore

theorem reg_update {n : HalfWord} (hn : n.toNat < 32) {cpu cpu' : TargetCore} {data : Word}
    (hr : cpu'.r = Function.update cpu.r ⟨n.toNat, hn⟩ data) (m : HalfWord) :
    cpu'.reg m = if m = n then data else cpu.reg m := by
  unfold TargetCore.reg
  rw [hr]
  by_cases hm : m.toNat < 32
  · rw [dif_pos hm, dif_pos hm]
    by_cases heq : m = n
    · subst heq
      rw [if_pos rfl]
      exact Function.update_self _ _ _
    · have hne : (⟨m.toNat, hm⟩ : Fin 32) ≠ ⟨n.toNat, hn⟩ := fun h =>
        heq (BitVec.eq_of_toNat_eq (Fin.mk.inj h))
      rw [if_neg heq]
      exact Function.update_of_ne hne _ _
  · have hne : m ≠ n := fun h => hm (h ▸ hn)
    rw [dif_neg hm, dif_neg hm, if_neg hne]

theorem reg_congr {cpu cpu' : TargetCore} (hr : cpu'.r = cpu.r) (n : HalfWord) :
    cpu'.reg n = cpu.reg n := by
  unfold TargetCore.reg
  rw [hr]

/-- A register written twice in a row. -/
theorem reg_update_update {n n' : HalfWord} (hn : n.toNat < 32) (hn' : n'.toNat < 32)
    {cpu cpu' : TargetCore} {data data' : Word}
    (hr : cpu'.r =
      Function.update (Function.update cpu.r ⟨n.toNat, hn⟩ data) ⟨n'.toNat, hn'⟩ data')
    (m : HalfWord) :
    cpu'.reg m = if m = n' then data' else if m = n then data else cpu.reg m := by
  have hfirst : ({ cpu with r := Function.update cpu.r ⟨n.toNat, hn⟩ data } : TargetCore).reg m =
      if m = n then data else cpu.reg m :=
    reg_update hn rfl m
  rw [← hfirst]
  exact reg_update hn' hr m

/-- Bits of `PSW` become the given flags, one after the other. -/
def writeFlags (writes : List (Nat × Bool)) (cpu : TargetCore) : TargetCore :=
  writes.foldl (fun cpu write => cpu.writePsw write.1 write.2) cpu

section WriteFlags

variable (writes : List (Nat × Bool)) (cpu : TargetCore)

theorem r_writeFlags : (writeFlags writes cpu).r = cpu.r := by
  induction writes generalizing cpu with
  | nil => rfl
  | cons write writes ih =>
    show (writeFlags writes (cpu.writePsw write.1 write.2)).r = cpu.r
    rw [ih, r_writePsw]

/-- The last write of a bit counts. -/
theorem issetPsw_writeFlags {bit : Nat} (hbit : bit < 32) :
    (writeFlags writes cpu).issetPsw bit =
      (writes.reverse.lookup bit).getD (cpu.issetPsw bit) := by
  induction writes using List.reverseRecOn with
  | nil => rfl
  | append_singleton writes write ih =>
    unfold writeFlags at ih ⊢
    rw [List.foldl_append, List.reverse_append]
    show ((List.foldl _ cpu writes).writePsw write.1 write.2).issetPsw bit =
      (List.lookup bit (write :: writes.reverse)).getD (cpu.issetPsw bit)
    by_cases heq : bit = write.1
    · subst heq
      rw [issetPsw_writePsw_self hbit, List.lookup_cons_self]
      rfl
    · have hne : (bit == write.1) = false := beq_false_of_ne heq
      rw [issetPsw_writePsw_of_ne (Ne.symm heq), ih, List.lookup_cons, hne]

/-- Flags and general registers are apart. -/
theorem writeFlags_with_r (r : Fin 32 → Word) :
    ({ writeFlags writes cpu with r := r } : TargetCore) = writeFlags writes { cpu with r := r } := by
  have hstep : ∀ (bit : Nat) (flag : Bool) (cpu : TargetCore),
      ({ cpu.writePsw bit flag with r := r } : TargetCore) =
        ({ cpu with r := r } : TargetCore).writePsw bit flag := by
    intro bit flag cpu
    cases flag <;> rfl
  induction writes generalizing cpu with
  | nil => rfl
  | cons write writes ih =>
    show ({ writeFlags writes (cpu.writePsw write.1 write.2) with r := r } : TargetCore) = _
    rw [ih, hstep]
    rfl

end WriteFlags

end TargetCore

namespace Exec

variable {D : Type}

/-- The state after an instruction of `len` bytes that leaves the registers `r`
and writes the flags by `flags`. -/
def after (s : CpuState D) (r : Fin 32 → Word) (flags : TargetCore → TargetCore) (len : Word) :
    CpuState D :=
  { s with cpu :=
    { flags { s.cpu with r := r } with pc := (flags { s.cpu with r := r }).pc + len } }

section After

variable (s : CpuState D) (r : Fin 32 → Word) {flags : TargetCore → TargetCore} (len : Word)

theorem r_after (hflags : ∀ cpu, (flags cpu).r = cpu.r) :
    (after s r flags len).cpu.r = r :=
  hflags _

theorem issetPsw_after (bit : Nat) :
    (after s r flags len).cpu.issetPsw bit = (flags { s.cpu with r := r }).issetPsw bit :=
  rfl

/-- One register is written. -/
theorem reg_after {n : HalfWord} (hn : n.toNat < 32) (data : Word)
    (hflags : ∀ cpu, (flags cpu).r = cpu.r) (m : HalfWord) :
    (after s (Function.update s.cpu.r ⟨n.toNat, hn⟩ data) flags len).cpu.reg m =
      if m = n then data else s.cpu.reg m :=
  reg_update hn (r_after s _ len hflags) m

end After

/-- A register written after the flags. -/
theorem run_setR_writeFlags (s : CpuState D) (writes : List (Nat × Bool)) {n : Nat} (hn : n < 32)
    (data : Word) (x : Exec D Unit) :
    (setR n data >>= fun _ => x).run { s with cpu := writeFlags writes s.cpu } =
      x.run { s with
        cpu := writeFlags writes { s.cpu with r := Function.update s.cpu.r ⟨n, hn⟩ data } } := by
  rw [run_bind, run_setR hn, andThen_ok, r_writeFlags, ← writeFlags_with_r writes s.cpu
    (Function.update s.cpu.r ⟨n, hn⟩ data)]

/-- The tail of an executor that writes its flags before its register. -/
theorem run_setR_after (s : CpuState D) (writes : List (Nat × Bool)) {n : Nat} (hn : n < 32)
    (data len : Word) :
    (setR n data >>= fun _ => addPc len).run { s with cpu := writeFlags writes s.cpu } =
      (.ok (), after s (Function.update s.cpu.r ⟨n, hn⟩ data) (writeFlags writes) len) := by
  rw [run_setR_writeFlags s writes hn]
  rfl

end Exec

end Athrill
