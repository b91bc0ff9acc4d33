import Athrill.Exec.Table

/-!
# Plain steps

Most of what an executor does before it moves the program counter is plain: it
reads, calculates, writes general registers and flags and goes over the bus.
`Plain` says what all these steps leave alone.  A property of the program
counter or of a group of system registers needs its own argument for the few
steps that are not plain, and has the others from here.

* `Plain`: the relation between the states before and after.
* `keeps_plain_modifyCpu` and the instances after it.
-/

namespace Athrill

open TargetCore Routine

variable {D : Type}

/-- The program counter, the system registers but `PSW`, the protection regions
and the number of the core are kept. -/
structure Plain (s s' : CpuState D) : Prop where
  pc : s'.cpu.pc = s.cpu.pc
  sys : ∀ id, id ≠ .psw → s'.cpu.getSysreg2 id = s.cpu.getSysreg2 id
  mpu : ∃ info, s'.cpu.mpu = { s.cpu.mpu with exceptionErrorInfo := info }
  coreId : s'.cpu.coreId = s.cpu.coreId

instance : Std.Refl (Plain (D := D)) where
  refl _ := ⟨rfl, fun _ _ => rfl, ⟨_, rfl⟩, rfl⟩

instance : IsTrans (CpuState D) Plain where
  trans _ _ _ h h' := by
    obtain ⟨info, hmpu⟩ := h.mpu
    obtain ⟨info', hmpu'⟩ := h'.mpu
    refine ⟨h'.pc.trans h.pc, fun id hid => ?_, ⟨info', ?_⟩, h'.coreId.trans h.coreId⟩
    · rw [h'.sys id hid, h.sys id hid]
    · rw [hmpu', hmpu]

namespace Exec

/-- A change of the core outside the program counter, its system registers and
its protection regions. -/
theorem keeps_plain_modifyCpu {f : TargetCore → TargetCore}
    (hpc : ∀ cpu, (f cpu).pc = cpu.pc) (hsys : ∀ cpu, (f cpu).sys = cpu.sys)
    (hmpu : ∀ cpu, (f cpu).mpu = cpu.mpu) (hcore : ∀ cpu, (f cpu).coreId = cpu.coreId) :
    Keeps Plain (modifyCpu f : Exec D Unit) := by
  refine keeps_modify fun s =>
    ⟨hpc s.cpu, fun id _ => ?_, ⟨s.cpu.mpu.exceptionErrorInfo, ?_⟩, hcore s.cpu⟩
  · simp only [getSysreg2, hsys]
  · rw [hmpu]

instance keeps_plain_fail {α : Type} : Keeps Plain (fail : Exec D α) :=
  keeps_stop _

instance keeps_plain_undefined {α : Type} : Keeps Plain (undefined : Exec D α) :=
  keeps_stop _

instance keeps_plain_getCpu {α : Type} (f : TargetCore → α) :
    Keeps Plain (getCpu f : Exec D α) :=
  keeps_gets _

instance keeps_plain_getPc : Keeps Plain (getPc : Exec D Word) :=
  keeps_gets _

instance keeps_plain_getPcAdd (n : Word) : Keeps Plain (getPcAdd n : Exec D Word) :=
  keeps_gets _

instance keeps_plain_getR (n : Nat) : Keeps Plain (getR n : Exec D Word) := by
  unfold getR
  infer_instance

instance keeps_plain_setR (n : Nat) (data : Word) : Keeps Plain (setR n data : Exec D Unit) := by
  have hwrite : ∀ i : Fin 32, Keeps Plain
      (modifyCpu fun cpu => { cpu with r := Function.update cpu.r i data } : Exec D Unit) :=
    fun _ => keeps_plain_modifyCpu (fun _ => rfl) (fun _ => rfl) (fun _ => rfl) fun _ => rfl
  unfold setR
  infer_instance

instance keeps_plain_failIf (c : Prop) [Decidable c] :
    Keeps Plain (failIf c : Exec D Unit) := by
  unfold failIf
  infer_instance

instance keeps_plain_checkReg (n : Nat) : Keeps Plain (checkReg n : Exec D Unit) :=
  keeps_plain_failIf _

theorem keeps_plain_putPsw (bit : Nat) (flag : Bool) :
    Keeps Plain (putPsw bit flag : Exec D Unit) := by
  refine keeps_modify fun s => ?_
  cases flag with
  | true => exact ⟨rfl, fun id hid => getSysreg2_setSysreg2_of_ne _ _ hid, ⟨_, rfl⟩, rfl⟩
  | false => exact ⟨rfl, fun id hid => getSysreg2_setSysreg2_of_ne _ _ hid, ⟨_, rfl⟩, rfl⟩

instance keeps_plain_setZ (flag : Bool) : Keeps Plain (setZ flag : Exec D Unit) :=
  keeps_plain_putPsw _ flag

instance keeps_plain_setS (flag : Bool) : Keeps Plain (setS flag : Exec D Unit) :=
  keeps_plain_putPsw _ flag

instance keeps_plain_setOV (flag : Bool) : Keeps Plain (setOV flag : Exec D Unit) :=
  keeps_plain_putPsw _ flag

instance keeps_plain_setCY (flag : Bool) : Keeps Plain (setCY flag : Exec D Unit) :=
  keeps_plain_putPsw _ flag

instance keeps_plain_setSAT (flag : Bool) : Keeps Plain (setSAT flag : Exec D Unit) :=
  keeps_plain_putPsw _ flag

instance keeps_plain_busAccess {α : Type} (access : CpuState D → Option α × BusView D) :
    Keeps Plain (busAccess access : Exec D α) := by
  refine keeps_lift fun s => ?_
  cases access s with
  | mk result v => cases result <;> exact ⟨rfl, fun _ _ => rfl, ⟨_, rfl⟩, rfl⟩

instance keeps_plain_addElaps (n : Word) : Keeps Plain (addElaps n : Exec D Unit) :=
  keeps_plain_modifyCpu (fun _ => rfl) (fun _ => rfl) (fun _ => rfl) fun _ => rfl

instance keeps_plain_clearElaps : Keeps Plain (clearElaps : Exec D Unit) :=
  keeps_plain_modifyCpu (fun _ => rfl) (fun _ => rfl) (fun _ => rfl) fun _ => rfl

section Bus

variable (bus : Bus D) (addr : Word)

instance : Keeps Plain (busGetData8 bus addr) := keeps_plain_busAccess _
instance : Keeps Plain (busGetData16 bus addr) := keeps_plain_busAccess _
instance : Keeps Plain (busGetData32 bus addr) := keeps_plain_busAccess _
instance (data : Byte) : Keeps Plain (busPutData8 bus addr data) := keeps_plain_busAccess _
instance (data : HalfWord) : Keeps Plain (busPutData16 bus addr data) := keeps_plain_busAccess _
instance (data : Word) : Keeps Plain (busPutData32 bus addr data) := keeps_plain_busAccess _
instance : Keeps Plain (busGetPointer bus addr) := keeps_plain_busAccess _
instance (data : Word) : Keeps Plain (busStorePointer bus addr data) := keeps_plain_busAccess _

instance keeps_plain_pushspLoop (n cur : Nat) (tmpSp : Word) :
    Keeps Plain (pushspLoop bus n cur tmpSp) := by
  induction n generalizing cur tmpSp with
  | zero => exact keeps_pure _
  | succ n ih =>
    rw [pushspLoop]
    infer_instance

instance keeps_plain_popspLoop (n cur : Nat) (tmpSp : Word) :
    Keeps Plain (popspLoop bus n cur tmpSp) := by
  induction n generalizing cur tmpSp with
  | zero => exact keeps_pure _
  | succ n ih =>
    rw [popspLoop]
    infer_instance

end Bus

instance keeps_plain_hasPermission (accessType : TargetMpuAccess) (addr size : Word) :
    Keeps Plain (hasPermission accessType addr size : Exec D Bool) := by
  refine keeps_lift fun s => ?_
  obtain ⟨info, hinfo⟩ := targetMpuHasPermission_snd s.cpu accessType addr size
  show Plain s { s with cpu := (targetMpuHasPermission s.cpu accessType addr size).2 }
  rw [hinfo]
  exact ⟨rfl, fun _ _ => rfl, ⟨info, rfl⟩, rfl⟩

instance keeps_plain_hostEval {α : Type} (f : D → α × D) :
    Keeps Plain (hostEval f : Exec D α) :=
  keeps_lift fun _ => ⟨rfl, fun _ _ => rfl, ⟨_, rfl⟩, rfl⟩

instance keeps_plain_getSysregId (selid regid : Nat) :
    Keeps Plain (getSysregId selid regid : Exec D SysReg) := by
  unfold getSysregId
  infer_instance

instance keeps_plain_raiseCode (exno : ExceptionId) :
    Keeps Plain (raiseCode exno : Exec D Unit) :=
  keeps_plain_modifyCpu (fun _ => rfl) (fun _ => rfl) (fun _ => rfl) fun _ => rfl

end Exec

end Athrill
