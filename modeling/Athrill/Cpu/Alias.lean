import Athrill.Mpu.Mirror

/-!
# The fields of FPSR in other registers

`FPST`, `FPCC` and `FPCFG` hold copies of fields of `FPSR`.  The setters of
`cpu_fpu_ops.h` write a field in both registers, and `LDSR` to one of the three
registers passes its fields on to `FPSR`; `LDSR` to `FPSR` itself writes that
register alone.

* `FpuField`, `fpuFields`: a field and its copy.
* `Aliased`: every field agrees with its copy.
* `SetsField`: what a setter does with the fields.
* `BreaksAlias`: the writes to `FPSR` that leave the copies behind.
* `aliased_of_guarded`: the runs without such a write.
-/

namespace Athrill

open TargetCore Bits Routine

variable {D : Type}

/-! ## Fields -/

/-- A field of `FPSR` and its copy; the setter writes `span` bits. -/
structure FpuField where
  width : Nat
  pos : Nat
  copy : SysReg
  copyPos : Nat
  span : Nat
  deriving DecidableEq

namespace FpuField

def xc : FpuField := ⟨6, 10, .fpst, 8, 6⟩
def xp : FpuField := ⟨5, 0, .fpst, 0, 5⟩
def inexactFlag : FpuField := ⟨1, 22, .fpst, 5, 1⟩
def cc : FpuField := ⟨8, 24, .fpcc, 0, 16⟩
def rm : FpuField := ⟨2, 18, .fpcfg, 8, 2⟩
def xe : FpuField := ⟨5, 5, .fpcfg, 0, 5⟩

end FpuField

def fpuFields : List FpuField := [.xc, .xp, .inexactFlag, .cc, .rm, .xe]

/-- The copy of the field agrees with a value of `FPSR`. -/
def FpuField.Matches (f : FpuField) (fpsr : Word) (cpu : TargetCore) : Prop :=
  (cpu.getSysreg2 f.copy).extractLsb' f.copyPos f.width = fpsr.extractLsb' f.pos f.width

instance (f : FpuField) (fpsr : Word) (cpu : TargetCore) : Decidable (f.Matches fpsr cpu) :=
  inferInstanceAs (Decidable (_ = _))

/-- All fields but those of a list agree with their copies. -/
def AliasedExcept (l : List FpuField) (cpu : TargetCore) : Prop :=
  ∀ f ∈ fpuFields, f ∉ l → f.Matches (cpu.getSysreg2 .fpsr) cpu

/-- The alias registers agree with `FPSR`. -/
def Aliased (cpu : TargetCore) : Prop :=
  ∀ f ∈ fpuFields, f.Matches (cpu.getSysreg2 .fpsr) cpu

instance (cpu : TargetCore) : Decidable (Aliased cpu) :=
  inferInstanceAs (Decidable (∀ f ∈ fpuFields, f.Matches (cpu.getSysreg2 .fpsr) cpu))

theorem aliasedExcept_nil {cpu : TargetCore} : AliasedExcept [] cpu ↔ Aliased cpu :=
  ⟨fun h f hf => h f hf List.not_mem_nil, fun h f hf _ => h f hf⟩

theorem AliasedExcept.mono {l l' : List FpuField} {cpu : TargetCore} (h : AliasedExcept l cpu)
    (hl : l ⊆ l') : AliasedExcept l' cpu :=
  fun f hf hnot => h f hf fun hmem => hnot (hl hmem)

theorem matches_iff {f : FpuField} {fpsr : Word} {cpu : TargetCore} :
    f.Matches fpsr cpu ↔
      ∀ k < f.width, (cpu.getSysreg2 f.copy).getLsbD (f.copyPos + k) = fpsr.getLsbD (f.pos + k) := by
  unfold FpuField.Matches
  constructor
  · intro h k hk
    have hbit := congrArg (fun x => x.getLsbD k) h
    simpa only [BitVec.getLsbD_extractLsb', decide_eq_true hk, Bool.true_and] using hbit
  · intro h
    apply BitVec.eq_of_getLsbD_eq
    intro k hk
    simp only [BitVec.getLsbD_extractLsb', decide_eq_true hk, Bool.true_and]
    exact h k hk

theorem SameUnits.matches_iff {cpu cpu' : TargetCore} (h : SameUnits cpu cpu') {f : FpuField}
    (hf : f ∈ fpuFields) (fpsr : Word) : f.Matches fpsr cpu' ↔ f.Matches fpsr cpu := by
  have hcopy : ∀ f ∈ fpuFields, f.copy ∈ fpuRegs := by decide
  unfold FpuField.Matches
  rw [h.fpu _ (hcopy f hf)]

theorem SameUnits.aliased {cpu cpu' : TargetCore} (h : SameUnits cpu cpu') :
    Aliased cpu' ↔ Aliased cpu := by
  unfold Aliased
  rw [h.fpu .fpsr (by decide)]
  exact forall₂_congr fun f hf => h.matches_iff hf _

/-! ## Setters -/

/-- The change writes a field and its copy alike. -/
def SetsField (f : FpuField) (set : TargetCore → TargetCore) : Prop :=
  ∀ l cpu, AliasedExcept (f :: l) cpu → AliasedExcept l (set cpu)

/-- Fields that do not lie in what the setter of another one writes. -/
theorem fpuFields_disjoint : ∀ f ∈ fpuFields, ∀ g ∈ fpuFields, g ≠ f →
    (g.pos + g.width ≤ f.pos ∨ f.pos + f.span ≤ g.pos) ∧
      (g.copy = f.copy → g.copyPos + g.width ≤ f.copyPos ∨ f.copyPos + f.span ≤ g.copyPos) := by
  decide

theorem fpuFields_bounds : ∀ f ∈ fpuFields,
    f.width ≤ f.span ∧ f.pos + f.width ≤ 32 ∧ f.copyPos + f.width ≤ 32 ∧ f.copy ≠ .fpsr := by
  decide

/-- A write of the same value into a field and into its copy. -/
theorem setsField_modifySysreg {f : FpuField} (hf : f ∈ fpuFields) {value : Nat → Bool}
    {u v : Word → Word} (hu : Overwrites f.pos f.span value u)
    (hv : Overwrites f.copyPos f.span value v) :
    SetsField f fun cpu => modifySysreg f.copy v (modifySysreg .fpsr u cpu) := by
  intro l cpu h g hg hgl
  obtain ⟨hspan, hpos, hcopyPos, hcopy⟩ := fpuFields_bounds f hf
  have hfpsr : (modifySysreg f.copy v (modifySysreg .fpsr u cpu)).getSysreg2 .fpsr =
      u (cpu.getSysreg2 .fpsr) := by
    unfold modifySysreg
    rw [getSysreg2_setSysreg2_of_ne _ _ hcopy.symm, getSysreg2_setSysreg2]
  have hself : (modifySysreg f.copy v (modifySysreg .fpsr u cpu)).getSysreg2 f.copy =
      v (cpu.getSysreg2 f.copy) := by
    unfold modifySysreg
    rw [getSysreg2_setSysreg2, getSysreg2_setSysreg2_of_ne _ _ hcopy]
  rw [matches_iff, hfpsr]
  intro k hk
  by_cases hgf : g = f
  · subst hgf
    rw [hself, hu.inside _ (by omega) (by omega), hv.inside _ (by omega) (by omega)]
  · have hbefore := h g hg (by simp [hgf, hgl])
    obtain ⟨hdisj, hdisjCopy⟩ := fpuFields_disjoint f hf g hg hgf
    obtain ⟨_, hgpos, hgcopyPos, hgcopy⟩ := fpuFields_bounds g hg
    rw [hu.outside _ (by omega) (by omega), ← matches_iff.mp hbefore k hk]
    by_cases hsame : g.copy = f.copy
    · have hout := hdisjCopy hsame
      rw [hsame, hself, hv.outside _ (by omega) (by omega)]
    · unfold modifySysreg
      rw [getSysreg2_setSysreg2_of_ne _ _ hsame, getSysreg2_setSysreg2_of_ne _ _ hgcopy]

/-- The value fits into `n` bits. -/
def Fits (n : Nat) (value : Byte) : Prop :=
  ∀ k, n ≤ k → value.getLsbD k = false

theorem fits_sysGetData {n : Nat} {mask : Byte} (hmask : Fits n mask) (pos : Nat) (data : Word) :
    Fits n (sysGetData mask pos data) := by
  intro k hk
  unfold sysGetData
  rw [BitVec.getLsbD_and, hmask k hk, Bool.and_false]

theorem Fits.or {n : Nat} {x y : Byte} (hx : Fits n x) (hy : Fits n y) : Fits n (x ||| y) := by
  intro k hk
  rw [BitVec.getLsbD_or, hx k hk, hy k hk, Bool.or_self]

/-- A mask of `n` ones. -/
theorem getLsbD_ones {w n : Nat} (hn : n ≤ w) (k : Nat) :
    (BitVec.ofNat w (2 ^ n - 1)).getLsbD k = decide (k < n) := by
  rw [BitVec.getLsbD_ofNat, Nat.testBit_two_pow_sub_one]
  by_cases hk : k < n
  · simp [hk, Nat.lt_of_lt_of_le hk hn]
  · simp [hk]

theorem fits_ones {n : Nat} (hn : n ≤ 8) : Fits n (BitVec.ofNat 8 (2 ^ n - 1)) := by
  intro k hk
  rw [getLsbD_ones hn, decide_eq_false (by omega)]

theorem overwrites_sysSetData {n : Nat} (hn : n ≤ 32) {value : Byte} (hvalue : Fits n value)
    (pos : Nat) :
    Overwrites pos n (value.setWidth 32).getLsbD
      (sysSetData (BitVec.ofNat 32 (2 ^ n - 1)) pos value) := by
  refine overwrites_and_or (getLsbD_ones hn) (fun k hk => ?_) pos
  rw [BitVec.getLsbD_setWidth, hvalue k hk, Bool.and_false]

section Setters

variable {data : Byte}

theorem setsField_xc (hdata : Fits 6 data) : SetsField .xc (sysSetFpsrXc data) :=
  setsField_modifySysreg (by decide) (overwrites_sysSetData (n := 6) (by decide) hdata 10)
    (overwrites_sysSetData (by decide) hdata 8)

theorem setsField_xp (hdata : Fits 5 data) : SetsField .xp (sysSetFpsrXp data) :=
  setsField_modifySysreg (by decide) (overwrites_sysSetData (n := 5) (by decide) hdata 0)
    (overwrites_sysSetData (by decide) hdata 0)

theorem setsField_inexactFlag (flag : Bool) : SetsField .inexactFlag (sysPutFpsrIf flag) :=
  setsField_modifySysreg (by decide) (overwrites_putBit (by decide) flag)
    (overwrites_putBit (by decide) flag)

/-- The mask has 16 bits, so every byte fits. -/
theorem setsField_cc (data : Byte) : SetsField .cc (sysSetFpsrCc data) := by
  have hdata : Fits 16 data := fun k hk => BitVec.getLsbD_of_ge data k (by omega)
  exact setsField_modifySysreg (by decide) (overwrites_sysSetData (n := 16) (by decide) hdata 24)
    (overwrites_sysSetData (by decide) hdata 0)

theorem setsField_rm (hdata : Fits 2 data) : SetsField .rm (sysSetFpsrRm data) :=
  setsField_modifySysreg (by decide) (overwrites_sysSetData (n := 2) (by decide) hdata 18)
    (overwrites_sysSetData (by decide) hdata 8)

theorem setsField_xe (hdata : Fits 5 data) : SetsField .xe (sysSetFpsrXe data) :=
  setsField_modifySysreg (by decide) (overwrites_sysSetData (n := 5) (by decide) hdata 5)
    (overwrites_sysSetData (by decide) hdata 0)

end Setters

/-- A setter keeps the registers in agreement. -/
theorem SetsField.aliased {f : FpuField} {set : TargetCore → TargetCore} (h : SetsField f set)
    {cpu : TargetCore} (hcpu : Aliased cpu) : Aliased (set cpu) :=
  aliasedExcept_nil.mp (h [] cpu ((aliasedExcept_nil.mpr hcpu).mono (List.nil_subset _)))

/-! ## Instructions -/

/-- The agreement is kept. -/
def AliasStep (s s' : CpuState D) : Prop :=
  Aliased s.cpu → Aliased s'.cpu

instance : Std.Refl (AliasStep (D := D)) where
  refl _ := id

instance : IsTrans (CpuState D) AliasStep where
  trans _ _ _ h h' := h' ∘ h

theorem UnitsStep.aliasStep {s s' : CpuState D} (h : UnitsStep s s') : AliasStep s s' :=
  (SameUnits.aliased h).mpr

namespace Exec

instance (priority := low) keeps_aliasStep_of_units {α : Type} (x : Exec D α)
    [h : Keeps UnitsStep x] : Keeps AliasStep x :=
  h.mono fun _ _ hstep => hstep.aliasStep

/-- A raised exception is or-ed into both copies of `XC` and `XP`. -/
theorem keeps_aliasStep_raiseFpst {bits : Byte} (hbits : Fits 5 bits) :
    Keeps AliasStep (raiseFpst bits : Exec D Unit) := by
  refine keeps_modify fun s hs => ?_
  have hbits6 : Fits 6 bits := fun k hk => hbits k (by omega)
  have hxc : Aliased (sysSetFpsrXc (sysGetFpstXc s.cpu ||| bits) s.cpu) :=
    (setsField_xc ((fits_sysGetData (fits_ones (n := 6) (by decide)) _ _).or hbits6)).aliased hs
  exact (setsField_xp ((fits_sysGetData (fits_ones (n := 5) (by decide)) _ _).or hbits)).aliased hxc

/-- The exceptions that the executors raise. -/
theorem fits_sysFpsrExpr : ∀ bits ∈ [sysFpsrExprI, sysFpsrExprU, sysFpsrExprO, sysFpsrExprZ,
    sysFpsrExprV], Fits 5 bits := by
  have hlow : ∀ bits ∈ [sysFpsrExprI, sysFpsrExprU, sysFpsrExprO, sysFpsrExprZ, sysFpsrExprV],
      bits &&& 0x1F = bits := by decide
  intro bits hbits
  rw [← hlow bits hbits]
  intro k hk
  have hmask : (0x1F : Byte).getLsbD k = false := fits_ones (n := 5) (by decide) k hk
  rw [BitVec.getLsbD_and, hmask, Bool.and_false]

instance : Keeps AliasStep (raiseFpst sysFpsrExprI : Exec D Unit) :=
  keeps_aliasStep_raiseFpst (fits_sysFpsrExpr _ (by decide))

instance : Keeps AliasStep (raiseFpst sysFpsrExprU : Exec D Unit) :=
  keeps_aliasStep_raiseFpst (fits_sysFpsrExpr _ (by decide))

instance : Keeps AliasStep (raiseFpst sysFpsrExprO : Exec D Unit) :=
  keeps_aliasStep_raiseFpst (fits_sysFpsrExpr _ (by decide))

instance : Keeps AliasStep (raiseFpst sysFpsrExprZ : Exec D Unit) :=
  keeps_aliasStep_raiseFpst (fits_sysFpsrExpr _ (by decide))

instance : Keeps AliasStep (raiseFpst sysFpsrExprV : Exec D Unit) :=
  keeps_aliasStep_raiseFpst (fits_sysFpsrExpr _ (by decide))

instance keeps_aliasStep_putFpsrCc (data : Byte) :
    Keeps AliasStep (putFpsrCc data : Exec D Unit) :=
  keeps_modify fun _ hs => (setsField_cc data).aliased hs

end Exec

set_option synthInstance.maxSize 100000 in
/-- Every instruction but `LDSR` keeps the agreement, whatever its operands. -/
theorem keeps_aliasStep {p : Platform D} {codeId : OpCodeId}
    {executor : OpDecodedCode → Exec D Unit} (hldsr : codeId ≠ .ldsr_9)
    (hexec : opExecTable p codeId = some executor) (d : OpDecodedCode) :
    Keeps AliasStep (executor d) := by
  cases hpriv : privileged codeId with
  | true => exact (keeps_sameUnits hpriv hldsr hexec d).mono fun _ _ hstep => hstep.aliasStep
  | false => cases codeId <;> cases hpriv <;> cases hexec <;> infer_instance

/-! ## LDSR -/

/-- The write to `FPSR` leaves a copy behind. -/
def BreaksAlias (id : SysReg) (data : Word) (cpu : TargetCore) : Prop :=
  id = .fpsr ∧ ∃ f ∈ fpuFields, ¬ f.Matches data cpu

/-- A register outside the floating-point unit is written without a trace in it. -/
theorem getSysreg2_ldsrWrite_fpu {id id' : SysReg} (hid : id ∉ fpuRegs) (hid' : id' ∈ fpuRegs)
    (data : Word) (cpu : TargetCore) :
    (ldsrWrite id data cpu).getSysreg2 id' = cpu.getSysreg2 id' := by
  have hne : id' ≠ id := by
    rintro rfl
    exact hid hid'
  have hmprc : id' ≠ .mprc := by
    rintro rfl
    revert hid'
    decide
  have hresult : id' ≠ ⟨2, 11⟩ := by
    rintro rfl
    revert hid'
    decide
  unfold ldsrWrite
  split_ifs with hispr hcfg hpsw hum hmcc hgroup
  · exact getSysreg2_setSysreg2_of_ne _ _ hne
  · rfl
  · exact getSysreg2_setSysreg2_of_ne _ _ hne
  · exact getSysreg2_setSysreg2_of_ne _ _ hne
  · exact getSysreg2_setSysreg2_of_ne _ _ hresult
  · show ((mpuHookAccessWrite data id.selid.val id.regid.val cpu).setSysreg2 id data).getSysreg2
      id' = _
    rw [getSysreg2_setSysreg2_of_ne _ _ hne, getSysreg2_hook_of_ne hmprc data hgroup]
  · exact getSysreg2_setSysreg2_of_ne _ _ hne

theorem ldsrWrite_of_fpu {id : SysReg} (hid : id ∈ fpuRegs) (data : Word) (cpu : TargetCore) :
    ldsrWrite id data cpu = cpu.setSysreg2 id data := by
  have hother : ∀ id ∈ fpuRegs, id ≠ .ispr ∧ id ≠ .psw ∧ id ≠ .mcc ∧
      ¬ (id.selid = 5 ∨ id.selid = 6 ∨ id.selid = 7) := by
    decide
  obtain ⟨hispr, hpsw, hmcc, hgroup⟩ := hother id hid
  unfold ldsrWrite
  rw [if_neg hispr, if_neg hpsw, if_neg hmcc, if_neg hgroup]

/-- A write to a copy can break the fields of that copy alone. -/
theorem aliasedExcept_setSysreg2 {id : SysReg} (hid : id ≠ .fpsr) {l : List FpuField}
    (hl : ∀ f ∈ fpuFields, f.copy = id → f ∈ l) (data : Word) {cpu : TargetCore}
    (h : Aliased cpu) : AliasedExcept l (cpu.setSysreg2 id data) := by
  intro f hf hnot
  have hne : f.copy ≠ id := fun hcopy => hnot (hl f hf hcopy)
  unfold FpuField.Matches
  rw [getSysreg2_setSysreg2_of_ne _ _ hne, getSysreg2_setSysreg2_of_ne _ _ hid.symm]
  exact h f hf

/-- A write to a copy is passed on. -/
theorem aliased_fpuSyncSysreg {id : SysReg} (hid : id ∈ fpuRegs) (hfpsr : id ≠ .fpsr) (data : Word)
    {cpu : TargetCore} (h : Aliased cpu) : Aliased (fpuSyncSysreg id (cpu.setSysreg2 id data)) := by
  have hcases : ∀ id ∈ fpuRegs, id ≠ .fpsr → id = .fpst ∨ id = .fpcc ∨ id = .fpcfg := by decide
  rcases hcases id hid hfpsr with rfl | rfl | rfl
  · have hset : AliasedExcept [.xc, .xp, .inexactFlag] (cpu.setSysreg2 .fpst data) :=
      aliasedExcept_setSysreg2 (by decide) (by decide) data h
    unfold fpuSyncSysreg
    rw [if_pos rfl]
    extract_lets cpu₁ cpu₂
    have hxc : AliasedExcept [.xp, .inexactFlag] cpu₁ :=
      setsField_xc (fits_sysGetData (fits_ones (n := 6) (by decide)) _ _) _ _ hset
    have hxp : AliasedExcept [.inexactFlag] cpu₂ :=
      setsField_xp (fits_sysGetData (fits_ones (n := 5) (by decide)) _ _) _ _ hxc
    exact aliasedExcept_nil.mp (setsField_inexactFlag _ _ _ hxp)
  · have hset : AliasedExcept [.cc] (cpu.setSysreg2 .fpcc data) :=
      aliasedExcept_setSysreg2 (by decide) (by decide) data h
    unfold fpuSyncSysreg
    rw [if_neg (by decide), if_pos rfl]
    exact aliasedExcept_nil.mp (setsField_cc _ _ _ hset)
  · have hset : AliasedExcept [.rm, .xe] (cpu.setSysreg2 .fpcfg data) :=
      aliasedExcept_setSysreg2 (by decide) (by decide) data h
    unfold fpuSyncSysreg
    rw [if_neg (by decide), if_neg (by decide), if_pos rfl]
    extract_lets cpu₁
    have hrm : AliasedExcept [.xe] cpu₁ :=
      setsField_rm (fits_sysGetData (fits_ones (n := 2) (by decide)) _ _) _ _ hset
    exact aliasedExcept_nil.mp
      (setsField_xe (fits_sysGetData (fits_ones (n := 5) (by decide)) _ _) _ _ hrm)

/-- After `LDSR` the registers agree exactly when the write broke nothing. -/
theorem aliased_ldsrCore (id : SysReg) (data : Word) {cpu : TargetCore} (h : Aliased cpu) :
    Aliased (ldsrCore id data cpu) ↔ ¬ BreaksAlias id data cpu := by
  have hpc : Aliased (ldsrCore id data cpu) ↔
      Aliased (fpuSyncSysreg id (ldsrWrite id data cpu)) :=
    SameUnits.aliased (.of_eq rfl rfl rfl)
  rw [hpc]
  by_cases hid : id ∈ fpuRegs
  · rw [ldsrWrite_of_fpu hid]
    by_cases hfpsr : id = .fpsr
    · subst hfpsr
      have hfield (f : FpuField) (hf : f ∈ fpuFields) :
          f.Matches ((cpu.setSysreg2 .fpsr data).getSysreg2 .fpsr) (cpu.setSysreg2 .fpsr data) ↔
            f.Matches data cpu := by
        unfold FpuField.Matches
        rw [getSysreg2_setSysreg2, getSysreg2_setSysreg2_of_ne _ _ (fpuFields_bounds f hf).2.2.2]
      show Aliased (cpu.setSysreg2 .fpsr data) ↔ _
      constructor
      · rintro hall ⟨_, f, hf, hne⟩
        exact hne ((hfield f hf).mp (hall f hf))
      · intro hok f hf
        rw [hfield f hf]
        by_contra hne
        exact hok ⟨rfl, f, hf, hne⟩
    · exact iff_of_true (aliased_fpuSyncSysreg hid hfpsr data h) fun hbreaks => hfpsr hbreaks.1
  · have hne : id ≠ .fpst ∧ id ≠ .fpcc ∧ id ≠ .fpcfg ∧ id ≠ .fpsr := by
      refine ⟨?_, ?_, ?_, ?_⟩ <;> rintro rfl <;> revert hid <;> decide
    have hsync : fpuSyncSysreg id (ldsrWrite id data cpu) = ldsrWrite id data cpu := by
      unfold fpuSyncSysreg
      rw [if_neg hne.1, if_neg hne.2.1, if_neg hne.2.2.1]
    have hsame : Aliased (ldsrWrite id data cpu) := by
      have hcopy : ∀ f ∈ fpuFields, f.copy ∈ fpuRegs := by decide
      intro f hf
      unfold FpuField.Matches
      rw [getSysreg2_ldsrWrite_fpu hid (hcopy f hf), getSysreg2_ldsrWrite_fpu hid (by decide)]
      exact h f hf
    rw [hsync]
    exact iff_of_true hsame fun hbreaks => hne.2.2.2 hbreaks.1

/-! ## Runs -/

/-- The clock executes an `LDSR` to `FPSR` that leaves a copy behind. -/
def ClockBreaksAlias (p : Platform D) (cached : Word → Bool) (s : ClockState D) : Prop :=
  ∃ id data, ldsrOf (called p cached s) = some (id, data) ∧ BreaksAlias id data s.cpu

/-- The steps without such an instruction. -/
def KeepsAlias (p : Platform D) (e : MachineEvent) (m : Machine D) : Prop :=
  ∀ c cached, e = .clock c cached → ¬ ClockBreaksAlias p cached (m.clockState c)

theorem Aside.sameUnits {s s' : CpuState D} (h : Aside s s') : SameUnits s.cpu s'.cpu := by
  refine ⟨h.ordinaryStep.mpuStep, fun id _ => ?_⟩
  exact congrFun h.sys id

theorem SameUnits.breaksAlias {id : SysReg} {data : Word} {cpu cpu' : TargetCore}
    (h : SameUnits cpu cpu') : BreaksAlias id data cpu' ↔ BreaksAlias id data cpu := by
  unfold BreaksAlias
  refine and_congr_right fun _ => exists_congr fun f => and_congr_right fun hf => ?_
  rw [h.matches_iff hf]

/-- A clock keeps the agreement exactly when its instruction does not break it. -/
theorem aliased_clock {p : Platform D} (cached : Word → Bool) {s : ClockState D}
    (hform : CacheFormed p s) (hcpu : Aliased s.cpu) :
    Aliased (cpuSupplyClock p cached s).2.cpu ↔ ¬ ClockBreaksAlias p cached s := by
  have hout := cpuSupplyClock_outcome cached hform
  have hnone (h : ldsrOf (called p cached s) = none)
      (hkept : Aliased (cpuSupplyClock p cached s).2.cpu) :
      Aliased (cpuSupplyClock p cached s).2.cpu ↔ ¬ ClockBreaksAlias p cached s := by
    refine iff_of_true hkept ?_
    rintro ⟨id, data, hid, _⟩
    rw [h] at hid
    cases hid
  cases hcall : called p cached s with
  | none =>
    refine hnone ?_ ((hout.idle hcall).sameUnits.aliased.mpr hcpu)
    rw [hcall]
    rfl
  | some call =>
    have hbefore := (hout.before call hcall).sameUnits
    have hafter := (hout.after call hcall).sameUnits
    have hstate : Aliased call.state.cpu := hbefore.aliased.mpr hcpu
    have htable := hout.table call hcall
    by_cases hldsr : call.codeId = .ldsr_9
    · have hexec : call.executor = fun d => Exec.opExecLdsr d.type9 := by
        rw [hldsr] at htable
        exact (Option.some.inj htable).symm
      have hrecord := hout.record call hcall
      cases htarget : ldsrTarget call with
      | none =>
        refine hnone ?_ (hafter.aliased.mpr ?_)
        · simp [hcall, ldsrOf, hldsr, htarget]
        · rcases result_ldsr_none hexec hrecord htarget with h | h
          · rw [h]
            exact hstate
          · rw [h]
            exact hstate
      | some id =>
        have hof : ldsrOf (called p cached s) = some (id, ldsrData call) := by
          simp [hcall, ldsrOf, hldsr, htarget]
        rw [hafter.aliased, result_ldsr hexec hrecord htarget]
        show Aliased (ldsrCore id (ldsrData call) call.state.cpu) ↔ _
        rw [aliased_ldsrCore id _ hstate, hbefore.breaksAlias]
        unfold ClockBreaksAlias
        rw [hof]
        constructor
        · rintro h ⟨id', data', heq, hbreaks⟩
          cases heq
          exact h hbreaks
        · intro h hbreaks
          exact h ⟨id, _, rfl, hbreaks⟩
    · refine hnone ?_ (hafter.aliased.mpr ?_)
      · simp [hcall, ldsrOf, hldsr]
      · exact (keeps_aliasStep hldsr htable call.decodedCode).keeps call.state hstate

theorem aliased_cpuInit : ∀ c, Aliased (cpuInit c) := by
  decide +kernel

theorem aliased_invariant (p : Platform D) :
    ((machine p).guarded fun e m => KeepsAlias p e m).Invariant fun m =>
      WellFormed p m ∧ ∀ c, Aliased (m.cores c) := by
  refine ((wellFormed_invariant p).guarded _).strengthen ?_ ?_
  · rintro m ⟨dev, rfl⟩ c
    exact aliased_cpuInit c
  · rintro e m m' hform halias ⟨hkeeps, hstep⟩ i
    by_cases he : ∃ c cached, e = .clock c cached
    · obtain ⟨c, cached, rfl⟩ := he
      cases hstep with
      | clock _ _ _ _ =>
        rw [cores_putClockState]
        split_ifs with hi
        · exact (aliased_clock cached (hform.cache c) (halias c)).mpr (hkeeps c cached rfl)
        · exact halias i
    · have hsame := sameUnits_machineStep hstep (fun c cached h => he ⟨c, cached, h⟩) i
      exact hsame.aliased.mpr (halias i)

/-- In every run without an `LDSR` to `FPSR` that leaves a copy behind, the
registers agree on every core, and the next clock keeps them so exactly when it
executes no such instruction either. -/
theorem aliased_of_guarded {p : Platform D} {m : Machine D}
    (h : ((machine p).guarded fun e m => KeepsAlias p e m).Reachable m) :
    (∀ c, Aliased (m.cores c)) ∧
      ∀ c cached, Aliased (cpuSupplyClock p cached (m.clockState c)).2.cpu ↔
        ¬ ClockBreaksAlias p cached (m.clockState c) := by
  obtain ⟨hform, halias⟩ := (aliased_invariant p).of_reachable h
  exact ⟨halias, fun c cached => aliased_clock cached (hform.cache c) (halias c)⟩

/-! ## Programs that write the status -/

/-- What a clock writes decides whether it leaves a copy behind. -/
theorem not_clockBreaksAlias {p : Platform D} {cached : Word → Bool} {s : ClockState D}
    {write : Option (SysReg × Word)} (hwrite : ldsrOf (called p cached s) = write)
    (h : ∀ w ∈ write, w.1 ≠ .fpsr) : ¬ ClockBreaksAlias p cached s := by
  rintro ⟨id, data, hldsr, hbreaks⟩
  exact h (id, data) (hwrite.symm.trans hldsr) hbreaks.1

/-- An exception is recorded in `FPST`. -/
def fpstProgram : List HalfWord :=
  -- MOVEA 0x0010, r0, r1; LDSR r1, FPST
  [0x0E20, 0x0010, 0x47E1, 0x0020]

/-- The machine after these instructions. -/
def fpstRun (n : Nat) : Machine Unit :=
  (Machine.reset ()).clocks (romPlatform fpstProgram) 0 (fun _ => false) n

theorem keepsAlias_fpstRun (k : Nat) (hk : k < 2) :
    KeepsAlias (romPlatform fpstProgram) (.clock 0 fun _ => false) (fpstRun k) := by
  intro c cached heq
  cases heq
  obtain rfl | rfl : k = 0 ∨ k = 1 := by omega
  · have hwrite : ldsrOf (called (romPlatform fpstProgram) (fun _ => false)
        ((fpstRun 0).clockState 0)) = none := by decide +kernel
    exact not_clockBreaksAlias hwrite nofun
  · have hwrite : ldsrOf (called (romPlatform fpstProgram) (fun _ => false)
        ((fpstRun 1).clockState 0)) = some (.fpst, 0x10) := by decide +kernel
    refine not_clockBreaksAlias hwrite ?_
    rintro _ ⟨⟩
    decide

/-- The registers after the write: `FPSR` has the exception, too. -/
theorem aliased_of_guarded_fpst :
    (∀ c, Aliased ((fpstRun 2).cores c)) ∧ ((fpstRun 2).cores 0).getSysreg2 .fpsr = 0x20010 ∧
      ∀ c cached,
        Aliased (cpuSupplyClock (romPlatform fpstProgram) cached
          ((fpstRun 2).clockState c)).2.cpu ↔
          ¬ ClockBreaksAlias (romPlatform fpstProgram) cached ((fpstRun 2).clockState c) := by
  obtain ⟨haliased, hclock⟩ := aliased_of_guarded (reachable_guardedClocks
    (.init ⟨(), rfl⟩) (by decide +kernel) keepsAlias_fpstRun)
  exact ⟨haliased, by decide +kernel, hclock⟩

/-- An exception is recorded in `FPSR`. -/
def fpsrProgram : List HalfWord :=
  -- MOVEA 0x0010, r0, r1; LDSR r1, FPSR
  [0x0E20, 0x0010, 0x37E1, 0x0020]

/-- After `LDSR` to `FPSR` the exception is missing in `FPST`. -/
theorem not_aliased_fpsr :
    ∃ m, (machine (romPlatform fpsrProgram)).Reachable m ∧ ¬ Aliased (m.cores 0) :=
  ⟨(Machine.reset ()).clocks (romPlatform fpsrProgram) 0 (fun _ => false) 2,
    reachable_clocks (reachable_reset _ ()) (by decide +kernel), by decide +kernel⟩

end Athrill
