import Athrill.Cpu.Window
import Athrill.Exec.Compute
import Athrill.Intc.Frame

/-!
# The registers that an instruction writes

An instruction writes the general registers that its encoding names as
destinations, and no others.  The one way around is the bus: the debugger's
window maps the general registers into the address space, where a store of a
word reaches them.

* `destinations`: the registers an instruction names to be written.
* `storedWords`: the addresses of the words that an instruction stores.
* `regs_opExecTable`: every other register is kept, whatever the outcome.
-/

namespace Routine

variable {σ ε α β : Type} {R : σ → σ → Prop}

/-- A loop over a list keeps what each of its passes keeps. -/
theorem keeps_forM_of_mem [Std.Refl R] [IsTrans σ R] {γ : Type} {l : List γ}
    {body : γ → Routine σ ε PUnit} (hbody : ∀ a ∈ l, Keeps R (body a)) : Keeps R (l.forM body) := by
  induction l with
  | nil => exact keeps_pure _
  | cons a l ih =>
    have hfirst : Keeps R (body a) := hbody a List.mem_cons_self
    have hrest : Keeps R (l.forM body) := ih fun b hb => hbody b (List.mem_cons_of_mem a hb)
    have hcons : (a :: l).forM body = body a >>= fun _ => l.forM body := rfl
    rw [hcons]
    infer_instance

/-- A read, and what follows for the value that it has given. -/
theorem related_read [Std.Refl R] {x : Routine σ ε α} [hx : Keeps Eq x] {f : α → Routine σ ε β}
    {s : σ} (hf : ∀ a, x.run s = (.ok a, s) → R s ((f a).run s).2) :
    R s ((x >>= f).run s).2 := by
  have hstate := hx.keeps s
  rw [run_bind]
  rcases hrun : x.run s with ⟨_ | a, s'⟩
  · rw [hrun] at hstate
    cases hstate
    exact refl_of R _
  · rw [hrun] at hstate
    cases hstate
    exact hf a hrun

end Routine

namespace Athrill

open TargetCore Routine

variable {D : Type}

/-! ## Destinations -/

/-- The accumulator pair of `MAC` and `MACU`. -/
abbrev macReg4 (d : OpCodeFormatType11) : Nat :=
  (((d.rfu <<< 1) ||| d.sub2).setWidth 32 <<< 1 : Word).toNat

/-- The general registers that an instruction names as its destinations. -/
def destinations (codeId : OpCodeId) (d : OpDecodedCode) : List Nat :=
  match codeId with
  | .add_1 | .and_1 | .divh_1 | .mov_1 | .mulh_1 | .not_1 | .or_1 | .satadd_1 | .satsub_1
  | .satsubr_1 | .sub_1 | .subr_1 | .xor_1 => [d.type1.reg2.toNat]
  | .sxb_1 | .sxh_1 | .zxb_1 | .zxh_1 => [d.type1.reg1.toNat]
  | .add_2 | .mov_2 | .mulh_2 | .sar_2 | .satadd_2 | .shl_2 | .shr_2 => [d.type2.reg2.toNat]
  | .sld_b_4 | .sld_h_4 | .sld_w_4 => [d.type4A.reg2.toNat]
  | .sld_bu_4 | .sld_hu_4 => [d.type4B.reg2.toNat]
  | .jarl_5 | .jr_5 => [d.type5.reg2.toNat]
  | .addi_6 | .andi_6 | .movea_6 | .movhi_6 | .mulhi_6 | .ori_6 | .satsubi_6 | .xori_6 =>
    [d.type6.reg2.toNat]
  | .jarl_6 | .mov_6 => [d.type6.reg1.toNat]
  | .ld_b_7 | .ld_bu_7 | .ld_h_7 | .ld_hu_7 | .ld_w_7 | .ldl_w_7 => [d.type7.reg2.toNat]
  | .loop_7 => [d.type7.reg1.toNat]
  | .rotl_7 => [(d.type7.disp >>> 10 &&& 0x1F).toNat]
  | .bins_9 | .sar_9 | .sasf_9 | .setf_9 | .shl_9 | .shr_9 | .stsr_9 => [d.type9.reg2.toNat]
  | .sch0l_9 | .sch0r_9 | .sch1l_9 | .sch1r_9 => [d.type9.rfu2.toNat]
  | .div_11 | .divh_11 | .divhu_11 | .divq_11 | .divqu_11 | .divu_11 | .mul_11 | .mulu_11 =>
    [d.type11.reg2.toNat, d.type11.reg3.toNat]
  | .adf_11 | .caxi_11 | .cmov_11 | .jarl_11 | .sar_11 | .satadd_11 | .satsub_11 | .sbf_11
  | .shl_11 | .shr_11 => [d.type11.reg3.toNat]
  | .mac_11 | .macu_11 => [macReg4 d.type11, macReg4 d.type11 + 1]
  | .popsp_11 =>
    Exec.cpuRegSp :: List.range' d.type11.reg1.toNat (d.type11.reg3.toNat + 1 - d.type11.reg1.toNat)
  | .pushsp_11 => [Exec.cpuRegSp]
  | .mul_12 | .mulu_12 => [d.type12.reg2.toNat, d.type12.reg3.toNat]
  | .bsh_12 | .bsw_12 | .cmov_12 | .hsh_12 | .hsw_12 => [d.type12.reg3.toNat]
  | .prepare_13 => [Exec.cpuRegSp, Exec.cpuRegEp]
  | .dispose_13 => Exec.cpuRegSp :: (Exec.listRegs.filter d.type13.list).map Fin.val
  | .ld_b_14 | .ld_bu_14 | .ld_h_14 | .ld_hu_14 | .ld_w_14 => [d.type14.reg3.toNat]
  | .ld_dw_14 => [d.type14.reg3.toNat + 0, d.type14.reg3.toNat + 1]
  | .absf_s_F | .addf_s_F | .ceilf_duw_F | .cmovf_s_F | .cvtf_ds_F | .cvtf_duw_F | .cvtf_dw_F
  | .cvtf_ls_F | .cvtf_suw_F | .cvtf_sw_F | .cvtf_uls_F | .cvtf_uws_F | .cvtf_ws_F | .divf_s_F
  | .fmaf_s_F | .fmsf_s_F | .fnmaf_s_F | .fnmsf_s_F | .maxf_s_F | .minf_s_F | .mulf_s_F
  | .negf_s_F | .subf_s_F | .trncf_duw_F | .trncf_dw_F | .trncf_suw_F | .trncf_sw_F =>
    [d.typeF.reg3.toNat]
  | .maddf_s_F | .msubf_s_F | .nmaddf_s_F | .nmsubf_s_F => [Exec.reg4 d.typeF]
  | .absf_d_F | .addf_d_F | .ceilf_dl_F | .ceilf_dul_F | .cmovf_d_F | .cvtf_dl_F | .cvtf_dul_F
  | .cvtf_ld_F | .cvtf_sd_F | .cvtf_uld_F | .cvtf_uwd_F | .cvtf_wd_F | .divf_d_F
  | .floorf_sul_F | .maxf_d_F | .minf_d_F | .mulf_d_F | .negf_d_F | .recipf_d_F | .rsqrtf_d_F
  | .sqrtf_d_F | .subf_d_F | .trncf_dl_F | .trncf_dul_F | .trncf_sul_F =>
    [d.typeF.reg3.toNat, d.typeF.reg3.toNat + 1]
  | _ => []

/-! ## Stores of words -/

/-- The addresses of the words that an instruction stores over the bus. -/
def storedWords (codeId : OpCodeId) (d : OpDecodedCode) (cpu : TargetCore) : List Word :=
  match codeId with
  | .sst_w_4 => [cpu.r 30 + (opZeroExtend 6 d.type4A.disp <<< 2)]
  | .st_w_7 | .st_h_7 | .stc_w_7 =>
    if d.type7.gen = 0 then [] else [cpu.reg d.type7.reg1 + Exec.disp16 d.type7 0]
  | .st_w_14 => [cpu.reg d.type14.reg1 + Exec.disp23 d.type14]
  | .st_dw_14 =>
    [cpu.reg d.type14.reg1 + Exec.disp23 d.type14, cpu.reg d.type14.reg1 + Exec.disp23 d.type14 + 4]
  | .pushsp_11 =>
    (List.range (d.type11.reg3.toNat + 1 - d.type11.reg1.toNat)).map fun i =>
      (cpu.r 3 &&& 0xFFFFFFFC#32) - 4 * BitVec.ofNat 32 (i + 1)
  | _ => []

/-! ## The relation -/

/-- The registers outside the list are kept. -/
def RegFrame (dest : List Nat) (s s' : CpuState D) : Prop :=
  ∀ n : Fin 32, n.val ∉ dest → s'.cpu.r n = s.cpu.r n

variable {dest : List Nat}

instance : Std.Refl (RegFrame dest : CpuState D → CpuState D → Prop) where
  refl _ _ _ := rfl

instance : IsTrans (CpuState D) (RegFrame dest) where
  trans _ _ _ h h' n hn := (h' n hn).trans (h n hn)

theorem RegFrame.of_eq {s s' : CpuState D} (hr : s'.cpu.r = s.cpu.r) : RegFrame dest s s' :=
  fun n _ => congrFun hr n

theorem RegFrame.mono {dest' : List Nat} (hsub : dest ⊆ dest') {s s' : CpuState D}
    (h : RegFrame dest s s') : RegFrame dest' s s' :=
  fun n hn => h n fun hmem => hn (hsub hmem)

namespace Exec

variable {α : Type}

theorem keeps_regs_modifyCpu {f : TargetCore → TargetCore} (h : ∀ cpu, SameRegs cpu (f cpu)) :
    Keeps (RegFrame dest) (modifyCpu f : Exec D Unit) :=
  keeps_modify fun s => .of_eq (h s.cpu)

theorem keeps_regs_modifyIntc {f : CoreId → CpuIntc → CpuIntc}
    (h : ∀ coreId s, SameRegs s.cpu (f coreId s).cpu) :
    Keeps (RegFrame dest) (modifyIntc f : Exec D Unit) :=
  keeps_modify fun s => .of_eq (h s.cpu.coreId s.toCpuIntc)

theorem r_busAccess (access : CpuState D → Option α × BusView D) (s : CpuState D) :
    ((busAccess access : Exec D α).run s).2.cpu.r = (access s).2.r := by
  unfold busAccess
  rw [run_lift]
  rcases access s with ⟨_ | _, _⟩
  · rfl
  · rfl

theorem keeps_regs_access {access : CpuState D → Option α × BusView D}
    (h : ∀ s, (access s).2.r = s.cpu.r) :
    Keeps (RegFrame dest) (busAccess access : Exec D α) :=
  ⟨fun s => .of_eq ((r_busAccess access s).trans (h s))⟩

/-! ## Writes to a destination -/

theorem keeps_regs_setR_of_mem {n : Nat} (hn : n ∈ dest) (data : Word) :
    Keeps (RegFrame dest) (setR n data : Exec D Unit) := by
  refine ⟨fun s m hm => ?_⟩
  unfold setR
  split_ifs with hlt
  · have hne : m ≠ ⟨n, hlt⟩ := by
      rintro rfl
      exact hm hn
    exact Function.update_of_ne hne _ _
  · rfl

instance keeps_regs_setR (n : Nat) (rest : List Nat) (data : Word) :
    Keeps (RegFrame (n :: rest)) (setR n data : Exec D Unit) :=
  keeps_regs_setR_of_mem List.mem_cons_self data

instance keeps_regs_setR_second (m n : Nat) (rest : List Nat) (data : Word) :
    Keeps (RegFrame (m :: n :: rest)) (setR n data : Exec D Unit) :=
  keeps_regs_setR_of_mem (List.mem_cons_of_mem m List.mem_cons_self) data

/-! ## Everything else -/

instance keeps_regs_fail : Keeps (RegFrame dest) (fail : Exec D α) :=
  keeps_stop _

instance keeps_regs_undefined : Keeps (RegFrame dest) (undefined : Exec D α) :=
  keeps_stop _

instance keeps_regs_getCpu (f : TargetCore → α) : Keeps (RegFrame dest) (getCpu f : Exec D α) :=
  keeps_gets _

instance keeps_regs_getR (n : Nat) : Keeps (RegFrame dest) (getR n : Exec D Word) := by
  unfold getR
  infer_instance

instance keeps_regs_getPc : Keeps (RegFrame dest) (getPc : Exec D Word) :=
  keeps_gets _

instance keeps_regs_getPcAdd (n : Word) : Keeps (RegFrame dest) (getPcAdd n : Exec D Word) :=
  keeps_gets _

instance keeps_regs_setPc (pc : Word) : Keeps (RegFrame dest) (setPc pc : Exec D Unit) :=
  keeps_regs_modifyCpu fun _ => rfl

instance keeps_regs_addPc (n : Word) : Keeps (RegFrame dest) (addPc n : Exec D Unit) :=
  keeps_regs_modifyCpu fun _ => rfl

instance keeps_regs_failIf (c : Prop) [Decidable c] :
    Keeps (RegFrame dest) (failIf c : Exec D Unit) := by
  unfold failIf
  infer_instance

instance keeps_regs_checkReg (n : Nat) : Keeps (RegFrame dest) (checkReg n : Exec D Unit) :=
  keeps_regs_failIf _

instance keeps_regs_putPsw (bit : Nat) (flag : Bool) :
    Keeps (RegFrame dest) (putPsw bit flag : Exec D Unit) :=
  keeps_regs_modifyCpu fun cpu => by cases flag <;> rfl

instance keeps_regs_setZ (flag : Bool) : Keeps (RegFrame dest) (setZ flag : Exec D Unit) :=
  keeps_regs_putPsw _ flag

instance keeps_regs_setS (flag : Bool) : Keeps (RegFrame dest) (setS flag : Exec D Unit) :=
  keeps_regs_putPsw _ flag

instance keeps_regs_setOV (flag : Bool) : Keeps (RegFrame dest) (setOV flag : Exec D Unit) :=
  keeps_regs_putPsw _ flag

instance keeps_regs_setCY (flag : Bool) : Keeps (RegFrame dest) (setCY flag : Exec D Unit) :=
  keeps_regs_putPsw _ flag

instance keeps_regs_setSAT (flag : Bool) : Keeps (RegFrame dest) (setSAT flag : Exec D Unit) :=
  keeps_regs_putPsw _ flag

instance keeps_regs_addElaps (n : Word) : Keeps (RegFrame dest) (addElaps n : Exec D Unit) :=
  keeps_regs_modifyCpu fun _ => rfl

instance keeps_regs_clearElaps : Keeps (RegFrame dest) (clearElaps : Exec D Unit) :=
  keeps_regs_modifyCpu fun _ => rfl

instance keeps_regs_getSysregId (selid regid : Nat) :
    Keeps (RegFrame dest) (getSysregId selid regid : Exec D SysReg) := by
  unfold getSysregId
  infer_instance

instance keeps_regs_raiseCode (exno : ExceptionId) :
    Keeps (RegFrame dest) (raiseCode exno : Exec D Unit) :=
  keeps_regs_modifyCpu fun _ => rfl

instance keeps_regs_raiseFpst (bits : Byte) :
    Keeps (RegFrame dest) (raiseFpst bits : Exec D Unit) :=
  keeps_regs_modifyCpu fun _ => rfl

instance keeps_regs_putFpsrCc (data : Byte) :
    Keeps (RegFrame dest) (putFpsrCc data : Exec D Unit) :=
  keeps_regs_modifyCpu fun _ => rfl

instance keeps_regs_hostEval (f : D → α × D) :
    Keeps (RegFrame dest) (hostEval f : Exec D α) :=
  keeps_lift fun _ => .of_eq rfl

instance keeps_regs_hasPermission (accessType : TargetMpuAccess) (addr size : Word) :
    Keeps (RegFrame dest) (hasPermission accessType addr size : Exec D Bool) := by
  refine ⟨fun s => .of_eq ?_⟩
  obtain ⟨info, hinfo⟩ := targetMpuHasPermission_snd s.cpu accessType addr size
  show (targetMpuHasPermission s.cpu accessType addr size).2.r = s.cpu.r
  rw [hinfo]
  rfl

/-! ## Privileged instructions -/

theorem r_ldsrWrite (id : SysReg) (data : Word) (cpu : TargetCore) :
    (fpuSyncSysreg id (ldsrWrite id data cpu)).r = cpu.r := by
  have hsync (cpu' : TargetCore) : (fpuSyncSysreg id cpu').r = cpu'.r := by
    obtain ⟨sys, hsys⟩ := eq_of_fpuSyncSysreg id cpu'
    rw [hsys]
  have hhook : (mpuHookAccessWrite data id.selid.val id.regid.val cpu).r = cpu.r := by
    obtain ⟨sys, hsys⟩ := eq_of_mpuHookAccessWrite data id.selid.val id.regid.val cpu
    rw [hsys]
  rw [hsync]
  unfold ldsrWrite
  dsimp only
  split_ifs
  · rfl
  · rfl
  · rfl
  · rfl
  · rfl
  · exact hhook
  · rfl

instance keeps_regs_ldsrWrite (id : SysReg) (data : Word) :
    Keeps (RegFrame dest)
      (modifyCpu fun cpu => fpuSyncSysreg id (ldsrWrite id data cpu) : Exec D Unit) :=
  keeps_regs_modifyCpu (r_ldsrWrite id data)

instance keeps_regs_restoreEi : Keeps (RegFrame dest) (modifyCpu restoreEi : Exec D Unit) :=
  keeps_regs_modifyCpu kept_restoreEi

instance keeps_regs_restoreFe : Keeps (RegFrame dest) (modifyCpu restoreFe : Exec D Unit) :=
  keeps_regs_modifyCpu kept_restoreFe

instance keeps_regs_intcClrEi : Keeps (RegFrame dest) (modifyIntc intcClrEi : Exec D Unit) :=
  keeps_regs_modifyIntc kept_intcClrEi

instance keeps_regs_intcClrFe : Keeps (RegFrame dest) (modifyIntc intcClrFe : Exec D Unit) :=
  keeps_regs_modifyIntc kept_intcClrFe

instance keeps_regs_trapEntry (vector : Word) :
    Keeps (RegFrame dest) (modifyCpu (trapEntry vector) : Exec D Unit) :=
  keeps_regs_modifyCpu (kept_trapEntry vector)

instance keeps_regs_fetrapEntry (vector : Word) :
    Keeps (RegFrame dest) (modifyCpu (fetrapEntry vector) : Exec D Unit) :=
  keeps_regs_modifyCpu (kept_fetrapEntry vector)

instance keeps_regs_syscallEntry (vector8 : Word) :
    Keeps (RegFrame dest) (modifyCpu (syscallEntry vector8) : Exec D Unit) :=
  keeps_regs_modifyCpu (kept_syscallEntry vector8)

instance keeps_regs_diei (gen1 : HalfWord) :
    Keeps (RegFrame dest) (modifyCpu fun cpu =>
      if gen1 = 0x04 then cpu.clrPsw pswID else cpu.setPsw pswID : Exec D Unit) := by
  refine keeps_regs_modifyCpu fun cpu => ?_
  split_ifs
  · rfl
  · rfl

instance keeps_regs_halt :
    Keeps (RegFrame dest) (modifyCpu fun cpu => { cpu with isHalt := true } : Exec D Unit) :=
  keeps_regs_modifyCpu fun _ => rfl

/-! ## Reads -/

instance keeps_eq_fail : Keeps Eq (fail : Exec D α) := keeps_stop _

instance keeps_eq_undefined : Keeps Eq (undefined : Exec D α) := keeps_stop _

instance keeps_eq_getR (n : Nat) : Keeps Eq (getR n : Exec D Word) := by
  unfold getR getCpu
  infer_instance

instance keeps_eq_checkReg (n : Nat) : Keeps Eq (checkReg n : Exec D Unit) := by
  unfold checkReg failIf
  infer_instance

instance keeps_eq_failIf (c : Prop) [Decidable c] : Keeps Eq (failIf c : Exec D Unit) := by
  unfold failIf
  infer_instance

theorem getR_ok {n : Nat} {s : CpuState D} {data : Word} (h : (getR n).run s = (.ok data, s)) :
    ∃ hn : n < 32, data = s.cpu.r ⟨n, hn⟩ := by
  by_cases hn : n < 32
  · rw [run_getR hn] at h
    cases h
    exact ⟨hn, rfl⟩
  · unfold getR at h
    rw [dif_neg hn] at h
    cases h

/-! ## Stores -/

/-- Every register but one. -/
def others (n : Fin 32) : List Nat := (List.range 32).filter fun m => m ≠ n.val

theorem not_mem_others (n : Fin 32) : n.val ∉ others n := by
  unfold others
  simp

theorem mem_others {n : Fin 32} {m : Nat} (hm : m < 32) (hne : n.val ≠ m) : m ∈ others n := by
  unfold others
  simp only [List.mem_filter, List.mem_range, decide_eq_true_eq]
  exact ⟨hm, hne.symm⟩

section Store

variable {bus : Bus D} (hbus : WindowBus bus) {n : Fin 32}
include hbus

/-- A store of a word reaches one register of the window at most. -/
theorem keeps_regs_putData32 {addr : Word} (haway : registerIndex addr ≠ n.val) (data : Word) :
    Keeps (RegFrame (others n)) (busPutData32 bus addr data) := by
  refine ⟨fun s m hm => ?_⟩
  have heq : m = n := by
    by_contra hne
    exact hm (mem_others m.isLt fun h => hne (Fin.ext h.symm))
  subst heq
  unfold busPutData32
  rw [r_busAccess]
  exact hbus.put32 s addr data m haway

/-- `ST.W` and its relatives. -/
theorem regs_st (mayOverflow : D → Word → Word → Bool) {reg1 : Nat} (src : HalfWord)
    {disp : Word} (size : Word) {s : CpuState D}
    (haway : ∀ h : reg1 < 32, registerIndex (s.cpu.r ⟨reg1, h⟩ + disp) ≠ n.val) :
    RegFrame (others n) s
      ((st mayOverflow reg1 src disp size (store32 bus)).run s).2 := by
  refine related_read fun _ _ => related_read fun _ _ => related_read fun base hbase => ?_
  obtain ⟨hreg1, rfl⟩ := getR_ok hbase
  have hput (data : Word) : Keeps (RegFrame (others n)) (store32 bus _ data) :=
    keeps_regs_putData32 hbus (haway hreg1) data
  have hrest : Keeps (RegFrame (others n)) (do
      checkStack mayOverflow reg1 (s.cpu.r ⟨reg1, hreg1⟩) (isTrue disp)
      let data ← getR src.toNat
      store32 bus (s.cpu.r ⟨reg1, hreg1⟩ + disp) data
      addPc size) := by
    infer_instance
  exact hrest.keeps s

theorem regs_opExecStDw14 (mayOverflow : D → Word → Word → Bool) (d : OpCodeFormatType14)
    {s : CpuState D}
    (haway : ∀ h : d.reg1.toNat < 32, ∀ addr, addr = s.cpu.r ⟨d.reg1.toNat, h⟩ + disp23 d →
      registerIndex addr ≠ n.val ∧ registerIndex (addr + 4) ≠ n.val) :
    RegFrame (others n) s ((opExecStDw14 bus mayOverflow d).run s).2 := by
  refine related_read fun _ _ => related_read fun _ _ => related_read fun _ _ =>
    related_read fun base hbase => ?_
  obtain ⟨hreg1, rfl⟩ := getR_ok hbase
  generalize haddr : s.cpu.r ⟨d.reg1.toNat, hreg1⟩ + disp23 d = addr
  obtain ⟨haway₀, haway₁⟩ := haway hreg1 addr haddr.symm
  have hput₀ (data : Word) : Keeps (RegFrame (others n)) (busPutData32 bus addr data) :=
    keeps_regs_putData32 hbus haway₀ data
  have hput₁ (data : Word) : Keeps (RegFrame (others n)) (busPutData32 bus (addr + 4) data) :=
    keeps_regs_putData32 hbus haway₁ data
  have hrest : Keeps (RegFrame (others n)) (do
      checkStack mayOverflow d.reg1.toNat (s.cpu.r ⟨d.reg1.toNat, hreg1⟩) (disp23 d)
      let granted ← hasPermission .write addr 8
      failIf (granted = false)
      let data0 ← getR d.reg3.toNat
      busPutData32 bus addr data0
      let data1 ← getR (d.reg3.toNat + 1)
      busPutData32 bus (addr + 4) data1
      addPc 6) := by
    infer_instance
  exact hrest.keeps s

theorem keeps_regs_pushspLoop (k cur : Nat) (tmpSp : Word)
    (haway : ∀ i < k, registerIndex (tmpSp - 4 * BitVec.ofNat 32 (i + 1)) ≠ n.val) :
    Keeps (RegFrame (others n)) (pushspLoop bus k cur tmpSp) := by
  induction k generalizing cur tmpSp with
  | zero => exact keeps_pure _
  | succ k ih =>
    have hput (data : Word) : Keeps (RegFrame (others n)) (busPutData32 bus (tmpSp - 4) data) :=
      keeps_regs_putData32 hbus (haway 0 (by omega)) data
    have hnext : Keeps (RegFrame (others n)) (pushspLoop bus k (cur + 1) (tmpSp - 4)) := by
      refine ih (cur + 1) (tmpSp - 4) fun i hi => ?_
      have hstep : tmpSp - 4 - 4 * BitVec.ofNat 32 (i + 1) =
          tmpSp - 4 * BitVec.ofNat 32 (i + 1 + 1) := by
        have hnext : BitVec.ofNat 32 (i + 1 + 1) = BitVec.ofNat 32 (i + 1) + 1 :=
          BitVec.ofNat_add (i + 1) 1
        rw [hnext, BitVec.mul_add]
        generalize 4 * BitVec.ofNat 32 (i + 1) = depth
        bv_omega
      rw [hstep]
      exact haway (i + 1) (by omega)
    rw [pushspLoop]
    infer_instance

/-- `PUSHSP` writes the stack pointer. -/
theorem regs_opExecPushsp11 (d : OpCodeFormatType11) {s : CpuState D} (hsp : n.val ≠ cpuRegSp)
    (haway : ∀ i < d.reg3.toNat + 1 - d.reg1.toNat,
      registerIndex ((s.cpu.r 3 &&& 0xFFFFFFFC#32) - 4 * BitVec.ofNat 32 (i + 1)) ≠ n.val) :
    RegFrame (others n) s ((opExecPushsp11 bus d).run s).2 := by
  unfold opExecPushsp11
  split_ifs
  · exact (keeps_regs_addPc 4).keeps s
  · refine related_read fun sp hread => ?_
    have hvalue : sp = s.cpu.r 3 := by
      rw [run_getSp] at hread
      cases hread
      rfl
    subst hvalue
    have hloop := keeps_regs_pushspLoop hbus (d.reg3.toNat + 1 - d.reg1.toNat) d.reg1.toNat
      (s.cpu.r 3 &&& 0xFFFFFFFC#32) haway
    have hset (data : Word) : Keeps (RegFrame (others n)) (setR cpuRegSp data : Exec D Unit) :=
      keeps_regs_setR_of_mem (mem_others (by decide) hsp) data
    have hrest : Keeps (RegFrame (others n)) (do
        let tmpSp ← pushspLoop bus (d.reg3.toNat + 1 - d.reg1.toNat) d.reg1.toNat
          (s.cpu.r 3 &&& 0xFFFFFFFC#32)
        setR cpuRegSp tmpSp
        addPc 4) := by
      infer_instance
    exact hrest.keeps s

/-! ## Loads of several registers -/

omit n in
theorem keeps_regs_popspLoop (k cur : Nat) (tmpSp : Word) (hdest : ∀ i < k, cur - i ∈ dest) :
    Keeps (RegFrame dest) (popspLoop bus k cur tmpSp) := by
  have hget (addr : Word) : Keeps (RegFrame dest) (busGetData32 bus addr) :=
    keeps_regs_access fun s => hbus.get32 s addr
  induction k generalizing cur tmpSp with
  | zero => exact keeps_pure _
  | succ k ih =>
    have hset (data : Word) : Keeps (RegFrame dest) (setR cur data : Exec D Unit) :=
      keeps_regs_setR_of_mem (hdest 0 (by omega)) data
    have hnext (tmpSp : Word) : Keeps (RegFrame dest) (popspLoop bus k (cur - 1) tmpSp) := by
      refine ih (cur - 1) tmpSp fun i hi => ?_
      have hmem := hdest (i + 1) (by omega)
      rwa [show cur - 1 - i = cur - (i + 1) by omega]
    rw [popspLoop]
    infer_instance

end Store

theorem keeps_regs_disposeLoad {bus : Bus D} (list : Fin 32 → Bool) {i : Fin 32}
    (hi : i ∈ listRegs) :
    Keeps (RegFrame (cpuRegSp :: (listRegs.filter list).map Fin.val))
      (disposeLoad bus list i) := by
  have hpointer (addr : Word) :
      Keeps (RegFrame (cpuRegSp :: (listRegs.filter list).map Fin.val))
        (busGetPointer bus addr) :=
    keeps_regs_access fun _ => rfl
  cases hlist : list i with
  | false =>
    unfold disposeLoad
    rw [hlist]
    exact keeps_pure _
  | true =>
    have hmem : i.val ∈ cpuRegSp :: (listRegs.filter list).map Fin.val :=
      List.mem_cons_of_mem _ (List.mem_map_of_mem (List.mem_filter.mpr ⟨hi, hlist⟩))
    have hset (data : Word) : Keeps (RegFrame (cpuRegSp :: (listRegs.filter list).map Fin.val))
        (setR i.val data : Exec D Unit) :=
      keeps_regs_setR_of_mem hmem data
    infer_instance

end Exec

/-! ## Every instruction -/

/-- The instructions that store a word over the bus. -/
def storesWord : OpCodeId → Bool
  | .sst_w_4 | .st_w_7 | .st_h_7 | .stc_w_7 | .st_w_14 | .st_dw_14 | .pushsp_11 => true
  | _ => false

set_option synthInstance.maxSize 100000 in
/-- Without a store of a word, the registers outside the destinations are kept. -/
theorem keeps_regFrame {p : Platform D} (hbus : WindowBus p.bus) {codeId : OpCodeId}
    {executor : OpDecodedCode → Exec D Unit} (hword : storesWord codeId = false)
    (hexec : opExecTable p codeId = some executor) (d : OpDecodedCode) :
    Keeps (RegFrame (destinations codeId d)) (executor d) := by
  have hget8 (dest : List Nat) (addr : Word) :
      Keeps (RegFrame dest) (Exec.busGetData8 p.bus addr) :=
    Exec.keeps_regs_access fun s => hbus.get8 s addr
  have hget16 (dest : List Nat) (addr : Word) :
      Keeps (RegFrame dest) (Exec.busGetData16 p.bus addr) :=
    Exec.keeps_regs_access fun s => hbus.get16 s addr
  have hget32 (dest : List Nat) (addr : Word) :
      Keeps (RegFrame dest) (Exec.busGetData32 p.bus addr) :=
    Exec.keeps_regs_access fun s => hbus.get32 s addr
  have hput8 (dest : List Nat) (addr : Word) (data : Byte) :
      Keeps (RegFrame dest) (Exec.busPutData8 p.bus addr data) :=
    Exec.keeps_regs_access fun s => hbus.put8 s addr data
  have hput16 (dest : List Nat) (addr : Word) (data : HalfWord) :
      Keeps (RegFrame dest) (Exec.busPutData16 p.bus addr data) :=
    Exec.keeps_regs_access fun s => hbus.put16 s addr data
  have hpointer (dest : List Nat) (addr : Word) :
      Keeps (RegFrame dest) (Exec.busGetPointer p.bus addr) :=
    Exec.keeps_regs_access fun _ => rfl
  have hstore (dest : List Nat) (addr data : Word) :
      Keeps (RegFrame dest) (Exec.busStorePointer p.bus addr data) := by
    refine Exec.keeps_regs_access fun s => ?_
    cases hv : p.bus.storePointer s addr data with
    | none => rfl
    | some v => exact hbus.pointer s addr data v hv
  have hdispose : Keeps
      (RegFrame (Exec.cpuRegSp :: (Exec.listRegs.filter d.type13.list).map Fin.val))
      (Exec.listRegs.reverse.forM (Exec.disposeLoad p.bus d.type13.list)) :=
    keeps_forM_of_mem fun i hi =>
      Exec.keeps_regs_disposeLoad d.type13.list (List.mem_reverse.mp hi)
  have hpopsp (tmpSp : Word) : Keeps (RegFrame (Exec.cpuRegSp ::
        List.range' d.type11.reg1.toNat (d.type11.reg3.toNat + 1 - d.type11.reg1.toNat)))
      (Exec.popspLoop p.bus (d.type11.reg3.toNat + 1 - d.type11.reg1.toNat) d.type11.reg3.toNat
        tmpSp) := by
    refine Exec.keeps_regs_popspLoop hbus _ _ _ fun i hi => List.mem_cons_of_mem _ ?_
    rw [List.mem_range'_1]
    omega
  refine entry_holds ?_ hexec
  clear hexec
  induction codeId <;>
    first
    | exact trivial
    | exact Bool.noConfusion hword
    | (change Keeps (RegFrame _) _; dsimp only [destinations]; infer_instance)

set_option synthInstance.maxSize 100000 in
/-- An instruction that stores words keeps a register that it does not write and
whose place in the window is not among the words. -/
theorem regs_storesWord {p : Platform D} (hbus : WindowBus p.bus) {codeId : OpCodeId}
    {executor : OpDecodedCode → Exec D Unit} (hword : storesWord codeId = true)
    (hexec : opExecTable p codeId = some executor) (d : OpDecodedCode) {s : CpuState D}
    {n : Fin 32} (hdest : n.val ∉ destinations codeId d)
    (haway : ∀ addr ∈ storedWords codeId d s.cpu, registerIndex addr ≠ n.val) :
    RegFrame (Exec.others n) s ((executor d).run s).2 := by
  have hput16 (addr : Word) (data : HalfWord) :
      Keeps (RegFrame (Exec.others n)) (Exec.busPutData16 p.bus addr data) :=
    Exec.keeps_regs_access fun s => hbus.put16 s addr data
  have hsthw (hsingle : ∀ addr ∈ if d.type7.gen = 0 then [] else
      [s.cpu.reg d.type7.reg1 + Exec.disp16 d.type7 0], registerIndex addr ≠ n.val) :
      RegFrame (Exec.others n) s
        ((Exec.opExecSthw p.bus p.mayStoreOnStackOverflow d.type7).run s).2 := by
    unfold Exec.opExecSthw
    split_ifs with hgen
    · have hhalf : Keeps (RegFrame (Exec.others n)) (Exec.st p.mayStoreOnStackOverflow
          d.type7.reg1.toNat d.type7.reg2 (Exec.disp16 d.type7 0) 4 (Exec.store16 p.bus)) := by
        infer_instance
      exact hhalf.keeps s
    · rw [if_neg hgen] at hsingle
      refine Exec.regs_st hbus _ _ _ fun h => hsingle _ (List.mem_singleton.mpr ?_)
      rw [reg_of_lt h]
  cases codeId <;> cases hword <;> cases hexec
  case sst_w_4 => exact Exec.regs_st hbus _ _ _ fun _ => haway _ (List.mem_singleton_self _)
  case st_w_7 => exact hsthw haway
  case st_h_7 => exact hsthw haway
  case stc_w_7 => exact hsthw haway
  case st_w_14 =>
    refine Exec.regs_st hbus _ _ _ fun h => haway _ (List.mem_singleton.mpr ?_)
    rw [reg_of_lt h]
  case st_dw_14 =>
    refine Exec.regs_opExecStDw14 hbus _ _ fun h addr haddr => ?_
    rw [← reg_of_lt h] at haddr
    subst haddr
    exact ⟨haway _ List.mem_cons_self,
      haway _ (List.mem_cons_of_mem _ (List.mem_singleton_self _))⟩
  case pushsp_11 =>
    have hsp : n.val ≠ Exec.cpuRegSp := fun h => hdest (List.mem_singleton.mpr h)
    refine Exec.regs_opExecPushsp11 hbus _ hsp fun i hi => ?_
    exact haway _ (List.mem_map_of_mem (List.mem_range.mpr hi))

/-- Whatever its outcome, an instruction keeps every general register that it
does not name as a destination, unless it stores a word at the register's place
in the window. -/
theorem regs_opExecTable {p : Platform D} (hbus : WindowBus p.bus) {codeId : OpCodeId}
    {executor : OpDecodedCode → Exec D Unit} (hexec : opExecTable p codeId = some executor)
    (d : OpDecodedCode) {s : CpuState D} {n : Fin 32} (hdest : n.val ∉ destinations codeId d)
    (haway : ∀ addr ∈ storedWords codeId d s.cpu, registerIndex addr ≠ n.val) :
    ((executor d).run s).2.cpu.r n = s.cpu.r n := by
  cases hword : storesWord codeId with
  | false => exact (keeps_regFrame hbus hword hexec d).keeps s n hdest
  | true =>
    exact regs_storesWord hbus hword hexec d hdest haway n (Exec.not_mem_others n)

end Athrill
