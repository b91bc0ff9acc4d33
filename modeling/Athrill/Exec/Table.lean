import Athrill.Dec.Parse
import Athrill.Exec.Arithm
import Athrill.Exec.Bit
import Athrill.Exec.Fpu
import Athrill.Exec.Logic
import Athrill.Exec.System

/-!
# The instruction table

`op_exec_table` of `op_exec.c`: the executor and the clocks of every
instruction code.  Entries without an executor are `none`.

* `Platform`: what the executors need from outside the repository.
* `opExecTable`, `opExecClocks`: the two columns of the table.
* `opExecTable_opDecoder`: an executor reads the operands of its own format.
* `privileged`: the entries that can change the privileged state; all others
  keep it (`keeps_opExecTable`).
-/

namespace Athrill

open Routine

/-- The bus, the stack check and the floating-point host. -/
structure Platform (D : Type) where
  bus : Bus D
  mayStoreOnStackOverflow : D → Word → Word → Bool
  host : HostFloat D

variable {D : Type}

/-! ## The table -/

section Table

open Exec

/-- The executors of `op_exec_table`, as functions of the decoded code. -/
def opExecTable (p : Platform D) (codeId : OpCodeId) :
    Option (OpDecodedCode → Exec D Unit) :=
  match codeId with
  | .absf_d_F => some fun d => opExecAbsfDF p.host d.typeF
  | .absf_s_F => some fun d => opExecAbsfSF d.typeF
  | .add_1 => some fun d => opExecAdd1 d.type1
  | .add_2 => some fun d => opExecAdd2 d.type2
  | .addf_d_F => some fun d => opExecAddfDF p.host d.typeF
  | .addf_s_F => some fun d => opExecAddfSF p.host d.typeF
  | .addi_6 => some fun d => opExecAddi d.type6
  | .adf_11 => some fun d => opExecAdf11 d.type11
  | .and_1 => some fun d => opExecAnd d.type1
  | .andi_6 => some fun d => opExecAndi d.type6
  | .bins_9 => some fun d => opExecBins9 d.type9
  | .bsh_12 => some fun d => opExecBsh12 d.type12
  | .bsw_12 => some fun d => opExecBsw12 d.type12
  | .bcond_3 => some fun d => opExecBcond3 d.type3
  | .bcond_7 => some fun d => opExecBcond7 d.type7
  | .caxi_11 => some fun d => opExecCaxi p.bus d.type11
  | .ceilf_dl_F => some fun d => opExecCeilfDlF p.host d.typeF
  | .ceilf_dul_F => some fun d => opExecCeilfDulF p.host d.typeF
  | .ceilf_duw_F => some fun d => opExecCeilfDuwF p.host d.typeF
  | .ceilf_dw_F => some fun d => notSupported d.typeF
  | .clr1_8 => some fun d => opExecClr18 p.bus d.type8
  | .clr1_9 => some fun d => opExecClr19 p.bus d.type9
  | .cmov_12 => some fun d => opExecCmov12 d.type12
  | .cmov_11 => some fun d => opExecCmov11 d.type11
  | .cmovf_d_F => some fun d => opExecCmovfDF d.typeF
  | .cmovf_s_F => some fun d => opExecCmovfSF d.typeF
  | .cmp_1 => some fun d => opExecCmp1 d.type1
  | .cmp_2 => some fun d => opExecCmp2 d.type2
  | .cmpf_d_F => some fun d => opExecCmpfDF p.host d.typeF
  | .cmpf_s_F => some fun d => opExecCmpfSF p.host d.typeF
  | .cvtf_dl_F => some fun d => opExecCvtfDlF p.host d.typeF
  | .cvtf_ds_F => some fun d => opExecCvtfDsF p.host d.typeF
  | .cvtf_dul_F => some fun d => opExecCvtfDulF p.host d.typeF
  | .cvtf_duw_F => some fun d => opExecCvtfDuwF p.host d.typeF
  | .cvtf_dw_F => some fun d => opExecCvtfDwF p.host d.typeF
  | .cvtf_ld_F => some fun d => opExecCvtfLdF p.host d.typeF
  | .cvtf_ls_F => some fun d => opExecCvtfLsF p.host d.typeF
  | .cvtf_sd_F => some fun d => opExecCvtfSdF p.host d.typeF
  | .cvtf_suw_F => some fun d => opExecCvtfSuwF p.host d.typeF
  | .cvtf_sw_F => some fun d => opExecCvtfSwF p.host d.typeF
  | .cvtf_uld_F => some fun d => opExecCvtfUldF p.host d.typeF
  | .cvtf_uls_F => some fun d => opExecCvtfUlsF p.host d.typeF
  | .cvtf_uwd_F => some fun d => opExecCvtfUwdF p.host d.typeF
  | .cvtf_uws_F => some fun d => opExecCvtfUwsF p.host d.typeF
  | .cvtf_wd_F => some fun d => opExecCvtfWdF p.host d.typeF
  | .cvtf_ws_F => some fun d => opExecCvtfWsF p.host d.typeF
  | .di_10 => some fun d => opExecDiei d.type10
  | .dispose_13 => some fun d => opExecDispose p.bus d.type13
  | .div_11 => some fun d => opExecDiv d.type11
  | .divf_d_F => some fun d => opExecDivfDF p.host d.typeF
  | .divf_s_F => some fun d => opExecDivfSF p.host d.typeF
  | .divh_1 => some fun d => opExecDivh1 d.type1
  | .divh_11 => some fun d => opExecDivh11 d.type11
  | .divhu_11 => some fun d => opExecDivhu d.type11
  | .divq_11 => some fun d => opExecDiv d.type11
  | .divqu_11 => some fun d => opExecDivqu11 d.type11
  | .divu_11 => some fun d => opExecDivu d.type11
  | .ei_10 => some fun d => opExecDiei d.type10
  | .eiret_10 => some fun _ => opExecEiret10
  | .feret_10 => some fun _ => opExecFeret10
  | .fetrap_1 => some fun d => opExecFetrap1 d.type1
  | .floorf_dl_F => some fun d => notSupported d.typeF
  | .floorf_dul_F => some fun d => notSupported d.typeF
  | .floorf_duw_F => some fun d => notSupported d.typeF
  | .floorf_dw_F => some fun d => notSupported d.typeF
  | .floorf_sul_F => some fun d => opExecFloorfSulF p.host d.typeF
  | .fmaf_s_F => some fun d => opExecFmafSF p.host d.typeF
  | .fmsf_s_F => some fun d => opExecFmsfSF p.host d.typeF
  | .fnmaf_s_F => some fun d => opExecFnmafSF p.host d.typeF
  | .fnmsf_s_F => some fun d => opExecFnmsfSF p.host d.typeF
  | .halt_10 => some fun _ => opExecHalt
  | .hsh_12 => some fun d => opExecHsh12 d.type12
  | .hsw_12 => some fun d => opExecHsw12 d.type12
  | .jarl_6 => some fun d => opExecJarl6 p.bus d.type6
  | .jarl_5 => some fun d => opExecJr d.type5
  | .jarl_11 => some fun d => opExecJarl11 d.type11
  | .jmp_1 => some fun d => opExecJmp d.type1
  | .jmp_6 => some fun d => opExecJmp6 p.bus d.type6
  | .jr_6 => some fun d => opExecJr6 p.bus d.type6
  | .jr_5 => some fun d => opExecJr d.type5
  | .ldl_w_7 => some fun d => opExecLdhw p.bus d.type7
  | .ldsr_9 => some fun d => opExecLdsr d.type9
  | .ld_b_7 => some fun d => opExecLdb p.bus d.type7
  | .ld_b_14 => some fun d => opExecLdB14 p.bus d.type14
  | .ld_bu_7 => some fun d => opExecLdbu p.bus d.type7
  | .ld_bu_14 => some fun d => opExecLdBu14 p.bus d.type14
  | .ld_dw_14 => some fun d => opExecLdDw14 p.bus d.type14
  | .ld_h_7 => some fun d => opExecLdhw p.bus d.type7
  | .ld_h_14 => some fun d => opExecLdH14 p.bus d.type14
  | .ld_hu_14 => some fun d => opExecLdHu14 p.bus d.type14
  | .ld_hu_7 => some fun d => opExecLdhu p.bus d.type7
  | .ld_w_7 => some fun d => opExecLdhw p.bus d.type7
  | .ld_w_14 => some fun d => opExecLdW14 p.bus d.type14
  | .loop_7 => some fun d => opExecLoop7 d.type7
  | .mac_11 => some fun d => opExecMac11 d.type11
  | .macu_11 => some fun d => opExecMacu11 d.type11
  | .maddf_s_F => some fun d => opExecMaddfSF p.host d.typeF
  | .maxf_d_F => some fun d => opExecMaxfDF p.host d.typeF
  | .maxf_s_F => some fun d => opExecMaxfSF p.host d.typeF
  | .minf_d_F => some fun d => opExecMinfDF p.host d.typeF
  | .minf_s_F => some fun d => opExecMinfSF p.host d.typeF
  | .mov_1 => some fun d => opExecMov1 d.type1
  | .mov_2 => some fun d => opExecMov2 d.type2
  | .mov_6 => some fun d => opExecMov6 p.bus d.type6
  | .movea_6 => some fun d => opExecMovea d.type6
  | .movhi_6 => some fun d => opExecMovhi d.type6
  | .msubf_s_F => some fun d => opExecMsubfSF p.host d.typeF
  | .mul_11 => some fun d => opExecMul d.type11
  | .mul_12 => some fun d => opExecMul12 d.type12
  | .mulf_d_F => some fun d => opExecMulfDF p.host d.typeF
  | .mulf_s_F => some fun d => opExecMulfSF p.host d.typeF
  | .mulh_1 => some fun d => opExecMulh1 d.type1
  | .mulh_2 => some fun d => opExecMulh2 d.type2
  | .mulhi_6 => some fun d => opExecMulhi d.type6
  | .mulu_11 => some fun d => opExecMulu d.type11
  | .mulu_12 => some fun d => opExecMulu12 d.type12
  | .negf_d_F => some fun d => opExecNegfDF p.host d.typeF
  | .negf_s_F => some fun d => opExecNegfSF p.host d.typeF
  | .nmaddf_s_F => some fun d => opExecNmaddfSF p.host d.typeF
  | .nmsubf_s_F => some fun d => opExecNmsubfSF p.host d.typeF
  | .nop_1 => some fun _ => opExecNop
  | .not_1 => some fun d => opExecNot d.type1
  | .not1_8 => some fun d => opExecNot18 p.bus d.type8
  | .not1_9 => some fun d => opExecNot19 p.bus d.type9
  | .or_1 => some fun d => opExecOr d.type1
  | .ori_6 => some fun d => opExecOri d.type6
  | .popsp_11 => some fun d => opExecPopsp11 p.bus d.type11
  | .prepare_13 => some fun d => opExecPrepare p.bus d.type13
  | .pushsp_11 => some fun d => opExecPushsp11 p.bus d.type11
  | .recipf_d_F => some fun d => opExecRecipfDF p.host d.typeF
  | .reti_10 => some fun _ => opExecReti
  | .rotl_7 => some fun d => opExecRotl7 d.type7
  | .rsqrtf_d_F => some fun d => opExecRsqrtfDF p.host d.typeF
  | .sar_2 => some fun d => opExecSar2 d.type2
  | .sar_9 => some fun d => opExecSar9 d.type9
  | .sar_11 => some fun d => opExecSar11 d.type11
  | .sasf_9 => some fun d => opExecSasf9 d.type9
  | .satadd_1 => some fun d => opExecSatadd1 d.type1
  | .satadd_2 => some fun d => opExecSatadd2 d.type2
  | .satadd_11 => some fun d => opExecSatadd11 d.type11
  | .satsub_1 => some fun d => opExecSatsub1 d.type1
  | .satsub_11 => some fun d => opExecSatsub11 d.type11
  | .satsubi_6 => some fun d => opExecSatsubi d.type6
  | .satsubr_1 => some fun d => opExecSatsubr1 d.type1
  | .sbf_11 => some fun d => opExecSbf11 d.type11
  | .sch0l_9 => some fun d => opExecSch0l9 d.type9
  | .sch0r_9 => some fun d => opExecSch0r9 d.type9
  | .sch1l_9 => some fun d => opExecSch1l9 d.type9
  | .sch1r_9 => some fun d => opExecSch1r9 d.type9
  | .set1_8 => some fun d => opExecSet18 p.bus d.type8
  | .set1_9 => some fun d => opExecSet19 p.bus d.type9
  | .setf_9 => some fun d => opExecSetf d.type9
  | .shl_2 => some fun d => opExecShl2 d.type2
  | .shl_9 => some fun d => opExecShl9 d.type9
  | .shl_11 => some fun d => opExecShl11 d.type11
  | .shr_2 => some fun d => opExecShr2 d.type2
  | .shr_9 => some fun d => opExecShr9 d.type9
  | .shr_11 => some fun d => opExecShr11 d.type11
  | .sld_b_4 => some fun d => opExecSldb p.bus d.type4A
  | .sld_bu_4 => some fun d => opExecSldbu p.bus d.type4B
  | .sld_h_4 => some fun d => opExecSldh p.bus d.type4A
  | .sld_hu_4 => some fun d => opExecSldhu p.bus d.type4B
  | .sld_w_4 => some fun d => opExecSldw p.bus d.type4A
  | .sqrtf_d_F => some fun d => opExecSqrtfDF p.host d.typeF
  | .sst_b_4 => some fun d => opExecSstb p.bus p.mayStoreOnStackOverflow d.type4A
  | .sst_h_4 => some fun d => opExecSsth p.bus p.mayStoreOnStackOverflow d.type4A
  | .sst_w_4 => some fun d => opExecSstw p.bus p.mayStoreOnStackOverflow d.type4A
  | .stc_w_7 => some fun d => opExecSthw p.bus p.mayStoreOnStackOverflow d.type7
  | .stsr_9 => some fun d => opExecStsr d.type9
  | .st_b_7 => some fun d => opExecStb p.bus p.mayStoreOnStackOverflow d.type7
  | .st_b_14 => some fun d => opExecStB14 p.bus p.mayStoreOnStackOverflow d.type14
  | .st_dw_14 => some fun d => opExecStDw14 p.bus p.mayStoreOnStackOverflow d.type14
  | .st_h_7 => some fun d => opExecSthw p.bus p.mayStoreOnStackOverflow d.type7
  | .st_h_14 => some fun d => opExecStH14 p.bus p.mayStoreOnStackOverflow d.type14
  | .st_w_7 => some fun d => opExecSthw p.bus p.mayStoreOnStackOverflow d.type7
  | .st_w_14 => some fun d => opExecStW14 p.bus p.mayStoreOnStackOverflow d.type14
  | .sub_1 => some fun d => opExecSub d.type1
  | .subf_d_F => some fun d => opExecSubfDF p.host d.typeF
  | .subf_s_F => some fun d => opExecSubfSF p.host d.typeF
  | .subr_1 => some fun d => opExecSubr d.type1
  | .switch_1 => some fun d => opExecSwitch p.bus d.type1
  | .sxb_1 => some fun d => opExecSxb d.type1
  | .sxh_1 => some fun d => opExecSxh d.type1
  | .synce_1 => some fun _ => opExecSynce1
  | .synci_1 => some fun _ => opExecSynci1
  | .syncm_1 => some fun _ => opExecSyncm1
  | .syncp_1 => some fun _ => opExecSyncp1
  | .syscall_10 => some fun d => opExecSyscall10 p.bus d.type10
  | .trap_10 => some fun d => opExecTrap d.type10
  | .trfsr_F => some fun d => opExecTrfsrF d.typeF
  | .trncf_dl_F => some fun d => opExecTrncfDlF p.host d.typeF
  | .trncf_dul_F => some fun d => opExecTrncfDulF p.host d.typeF
  | .trncf_duw_F => some fun d => opExecTrncfDuwF p.host d.typeF
  | .trncf_dw_F => some fun d => opExecTrncfDwF p.host d.typeF
  | .trncf_sul_F => some fun d => opExecTrncfSulF p.host d.typeF
  | .trncf_suw_F => some fun d => opExecTrncfSuwF p.host d.typeF
  | .trncf_sw_F => some fun d => opExecTrncfSwF p.host d.typeF
  | .tst_1 => some fun d => opExecTst d.type1
  | .tst1_8 => some fun d => opExecTst18 p.bus d.type8
  | .tst1_9 => some fun d => opExecTst19 p.bus d.type9
  | .xor_1 => some fun d => opExecXor d.type1
  | .xori_6 => some fun d => opExecXori d.type6
  | .zxb_1 => some fun d => opExecZxb d.type1
  | .zxh_1 => some fun d => opExecZxh d.type1
  | .callt_2 | .ceilf_sl_F | .ceilf_sul_F | .ceilf_suw_F | .ceilf_sw_F | .ctret_10
  | .cvtf_hs_F | .cvtf_sh_F | .cvtf_sl_F | .cvtf_sul_F | .dbtrap_1 | .floorf_sl_F
  | .floorf_suw_F | .floorf_sw_F | .recipf_s_F | .rie_1 | .rie_10 | .roundf_sl_F
  | .roundf_sul_F | .roundf_suw_F | .roundf_sw_F | .rsqrtf_s_F | .snooze_10 | .sqrtf_s_F
  | .trncf_sl_F => none

end Table

/-- What the entry of an instruction code satisfies, if it has one. -/
theorem entry_holds {α β : Type} {P : β → Prop} {d : α} {entry : Option (α → β)}
    {executor : α → β} (hentry : entry.elim True fun execute => P (execute d))
    (hexec : entry = some executor) : P (executor d) := by
  subst hexec
  exact hentry

/-- The clocks of `op_exec_table`. -/
def opExecClocks : OpCodeId → Word
  | .dispose_13 | .ldl_w_7 | .popsp_11 | .prepare_13 | .pushsp_11 | .stc_w_7 => 2
  | .dbtrap_1 | .di_10 | .ei_10 | .jarl_11 | .ldsr_9 | .ld_b_7 | .ld_b_14 | .ld_bu_7
  | .ld_bu_14 | .ld_dw_14 | .ld_h_7 | .ld_h_14 | .ld_hu_14 | .ld_hu_7 | .ld_w_7 | .ld_w_14
  | .mac_11 | .macu_11 | .mul_11 | .mul_12 | .mulh_1 | .mulh_2 | .mulhi_6 | .mulu_11
  | .mulu_12 | .sld_b_4 | .sld_bu_4 | .sld_h_4 | .sld_hu_4 | .sld_w_4 => 3
  | .bcond_3 | .bcond_7 | .caxi_11 | .clr1_8 | .clr1_9 | .jarl_6 | .jarl_5 | .jmp_1 | .jr_6
  | .jr_5 | .loop_7 | .not1_8 | .not1_9 | .set1_8 | .set1_9 | .tst1_8 | .tst1_9 => 4
  | .jmp_6 => 5
  | .absf_d_F | .absf_s_F | .addf_d_F | .addf_s_F | .ceilf_dl_F | .ceilf_dul_F
  | .ceilf_duw_F | .ceilf_dw_F | .ceilf_sl_F | .ceilf_sul_F | .ceilf_suw_F | .ceilf_sw_F
  | .cmovf_d_F | .cmovf_s_F | .cmpf_d_F | .cmpf_s_F | .ctret_10 | .cvtf_dl_F | .cvtf_ds_F
  | .cvtf_dul_F | .cvtf_duw_F | .cvtf_dw_F | .cvtf_hs_F | .cvtf_ld_F | .cvtf_ls_F
  | .cvtf_sd_F | .cvtf_sh_F | .cvtf_sl_F | .cvtf_sul_F | .cvtf_suw_F | .cvtf_sw_F
  | .cvtf_uld_F | .cvtf_uls_F | .cvtf_uwd_F | .cvtf_uws_F | .cvtf_wd_F | .cvtf_ws_F
  | .eiret_10 | .feret_10 | .fetrap_1 | .floorf_dl_F | .floorf_dul_F | .floorf_duw_F
  | .floorf_dw_F | .floorf_sl_F | .floorf_sul_F | .floorf_suw_F | .floorf_sw_F | .fmaf_s_F
  | .fmsf_s_F | .fnmaf_s_F | .fnmsf_s_F | .maddf_s_F | .maxf_d_F | .maxf_s_F | .minf_d_F
  | .minf_s_F | .msubf_s_F | .mulf_s_F | .negf_d_F | .negf_s_F | .nmaddf_s_F | .nmsubf_s_F
  | .reti_10 | .rie_1 | .rie_10 | .roundf_sl_F | .roundf_sul_F | .roundf_suw_F
  | .roundf_sw_F | .subf_d_F | .subf_s_F | .trap_10 | .trncf_dl_F | .trncf_dul_F
  | .trncf_duw_F | .trncf_dw_F | .trncf_sl_F | .trncf_sul_F | .trncf_suw_F | .trncf_sw_F
    => 7
  | .mulf_d_F | .switch_1 => 8
  | .callt_2 | .snooze_10 | .synce_1 | .synci_1 | .syncm_1 | .syncp_1 | .syscall_10 => 10
  | .recipf_s_F => 16
  | .div_11 | .divh_11 | .divhu_11 | .divq_11 | .divqu_11 | .divu_11 => 19
  | .divf_d_F | .divf_s_F | .rsqrtf_s_F | .sqrtf_s_F => 20
  | .recipf_d_F => 32
  | .divh_1 | .sqrtf_d_F => 36
  | .rsqrtf_d_F => 42
  | _ => 1

/-- An executor reads nothing of the decoded code but the record of its own
format. -/
theorem opExecTable_opDecoder {p : Platform D} {codeId : OpCodeId}
    {executor : OpDecodedCode → Exec D Unit} (hexec : opExecTable p codeId = some executor)
    (code : OpCode) (d d' : OpDecodedCode) :
    executor (opDecoder code codeId.formatId d) =
      executor (opDecoder code codeId.formatId d') := by
  cases codeId <;> cases hexec <;> rfl

/-! ## Entries without privilege -/

/-- The instructions that write system registers, enter or leave an exception
or stop the core. -/
def privileged : OpCodeId → Bool
  | .ldsr_9 | .di_10 | .ei_10 | .reti_10 | .feret_10 | .eiret_10 | .trap_10 | .fetrap_1
  | .syscall_10 | .halt_10 => true
  | _ => false

theorem privileged_cases {codeId : OpCodeId} (h : privileged codeId = true) :
    codeId = .ldsr_9 ∨ (codeId = .di_10 ∨ codeId = .ei_10) ∨ codeId = .reti_10 ∨
      codeId = .feret_10 ∨ codeId = .eiret_10 ∨ codeId = .trap_10 ∨ codeId = .fetrap_1 ∨
        codeId = .syscall_10 ∨ codeId = .halt_10 := by
  revert h
  cases codeId <;> decide

set_option synthInstance.maxSize 100000 in
/-- Every entry of the table that is not listed as privileged keeps the
privileged state, whatever the operands. -/
theorem keeps_opExecTable {p : Platform D} {codeId : OpCodeId}
    {executor : OpDecodedCode → Exec D Unit} (hpriv : privileged codeId = false)
    (hexec : opExecTable p codeId = some executor) (d : OpDecodedCode) :
    Keeps OrdinaryStep (executor d) := by
  -- one case for each instruction code; the class finds the proof from the executor's shape
  cases codeId <;> cases hpriv <;> cases hexec <;> infer_instance

end Athrill
