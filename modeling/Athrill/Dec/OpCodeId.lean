/-!
# Instruction codes

`OpCodeId` of `op_codeid.h`: one code for each instruction and encoding
format.  The digit (or `F`) at the end of a name is the format.
-/

namespace Athrill

/-- `OpCodeId`. -/
inductive OpCodeId where
  | absf_d_F | absf_s_F | add_1 | add_2 | addf_d_F | addf_s_F | addi_6 | adf_11 | and_1
  | andi_6 | bins_9 | bsh_12 | bsw_12 | bcond_3 | bcond_7 | callt_2 | caxi_11
  | ceilf_dl_F | ceilf_dul_F | ceilf_duw_F | ceilf_dw_F | ceilf_sl_F | ceilf_sul_F
  | ceilf_suw_F | ceilf_sw_F | clr1_8 | clr1_9 | cmov_12 | cmov_11 | cmovf_d_F
  | cmovf_s_F | cmp_1 | cmp_2 | cmpf_d_F | cmpf_s_F | ctret_10 | cvtf_dl_F | cvtf_ds_F
  | cvtf_dul_F | cvtf_duw_F | cvtf_dw_F | cvtf_hs_F | cvtf_ld_F | cvtf_ls_F | cvtf_sd_F
  | cvtf_sh_F | cvtf_sl_F | cvtf_sul_F | cvtf_suw_F | cvtf_sw_F | cvtf_uld_F | cvtf_uls_F
  | cvtf_uwd_F | cvtf_uws_F | cvtf_wd_F | cvtf_ws_F | dbtrap_1 | di_10 | dispose_13
  | div_11 | divf_d_F | divf_s_F | divh_1 | divh_11 | divhu_11 | divq_11 | divqu_11
  | divu_11 | ei_10 | eiret_10 | feret_10 | fetrap_1 | floorf_dl_F | floorf_dul_F
  | floorf_duw_F | floorf_dw_F | floorf_sl_F | floorf_sul_F | floorf_suw_F | floorf_sw_F
  | fmaf_s_F | fmsf_s_F | fnmaf_s_F | fnmsf_s_F | halt_10 | hsh_12 | hsw_12 | jarl_6
  | jarl_5 | jarl_11 | jmp_1 | jmp_6 | jr_6 | jr_5 | ldl_w_7 | ldsr_9 | ld_b_7 | ld_b_14
  | ld_bu_7 | ld_bu_14 | ld_dw_14 | ld_h_7 | ld_h_14 | ld_hu_14 | ld_hu_7 | ld_w_7
  | ld_w_14 | loop_7 | mac_11 | macu_11 | maddf_s_F | maxf_d_F | maxf_s_F | minf_d_F
  | minf_s_F | mov_1 | mov_2 | mov_6 | movea_6 | movhi_6 | msubf_s_F | mul_11 | mul_12
  | mulf_d_F | mulf_s_F | mulh_1 | mulh_2 | mulhi_6 | mulu_11 | mulu_12 | negf_d_F
  | negf_s_F | nmaddf_s_F | nmsubf_s_F | nop_1 | not_1 | not1_8 | not1_9 | or_1 | ori_6
  | popsp_11 | prepare_13 | pushsp_11 | recipf_d_F | recipf_s_F | reti_10 | rie_1
  | rie_10 | rotl_7 | roundf_sl_F | roundf_sul_F | roundf_suw_F | roundf_sw_F
  | rsqrtf_d_F | rsqrtf_s_F | sar_2 | sar_9 | sar_11 | sasf_9 | satadd_1 | satadd_2
  | satadd_11 | satsub_1 | satsub_11 | satsubi_6 | satsubr_1 | sbf_11 | sch0l_9 | sch0r_9
  | sch1l_9 | sch1r_9 | set1_8 | set1_9 | setf_9 | shl_2 | shl_9 | shl_11 | shr_2 | shr_9
  | shr_11 | sld_b_4 | sld_bu_4 | sld_h_4 | sld_hu_4 | sld_w_4 | snooze_10 | sqrtf_d_F
  | sqrtf_s_F | sst_b_4 | sst_h_4 | sst_w_4 | stc_w_7 | stsr_9 | st_b_7 | st_b_14
  | st_dw_14 | st_h_7 | st_h_14 | st_w_7 | st_w_14 | sub_1 | subf_d_F | subf_s_F | subr_1
  | switch_1 | sxb_1 | sxh_1 | synce_1 | synci_1 | syncm_1 | syncp_1 | syscall_10
  | trap_10 | trfsr_F | trncf_dl_F | trncf_dul_F | trncf_duw_F | trncf_dw_F | trncf_sl_F
  | trncf_sul_F | trncf_suw_F | trncf_sw_F | tst_1 | tst1_8 | tst1_9 | xor_1 | xori_6
  | zxb_1 | zxh_1
  deriving DecidableEq, Repr

end Athrill
