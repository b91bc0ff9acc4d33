import Athrill.Dec.Format

/-!
# Parsing an instruction

`op_parse.c` and `op_parse_private.c`.  Bits 10 to 5 select a parser of the base
table, or bits 26 to 21 one of the extended table; a parser tries its rules in
turn.  Each rule list stands for the parser function of its name.

* `ParseRule`: one `if` of a parser function.
* `opParseBaseCodeTable`, `opParseExtendCodeTable`: the two tables.
* `opParse`: parsing and decoding.
* `opParse_formatId`: the format of an instruction is that of its code.
-/

namespace Athrill

/-- `OperationCodeType`. -/
structure OperationCode where
  codeId : OpCodeId
  formatId : OpCodeFormatId
  deriving DecidableEq, Repr

/-! ## Rules -/

/-- `GET_REG1`. -/
def getReg1 (code : OpCode) : HalfWord := code 0 &&& 0x001F

/-- `GET_REG2`. -/
def getReg2 (code : OpCode) : HalfWord := (code 0 &&& 0xF800) >>> 11

/-- `GET_REG3`. -/
def getReg3 (code : OpCode) : HalfWord := (code 1 &&& 0xF800) >>> 11

/-- The first two halfwords as one word. -/
def opCodeValue (code : OpCode) : Word :=
  ((code 1).setWidth 32 <<< 16) ||| (code 0).setWidth 32

/-- One conjunct of the condition of a parser. -/
inductive ParseCond where
  | reg1Eq (n : HalfWord)
  | reg1Ne (n : HalfWord)
  | reg1In (lo hi : HalfWord)
  | reg2Eq (n : HalfWord)
  | reg2Ne (n : HalfWord)
  | reg2In (lo hi : HalfWord)
  | reg3Eq (n : HalfWord)
  | reg3Ne (n : HalfWord)
  /-- `(value & mask) == pattern`. -/
  | valueEq (mask pattern : Word)
  /-- `(value & mask) != pattern`. -/
  | valueNe (mask pattern : Word)
  deriving DecidableEq, Repr

def ParseCond.holds (code : OpCode) : ParseCond → Bool
  | .reg1Eq n => decide (getReg1 code = n)
  | .reg1Ne n => decide (getReg1 code ≠ n)
  | .reg1In lo hi => decide (lo ≤ getReg1 code) && decide (getReg1 code ≤ hi)
  | .reg2Eq n => decide (getReg2 code = n)
  | .reg2Ne n => decide (getReg2 code ≠ n)
  | .reg2In lo hi => decide (lo ≤ getReg2 code) && decide (getReg2 code ≤ hi)
  | .reg3Eq n => decide (getReg3 code = n)
  | .reg3Ne n => decide (getReg3 code ≠ n)
  | .valueEq mask pattern => decide (opCodeValue code &&& mask = pattern)
  | .valueNe mask pattern => decide (opCodeValue code &&& mask ≠ pattern)

/-- One `if` of a parser function: its condition and the code it gives. -/
structure ParseRule where
  cond : List ParseCond
  codeId : OpCodeId
  formatId : OpCodeFormatId
  deriving DecidableEq, Repr

def ParseRule.matches (code : OpCode) (rule : ParseRule) : Bool :=
  rule.cond.all (ParseCond.holds code)

/-! ## Base codes -/

def opParseBaseCode_0000_00 : List ParseRule :=
  [ ⟨[.reg1Eq 0, .reg2Eq 0], .nop_1, .format1⟩,
    ⟨[.reg1Eq 31, .reg2Eq 0], .syncp_1, .format1⟩,
    ⟨[.reg1Eq 30, .reg2Eq 0], .syncm_1, .format1⟩,
    ⟨[.reg1Eq 29, .reg2Eq 0], .synce_1, .format1⟩,
    ⟨[.reg1Eq 28, .reg2Eq 0], .synci_1, .format1⟩,
    ⟨[.reg1In 1 27, .reg2Eq 0], .mov_1, .format1⟩,
    ⟨[.reg1Eq 0, .reg2Ne 0], .mov_1, .format1⟩,
    ⟨[.reg1Ne 0, .reg2Ne 0], .mov_1, .format1⟩ ]

def opParseBaseCode_0000_01 : List ParseRule := [⟨[], .not_1, .format1⟩]

def opParseBaseCode_0000_10 : List ParseRule :=
  [ ⟨[.reg1Eq 0, .reg2Eq 0], .rie_1, .format1⟩,
    ⟨[.reg1Ne 0, .reg2Eq 0], .switch_1, .format1⟩,
    ⟨[.reg1Eq 0, .reg2Eq 31], .dbtrap_1, .format1⟩,
    ⟨[.reg1Eq 0, .reg2In 1 15], .fetrap_1, .format1⟩,
    ⟨[.reg1Ne 0, .reg2Ne 0], .divh_1, .format1⟩ ]

def opParseBaseCode_0000_11 : List ParseRule :=
  [ ⟨[.reg2Eq 0], .jmp_1, .format1⟩,
    ⟨[.reg2Ne 0, .valueEq 0x00000010 0x00000000], .sld_bu_4, .format4⟩,
    ⟨[.reg2Ne 0, .valueEq 0x00000010 0x00000010], .sld_hu_4, .format4⟩ ]

def opParseBaseCode_0001_00 : List ParseRule :=
  [ ⟨[.reg2Ne 0], .satsubr_1, .format1⟩,
    ⟨[.reg2Eq 0], .zxb_1, .format1⟩ ]

def opParseBaseCode_0001_01 : List ParseRule :=
  [ ⟨[.reg2Ne 0], .satsub_1, .format1⟩,
    ⟨[.reg2Eq 0], .sxb_1, .format1⟩ ]

def opParseBaseCode_0001_10 : List ParseRule :=
  [ ⟨[.reg2Ne 0], .satadd_1, .format1⟩,
    ⟨[.reg2Eq 0], .zxh_1, .format1⟩ ]

def opParseBaseCode_0001_11 : List ParseRule :=
  [ ⟨[.reg2Ne 0], .mulh_1, .format1⟩,
    ⟨[.reg2Eq 0], .sxh_1, .format1⟩ ]

def opParseBaseCode_0010_00 : List ParseRule := [⟨[], .or_1, .format1⟩]

def opParseBaseCode_0010_01 : List ParseRule := [⟨[], .xor_1, .format1⟩]

def opParseBaseCode_0010_10 : List ParseRule := [⟨[], .and_1, .format1⟩]

def opParseBaseCode_0010_11 : List ParseRule := [⟨[], .tst_1, .format1⟩]

def opParseBaseCode_0011_00 : List ParseRule := [⟨[], .subr_1, .format1⟩]

def opParseBaseCode_0011_01 : List ParseRule := [⟨[], .sub_1, .format1⟩]

def opParseBaseCode_0011_10 : List ParseRule := [⟨[], .add_1, .format1⟩]

def opParseBaseCode_0011_11 : List ParseRule := [⟨[], .cmp_1, .format1⟩]

def opParseBaseCode_0100_00 : List ParseRule :=
  [ ⟨[.reg2Ne 0], .mov_2, .format2⟩,
    ⟨[.reg2Eq 0], .callt_2, .format2⟩ ]

def opParseBaseCode_0100_01 : List ParseRule :=
  [ ⟨[.reg2Ne 0], .satadd_2, .format2⟩,
    ⟨[.reg2Eq 0], .callt_2, .format2⟩ ]

def opParseBaseCode_0100_10 : List ParseRule := [⟨[], .add_2, .format2⟩]

def opParseBaseCode_0100_11 : List ParseRule := [⟨[], .cmp_2, .format2⟩]

def opParseBaseCode_0101_00 : List ParseRule := [⟨[], .shr_2, .format2⟩]

def opParseBaseCode_0101_01 : List ParseRule := [⟨[], .sar_2, .format2⟩]

def opParseBaseCode_0101_10 : List ParseRule := [⟨[], .shl_2, .format2⟩]

def opParseBaseCode_0101_11 : List ParseRule :=
  [ ⟨[.reg2Ne 0], .mulh_2, .format2⟩,
    ⟨[.reg1Eq 0, .reg2Eq 0], .jr_6, .format6⟩,
    ⟨[.reg1Ne 0, .reg2Eq 0], .jarl_6, .format6⟩ ]

def opParseBaseCode_0110_00 : List ParseRule := [⟨[], .sld_b_4, .format4⟩]

def opParseBaseCode_0110_01 : List ParseRule := [⟨[], .sld_b_4, .format4⟩]

def opParseBaseCode_0110_10 : List ParseRule := [⟨[], .sld_b_4, .format4⟩]

def opParseBaseCode_0110_11 : List ParseRule := [⟨[], .sld_b_4, .format4⟩]

def opParseBaseCode_0111_00 : List ParseRule := [⟨[], .sst_b_4, .format4⟩]

def opParseBaseCode_0111_01 : List ParseRule := [⟨[], .sst_b_4, .format4⟩]

def opParseBaseCode_0111_10 : List ParseRule := [⟨[], .sst_b_4, .format4⟩]

def opParseBaseCode_0111_11 : List ParseRule := [⟨[], .sst_b_4, .format4⟩]

def opParseBaseCode_1000_00 : List ParseRule := [⟨[], .sld_h_4, .format4⟩]

def opParseBaseCode_1000_01 : List ParseRule := [⟨[], .sld_h_4, .format4⟩]

def opParseBaseCode_1000_10 : List ParseRule := [⟨[], .sld_h_4, .format4⟩]

def opParseBaseCode_1000_11 : List ParseRule := [⟨[], .sld_h_4, .format4⟩]

def opParseBaseCode_1001_00 : List ParseRule := [⟨[], .sst_h_4, .format4⟩]

def opParseBaseCode_1001_01 : List ParseRule := [⟨[], .sst_h_4, .format4⟩]

def opParseBaseCode_1001_10 : List ParseRule := [⟨[], .sst_h_4, .format4⟩]

def opParseBaseCode_1001_11 : List ParseRule := [⟨[], .sst_h_4, .format4⟩]

def opParseBaseCode_1010_00 : List ParseRule :=
  [ ⟨[.valueEq 0x00000001 0x00000000], .sld_w_4, .format4⟩,
    ⟨[.valueEq 0x00000001 0x00000001], .sst_w_4, .format4⟩ ]

def opParseBaseCode_1010_01 : List ParseRule :=
  [ ⟨[.valueEq 0x00000001 0x00000000], .sld_w_4, .format4⟩,
    ⟨[.valueEq 0x00000001 0x00000001], .sst_w_4, .format4⟩ ]

def opParseBaseCode_1010_10 : List ParseRule :=
  [ ⟨[.valueEq 0x00000001 0x00000000], .sld_w_4, .format4⟩,
    ⟨[.valueEq 0x00000001 0x00000001], .sst_w_4, .format4⟩ ]

def opParseBaseCode_1010_11 : List ParseRule :=
  [ ⟨[.valueEq 0x00000001 0x00000000], .sld_w_4, .format4⟩,
    ⟨[.valueEq 0x00000001 0x00000001], .sst_w_4, .format4⟩ ]

def opParseBaseCode_1011_00 : List ParseRule := [⟨[], .bcond_3, .format3⟩]

def opParseBaseCode_1011_01 : List ParseRule := [⟨[], .bcond_3, .format3⟩]

def opParseBaseCode_1011_10 : List ParseRule := [⟨[], .bcond_3, .format3⟩]

def opParseBaseCode_1011_11 : List ParseRule := [⟨[], .bcond_3, .format3⟩]

def opParseBaseCode_1100_00 : List ParseRule := [⟨[], .addi_6, .format6⟩]

def opParseBaseCode_1100_01 : List ParseRule :=
  [ ⟨[.reg2Ne 0], .movea_6, .format6⟩,
    ⟨[.reg2Eq 0], .mov_6, .format6⟩ ]

def opParseBaseCode_1100_10 : List ParseRule :=
  [ ⟨[.reg2Ne 0], .movhi_6, .format6⟩,
    ⟨[.reg2Eq 0], .dispose_13, .format13⟩ ]

def opParseBaseCode_1100_11 : List ParseRule :=
  [ ⟨[.reg2Ne 0], .satsubi_6, .format6⟩,
    ⟨[.reg2Eq 0], .dispose_13, .format13⟩ ]

def opParseBaseCode_1101_00 : List ParseRule := [⟨[], .ori_6, .format6⟩]

def opParseBaseCode_1101_01 : List ParseRule := [⟨[], .xori_6, .format6⟩]

def opParseBaseCode_1101_10 : List ParseRule := [⟨[], .andi_6, .format6⟩]

def opParseBaseCode_1101_11 : List ParseRule :=
  [ ⟨[.reg2Ne 0], .mulhi_6, .format6⟩,
    ⟨[.reg2Eq 0, .valueEq 0x00010000 0x00000000], .jmp_6, .format6⟩,
    ⟨[.reg2Eq 0, .valueEq 0x00010000 0x00010000], .loop_7, .format7⟩ ]

def opParseBaseCode_1110_00 : List ParseRule := [⟨[], .ld_b_7, .format7⟩]

def opParseBaseCode_1110_01 : List ParseRule :=
  [ ⟨[.valueEq 0x00010000 0x00000000], .ld_h_7, .format7⟩,
    ⟨[.valueEq 0x00010000 0x00010000], .ld_w_7, .format7⟩ ]

def opParseBaseCode_1110_10 : List ParseRule := [⟨[], .st_b_7, .format7⟩]

def opParseBaseCode_1110_11 : List ParseRule :=
  [ ⟨[.valueEq 0x00010000 0x00000000], .st_h_7, .format7⟩,
    ⟨[.valueEq 0x00010000 0x00010000], .st_w_7, .format7⟩ ]

def opParseBaseCode_1111_00 : List ParseRule :=
  [ ⟨[.reg2Eq 0, .valueEq 0x000F0020 0x00050000], .ld_b_14, .format14⟩,
    ⟨[.reg2Eq 0, .valueEq 0x000F0020 0x00070000], .ld_h_14, .format14⟩,
    ⟨[.reg2Eq 0, .valueEq 0x000F0020 0x00090000], .ld_w_14, .format14⟩,
    ⟨[.reg2Eq 0, .valueEq 0x000F0020 0x000D0000], .st_b_14, .format14⟩,
    ⟨[.reg2Eq 0, .valueEq 0x000F0020 0x000F0000], .st_w_14, .format14⟩,
    ⟨[.reg2Eq 0, .valueEq 0x00010000 0x00000000], .jr_5, .format5⟩,
    ⟨[.reg2Ne 0, .valueEq 0x00010000 0x00000000], .jarl_5, .format5⟩,
    ⟨[.reg2Ne 0, .valueEq 0x00010000 0x00010000], .ld_bu_7, .format7⟩,
    ⟨[.reg2Eq 0, .valueEq 0x00070000 0x00030000], .prepare_13, .format13⟩,
    ⟨[.reg2Eq 0, .valueEq 0x000F0000 0x00010000], .prepare_13, .format13⟩ ]

def opParseBaseCode_1111_01 : List ParseRule :=
  [ ⟨[.reg2Eq 0, .valueEq 0x000F0020 0x00050020], .ld_bu_14, .format14⟩,
    ⟨[.reg2Eq 0, .valueEq 0x000F0020 0x00070020], .ld_hu_14, .format14⟩,
    ⟨[.reg2Eq 0, .valueEq 0x000F0020 0x000D0020], .st_h_14, .format14⟩,
    ⟨[.reg2Eq 0, .valueEq 0x000F0020 0x00090020], .ld_dw_14, .format14⟩,
    ⟨[.reg2Eq 0, .valueEq 0x000F0020 0x000F0020], .st_dw_14, .format14⟩,
    ⟨[.reg2Eq 0, .valueEq 0x00010000 0x00000000], .jr_5, .format5⟩,
    ⟨[.reg2Ne 0, .valueEq 0x00010000 0x00000000], .jarl_5, .format5⟩,
    ⟨[.reg2Ne 0, .valueEq 0x00010000 0x00010000], .ld_bu_7, .format7⟩,
    ⟨[.reg2Eq 0, .valueEq 0x00070000 0x00030000], .prepare_13, .format13⟩,
    ⟨[.reg2Eq 0, .valueEq 0x000F0000 0x00010000], .prepare_13, .format13⟩ ]

def opParseBaseCode_1111_10 : List ParseRule :=
  [ ⟨[.valueEq 0x0000C000 0x00000000], .set1_8, .format8⟩,
    ⟨[.valueEq 0x0000C000 0x00004000], .not1_8, .format8⟩,
    ⟨[.valueEq 0x0000C000 0x00008000], .clr1_8, .format8⟩,
    ⟨[.valueEq 0x0000C000 0x0000C000], .tst1_8, .format8⟩ ]

def opParseBaseCode_1111_11 : List ParseRule :=
  [ ⟨[.reg2Ne 0, .valueEq 0x00010000 0x00010000], .ld_hu_7, .format7⟩,
    ⟨[.reg2Eq 0, .valueEq 0x00010000 0x00010000], .bcond_7, .format7⟩ ]

/-- `op_parse_base_code_table`. -/
def opParseBaseCodeTable : List (List ParseRule) :=
  [ opParseBaseCode_0000_00, opParseBaseCode_0000_01, opParseBaseCode_0000_10,
    opParseBaseCode_0000_11, opParseBaseCode_0001_00, opParseBaseCode_0001_01,
    opParseBaseCode_0001_10, opParseBaseCode_0001_11, opParseBaseCode_0010_00,
    opParseBaseCode_0010_01, opParseBaseCode_0010_10, opParseBaseCode_0010_11,
    opParseBaseCode_0011_00, opParseBaseCode_0011_01, opParseBaseCode_0011_10,
    opParseBaseCode_0011_11, opParseBaseCode_0100_00, opParseBaseCode_0100_01,
    opParseBaseCode_0100_10, opParseBaseCode_0100_11, opParseBaseCode_0101_00,
    opParseBaseCode_0101_01, opParseBaseCode_0101_10, opParseBaseCode_0101_11,
    opParseBaseCode_0110_00, opParseBaseCode_0110_01, opParseBaseCode_0110_10,
    opParseBaseCode_0110_11, opParseBaseCode_0111_00, opParseBaseCode_0111_01,
    opParseBaseCode_0111_10, opParseBaseCode_0111_11, opParseBaseCode_1000_00,
    opParseBaseCode_1000_01, opParseBaseCode_1000_10, opParseBaseCode_1000_11,
    opParseBaseCode_1001_00, opParseBaseCode_1001_01, opParseBaseCode_1001_10,
    opParseBaseCode_1001_11, opParseBaseCode_1010_00, opParseBaseCode_1010_01,
    opParseBaseCode_1010_10, opParseBaseCode_1010_11, opParseBaseCode_1011_00,
    opParseBaseCode_1011_01, opParseBaseCode_1011_10, opParseBaseCode_1011_11,
    opParseBaseCode_1100_00, opParseBaseCode_1100_01, opParseBaseCode_1100_10,
    opParseBaseCode_1100_11, opParseBaseCode_1101_00, opParseBaseCode_1101_01,
    opParseBaseCode_1101_10, opParseBaseCode_1101_11, opParseBaseCode_1110_00,
    opParseBaseCode_1110_01, opParseBaseCode_1110_10, opParseBaseCode_1110_11,
    opParseBaseCode_1111_00, opParseBaseCode_1111_01, opParseBaseCode_1111_10,
    opParseBaseCode_1111_11 ]

/-! ## Extended codes -/

def opParseExtendCode_0000_00 : List ParseRule :=
  [ ⟨[.valueEq 0x00000010 0x00000000], .setf_9, .format9⟩,
    ⟨[.valueEq 0x00000010 0x00000010], .rie_10, .format10⟩ ]

def opParseExtendCode_0000_01 : List ParseRule := [⟨[], .ldsr_9, .format9⟩]

def opParseExtendCode_0000_10 : List ParseRule := [⟨[], .stsr_9, .format9⟩]

def opParseExtendCode_0000_11 : List ParseRule := []

def opParseExtendCode_0001_00 : List ParseRule :=
  [ ⟨[.valueEq 0x00100000 0x00100000], .bins_9, .format9⟩,
    ⟨[.valueEq 0x00120000 0x00000000], .shr_9, .format9⟩,
    ⟨[.valueEq 0x00120000 0x00020000], .shr_11, .format11⟩ ]

def opParseExtendCode_0001_01 : List ParseRule :=
  [ ⟨[.valueEq 0x00100000 0x00100000], .bins_9, .format9⟩,
    ⟨[.valueEq 0x00120000 0x00000000], .sar_9, .format9⟩,
    ⟨[.valueEq 0x00120000 0x00020000], .sar_11, .format11⟩ ]

def opParseExtendCode_0001_10 : List ParseRule :=
  [ ⟨[.valueEq 0x00100000 0x00100000], .bins_9, .format9⟩,
    ⟨[.valueEq 0x00160000 0x00000000], .shl_9, .format9⟩,
    ⟨[.valueEq 0x00160000 0x00020000], .shl_11, .format11⟩,
    ⟨[.valueEq 0x00140000 0x00040000], .rotl_7, .format7⟩ ]

def opParseExtendCode_0001_11 : List ParseRule :=
  [ ⟨[.valueEq 0x00060000 0x00000000], .set1_9, .format9⟩,
    ⟨[.valueEq 0x00060000 0x00020000], .not1_9, .format9⟩,
    ⟨[.valueEq 0x00060000 0x00040000], .clr1_9, .format9⟩,
    ⟨[.valueEq 0x000E0000 0x00060000], .tst1_9, .format9⟩,
    ⟨[.valueEq 0x000E0000 0x000E0000], .caxi_11, .format11⟩ ]

def opParseExtendCode_0010_00 : List ParseRule := [⟨[], .trap_10, .format10⟩]

def opParseExtendCode_0010_01 : List ParseRule :=
  [ ⟨[.valueEq 0x00000800 0x00000000], .halt_10, .format10⟩,
    ⟨[.valueEq 0x00000800 0x00000800], .snooze_10, .format10⟩ ]

def opParseExtendCode_0010_10 : List ParseRule :=
  [ ⟨[.valueEq 0x000E0000 0x00000000], .reti_10, .format10⟩,
    ⟨[.valueEq 0x000E0000 0x00080000], .eiret_10, .format10⟩,
    ⟨[.valueEq 0x000E0000 0x000A0000], .feret_10, .format10⟩,
    ⟨[.valueEq 0x000E0000 0x00040000], .ctret_10, .format10⟩ ]

def opParseExtendCode_0010_11 : List ParseRule :=
  [ ⟨[.valueEq 0x0000F800 0x00000000], .di_10, .format10⟩,
    ⟨[.valueEq 0x0000F800 0x00004000], .pushsp_11, .format11⟩,
    ⟨[.valueEq 0x0000F800 0x00006000], .popsp_11, .format11⟩,
    ⟨[.valueEq 0x0000F800 0x00008000], .ei_10, .format10⟩,
    ⟨[.valueEq 0x0000F800 0x0000D000], .syscall_10, .format10⟩,
    ⟨[.valueEq 0x0000F800 0x0000C000], .jarl_11, .format11⟩ ]

def opParseExtendCode_0011_00 : List ParseRule := []

def opParseExtendCode_0011_01 : List ParseRule := []

def opParseExtendCode_0011_10 : List ParseRule := []

def opParseExtendCode_0011_11 : List ParseRule := []

def opParseExtendCode_0100_00 : List ParseRule := [⟨[], .sasf_9, .format9⟩]

def opParseExtendCode_0100_01 : List ParseRule :=
  [ ⟨[.valueEq 0x00020000 0x00000000], .mul_11, .format11⟩,
    ⟨[.valueEq 0x00020000 0x00020000], .mulu_11, .format11⟩ ]

def opParseExtendCode_0100_10 : List ParseRule :=
  [ ⟨[.valueEq 0x00020000 0x00000000], .mul_12, .format12⟩,
    ⟨[.valueEq 0x00020000 0x00020000], .mulu_12, .format12⟩ ]

def opParseExtendCode_0100_11 : List ParseRule :=
  [ ⟨[.valueEq 0x00020000 0x00000000], .mul_12, .format12⟩,
    ⟨[.valueEq 0x00020000 0x00020000], .mulu_12, .format12⟩ ]

def opParseExtendCode_0101_00 : List ParseRule :=
  [ ⟨[.valueEq 0x00020000 0x00000000], .divh_11, .format11⟩,
    ⟨[.valueEq 0x00020000 0x00020000], .divhu_11, .format11⟩ ]

def opParseExtendCode_0101_01 : List ParseRule := []

def opParseExtendCode_0101_10 : List ParseRule :=
  [ ⟨[.valueEq 0x00020000 0x00000000], .div_11, .format11⟩,
    ⟨[.valueEq 0x00020000 0x00020000], .divu_11, .format11⟩ ]

def opParseExtendCode_0101_11 : List ParseRule :=
  [ ⟨[.valueEq 0x00020000 0x00000000], .divq_11, .format11⟩,
    ⟨[.valueEq 0x00020000 0x00020000], .divqu_11, .format11⟩ ]

def opParseExtendCode_0110_00 : List ParseRule := [⟨[], .cmov_12, .format12⟩]

def opParseExtendCode_0110_01 : List ParseRule := [⟨[], .cmov_11, .format11⟩]

def opParseExtendCode_0110_10 : List ParseRule :=
  [ ⟨[.valueEq 0x00060000 0x00000000], .bsw_12, .format12⟩,
    ⟨[.valueEq 0x00060000 0x00020000], .bsh_12, .format12⟩,
    ⟨[.valueEq 0x00060000 0x00040000], .hsw_12, .format12⟩,
    ⟨[.valueEq 0x00060000 0x00060000], .hsh_12, .format12⟩ ]

def opParseExtendCode_0110_11 : List ParseRule :=
  [ ⟨[.valueEq 0x001E0000 0x00180000], .ldl_w_7, .format7⟩,
    ⟨[.valueEq 0x001E0000 0x00000000], .sch0r_9, .format9⟩,
    ⟨[.valueEq 0x001E0000 0x00020000], .sch1r_9, .format9⟩,
    ⟨[.valueEq 0x001E0000 0x001A0000], .stc_w_7, .format7⟩,
    ⟨[.valueEq 0x001E0000 0x00040000], .sch0l_9, .format9⟩,
    ⟨[.valueEq 0x001E0000 0x00060000], .sch1l_9, .format9⟩ ]

def opParseExtendCode_0111_00 : List ParseRule :=
  [ ⟨[.valueEq 0x001E0000 0x001A0000], .satsub_11, .format11⟩,
    ⟨[.valueNe 0x001E0000 0x001A0000], .sbf_11, .format11⟩ ]

def opParseExtendCode_0111_01 : List ParseRule :=
  [ ⟨[.valueEq 0x001E0000 0x001A0000], .satadd_11, .format11⟩,
    ⟨[.valueNe 0x001E0000 0x001A0000], .adf_11, .format11⟩ ]

def opParseExtendCode_0111_10 : List ParseRule := [⟨[], .mac_11, .format11⟩]

def opParseExtendCode_0111_11 : List ParseRule := [⟨[], .macu_11, .format11⟩]

def opParseExtendCode_1000_00 : List ParseRule :=
  [ ⟨[.reg3Ne 0, .valueEq 0x00100000 0x00000000], .cmovf_s_F, .formatF⟩,
    ⟨[.reg3Ne 0, .valueEq 0x00100000 0x00100000], .cmovf_d_F, .formatF⟩,
    ⟨[.reg3Eq 0, .valueEq 0x00100000 0x00000000], .trfsr_F, .formatF⟩ ]

def opParseExtendCode_1000_01 : List ParseRule :=
  [ ⟨[.valueEq 0x00100000 0x00000000], .cmpf_s_F, .formatF⟩,
    ⟨[.valueEq 0x00100000 0x00100000], .cmpf_d_F, .formatF⟩ ]

def opParseExtendCode_1000_10 : List ParseRule :=
  [ ⟨[.valueEq 0x001E001F 0x00080000], .absf_s_F, .formatF⟩,
    ⟨[.valueEq 0x001E001F 0x00180000], .absf_d_F, .formatF⟩,
    ⟨[.valueEq 0x001E001F 0x00040002], .ceilf_sl_F, .formatF⟩,
    ⟨[.valueEq 0x001E001F 0x00140002], .ceilf_dl_F, .formatF⟩,
    ⟨[.valueEq 0x001E001F 0x00040012], .ceilf_sul_F, .formatF⟩,
    ⟨[.valueEq 0x001E001F 0x00140012], .ceilf_dul_F, .formatF⟩,
    ⟨[.valueEq 0x001E001F 0x00000012], .ceilf_suw_F, .formatF⟩,
    ⟨[.valueEq 0x001E001F 0x00100012], .ceilf_duw_F, .formatF⟩,
    ⟨[.valueEq 0x001E001F 0x00000002], .ceilf_sw_F, .formatF⟩,
    ⟨[.valueEq 0x001E001F 0x00100002], .ceilf_dw_F, .formatF⟩,
    ⟨[.valueEq 0x001E001F 0x00020002], .cvtf_hs_F, .formatF⟩,
    ⟨[.valueEq 0x001E001F 0x00020001], .cvtf_ls_F, .formatF⟩,
    ⟨[.valueEq 0x001E001F 0x00040004], .cvtf_sl_F, .formatF⟩,
    ⟨[.valueEq 0x001E001F 0x00020003], .cvtf_sh_F, .formatF⟩,
    ⟨[.valueEq 0x001E001F 0x00040014], .cvtf_sul_F, .formatF⟩,
    ⟨[.valueEq 0x001E001F 0x00000014], .cvtf_suw_F, .formatF⟩,
    ⟨[.valueEq 0x001E001F 0x00000004], .cvtf_sw_F, .formatF⟩,
    ⟨[.valueEq 0x001E001F 0x00020011], .cvtf_uls_F, .formatF⟩,
    ⟨[.valueEq 0x001E001F 0x00020010], .cvtf_uws_F, .formatF⟩,
    ⟨[.valueEq 0x001E001F 0x00020000], .cvtf_ws_F, .formatF⟩,
    ⟨[.valueEq 0x001E001F 0x00120001], .cvtf_ld_F, .formatF⟩,
    ⟨[.valueEq 0x001E001F 0x00140004], .cvtf_dl_F, .formatF⟩,
    ⟨[.valueEq 0x001E001F 0x00140014], .cvtf_dul_F, .formatF⟩,
    ⟨[.valueEq 0x001E001F 0x00100014], .cvtf_duw_F, .formatF⟩,
    ⟨[.valueEq 0x001E001F 0x00100004], .cvtf_dw_F, .formatF⟩,
    ⟨[.valueEq 0x001E001F 0x00120011], .cvtf_uld_F, .formatF⟩,
    ⟨[.valueEq 0x001E001F 0x00120010], .cvtf_uwd_F, .formatF⟩,
    ⟨[.valueEq 0x001E001F 0x00120000], .cvtf_wd_F, .formatF⟩,
    ⟨[.valueEq 0x001E001F 0x00040003], .floorf_sl_F, .formatF⟩,
    ⟨[.valueEq 0x001E001F 0x00040013], .floorf_sul_F, .formatF⟩,
    ⟨[.valueEq 0x001E001F 0x00000013], .floorf_suw_F, .formatF⟩,
    ⟨[.valueEq 0x001E001F 0x00000003], .floorf_sw_F, .formatF⟩,
    ⟨[.valueEq 0x001E001F 0x00140003], .floorf_dl_F, .formatF⟩,
    ⟨[.valueEq 0x001E001F 0x00140013], .floorf_dul_F, .formatF⟩,
    ⟨[.valueEq 0x001E001F 0x00100013], .floorf_duw_F, .formatF⟩,
    ⟨[.valueEq 0x001E001F 0x00100003], .floorf_dw_F, .formatF⟩,
    ⟨[.valueEq 0x001E001F 0x00080001], .negf_s_F, .formatF⟩,
    ⟨[.valueEq 0x001E001F 0x00180001], .negf_d_F, .formatF⟩,
    ⟨[.valueEq 0x001E001F 0x000E0001], .recipf_s_F, .formatF⟩,
    ⟨[.valueEq 0x001E001F 0x001E0001], .recipf_d_F, .formatF⟩,
    ⟨[.valueEq 0x001E001F 0x00040000], .roundf_sl_F, .formatF⟩,
    ⟨[.valueEq 0x001E001F 0x00040010], .roundf_sul_F, .formatF⟩,
    ⟨[.valueEq 0x001E001F 0x00000010], .roundf_suw_F, .formatF⟩,
    ⟨[.valueEq 0x001E001F 0x00000000], .roundf_sw_F, .formatF⟩,
    ⟨[.valueEq 0x001E001F 0x000E0002], .rsqrtf_s_F, .formatF⟩,
    ⟨[.valueEq 0x001E001F 0x001E0002], .rsqrtf_d_F, .formatF⟩,
    ⟨[.valueEq 0x001E001F 0x000E0000], .sqrtf_s_F, .formatF⟩,
    ⟨[.valueEq 0x001E001F 0x001E0000], .sqrtf_d_F, .formatF⟩,
    ⟨[.valueEq 0x001E001F 0x00120003], .cvtf_ds_F, .formatF⟩,
    ⟨[.valueEq 0x001E001F 0x00120002], .cvtf_sd_F, .formatF⟩,
    ⟨[.valueEq 0x001E001F 0x00040001], .trncf_sl_F, .formatF⟩,
    ⟨[.valueEq 0x001E001F 0x00040011], .trncf_sul_F, .formatF⟩,
    ⟨[.valueEq 0x001E001F 0x00000011], .trncf_suw_F, .formatF⟩,
    ⟨[.valueEq 0x001E001F 0x00000001], .trncf_sw_F, .formatF⟩,
    ⟨[.valueEq 0x001E001F 0x00140001], .trncf_dl_F, .formatF⟩,
    ⟨[.valueEq 0x001E001F 0x00140011], .trncf_dul_F, .formatF⟩,
    ⟨[.valueEq 0x001E001F 0x00100011], .trncf_duw_F, .formatF⟩,
    ⟨[.valueEq 0x001E001F 0x00100001], .trncf_dw_F, .formatF⟩,
    ⟨[.valueEq 0x001E001F 0x00120003], .cvtf_ds_F, .formatF⟩,
    ⟨[.valueEq 0x001E001F 0x00120002], .cvtf_sd_F, .formatF⟩ ]

def opParseExtendCode_1000_11 : List ParseRule :=
  [ ⟨[.valueEq 0x001E0000 0x00000000], .addf_s_F, .formatF⟩,
    ⟨[.valueEq 0x001E0000 0x00100000], .addf_d_F, .formatF⟩,
    ⟨[.valueEq 0x001E0000 0x000E0000], .divf_s_F, .formatF⟩,
    ⟨[.valueEq 0x001E0000 0x001E0000], .divf_d_F, .formatF⟩,
    ⟨[.valueEq 0x001E0000 0x00080000], .maxf_s_F, .formatF⟩,
    ⟨[.valueEq 0x001E0000 0x00180000], .maxf_d_F, .formatF⟩,
    ⟨[.valueEq 0x001E0000 0x000A0000], .minf_s_F, .formatF⟩,
    ⟨[.valueEq 0x001E0000 0x001A0000], .minf_d_F, .formatF⟩,
    ⟨[.valueEq 0x001E0000 0x00040000], .mulf_s_F, .formatF⟩,
    ⟨[.valueEq 0x001E0000 0x00020000], .subf_s_F, .formatF⟩,
    ⟨[.valueEq 0x001E0000 0x00120000], .subf_d_F, .formatF⟩,
    ⟨[.valueEq 0x001E0000 0x00140000], .mulf_d_F, .formatF⟩,
    ⟨[.valueEq 0x001E0000 0x00140000], .mulf_d_F, .formatF⟩ ]

def opParseExtendCode_1001_00 : List ParseRule := []

def opParseExtendCode_1001_01 : List ParseRule := []

def opParseExtendCode_1001_10 : List ParseRule := []

def opParseExtendCode_1001_11 : List ParseRule :=
  [ ⟨[.valueEq 0x001E0000 0x00000000], .fmaf_s_F, .formatF⟩,
    ⟨[.valueEq 0x001E0000 0x00020000], .fmsf_s_F, .formatF⟩,
    ⟨[.valueEq 0x001E0000 0x00040000], .fnmaf_s_F, .formatF⟩,
    ⟨[.valueEq 0x001E0000 0x00060000], .fnmsf_s_F, .formatF⟩ ]

def opParseExtendCode_1010_00 : List ParseRule := [⟨[], .maddf_s_F, .formatF⟩]

def opParseExtendCode_1010_01 : List ParseRule := [⟨[], .msubf_s_F, .formatF⟩]

def opParseExtendCode_1010_10 : List ParseRule := [⟨[], .nmaddf_s_F, .formatF⟩]

def opParseExtendCode_1010_11 : List ParseRule := [⟨[], .nmsubf_s_F, .formatF⟩]

def opParseExtendCode_1011_00 : List ParseRule := [⟨[], .maddf_s_F, .formatF⟩]

def opParseExtendCode_1011_01 : List ParseRule := [⟨[], .msubf_s_F, .formatF⟩]

def opParseExtendCode_1011_10 : List ParseRule := [⟨[], .nmaddf_s_F, .formatF⟩]

def opParseExtendCode_1011_11 : List ParseRule := [⟨[], .nmsubf_s_F, .formatF⟩]

def opParseExtendCode_1100_00 : List ParseRule := []

def opParseExtendCode_1100_01 : List ParseRule := []

def opParseExtendCode_1100_10 : List ParseRule := []

def opParseExtendCode_1100_11 : List ParseRule := []

def opParseExtendCode_1101_00 : List ParseRule := []

def opParseExtendCode_1101_01 : List ParseRule := []

def opParseExtendCode_1101_10 : List ParseRule := []

def opParseExtendCode_1101_11 : List ParseRule := []

def opParseExtendCode_1110_00 : List ParseRule := []

def opParseExtendCode_1110_01 : List ParseRule := []

def opParseExtendCode_1110_10 : List ParseRule := []

def opParseExtendCode_1110_11 : List ParseRule := []

def opParseExtendCode_1111_00 : List ParseRule := []

def opParseExtendCode_1111_01 : List ParseRule := []

def opParseExtendCode_1111_10 : List ParseRule := []

def opParseExtendCode_1111_11 : List ParseRule := []

/-- `op_parse_extend_code_table`. -/
def opParseExtendCodeTable : List (List ParseRule) :=
  [ opParseExtendCode_0000_00, opParseExtendCode_0000_01, opParseExtendCode_0000_10,
    opParseExtendCode_0000_11, opParseExtendCode_0001_00, opParseExtendCode_0001_01,
    opParseExtendCode_0001_10, opParseExtendCode_0001_11, opParseExtendCode_0010_00,
    opParseExtendCode_0010_01, opParseExtendCode_0010_10, opParseExtendCode_0010_11,
    opParseExtendCode_0011_00, opParseExtendCode_0011_01, opParseExtendCode_0011_10,
    opParseExtendCode_0011_11, opParseExtendCode_0100_00, opParseExtendCode_0100_01,
    opParseExtendCode_0100_10, opParseExtendCode_0100_11, opParseExtendCode_0101_00,
    opParseExtendCode_0101_01, opParseExtendCode_0101_10, opParseExtendCode_0101_11,
    opParseExtendCode_0110_00, opParseExtendCode_0110_01, opParseExtendCode_0110_10,
    opParseExtendCode_0110_11, opParseExtendCode_0111_00, opParseExtendCode_0111_01,
    opParseExtendCode_0111_10, opParseExtendCode_0111_11, opParseExtendCode_1000_00,
    opParseExtendCode_1000_01, opParseExtendCode_1000_10, opParseExtendCode_1000_11,
    opParseExtendCode_1001_00, opParseExtendCode_1001_01, opParseExtendCode_1001_10,
    opParseExtendCode_1001_11, opParseExtendCode_1010_00, opParseExtendCode_1010_01,
    opParseExtendCode_1010_10, opParseExtendCode_1010_11, opParseExtendCode_1011_00,
    opParseExtendCode_1011_01, opParseExtendCode_1011_10, opParseExtendCode_1011_11,
    opParseExtendCode_1100_00, opParseExtendCode_1100_01, opParseExtendCode_1100_10,
    opParseExtendCode_1100_11, opParseExtendCode_1101_00, opParseExtendCode_1101_01,
    opParseExtendCode_1101_10, opParseExtendCode_1101_11, opParseExtendCode_1110_00,
    opParseExtendCode_1110_01, opParseExtendCode_1110_10, opParseExtendCode_1110_11,
    opParseExtendCode_1111_00, opParseExtendCode_1111_01, opParseExtendCode_1111_10,
    opParseExtendCode_1111_11 ]

/-! ## Parsing -/

/-- `OP_PARSE_TABLE_INDEX`. -/
def opParseTableIndex (baseId subId : Word) : Nat :=
  ((baseId <<< 2) ||| subId).toNat

/-- The rules of the parser that `op_parse` selects. -/
def opParseRules (code : OpCode) : List ParseRule :=
  if code 0 &&& 0x07E0 = 0x07E0 ∧ opCodeValue code &&& 0x00010000 = 0 then
    opParseExtendCodeTable.getD
      (opParseTableIndex ((opCodeValue code &&& 0x07800000) >>> 23)
        ((opCodeValue code &&& 0x00600000) >>> 21)) []
  else
    opParseBaseCodeTable.getD
      (opParseTableIndex (((code 0).setWidth 32 &&& 0x00000780) >>> 7)
        (((code 0).setWidth 32 &&& 0x00000060) >>> 5)) []

/-- The parser: the first rule that matches. -/
def parseOptype (code : OpCode) : Option OperationCode :=
  ((opParseRules code).find? (ParseRule.matches code)).map fun rule =>
    { codeId := rule.codeId, formatId := rule.formatId }

/-- `op_parse`; nothing is decoded when no rule matches. -/
def opParse (code : OpCode) (decodedCode : OpDecodedCode) :
    Option (OperationCode × OpDecodedCode) :=
  (parseOptype code).map fun optype => (optype, opDecoder code optype.formatId decodedCode)

/-! ## Formats -/

/-- The format in the name of a code. -/
def OpCodeId.formatId : OpCodeId → OpCodeFormatId
  | .add_1 | .and_1 | .cmp_1 | .dbtrap_1 | .divh_1 | .fetrap_1 | .jmp_1 | .mov_1 | .mulh_1
  | .nop_1 | .not_1 | .or_1 | .rie_1 | .satadd_1 | .satsub_1 | .satsubr_1 | .sub_1
  | .subr_1 | .switch_1 | .sxb_1 | .sxh_1 | .synce_1 | .synci_1 | .syncm_1 | .syncp_1
  | .tst_1 | .xor_1 | .zxb_1 | .zxh_1 => .format1
  | .add_2 | .callt_2 | .cmp_2 | .mov_2 | .mulh_2 | .sar_2 | .satadd_2 | .shl_2 | .shr_2 => .format2
  | .bcond_3 => .format3
  | .sld_b_4 | .sld_bu_4 | .sld_h_4 | .sld_hu_4 | .sld_w_4 | .sst_b_4 | .sst_h_4 | .sst_w_4 => .format4
  | .jarl_5 | .jr_5 => .format5
  | .addi_6 | .andi_6 | .jarl_6 | .jmp_6 | .jr_6 | .mov_6 | .movea_6 | .movhi_6 | .mulhi_6
  | .ori_6 | .satsubi_6 | .xori_6 => .format6
  | .bcond_7 | .ldl_w_7 | .ld_b_7 | .ld_bu_7 | .ld_h_7 | .ld_hu_7 | .ld_w_7 | .loop_7
  | .rotl_7 | .stc_w_7 | .st_b_7 | .st_h_7 | .st_w_7 => .format7
  | .clr1_8 | .not1_8 | .set1_8 | .tst1_8 => .format8
  | .bins_9 | .clr1_9 | .ldsr_9 | .not1_9 | .sar_9 | .sasf_9 | .sch0l_9 | .sch0r_9
  | .sch1l_9 | .sch1r_9 | .set1_9 | .setf_9 | .shl_9 | .shr_9 | .stsr_9 | .tst1_9 => .format9
  | .ctret_10 | .di_10 | .ei_10 | .eiret_10 | .feret_10 | .halt_10 | .reti_10 | .rie_10
  | .snooze_10 | .syscall_10 | .trap_10 => .format10
  | .adf_11 | .caxi_11 | .cmov_11 | .div_11 | .divh_11 | .divhu_11 | .divq_11 | .divqu_11
  | .divu_11 | .jarl_11 | .mac_11 | .macu_11 | .mul_11 | .mulu_11 | .popsp_11 | .pushsp_11
  | .sar_11 | .satadd_11 | .satsub_11 | .sbf_11 | .shl_11 | .shr_11 => .format11
  | .bsh_12 | .bsw_12 | .cmov_12 | .hsh_12 | .hsw_12 | .mul_12 | .mulu_12 => .format12
  | .dispose_13 | .prepare_13 => .format13
  | .ld_b_14 | .ld_bu_14 | .ld_dw_14 | .ld_h_14 | .ld_hu_14 | .ld_w_14 | .st_b_14
  | .st_dw_14 | .st_h_14 | .st_w_14 => .format14
  | .absf_d_F | .absf_s_F | .addf_d_F | .addf_s_F | .ceilf_dl_F | .ceilf_dul_F
  | .ceilf_duw_F | .ceilf_dw_F | .ceilf_sl_F | .ceilf_sul_F | .ceilf_suw_F | .ceilf_sw_F
  | .cmovf_d_F | .cmovf_s_F | .cmpf_d_F | .cmpf_s_F | .cvtf_dl_F | .cvtf_ds_F | .cvtf_dul_F
  | .cvtf_duw_F | .cvtf_dw_F | .cvtf_hs_F | .cvtf_ld_F | .cvtf_ls_F | .cvtf_sd_F
  | .cvtf_sh_F | .cvtf_sl_F | .cvtf_sul_F | .cvtf_suw_F | .cvtf_sw_F | .cvtf_uld_F
  | .cvtf_uls_F | .cvtf_uwd_F | .cvtf_uws_F | .cvtf_wd_F | .cvtf_ws_F | .divf_d_F
  | .divf_s_F | .floorf_dl_F | .floorf_dul_F | .floorf_duw_F | .floorf_dw_F | .floorf_sl_F
  | .floorf_sul_F | .floorf_suw_F | .floorf_sw_F | .fmaf_s_F | .fmsf_s_F | .fnmaf_s_F
  | .fnmsf_s_F | .maddf_s_F | .maxf_d_F | .maxf_s_F | .minf_d_F | .minf_s_F | .msubf_s_F
  | .mulf_d_F | .mulf_s_F | .negf_d_F | .negf_s_F | .nmaddf_s_F | .nmsubf_s_F | .recipf_d_F
  | .recipf_s_F | .roundf_sl_F | .roundf_sul_F | .roundf_suw_F | .roundf_sw_F | .rsqrtf_d_F
  | .rsqrtf_s_F | .sqrtf_d_F | .sqrtf_s_F | .subf_d_F | .subf_s_F | .trfsr_F | .trncf_dl_F
  | .trncf_dul_F | .trncf_duw_F | .trncf_dw_F | .trncf_sl_F | .trncf_sul_F | .trncf_suw_F
  | .trncf_sw_F => .formatF
/-- Every rule of the tables gives a code with its own format. -/
theorem formatId_of_mem_tables :
    ∀ rules ∈ opParseBaseCodeTable ++ opParseExtendCodeTable, ∀ rule ∈ rules,
      rule.formatId = rule.codeId.formatId := by
  decide +kernel

/-- A non-empty entry of a table is one of its elements. -/
theorem mem_of_mem_getD {rule : ParseRule} {table : List (List ParseRule)} {n : Nat}
    (h : rule ∈ table.getD n []) : table.getD n [] ∈ table := by
  rw [List.getD_eq_getElem?_getD] at h ⊢
  cases hn : table[n]? with
  | none =>
    rw [hn] at h
    exact absurd h List.not_mem_nil
  | some rules => exact List.mem_of_getElem? hn

/-- The format of an instruction is that of its code. -/
theorem parseOptype_formatId {code : OpCode} {optype : OperationCode}
    (h : parseOptype code = some optype) : optype.formatId = optype.codeId.formatId := by
  unfold parseOptype at h
  rw [Option.map_eq_some_iff] at h
  obtain ⟨rule, hfind, hrule⟩ := h
  have hmem := List.mem_of_find?_eq_some hfind
  have htable : ∃ rules ∈ opParseBaseCodeTable ++ opParseExtendCodeTable, rule ∈ rules := by
    unfold opParseRules at hmem
    split_ifs at hmem
    · exact ⟨_, List.mem_append_right _ (mem_of_mem_getD hmem), hmem⟩
    · exact ⟨_, List.mem_append_left _ (mem_of_mem_getD hmem), hmem⟩
  obtain ⟨rules, hrules, hin⟩ := htable
  rw [← hrule]
  exact formatId_of_mem_tables rules hrules rule hin

end Athrill
