import Athrill.Cpu.Registers

/-!
# Instruction formats

`op_format.h`, `op_dec_types.h` and `op_dec.c`: the operands of each
instruction format and the functions that cut them out of the instruction
bytes.  A decoder writes the record of its own format and keeps the others.
No function writes `type_id`.

* `OpCodeFormatType1` to `OpCodeFormatTypeF`: the operands of a format.
* `OpDecodedCode`: one record of each format.
* `opDecoder`: the table `OpDecoder`.
* `opFormatSize`: the table `OpFormatSize`.
-/

namespace Athrill

/-- The halfwords of an instruction, from the pointer `code` on. -/
abbrev OpCode := Nat → HalfWord

/-! ## Operands -/

/-- `OpCodeFormatId` without `OP_CODE_FORMAT_UNKNOWN`. -/
inductive OpCodeFormatId where
  | format1 | format2 | format3 | format4 | format5 | format6 | format7 | format8
  | format9 | format10 | format11 | format12 | format13 | format14 | formatF
  deriving DecidableEq, Repr

structure OpCodeFormatType1 where
  opcode : HalfWord
  reg1 : HalfWord
  reg2 : HalfWord
  deriving DecidableEq, Repr

structure OpCodeFormatType2 where
  opcode : HalfWord
  imm : Word
  reg2 : HalfWord
  deriving DecidableEq, Repr

structure OpCodeFormatType3 where
  opcode : HalfWord
  disp : Word
  cond : HalfWord
  deriving DecidableEq, Repr

/-- `OpCodeFormatType4_1`. -/
structure OpCodeFormatType4A where
  opcode : HalfWord
  disp : Word
  reg2 : HalfWord
  gen : Word
  deriving DecidableEq, Repr

/-- `OpCodeFormatType4_2`. -/
structure OpCodeFormatType4B where
  opcode : HalfWord
  disp : Word
  reg2 : HalfWord
  deriving DecidableEq, Repr

structure OpCodeFormatType5 where
  opcode : HalfWord
  disp : Word
  reg2 : HalfWord
  deriving DecidableEq, Repr

structure OpCodeFormatType6 where
  opcode : HalfWord
  imm : Word
  reg1 : HalfWord
  reg2 : HalfWord
  deriving DecidableEq, Repr

structure OpCodeFormatType7 where
  opcode : HalfWord
  disp : Word
  reg1 : HalfWord
  reg2 : HalfWord
  gen : Word
  deriving DecidableEq, Repr

structure OpCodeFormatType8 where
  opcode : HalfWord
  sub : HalfWord
  bit : HalfWord
  reg1 : HalfWord
  disp : HalfWord
  deriving DecidableEq, Repr

structure OpCodeFormatType9 where
  opcode : HalfWord
  sub : HalfWord
  gen : HalfWord
  reg2 : HalfWord
  rfu2 : HalfWord
  rfu1 : HalfWord
  deriving DecidableEq, Repr

structure OpCodeFormatType10 where
  opcode : HalfWord
  gen1 : HalfWord
  gen2 : Word
  sub : HalfWord
  rfu1 : HalfWord
  rfu2 : HalfWord
  rfu3 : HalfWord
  deriving DecidableEq, Repr

structure OpCodeFormatType11 where
  opcode : HalfWord
  reg1 : HalfWord
  reg2 : HalfWord
  reg3 : HalfWord
  sub1 : HalfWord
  sub2 : HalfWord
  rfu : HalfWord
  deriving DecidableEq, Repr

structure OpCodeFormatType12 where
  opcode : HalfWord
  reg2 : HalfWord
  reg3 : HalfWord
  imml : Word
  immh : Word
  sub1 : HalfWord
  sub2 : HalfWord
  deriving DecidableEq, Repr

structure OpCodeFormatType13 where
  opcode : HalfWord
  imm : Word
  list : Fin 32 → Bool
  gen : HalfWord
  rfu : HalfWord

structure OpCodeFormatType14 where
  sub1 : HalfWord
  opcode : HalfWord
  reg1 : HalfWord
  reg3 : HalfWord
  dispLow : Word
  sub2 : HalfWord
  dispHigh : Word
  deriving DecidableEq, Repr

/-- `OpCodeFormatType_f`. -/
structure OpCodeFormatTypeF where
  reg2 : HalfWord
  opcode : HalfWord
  reg1 : HalfWord
  reg3 : HalfWord
  subopcode : Word
  deriving DecidableEq, Repr

/-- `OpDecodedCodeType`. -/
structure OpDecodedCode where
  typeId : OpCodeFormatId
  type1 : OpCodeFormatType1
  type2 : OpCodeFormatType2
  type3 : OpCodeFormatType3
  type4A : OpCodeFormatType4A
  type4B : OpCodeFormatType4B
  type5 : OpCodeFormatType5
  type6 : OpCodeFormatType6
  type7 : OpCodeFormatType7
  type8 : OpCodeFormatType8
  type9 : OpCodeFormatType9
  type10 : OpCodeFormatType10
  type11 : OpCodeFormatType11
  type12 : OpCodeFormatType12
  type13 : OpCodeFormatType13
  type14 : OpCodeFormatType14
  typeF : OpCodeFormatTypeF

/-- Static storage before the first decoding. -/
def OpDecodedCode.bss : OpDecodedCode where
  typeId := .format1
  type1 := ⟨0, 0, 0⟩
  type2 := ⟨0, 0, 0⟩
  type3 := ⟨0, 0, 0⟩
  type4A := ⟨0, 0, 0, 0⟩
  type4B := ⟨0, 0, 0⟩
  type5 := ⟨0, 0, 0⟩
  type6 := ⟨0, 0, 0, 0⟩
  type7 := ⟨0, 0, 0, 0, 0⟩
  type8 := ⟨0, 0, 0, 0, 0⟩
  type9 := ⟨0, 0, 0, 0, 0, 0⟩
  type10 := ⟨0, 0, 0, 0, 0, 0, 0⟩
  type11 := ⟨0, 0, 0, 0, 0, 0, 0⟩
  type12 := ⟨0, 0, 0, 0, 0, 0, 0⟩
  type13 := ⟨0, 0, fun _ => false, 0, 0⟩
  type14 := ⟨0, 0, 0, 0, 0, 0, 0⟩
  typeF := ⟨0, 0, 0, 0, 0⟩

/-! ## Decoding -/

/-- `(data >> shift) & mask`. -/
def field (data : HalfWord) (shift : Nat) (mask : HalfWord) : HalfWord :=
  (data >>> shift) &&& mask

/-- A field that is kept in a `uint32`. -/
def field32 (data : HalfWord) (shift : Nat) (mask : HalfWord) : Word :=
  (field data shift mask).setWidth 32

section Decode

variable (code : OpCode)

def opDecode1 : OpCodeFormatType1 where
  opcode := field (code 0) 5 0x003F
  reg1 := field (code 0) 0 0x001F
  reg2 := field (code 0) 11 0x001F

def opDecode2 : OpCodeFormatType2 where
  opcode := field (code 0) 5 0x003F
  imm := field32 (code 0) 0 0x001F
  reg2 := field (code 0) 11 0x001F

def opDecode3 : OpCodeFormatType3 where
  opcode := field (code 0) 7 0x000F
  disp := (field32 (code 0) 11 0x001F <<< 3) ||| field32 (code 0) 4 0x0007
  cond := field (code 0) 0 0x000F

/-- The first half of `OpDecode4`. -/
def opDecode4A : OpCodeFormatType4A where
  opcode := field (code 0) 7 0x000F
  disp := field32 (code 0) 1 0x003F
  reg2 := field (code 0) 11 0x001F
  gen := field32 (code 0) 0 0x0001

/-- The second half of `OpDecode4`. -/
def opDecode4B : OpCodeFormatType4B where
  opcode := field (code 0) 4 0x007F
  disp := field32 (code 0) 0 0x000F
  reg2 := field (code 0) 11 0x001F

def opDecode5 : OpCodeFormatType5 where
  opcode := field (code 0) 6 0x001F
  reg2 := field (code 0) 11 0x001F
  disp := (field32 (code 0) 0 0x003F <<< 16) ||| field32 (code 1) 0 0xFFFF

def opDecode6 : OpCodeFormatType6 where
  opcode := field (code 0) 5 0x003F
  reg2 := field (code 0) 11 0x001F
  reg1 := field (code 0) 0 0x001F
  imm := field32 (code 1) 0 0xFFFF

def opDecode7 : OpCodeFormatType7 where
  opcode := field (code 0) 5 0x003F
  reg2 := field (code 0) 11 0x001F
  reg1 := field (code 0) 0 0x001F
  disp := field32 (code 1) 1 0x7FFF
  gen := field32 (code 1) 0 0x0001

def opDecode8 : OpCodeFormatType8 where
  opcode := field (code 0) 5 0x003F
  sub := field (code 0) 14 0x0003
  bit := field (code 0) 11 0x0007
  reg1 := field (code 0) 0 0x001F
  disp := field (code 1) 0 0xFFFF

def opDecode9 : OpCodeFormatType9 where
  opcode := field (code 0) 5 0x003F
  reg2 := field (code 0) 11 0x001F
  gen := field (code 0) 0 0x001F
  rfu1 := field (code 1) 1 0x000F
  rfu2 := field (code 1) 11 0x001F
  sub := field (code 1) 5 0x003F

def opDecode10 : OpCodeFormatType10 where
  opcode := field (code 0) 5 0x003F
  rfu1 := field (code 0) 11 0x0003
  gen1 := field (code 0) 13 0x0007
  gen2 := field32 (code 0) 0 0x001F
  rfu2 := field (code 1) 11 0x001F
  rfu3 := field (code 1) 1 0x000F
  sub := field (code 1) 5 0x003F

def opDecode11 : OpCodeFormatType11 where
  opcode := field (code 0) 5 0x003F
  reg2 := field (code 0) 11 0x001F
  reg1 := field (code 0) 0 0x001F
  rfu := field (code 1) 2 0x0007
  reg3 := field (code 1) 11 0x001F
  sub1 := field (code 1) 5 0x003F
  sub2 := field (code 1) 1 0x0001

def opDecode12 : OpCodeFormatType12 where
  opcode := field (code 0) 5 0x003F
  reg2 := field (code 0) 11 0x001F
  imml := field32 (code 0) 0 0x001F
  reg3 := field (code 1) 11 0x001F
  sub1 := field (code 1) 7 0x000F
  sub2 := field (code 1) 1 0x0001
  immh := field32 (code 1) 2 0x001F

/-- The register list of `OpDecode13`: the bit of each register. -/
def opDecode13List (i : Fin 32) : Bool :=
  match i.val with
  | 20 => (code 1).getLsbD 11
  | 21 => (code 1).getLsbD 10
  | 22 => (code 1).getLsbD 9
  | 23 => (code 1).getLsbD 8
  | 24 => (code 1).getLsbD 15
  | 25 => (code 1).getLsbD 14
  | 26 => (code 1).getLsbD 13
  | 27 => (code 1).getLsbD 12
  | 28 => (code 1).getLsbD 7
  | 29 => (code 1).getLsbD 6
  | 30 => (code 0).getLsbD 0
  | 31 => (code 1).getLsbD 5
  | _ => false

def opDecode13 : OpCodeFormatType13 where
  opcode := field (code 0) 6 0x001F
  rfu := field (code 0) 11 0x001F
  imm := field32 (code 0) 1 0x001F
  gen := field (code 1) 0 0x001F
  list := opDecode13List code

def opDecode14 : OpCodeFormatType14 where
  sub1 := field (code 0) 11 0x001F
  opcode := field (code 0) 5 0x003F
  reg1 := field (code 0) 0 0x001F
  reg3 := field (code 1) 11 0x001F
  dispLow := field32 (code 1) 4 0x007F
  sub2 := field (code 1) 0 0x000F
  dispHigh := (code 2).setWidth 32

def opDecodeF : OpCodeFormatTypeF where
  reg2 := field (code 0) 11 0x001F
  opcode := field (code 0) 5 0x003F
  reg1 := field (code 0) 0 0x001F
  reg3 := field (code 1) 11 0x001F
  subopcode := field32 (code 1) 0 0x03FF

/-- `OpDecoder[format_id].decode`. -/
def opDecoder (formatId : OpCodeFormatId) (decodedCode : OpDecodedCode) : OpDecodedCode :=
  match formatId with
  | .format1 => { decodedCode with type1 := opDecode1 code }
  | .format2 => { decodedCode with type2 := opDecode2 code }
  | .format3 => { decodedCode with type3 := opDecode3 code }
  | .format4 => { decodedCode with type4A := opDecode4A code, type4B := opDecode4B code }
  | .format5 => { decodedCode with type5 := opDecode5 code }
  | .format6 => { decodedCode with type6 := opDecode6 code }
  | .format7 => { decodedCode with type7 := opDecode7 code }
  | .format8 => { decodedCode with type8 := opDecode8 code }
  | .format9 => { decodedCode with type9 := opDecode9 code }
  | .format10 => { decodedCode with type10 := opDecode10 code }
  | .format11 => { decodedCode with type11 := opDecode11 code }
  | .format12 => { decodedCode with type12 := opDecode12 code }
  | .format13 => { decodedCode with type13 := opDecode13 code }
  | .format14 => { decodedCode with type14 := opDecode14 code }
  | .formatF => { decodedCode with typeF := opDecodeF code }

/-- The decoders leave `type_id` as it is. -/
@[simp] theorem typeId_opDecoder (formatId : OpCodeFormatId) (decodedCode : OpDecodedCode) :
    (opDecoder code formatId decodedCode).typeId = decodedCode.typeId := by
  cases formatId <;> rfl

/-- Decoding the same bytes again changes nothing. -/
@[simp] theorem opDecoder_opDecoder (formatId : OpCodeFormatId) (decodedCode : OpDecodedCode) :
    opDecoder code formatId (opDecoder code formatId decodedCode) =
      opDecoder code formatId decodedCode := by
  cases formatId <;> rfl

end Decode

/-- `OpFormatSize`. -/
def opFormatSize : OpCodeFormatId → Word
  | .format1 | .format2 | .format3 | .format4 => 2
  | .format14 => 6
  | _ => 4

end Athrill
