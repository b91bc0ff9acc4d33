import Athrill.Dec.Extended
import Athrill.Exec.Displacement
import Athrill.Exec.Ram

/-!
# Loads after stores

The loads and stores have a short form relative to `ep`, a form with 16 bits of
displacement and one with 23.  Whatever the form, an instruction reaches the
bytes at base plus displacement, and a load gives back what was stored there.

* `LoadInstr`, `StoreInstr`: the encodings, with their width and address.
* `run_ld`, `run_st`: a load and a store on RAM.
* `store_load_agree`: a load after a store.
-/

namespace Athrill

open TargetCore Routine ByteMemory

namespace Exec

variable {D : Type}

/-! ## The encodings -/

/-- The loads; `LD.H` and `LD.W` share an executor. -/
inductive LoadInstr where
  | sldb | sldbu | sldh | sldhu | sldw
  | ldb | ldbu | ldhw | ldhu
  | ldb14 | ldbu14 | ldh14 | ldhu14 | ldw14

/-- The stores; `ST.H` and `ST.W` share an executor. -/
inductive StoreInstr where
  | sstb | ssth | sstw
  | stb | sthw
  | stb14 | sth14 | stw14

/-- Bit 16 tells a word from a halfword. -/
def hwWidth (code : OpCode) : Width :=
  if (bits code 16 16 : Word) = 0 then .half else .word

namespace LoadInstr

def exec (bus : Bus D) (code : OpCode) : LoadInstr → Exec D Unit
  | sldb => opExecSldb bus (opDecode4A code)
  | sldbu => opExecSldbu bus (opDecode4B code)
  | sldh => opExecSldh bus (opDecode4A code)
  | sldhu => opExecSldhu bus (opDecode4B code)
  | sldw => opExecSldw bus (opDecode4A code)
  | ldb => opExecLdb bus (opDecode7 code)
  | ldbu => opExecLdbu bus (opDecode7 code)
  | ldhw => opExecLdhw bus (opDecode7 code)
  | ldhu => opExecLdhu bus (opDecode7 code)
  | ldb14 => opExecLdB14 bus (opDecode14 code)
  | ldbu14 => opExecLdBu14 bus (opDecode14 code)
  | ldh14 => opExecLdH14 bus (opDecode14 code)
  | ldhu14 => opExecLdHu14 bus (opDecode14 code)
  | ldw14 => opExecLdW14 bus (opDecode14 code)

def width (code : OpCode) : LoadInstr → Width
  | sldb | sldbu | ldb | ldbu | ldb14 | ldbu14 => .byte
  | sldh | sldhu | ldhu | ldh14 | ldhu14 => .half
  | sldw | ldw14 => .word
  | ldhw => hwWidth code

def signed : LoadInstr → Bool
  | sldbu | sldhu | ldbu | ldhu | ldbu14 | ldhu14 => false
  | _ => true

/-- The register of the base: `ep`, or bits 4 to 0. -/
def base (code : OpCode) : LoadInstr → HalfWord
  | sldb | sldbu | sldh | sldhu | sldw => 30
  | _ => bits code 4 0

/-- The register that is loaded. -/
def dest (code : OpCode) : LoadInstr → HalfWord
  | ldb14 | ldbu14 | ldh14 | ldhu14 | ldw14 => bits code 31 27
  | _ => bits code 15 11

/-- The extended displacement. -/
def disp (code : OpCode) : LoadInstr → Word
  | sldb => (bits code 6 0 : BitVec 7).setWidth 32
  | sldbu => (bits code 3 0 : BitVec 4).setWidth 32
  | sldh => 2 * (bits code 6 0 : BitVec 7).setWidth 32
  | sldhu => 2 * (bits code 3 0 : BitVec 4).setWidth 32
  | sldw => 4 * (bits code 6 1 : BitVec 6).setWidth 32
  | ldb => (bits code 31 16 : BitVec 16).signExtend 32
  | ldbu => ((bits code 31 17 : BitVec 15) ++ (bits code 5 5 : BitVec 1)).signExtend 32
  | ldhw | ldhu => ((bits code 31 17 : BitVec 15) ++ 0#1).signExtend 32
  | ldb14 | ldbu14 | ldh14 | ldhu14 | ldw14 =>
    ((bits code 47 32 : BitVec 16) ++ (bits code 26 20 : BitVec 7)).signExtend 32

def len : LoadInstr → Word
  | sldb | sldbu | sldh | sldhu | sldw => 2
  | ldb | ldbu | ldhw | ldhu => 4
  | ldb14 | ldbu14 | ldh14 | ldhu14 | ldw14 => 6

/-- The effective address. -/
def addr (code : OpCode) (cpu : TargetCore) (i : LoadInstr) : Word :=
  cpu.reg (i.base code) + i.disp code

end LoadInstr

namespace StoreInstr

def exec (bus : Bus D) (mayOverflow : D → Word → Word → Bool) (code : OpCode) :
    StoreInstr → Exec D Unit
  | sstb => opExecSstb bus mayOverflow (opDecode4A code)
  | ssth => opExecSsth bus mayOverflow (opDecode4A code)
  | sstw => opExecSstw bus mayOverflow (opDecode4A code)
  | stb => opExecStb bus mayOverflow (opDecode7 code)
  | sthw => opExecSthw bus mayOverflow (opDecode7 code)
  | stb14 => opExecStB14 bus mayOverflow (opDecode14 code)
  | sth14 => opExecStH14 bus mayOverflow (opDecode14 code)
  | stw14 => opExecStW14 bus mayOverflow (opDecode14 code)

def width (code : OpCode) : StoreInstr → Width
  | sstb | stb | stb14 => .byte
  | ssth | sth14 => .half
  | sstw | stw14 => .word
  | sthw => hwWidth code

def base (code : OpCode) : StoreInstr → HalfWord
  | sstb | ssth | sstw => 30
  | _ => bits code 4 0

/-- The register that is stored. -/
def src (code : OpCode) : StoreInstr → HalfWord
  | stb14 | sth14 | stw14 => bits code 31 27
  | _ => bits code 15 11

def disp (code : OpCode) : StoreInstr → Word
  | sstb => (bits code 6 0 : BitVec 7).setWidth 32
  | ssth => 2 * (bits code 6 0 : BitVec 7).setWidth 32
  | sstw => 4 * (bits code 6 1 : BitVec 6).setWidth 32
  | stb => (bits code 31 16 : BitVec 16).signExtend 32
  | sthw => ((bits code 31 17 : BitVec 15) ++ 0#1).signExtend 32
  | stb14 | sth14 | stw14 =>
    ((bits code 47 32 : BitVec 16) ++ (bits code 26 20 : BitVec 7)).signExtend 32

def len : StoreInstr → Word
  | sstb | ssth | sstw => 2
  | stb | sthw => 4
  | stb14 | sth14 | stw14 => 6

def addr (code : OpCode) (cpu : TargetCore) (i : StoreInstr) : Word :=
  cpu.reg (i.base code) + i.disp code

/-- The check of the stack lets the store pass. -/
def StackFits (mayOverflow : D → Word → Word → Bool) (code : OpCode) (s : CpuState D)
    (i : StoreInstr) : Prop :=
  ¬ ((i.base code).toNat = cpuRegSp ∧
    mayOverflow s.dev (s.cpu.reg (i.base code)) (isTrue (i.disp code)) = true)

end StoreInstr

/-! ## One load and one store -/

section Run

variable {bus : Bus D} {ram : Ram D} (hram : RamContract bus ram) {s : CpuState D}
include hram

theorem run_ld {reg1 dest : HalfWord} (h1 : reg1.toNat < 32) (hdest : dest.toNat < 32)
    (disp size : Word) (signed : Bool) {width : Width}
    (hread : ram.Permits .read s.cpu (s.cpu.reg reg1 + disp) width.bytes) :
    ∃ s', (ld reg1 dest disp size (loadOf bus signed width)).run s = (.ok (), s') ∧
      (∀ n, s'.cpu.reg n = if n = dest then
        width.extend signed (load (ram.mem s.dev) (s.cpu.reg reg1 + disp) width.bytes)
      else s.cpu.reg n) ∧ ram.mem s'.dev = ram.mem s.dev := by
  obtain ⟨s₁, hrun, hs₁⟩ := run_loadOf hram signed hread
  have hreg : ∀ n, s₁.cpu.reg n = s.cpu.reg n := reg_congr hs₁.r
  refine ⟨{ s₁ with cpu := { s₁.cpu with
    r := Function.update s₁.cpu.r ⟨dest.toNat, hdest⟩
      (width.extend signed (load (ram.mem s.dev) (s.cpu.reg reg1 + disp) width.bytes))
    pc := s₁.cpu.pc + size } }, ?_, ?_, hs₁.mem⟩
  · unfold ld
    rw [run_bind, run_checkReg h1, andThen_ok, run_bind, run_checkReg hdest, andThen_ok, run_bind,
      run_getR h1, andThen_ok, ← reg_of_lt h1, run_bind, hrun, andThen_ok, run_bind,
      run_setR hdest, andThen_ok]
    rfl
  · intro n
    rw [← hreg n]
    exact reg_update hdest rfl n

theorem run_st {reg1 src : HalfWord} (h1 : reg1.toNat < 32) (hsrc : src.toNat < 32)
    {mayOverflow : D → Word → Word → Bool} {disp : Word} (size : Word) {width : Width}
    (hstack : ¬ (reg1.toNat = cpuRegSp ∧
      mayOverflow s.dev (s.cpu.reg reg1) (isTrue disp) = true))
    (hwrite : ram.Permits .write s.cpu (s.cpu.reg reg1 + disp) width.bytes) :
    ∃ s', (st mayOverflow reg1.toNat src disp size (storeOf bus width)).run s = (.ok (), s') ∧
      s'.cpu.r = s.cpu.r ∧ SameProtection s.cpu s'.cpu ∧
      ram.mem s'.dev = store (ram.mem s.dev) (s.cpu.reg reg1 + disp) width.bytes
        (width.low (s.cpu.reg src)) := by
  obtain ⟨s₁, hrun, hs₁⟩ := run_storeOf hram (s.cpu.reg src) hwrite
  have hcheck : (checkStack mayOverflow reg1.toNat (s.cpu.reg reg1) (isTrue disp)).run s =
      (.ok (), s) := run_failIf hstack s
  refine ⟨{ s₁ with cpu := { s₁.cpu with pc := s₁.cpu.pc + size } }, ?_, hs₁.r,
    hs₁.protection.trans ⟨rfl, ⟨_, rfl⟩⟩, hs₁.mem⟩
  unfold st
  rw [run_bind, run_checkReg h1, andThen_ok, run_bind, run_checkReg hsrc, andThen_ok, run_bind,
    run_getR h1, andThen_ok, ← reg_of_lt h1, run_bind, hcheck, andThen_ok, run_bind,
    run_getR hsrc, andThen_ok, ← reg_of_lt hsrc, run_bind, hrun, andThen_ok]
  rfl

end Run

/-! ## The displacement of each encoding -/

section Decode

variable (code : OpCode)

theorem reg2_opDecode4A : (opDecode4A code).reg2 = bits code 15 11 :=
  field_zero code 15 11 (by omega) (by decide)

theorem reg2_opDecode4B : (opDecode4B code).reg2 = bits code 15 11 :=
  field_zero code 15 11 (by omega) (by decide)

theorem regs_opDecode7 :
    (opDecode7 code).reg1 = bits code 4 0 ∧ (opDecode7 code).reg2 = bits code 15 11 ∧
      (opDecode7 code).gen = bits code 16 16 :=
  ⟨reg1_opDecode7 code, reg2_opDecode7 code, field32_one code 0 0 (by omega) (by decide)⟩

theorem regs_opDecode14 :
    (opDecode14 code).reg1 = bits code 4 0 ∧ (opDecode14 code).reg3 = bits code 31 27 :=
  ⟨field_zero code 4 0 (by omega) (by decide), field_one code 15 11 (by omega) (by decide)⟩

theorem LoadInstr.exec_eq (bus : Bus D) (i : LoadInstr) :
    i.exec bus code = ld (i.base code) (i.dest code) (i.disp code) i.len
      (loadOf bus i.signed (i.width code)) := by
  obtain ⟨h71, h72, h7gen⟩ := regs_opDecode7 code
  obtain ⟨h141, h143⟩ := regs_opDecode14 code
  have hdisp23 := disp23_opDecode14 code
  cases i with
  | sldb =>
    show sld _ _ (loadS8 bus) = _
    rw [reg2_opDecode4A, disp7_opDecode4A]
    rfl
  | sldbu =>
    show sld _ _ (loadU8 bus) = _
    rw [reg2_opDecode4B, disp4_opDecode4B, opZeroExtend_setWidth (Nat.le_refl 4)]
    rfl
  | sldh =>
    show sld _ _ (loadS16 bus) = _
    rw [reg2_opDecode4A, disp7_opDecode4A, shiftLeft_eq_twoPow_mul]
    rfl
  | sldhu =>
    show sld _ _ (loadU16 bus) = _
    rw [reg2_opDecode4B, disp5_opDecode4B]
    rfl
  | sldw =>
    show sld _ _ (load32 bus) = _
    rw [reg2_opDecode4A, disp6_opDecode4A, shiftLeft_eq_twoPow_mul]
    rfl
  | ldb =>
    show ld _ _ _ _ (loadS8 bus) = _
    rw [h71, h72, disp16_opDecode7]
    rfl
  | ldbu =>
    show ld _ _ _ _ (loadU8 bus) = _
    rw [h71, h72, disp16_opcode_opDecode7]
    rfl
  | ldhw =>
    show (if (opDecode7 code).gen = 0 then ld _ _ _ _ (loadS16 bus)
      else ld _ _ _ _ (load32 bus)) = ld _ _ _ _ (loadOf bus true (hwWidth code))
    unfold hwWidth
    rw [h71, h72, h7gen, disp16_zero_opDecode7]
    by_cases hword : (bits code 16 16 : Word) = 0
    · rw [if_pos hword, if_pos hword]
      rfl
    · rw [if_neg hword, if_neg hword]
      rfl
  | ldhu =>
    show ld _ _ _ _ (loadU16 bus) = _
    rw [h71, h72, disp16_zero_opDecode7]
    rfl
  | ldb14 =>
    show ld _ _ _ _ (loadS8 bus) = _
    rw [h141, h143, hdisp23]
    rfl
  | ldbu14 =>
    show ld _ _ _ _ (loadU8 bus) = _
    rw [h141, h143, hdisp23]
    rfl
  | ldh14 =>
    show ld _ _ _ _ (loadS16 bus) = _
    rw [h141, h143, hdisp23]
    rfl
  | ldhu14 =>
    show ld _ _ _ _ (loadU16 bus) = _
    rw [h141, h143, hdisp23]
    rfl
  | ldw14 =>
    show ld _ _ _ _ (load32 bus) = _
    rw [h141, h143, hdisp23]
    rfl

theorem StoreInstr.exec_eq (bus : Bus D) (mayOverflow : D → Word → Word → Bool)
    (i : StoreInstr) :
    i.exec bus mayOverflow code = st mayOverflow (i.base code).toNat (i.src code) (i.disp code)
      i.len (storeOf bus (i.width code)) := by
  obtain ⟨h71, h72, h7gen⟩ := regs_opDecode7 code
  obtain ⟨h141, h143⟩ := regs_opDecode14 code
  have hdisp23 := disp23_opDecode14 code
  cases i with
  | sstb =>
    show st _ _ _ _ _ (store8 bus) = _
    rw [reg2_opDecode4A, disp7_opDecode4A]
    rfl
  | ssth =>
    show st _ _ _ _ _ (store16 bus) = _
    rw [reg2_opDecode4A, disp7_opDecode4A, shiftLeft_eq_twoPow_mul]
    rfl
  | sstw =>
    show st _ _ _ _ _ (store32 bus) = _
    rw [reg2_opDecode4A, disp6_opDecode4A, shiftLeft_eq_twoPow_mul]
    rfl
  | stb =>
    show st _ _ _ _ _ (store8 bus) = _
    rw [h71, h72, disp16_opDecode7]
    rfl
  | sthw =>
    show (if (opDecode7 code).gen = 0 then st _ _ _ _ _ (store16 bus)
      else st _ _ _ _ _ (store32 bus)) = st _ _ _ _ _ (storeOf bus (hwWidth code))
    unfold hwWidth
    rw [h71, h72, h7gen, disp16_zero_opDecode7]
    by_cases hword : (bits code 16 16 : Word) = 0
    · rw [if_pos hword, if_pos hword]
      rfl
    · rw [if_neg hword, if_neg hword]
      rfl
  | stb14 =>
    show st _ _ _ _ _ (store8 bus) = _
    rw [h141, h143, hdisp23]
    rfl
  | sth14 =>
    show st _ _ _ _ _ (store16 bus) = _
    rw [h141, h143, hdisp23]
    rfl
  | stw14 =>
    show st _ _ _ _ _ (store32 bus) = _
    rw [h141, h143, hdisp23]
    rfl

end Decode

/-! ## A load after a store -/

section Registers

variable (code : OpCode)

theorem base_load_lt (i : LoadInstr) : (i.base code).toNat < 32 := by
  have h1 : (bits code 4 0 : HalfWord).toNat < 32 := toNat_bits_lt code 4 0
  cases i with
  | sldb | sldbu | sldh | sldhu | sldw =>
    show (30 : HalfWord).toNat < 32
    decide
  | _ => exact h1

theorem base_store_lt (i : StoreInstr) : (i.base code).toNat < 32 := by
  have h1 : (bits code 4 0 : HalfWord).toNat < 32 := toNat_bits_lt code 4 0
  cases i with
  | sstb | ssth | sstw =>
    show (30 : HalfWord).toNat < 32
    decide
  | _ => exact h1

theorem dest_load_lt (i : LoadInstr) : (i.dest code).toNat < 32 := by
  have h2 : (bits code 15 11 : HalfWord).toNat < 32 := toNat_bits_lt code 15 11
  have h3 : (bits code 31 27 : HalfWord).toNat < 32 := toNat_bits_lt code 31 27
  cases i with
  | ldb14 | ldbu14 | ldh14 | ldhu14 | ldw14 => exact h3
  | _ => exact h2

theorem src_store_lt (i : StoreInstr) : (i.src code).toNat < 32 := by
  have h2 : (bits code 15 11 : HalfWord).toNat < 32 := toNat_bits_lt code 15 11
  have h3 : (bits code 31 27 : HalfWord).toNat < 32 := toNat_bits_lt code 31 27
  cases i with
  | stb14 | sth14 | stw14 => exact h3
  | _ => exact h2

end Registers

/-- The store writes the low bytes of its register at base plus displacement. -/
structure Stores (bus : Bus D) (ram : Ram D) (mayOverflow : D → Word → Word → Bool)
    (i : StoreInstr) (code : OpCode) (s s' : CpuState D) : Prop where
  run : (i.exec bus mayOverflow code).run s = (.ok (), s')
  r : s'.cpu.r = s.cpu.r
  mem : ram.mem s'.dev = store (ram.mem s.dev) (i.addr code s.cpu) (i.width code).bytes
    ((i.width code).low (s.cpu.reg (i.src code)))

/-- The load extends the bytes at base plus displacement. -/
structure Loads (bus : Bus D) (ram : Ram D) (i : LoadInstr) (code : OpCode)
    (s s' : CpuState D) : Prop where
  run : (i.exec bus code).run s = (.ok (), s')
  reg : ∀ n, s'.cpu.reg n = if n = i.dest code then
      (i.width code).extend i.signed (load (ram.mem s.dev) (i.addr code s.cpu) (i.width code).bytes)
    else s.cpu.reg n
  mem : ram.mem s'.dev = ram.mem s.dev

section Agree

variable {bus : Bus D} {ram : Ram D} (hram : RamContract bus ram) {code : OpCode}
  {s : CpuState D}
include hram

theorem exists_loads {i : LoadInstr}
    (hread : ram.Permits .read s.cpu (i.addr code s.cpu) (i.width code).bytes) :
    ∃ s', Loads bus ram i code s s' := by
  obtain ⟨s', hrun, hreg, hmem⟩ := run_ld hram (base_load_lt code i) (dest_load_lt code i)
    (i.disp code) i.len i.signed hread
  rw [← LoadInstr.exec_eq] at hrun
  exact ⟨s', hrun, hreg, hmem⟩

theorem exists_stores {mayOverflow : D → Word → Word → Bool} {i : StoreInstr}
    (hstack : i.StackFits mayOverflow code s)
    (hwrite : ram.Permits .write s.cpu (i.addr code s.cpu) (i.width code).bytes) :
    ∃ s', Stores bus ram mayOverflow i code s s' ∧ SameProtection s.cpu s'.cpu := by
  obtain ⟨s', hrun, hr, hprotection, hmem⟩ := run_st hram (base_store_lt code i)
    (src_store_lt code i) i.len hstack hwrite
  rw [← StoreInstr.exec_eq] at hrun
  exact ⟨s', ⟨hrun, hr, hmem⟩, hprotection⟩

/-- Every load of the width and the address of a store gives the low bytes of
the stored register, extended as the load says. -/
theorem store_load_agree {mayOverflow : D → Word → Word → Bool} {i : StoreInstr}
    (hstack : i.StackFits mayOverflow code s)
    (hwrite : ram.Permits .write s.cpu (i.addr code s.cpu) (i.width code).bytes)
    (hread : ram.Permits .read s.cpu (i.addr code s.cpu) (i.width code).bytes) :
    ∃ s₁, Stores bus ram mayOverflow i code s s₁ ∧
      ∀ (j : LoadInstr) (code' : OpCode), j.width code' = i.width code →
        j.addr code' s.cpu = i.addr code s.cpu →
          ∃ s₂, Loads bus ram j code' s₁ s₂ ∧ s₂.cpu.reg (j.dest code') =
            (i.width code).extend j.signed ((i.width code).low (s.cpu.reg (i.src code))) := by
  obtain ⟨s₁, hstores, hprotection⟩ := exists_stores hram hstack hwrite
  refine ⟨s₁, hstores, ?_⟩
  intro j code' hwidth haddr
  have haddr₁ : j.addr code' s₁.cpu = i.addr code s.cpu := by
    rw [← haddr]
    unfold LoadInstr.addr
    rw [reg_congr hstores.r]
  have hread₁ : ram.Permits .read s₁.cpu (j.addr code' s₁.cpu) (j.width code').bytes := by
    rw [haddr₁, hwidth]
    exact ⟨hread.aligned, hread.inside, (hprotection.granted _ _ _).trans hread.granted⟩
  obtain ⟨s₂, hloads⟩ := exists_loads hram hread₁
  have hfit : (i.width code).bytes ≤ 2 ^ 32 := by
    cases i.width code <;> decide
  have hlow : (i.width code).low (s.cpu.reg (i.src code)) % 256 ^ (i.width code).bytes =
      (i.width code).low (s.cpu.reg (i.src code)) :=
    Nat.mod_mod _ _
  refine ⟨s₂, hloads, ?_⟩
  rw [hloads.reg, if_pos rfl, haddr₁, hwidth, hstores.mem, load_store _ _ hfit, hlow]

end Agree

/-- `ST.H r2, 4[r1]`. -/
def sthCode : OpCode := fun n => [0x1761, 0x0004].getD n 0

/-- `LD.H 4[r1], r3`. -/
def ldhCode : OpCode := fun n => [0x1F21, 0x0004].getD n 0

/-- An address and a word in registers. -/
def transferState : CpuState (Memory 32) :=
  { ramState with cpu :=
    { ramState.cpu with
      r := Function.update (Function.update ramState.cpu.r 1 0x1000) 2 0x8899AABB } }

/-- The halfword that is stored comes back with its sign. -/
theorem store_load_agree_half :
    ∃ s₁ s₂, Stores ramBus wholeRam (fun _ _ _ => false) .sthw sthCode transferState s₁ ∧
      Loads ramBus wholeRam .ldhw ldhCode s₁ s₂ ∧ s₂.cpu.reg 3 = 0xFFFFAABB := by
  have hwidth : StoreInstr.sthw.width sthCode = .half := by decide
  have haddr : StoreInstr.sthw.addr sthCode transferState.cpu = 0x1004 := by decide +kernel
  have hpermits : ∀ accessType, wholeRam.Permits accessType transferState.cpu
      (StoreInstr.sthw.addr sthCode transferState.cpu)
      (StoreInstr.sthw.width sthCode).bytes := by
    intro accessType
    rw [haddr, hwidth]
    have happlied : mpuApplied transferState.cpu = false := by decide +kernel
    exact ⟨rfl, trivial, congrArg Prod.fst (targetMpuHasPermission_of_not_applied happlied _ _ _)⟩
  have hstack : StoreInstr.sthw.StackFits (fun _ _ _ => false) sthCode transferState :=
    fun h => Bool.false_ne_true h.2
  obtain ⟨s₁, hstores, hagree⟩ :=
    store_load_agree ramContract_ramBus hstack (hpermits .write) (hpermits .read)
  obtain ⟨s₂, hloads, hreg⟩ := hagree .ldhw ldhCode (by decide) (by decide +kernel)
  refine ⟨s₁, s₂, hstores, hloads, hreg.trans ?_⟩
  decide +kernel

end Exec

end Athrill
