import Athrill.Exec.Transfer

/-!
# LDL.W and STC.W

The parser gives these two codes of their own, and the table of the executors
takes them to those of `LD.H` and `ST.H`.  There `reg3` is part of a
displacement.

* `bits_of_ldlw`, `bits_of_stcw`: the fixed bits of the encodings.
* `LinkedCorrect`: a word is stored, loaded, and returned.
* `linked_exact`: when this holds.
-/

namespace Athrill

open TargetCore Routine ByteMemory

/-! ## The encodings -/

section Parsed

variable {code : OpCode} {optype : OperationCode} (hparse : parseOptype code = some optype)
include hparse

/-- Bit 16 is clear in the extended table. -/
theorem bits_of_extended {index : Nat} {pattern : Word}
    (honly : OnlyRule optype.codeId index pattern) :
    (bits code 26 21 : Word).toNat = index ∧
      (bits code 20 17 : Word).toNat = (pattern >>> 17).toNat ∧ (bits code 16 16 : Word) = 0 := by
  obtain ⟨hindex, hpattern, hbit⟩ := fixed_bits_of_parse honly hparse
  have hsub : ((opCodeValue code &&& 0x001E0000) >>> 17).toNat = (bits code 20 17 : Word).toNat :=
    toNat_masked code (by omega) (by decide)
  have hgen : ((opCodeValue code &&& 0x00010000) >>> 16).toNat = (bits code 16 16 : Word).toNat :=
    toNat_masked code (by omega) (by decide)
  rw [hpattern] at hsub
  rw [hbit] at hgen
  exact ⟨hindex, hsub.symm, BitVec.eq_of_toNat_eq hgen.symm⟩

theorem bits_of_ldlw (hid : optype.codeId = .ldl_w_7) :
    (bits code 26 21 : Word).toNat = 27 ∧ (bits code 20 17 : Word).toNat = 12 ∧
      (bits code 16 16 : Word) = 0 :=
  bits_of_extended hparse (hid ▸ (by decide +kernel : OnlyRule .ldl_w_7 27 0x00180000))

theorem bits_of_stcw (hid : optype.codeId = .stc_w_7) :
    (bits code 26 21 : Word).toNat = 27 ∧ (bits code 20 17 : Word).toNat = 13 ∧
      (bits code 16 16 : Word) = 0 :=
  bits_of_extended hparse (hid ▸ (by decide +kernel : OnlyRule .stc_w_7 27 0x001A0000))

end Parsed

/-- The displacement of both is read from bits 31 to 17, whose low bits are fixed. -/
theorem disp_mod_of_bits {code : OpCode} {sub : Nat} (hindex : (bits code 26 21 : Word).toNat = 27)
    (hsub : (bits code 20 17 : Word).toNat = sub) :
    (((bits code 31 17 : BitVec 15) ++ 0#1).signExtend 32 : Word).toNat % 2048 =
      2 * (27 * 16 + sub) := by
  rw [toNat_bits code (by omega)] at hindex hsub
  have hdisp := toNat_bits code (show 31 + 1 - 17 ≤ 15 by omega)
  have happend : ((bits code 31 17 : BitVec 15) ++ 0#1).toNat =
      2 * (bits code 31 17 : BitVec 15).toNat := by
    rw [Limbs.toNat_append]
    simp
  have hextend : (((bits code 31 17 : BitVec 15) ++ 0#1).signExtend 32 : Word).toNat % 2048 =
      ((bits code 31 17 : BitVec 15) ++ 0#1).toNat % 2048 := by
    rw [BitVec.toNat_signExtend, BitVec.toNat_setWidth]
    split_ifs <;> omega
  rw [hextend, happend, hdisp]
  omega

namespace Exec

variable {D : Type}

/-! ## Correctness -/

/-- `STC.W` stores a word, `LDL.W` loads it, and one after the other returns it,
at the address `addr` in the base registers of both. -/
structure LinkedCorrect (bus : Bus D) (ram : Ram D) (mayOverflow : D → Word → Word → Bool)
    (stc ldl : OpCode) (addr : Word) (s : CpuState D) : Prop where
  stored : ∃ s₁, (opExecSthw bus mayOverflow (opDecode7 stc)).run s = (.ok (), s₁) ∧
    loadWord (ram.mem s₁.dev) addr = s.cpu.reg (bits stc 31 27)
  loaded : ∃ s₂, (opExecLdhw bus (opDecode7 ldl)).run s = (.ok (), s₂) ∧
    s₂.cpu.reg (bits ldl 31 27) = loadWord (ram.mem s.dev) addr
  returned : ∃ s₁ s₂, (opExecSthw bus mayOverflow (opDecode7 stc)).run s = (.ok (), s₁) ∧
    (opExecLdhw bus (opDecode7 ldl)).run s₁ = (.ok (), s₂) ∧
    s₂.cpu.reg (bits ldl 31 27) = s.cpu.reg (bits stc 31 27)

/-- There is nothing to do: the word at the address is already the one to store,
and it is already in the register to load, or, where the bits that `LDL.W` does
not use name that register, in the halfword that the executor loads. -/
structure LinkedInRange (ram : Ram D) (stc ldl : OpCode) (addr : Word) (s : CpuState D) :
    Prop where
  stored : loadWord (ram.mem s.dev) addr = s.cpu.reg (bits stc 31 27)
  loaded : (if (bits ldl 31 27 : HalfWord) = bits ldl 15 11 then
      Width.extend .half true (load (ram.mem s.dev) (LoadInstr.ldhw.addr ldl s.cpu) 2)
    else s.cpu.reg (bits ldl 31 27)) = loadWord (ram.mem s.dev) addr

/-- Addresses that are apart modulo 2048. -/
theorem not_within_of_mod {a b : Word} {k : Nat}
    (h : k ≤ (a.toNat + 2048 - b.toNat % 2048) % 2048) : ¬ Within b k a := by
  have ha := a.isLt
  have hb := b.isLt
  unfold Within
  rw [BitVec.toNat_sub]
  omega

section Linked

variable {bus : Bus D} {ram : Ram D} (hram : RamContract bus ram)
  {mayOverflow : D → Word → Word → Bool} {stc ldl : OpCode} {optype optype' : OperationCode}
  (hstc : parseOptype stc = some optype) (hstcId : optype.codeId = .stc_w_7)
  (hldl : parseOptype ldl = some optype') (hldlId : optype'.codeId = .ldl_w_7)
  {addr : Word} {s : CpuState D} (hstcAddr : s.cpu.reg (bits stc 4 0) = addr)
  (hldlAddr : s.cpu.reg (bits ldl 4 0) = addr)

include hstc hstcId hstcAddr in
/-- The halfword that the executor of `STC.W` stores. -/
theorem stcw_access :
    StoreInstr.sthw.width stc = .half ∧
      (StoreInstr.sthw.addr stc s.cpu).toNat % 2048 = (addr.toNat + 890) % 2048 := by
  obtain ⟨hindex, hsub, hgen⟩ := bits_of_stcw hstc hstcId
  have hdisp : (StoreInstr.sthw.disp stc).toNat % 2048 = 2 * (27 * 16 + 13) :=
    disp_mod_of_bits hindex hsub
  refine ⟨if_pos hgen, ?_⟩
  show (s.cpu.reg (bits stc 4 0) + StoreInstr.sthw.disp stc).toNat % 2048 = _
  rw [hstcAddr, BitVec.toNat_add]
  omega

include hldl hldlId hldlAddr in
/-- The halfword that the executor of `LDL.W` loads. -/
theorem ldlw_access :
    LoadInstr.ldhw.width ldl = .half ∧
      (LoadInstr.ldhw.addr ldl s.cpu).toNat % 2048 = (addr.toNat + 888) % 2048 := by
  obtain ⟨hindex, hsub, hgen⟩ := bits_of_ldlw hldl hldlId
  have hdisp : (LoadInstr.ldhw.disp ldl).toNat % 2048 = 2 * (27 * 16 + 12) :=
    disp_mod_of_bits hindex hsub
  refine ⟨if_pos hgen, ?_⟩
  show (s.cpu.reg (bits ldl 4 0) + LoadInstr.ldhw.disp ldl).toNat % 2048 = _
  rw [hldlAddr, BitVec.toNat_add]
  omega

include hstc hstcId hstcAddr in
/-- The store does not reach the word at the address. -/
theorem loadWord_stcw (mem : Memory 32) (value : Nat) :
    loadWord (store mem (StoreInstr.sthw.addr stc s.cpu) 2 value) addr = loadWord mem addr := by
  obtain ⟨-, hmod⟩ := stcw_access hstc hstcId hstcAddr
  unfold loadWord
  rw [load_store_of_not_within]
  intro i hi
  apply not_within_of_mod
  rw [BitVec.toNat_add, BitVec.toNat_ofNat, hmod]
  omega

include hstc hstcId hldl hldlId hstcAddr hldlAddr in
/-- Nor the halfword that is loaded. -/
theorem load_ldlw_stcw (mem : Memory 32) (value : Nat) :
    load (store mem (StoreInstr.sthw.addr stc s.cpu) 2 value) (LoadInstr.ldhw.addr ldl s.cpu) 2 =
      load mem (LoadInstr.ldhw.addr ldl s.cpu) 2 := by
  obtain ⟨-, hmod⟩ := stcw_access hstc hstcId hstcAddr
  obtain ⟨-, hmod'⟩ := ldlw_access hldl hldlId hldlAddr
  rw [load_store_of_not_within]
  intro i hi
  apply not_within_of_mod
  rw [BitVec.toNat_add, BitVec.toNat_ofNat, hmod]
  omega

include hram hldl hldlId hldlAddr in
/-- What `LDL.W` leaves in the register that its encoding names. -/
theorem run_ldlw (hload : ram.Permits .read s.cpu (LoadInstr.ldhw.addr ldl s.cpu) 2) :
    ∃ s', (opExecLdhw bus (opDecode7 ldl)).run s = (.ok (), s') ∧
      s'.cpu.reg (bits ldl 31 27) =
        if (bits ldl 31 27 : HalfWord) = bits ldl 15 11 then
          Width.extend .half true (load (ram.mem s.dev) (LoadInstr.ldhw.addr ldl s.cpu) 2)
        else s.cpu.reg (bits ldl 31 27) := by
  obtain ⟨hwidth, -⟩ := ldlw_access hldl hldlId hldlAddr
  have hpermits : ram.Permits .read s.cpu (LoadInstr.ldhw.addr ldl s.cpu)
      (LoadInstr.ldhw.width ldl).bytes := by
    rw [hwidth]
    exact hload
  obtain ⟨s', hloads⟩ := exists_loads hram hpermits
  refine ⟨s', hloads.run, ?_⟩
  rw [hloads.reg, hwidth]
  rfl

include hram hstc hstcId hstcAddr in
theorem run_stcw (hstack : StoreInstr.sthw.StackFits mayOverflow stc s)
    (hstore : ram.Permits .write s.cpu (StoreInstr.sthw.addr stc s.cpu) 2) :
    ∃ s', (opExecSthw bus mayOverflow (opDecode7 stc)).run s = (.ok (), s') ∧
      s'.cpu.r = s.cpu.r ∧ SameProtection s.cpu s'.cpu ∧ ∃ value,
        ram.mem s'.dev = store (ram.mem s.dev) (StoreInstr.sthw.addr stc s.cpu) 2 value := by
  obtain ⟨hwidth, -⟩ := stcw_access hstc hstcId hstcAddr
  obtain ⟨s', hstores, hprotection⟩ := exists_stores hram hstack (by rw [hwidth]; exact hstore)
  have hmem := hstores.mem
  rw [hwidth] at hmem
  exact ⟨s', hstores.run, hstores.r, hprotection, _, hmem⟩

include hram hstc hstcId hldl hldlId hstcAddr hldlAddr in
/-- The two instructions do what they should only where there is nothing to do. -/
theorem linked_exact (hstack : StoreInstr.sthw.StackFits mayOverflow stc s)
    (hstore : ram.Permits .write s.cpu (StoreInstr.sthw.addr stc s.cpu) 2)
    (hload : ram.Permits .read s.cpu (LoadInstr.ldhw.addr ldl s.cpu) 2) :
    LinkedCorrect bus ram mayOverflow stc ldl addr s ↔ LinkedInRange ram stc ldl addr s := by
  obtain ⟨s₁, hrun₁, hr, hprotection, value, hmem⟩ :=
    run_stcw hram hstc hstcId hstcAddr hstack hstore
  obtain ⟨s₂, hrun₂, hreg₂⟩ := run_ldlw hram hldl hldlId hldlAddr hload
  have hword : loadWord (ram.mem s₁.dev) addr = loadWord (ram.mem s.dev) addr := by
    rw [hmem, loadWord_stcw hstc hstcId hstcAddr]
  constructor
  · rintro ⟨⟨t₁, ht₁, hstored⟩, ⟨t₂, ht₂, hloaded⟩, -⟩
    rw [hrun₁] at ht₁
    cases ht₁
    rw [hrun₂] at ht₂
    cases ht₂
    exact ⟨hword.symm.trans hstored, hreg₂.symm.trans hloaded⟩
  · rintro ⟨hstored, hloaded⟩
    have haddr₁ : LoadInstr.ldhw.addr ldl s₁.cpu = LoadInstr.ldhw.addr ldl s.cpu := by
      unfold LoadInstr.addr
      rw [reg_congr hr]
    have hload₁ : ram.Permits .read s₁.cpu (LoadInstr.ldhw.addr ldl s₁.cpu) 2 := by
      rw [haddr₁]
      exact ⟨hload.aligned, hload.inside, (hprotection.granted _ _ _).trans hload.granted⟩
    obtain ⟨s₃, hrun₃, hreg₃⟩ := run_ldlw hram hldl hldlId ((reg_congr hr _).trans hldlAddr) hload₁
    rw [haddr₁, hmem, load_ldlw_stcw hstc hstcId hldl hldlId hstcAddr hldlAddr, reg_congr hr,
      hloaded, hstored] at hreg₃
    exact ⟨⟨s₁, hrun₁, hword.trans hstored⟩, ⟨s₂, hrun₂, hreg₂.trans hloaded⟩,
      ⟨s₁, s₃, hrun₁, hrun₃, hreg₃⟩⟩

end Linked

/-- `STC.W r2, [r1]`. -/
def stcwCode : OpCode := fun n => [0x07E1, 0x137A].getD n 0

/-- `LDL.W [r1], r3`. -/
def ldlwCode : OpCode := fun n => [0x07E1, 0x1B78].getD n 0

/-- The word at address 8 is already in both registers. -/
def linkedState : CpuState (Memory 32) :=
  let r := Function.update (Function.update ramState.cpu.r 1 8) 2 0x11223344
  { ramState with
    cpu := { ramState.cpu with r := Function.update r 3 0x11223344 }
    dev := fun a => [0x44, 0x33, 0x22, 0x11].getD (a - 8).toNat 0 }

theorem linked_exact_same :
    LinkedCorrect ramBus wholeRam (fun _ _ _ => false) stcwCode ldlwCode 8 linkedState :=
  (linked_exact ramContract_ramBus
    (show parseOptype stcwCode = some ⟨.stc_w_7, .format7⟩ by decide +kernel) rfl
    (show parseOptype ldlwCode = some ⟨.ldl_w_7, .format7⟩ by decide +kernel) rfl
    (by decide +kernel) (by decide +kernel) (fun h => Bool.false_ne_true h.2)
    ⟨by decide +kernel, trivial, by decide +kernel⟩
    ⟨by decide +kernel, trivial, by decide +kernel⟩).mpr
      ⟨by decide +kernel, by decide +kernel⟩

/-- Empty RAM, and 1 in `r2`. -/
def storeState : CpuState (Memory 32) :=
  { ramState with cpu :=
    { ramState.cpu with r := Function.update ramState.cpu.r 2 1 } }

/-- `STC.W r2, [r1]` leaves the word at the address as it is. -/
theorem stcw_stores_elsewhere :
    parseOptype stcwCode = some ⟨.stc_w_7, .format7⟩ ∧
      parseOptype ldlwCode = some ⟨.ldl_w_7, .format7⟩ ∧
      wholeRam.Permits .write storeState.cpu 0 4 ∧ wholeRam.Permits .read storeState.cpu 0 4 ∧
      ¬ LinkedCorrect ramBus wholeRam (fun _ _ _ => false) stcwCode ldlwCode 0 storeState := by
  refine ⟨by decide +kernel, by decide +kernel, ⟨by decide, trivial, by decide +kernel⟩,
    ⟨by decide, trivial, by decide +kernel⟩, ?_⟩
  rintro ⟨⟨s₁, hrun, hstored⟩, -, -⟩
  have hs₁ : s₁ =
      ((opExecSthw ramBus (fun _ _ _ => false) (opDecode7 stcwCode)).run storeState).2 := by
    rw [hrun]
  rw [hs₁] at hstored
  revert hstored
  decide +kernel

end Exec

end Athrill
