import Athrill.Dec.Extended
import Athrill.Exec.Displacement
import Athrill.Exec.Ram

/-!
# CAXI

`CAXI` compares a word of memory with `reg2`, replaces it by `reg3` if they are
equal and leaves the old word in `reg3`.  The executor accesses a halfword.

* `caxiAddr`, `CaxiPermitted`: the address.
* `run_caxi`: registers, memory and flags.
* `CaxiCorrect`, `CaxiInRange`, `caxi_exact`: when this is a word exchange.
-/

namespace Athrill

open TargetCore Routine ByteMemory

namespace Exec

variable {D : Type}

/-! ## The executor -/

def caxiAddr (code : OpCode) (cpu : TargetCore) : Word :=
  cpu.reg (bits code 4 0) &&& 0xFFFFFFFC#32

/-- The word at the address may be read and written; its first half is in RAM
like the word. -/
structure CaxiPermitted (ram : Ram D) (cpu : TargetCore) (addr : Word) : Prop where
  read : ram.Permits .read cpu addr 4
  write : ram.Permits .write cpu addr 4
  half : ram.inside addr 2

/-- The difference that the executor tests. -/
def caxiResult (reg2 : Word) (token : HalfWord) : HalfWord :=
  (reg2 - token.signExtend 32).setWidth 16

/-- The flags that `CAXI` leaves. -/
def caxiFlags (reg2 : Word) (token : HalfWord) : List (Nat × Bool) :=
  [(pswCY, (reg2.setWidth 64 - (token.signExtend 32).setWidth 64 : DoubleWord).getLsbD 32),
    (pswOV, decide (cpuRegPlusMax < (reg2.toNat : Int) + -token.toInt) ||
      decide ((reg2.toNat : Int) + -token.toInt < cpuRegMinusMax)),
    (pswZ, decide ((caxiResult reg2 token).signExtend 32 = (0 : Word))),
    (pswS, ((caxiResult reg2 token).signExtend 32 : Word).msb)]

section Decode

variable (code : OpCode)

theorem regs_opDecode11 :
    (opDecode11 code).reg1 = bits code 4 0 ∧ (opDecode11 code).reg2 = bits code 15 11 ∧
      (opDecode11 code).reg3 = bits code 31 27 :=
  ⟨field_zero code 4 0 (by omega) (by decide), field_zero code 15 11 (by omega) (by decide),
    field_one code 15 11 (by omega) (by decide)⟩

end Decode

section Run

variable {bus : Bus D} {ram : Ram D} (hram : RamContract bus ram) (code : OpCode)
  {s : CpuState D}

/-- The first half of a permitted word. -/
theorem permits_half {accessType : TargetMpuAccess} {cpu : TargetCore} {addr : Word}
    (hdata : accessType ≠ .exec) (hhalf : ram.inside addr 2)
    (h : ram.Permits accessType cpu addr 4) : ram.Permits accessType cpu addr 2 := by
  have haligned := h.aligned
  refine ⟨by omega, hhalf, granted_front hdata ?_ h.granted⟩
  have hlast : ∀ n, 0 < n → n ≤ 4 → (addr + BitVec.ofNat 32 n - 1).toNat = addr.toNat + (n - 1) := by
    intro n hpos hn
    have hone : (1 : Word).toNat = 1 := rfl
    rw [BitVec.toNat_sub, BitVec.toNat_add, BitVec.toNat_ofNat, hone]
    omega
  rw [BitVec.le_def, hlast 2 (by omega) (by omega), hlast 4 (by omega) (by omega)]
  omega

include hram in
theorem run_caxi (h : CaxiPermitted ram s.cpu (caxiAddr code s.cpu)) :
    ∃ s', (opExecCaxi bus (opDecode11 code)).run s = (.ok (), s') ∧
      (∀ n, s'.cpu.reg n = if n = bits code 31 27 then
        (BitVec.ofNat 16 (load (ram.mem s.dev) (caxiAddr code s.cpu) 2)).setWidth 32
        else s.cpu.reg n) ∧
      ram.mem s'.dev = store (ram.mem s.dev) (caxiAddr code s.cpu) 2
        (if caxiResult (s.cpu.reg (bits code 15 11))
              (BitVec.ofNat 16 (load (ram.mem s.dev) (caxiAddr code s.cpu) 2)) = 0 then
            (s.cpu.reg (bits code 31 27)).setWidth 16
          else BitVec.ofNat 16 (load (ram.mem s.dev) (caxiAddr code s.cpu) 2)).toNat ∧
      ∀ bit < 32, s'.cpu.issetPsw bit = ((caxiFlags (s.cpu.reg (bits code 15 11))
        (BitVec.ofNat 16 (load (ram.mem s.dev) (caxiAddr code s.cpu) 2))).reverse.lookup
          bit).getD (s.cpu.issetPsw bit) := by
  obtain ⟨hreg1, hreg2, hreg3⟩ := regs_opDecode11 code
  have h1 : (bits code 4 0 : HalfWord).toNat < 32 := toNat_bits_lt code 4 0
  have h2 : (bits code 15 11 : HalfWord).toNat < 32 := toNat_bits_lt code 15 11
  have h3 : (bits code 31 27 : HalfWord).toNat < 32 := toNat_bits_lt code 31 27
  obtain ⟨addr, haddr⟩ : ∃ x, caxiAddr code s.cpu = x := ⟨_, rfl⟩
  rw [haddr] at h ⊢
  obtain ⟨s₁, hget, hs₁⟩ := run_access ram (fun s => bus.getData16 s addr)
    (hram.get16 s addr (permits_half (by decide) h.half h.read))
  obtain ⟨token, htoken⟩ : ∃ x, BitVec.ofNat 16 (load (ram.mem s.dev) addr 2) = x := ⟨_, rfl⟩
  rw [htoken] at hget ⊢
  obtain ⟨data, hdata⟩ : ∃ x, (if caxiResult (s.cpu.reg (bits code 15 11)) token = 0 then
    (s.cpu.reg (bits code 31 27)).setWidth 16 else token) = x := ⟨_, rfl⟩
  have hwrite := permits_half (by decide) h.half h.write
  have hgranted := (hs₁.protection.granted .write addr 2).trans hwrite.granted
  obtain ⟨s₂, hput, hs₂⟩ := run_access ram (fun s => bus.putData16 s addr data)
    (hram.put16 s₁ addr data ⟨hwrite.aligned, hwrite.inside, hgranted⟩)
  have hr : s₂.cpu.r = s.cpu.r := hs₂.r.trans hs₁.r
  have hpsw : ∀ bit, s₂.cpu.issetPsw bit = s.cpu.issetPsw bit := by
    intro bit
    unfold issetPsw psw getSysreg2
    rw [hs₂.protection.sys, hs₁.protection.sys]
  have hrun : (opExecCaxi bus (opDecode11 code)).run s =
      (.ok (), after s₂ (Function.update s₂.cpu.r ⟨_, h3⟩ (token.setWidth 32))
        (writeFlags (caxiFlags (s.cpu.reg (bits code 15 11)) token)) 4) := by
    unfold caxiAddr at haddr
    have hget' : (busGetData16 bus addr).run s = (.ok token, s₁) := hget
    have hput' : (busPutData16 bus addr data).run s₁ = (.ok (), s₂) := hput
    unfold opExecCaxi
    rw [hreg1, hreg2, hreg3, run_bind, run_getR h1, andThen_ok, run_bind, run_getR h2, andThen_ok,
      run_bind, run_getR h3, andThen_ok, ← reg_of_lt h1, ← reg_of_lt h2, ← reg_of_lt h3, haddr,
      run_bind, hget', andThen_ok]
    show (busPutData16 bus addr (if caxiResult (s.cpu.reg (bits code 15 11)) token = 0 then
      (s.cpu.reg (bits code 31 27)).setWidth 16 else token) >>= fun _ => _).run s₁ = _
    rw [hdata, run_bind, hput', andThen_ok]
    show (setR _ _ >>= fun _ => _).run s₂ = _
    rw [run_bind, run_setR h3, andThen_ok]
    rfl
  refine ⟨_, hrun, ?_, ?_, ?_⟩
  · intro n
    rw [reg_after s₂ 4 h3 _ (r_writeFlags _), reg_congr hr]
  · rw [hdata]
    show ram.mem s₂.dev = _
    rw [hs₂.mem, hs₁.mem]
  · intro bit hbit
    rw [issetPsw_after, issetPsw_writeFlags _ _ hbit]
    exact congrArg _ (hpsw bit)

end Run

/-! ## The word and its half -/

section Token

variable (reg2 token : Word)

theorem ofNat_load_half (mem : Memory 32) (addr : Word) :
    BitVec.ofNat 16 (load mem addr 2) = (loadWord mem addr).setWidth 16 := by
  have hmod := load_mod mem addr (show 2 ≤ 4 by omega)
  have hlt := load_lt mem addr 4
  apply BitVec.eq_of_toNat_eq
  unfold loadWord
  rw [BitVec.toNat_setWidth, BitVec.toNat_ofNat, BitVec.toNat_ofNat, ← hmod]
  omega

/-- The memory after a store of the half. -/
theorem toNat_loadWord_store (mem : Memory 32) (addr : Word) (data : HalfWord) :
    (loadWord (store mem addr 2 data.toNat) addr).toNat + (loadWord mem addr).toNat % 65536 =
      data.toNat + (loadWord mem addr).toNat := by
  have hadd : load (store mem addr 2 data.toNat) addr 4 + load mem addr 2 =
      data.toNat % 256 ^ 2 + load mem addr 4 :=
    load_store_add mem data.toNat (by decide) (by omega)
  have hmod := load_mod mem addr (show 2 ≤ 4 by omega)
  have hlt := load_lt mem addr 4
  have hlt' := load_lt (store mem addr 2 data.toNat) addr 4
  have hdata : data.toNat < 2 ^ 16 := data.isLt
  unfold loadWord
  rw [BitVec.toNat_ofNat, BitVec.toNat_ofNat]
  omega

theorem toNat_signExtend_half :
    ((token.setWidth 16).signExtend 32 : Word).toNat =
      if token.toNat % 65536 < 32768 then token.toNat % 65536
      else token.toNat % 65536 + 4294901760 := by
  rw [BitVec.toNat_signExtend, BitVec.msb_eq_decide, BitVec.toNat_setWidth, BitVec.toNat_setWidth]
  split_ifs <;> simp_all <;> omega

theorem toInt_half :
    ((token.setWidth 16 : HalfWord)).toInt =
      if token.toNat % 65536 < 32768 then ((token.toNat % 65536 : Nat) : Int)
      else ((token.toNat % 65536 : Nat) : Int) - 65536 := by
  rw [BitVec.toInt_eq_toNat_cond, BitVec.toNat_setWidth]
  split_ifs <;> omega

theorem caxiResult_eq : caxiResult reg2 (token.setWidth 16) = (reg2 - token).setWidth 16 := by
  apply BitVec.eq_of_toNat_eq
  unfold caxiResult
  rw [BitVec.toNat_setWidth, BitVec.toNat_setWidth, BitVec.toNat_sub, BitVec.toNat_sub,
    toNat_signExtend_half]
  split_ifs <;> omega

theorem caxiResult_eq_zero_iff :
    caxiResult reg2 (token.setWidth 16) = 0 ↔
      (reg2.setWidth 16 : HalfWord) = token.setWidth 16 := by
  rw [caxiResult_eq, ← BitVec.toNat_inj, ← BitVec.toNat_inj, BitVec.toNat_setWidth,
    BitVec.toNat_setWidth, BitVec.toNat_setWidth, BitVec.toNat_sub]
  show _ = 0 ↔ _
  omega

theorem caxi_zero_iff :
    (caxiResult reg2 (token.setWidth 16)).signExtend 32 = (0 : Word) ↔
      (reg2.setWidth 16 : HalfWord) = token.setWidth 16 := by
  rw [← caxiResult_eq_zero_iff]
  constructor
  · intro h
    have hzero := congrArg BitVec.toNat h
    rw [BitVec.toNat_signExtend, BitVec.toNat_setWidth] at hzero
    change _ = 0 at hzero
    have hlt := (caxiResult reg2 (token.setWidth 16)).isLt
    apply BitVec.eq_of_toNat_eq
    show _ = 0
    omega
  · intro h
    rw [h]
    rfl

theorem caxi_sign :
    ((caxiResult reg2 (token.setWidth 16)).signExtend 32 : Word).msb =
      (reg2 - token).getLsbD 15 := by
  have hnot : ¬ 16 ≥ 32 := by omega
  rw [caxiResult_eq, BitVec.msb_signExtend, if_neg hnot, BitVec.msb_eq_getLsbD_last,
    BitVec.getLsbD_setWidth]
  rfl

end Token

/-! ## Correctness -/

/-- What `CAXI` promises of the state `s'` it leaves. -/
structure CaxiCorrect (ram : Ram D) (code : OpCode) (s s' : CpuState D) : Prop where
  word : loadWord (ram.mem s'.dev) (caxiAddr code s.cpu) =
    if s.cpu.reg (bits code 15 11) = loadWord (ram.mem s.dev) (caxiAddr code s.cpu) then
      s.cpu.reg (bits code 31 27)
    else loadWord (ram.mem s.dev) (caxiAddr code s.cpu)
  old : s'.cpu.reg (bits code 31 27) = loadWord (ram.mem s.dev) (caxiAddr code s.cpu)
  others : ∀ n, n ≠ bits code 31 27 → s'.cpu.reg n = s.cpu.reg n
  memory : ∀ a, ¬ Within (caxiAddr code s.cpu) 4 a → ram.mem s'.dev a = ram.mem s.dev a
  carry : s'.cpu.issetPsw pswCY = decide ((s.cpu.reg (bits code 15 11)).toNat <
    (loadWord (ram.mem s.dev) (caxiAddr code s.cpu)).toNat)
  overflow : s'.cpu.issetPsw pswOV = decide (Flags.OutOfRange 32
    ((s.cpu.reg (bits code 15 11)).toInt -
      (loadWord (ram.mem s.dev) (caxiAddr code s.cpu)).toInt))
  zero : s'.cpu.issetPsw pswZ = decide (s.cpu.reg (bits code 15 11) =
    loadWord (ram.mem s.dev) (caxiAddr code s.cpu))
  sign : s'.cpu.issetPsw pswS = (s.cpu.reg (bits code 15 11) -
    loadWord (ram.mem s.dev) (caxiAddr code s.cpu)).msb

/-- The words on which the exchange of a halfword is one of the word, with the
same flags. -/
structure CaxiInRange (token reg2 reg3 : Word) : Prop where
  short : token.toNat < 65536
  stored : reg2 = token → reg3.toNat < 65536
  compared : (reg2.setWidth 16 : HalfWord) = token.setWidth 16 → reg2 = token
  sign : (reg2 - token).getLsbD 15 = (reg2 - token).msb
  small : token.toNat < 32768 → reg2.toNat < 2147483648
  large : 32768 ≤ token.toNat → reg2.toNat < token.toNat

theorem caxi_overflow_iff {a t : Nat} (ha : a < 4294967296) (ht : t < 32768) :
    ((2147483647 < (a : Int) - t) ↔
        (2147483648 ≤ a ∧ (a : Int) - 4294967296 - t < -2147483648)) ↔ a < 2147483648 := by
  constructor
  · intro h
    by_contra hlarge
    by_cases hover : (2147483647 : Int) < a - t
    · have hout := h.mp hover
      omega
    · exact hover (h.mpr (by omega))
  · intro hsmall
    constructor <;> intro h <;> omega

theorem caxi_carry_overflow_iff {a t : Nat} (ha : a < 4294967296) (ht : t < 65536) (hlarge : 32768 ≤ t) :
    ((a < t + 4294901760 ↔ a < t) ∧ 
    ((2147483647 < (a : Int) - (t - 65536)) ↔
        (2147483648 ≤ a ∧ (a : Int) - 4294967296 - t < -2147483648))) ↔ a < t := by
  constructor
  · rintro ⟨hcarry, hover⟩
    by_contra hnot
    have hge : t + 4294901760 ≤ a := by
      by_contra hlt
      exact hnot (hcarry.mp (by omega))
    have hout := hover.mp (by omega)
    omega
  · intro hlt
    constructor
    · constructor <;> intro h <;> omega
    · constructor <;> intro h <;> omega

/-- Carry and overflow of the difference with the sign-extended half. -/
theorem caxi_order_iff {reg2 token : Word} (htoken : token.toNat < 65536) :
    ((reg2.setWidth 64 - ((token.setWidth 16).signExtend 32 : Word).setWidth 64 :
          DoubleWord).getLsbD 32 = decide (reg2.toNat < token.toNat) ∧
      (decide (cpuRegPlusMax < (reg2.toNat : Int) + -(token.setWidth 16 : HalfWord).toInt) ||
        decide ((reg2.toNat : Int) + -(token.setWidth 16 : HalfWord).toInt < cpuRegMinusMax)) =
        decide (Flags.OutOfRange 32 (reg2.toInt - token.toInt))) ↔
      (token.toNat < 32768 → reg2.toNat < 2147483648) ∧
        (32768 ≤ token.toNat → reg2.toNat < token.toNat) := by
  have hreg2 : reg2.toNat < 4294967296 := reg2.isLt
  have hmod : token.toNat % 65536 = token.toNat := Nat.mod_eq_of_lt htoken
  have htokenInt : token.toInt = (token.toNat : Int) := by
    rw [BitVec.toInt_eq_toNat_cond]
    split_ifs <;> omega
  have hrange : Flags.OutOfRange 32 (reg2.toInt - token.toInt) ↔
      2147483648 ≤ reg2.toNat ∧ (reg2.toNat : Int) - 4294967296 - token.toNat < -2147483648 := by
    rw [htokenInt, BitVec.toInt_eq_toNat_cond]
    unfold Flags.OutOfRange
    split_ifs <;> omega
  rw [Flags.testBit_sub (by omega), ← Bool.decide_or, decide_eq_decide, decide_eq_decide,
    toNat_signExtend_half, toInt_half, hmod, hrange]
  unfold cpuRegPlusMax cpuRegMinusMax
  by_cases hsmall : token.toNat < 32768
  · have hor : (2147483647 < (reg2.toNat : Int) + -token.toNat ∨
        (reg2.toNat : Int) + -token.toNat < -2147483648) ↔
        2147483647 < (reg2.toNat : Int) - token.toNat := by
      constructor <;> intro h <;> omega
    rw [if_pos hsmall, if_pos hsmall, hor, caxi_overflow_iff hreg2 hsmall]
    constructor
    · rintro ⟨-, h⟩
      exact ⟨fun _ => h, fun hlarge => absurd hlarge (by omega)⟩
    · rintro ⟨h, -⟩
      exact ⟨Iff.rfl, h hsmall⟩
  · have hor : (2147483647 < (reg2.toNat : Int) + -((token.toNat : Int) - 65536) ∨
        (reg2.toNat : Int) + -((token.toNat : Int) - 65536) < -2147483648) ↔
        2147483647 < (reg2.toNat : Int) - (token.toNat - 65536) := by
      constructor <;> intro h <;> omega
    rw [if_neg hsmall, if_neg hsmall, hor,
      caxi_carry_overflow_iff hreg2 htoken (Nat.not_lt.mp hsmall)]
    exact ⟨fun h => ⟨fun hless => absurd hless hsmall, fun _ => h⟩,
      fun h => h.2 (Nat.not_lt.mp hsmall)⟩

/-- The exchange is right exactly on the words in range. -/
theorem caxi_values_iff (token reg2 reg3 word : Word)
    (hword : word.toNat + token.toNat % 65536 =
      (if caxiResult reg2 (token.setWidth 16) = 0 then (reg3.setWidth 16 : HalfWord)
        else token.setWidth 16).toNat + token.toNat) :
    ((token.setWidth 16 : HalfWord).setWidth 32 = token ∧
        word = (if reg2 = token then reg3 else token) ∧
        (decide ((caxiResult reg2 (token.setWidth 16)).signExtend 32 = (0 : Word)) =
          decide (reg2 = token)) ∧
        ((caxiResult reg2 (token.setWidth 16)).signExtend 32 : Word).msb =
          (reg2 - token).msb) ↔
      token.toNat < 65536 ∧ (reg2 = token → reg3.toNat < 65536) ∧
        ((reg2.setWidth 16 : HalfWord) = token.setWidth 16 → reg2 = token) ∧
        (reg2 - token).getLsbD 15 = (reg2 - token).msb := by
  have htoken : token.toNat < 4294967296 := token.isLt
  have hhalf : ((token.setWidth 16 : HalfWord).setWidth 32).toNat = token.toNat % 65536 := by
    rw [BitVec.toNat_setWidth, BitVec.toNat_setWidth]
    omega
  rw [decide_eq_decide, caxi_zero_iff, caxi_sign]
  constructor
  · rintro ⟨hold, hnew, hzero, hsign⟩
    have hshort : token.toNat % 65536 = token.toNat := by
      rw [← hhalf, hold]
    refine ⟨by omega, ?_, hzero.mp, hsign⟩
    intro heq
    rw [if_pos ((caxiResult_eq_zero_iff reg2 token).mpr (by rw [heq])), BitVec.toNat_setWidth,
      hnew, if_pos heq] at hword
    omega
  · rintro ⟨hshort, hstored, hcompared, hsign⟩
    refine ⟨?_, ?_, ⟨hcompared, fun h => by rw [h]⟩, hsign⟩
    · apply BitVec.eq_of_toNat_eq
      rw [hhalf]
      omega
    · apply BitVec.eq_of_toNat_eq
      by_cases heq : reg2 = token
      · have hreg3 := hstored heq
        rw [if_pos ((caxiResult_eq_zero_iff reg2 token).mpr (by rw [heq])),
          BitVec.toNat_setWidth] at hword
        rw [if_pos heq]
        omega
      · have hne : ¬ caxiResult reg2 (token.setWidth 16) = 0 := fun h =>
          heq (hcompared ((caxiResult_eq_zero_iff reg2 token).mp h))
        rw [if_neg hne, BitVec.toNat_setWidth] at hword
        rw [if_neg heq]
        omega

/-- The exchange is one of a word exactly on the words in range. -/
theorem caxi_exact {bus : Bus D} {ram : Ram D} (hram : RamContract bus ram) (code : OpCode)
    {s : CpuState D} (h : CaxiPermitted ram s.cpu (caxiAddr code s.cpu)) :
    (∃ s', (opExecCaxi bus (opDecode11 code)).run s = (.ok (), s') ∧
      CaxiCorrect ram code s s') ↔
      CaxiInRange (loadWord (ram.mem s.dev) (caxiAddr code s.cpu))
        (s.cpu.reg (bits code 15 11)) (s.cpu.reg (bits code 31 27)) := by
  obtain ⟨s', hrun, hreg, hmem, hflags⟩ := run_caxi hram code h
  rw [ofNat_load_half] at hreg hmem hflags
  have hword := toNat_loadWord_store (ram.mem s.dev) (caxiAddr code s.cpu)
    (if caxiResult (s.cpu.reg (bits code 15 11))
        ((loadWord (ram.mem s.dev) (caxiAddr code s.cpu)).setWidth 16) = 0 then
      (s.cpu.reg (bits code 31 27)).setWidth 16
    else (loadWord (ram.mem s.dev) (caxiAddr code s.cpu)).setWidth 16)
  rw [← hmem] at hword
  have hvalues := caxi_values_iff _ _ _ _ hword
  have hold := hreg (bits code 31 27)
  rw [if_pos rfl] at hold
  have hcy := hflags pswCY (by decide)
  have hov := hflags pswOV (by decide)
  have hz := hflags pswZ (by decide)
  have hs := hflags pswS (by decide)
  constructor
  · rintro ⟨t, ht, hcorrect⟩
    rw [hrun] at ht
    cases ht
    obtain ⟨hshort, hstored, hcompared, hsign⟩ := hvalues.mp
      ⟨hold.symm.trans hcorrect.old, hcorrect.word, hz.symm.trans hcorrect.zero,
        hs.symm.trans hcorrect.sign⟩
    have horder := (caxi_order_iff hshort).mp
      ⟨hcy.symm.trans hcorrect.carry, hov.symm.trans hcorrect.overflow⟩
    exact ⟨hshort, hstored, hcompared, hsign, horder.1, horder.2⟩
  · rintro ⟨hshort, hstored, hcompared, hsign, hsmall, hlarge⟩
    obtain ⟨hhalf, hnew, hzero, hmsb⟩ := hvalues.mpr ⟨hshort, hstored, hcompared, hsign⟩
    obtain ⟨hcarry, hoverflow⟩ := (caxi_order_iff hshort).mpr ⟨hsmall, hlarge⟩
    refine ⟨s', hrun, ?_⟩
    exact
      { word := hnew
        old := hold.trans hhalf
        others := by
          intro n hne
          rw [hreg, if_neg hne]
        memory := by
          intro a ha
          rw [hmem]
          refine store_outside _ _ fun hin => ha ?_
          unfold Within at hin ⊢
          omega
        carry := hcy.trans hcarry
        overflow := hov.trans hoverflow
        zero := hz.trans hzero
        sign := hs.trans hmsb }

/-- `CAXI [r1], r2, r3`. -/
def caxiCode : OpCode := fun n => [0x17E1, 0x18EE].getD n 0

/-- The word at address 4 is `0x1234`, which `r2` expects, and `r3` has the new
one. -/
def expectedState : CpuState (Memory 32) :=
  let r := Function.update (Function.update ramState.cpu.r 1 4) 2 0x1234
  { ramState with
    cpu := { ramState.cpu with r := Function.update r 3 0x55 }
    dev := Function.update (Function.update ramState.dev 4 0x34) 5 0x12 }

theorem caxi_exact_expected :
    ∃ s', (opExecCaxi ramBus (opDecode11 caxiCode)).run expectedState = (.ok (), s') ∧
      CaxiCorrect wholeRam caxiCode expectedState s' := by
  refine (caxi_exact ramContract_ramBus caxiCode ⟨⟨by decide +kernel, trivial, by decide +kernel⟩,
    ⟨by decide +kernel, trivial, by decide +kernel⟩, trivial⟩).mpr ?_
  have hword : loadWord (wholeRam.mem expectedState.dev)
      (caxiAddr caxiCode expectedState.cpu) = 0x1234 := by decide +kernel
  have hreg2 : expectedState.cpu.reg (bits caxiCode 15 11) = 0x1234 := by decide +kernel
  have hreg3 : expectedState.cpu.reg (bits caxiCode 31 27) = 0x55 := by decide +kernel
  rw [hword, hreg2, hreg3]
  exact ⟨by decide, fun _ => by decide, fun _ => rfl, by decide, fun _ => by decide,
    fun h => absurd h (by decide)⟩

/-- The word at address 0 is `0x00010000`: the lock is taken. -/
def takenState : CpuState (Memory 32) :=
  { ramState with dev := fun a => if a = 2 then 1 else 0 }

/-- `CAXI` compares the lower half only, so the lock looks free. -/
theorem caxi_takes_lock :
    parseOptype caxiCode = some ⟨.caxi_11, .format11⟩ ∧
      CaxiPermitted wholeRam takenState.cpu (caxiAddr caxiCode takenState.cpu) ∧
      ¬ ∃ s', (opExecCaxi ramBus (opDecode11 caxiCode)).run takenState = (.ok (), s') ∧
        CaxiCorrect wholeRam caxiCode takenState s' := by
  refine ⟨by decide +kernel, ⟨⟨by decide +kernel, trivial, by decide +kernel⟩,
    ⟨by decide +kernel, trivial, by decide +kernel⟩, trivial⟩, ?_⟩
  rintro ⟨s', hrun, hcorrect⟩
  have hs' : s' = ((opExecCaxi ramBus (opDecode11 caxiCode)).run takenState).2 := by
    rw [hrun]
  have hzero := hcorrect.zero
  rw [hs'] at hzero
  revert hzero
  decide +kernel

end Exec

end Athrill
