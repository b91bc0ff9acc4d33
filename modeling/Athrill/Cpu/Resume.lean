import Athrill.Cpu.Entry
import Athrill.Exec.Restart

/-!
# When an instruction can be executed again

Eight executors write a register before an access that can fail.  `NOT1` sets
the flag before it stores; `PREPARE` and `DISPOSE` move the stack pointer with
every transfer and `POPSP` loads its registers one by one; `SYSCALL` enters the
exception before it reads the table.  `PUSHSP` and `ST.DW` store several words,
and a store can reach a general register through the register window.

* `RestartsIff`: when a fault leaves the kept registers alone.
* `stackLoop_cases`: where the loops of `PREPARE` and `DISPOSE` stop.
* `Restarts`: the condition of each instruction.
* `restarts_iff`: it is exact.
-/

namespace Athrill

open TargetCore Routine Bits

variable {D : Type}

instance : Std.Symm (Frozen (D := D)) where
  symm _ _ h := ⟨h.pc.symm, h.r.symm, fun id hid => (h.sys id hid).symm⟩

/-- A fault of `x` leaves the kept registers alone exactly when the condition
holds before. -/
abbrev RestartsIff {α : Type} (x : Exec D α) (P : CpuState D → Prop) : Prop :=
  RollsBackIff Frozen Stop.fail codeFlag x P

namespace Exec

/-! ## What the checks leave to show -/

section OkThen

variable {α : Type} {s : CpuState D}

theorem okThen_failIf {c : Prop} [Decidable c] {Q : Unit → CpuState D → Prop} :
    OkThen (failIf c) Q s ↔ (¬ c → Q () s) := by
  unfold failIf
  by_cases hc : c
  · rw [if_pos hc]
    exact iff_of_true (okThen_of_error rfl) fun h => absurd hc h
  · rw [if_neg hc, okThen_pure]
    exact ⟨fun h _ => h, fun h => h hc⟩

theorem okThen_checkReg {n : Nat} {Q : Unit → CpuState D → Prop} :
    OkThen (checkReg n) Q s ↔ (n < 32 → Q () s) := by
  unfold checkReg
  rw [okThen_failIf, Nat.not_le]

theorem okThen_getR {n : Nat} {Q : Word → CpuState D → Prop} :
    OkThen (getR n) Q s ↔ ∀ h : n < 32, Q (s.cpu.r ⟨n, h⟩) s := by
  by_cases hn : n < 32
  · rw [okThen_of_ok (run_getR hn s)]
    exact ⟨fun h _ => h, fun h => h hn⟩
  · refine iff_of_true ?_ fun h => absurd h hn
    unfold getR
    rw [dif_neg hn]
    exact okThen_of_error rfl

theorem okThen_getCpu {f : TargetCore → α} {Q : α → CpuState D → Prop} :
    OkThen (getCpu f) Q s ↔ Q (f s.cpu) s :=
  okThen_gets

theorem okThen_hasPermission {accessType : TargetMpuAccess} {addr size : Word}
    {Q : Bool → CpuState D → Prop} :
    OkThen (hasPermission accessType addr size) Q s ↔
      Q (targetMpuHasPermission s.cpu accessType addr size).1
        { s with cpu := (targetMpuHasPermission s.cpu accessType addr size).2 } :=
  okThen_of_ok rfl

theorem okThen_busAccess {access : CpuState D → Option α × BusView D}
    {Q : α → CpuState D → Prop} :
    OkThen (busAccess access) Q s ↔ ∀ a v, access s = (some a, v) → Q a (s.withView v) := by
  unfold OkThen busAccess
  rw [run_lift]
  rcases hacc : access s with ⟨_ | a, v⟩
  · constructor
    · intro _ a v' h
      cases h
    · intro _ a s' h
      cases h
  · constructor
    · intro hall b v' h
      cases h
      exact hall a _ rfl
    · intro hall b s' h
      cases h
      exact hall a v rfl

theorem r_targetMpuHasPermission (cpu : TargetCore) (accessType : TargetMpuAccess)
    (addr size : Word) : (targetMpuHasPermission cpu accessType addr size).2.r = cpu.r := by
  obtain ⟨info, hinfo⟩ := targetMpuHasPermission_snd cpu accessType addr size
  rw [hinfo]
  rfl

theorem okThen_busGetData8 {bus : Bus D} {addr : Word} {Q : Byte → CpuState D → Prop} :
    OkThen (busGetData8 bus addr) Q s ↔
      ∀ a v, bus.getData8 s addr = (some a, v) → Q a (s.withView v) :=
  okThen_busAccess

theorem okThen_busPutData32 {bus : Bus D} {addr data : Word} {Q : Unit → CpuState D → Prop} :
    OkThen (busPutData32 bus addr data) Q s ↔
      ∀ a v, bus.putData32 s addr data = (some a, v) → Q a (s.withView v) :=
  okThen_busAccess

end OkThen

/-! ## NOT1 -/

/-- A flag that is written with the value it has. -/
theorem frozen_setZ (flag : Bool) (s : CpuState D) :
    Frozen s ((setZ flag).run s).2 ↔ s.cpu.issetPsw pswZ = flag := by
  have hbit : ((setZ flag).run s).2.cpu.issetPsw pswZ = flag := by
    cases flag with
    | true =>
      show (s.cpu.setPsw pswZ).issetPsw pswZ = true
      rw [issetPsw_setPsw _ _ (by decide)]
      simp
    | false =>
      show (s.cpu.clrPsw pswZ).issetPsw pswZ = false
      rw [issetPsw_clrPsw]
      simp
  have hother (id : SysReg) (hid : id ≠ .psw) :
      ((setZ flag).run s).2.cpu.getSysreg2 id = s.cpu.getSysreg2 id := by
    cases flag with
    | true => exact getSysreg2_setPsw_of_ne hid _ _
    | false => exact getSysreg2_clrPsw_of_ne hid _ _
  constructor
  · intro h
    have hpsw : ((setZ flag).run s).2.cpu.psw = s.cpu.psw := h.sys .psw (by decide)
    rw [← hbit]
    unfold issetPsw
    rw [hpsw]
  · intro hz
    have hpsw : ((setZ flag).run s).2.cpu.psw = s.cpu.psw := by
      apply BitVec.eq_of_getLsbD_eq
      intro i hi
      show ((setZ flag).run s).2.cpu.issetPsw i = s.cpu.issetPsw i
      by_cases hi0 : pswZ = i
      · subst hi0
        rw [hbit, hz]
      · cases flag with
        | true =>
          show (s.cpu.setPsw pswZ).issetPsw i = _
          rw [issetPsw_setPsw _ _ hi]
          simp [hi0]
        | false =>
          show (s.cpu.clrPsw pswZ).issetPsw i = _
          rw [issetPsw_clrPsw]
          simp [hi0]
    refine ⟨by cases flag <;> rfl, by cases flag <;> rfl, fun id _ => ?_⟩
    by_cases hid : id = .psw
    · subst hid
      exact hpsw
    · exact hother id hid

section Bus

variable (bus : Bus D) [hbus : BusContract bus]

/-- The flag is written, then the store fails. -/
theorem restartsIff_flagFirst (flag : Bool) (addr : Word) (data : Byte) :
    RestartsIff (do setZ flag; busPutData8 bus addr data; addPc 4)
      fun s => s.cpu.issetPsw pswZ = flag := by
  refine (rollsBackIff_change (setZ flag)).congr fun s => ?_
  rw [← frozen_setZ flag s]
  exact okThen_of_ok rfl

/-- The flag has the value that `NOT1` writes into it, if it gets as far as
that. -/
def Not18Restarts (d : OpCodeFormatType8) (s : CpuState D) : Prop :=
  ∀ h : d.reg1.toNat < 32, ∀ bit v,
    bus.getData8 s (s.cpu.r ⟨_, h⟩ + d.disp.signExtend 32) = (some bit, v) →
      s.cpu.issetPsw pswZ = !bit.getLsbD d.bit.toNat

theorem restartsIff_not18 (d : OpCodeFormatType8) :
    RestartsIff (opExecNot18 bus d) (Not18Restarts bus d) := by
  have haddr : Calm codeFlag (bitAddr d : Exec D Word) := inferInstance
  refine (rollsBackIff_bind (bitAddr d) fun addr => rollsBackIff_bind (busGetData8 bus addr)
    fun bit => restartsIff_flagFirst bus _ _ _).congr fun s => ?_
  simp only [bitAddr, okThen_bind, okThen_checkReg, okThen_getR, okThen_pure, okThen_busGetData8,
    Not18Restarts]
  exact ⟨fun h hreg => h hreg hreg, fun h hreg _ => h hreg⟩

/-- The same for the format with the bit in a register. -/
def Not19Restarts (d : OpCodeFormatType9) (s : CpuState D) : Prop :=
  ∀ (h : d.gen.toNat < 32) (h' : d.reg2.toNat < 32), ∀ bit v,
    bus.getData8 s (s.cpu.r ⟨_, h⟩) = (some bit, v) →
      s.cpu.issetPsw pswZ = !bit.getLsbD (bit3 (s.cpu.r ⟨_, h'⟩))

theorem restartsIff_not19 (d : OpCodeFormatType9) :
    RestartsIff (opExecNot19 bus d) (Not19Restarts bus d) := by
  refine (rollsBackIff_bind (checkReg _) fun _ => rollsBackIff_bind (checkReg _) fun _ =>
    rollsBackIff_bind (getR _) fun addr => rollsBackIff_bind (busGetData8 bus addr) fun bit =>
    rollsBackIff_bind (getR _) fun reg2 => restartsIff_flagFirst bus _ _ _).congr fun s => ?_
  simp only [okThen_checkReg, okThen_getR, okThen_busGetData8, Not19Restarts]
  -- a read leaves the register with the bit number alone
  have hr (addr : Word) {bit : Byte} {v : BusView D} (hget : bus.getData8 s addr = (some bit, v)) :
      (s.withView v).cpu.r = s.cpu.r := by
    have hread := (hbus.get8 addr).read s
    rw [hget] at hread
    exact hread
  constructor
  · intro h hgen hreg bit v hget
    have hz := h hgen hreg hgen bit v hget hreg
    rw [hr _ hget] at hz
    exact hz
  · intro h hgen hreg _ bit v hget _
    rw [hr _ hget]
    exact h hgen hreg bit v hget

/-! ## SYSCALL -/

/-- The entry leaves the kept registers as they are. -/
def SyscallRestarts (s : CpuState D) : Prop :=
  s.cpu.getSysreg2 .eipc = s.cpu.pc + 4 ∧ s.cpu.getSysreg2 .eipsw = s.cpu.psw ∧
    s.cpu.issetUM = false ∧ s.cpu.issetEP = true ∧ s.cpu.issetID = true

/-- The entry writes system registers and nothing else. -/
theorem syscallEntry_frame (vector8 : Word) (cpu : TargetCore) :
    (syscallEntry vector8 cpu).pc = cpu.pc ∧ (syscallEntry vector8 cpu).r = cpu.r ∧
      (syscallEntry vector8 cpu).currentCodeException = cpu.currentCodeException := by
  unfold syscallEntry
  extract_lets psw eiic ecr cpu₁ cpu₂ cpu₃ cpu₄
  simp only [pc_setPsw, pc_clrPsw, r_setPsw, r_clrPsw, currentCodeException_setPsw,
    currentCodeException_clrPsw]
  exact ⟨rfl, rfl, rfl⟩

/-- A word in which the bits to be written have their values already. -/
theorem frozen_syscallEntry (vector8 : Word) (s : CpuState D) :
    Frozen s { s with cpu := syscallEntry vector8 s.cpu } ↔ SyscallRestarts s := by
  have hbits (bit : Nat) (hbit : bit < 32) := issetPsw_syscallEntry vector8 s.cpu hbit
  constructor
  · intro h
    have hpsw : (syscallEntry vector8 s.cpu).psw = s.cpu.psw := h.sys .psw (by decide)
    have hbit (bit : Nat) : (syscallEntry vector8 s.cpu).issetPsw bit = s.cpu.issetPsw bit := by
      unfold issetPsw
      rw [hpsw]
    refine ⟨?_, ?_, ?_, ?_, ?_⟩
    · rw [← eipc_syscallEntry vector8 s.cpu]
      exact (h.sys .eipc (by decide)).symm
    · rw [← eipsw_syscallEntry vector8 s.cpu]
      exact (h.sys .eipsw (by decide)).symm
    · rw [issetUM, ← hbit, hbits _ (by decide)]
      simp [pswUM, pswEP, pswID]
    · rw [issetEP, ← hbit, hbits _ (by decide)]
      simp
    · rw [issetID, ← hbit, hbits _ (by decide)]
      simp
  · rintro ⟨heipc, heipsw, hum, hep, hid⟩
    obtain ⟨hpc, hr, _⟩ := syscallEntry_frame vector8 s.cpu
    refine ⟨hpc, hr, fun id hmem => ?_⟩
    have hcases : ∀ id ∈ savedRegs,
        id = .psw ∨ id = .eipc ∨ id = .eipsw ∨ id ∈ [SysReg.fepc, .fepsw, .feic] := by
      decide
    rcases hcases id hmem with rfl | rfl | rfl | hfe
    · apply BitVec.eq_of_getLsbD_eq
      intro i hi
      show (syscallEntry vector8 s.cpu).issetPsw i = s.cpu.issetPsw i
      rw [hbits i hi]
      by_cases hum' : pswUM = i
      · subst hum'
        rw [show s.cpu.issetPsw pswUM = false from hum]
        decide
      · by_cases hep' : pswEP = i
        · subst hep'
          rw [show s.cpu.issetPsw pswEP = true from hep]
          decide
        · by_cases hid' : pswID = i
          · subst hid'
            rw [show s.cpu.issetPsw pswID = true from hid]
            decide
          · simp [hum', hep', hid']
    · exact (eipc_syscallEntry vector8 s.cpu).trans heipc.symm
    · exact (eipsw_syscallEntry vector8 s.cpu).trans heipsw.symm
    · exact getSysreg2_syscallEntry_fe vector8 s.cpu hfe

theorem restartsIff_syscall10 (d : OpCodeFormatType10) :
    RestartsIff (opExecSyscall10 bus d) SyscallRestarts := by
  have hcalm : Calm codeFlag (modifyCpu (syscallEntry (syscallVector d)) : Exec D Unit) :=
    calm_modifyCpu fun cpu => (syscallEntry_frame _ cpu).2.2
  refine (rollsBackIff_bind (getCpu _) fun _ => rollsBackIff_bind (getCpu _) fun _ =>
    rollsBackIff_change (modifyCpu (syscallEntry (syscallVector d)))).congr fun s => ?_
  rw [← frozen_syscallEntry (syscallVector d) s]
  rw [okThen_getCpu, okThen_getCpu]
  exact okThen_of_ok rfl

/-! ## ST.DW -/

/-- The first of two stores leaves the general registers alone. -/
def StDwRestarts (mayOverflow : D → Word → Word → Bool) (d : OpCodeFormatType14)
    (s : CpuState D) : Prop :=
  ∀ (h : d.reg1.toNat < 32) (h' : d.reg3.toNat < 32), d.reg3.toNat % 2 = 0 →
    ¬ (d.reg1.toNat = cpuRegSp ∧ mayOverflow s.dev (s.cpu.r ⟨_, h⟩) (disp23 d) = true) →
    let permission := targetMpuHasPermission s.cpu .write (s.cpu.r ⟨_, h⟩ + disp23 d) 8
    permission.1 = true → ∀ v,
      bus.putData32 { s with cpu := permission.2 } (s.cpu.r ⟨_, h⟩ + disp23 d)
        (s.cpu.r ⟨_, h'⟩) = (some (), v) → v.r = s.cpu.r

/-- An access changes no kept register but the general ones. -/
theorem frozen_withView (s : CpuState D) (v : BusView D) :
    Frozen s (s.withView v) ↔ v.r = s.cpu.r :=
  ⟨fun h => h.r, fun h => ⟨rfl, h, fun _ _ => rfl⟩⟩

theorem restartsIff_stDw14 (mayOverflow : D → Word → Word → Bool) (d : OpCodeFormatType14) :
    RestartsIff (opExecStDw14 bus mayOverflow d) (StDwRestarts bus mayOverflow d) := by
  refine (rollsBackIff_bind (checkReg _) fun _ => rollsBackIff_bind (checkReg _) fun _ =>
    rollsBackIff_bind (failIf _) fun _ => rollsBackIff_bind (getR _) fun base =>
    rollsBackIff_bind (checkStack mayOverflow _ _ _) fun _ =>
    rollsBackIff_bind (hasPermission _ _ _) fun granted => rollsBackIff_bind (failIf _) fun _ =>
    rollsBackIff_bind (getR _) fun data0 =>
    rollsBackIff_change (busPutData32 bus _ _)).congr fun s => ?_
  simp only [checkStack, okThen_bind, okThen_checkReg, okThen_failIf, okThen_getR, okThen_gets,
    okThen_hasPermission, okThen_busPutData32, frozen_withView, StDwRestarts, ne_eq, not_not,
    Bool.not_eq_false, r_targetMpuHasPermission]
  constructor
  · intro h h1 h3 heven hstack hgranted v hput
    exact h h1 h3 heven h1 hstack hgranted h3 () v hput
  · intro h h1 h3 heven _ hstack hgranted _ _ v hput
    exact h h1 h3 heven hstack hgranted v hput

/-! ## PUSHSP and POPSP -/

/-- The general registers after the stores of `PUSHSP` up to the one that fails. -/
def pushspRegs : Nat → Nat → Word → CpuState D → Fin 32 → Word
  | 0, _, _, s => s.cpu.r
  | n + 1, cur, tmpSp, s =>
    if h : cur < 32 then
      match bus.putData32 s (tmpSp - 4) (s.cpu.r ⟨cur, h⟩) with
      | (none, _) => s.cpu.r
      | (some _, v) =>
        pushspRegs n (cur + 1) (tmpSp - 4)
          { s.withView v with
            cpu := { (s.withView v).cpu with realElaps := s.cpu.realElaps + 1 } }
    else s.cpu.r

/-- Each word that `POPSP` loads before the read that fails is in its register
already. -/
def LoadsChangeNothing : Nat → Nat → Word → CpuState D → Prop
  | 0, _, _, _ => True
  | n + 1, cur, tmpSp, s =>
    ∀ data v, bus.getData32 s tmpSp = (some data, v) → ∀ h : cur < 32,
      data = s.cpu.r ⟨cur, h⟩ ∧
        LoadsChangeNothing n (cur - 1) (tmpSp + 4)
          { s.withView v with
            cpu := { (s.withView v).cpu with realElaps := s.cpu.realElaps + 1 } }

section BusAccess

variable {α : Type} {access : CpuState D → Option α × BusView D} {s : CpuState D} {v : BusView D}

theorem run_busAccess_none (h : access s = (none, v)) :
    (busAccess access).run s = (.error .fail, s.withView v) := by
  unfold busAccess
  rw [run_lift, h]

theorem run_busAccess_some {a : α} (h : access s = (some a, v)) :
    (busAccess access).run s = (.ok a, s.withView v) := by
  unfold busAccess
  rw [run_lift, h]

end BusAccess

/-- Where a loop of stores stops. -/
theorem pushspLoop_fail {n cur : Nat} {tmpSp : Word} {s s' : CpuState D}
    (h : (pushspLoop bus n cur tmpSp).run s = (.error .fail, s')) :
    s'.cpu.pc = s.cpu.pc ∧ s'.cpu.sys = s.cpu.sys ∧
      s'.cpu.r = pushspRegs bus n cur tmpSp s := by
  induction n generalizing cur tmpSp s with
  | zero => cases h
  | succ n ih =>
    rw [pushspLoop] at h
    unfold pushspRegs
    by_cases hcur : cur < 32
    · rw [dif_pos hcur]
      rw [run_bind, run_getR hcur, andThen_ok] at h
      rcases hput : bus.putData32 s (tmpSp - 4) (s.cpu.r ⟨cur, hcur⟩) with ⟨_ | u, v⟩
      · have hrun : (busPutData32 bus (tmpSp - 4) (s.cpu.r ⟨cur, hcur⟩)).run s =
            (.error .fail, s.withView v) := run_busAccess_none hput
        rw [run_bind, hrun, andThen_error] at h
        cases h
        have hr := (hbus.put32 (tmpSp - 4) (s.cpu.r ⟨cur, hcur⟩)).r s
        rw [hput] at hr
        exact ⟨rfl, rfl, hr rfl⟩
      · have hrun : (busPutData32 bus (tmpSp - 4) (s.cpu.r ⟨cur, hcur⟩)).run s =
            (.ok (), s.withView v) := run_busAccess_some hput
        rw [run_bind, hrun, andThen_ok] at h
        exact ih h
    · rw [run_bind] at h
      unfold getR at h
      rw [dif_neg hcur] at h
      cases h

/-- Where a loop of loads stops; each register is loaded once. -/
theorem popspLoop_fail {n cur : Nat} (hn : n ≤ cur + 1) {tmpSp : Word} {s s' : CpuState D}
    (h : (popspLoop bus n cur tmpSp).run s = (.error .fail, s')) :
    s'.cpu.pc = s.cpu.pc ∧ s'.cpu.sys = s.cpu.sys ∧
      (∀ i : Fin 32, cur < i.val → s'.cpu.r i = s.cpu.r i) ∧
        (s'.cpu.r = s.cpu.r ↔ LoadsChangeNothing bus n cur tmpSp s) := by
  induction n generalizing cur tmpSp s with
  | zero => cases h
  | succ n ih =>
    rw [popspLoop] at h
    unfold LoadsChangeNothing
    have hread := (hbus.get32 tmpSp).read s
    rcases hget : bus.getData32 s tmpSp with ⟨_ | data, v⟩
    · have hrun : (busGetData32 bus tmpSp).run s = (.error .fail, s.withView v) :=
        run_busAccess_none hget
      rw [run_bind, hrun, andThen_error] at h
      rw [hget] at hread
      cases h
      refine ⟨rfl, rfl, fun i _ => congrFun hread i, iff_of_true hread ?_⟩
      intro data v' hdata
      cases hdata
    · have hrun : (busGetData32 bus tmpSp).run s = (.ok data, s.withView v) :=
        run_busAccess_some hget
      rw [hget] at hread
      have hr : (s.withView v).cpu.r = s.cpu.r := hread
      rw [run_bind, hrun, andThen_ok, run_bind] at h
      by_cases hcur : cur < 32
      · rw [run_setR hcur, andThen_ok] at h
        -- the last pass loads register `cur`; a further one follows it
        have hpos : n ≠ 0 := by
          rintro rfl
          cases h
        have hprev : cur - 1 < cur := by omega
        obtain ⟨hpc, hsys, hhigh, hiff⟩ := ih (by omega) h
        have hself : s'.cpu.r ⟨cur, hcur⟩ = data := by
          rw [hhigh ⟨cur, hcur⟩ hprev]
          exact Function.update_self _ _ _
        refine ⟨hpc, hsys, fun i hi => ?_, ?_⟩
        · have hne : i ≠ ⟨cur, hcur⟩ := by
            rintro rfl
            exact Nat.lt_irrefl _ hi
          rw [hhigh i (by omega)]
          show Function.update (s.withView v).cpu.r ⟨cur, hcur⟩ data i = _
          rw [Function.update_of_ne hne, hr]
        · by_cases hdata : data = s.cpu.r ⟨cur, hcur⟩
          · have hupdate : Function.update (s.withView v).cpu.r ⟨cur, hcur⟩ data =
                (s.withView v).cpu.r := by
              rw [hdata, ← hr]
              exact Function.update_eq_self _ _
            have hstate : ({ s.withView v with
                cpu := { (s.withView v).cpu with
                  r := Function.update (s.withView v).cpu.r ⟨cur, hcur⟩ data
                  realElaps := s.cpu.realElaps + 1 } } : CpuState D) =
                { s.withView v with
                  cpu := { (s.withView v).cpu with realElaps := s.cpu.realElaps + 1 } } := by
              rw [hupdate]
            have hiff' : s'.cpu.r = Function.update (s.withView v).cpu.r ⟨cur, hcur⟩ data ↔
                LoadsChangeNothing bus n (cur - 1) (tmpSp + 4)
                  { s.withView v with
                    cpu := { (s.withView v).cpu with realElaps := s.cpu.realElaps + 1 } } := by
              rw [← hstate]
              exact hiff
            rw [hupdate, hr] at hiff'
            rw [hiff']
            constructor
            · intro hrest data' v' heq _
              cases heq
              exact ⟨hdata, hrest⟩
            · intro hall
              exact (hall data v rfl hcur).2
          · refine iff_of_false ?_ ?_
            · intro hsame
              rw [hsame] at hself
              exact hdata hself.symm
            · intro hall
              exact hdata (hall data v rfl hcur).1
      · unfold setR at h
        rw [dif_neg hcur] at h
        cases h

instance calm_pushspLoop (n cur : Nat) (tmpSp : Word) :
    Calm codeFlag (pushspLoop bus n cur tmpSp) := by
  induction n generalizing cur tmpSp with
  | zero => exact calm_pure _
  | succ n ih =>
    rw [pushspLoop]
    infer_instance

instance calm_popspLoop (n cur : Nat) (tmpSp : Word) :
    Calm codeFlag (popspLoop bus n cur tmpSp) := by
  induction n generalizing cur tmpSp with
  | zero => exact calm_pure _
  | succ n ih =>
    rw [popspLoop]
    infer_instance

/-- A calm computation faults with the error alone. -/
theorem fail_of_faults {α : Type} {x : Exec D α} [hcalm : Calm codeFlag x] {s : CpuState D}
    (h : Faults x s) : x.run s = (.error .fail, (x.run s).2) := by
  rcases h with herror | ⟨⟨a, hok⟩, hbefore, hafter⟩
  · rw [← herror]
  · rw [hcalm.calm s a (x.run s).2 (by rw [← hok]), hbefore] at hafter
    cases hafter

/-- The stack pointer with its low two bits cleared. -/
def alignedSp (s : CpuState D) : Word :=
  s.cpu.r ⟨cpuRegSp, by decide⟩ &&& 0xFFFFFFFC#32

/-- The stores of `PUSHSP` up to the one that fails leave the general registers
alone. -/
def PushspRestarts (d : OpCodeFormatType11) (s : CpuState D) : Prop :=
  pushspRegs bus (d.reg3.toNat + 1 - d.reg1.toNat) d.reg1.toNat (alignedSp s) s = s.cpu.r

theorem restartsIff_pushsp11 (d : OpCodeFormatType11) :
    RestartsIff (opExecPushsp11 bus d) (PushspRestarts bus d) := by
  have hloop (n cur : Nat) (tmpSp : Word) : RestartsIff (pushspLoop bus n cur tmpSp)
      fun s => pushspRegs bus n cur tmpSp s = s.cpu.r := by
    intro s hfault
    obtain ⟨hpc, hsys, hr⟩ := pushspLoop_fail bus (fail_of_faults hfault)
    show _ ↔ pushspRegs bus n cur tmpSp s = s.cpu.r
    rw [← hr]
    exact ⟨fun h => h.r, fun h => ⟨hpc, h, fun id _ => congrFun hsys id⟩⟩
  unfold opExecPushsp11
  split_ifs with hempty
  · exact rollsBackIff_of_unfailing _ _
  · refine (rollsBackIff_bind (getR cpuRegSp) fun sp => (hloop _ _ _).bind).congr fun s => ?_
    rw [okThen_getR]
    exact ⟨fun h => h (by decide), fun h _ => h⟩

/-- The loads of `POPSP` before the one that fails change no register. -/
def PopspRestarts (d : OpCodeFormatType11) (s : CpuState D) : Prop :=
  LoadsChangeNothing bus (d.reg3.toNat + 1 - d.reg1.toNat) d.reg3.toNat (alignedSp s) s

theorem restartsIff_popsp11 (d : OpCodeFormatType11) :
    RestartsIff (opExecPopsp11 bus d) (PopspRestarts bus d) := by
  have hloop (n cur : Nat) (hn : n ≤ cur + 1) (tmpSp : Word) :
      RestartsIff (popspLoop bus n cur tmpSp) (LoadsChangeNothing bus n cur tmpSp) := by
    intro s hfault
    obtain ⟨hpc, hsys, _, hr⟩ := popspLoop_fail bus hn (fail_of_faults hfault)
    rw [← hr]
    exact ⟨fun h => h.r, fun h => ⟨hpc, h, fun id _ => congrFun hsys id⟩⟩
  unfold opExecPopsp11
  split_ifs with hempty
  · exact rollsBackIff_of_unfailing _ _
  · refine (rollsBackIff_bind (getR cpuRegSp) fun sp =>
      (hloop _ _ (by omega) _).bind).congr fun s => ?_
    rw [okThen_getR]
    exact ⟨fun h => h (by decide), fun h _ => h⟩
  · refine (rollsBackIff_bind (getR cpuRegSp) fun sp =>
      (hloop _ _ (by omega) _).bind).congr fun s => ?_
    rw [okThen_getR]
    exact ⟨fun h => h (by decide), fun h _ => h⟩

/-! ## PREPARE and DISPOSE -/

/-- A pass for one register changes nothing that is kept or moves the stack
pointer. -/
structure StackPass (body : Fin 32 → Exec D Unit) (Fails : CpuState D → Prop) (delta : Word)
    (i : Fin 32) : Prop where
  fails : ∀ s, Fails s → ∃ s', (body i).run s = (.error .fail, s') ∧ Frozen s s'
  passes : ∀ s, ¬ Fails s →
    ∃ s', (body i).run s = (.ok (), s') ∧ s'.cpu.r 3 = s.cpu.r 3 + delta

/-- The loop stops after `k` passes, or it has made all of them. -/
theorem stackLoop_cases {body : Fin 32 → Exec D Unit} {Fails : Fin 32 → CpuState D → Prop}
    {delta : Word} (hpass : ∀ i, StackPass body (Fails i) delta i) (l : List (Fin 32))
    (s : CpuState D) :
    (∃ k s', (l.forM body).run s = (.error .fail, s') ∧ k < l.length ∧
        s'.cpu.r 3 = s.cpu.r 3 + BitVec.ofNat 32 k * delta ∧ (k = 0 → Frozen s s') ∧
          (k = 0 ↔ ∃ i ∈ l.head?, Fails i s)) ∨
      ∃ s', (l.forM body).run s = (.ok (), s') ∧ (l = [] → s' = s) ∧
        s'.cpu.r 3 = s.cpu.r 3 + BitVec.ofNat 32 l.length * delta ∧
          ¬ ∃ i ∈ l.head?, Fails i s := by
  induction l generalizing s with
  | nil => exact Or.inr ⟨s, rfl, fun _ => rfl, by simp, by simp⟩
  | cons i l ih =>
    have hcons : (i :: l).forM body = body i >>= fun _ => l.forM body := rfl
    rw [hcons, run_bind]
    by_cases hfails : Fails i s
    · obtain ⟨s', hrun, hfrozen⟩ := (hpass i).fails s hfails
      refine Or.inl ⟨0, s', ?_, by simp, ?_, fun _ => hfrozen, ?_⟩
      · rw [hrun, andThen_error]
      · rw [hfrozen.r]
        simp
      · simpa using hfails
    · obtain ⟨s₁, hrun, hsp⟩ := (hpass i).passes s hfails
      rw [hrun, andThen_ok]
      have hstep (k : Nat) (sp : Word) :
          sp + delta + BitVec.ofNat 32 k * delta = sp + BitVec.ofNat 32 (k + 1) * delta := by
        rw [BitVec.ofNat_add, BitVec.add_mul, BitVec.add_assoc]
        simp [BitVec.add_comm]
      rcases ih s₁ with ⟨k, s', hloop, hk, hsp', _, _⟩ | ⟨s', hloop, _, hsp', _⟩
      · refine Or.inl ⟨k + 1, s', hloop, ?_, ?_, fun h => absurd h (by omega), ?_⟩
        · rw [List.length_cons]
          omega
        · rw [hsp', hsp, hstep]
        · simpa using hfails
      · refine Or.inr ⟨s', hloop, fun h => absurd h (List.cons_ne_nil _ _), ?_, ?_⟩
        · rw [hsp', hsp, hstep, List.length_cons]
        · simpa using hfails

/-- The stack pointer is moved before the rest. -/
theorem run_moveSp {α : Type} (f : Word → Word) (rest : Exec D α) (s : CpuState D) :
    (getR cpuRegSp >>= fun sp => setR cpuRegSp (f sp) >>= fun _ => rest).run s =
      rest.run { s with
        cpu := { s.cpu with r := Function.update s.cpu.r 3 (f (s.cpu.r 3)) } } := by
  rw [run_bind, run_getSp, andThen_ok, run_bind, run_setSp, andThen_ok]

/-- The transfer of one register of `PREPARE`. -/
abbrev storeOne (i : Fin 32) : Exec D Unit := do
  let sp ← getR cpuRegSp
  let addr := sp - 4
  let granted ← hasPermission .write addr 4
  failIf (granted = false)
  let data ← getR i.val
  busStorePointer bus addr data
  setR cpuRegSp addr
  addElaps 1

/-- The store of register `i` below the stack pointer is denied or fails. -/
def StoreFails (i : Fin 32) (s : CpuState D) : Prop :=
  let addr := s.cpu.r 3 - 4
  let permission := targetMpuHasPermission s.cpu .write addr 4
  permission.1 = false ∨ bus.storePointer { s with cpu := permission.2 } addr (s.cpu.r i) = none

omit hbus in
theorem stackPass_storeOne (i : Fin 32) :
    StackPass (storeOne bus) (StoreFails bus i) (-4) i := by
  suffices h : ∀ s : CpuState D,
      (StoreFails bus i s ∧ ∃ s', (storeOne bus i).run s = (.error .fail, s') ∧ Frozen s s') ∨
        (¬ StoreFails bus i s ∧
          ∃ s', (storeOne bus i).run s = (.ok (), s') ∧ s'.cpu.r 3 = s.cpu.r 3 + -4) by
    constructor
    · intro s hfails
      exact (h s).elim (fun h => h.2) fun h => absurd hfails h.1
    · intro s hfails
      exact (h s).elim (fun h => absurd h.1 hfails) fun h => h.2
  intro s
  unfold storeOne StoreFails
  rw [run_bind, run_getSp, andThen_ok]
  generalize haddr : s.cpu.r 3 - 4 = addr
  dsimp only
  obtain ⟨info, hinfo⟩ := targetMpuHasPermission_snd s.cpu .write addr 4
  have hperm : (hasPermission .write addr 4).run s =
      (.ok (targetMpuHasPermission s.cpu .write addr 4).1,
        { s with cpu := (targetMpuHasPermission s.cpu .write addr 4).2 }) := rfl
  rw [run_bind, hperm, andThen_ok, hinfo]
  cases (targetMpuHasPermission s.cpu .write addr 4).1 with
  | false => exact Or.inl ⟨Or.inl rfl, _, rfl, rfl, rfl, fun _ _ => rfl⟩
  | true =>
    rw [run_bind, run_failIf (by decide), andThen_ok, run_bind, run_getR i.isLt, andThen_ok,
      run_bind]
    rcases hstore : bus.storePointer { s with cpu := setErrorInfo s.cpu info } addr
        (s.cpu.r i) with _ | v
    · have hrun : (busStorePointer bus addr (s.cpu.r i)).run
          { s with cpu := setErrorInfo s.cpu info } =
            (.error .fail, { s with cpu := setErrorInfo s.cpu info }) := by
        refine run_busAccess_none (v := CpuState.view { s with cpu := setErrorInfo s.cpu info }) ?_
        rw [hstore]
      refine Or.inl ⟨Or.inr rfl, { s with cpu := setErrorInfo s.cpu info }, ?_,
        rfl, rfl, fun _ _ => rfl⟩
      exact (congrArg (andThen fun _ => setR cpuRegSp addr >>= fun _ => addElaps 1) hrun :)
    · have hrun : (busStorePointer bus addr (s.cpu.r i)).run
          { s with cpu := setErrorInfo s.cpu info } =
            (.ok (), CpuState.withView { s with cpu := setErrorInfo s.cpu info } v) := by
        refine run_busAccess_some ?_
        rw [hstore]
      refine Or.inr ⟨?_, _,
        (congrArg (andThen fun _ => setR cpuRegSp addr >>= fun _ => addElaps 1) hrun :), ?_⟩
      · rintro (hdenied | hnone)
        · cases hdenied
        · cases hnone
      · show Function.update v.r 3 addr 3 = _
        rw [Function.update_self, ← haddr, BitVec.sub_eq_add_neg]

/-- No word is stored and no frame is made, or the first store fails. -/
def StoresRestart (imm : Word) (l : List (Fin 32)) (s : CpuState D) : Prop :=
  match l with
  | [] => imm = 0
  | i :: _ => StoreFails bus i s

def PrepareRestarts (d : OpCodeFormatType13) : CpuState D → Prop :=
  StoresRestart bus d.imm (listRegs.filter d.list)

theorem length_filter_listRegs (list : Fin 32 → Bool) : (listRegs.filter list).length ≤ 12 :=
  List.length_filter_le _ _

/-- The frame of `PREPARE` is smaller than the address space. -/
theorem frame_eq_zero {n : Nat} (hn : n ≤ 12) {imm : Word} (himm : imm.toNat < 32)
    (h : BitVec.ofNat 32 n * 4#32 + (imm <<< 2) = 0#32) : n = 0 ∧ imm = 0 := by
  have hnat := congrArg BitVec.toNat h
  rw [BitVec.toNat_add, BitVec.toNat_mul, BitVec.toNat_shiftLeft, BitVec.toNat_ofNat,
    Nat.shiftLeft_eq] at hnat
  have hfour : (4#32).toNat = 4 := rfl
  have hzero : (0#32).toNat = 0 := rfl
  rw [hfour, hzero] at hnat
  refine ⟨by omega, BitVec.eq_of_toNat_eq ?_⟩
  show imm.toNat = 0
  omega

theorem frozen_sp {s s' : CpuState D} (h : Frozen s s') : s'.cpu.r 3 = s.cpu.r 3 :=
  congrFun h.r 3

/-- Steps that roll back leave the question to those before them. -/
theorem frozen_iff_of_frozen {s s₁ s' : CpuState D} (h : Frozen s₁ s') :
    Frozen s s' ↔ Frozen s s₁ :=
  ⟨fun h' => trans_of Frozen h' (Std.Symm.symm _ _ h), fun h' => trans_of Frozen h' h⟩

instance calm_busStorePointer (addr data : Word) : Calm codeFlag (busStorePointer bus addr data) where
  calm s a s' hrun := by
    unfold busStorePointer busAccess at hrun
    rw [run_lift] at hrun
    dsimp only at hrun
    rcases hstore : bus.storePointer s addr data with _ | v
    · rw [hstore] at hrun
      cases hrun
    · rw [hstore] at hrun
      cases hrun
      exact congrArg CodeException.isCodeException (hbus.store _ _ _ _ hstore).2

/-- A frame is taken from the stack pointer, unless it is empty. -/
theorem prepareFrame_eq_zero {n : Nat} (hn : n ≤ 12) {imm sp : Word} (himm : imm.toNat < 32)
    (h : sp + BitVec.ofNat 32 n * -4#32 - (imm <<< 2) = sp) : n = 0 ∧ imm = 0#32 := by
  refine frame_eq_zero hn himm ?_
  rw [BitVec.mul_neg] at h
  generalize BitVec.ofNat 32 n * 4#32 = words at h ⊢
  generalize imm <<< 2 = bytes at h ⊢
  clear himm hn
  bv_omega

/-- The loop of `PREPARE`, the move of the stack pointer and a rest that rolls
back. -/
theorem frozen_storeLoop {rest : Exec D Unit} [hrest : RollsBack Frozen Stop.fail codeFlag rest]
    {l : List (Fin 32)} (hlength : l.length ≤ 12) {imm : Word} (himm : imm.toNat < 32)
    {s : CpuState D}
    (hfault : Faults (l.forM (storeOne bus) >>= fun _ => getR cpuRegSp >>= fun sp =>
      setR cpuRegSp (sp - (imm <<< 2)) >>= fun _ => rest) s) :
    Frozen s ((l.forM (storeOne bus) >>= fun _ => getR cpuRegSp >>= fun sp =>
        setR cpuRegSp (sp - (imm <<< 2)) >>= fun _ => rest).run s).2 ↔
      StoresRestart bus imm l s := by
  have hloop := stackLoop_cases (stackPass_storeOne bus) l s
  rcases faulted_bind hfault with ⟨s', hrun, hall⟩ | ⟨_, s₁, hrun, hfault₁, hall⟩
  · rw [hall]
    rcases hloop with ⟨k, s'', hrun', hk, hsp, hzero, hfirst⟩ | ⟨s'', hrun', _⟩
    · rw [hrun] at hrun'
      cases hrun'
      cases l with
      | nil => exact absurd hk (Nat.not_lt_zero _)
      | cons i l =>
        have hfirst' : k = 0 ↔ StoreFails bus i s := by simpa using hfirst
        show _ ↔ StoreFails bus i s
        rw [← hfirst']
        refine ⟨fun hfrozen => ?_, hzero⟩
        have hsame := frozen_sp hfrozen
        rw [hsp] at hsame
        have hnone : s.cpu.r 3 + BitVec.ofNat 32 k * -4#32 - (0#32 <<< 2) = s.cpu.r 3 := by
          rw [BitVec.zero_shiftLeft, BitVec.sub_zero]
          exact hsame
        exact (prepareFrame_eq_zero (by omega) (by decide) hnone).1
    · rw [hrun] at hrun'
      cases hrun'
  · rcases hloop with ⟨k, s'', hrun', _⟩ | ⟨s'', hrun', hstart, hsp, hfirst⟩
    · rw [hrun] at hrun'
      cases hrun'
    · rw [hrun] at hrun'
      cases hrun'
      unfold Faulted at hfault₁
      rw [run_moveSp (fun sp => sp - (imm <<< 2))] at hfault₁ hall
      have hback := hrest.back _ hfault₁
      rw [hall, frozen_iff_of_frozen hback]
      -- the stack pointer before the rest
      have hmoved (hfrozen : Frozen s { s₁ with
          cpu := { s₁.cpu with
            r := Function.update s₁.cpu.r 3 (s₁.cpu.r 3 - (imm <<< 2)) } }) :
          l.length = 0 ∧ imm = 0 := by
        have hsame := frozen_sp hfrozen
        dsimp only at hsame
        rw [Function.update_self, hsp] at hsame
        exact prepareFrame_eq_zero hlength himm hsame
      cases l with
      | nil =>
        obtain rfl := hstart rfl
        show _ ↔ imm = 0
        refine ⟨fun hfrozen => (hmoved hfrozen).2, ?_⟩
        rintro rfl
        refine ⟨rfl, ?_, fun _ _ => rfl⟩
        show Function.update s₁.cpu.r 3 (s₁.cpu.r 3 - (0#32 <<< 2)) = s₁.cpu.r
        rw [BitVec.zero_shiftLeft, BitVec.sub_zero, Function.update_eq_self]
      | cons i l =>
        refine iff_of_false (fun hfrozen => ?_) (by simpa [StoresRestart] using hfirst)
        exact absurd (hmoved hfrozen).1 (by simp)

set_option synthInstance.maxSize 100000 in
theorem restartsIff_prepare13 (d : OpCodeFormatType13) (himm : d.imm.toNat < 32) :
    RestartsIff (opExecPrepare bus d) (PrepareRestarts bus d) := by
  intro s hfault
  have hfilter : listRegs.forM (prepareStore bus d.list) =
      (listRegs.filter d.list).forM (storeOne bus) := forM_filter _ _ _
  unfold opExecPrepare at hfault ⊢
  rw [hfilter] at hfault ⊢
  exact frozen_storeLoop bus (length_filter_listRegs d.list) himm hfault

/-- The transfer of one register of `DISPOSE`. -/
abbrev loadOne (i : Fin 32) : Exec D Unit := do
  let addr ← getR cpuRegSp
  let granted ← hasPermission .read addr 4
  failIf (granted = false)
  let addrp ← busGetPointer bus addr
  setR i.val (pointer32 addrp)
  setR cpuRegSp (addr + 4)
  addElaps 1

/-- The load at the stack pointer is denied or fails. -/
def LoadFails (s : CpuState D) : Prop :=
  let addr := s.cpu.r 3
  let permission := targetMpuHasPermission s.cpu .read addr 4
  permission.1 = false ∨ bus.getPointer { s with cpu := permission.2 } addr = none

omit hbus in
theorem stackPass_loadOne (i : Fin 32) : StackPass (loadOne bus) (LoadFails bus) 4 i := by
  suffices h : ∀ s : CpuState D,
      (LoadFails bus s ∧ ∃ s', (loadOne bus i).run s = (.error .fail, s') ∧ Frozen s s') ∨
        (¬ LoadFails bus s ∧
          ∃ s', (loadOne bus i).run s = (.ok (), s') ∧ s'.cpu.r 3 = s.cpu.r 3 + 4) by
    constructor
    · intro s hfails
      exact (h s).elim (fun h => h.2) fun h => absurd hfails h.1
    · intro s hfails
      exact (h s).elim (fun h => absurd h.1 hfails) fun h => h.2
  intro s
  unfold loadOne LoadFails
  rw [run_bind, run_getSp, andThen_ok]
  generalize haddr : s.cpu.r 3 = addr
  dsimp only
  obtain ⟨info, hinfo⟩ := targetMpuHasPermission_snd s.cpu .read addr 4
  have hperm : (hasPermission .read addr 4).run s =
      (.ok (targetMpuHasPermission s.cpu .read addr 4).1,
        { s with cpu := (targetMpuHasPermission s.cpu .read addr 4).2 }) := rfl
  rw [run_bind, hperm, andThen_ok, hinfo]
  cases (targetMpuHasPermission s.cpu .read addr 4).1 with
  | false => exact Or.inl ⟨Or.inl rfl, _, rfl, rfl, rfl, fun _ _ => rfl⟩
  | true =>
    rw [run_bind, run_failIf (by decide), andThen_ok, run_bind]
    generalize hs : ({ s with cpu := setErrorInfo s.cpu info } : CpuState D) = s₁
    have hfrozen : Frozen s s₁ := by
      subst hs
      exact ⟨rfl, rfl, fun _ _ => rfl⟩
    rcases hload : bus.getPointer s₁ addr with _ | addrp
    · have hrun : (busGetPointer bus addr).run s₁ = (.error .fail, s₁) := by
        refine run_busAccess_none (v := s₁.view) ?_
        rw [hload]
      refine Or.inl ⟨Or.inr rfl, s₁, ?_, hfrozen⟩
      rw [hrun, andThen_error]
    · have hrun : (busGetPointer bus addr).run s₁ = (.ok addrp, s₁) := by
        refine run_busAccess_some (v := s₁.view) ?_
        rw [hload]
      rw [hrun, andThen_ok, run_bind, run_setR i.isLt, andThen_ok, run_bind, run_setSp, andThen_ok]
      refine Or.inr ⟨?_, _, rfl, ?_⟩
      · rintro (hdenied | hnone)
        · cases hdenied
        · cases hnone
      · exact Function.update_self (3 : Fin 32) (addr + 4)
          (Function.update s₁.cpu.r i (pointer32 addrp))

/-- No frame is released, and the first load fails if there is one. -/
def DisposeRestarts (d : OpCodeFormatType13) (s : CpuState D) : Prop :=
  d.imm = 0 ∧ (listRegs.reverse.filter d.list = [] ∨
    LoadFails bus { s with cpu := { s.cpu with realElaps := 0 } })

omit hbus in
/-- The loop of `DISPOSE` and a rest that rolls back: the fault comes after `k`
loads. -/
theorem loadLoop_fault {rest : Exec D Unit} [hrest : RollsBack Frozen Stop.fail codeFlag rest]
    {l : List (Fin 32)} {s : CpuState D}
    (hfault : Faults (l.forM (loadOne bus) >>= fun _ => rest) s) :
    ∃ k ≤ l.length,
      ((l.forM (loadOne bus) >>= fun _ => rest).run s).2.cpu.r 3 =
          s.cpu.r 3 + BitVec.ofNat 32 k * 4#32 ∧
        (k = 0 → Frozen s ((l.forM (loadOne bus) >>= fun _ => rest).run s).2) ∧
          (k = 0 ↔ l = [] ∨ LoadFails bus s) := by
  have hloop := stackLoop_cases (stackPass_loadOne bus) l s
  have hhead : (∃ i ∈ l.head?, LoadFails bus s) ↔ l ≠ [] ∧ LoadFails bus s := by
    cases l with
    | nil => simp
    | cons i l => simp
  rw [hhead] at hloop
  rcases faulted_bind hfault with ⟨s', hrun, hall⟩ | ⟨_, s₁, hrun, hfault₁, hall⟩
  · rw [hall]
    rcases hloop with ⟨k, s'', hrun', hk, hsp, hzero, hfirst⟩ | ⟨s'', hrun', _⟩
    · rw [hrun] at hrun'
      cases hrun'
      have hne : l ≠ [] := List.ne_nil_of_length_pos (by omega)
      refine ⟨k, hk.le, hsp, hzero, ?_⟩
      rw [hfirst]
      exact ⟨fun h => Or.inr h.2, fun h => ⟨hne, h.resolve_left hne⟩⟩
    · rw [hrun] at hrun'
      cases hrun'
  · rcases hloop with ⟨k, s'', hrun', _⟩ | ⟨s'', hrun', hstart, hsp, hfirst⟩
    · rw [hrun] at hrun'
      cases hrun'
    · rw [hrun] at hrun'
      cases hrun'
      have hback := hrest.back _ hfault₁
      rw [hall]
      refine ⟨l.length, le_rfl, ?_, ?_, ?_⟩
      · rw [frozen_sp hback, hsp]
        rfl
      · intro hlen
        rw [hstart (List.eq_nil_of_length_eq_zero hlen)] at hback ⊢
        exact hback
      · rw [List.length_eq_zero_iff]
        refine ⟨Or.inl, fun h => ?_⟩
        by_contra hne
        exact hfirst ⟨hne, h.resolve_left hne⟩

omit hbus in
theorem restartsIff_dispose13 (d : OpCodeFormatType13) (himm : d.imm.toNat < 32) :
    RestartsIff (opExecDispose bus d) (DisposeRestarts bus d) := by
  intro s hfault
  have hfilter : listRegs.reverse.forM (disposeLoad bus d.list) =
      (listRegs.reverse.filter d.list).forM (loadOne bus) := forM_filter _ _ _
  have hlength : (listRegs.reverse.filter d.list).length ≤ 12 := List.length_filter_le _ _
  have hstart {rest : Exec D Unit} (s : CpuState D) :
      (clearElaps >>= fun _ => getR cpuRegSp >>= fun sp =>
        setR cpuRegSp (sp + (d.imm <<< 2)) >>= fun _ => rest).run s =
      rest.run { s with cpu := { s.cpu with
        realElaps := 0
        r := Function.update s.cpu.r 3 (s.cpu.r 3 + (d.imm <<< 2)) } } := by
    have hclear : (clearElaps : Exec D Unit).run s =
        (.ok (), { s with cpu := { s.cpu with realElaps := 0 } }) := rfl
    rw [run_bind, hclear, andThen_ok]
    exact run_moveSp _ _ _
  unfold opExecDispose at hfault ⊢
  rw [hfilter] at hfault ⊢
  unfold DisposeRestarts
  generalize listRegs.reverse.filter d.list = l at hlength hfault ⊢
  unfold Faulted at hfault
  rw [hstart] at hfault ⊢
  obtain ⟨k, hk, hsp, hzero, hfirst⟩ := loadLoop_fault bus hfault
  generalize (run _ _).2 = s' at hsp hzero ⊢
  dsimp only at hsp
  rw [Function.update_self] at hsp
  -- with an empty frame the loop starts in the state before
  have hsame (hd : d.imm = 0#32) : ({ s with cpu := { s.cpu with
        realElaps := 0
        r := Function.update s.cpu.r 3 (s.cpu.r 3 + (d.imm <<< 2)) } } : CpuState D) =
      { s with cpu := { s.cpu with realElaps := 0 } } := by
    have hr : Function.update s.cpu.r 3 (s.cpu.r 3 + (d.imm <<< 2)) = s.cpu.r := by
      rw [hd, BitVec.zero_shiftLeft]
      simp
    rw [hr]
  constructor
  · intro hfrozen
    have hmoved := frozen_sp hfrozen
    rw [hsp, BitVec.add_assoc, BitVec.add_right_eq_self, BitVec.add_comm] at hmoved
    obtain ⟨hk0, hd⟩ := frame_eq_zero (by omega) himm hmoved
    rw [← hsame hd]
    exact ⟨hd, hfirst.mp hk0⟩
  · rintro ⟨hd, hfirst'⟩
    rw [← hsame hd] at hfirst'
    have hback := hzero (hfirst.mpr hfirst')
    rw [hsame hd] at hback
    exact ⟨hback.pc, hback.r, hback.sys⟩

end Bus

end Exec

/-! ## All instructions -/

/-- When an instruction that faults can be executed again: for the executors
that write early their own condition, for the others always. -/
def Restarts (p : Platform D) (codeId : OpCodeId) (d : OpDecodedCode) (s : CpuState D) : Prop :=
  match codeId with
  | .not1_8 => Exec.Not18Restarts p.bus d.type8 s
  | .not1_9 => Exec.Not19Restarts p.bus d.type9 s
  | .prepare_13 => Exec.PrepareRestarts p.bus d.type13 s
  | .dispose_13 => Exec.DisposeRestarts p.bus d.type13 s
  | .pushsp_11 => Exec.PushspRestarts p.bus d.type11 s
  | .popsp_11 => Exec.PopspRestarts p.bus d.type11 s
  | .st_dw_14 => Exec.StDwRestarts p.bus p.mayStoreOnStackOverflow d.type14 s
  | .syscall_10 => Exec.SyscallRestarts s
  | _ => True

theorem restarts_of_not_writesEarly (p : Platform D) {codeId : OpCodeId}
    (h : writesEarly codeId = false) (d : OpDecodedCode) (s : CpuState D) :
    Restarts p codeId d s := by
  unfold Restarts
  split <;> trivial

/-- The immediate of the register list instructions has five bits. -/
theorem imm_type13_lt {code : OpCode} {d : OpDecodedCode} :
    (opDecoder code .format13 d).type13.imm.toNat < 32 := by
  show (field32 (code 0) 1 0x001F).toNat < 32
  unfold field32 field
  rw [BitVec.toNat_setWidth, BitVec.toNat_and]
  exact (Nat.mod_le _ _).trans_lt (Nat.lt_succ_of_le Nat.and_le_right)

/-- Whatever the operands that a parsed instruction can have, a fault leaves
the program counter, the general registers, `PSW` and the save registers alone
exactly when the condition of the instruction holds. -/
theorem restarts_iff {p : Platform D} [BusContract p.bus] {code : OpCode} {d : OpDecodedCode}
    {parsed : OperationCode × OpDecodedCode} (hparse : opParse code d = some parsed)
    {executor : OpDecodedCode → Exec D Unit}
    (hexec : opExecTable p parsed.1.codeId = some executor) {s : CpuState D}
    (hfault : Faults (executor parsed.2) s) :
    Frozen s ((executor parsed.2).run s).2 ↔ Restarts p parsed.1.codeId parsed.2 s := by
  cases hearly : writesEarly parsed.1.codeId with
  | false =>
    have hback := rollsBack_opExecTable hearly hexec parsed.2
    exact iff_of_true (hback.back s hfault) (restarts_of_not_writesEarly p hearly _ _)
  | true =>
    obtain ⟨optype, hoptype, hdecode⟩ := Option.map_eq_some_iff.mp hparse
    have hformat := parseOptype_formatId hoptype
    subst hdecode
    obtain ⟨codeId, formatId⟩ := optype
    dsimp only at hearly hexec hformat hfault ⊢
    subst hformat
    have hcases : codeId = .not1_8 ∨ codeId = .not1_9 ∨ codeId = .prepare_13 ∨
        codeId = .dispose_13 ∨ codeId = .pushsp_11 ∨ codeId = .popsp_11 ∨ codeId = .st_dw_14 ∨
          codeId = .syscall_10 := by
      revert hearly
      cases codeId <;> decide
    rcases hcases with rfl | rfl | rfl | rfl | rfl | rfl | rfl | rfl
    · cases hexec
      exact Exec.restartsIff_not18 p.bus _ s hfault
    · cases hexec
      exact Exec.restartsIff_not19 p.bus _ s hfault
    · cases hexec
      exact Exec.restartsIff_prepare13 p.bus _ imm_type13_lt s hfault
    · cases hexec
      exact Exec.restartsIff_dispose13 p.bus _ imm_type13_lt s hfault
    · cases hexec
      exact Exec.restartsIff_pushsp11 p.bus _ s hfault
    · cases hexec
      exact Exec.restartsIff_popsp11 p.bus _ s hfault
    · cases hexec
      exact Exec.restartsIff_stDw14 p.bus _ _ s hfault
    · cases hexec
      exact Exec.restartsIff_syscall10 p.bus _ s hfault

instance busContract_romBus (rom : Nat → HalfWord) : BusContract (romBus rom) where
  get8 _ := ⟨⟨fun _ _ => rfl, fun _ _ => rfl⟩, fun _ => rfl⟩
  get16 _ := ⟨⟨fun _ _ => rfl, fun _ _ => rfl⟩, fun _ => rfl⟩
  get32 _ := ⟨⟨fun _ _ => rfl, fun _ _ => rfl⟩, fun _ => rfl⟩
  put8 _ _ := ⟨fun _ _ => rfl, fun _ _ => rfl⟩
  put16 _ _ := ⟨fun _ _ => rfl, fun _ _ => rfl⟩
  put32 _ _ := ⟨fun _ _ => rfl, fun _ _ => rfl⟩
  store _ _ _ _ h := by cases h

/-- `NOT1 0, 0[r0]`. -/
def notCode : OpCode
  | 0 => 0x47C0
  | _ => 0

/-- `NOT1` on memory that cannot be written. -/
theorem restarts_iff_not1 :
    Frozen resetState ((Exec.opExecNot18 (romPlatform []).bus
        (opDecoder notCode .format8 .bss).type8).run resetState).2 ↔
      Restarts (romPlatform []) .not1_8 (opDecoder notCode .format8 .bss) resetState :=
  have hparse : opParse notCode .bss =
      some (⟨.not1_8, .format8⟩, opDecoder notCode .format8 .bss) := rfl
  have hexec : opExecTable (romPlatform []) .not1_8 =
      some fun d => Exec.opExecNot18 (romPlatform []).bus d.type8 := rfl
  have : BusContract (romPlatform []).bus := busContract_romBus _
  restarts_iff hparse hexec (Or.inl rfl)

/-- `NOT1` has set the flag before its store fails. -/
theorem not_restarts :
    ¬ ∀ (p : Platform Unit), BusContract p.bus → ∀ (code : OpCode) (d : OpDecodedCode)
      (parsed : OperationCode × OpDecodedCode) (executor : OpDecodedCode → Exec Unit Unit)
      (s : CpuState Unit),
      opParse code d = some parsed → opExecTable p parsed.1.codeId = some executor →
      Faults (executor parsed.2) s → Frozen s ((executor parsed.2).run s).2 := by
  intro hall
  have hnot1 := hall (romPlatform []) (busContract_romBus _) notCode .bss
    (⟨.not1_8, .format8⟩, _) _ resetState rfl rfl (Or.inl rfl)
  exact absurd (hnot1.sys .psw (by decide)) (by decide)

end Athrill
