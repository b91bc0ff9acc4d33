import Athrill.Cpu.Run

/-!
# User mode

What an instruction may do while `PSW.UM` is set, and which instructions keep
to it.  The executors of `EIRET`, `FERET`, `RETI` and `HALT` do not look at the
mode, `LDSR` to `PSW` can set user-writable bits and not clear them, and
`SYSCALL` clears `UM` before it reads the address of the handler.

* `UserContract`: the contract of one instruction.
* `PrivilegeDefect`: the instructions that break it.
* `userStep_of_reachable`: every other step in user mode keeps the contract, in
  every run.
-/

namespace Athrill

open TargetCore Routine Bits

variable {D : Type}

/-! ## The contract -/

/-- The instructions that enter a software exception. -/
def entersException : OpCodeId → Bool
  | .trap_10 | .fetrap_1 | .syscall_10 => true
  | _ => false

/-- `MCTL.UIC`. -/
def mctlUic (cpu : TargetCore) : Bool :=
  (cpu.getSysreg2 .mctl).getLsbD 0

/-- The bits of `PSW` that the instruction may change in user mode. -/
def userPswBits (codeId : OpCodeId) (cpu : TargetCore) : Word :=
  if (codeId = .di_10 ∨ codeId = .ei_10) ∧ mctlUic cpu = true then setBit pswUmMask pswID
  else pswUmMask

/-- `LDSR` with `PSW` as its target. -/
def LdsrToPsw (call : Call D) : Prop :=
  call.codeId = .ldsr_9 ∧ call.decodedCode.type9.rfu2.toNat = 0 ∧
    call.decodedCode.type9.reg2.toNat = 5

/-- The general register that `LDSR` reads. -/
def ldsrData (call : Call D) : Word :=
  if h : call.decodedCode.type9.gen.toNat < 32 then call.state.cpu.r ⟨_, h⟩ else 0

/-- The instructions that are denied in user mode. -/
def IsPrivileged (call : Call D) : Prop :=
  match call.codeId with
  | .eiret_10 | .feret_10 | .reti_10 | .halt_10 => True
  | .di_10 | .ei_10 => mctlUic call.state.cpu = false
  | .ldsr_9 => ¬ LdsrToPsw call
  | _ => False

/-- The core after the register writes of `SYSCALL`. -/
def syscallState (call : Call D) : CpuState D :=
  { call.state with
    cpu := syscallEntry (syscallVector call.decodedCode.type10) call.state.cpu }

/-- The word of the table that `SYSCALL` reads. -/
def syscallRead (p : Platform D) (call : Call D) : Option Word × BusView D :=
  p.bus.getData32 (syscallState call)
    (syscallTableAddr (syscallVector call.decodedCode.type10) call.state.cpu)

/-- The address of the handler of a software exception. -/
def HandlerAddress (p : Platform D) (call : Call D) (addr : Word) : Prop :=
  match call.codeId with
  | .trap_10 => addr = if call.decodedCode.type10.gen2 ≤ 0x0F#32 then 0x40 else 0x50
  | .fetrap_1 => addr = 0x30
  | .syscall_10 =>
    ∃ word, (syscallRead p call).1 = some word ∧
      addr = call.state.cpu.getSysreg2 .scbp + word
  | _ => False

/-- The flag of the privileged-instruction exception. -/
def flagPie (s : CpuState D) : CpuState D :=
  { s with cpu := { s.cpu with currentCodeException := ⟨true, some .pie⟩ } }

/-- What an instruction does in user mode. -/
structure UserContract (p : Platform D) (call : Call D) : Prop where
  /-- User mode is left for the handler of an exception alone. -/
  leave : call.result.2.cpu.issetUM = false → HandlerAddress p call call.result.2.cpu.pc
  psw : entersException call.codeId = false →
    call.result.2.cpu.issetUM = true ∧
      AgreeOff (userPswBits call.codeId call.state.cpu) call.state.cpu.psw call.result.2.cpu.psw
  saved : entersException call.codeId = false →
    ∀ id ∈ [SysReg.eipc, .eipsw, .fepc, .fepsw],
      call.result.2.cpu.getSysreg2 id = call.state.cpu.getSysreg2 id
  mpu : entersException call.codeId = false → SameMpu call.state.cpu call.result.2.cpu
  ldsrPsw : LdsrToPsw call →
    call.result.2.cpu.psw =
      (call.state.cpu.psw &&& ~~~ pswUmMask) ||| (ldsrData call &&& pswUmMask)
  denied : IsPrivileged call → call.result.2 = flagPie call.state

/-- The instructions that break the contract in user mode. -/
def PrivilegeDefect (p : Platform D) (call : Call D) : Prop :=
  match call.codeId with
  | .eiret_10 | .feret_10 | .reti_10 | .halt_10 => True
  | .ldsr_9 =>
    LdsrToPsw call ∧ call.state.cpu.psw &&& pswUmMask &&& ~~~ ldsrData call ≠ 0#32
  | .syscall_10 => (syscallRead p call).1 = none
  | _ => False

/-! ## Building the contract -/

theorem userPswBits_um (codeId : OpCodeId) (cpu : TargetCore) :
    (userPswBits codeId cpu).getLsbD pswUM = false := by
  unfold userPswBits
  split_ifs
  · decide
  · decide

theorem issetUM_of_agreeOff {codeId : OpCodeId} {cpu cpu' : TargetCore}
    (hum : cpu.issetUM = true) (h : AgreeOff (userPswBits codeId cpu) cpu.psw cpu'.psw) :
    cpu'.issetUM = true := by
  have hbit := h pswUM (userPswBits_um codeId cpu)
  unfold issetUM issetPsw at hum ⊢
  rw [hbit]
  exact hum

/-- The contract of an instruction that enters no exception. -/
theorem UserContract.of_kept {p : Platform D} {call : Call D}
    (hum : call.state.cpu.issetUM = true)
    (hpsw : AgreeOff (userPswBits call.codeId call.state.cpu) call.state.cpu.psw
      call.result.2.cpu.psw)
    (hsaved : ∀ id ∈ [SysReg.eipc, .eipsw, .fepc, .fepsw],
      call.result.2.cpu.getSysreg2 id = call.state.cpu.getSysreg2 id)
    (hmpu : SameMpu call.state.cpu call.result.2.cpu)
    (hldsr : LdsrToPsw call → call.result.2.cpu.psw =
      (call.state.cpu.psw &&& ~~~ pswUmMask) ||| (ldsrData call &&& pswUmMask))
    (hdenied : IsPrivileged call → call.result.2 = flagPie call.state) :
    UserContract p call := by
  have hum' := issetUM_of_agreeOff hum hpsw
  refine ⟨fun hleft => ?_, fun _ => ⟨hum', hpsw⟩, fun _ => hsaved, fun _ => hmpu, hldsr, hdenied⟩
  rw [hum'] at hleft
  cases hleft

/-- The contract of a denied instruction. -/
theorem UserContract.of_flagPie {p : Platform D} {call : Call D}
    (hum : call.state.cpu.issetUM = true) (hpie : call.result.2 = flagPie call.state)
    (hldsr : ¬ LdsrToPsw call) : UserContract p call := by
  refine .of_kept hum ?_ ?_ ?_ (fun h => absurd h hldsr) fun _ => hpie
  · rw [hpie]
    exact AgreeOff.refl _ _
  · rw [hpie]
    exact fun _ _ => rfl
  · rw [hpie]
    exact .of_eq rfl rfl rfl

/-- The contract of a software exception. -/
theorem UserContract.of_handler {p : Platform D} {call : Call D}
    (henters : entersException call.codeId = true)
    (haddr : call.result.2.cpu.issetUM = false → HandlerAddress p call call.result.2.cpu.pc) :
    UserContract p call := by
  have hnot : entersException call.codeId = false → False := by
    rw [henters]
    nofun
  refine ⟨haddr, fun h => (hnot h).elim, fun h => (hnot h).elim, fun h => (hnot h).elim,
    fun hldsr => ?_, fun hpriv => ?_⟩
  · rw [hldsr.1] at henters
    cases henters
  · unfold IsPrivileged at hpriv
    split at hpriv <;> simp_all [entersException]

/-! ## Ordinary instructions -/

theorem agreeOff_userPswBits {codeId : OpCodeId} {cpu cpu' : TargetCore}
    (h : AgreeOff pswUmMask cpu.psw cpu'.psw) :
    AgreeOff (userPswBits codeId cpu) cpu.psw cpu'.psw := by
  intro i hi
  refine h i ?_
  unfold userPswBits at hi
  split_ifs at hi
  · rw [getLsbD_setBit, Bool.or_eq_false_iff] at hi
    exact hi.1
  · exact hi

/-- An instruction without privilege keeps the contract. -/
theorem userContract_of_ordinary {p : Platform D} {call : Call D}
    (hum : call.state.cpu.issetUM = true) (hpriv : privileged call.codeId = false)
    (htable : opExecTable p call.codeId = some call.executor) : UserContract p call := by
  have hstep : OrdinaryStep call.state call.result.2 :=
    (keeps_opExecTable hpriv htable call.decodedCode).keeps call.state
  have hfpu : ∀ id ∈ [SysReg.eipc, .eipsw, .fepc, .fepsw], id ≠ .psw ∧ id ∉ fpuStatusRegs := by
    decide
  have hnot (codeId : OpCodeId) (hcode : privileged codeId = true) : call.codeId ≠ codeId := by
    rintro rfl
    rw [hpriv] at hcode
    cases hcode
  refine .of_kept hum (agreeOff_userPswBits hstep.psw) ?_ hstep.mpuStep ?_ ?_
  · intro id hid
    exact hstep.sys id (hfpu id hid).1 (hfpu id hid).2
  · intro hldsr
    exact absurd hldsr.1 (hnot .ldsr_9 rfl)
  · intro hdenied
    unfold IsPrivileged at hdenied
    split at hdenied
    all_goals first | exact hdenied.elim | (rename_i hcode; exact absurd hcode (hnot _ rfl))

/-! ## LDSR -/

theorem sysRegAccessHasPermission_user {cpu : TargetCore} (hum : cpu.issetUM = true)
    (regid selid : Nat) :
    sysRegAccessHasPermission cpu regid selid = decide (selid = 0 ∧ regid = 5) := by
  unfold sysRegAccessHasPermission
  rw [hum, Bool.not_true, Bool.or_false]

/-- `LDSR` to another register than `PSW`. -/
theorem result_ldsr_denied {call : Call D} (hum : call.state.cpu.issetUM = true)
    (hcode : call.codeId = .ldsr_9) (hexec : call.executor = fun d => Exec.opExecLdsr d.type9)
    (hrecord : RecordFormed call.decodedCode) (hother : ¬ LdsrToPsw call) :
    call.result.2 = flagPie call.state := by
  have hdenied : sysRegAccessHasPermission call.state.cpu call.decodedCode.type9.reg2.toNat
      call.decodedCode.type9.rfu2.toNat = false := by
    rw [sysRegAccessHasPermission_user hum]
    exact decide_eq_false fun h => hother ⟨hcode, h⟩
  unfold Call.result
  rw [hexec]
  have hrun := Exec.run_opExecLdsr_denied call.state hrecord.gen9 hrecord.reg9 hdenied
  exact congrArg Prod.snd hrun

/-- `LDSR` to `PSW` or-s the flags of the register into `PSW`. -/
theorem result_ldsr_psw {call : Call D} (hum : call.state.cpu.issetUM = true)
    (hexec : call.executor = fun d => Exec.opExecLdsr d.type9)
    (hrecord : RecordFormed call.decodedCode) (hpsw : LdsrToPsw call) :
    call.result.2 =
      { call.state with
        cpu :=
          { call.state.cpu.setSysreg2 .psw
              (call.state.cpu.psw ||| (ldsrData call &&& pswUmMask)) with
            pc := call.state.cpu.pc + 4 } } := by
  obtain ⟨_, hsel, hreg⟩ := hpsw
  have hgranted : sysRegAccessHasPermission call.state.cpu SysReg.psw.regid.val
      SysReg.psw.selid.val = true := by
    rw [sysRegAccessHasPermission_user hum]
    decide
  have hrun := Exec.run_opExecLdsr call.state .psw hrecord.gen9 hreg hsel hgranted
  have hdata : ldsrData call = call.state.cpu.r ⟨_, hrecord.gen9⟩ := dif_pos hrecord.gen9
  have hwrite (data : Word) : ldsrWrite .psw data call.state.cpu =
      call.state.cpu.setSysreg2 .psw (call.state.cpu.psw ||| (data &&& pswUmMask)) := by
    unfold ldsrWrite
    rw [if_neg (by decide), if_pos rfl, if_pos hum]
  unfold Call.result
  rw [hexec, hdata]
  refine (congrArg Prod.snd hrun).trans ?_
  dsimp only
  rw [hwrite]
  rfl

theorem agreeOff_or {mask x data : Word} : AgreeOff mask x (x ||| (data &&& mask)) := by
  intro i hi
  rw [BitVec.getLsbD_or, BitVec.getLsbD_and, hi, Bool.and_false, Bool.or_false]

/-- `LDSR` keeps the contract when no flag of `PSW` would have to be cleared. -/
theorem userContract_ldsr {p : Platform D} {call : Call D}
    (hum : call.state.cpu.issetUM = true) (hcode : call.codeId = .ldsr_9)
    (hexec : call.executor = fun d => Exec.opExecLdsr d.type9)
    (hrecord : RecordFormed call.decodedCode)
    (hflags : LdsrToPsw call →
      call.state.cpu.psw &&& pswUmMask &&& ~~~ ldsrData call = 0#32) :
    UserContract p call := by
  by_cases hpsw : LdsrToPsw call
  · have hresult := result_ldsr_psw hum hexec hrecord hpsw
    have hwritten : call.result.2.cpu.psw =
        call.state.cpu.psw ||| (ldsrData call &&& pswUmMask) := by
      rw [hresult]
      exact getSysreg2_setSysreg2 call.state.cpu .psw _
    refine .of_kept hum ?_ ?_ ?_ ?_ ?_
    · have hagree : AgreeOff pswUmMask call.state.cpu.psw call.result.2.cpu.psw := by
        rw [hwritten]
        exact agreeOff_or
      exact agreeOff_userPswBits hagree
    · intro id hid
      have hne : id ≠ .psw := by
        revert id
        decide
      rw [hresult]
      exact getSysreg2_setSysreg2_of_ne _ _ hne
    · rw [hresult]
      exact (sameMpu_setSysreg2 (by decide) _ _).trans (.of_eq rfl rfl rfl)
    · intro _
      rw [hwritten]
      exact (or_eq_replace_iff _ _ _).mpr (hflags hpsw)
    · intro hdenied
      unfold IsPrivileged at hdenied
      rw [hcode] at hdenied
      exact absurd hpsw hdenied
  · exact .of_flagPie hum (result_ldsr_denied hum hcode hexec hrecord hpsw) hpsw

/-! ## DI and EI -/

theorem agreeOff_putId {codeId : OpCodeId} {cpu : TargetCore}
    (hcode : codeId = .di_10 ∨ codeId = .ei_10) (huic : mctlUic cpu = true) (x : Word) :
    AgreeOff (userPswBits codeId cpu) x (setBit x pswID) ∧
      AgreeOff (userPswBits codeId cpu) x (clearBit x pswID) := by
  have hbit : (userPswBits codeId cpu).getLsbD pswID = true := by
    unfold userPswBits
    rw [if_pos ⟨hcode, huic⟩]
    decide
  exact ⟨agreeOff_setBit hbit, agreeOff_clearBit hbit⟩

/-- `DI` and `EI` check the mode. -/
theorem userContract_diei {p : Platform D} {call : Call D}
    (hum : call.state.cpu.issetUM = true)
    (hcode : call.codeId = .di_10 ∨ call.codeId = .ei_10)
    (hexec : call.executor = fun d => Exec.opExecDiei d.type10) : UserContract p call := by
  have hnot : ¬ LdsrToPsw call := by
    intro h
    rcases hcode with hdi | hei
    · exact absurd (hdi.symm.trans h.1) (by decide)
    · exact absurd (hei.symm.trans h.1) (by decide)
  have hrun := Exec.run_opExecDiei call.state call.decodedCode.type10
  have hresult : call.result = (Exec.opExecDiei call.decodedCode.type10).run call.state := by
    unfold Call.result
    rw [hexec]
  cases huic : mctlUic call.state.cpu with
  | false =>
    have hdenied : (!(call.state.cpu.getSysreg2 .mctl).getLsbD 0 &&
        call.state.cpu.issetUM) = true := by
      rw [hum, Bool.and_true, Bool.not_eq_true']
      exact huic
    rw [if_pos hdenied] at hrun
    refine .of_flagPie hum ?_ hnot
    rw [hresult, hrun]
    rfl
  | true =>
    have hallowed : ¬ (!(call.state.cpu.getSysreg2 .mctl).getLsbD 0 &&
        call.state.cpu.issetUM) = true := by
      rw [hum, Bool.and_true, Bool.not_eq_true']
      intro hclear
      have hset : (call.state.cpu.getSysreg2 .mctl).getLsbD 0 = true := huic
      rw [hset] at hclear
      cases hclear
    rw [if_neg hallowed] at hrun
    obtain ⟨hset, hclear⟩ := agreeOff_putId hcode huic call.state.cpu.psw
    have hpriv : ¬ IsPrivileged call := by
      unfold IsPrivileged
      rcases hcode with hdi | hei
      · rw [hdi]
        simp [huic]
      · rw [hei]
        simp [huic]
    have hne : ∀ id ∈ [SysReg.eipc, .eipsw, .fepc, .fepsw], id ≠ .psw := by decide
    by_cases hgen : call.decodedCode.type10.gen1 = 0x04
    · rw [if_pos hgen] at hrun
      refine .of_kept hum ?_ ?_ ?_ (fun h => absurd h hnot) fun h => absurd h hpriv
      · rw [hresult, hrun]
        show AgreeOff _ _ (call.state.cpu.clrPsw pswID).psw
        rw [psw_clrPsw]
        exact hclear
      · intro id hid
        rw [hresult, hrun]
        exact getSysreg2_setSysreg2_of_ne _ _ (hne id hid)
      · rw [hresult, hrun]
        exact (sameUnits_clrPsw pswID _).toSameMpu.trans (.of_eq rfl rfl rfl)
    · rw [if_neg hgen] at hrun
      refine .of_kept hum ?_ ?_ ?_ (fun h => absurd h hnot) fun h => absurd h hpriv
      · rw [hresult, hrun]
        show AgreeOff _ _ (call.state.cpu.setPsw pswID).psw
        rw [psw_setPsw]
        exact hset
      · intro id hid
        rw [hresult, hrun]
        exact getSysreg2_setSysreg2_of_ne _ _ (hne id hid)
      · rw [hresult, hrun]
        exact (sameUnits_setPsw pswID _).toSameMpu.trans (.of_eq rfl rfl rfl)

/-! ## Software exceptions -/

theorem userContract_trap {p : Platform D} {call : Call D} (hcode : call.codeId = .trap_10)
    (hexec : call.executor = fun d => Exec.opExecTrap d.type10)
    (hrecord : RecordFormed call.decodedCode) : UserContract p call := by
  have henters : entersException call.codeId = true := by
    rw [hcode]
    rfl
  refine .of_handler henters fun _ => ?_
  have hvector : call.decodedCode.type10.gen2 ≤ 0x1F#32 := by
    have := hrecord.gen10
    rw [BitVec.le_def]
    show call.decodedCode.type10.gen2.toNat ≤ 31
    omega
  unfold HandlerAddress Call.result
  rw [hcode, hexec]
  show (trapEntry call.decodedCode.type10.gen2 call.state.cpu).pc = _
  unfold trapEntry
  rw [if_pos hvector]

theorem userContract_fetrap {p : Platform D} {call : Call D} (hcode : call.codeId = .fetrap_1)
    (hexec : call.executor = fun d => Exec.opExecFetrap1 d.type1) : UserContract p call := by
  have henters : entersException call.codeId = true := by
    rw [hcode]
    rfl
  refine .of_handler henters fun _ => ?_
  unfold HandlerAddress Call.result
  rw [hcode, hexec]
  rfl

/-- `SYSCALL` goes to the handler when the word of the table can be read. -/
theorem userContract_syscall {p : Platform D} {call : Call D}
    (hcode : call.codeId = .syscall_10)
    (hexec : call.executor = fun d => Exec.opExecSyscall10 p.bus d.type10)
    (hread : (syscallRead p call).1 ≠ none) : UserContract p call := by
  have henters : entersException call.codeId = true := by
    rw [hcode]
    rfl
  refine .of_handler henters fun _ => ?_
  obtain ⟨word, hword⟩ := Option.ne_none_iff_exists'.mp hread
  have hrun := Exec.run_opExecSyscall10 call.state p.bus call.decodedCode.type10
  have hpair : p.bus.getData32 (syscallState call)
      (syscallTableAddr (syscallVector call.decodedCode.type10) call.state.cpu) =
        (some word, (syscallRead p call).2) := Prod.ext hword rfl
  unfold syscallState at hpair
  dsimp only at hrun
  rw [hpair] at hrun
  unfold HandlerAddress Call.result
  rw [hcode, hexec]
  refine ⟨word, hword, ?_⟩
  rw [hrun]

/-! ## Every instruction -/

/-- In user mode, an instruction that is not one of the defective ones keeps
the contract. -/
theorem userContract_of_not_defect {p : Platform D} {call : Call D}
    (hum : call.state.cpu.issetUM = true)
    (htable : opExecTable p call.codeId = some call.executor)
    (hrecord : RecordFormed call.decodedCode) (hok : ¬ PrivilegeDefect p call) :
    UserContract p call := by
  cases hpriv : privileged call.codeId with
  | false => exact userContract_of_ordinary hum hpriv htable
  | true =>
    have hexec {executor : OpDecodedCode → Exec D Unit} {codeId : OpCodeId}
        (hcode : call.codeId = codeId) (hentry : opExecTable p codeId = some executor) :
        call.executor = executor := by
      rw [hcode, hentry] at htable
      exact (Option.some.inj htable).symm
    unfold PrivilegeDefect at hok
    rcases privileged_cases hpriv with h | h | h | h | h | h | h | h | h
    · refine userContract_ldsr hum h (hexec h rfl) hrecord fun hpsw => ?_
      rw [h] at hok
      by_contra hflags
      exact hok ⟨hpsw, hflags⟩
    · rcases h with hdi | hei
      · exact userContract_diei hum (Or.inl hdi) (hexec hdi rfl)
      · exact userContract_diei hum (Or.inr hei) (hexec hei rfl)
    · rw [h] at hok
      exact absurd trivial hok
    · rw [h] at hok
      exact absurd trivial hok
    · rw [h] at hok
      exact absurd trivial hok
    · exact userContract_trap h (hexec h rfl) hrecord
    · exact userContract_fetrap h (hexec h rfl)
    · rw [h] at hok
      exact userContract_syscall h (hexec h rfl) hok
    · rw [h] at hok
      exact absurd trivial hok

/-! ## The defects -/

theorem currentCodeException_intcClrFe (coreId : CoreId) (s : CpuIntc) :
    (intcClrFe coreId s).cpu.currentCodeException = s.cpu.currentCodeException := by
  unfold intcClrFe
  split <;> rfl

theorem currentCodeException_intcClrEi (coreId : CoreId) (s : CpuIntc) :
    (intcClrEi coreId s).cpu.currentCodeException = s.cpu.currentCodeException := by
  unfold intcClrEi
  split
  · rfl
  · dsimp only
    split_ifs
    · unfold intcSetCurrentUserIntrPriorityDegree
      dsimp only
      split_ifs <;> rfl
    · rfl

/-- The returns and `HALT` flag nothing. -/
theorem currentCodeException_unchecked {p : Platform D} {call : Call D}
    (htable : opExecTable p call.codeId = some call.executor)
    (hcode : call.codeId = .eiret_10 ∨ call.codeId = .feret_10 ∨ call.codeId = .reti_10 ∨
      call.codeId = .halt_10) :
    call.result.2.cpu.currentCodeException = call.state.cpu.currentCodeException := by
  have hei (s : CpuState D) : ((Exec.opExecEiret10 : Exec D Unit).run s).2.cpu.currentCodeException =
      s.cpu.currentCodeException :=
    currentCodeException_intcClrEi _ ⟨restoreEi s.cpu, s.intc⟩
  have hfe (s : CpuState D) : ((Exec.opExecFeret10 : Exec D Unit).run s).2.cpu.currentCodeException =
      s.cpu.currentCodeException :=
    currentCodeException_intcClrFe _ ⟨restoreFe s.cpu, s.intc⟩
  unfold Call.result
  rcases hcode with h | h | h | h
  · rw [h] at htable
    rw [← Option.some.inj htable]
    exact hei call.state
  · rw [h] at htable
    rw [← Option.some.inj htable]
    exact hfe call.state
  · rw [h] at htable
    rw [← Option.some.inj htable, Exec.run_opExecReti]
    split_ifs
    · exact hfe call.state
    · exact hei call.state
  · rw [h] at htable
    rw [← Option.some.inj htable]
    rfl

theorem issetUM_syscallEntry (vector8 : Word) (cpu : TargetCore) :
    (syscallEntry vector8 cpu).issetUM = false := by
  unfold syscallEntry issetUM issetPsw
  dsimp only
  simp [pswUM, pswEP, pswID]

/-- `SYSCALL` leaves user mode although it has not read the handler's address. -/
theorem not_userContract_syscall {p : Platform D} {call : Call D}
    (hcode : call.codeId = .syscall_10)
    (hexec : call.executor = fun d => Exec.opExecSyscall10 p.bus d.type10)
    (hread : (syscallRead p call).1 = none) : ¬ UserContract p call := by
  intro hcontract
  have hrun := Exec.run_opExecSyscall10 call.state p.bus call.decodedCode.type10
  have hpair : p.bus.getData32 (syscallState call)
      (syscallTableAddr (syscallVector call.decodedCode.type10) call.state.cpu) =
        (none, (syscallRead p call).2) := Prod.ext hread rfl
  unfold syscallState at hpair
  dsimp only at hrun
  rw [hpair] at hrun
  have hpsw : call.result.2.cpu.sys =
      (syscallEntry (syscallVector call.decodedCode.type10) call.state.cpu).sys := by
    unfold Call.result
    rw [hexec, hrun]
    rfl
  have hum : call.result.2.cpu.issetUM = false := by
    rw [← issetUM_syscallEntry (syscallVector call.decodedCode.type10) call.state.cpu]
    unfold issetUM issetPsw TargetCore.psw getSysreg2
    rw [hpsw]
  have haddr := hcontract.leave hum
  unfold HandlerAddress at haddr
  rw [hcode] at haddr
  obtain ⟨word, hword, _⟩ := haddr
  rw [hread] at hword
  cases hword

/-- A defective instruction breaks the contract, when no exception has been
flagged before. -/
theorem not_userContract_of_defect {p : Platform D} {call : Call D}
    (hum : call.state.cpu.issetUM = true)
    (htable : opExecTable p call.codeId = some call.executor)
    (hrecord : RecordFormed call.decodedCode)
    (hflag : call.state.cpu.currentCodeException.isCodeException = false)
    (hdefect : PrivilegeDefect p call) : ¬ UserContract p call := by
  intro hcontract
  have hunchecked (hcode : call.codeId = .eiret_10 ∨ call.codeId = .feret_10 ∨
      call.codeId = .reti_10 ∨ call.codeId = .halt_10) (hpriv : IsPrivileged call) : False := by
    have hkept := currentCodeException_unchecked htable hcode
    rw [hcontract.denied hpriv] at hkept
    rw [← hkept] at hflag
    cases hflag
  unfold PrivilegeDefect at hdefect
  unfold IsPrivileged at hunchecked
  split at hdefect
  · rename_i hcode
    rw [hcode] at hunchecked
    exact hunchecked (by decide) trivial
  · rename_i hcode
    rw [hcode] at hunchecked
    exact hunchecked (by decide) trivial
  · rename_i hcode
    rw [hcode] at hunchecked
    exact hunchecked (by decide) trivial
  · rename_i hcode
    rw [hcode] at hunchecked
    exact hunchecked (by decide) trivial
  · rename_i hcode
    obtain ⟨hpsw, hflags⟩ := hdefect
    rw [hcode] at htable
    have hresult := result_ldsr_psw hum (Option.some.inj htable).symm hrecord hpsw
    have hreplaced := hcontract.ldsrPsw hpsw
    rw [hresult] at hreplaced
    refine hflags ((or_eq_replace_iff _ _ _).mp ?_)
    rw [← hreplaced]
    exact (getSysreg2_setSysreg2 call.state.cpu .psw _).symm
  · rename_i hcode
    rw [hcode] at htable
    exact not_userContract_syscall hcode (Option.some.inj htable).symm hdefect hcontract
  · exact hdefect

/-! ## Runs -/

/-- A clock in user mode: the instruction keeps the contract, and the clock
itself writes general registers and flags. -/
structure UserStep (p : Platform D) (cached : Word → Bool) (s : ClockState D) : Prop where
  idle : called p cached s = none → Aside s.toCpuState (cpuSupplyClock p cached s).2.toCpuState
  before : ∀ call, called p cached s = some call → Aside s.toCpuState call.state
  contract : ∀ call, called p cached s = some call → UserContract p call
  after : ∀ call, called p cached s = some call →
    Aside call.result.2 (cpuSupplyClock p cached s).2.toCpuState

/-- In every run from reset, each clock in user mode keeps the contract unless
its instruction is defective; and a defective instruction breaks it, when no
exception has been flagged before. -/
theorem userStep_of_reachable {p : Platform D} {m : Machine D} (h : (machine p).Reachable m)
    (c : CoreId) (cached : Word → Bool) (hum : (m.cores c).issetUM = true) :
    ((∀ call, called p cached (m.clockState c) = some call → ¬ PrivilegeDefect p call) →
      UserStep p cached (m.clockState c)) ∧
    (∀ call, called p cached (m.clockState c) = some call →
      call.state.cpu.currentCodeException.isCodeException = false →
        UserContract p call → ¬ PrivilegeDefect p call) := by
  have hout := cpuSupplyClock_outcome cached ((wellFormed_of_reachable h).cache c)
  have humCall (call : Call D) (hcall : called p cached (m.clockState c) = some call) :
      call.state.cpu.issetUM = true := by
    have hpsw := (hout.before call hcall).psw
    unfold issetUM issetPsw at hum ⊢
    rw [hpsw]
    exact hum
  constructor
  · intro hok
    refine ⟨hout.idle, hout.before, fun call hcall => ?_, hout.after⟩
    exact userContract_of_not_defect (humCall call hcall) (hout.table call hcall)
      (hout.record call hcall) (hok call hcall)
  · intro call hcall hflag hcontract hdefect
    exact not_userContract_of_defect (humCall call hcall) (hout.table call hcall)
      (hout.record call hcall) hflag hdefect hcontract

/-! ## A program that elevates itself -/

/-- `UM` is set, then `EIRET` is executed in user mode. -/
def elevateProgram : List HalfWord :=
  -- MOVHI 0x4000, r0, r1; LDSR r1, PSW; EIRET
  [0x0E40, 0x4000, 0x2FE1, 0x0020, 0x07E0, 0x0148]

/-- The state before `EIRET`. -/
def elevateMachine : Machine Unit :=
  (Machine.reset ()).clocks (romPlatform elevateProgram) 0 (fun _ => false) 2

theorem reachable_elevateMachine :
    (machine (romPlatform elevateProgram)).Reachable elevateMachine :=
  reachable_clocks (reachable_reset _ ()) (by decide +kernel)

theorem issetUM_elevateMachine : (elevateMachine.cores 0).issetUM = true := by
  decide +kernel

/-- The contract and the condition for `EIRET` in user mode. -/
theorem userStep_of_reachable_elevate :
    ((∀ call, called (romPlatform elevateProgram) (fun _ => false) (elevateMachine.clockState 0) =
        some call → ¬ PrivilegeDefect (romPlatform elevateProgram) call) →
      UserStep (romPlatform elevateProgram) (fun _ => false) (elevateMachine.clockState 0)) ∧
    (∀ call, called (romPlatform elevateProgram) (fun _ => false) (elevateMachine.clockState 0) =
        some call → call.state.cpu.currentCodeException.isCodeException = false →
          UserContract (romPlatform elevateProgram) call →
            ¬ PrivilegeDefect (romPlatform elevateProgram) call) :=
  userStep_of_reachable reachable_elevateMachine 0 (fun _ => false) issetUM_elevateMachine

/-- A program in user mode reaches supervisor mode by `EIRET`, without an
exception. -/
theorem eiret_leaves_user_mode :
    (machine (romPlatform elevateProgram)).Reachable elevateMachine ∧
      (elevateMachine.cores 0).issetUM = true ∧
      ¬ UserStep (romPlatform elevateProgram) (fun _ => false) (elevateMachine.clockState 0) := by
  refine ⟨reachable_elevateMachine, issetUM_elevateMachine, fun hstep => ?_⟩
  have hcall : (called (romPlatform elevateProgram) (fun _ => false)
      (elevateMachine.clockState 0)).map (fun call => (call.codeId, call.result.2.cpu.issetUM)) =
        some (.eiret_10, false) := by
    decide +kernel
  obtain ⟨call, hcalled, hpair⟩ := Option.map_eq_some_iff.mp hcall
  have hcode : call.codeId = .eiret_10 := congrArg Prod.fst hpair
  have haddr := (hstep.contract call hcalled).leave (congrArg Prod.snd hpair)
  unfold HandlerAddress at haddr
  rw [hcode] at haddr
  exact haddr

end Athrill
