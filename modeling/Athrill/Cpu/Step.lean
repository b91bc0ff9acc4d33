import Athrill.Cpu.Clock

/-!
# What one clock does

A clock calls at most one executor.  Around the call it writes the clock count,
the general registers, the error information and the flagged exception of the
core, and its cache; everything else is the work of the executor.

* `Call`: the call of an executor.
* `called`: the call that a clock makes.
* `cpuSupplyClock_of_called`, `cpuSupplyClock_of_not_called`: the two ways a
  clock goes.
* `CacheFormed`: what holds of the instruction cache.
-/

namespace Athrill

open TargetCore Routine

variable {D : Type}

/-! ## What the clock writes itself -/

/-- The state is changed at most in the clock count, the general registers, the
error information and the flagged exception of the core. -/
def Aside (s s' : CpuState D) : Prop :=
  ∃ elaps r info exc, s' = { s with
    cpu := { s.cpu with
      realElaps := elaps
      r := r
      mpu := { s.cpu.mpu with exceptionErrorInfo := info }
      currentCodeException := exc } }

namespace Aside

variable {s s' s'' : CpuState D}

theorem refl (s : CpuState D) : Aside s s :=
  ⟨_, _, _, _, rfl⟩

theorem trans (h : Aside s s') (h' : Aside s' s'') : Aside s s'' := by
  obtain ⟨elaps, r, info, exc, rfl⟩ := h
  obtain ⟨elaps', r', info', exc', rfl⟩ := h'
  exact ⟨elaps', r', info', exc', rfl⟩

theorem sys (h : Aside s s') : s'.cpu.sys = s.cpu.sys := by
  obtain ⟨_, _, _, _, rfl⟩ := h
  rfl

theorem psw (h : Aside s s') : s'.cpu.psw = s.cpu.psw := by
  obtain ⟨_, _, _, _, rfl⟩ := h
  rfl

theorem pc (h : Aside s s') : s'.cpu.pc = s.cpu.pc := by
  obtain ⟨_, _, _, _, rfl⟩ := h
  rfl

theorem intc (h : Aside s s') : s'.intc = s.intc := by
  obtain ⟨_, _, _, _, rfl⟩ := h
  rfl

theorem ordinaryStep (h : Aside s s') : OrdinaryStep s s' := by
  obtain ⟨_, _, info, _, rfl⟩ := h
  exact ⟨fun _ _ _ => rfl, Bits.AgreeOff.refl _ _, ⟨info, rfl⟩, rfl, rfl⟩

end Aside

theorem aside_clearR0 (s : ClockState D) :
    Aside s.toCpuState (s.modifyCpu clearR0).toCpuState :=
  ⟨s.cpu.realElaps, (clearR0 s.cpu).r, s.cpu.mpu.exceptionErrorInfo,
    s.cpu.currentCodeException, rfl⟩

theorem aside_flagViolation (codeId : OpCodeId) (exno : ExceptionId) (s : ClockState D) :
    Aside s.toCpuState (s.modifyCpu (flagViolation codeId exno)).toCpuState :=
  ⟨s.cpu.realElaps, s.cpu.r, (flagViolation codeId exno s.cpu).mpu.exceptionErrorInfo,
    (flagViolation codeId exno s.cpu).currentCodeException, rfl⟩

/-! ## The call of an executor -/

/-- The call of an executor: the instruction with its operands, and the state
in which the call is made. -/
structure Call (D : Type) where
  codeId : OpCodeId
  executor : OpDecodedCode → Exec D Unit
  decodedCode : OpDecodedCode
  state : CpuState D

namespace Call

/-- What the executor does. -/
def result (call : Call D) : Except Stop Unit × CpuState D :=
  (call.executor call.decodedCode).run call.state

/-- The clocks are set before the call. -/
def withClocks (call : Call D) : Call D :=
  { call with
    state :=
      { call.state with
        cpu := { call.state.cpu with realElaps := opExecClocks call.codeId } } }

end Call

/-- The call after the parser: the check grants the first bytes and the table
has an executor. -/
def calledParsed (p : Platform D) (pc : Word) (codeId : OpCodeId) (d : OpDecodedCode)
    (s : CpuState D) : Option (Call D) :=
  let permission := cpuHasPermission s.cpu .exec pc (opFormatSize d.typeId)
  if permission.1 then
    (opExecTable p codeId).map fun executor =>
      { codeId := codeId, executor := executor, decodedCode := d
        state := { s with cpu := permission.2 } }
  else none

/-- The call of `cpu_supply_clock_not_cached`. -/
def calledNotCached (p : Platform D) (cached : Bool) (s : ClockState D) : Option (Call D) :=
  (p.bus.getPointer s.toCpuState s.cpu.pc).bind fun bytes =>
    (opParse (currentCode bytes) (s.pDecodedCode cached s.cpu.pc)).bind fun parsed =>
      calledParsed p s.cpu.pc parsed.1.codeId parsed.2 s.toCpuState

/-- The call of one clock. -/
def called (p : Platform D) (cached : Word → Bool) (s : ClockState D) : Option (Call D) :=
  if s.cpu.fatalError ∨ s.cpu.isHalt then none
  else
    let s := s.modifyCpu clearR0
    if cached s.cpu.pc then
      match (s.cache s.cpu.pc).opExec with
      | none => (calledNotCached p true s).map Call.withClocks
      | some executor =>
        some (Call.withClocks
          { codeId := (s.cache s.cpu.pc).codeId, executor := executor
            decodedCode := (s.cache s.cpu.pc).decodedCode, state := s.toCpuState })
    else (calledNotCached p false s).map Call.withClocks

/-! ## The cache -/

/-- What holds of a record that only decoders have written: the format is still
that of zeroed memory, and the operands of the system instructions have five
bits. -/
structure RecordFormed (d : OpDecodedCode) : Prop where
  typeId : d.typeId = .format1
  gen9 : d.type9.gen.toNat < 32
  reg9 : d.type9.reg2.toNat < 32
  gen10 : d.type10.gen2.toNat < 32

theorem recordFormed_bss : RecordFormed OpDecodedCode.bss :=
  ⟨rfl, by decide, by decide, by decide⟩

/-- A field of five bits. -/
theorem toNat_field_lt (data : HalfWord) (shift : Nat) :
    (field data shift 0x001F).toNat < 32 := by
  unfold field
  rw [BitVec.toNat_and]
  exact Nat.and_lt_two_pow _ (by decide : (0x001F#16).toNat < 2 ^ 5)

theorem RecordFormed.opDecoder {d : OpDecodedCode} (h : RecordFormed d) (code : OpCode)
    (formatId : OpCodeFormatId) : RecordFormed (opDecoder code formatId d) := by
  obtain ⟨htype, hgen9, hreg9, hgen10⟩ := h
  have hfield32 (data : HalfWord) (shift : Nat) :
      (field32 data shift 0x001F).toNat < 32 := by
    have := toNat_field_lt data shift
    unfold field32
    rw [BitVec.toNat_setWidth]
    omega
  cases formatId with
  | format9 => exact ⟨htype, toNat_field_lt _ _, toNat_field_lt _ _, hgen10⟩
  | format10 => exact ⟨htype, hgen9, hreg9, hfield32 _ _⟩
  | _ => exact ⟨htype, hgen9, hreg9, hgen10⟩

/-- A filled slot holds the executor of its code, and all records have been
written by decoders. -/
structure CacheFormed (p : Platform D) (s : ClockState D) : Prop where
  opExec : ∀ addr executor, (s.cache addr).opExec = some executor →
    opExecTable p (s.cache addr).codeId = some executor
  record : ∀ addr, RecordFormed (s.cache addr).decodedCode
  decodedCode : RecordFormed s.decodedCode

namespace CacheFormed

variable {p : Platform D} {s : ClockState D}

theorem of_eq {s' : ClockState D} (h : CacheFormed p s) (hcache : s'.cache = s.cache)
    (hcode : s'.decodedCode = s.decodedCode) : CacheFormed p s' := by
  obtain ⟨hexec, htype, hstatic⟩ := h
  exact ⟨by rwa [hcache], by rwa [hcache], by rwa [hcode]⟩

theorem pDecodedCode (h : CacheFormed p s) (cached : Bool) (pc : Word) :
    RecordFormed (s.pDecodedCode cached pc) := by
  cases cached with
  | false => exact h.decodedCode
  | true => exact h.record pc

theorem putDecodedCode (h : CacheFormed p s) (cached : Bool) (pc : Word) {code : OpDecodedCode}
    (hcode : RecordFormed code) : CacheFormed p (s.putDecodedCode cached pc code) := by
  cases cached with
  | false => exact ⟨h.opExec, h.record, hcode⟩
  | true =>
    refine ⟨fun addr executor hexec => ?_, fun addr => ?_, h.decodedCode⟩
    · by_cases haddr : addr = pc
      · subst haddr
        have hslot := h.opExec addr executor
        simp only [ClockState.putDecodedCode, if_true, Function.update_self] at hexec ⊢
        exact hslot hexec
      · have hslot := h.opExec addr executor
        simp only [ClockState.putDecodedCode, if_true, Function.update_of_ne haddr] at hexec ⊢
        exact hslot hexec
    · by_cases haddr : addr = pc
      · subst haddr
        simp only [ClockState.putDecodedCode, if_true, Function.update_self]
        exact hcode
      · simp only [ClockState.putDecodedCode, if_true, Function.update_of_ne haddr]
        exact h.record addr

theorem fillSlot (h : CacheFormed p s) (cached : Bool) (pc : Word) {codeId : OpCodeId}
    {executor : OpDecodedCode → Exec D Unit} (hexec : opExecTable p codeId = some executor) :
    CacheFormed p (s.fillSlot cached pc codeId executor) := by
  cases cached with
  | false => exact h
  | true =>
    refine ⟨fun addr executor' hslot => ?_, fun addr => ?_, h.decodedCode⟩
    · by_cases haddr : addr = pc
      · subst haddr
        simp only [ClockState.fillSlot, if_true, Function.update_self, Option.some.injEq]
          at hslot ⊢
        rw [← hslot]
        exact hexec
      · have hold := h.opExec addr executor'
        simp only [ClockState.fillSlot, if_true, Function.update_of_ne haddr] at hslot ⊢
        exact hold hslot
    · by_cases haddr : addr = pc
      · subst haddr
        simp only [ClockState.fillSlot, if_true, Function.update_self]
        exact h.record addr
      · simp only [ClockState.fillSlot, if_true, Function.update_of_ne haddr]
        exact h.record addr

end CacheFormed

/-- The record of a parsed instruction. -/
theorem recordFormed_of_opParse {code : OpCode} {d : OpDecodedCode}
    {parsed : OperationCode × OpDecodedCode} (h : opParse code d = some parsed)
    (hd : RecordFormed d) : RecordFormed parsed.2 := by
  unfold opParse at h
  rw [Option.map_eq_some_iff] at h
  obtain ⟨optype, _, rfl⟩ := h
  exact hd.opDecoder code _

/-! ## The two ways of a clock -/

/-- Once the executor has returned, the clock writes no more than flags. -/
theorem execCode_result (codeId : OpCodeId) (executor : OpDecodedCode → Exec D Unit)
    (d : OpDecodedCode) (s : ClockState D) :
    Aside (Call.withClocks ⟨codeId, executor, d, s.toCpuState⟩).result.2
        (execCode codeId (executor d) s).2.toCpuState ∧
      (execCode codeId (executor d) s).2.cache = s.cache ∧
      (execCode codeId (executor d) s).2.decodedCode = s.decodedCode := by
  unfold execCode
  extract_lets s₁ result s₂
  have hresult : result = (Call.withClocks ⟨codeId, executor, d, s.toCpuState⟩).result := rfl
  rw [← hresult]
  split_ifs
  · exact ⟨Aside.refl _, rfl, rfl⟩
  · exact ⟨aside_flagViolation codeId .mdp _, rfl, rfl⟩
  · exact ⟨Aside.refl _, rfl, rfl⟩
  · exact ⟨Aside.refl _, rfl, rfl⟩

theorem endClock_aside (result : StdReturn × ClockState D) :
    Aside result.2.toCpuState (endClock result).2.toCpuState ∧
      (endClock result).2.cache = result.2.cache ∧
      (endClock result).2.decodedCode = result.2.decodedCode := by
  unfold endClock
  split_ifs
  · exact ⟨aside_clearR0 result.2, rfl, rfl⟩
  · exact ⟨Aside.refl _, rfl, rfl⟩

/-- The permission check writes the error information. -/
theorem aside_permission (s : CpuState D) (pc size : Word) :
    Aside s { s with cpu := (cpuHasPermission s.cpu .exec pc size).2 } := by
  obtain ⟨info, hinfo⟩ := targetMpuHasPermission_snd s.cpu .exec pc size
  have hcpu : (cpuHasPermission s.cpu .exec pc size).2 = setErrorInfo s.cpu info := hinfo
  rw [hcpu]
  exact ⟨s.cpu.realElaps, s.cpu.r, info, s.cpu.currentCodeException, rfl⟩

/-- What holds after a clock, for the call it makes. -/
structure ClockOutcome (p : Platform D) (s : ClockState D) (call : Option (Call D))
    (s' : ClockState D) : Prop where
  formed : CacheFormed p s'
  idle : call = none → Aside s.toCpuState s'.toCpuState
  table : ∀ c, call = some c → opExecTable p c.codeId = some c.executor
  record : ∀ c, call = some c → RecordFormed c.decodedCode
  before : ∀ c, call = some c → Aside s.toCpuState c.state
  after : ∀ c, call = some c → Aside c.result.2 s'.toCpuState

namespace ClockOutcome

variable {p : Platform D} {s s₀ s' : ClockState D} {call : Option (Call D)}

theorem of_idle (hform : CacheFormed p s') (h : Aside s.toCpuState s'.toCpuState) :
    ClockOutcome p s none s' := by
  refine ⟨hform, fun _ => h, ?_, ?_, ?_, ?_⟩
  all_goals
    intro c hc
    cases hc

theorem of_call {c : Call D} (hform : CacheFormed p s')
    (htable : opExecTable p c.codeId = some c.executor) (hrecord : RecordFormed c.decodedCode)
    (hbefore : Aside s.toCpuState c.state) (hafter : Aside c.result.2 s'.toCpuState) :
    ClockOutcome p s (some c) s' := by
  refine ⟨hform, fun hc => absurd hc (by simp), fun _ hc => ?_, fun _ hc => ?_, fun _ hc => ?_, fun _ hc => ?_⟩
  · cases hc
    exact htable
  · cases hc
    exact hrecord
  · cases hc
    exact hbefore
  · cases hc
    exact hafter

/-- A change aside before the clock. -/
theorem of_aside (h : ClockOutcome p s call s') (hs : Aside s₀.toCpuState s.toCpuState) :
    ClockOutcome p s₀ call s' :=
  ⟨h.formed, fun hc => hs.trans (h.idle hc), h.table, h.record,
    fun c hc => hs.trans (h.before c hc), h.after⟩

theorem endClock {result : StdReturn × ClockState D} (h : ClockOutcome p s call result.2) :
    ClockOutcome p s call (endClock result).2 := by
  obtain ⟨haside, hcache, hcode⟩ := endClock_aside result
  exact ⟨h.formed.of_eq hcache hcode, fun hc => (h.idle hc).trans haside, h.table, h.record,
    h.before, fun c hc => (h.after c hc).trans haside⟩

end ClockOutcome

/-- The execution of a code, as both branches have it. -/
theorem execCode_outcome {p : Platform D} {codeId : OpCodeId}
    {executor : OpDecodedCode → Exec D Unit} (hexec : opExecTable p codeId = some executor)
    {d : OpDecodedCode} (hd : RecordFormed d) {s : ClockState D} (hform : CacheFormed p s) :
    ClockOutcome p s (some (Call.withClocks ⟨codeId, executor, d, s.toCpuState⟩))
      (execCode codeId (executor d) s).2 := by
  obtain ⟨hafter, hcache, hcode⟩ := execCode_result codeId executor d s
  refine .of_call (hform.of_eq hcache hcode) hexec hd ?_ hafter
  exact ⟨opExecClocks codeId, s.cpu.r, s.cpu.mpu.exceptionErrorInfo,
    s.cpu.currentCodeException, rfl⟩

/-- From the result of the parser on. -/
theorem execParsed_outcome {p : Platform D} (cached : Bool) (pc : Word)
    (optype : OperationCode) {d : OpDecodedCode} {s : ClockState D} (hform : CacheFormed p s)
    (hd : RecordFormed d) :
    ClockOutcome p s ((calledParsed p pc optype.codeId d s.toCpuState).map Call.withClocks)
      (execParsed p cached pc optype d s).2 := by
  have haside := aside_permission s.toCpuState pc (opFormatSize d.typeId)
  unfold execParsed calledParsed
  extract_lets permission s₁ permission' s₂
  have hperm : permission' = permission := by
    cases cached <;> rfl
  have hcpu : s₂.toCpuState = { s.toCpuState with cpu := permission.2 } := by
    cases cached <;> rfl
  have hform₂ : CacheFormed p s₂ :=
    (hform.putDecodedCode cached pc hd).of_eq rfl rfl
  have hs₂ : Aside s.toCpuState s₂.toCpuState := by
    rw [hcpu]
    cases cached <;> exact haside
  rw [hperm]
  cases hgrant : permission.1 with
  | false =>
    rw [if_pos rfl, if_neg (by simp)]
    split_ifs
    · exact .of_idle (hform₂.of_eq rfl rfl) (hs₂.trans (aside_flagViolation _ _ s₂))
    · exact .of_idle hform₂ hs₂
  | true =>
    rw [if_pos rfl, if_neg (by simp)]
    cases hexec : opExecTable p optype.codeId with
    | none => exact .of_idle hform₂ hs₂
    | some executor =>
      have hcall := (execCode_outcome hexec hd hform₂).of_aside hs₂
      rw [hcpu] at hcall
      dsimp only
      split_ifs
      · refine .of_call (hcall.formed.fillSlot cached pc hexec) hexec hd (hcall.before _ rfl) ?_
        have hafter := hcall.after _ rfl
        cases cached <;> exact hafter
      · exact hcall

/-- The branch that is not cached. -/
theorem cpuSupplyClockNotCached_outcome {p : Platform D} (cached : Bool) {s : ClockState D}
    (hform : CacheFormed p s) :
    ClockOutcome p s ((calledNotCached p cached s).map Call.withClocks)
      (cpuSupplyClockNotCached p cached s).2 := by
  unfold calledNotCached cpuSupplyClockNotCached
  dsimp only
  cases p.bus.getPointer s.toCpuState s.cpu.pc with
  | none => exact .of_idle hform (Aside.refl _)
  | some bytes =>
    dsimp only [Option.bind_some]
    cases hparse : opParse (currentCode bytes) (s.pDecodedCode cached s.cpu.pc) with
    | none => exact .of_idle hform (Aside.refl _)
    | some parsed =>
      exact execParsed_outcome cached _ parsed.1 hform
        (recordFormed_of_opParse hparse (hform.pDecodedCode cached s.cpu.pc))

/-- One clock makes the call `called` and changes nothing else but its flags. -/
theorem cpuSupplyClock_outcome {p : Platform D} (cached : Word → Bool) {s : ClockState D}
    (hform : CacheFormed p s) :
    ClockOutcome p s (called p cached s) (cpuSupplyClock p cached s).2 := by
  have hr0 := aside_clearR0 s
  have hform' : CacheFormed p (s.modifyCpu clearR0) := hform.of_eq rfl rfl
  unfold called cpuSupplyClock
  by_cases hfatal : s.cpu.fatalError
  · rw [if_pos (Or.inl hfatal), if_pos hfatal]
    exact .of_idle hform (Aside.refl _)
  by_cases hhalt : s.cpu.isHalt
  · rw [if_pos (Or.inr hhalt), if_neg hfatal, if_pos hhalt]
    exact .of_idle hform (Aside.refl _)
  rw [if_neg (by simp [hfatal, hhalt]), if_neg hfatal, if_neg hhalt]
  extract_lets s₁ pc
  split_ifs
  · cases hslot : (s₁.cache s₁.cpu.pc).opExec with
    | none => exact ((cpuSupplyClockNotCached_outcome true hform').of_aside hr0).endClock
    | some executor =>
      exact ((execCode_outcome (hform'.opExec _ _ hslot) (hform'.record _) hform').of_aside hr0).endClock
  · exact ((cpuSupplyClockNotCached_outcome false hform').of_aside hr0).endClock

end Athrill
