import Athrill.Cpu.Run

/-!
# The cached and the uncached branch

A slot of the instruction cache is filled after an instruction has been
executed by the uncached branch.  As long as the code behind a filled slot
decodes to what the slot holds, both branches do the same, except for the
permission check: with `DISABLE_MEMPROTECT` the cached branch makes none.

* `CacheCurrent`: filled slots agree with the code in memory.
* `CachedPermitted`: the check that the cached branch leaves out would grant
  the access and change nothing.
* `cpuSupplyClock_agree`: one clock on either branch.
* `run_agree`: whole runs, with any choice of branches.
-/

namespace Athrill

open TargetCore Routine TransitionSystem

variable {D : Type}

/-! ## The code behind the cache -/

/-- The code that the next clock finds at an address. -/
def fetchCode (p : Platform D) (s : ClockState D) (pc : Word) : Option OpCode :=
  (p.bus.getPointer (s.modifyCpu clearR0).toCpuState pc).map currentCode

/-- Parsing the code again gives back what the slot holds. -/
def SlotCurrent (code : OpCode) (slot : CacheSlot D) : Prop :=
  opParse code slot.decodedCode = some (⟨slot.codeId, slot.codeId.formatId⟩, slot.decodedCode)

/-- Every filled slot holds what its code decodes to. -/
def CacheCurrent (p : Platform D) (s : ClockState D) : Prop :=
  ∀ pc executor, (s.cache pc).opExec = some executor →
    ∃ code, fetchCode p s pc = some code ∧ SlotCurrent code (s.cache pc)

/-- Two codes decode to the same instruction. -/
def SameDecode (code code' : OpCode) : Prop :=
  ∀ d, opParse code' d = opParse code d

/-- From `s` to `s'`, the code behind the slots that are filled in `s'` has not
been modified as far as the decoder reads it. -/
def CodeKept (p : Platform D) (s s' : ClockState D) : Prop :=
  ∀ pc executor, (s'.cache pc).opExec = some executor →
    ∀ code, fetchCode p s pc = some code →
      ∃ code', fetchCode p s' pc = some code' ∧ SameDecode code code'

theorem SlotCurrent.of_sameDecode {code code' : OpCode} {slot : CacheSlot D}
    (h : SlotCurrent code slot) (hsame : SameDecode code code') : SlotCurrent code' slot :=
  (hsame slot.decodedCode).trans h

/-- What the decoder gives is current. -/
theorem slotCurrent_of_opParse {code : OpCode} {d : OpDecodedCode} {optype : OperationCode}
    {decoded : OpDecodedCode} (hparse : opParse code d = some (optype, decoded))
    (opExec : Option (OpDecodedCode → Exec D Unit)) :
    SlotCurrent code ⟨optype.codeId, opExec, decoded⟩ := by
  unfold opParse at hparse
  rw [Option.map_eq_some_iff] at hparse
  obtain ⟨optype', hfind, heq⟩ := hparse
  cases heq
  have hformat := parseOptype_formatId hfind
  unfold SlotCurrent opParse
  rw [hfind, Option.map_some, opDecoder_opDecoder, ← hformat]

/-- The parser and the decoders read three halfwords at most. -/
theorem sameDecode_of_halfwords {code code' : OpCode} (h : ∀ n < 3, code' n = code n) :
    SameDecode code code' := by
  have h0 : code' 0 = code 0 := h 0 (by omega)
  have h1 : code' 1 = code 1 := h 1 (by omega)
  have h2 : code' 2 = code 2 := h 2 (by omega)
  have hvalue : opCodeValue code' = opCodeValue code := by
    simp only [opCodeValue, h0, h1]
  have hreg1 : getReg1 code' = getReg1 code := by rw [getReg1, h0, getReg1]
  have hreg2 : getReg2 code' = getReg2 code := by rw [getReg2, h0, getReg2]
  have hreg3 : getReg3 code' = getReg3 code := by rw [getReg3, h1, getReg3]
  have hholds : ParseCond.holds code' = ParseCond.holds code := by
    funext cond
    cases cond <;> simp only [ParseCond.holds, hreg1, hreg2, hreg3, hvalue]
  have hmatches : ParseRule.matches code' = ParseRule.matches code := by
    funext rule
    simp only [ParseRule.matches, hholds]
  have hrules : opParseRules code' = opParseRules code := by
    simp only [opParseRules, hvalue, h0]
  have hoptype : parseOptype code' = parseOptype code := by
    simp only [parseOptype, hrules, hmatches]
  have hdecoder (formatId : OpCodeFormatId) (d : OpDecodedCode) :
      opDecoder code' formatId d = opDecoder code formatId d := by
    cases formatId <;>
      simp only [opDecoder, opDecode1, opDecode2, opDecode3, opDecode4A, opDecode4B, opDecode5,
        opDecode6, opDecode7, opDecode8, opDecode9, opDecode10, opDecode11, opDecode12,
        opDecode13, opDecode14, opDecodeF, h0, h1, h2]
    have hlist : opDecode13List code' = opDecode13List code := by
      funext i
      simp only [opDecode13List, h0, h1]
    rw [hlist]
  intro d
  unfold opParse
  rw [hoptype]
  congr 1
  funext optype
  rw [hdecoder]

/-- Code whose first six bytes have not been modified decodes as before. -/
theorem sameDecode_of_bytes {bytes bytes' : Nat → Byte} (h : ∀ n < 6, bytes' n = bytes n) :
    SameDecode (currentCode bytes) (currentCode bytes') := by
  refine sameDecode_of_halfwords fun n hn => ?_
  unfold currentCode
  rw [h (2 * n) (by omega), h (2 * n + 1) (by omega)]

/-! ## States that differ in the cache alone -/

/-- The states differ at most in the cache and in the static record. -/
structure SameCore (s t : ClockState D) : Prop where
  cpuState : s.toCpuState = t.toCpuState
  elaps : s.elaps = t.elaps

namespace SameCore

variable {s t u : ClockState D}

theorem refl (s : ClockState D) : SameCore s s := ⟨rfl, rfl⟩

theorem symm (h : SameCore s t) : SameCore t s := ⟨h.cpuState.symm, h.elaps.symm⟩

theorem trans (h : SameCore s t) (h' : SameCore t u) : SameCore s u :=
  ⟨h.cpuState.trans h'.cpuState, h.elaps.trans h'.elaps⟩

theorem cpu (h : SameCore s t) : s.cpu = t.cpu := by
  rw [h.cpuState]

theorem modifyCpu (h : SameCore s t) (f : TargetCore → TargetCore) :
    SameCore (s.modifyCpu f) (t.modifyCpu f) := by
  obtain ⟨cpuState, elaps, cache, code⟩ := s
  obtain ⟨cpuState', elaps', cache', code'⟩ := t
  obtain ⟨hcpu, helaps⟩ := h
  cases hcpu
  cases helaps
  exact ⟨rfl, rfl⟩

end SameCore

/-- The same return value, and states that differ in the cache alone. -/
structure Agree (r r' : StdReturn × ClockState D) : Prop where
  ret : r.1 = r'.1
  core : SameCore r.2 r'.2

namespace Agree

variable {r r' r'' : StdReturn × ClockState D}

theorem symm (h : Agree r r') : Agree r' r := ⟨h.ret.symm, h.core.symm⟩

theorem trans (h : Agree r r') (h' : Agree r' r'') : Agree r r'' :=
  ⟨h.ret.trans h'.ret, h.core.trans h'.core⟩

theorem endClock (h : Agree r r') : Agree (endClock r) (endClock r') := by
  unfold Athrill.endClock
  by_cases hok : r.1 = .ok
  · rw [if_pos hok, if_pos (h.ret.symm.trans hok)]
    exact ⟨rfl, h.core.modifyCpu clearR0⟩
  · rw [if_neg hok, if_neg fun hok' => hok (h.ret.trans hok')]
    exact h

end Agree

/-- The execution of a code reads nothing of the cache. -/
theorem execCode_agree (codeId : OpCodeId) (executor : Exec D Unit) {s t : ClockState D}
    (h : SameCore s t) : Agree (execCode codeId executor s) (execCode codeId executor t) := by
  obtain ⟨cpuState, elaps, cache, code⟩ := s
  obtain ⟨cpuState', elaps', cache', code'⟩ := t
  obtain ⟨hcpu, helaps⟩ := h
  cases hcpu
  cases helaps
  unfold execCode ClockState.modifyCpu
  dsimp only
  split_ifs
  · exact ⟨rfl, rfl, rfl⟩
  · exact ⟨rfl, rfl, rfl⟩
  · exact ⟨rfl, rfl, rfl⟩
  · exact ⟨rfl, rfl, rfl⟩

theorem sameCore_putDecodedCode (s : ClockState D) (cached : Bool) (pc : Word)
    (d : OpDecodedCode) : SameCore (s.putDecodedCode cached pc d) s := by
  cases cached <;> exact ⟨rfl, rfl⟩

theorem sameCore_fillSlot (s : ClockState D) (cached : Bool) (pc : Word) (codeId : OpCodeId)
    (executor : OpDecodedCode → Exec D Unit) :
    SameCore (s.fillSlot cached pc codeId executor) s := by
  cases cached <;> exact ⟨rfl, rfl⟩

/-- Filling the slot does not show in the result. -/
theorem agree_fillSlot (r : StdReturn × ClockState D) (cached : Bool) (pc : Word)
    (codeId : OpCodeId) (executor : OpDecodedCode → Exec D Unit) :
    Agree (if r.1 = .ok then (.ok, r.2.fillSlot cached pc codeId executor) else r) r := by
  split_ifs with hok
  · exact ⟨hok.symm, sameCore_fillSlot _ _ _ _ _⟩
  · exact ⟨rfl, SameCore.refl _⟩

/-! ## The uncached branch -/

/-- From the result of the parser on, two uncached branches agree when their
records mean the same to the check and to the executor. -/
theorem execParsed_agree {p : Platform D} (cached cached' : Bool) (pc : Word)
    (optype : OperationCode) {d d' : OpDecodedCode} {s t : ClockState D} (h : SameCore s t)
    (htype : d.typeId = d'.typeId)
    (hexec : ∀ executor, opExecTable p optype.codeId = some executor →
      executor d = executor d') :
    Agree (execParsed p cached pc optype d s) (execParsed p cached' pc optype d' t) := by
  have hput : SameCore (s.putDecodedCode cached pc d) (t.putDecodedCode cached' pc d') :=
    (sameCore_putDecodedCode s cached pc d).trans
      (h.trans (sameCore_putDecodedCode t cached' pc d').symm)
  unfold execParsed
  extract_lets s₁ permission s₂ t₁ permission' t₂
  have hperm : permission' = permission := by
    show cpuHasPermission t₁.cpu .exec pc (opFormatSize d'.typeId) = _
    rw [← htype, ← hput.cpu]
  have h₂ : SameCore s₂ t₂ := by
    show SameCore (s₁.modifyCpu fun _ => permission.2) (t₁.modifyCpu fun _ => permission'.2)
    rw [hperm]
    exact hput.modifyCpu _
  rw [hperm]
  cases hgrant : permission.1 with
  | false =>
    rw [if_pos rfl, if_pos rfl, ← h₂.cpu]
    split_ifs
    · exact ⟨rfl, h₂.modifyCpu _⟩
    · exact ⟨rfl, h₂⟩
  | true =>
    rw [if_neg (by simp), if_neg (by simp)]
    cases htable : opExecTable p optype.codeId with
    | none => exact ⟨rfl, h₂⟩
    | some executor =>
      dsimp only
      rw [hexec executor htable]
      have hcode := execCode_agree optype.codeId (executor d') h₂
      exact (agree_fillSlot _ _ _ _ _).trans (hcode.trans (agree_fillSlot _ _ _ _ _).symm)

/-- A parsed instruction, with what its record depends on. -/
theorem opParse_eq_some {code : OpCode} {d : OpDecodedCode}
    {parsed : OperationCode × OpDecodedCode} (h : opParse code d = some parsed) :
    parseOptype code = some parsed.1 ∧ parsed.1.formatId = parsed.1.codeId.formatId ∧
      parsed.2 = opDecoder code parsed.1.codeId.formatId d := by
  unfold opParse at h
  rw [Option.map_eq_some_iff] at h
  obtain ⟨optype, hfind, rfl⟩ := h
  have hformat := parseOptype_formatId hfind
  refine ⟨hfind, hformat, ?_⟩
  show opDecoder code optype.formatId d = opDecoder code optype.codeId.formatId d
  rw [hformat]

/-- Two uncached branches agree, also when the check denies the access. -/
theorem notCached_agree {p : Platform D} (cached cached' : Bool) {s t : ClockState D}
    (h : SameCore s t) (hs : CacheFormed p s) (ht : CacheFormed p t) :
    Agree (cpuSupplyClockNotCached p cached s) (cpuSupplyClockNotCached p cached' t) := by
  unfold cpuSupplyClockNotCached
  dsimp only
  rw [← h.cpuState]
  cases p.bus.getPointer s.toCpuState s.cpu.pc with
  | none => exact ⟨rfl, h⟩
  | some bytes =>
    dsimp only
    have hparse (d : OpDecodedCode) : opParse (currentCode bytes) d =
        (parseOptype (currentCode bytes)).map fun optype =>
          (optype, opDecoder (currentCode bytes) optype.formatId d) := rfl
    rw [hparse, hparse]
    cases hfind : parseOptype (currentCode bytes) with
    | none => exact ⟨rfl, h⟩
    | some optype =>
      refine execParsed_agree cached cached' _ optype h ?_ fun executor hexec => ?_
      · rw [typeId_opDecoder, typeId_opDecoder, (hs.pDecodedCode _ _).typeId,
          (ht.pDecodedCode _ _).typeId]
      · rw [parseOptype_formatId hfind]
        exact opExecTable_opDecoder hexec _ _ _

/-- The uncached branch, granted: it executes the code. -/
theorem notCached_granted {p : Platform D} (cached : Bool) {s : ClockState D}
    {bytes : Nat → Byte} (hbytes : p.bus.getPointer s.toCpuState s.cpu.pc = some bytes)
    {parsed : OperationCode × OpDecodedCode}
    (hparse : opParse (currentCode bytes) (s.pDecodedCode cached s.cpu.pc) = some parsed)
    (hgrant : cpuHasPermission s.cpu .exec s.cpu.pc (opFormatSize parsed.2.typeId) =
      (true, s.cpu))
    {executor : OpDecodedCode → Exec D Unit}
    (hexec : opExecTable p parsed.1.codeId = some executor) :
    Agree (cpuSupplyClockNotCached p cached s)
      (execCode parsed.1.codeId (executor parsed.2) s) := by
  have hput := sameCore_putDecodedCode s cached s.cpu.pc parsed.2
  unfold cpuSupplyClockNotCached
  dsimp only
  rw [hbytes]
  dsimp only
  rw [hparse]
  unfold execParsed
  dsimp only
  rw [hput.cpu, hgrant, if_neg (by simp), hexec]
  dsimp only
  refine (agree_fillSlot _ _ _ _ _).trans (execCode_agree _ _ ?_)
  exact hput.modifyCpu fun _ => s.cpu

/-! ## The cached branch -/

/-- A filled slot with the code it was made from. -/
structure Filled (p : Platform D) (s : ClockState D) (code : OpCode)
    (executor : OpDecodedCode → Exec D Unit) : Prop where
  pointer : (p.bus.getPointer s.toCpuState s.cpu.pc).map currentCode = some code
  table : opExecTable p (s.cache s.cpu.pc).codeId = some executor
  current : SlotCurrent code (s.cache s.cpu.pc)

/-- What the cached branch does. -/
def execSlot (s : ClockState D) (executor : OpDecodedCode → Exec D Unit) :
    StdReturn × ClockState D :=
  execCode (s.cache s.cpu.pc).codeId (executor (s.cache s.cpu.pc).decodedCode) s

/-- Two cached branches agree. -/
theorem execSlot_agree {p : Platform D} {s t : ClockState D} (h : SameCore s t)
    {code code' : OpCode} {executor executor' : OpDecodedCode → Exec D Unit}
    (hs : Filled p s code executor) (ht : Filled p t code' executor') :
    Agree (execSlot s executor) (execSlot t executor') := by
  have hcode : code = code' := by
    have hpointer := hs.pointer
    rw [h.cpuState, ht.pointer] at hpointer
    exact (Option.some.inj hpointer).symm
  subst hcode
  obtain ⟨hfind, _, hdecode⟩ := opParse_eq_some hs.current
  obtain ⟨hfind', _, hdecode'⟩ := opParse_eq_some ht.current
  have hid : (s.cache s.cpu.pc).codeId = (t.cache t.cpu.pc).codeId := by
    rw [hfind] at hfind'
    exact congrArg OperationCode.codeId (Option.some.inj hfind')
  have htable := hs.table
  rw [hid, ht.table] at htable
  cases htable
  unfold execSlot
  dsimp only at hdecode hdecode'
  rw [hdecode, hdecode', hid, opExecTable_opDecoder ht.table code _ (t.cache t.cpu.pc).decodedCode]
  exact execCode_agree _ _ h

/-- The cached branch agrees with an uncached one that would be granted. -/
theorem execSlot_agree_notCached {p : Platform D} (cached : Bool) {s t : ClockState D}
    (h : SameCore s t) (ht : CacheFormed p t) {code : OpCode}
    {executor : OpDecodedCode → Exec D Unit} (hs : Filled p s code executor)
    (hgrant : cpuHasPermission s.cpu .exec s.cpu.pc (opFormatSize .format1) = (true, s.cpu)) :
    Agree (execSlot s executor) (cpuSupplyClockNotCached p cached t) := by
  obtain ⟨bytes, hbytes, rfl⟩ := Option.map_eq_some_iff.mp hs.pointer
  obtain ⟨hfind, _, hdecode⟩ := opParse_eq_some hs.current
  have hparse : opParse (currentCode bytes) (t.pDecodedCode cached t.cpu.pc) =
      some (⟨(s.cache s.cpu.pc).codeId, (s.cache s.cpu.pc).codeId.formatId⟩,
        opDecoder (currentCode bytes) (s.cache s.cpu.pc).codeId.formatId
          (t.pDecodedCode cached t.cpu.pc)) := by
    unfold opParse
    rw [hfind]
    rfl
  rw [h.cpuState] at hbytes
  rw [h.cpu] at hgrant
  have hgranted := notCached_granted cached hbytes hparse
    (by rw [typeId_opDecoder, (ht.pDecodedCode _ _).typeId]; exact hgrant) hs.table
  refine Agree.trans ?_ hgranted.symm
  unfold execSlot
  dsimp only at hdecode ⊢
  rw [hdecode, opExecTable_opDecoder hs.table _ _ (t.pDecodedCode cached t.cpu.pc)]
  exact execCode_agree _ _ h

/-! ## One clock -/

/-- The check of an instruction that the cached branch is about to execute
would grant it and change nothing. -/
def CachedPermitted (cached : Word → Bool) (s : ClockState D) : Prop :=
  s.cpu.fatalError = false → s.cpu.isHalt = false → cached s.cpu.pc = true →
    ∀ executor, (s.cache s.cpu.pc).opExec = some executor →
      cpuHasPermission (clearR0 s.cpu) .exec s.cpu.pc
        (opFormatSize (s.cache s.cpu.pc).decodedCode.typeId) = (true, clearR0 s.cpu)

/-- The two branches of a clock. -/
inductive Branch (p : Platform D) (cached : Word → Bool) (s : ClockState D) :
    StdReturn × ClockState D → Prop
  | slot {executor : OpDecodedCode → Exec D Unit} (hcached : cached s.cpu.pc = true)
      (hslot : (s.cache s.cpu.pc).opExec = some executor) :
      Branch p cached s (execSlot s executor)
  | parse (b : Bool) (hempty : b = true → (s.cache s.cpu.pc).opExec = none) :
      Branch p cached s (cpuSupplyClockNotCached p b s)

theorem exists_branch (p : Platform D) (cached : Word → Bool) {s : ClockState D}
    (hfatal : s.cpu.fatalError = false) (hhalt : s.cpu.isHalt = false) :
    ∃ r, Branch p cached (s.modifyCpu clearR0) r ∧ cpuSupplyClock p cached s = endClock r := by
  unfold cpuSupplyClock
  rw [if_neg (by simp [hfatal]), if_neg (by simp [hhalt])]
  extract_lets s₁ pc
  split_ifs with hcached
  · cases hslot : (s₁.cache pc).opExec with
    | none => exact ⟨_, .parse true fun _ => hslot, rfl⟩
    | some executor => exact ⟨_, .slot hcached hslot, rfl⟩
  · exact ⟨_, .parse false nofun, rfl⟩

/-- A slot that a clock is about to use is filled. -/
theorem filled_of_current {p : Platform D} {s : ClockState D} (hform : CacheFormed p s)
    (hcurrent : CacheCurrent p s) {executor : OpDecodedCode → Exec D Unit}
    (hslot : (s.cache s.cpu.pc).opExec = some executor) :
    ∃ code, Filled p (s.modifyCpu clearR0) code executor := by
  obtain ⟨code, hfetch, hslotCurrent⟩ := hcurrent _ _ hslot
  exact ⟨code, hfetch, hform.opExec _ _ hslot, hslotCurrent⟩

/-- Two clocks from states that differ in the cache alone agree, whichever
branch each of them takes. -/
theorem cpuSupplyClock_agree {p : Platform D} {cached cached' : Word → Bool}
    {s t : ClockState D} (h : SameCore s t) (hs : CacheFormed p s) (ht : CacheFormed p t)
    (hcs : CacheCurrent p s) (hct : CacheCurrent p t) (hps : CachedPermitted cached s)
    (hpt : CachedPermitted cached' t) :
    Agree (cpuSupplyClock p cached s) (cpuSupplyClock p cached' t) := by
  by_cases hfatal : s.cpu.fatalError = true
  · have hfatal' : t.cpu.fatalError = true := by rw [← h.cpu, hfatal]
    unfold cpuSupplyClock
    rw [if_pos hfatal, if_pos hfatal']
    exact ⟨rfl, h⟩
  by_cases hhalt : s.cpu.isHalt = true
  · have hhalt' : t.cpu.isHalt = true := by rw [← h.cpu, hhalt]
    unfold cpuSupplyClock
    rw [if_neg hfatal, if_pos hhalt, if_neg (by rw [← h.cpu]; exact hfatal), if_pos hhalt']
    exact ⟨rfl, h⟩
  rw [Bool.not_eq_true] at hfatal hhalt
  have hfatal' : t.cpu.fatalError = false := by rw [← h.cpu, hfatal]
  have hhalt' : t.cpu.isHalt = false := by rw [← h.cpu, hhalt]
  have h₁ := h.modifyCpu clearR0
  have hs₁ : CacheFormed p (s.modifyCpu clearR0) := hs.of_eq rfl rfl
  have ht₁ : CacheFormed p (t.modifyCpu clearR0) := ht.of_eq rfl rfl
  obtain ⟨r, hr, hclock⟩ := exists_branch p cached hfatal hhalt
  obtain ⟨r', hr', hclock'⟩ := exists_branch p cached' hfatal' hhalt'
  rw [hclock, hclock']
  apply Agree.endClock
  cases hr with
  | slot hcached hslot =>
    obtain ⟨code, hfilled⟩ := filled_of_current hs hcs hslot
    cases hr' with
    | slot hcached' hslot' =>
      obtain ⟨code', hfilled'⟩ := filled_of_current ht hct hslot'
      exact execSlot_agree h₁ hfilled hfilled'
    | parse b _ =>
      have hgrant := hps hfatal hhalt hcached _ hslot
      rw [(hs.record _).typeId] at hgrant
      exact execSlot_agree_notCached b h₁ ht₁ hfilled hgrant
  | parse b _ =>
    cases hr' with
    | slot hcached' hslot' =>
      obtain ⟨code', hfilled'⟩ := filled_of_current ht hct hslot'
      have hgrant := hpt hfatal' hhalt' hcached' _ hslot'
      rw [(ht.record _).typeId] at hgrant
      exact (execSlot_agree_notCached b h₁.symm hs₁ hfilled' hgrant).symm
    | parse b' _ => exact notCached_agree b b' h₁ hs₁ ht₁

/-! ## The cache over a run -/

/-- The cache that the uncached branch leaves: the slot of the instruction is
filled with the parsed code, or it stays empty. -/
theorem cache_execParsed {p : Platform D} (cached : Bool) (pc : Word) (optype : OperationCode)
    (d : OpDecodedCode) (s : ClockState D) {addr : Word}
    {executor : OpDecodedCode → Exec D Unit}
    (hempty : cached = true → (s.cache pc).opExec = none)
    (hslot : ((execParsed p cached pc optype d s).2.cache addr).opExec = some executor) :
    (execParsed p cached pc optype d s).2.cache addr = s.cache addr ∨
      addr = pc ∧
        (execParsed p cached pc optype d s).2.cache addr = ⟨optype.codeId, some executor, d⟩ := by
  -- the cache after the decoder's write
  have hput : ∀ executor', ((s.putDecodedCode cached pc d).cache addr).opExec = some executor' →
      (s.putDecodedCode cached pc d).cache addr = s.cache addr := by
    intro executor' hexec
    cases cached with
    | false => rfl
    | true =>
      by_cases haddr : addr = pc
      · subst haddr
        simp [ClockState.putDecodedCode, hempty rfl] at hexec
      · simp [ClockState.putDecodedCode, Function.update_of_ne haddr]
  revert hslot
  unfold execParsed
  extract_lets s₁ permission s₂
  have hcache : s₂.cache = (s.putDecodedCode cached pc d).cache := rfl
  intro hslot
  split_ifs at hslot ⊢ with hdenied hviolation
  · exact Or.inl (hput _ hslot)
  · exact Or.inl (hput _ hslot)
  · cases htable : opExecTable p optype.codeId with
    | none =>
      rw [htable] at hslot
      exact Or.inl (hput _ hslot)
    | some executor' =>
      rw [htable] at hslot
      obtain ⟨_, hkeep, _⟩ := execCode_result optype.codeId executor' d s₂
      dsimp only at hslot ⊢
      split_ifs at hslot ⊢
      · cases cached with
        | false =>
          left
          exact congrFun (hkeep.trans hcache) addr
        | true =>
          by_cases haddr : addr = pc
          · subst haddr
            simp only [ClockState.fillSlot, if_true, Function.update_self,
              Option.some.injEq] at hslot
            subst hslot
            refine Or.inr ⟨rfl, ?_⟩
            simp only [ClockState.fillSlot, if_true, Function.update_self]
            rw [hkeep, hcache]
            simp [ClockState.putDecodedCode]
          · simp only [ClockState.fillSlot, if_true, Function.update_of_ne haddr] at hslot ⊢
            rw [hkeep, hcache] at hslot ⊢
            exact Or.inl (hput _ hslot)
      · rw [hkeep, hcache] at hslot ⊢
        exact Or.inl (hput _ hslot)

/-- A slot that is filled after a branch was filled before, or holds what the
code at its address decodes to. -/
theorem cache_branch {p : Platform D} {cached : Word → Bool} {s : ClockState D}
    {r : StdReturn × ClockState D} (hr : Branch p cached s r) {addr : Word}
    {executor : OpDecodedCode → Exec D Unit} (hslot : (r.2.cache addr).opExec = some executor) :
    r.2.cache addr = s.cache addr ∨
      ∃ code, (p.bus.getPointer s.toCpuState addr).map currentCode = some code ∧
        SlotCurrent code (r.2.cache addr) := by
  cases hr with
  | slot hcached hfilled =>
    obtain ⟨_, hkeep, _⟩ := execCode_result (s.cache s.cpu.pc).codeId _
      (s.cache s.cpu.pc).decodedCode s
    exact Or.inl (congrFun hkeep addr)
  | parse b hempty =>
    revert hslot
    unfold cpuSupplyClockNotCached
    dsimp only
    cases hbytes : p.bus.getPointer s.toCpuState s.cpu.pc with
    | none => exact fun _ => Or.inl rfl
    | some bytes =>
      dsimp only
      cases hparse : opParse (currentCode bytes) (s.pDecodedCode b s.cpu.pc) with
      | none => exact fun _ => Or.inl rfl
      | some parsed =>
        intro hslot
        rcases cache_execParsed b s.cpu.pc parsed.1 parsed.2 s hempty hslot with hkeep | hfill
        · exact Or.inl hkeep
        · obtain ⟨haddr, hfill⟩ := hfill
          refine Or.inr ⟨currentCode bytes, ?_, ?_⟩
          · rw [haddr, hbytes, Option.map_some]
          · exact hfill ▸ slotCurrent_of_opParse hparse (some executor)

/-- A clock fills slots with what it has fetched. -/
theorem cache_clock {p : Platform D} {cached : Word → Bool} {s : ClockState D} {addr : Word}
    {executor : OpDecodedCode → Exec D Unit}
    (hslot : ((cpuSupplyClock p cached s).2.cache addr).opExec = some executor) :
    (cpuSupplyClock p cached s).2.cache addr = s.cache addr ∨
      ∃ code, fetchCode p s addr = some code ∧
        SlotCurrent code ((cpuSupplyClock p cached s).2.cache addr) := by
  by_cases hfatal : s.cpu.fatalError = true
  · unfold cpuSupplyClock
    rw [if_pos hfatal]
    exact Or.inl rfl
  by_cases hhalt : s.cpu.isHalt = true
  · unfold cpuSupplyClock
    rw [if_neg hfatal, if_pos hhalt]
    exact Or.inl rfl
  rw [Bool.not_eq_true] at hfatal hhalt
  obtain ⟨r, hr, hclock⟩ := exists_branch p cached hfatal hhalt
  obtain ⟨_, hkeep, _⟩ := endClock_aside r
  rw [hclock, hkeep] at hslot ⊢
  exact cache_branch hr hslot

/-- As long as the decoded code is kept, the filled slots stay current. -/
theorem cacheCurrent_clock {p : Platform D} {cached : Word → Bool} {s : ClockState D}
    (hcurrent : CacheCurrent p s) (hkept : CodeKept p s (cpuSupplyClock p cached s).2) :
    CacheCurrent p (cpuSupplyClock p cached s).2 := by
  intro pc executor hslot
  have hbefore : ∃ code, fetchCode p s pc = some code ∧
      SlotCurrent code ((cpuSupplyClock p cached s).2.cache pc) := by
    rcases cache_clock hslot with hkeep | hfill
    · rw [hkeep] at hslot ⊢
      exact hcurrent pc executor hslot
    · exact hfill
  obtain ⟨code, hfetch, hcur⟩ := hbefore
  obtain ⟨code', hfetch', hsame⟩ := hkept pc executor hslot code hfetch
  exact ⟨code', hfetch', hcur.of_sameDecode hsame⟩

/-! ## Runs -/

/-- What happens to a core: a clock, with the containers that either of two
runs has, or a change from outside. -/
inductive CoreEvent (D : Type) where
  | clock (containers : Bool → Word → Bool)
  | outside (f : CpuState D → CpuState D)

/-- One event in one of the two runs. -/
def coreStep (p : Platform D) (run : Bool) : CoreEvent D → ClockState D → StdReturn × ClockState D
  | .clock containers, s => cpuSupplyClock p (containers run) s
  | .outside f, s => (.ok, { s with toCpuState := f s.toCpuState })

/-- The containers of a clock leave out no check that would deny or write. -/
def EventPermitted (run : Bool) (s : ClockState D) : CoreEvent D → Prop
  | .clock containers => CachedPermitted (containers run) s
  | .outside _ => True

/-- No step of the run modifies decoded code, and each instruction of the
cached branch would be granted. -/
def RunPermitted (p : Platform D) (run : Bool) : List (CoreEvent D) → ClockState D → Prop :=
  Along (coreStep p run) fun e s s' => CodeKept p s s' ∧ EventPermitted run s e

/-- The states of two runs at the same time. -/
structure SameRun (p : Platform D) (s t : ClockState D) : Prop where
  core : SameCore s t
  formed : CacheFormed p s ∧ CacheFormed p t
  current : CacheCurrent p s ∧ CacheCurrent p t

theorem coreStep_agree {p : Platform D} (e : CoreEvent D) {s t : ClockState D}
    (h : SameRun p s t)
    (hs : CodeKept p s (coreStep p false e s).2 ∧ EventPermitted false s e)
    (ht : CodeKept p t (coreStep p true e t).2 ∧ EventPermitted true t e) :
    (coreStep p false e s).1 = (coreStep p true e t).1 ∧
      SameRun p (coreStep p false e s).2 (coreStep p true e t).2 := by
  obtain ⟨hcore, ⟨hfs, hft⟩, ⟨hcs, hct⟩⟩ := h
  cases e with
  | clock containers =>
    have hagree := cpuSupplyClock_agree hcore hfs hft hcs hct hs.2 ht.2
    exact ⟨hagree.ret, hagree.core,
      ⟨(cpuSupplyClock_outcome _ hfs).formed, (cpuSupplyClock_outcome _ hft).formed⟩,
      ⟨cacheCurrent_clock hcs hs.1, cacheCurrent_clock hct ht.1⟩⟩
  | outside f =>
    refine ⟨rfl, ⟨congrArg f hcore.cpuState, hcore.elaps⟩, ⟨hfs.of_eq rfl rfl, hft.of_eq rfl rfl⟩,
      ⟨?_, ?_⟩⟩
    · intro pc executor hslot
      obtain ⟨code, hfetch, hcur⟩ := hcs pc executor hslot
      obtain ⟨code', hfetch', hsame⟩ := hs.1 pc executor hslot code hfetch
      exact ⟨code', hfetch', hcur.of_sameDecode hsame⟩
    · intro pc executor hslot
      obtain ⟨code, hfetch, hcur⟩ := hct pc executor hslot
      obtain ⟨code', hfetch', hsame⟩ := ht.1 pc executor hslot code hfetch
      exact ⟨code', hfetch', hcur.of_sameDecode hsame⟩

/-- The result of a clock that was denied: `MIP` is flagged, the program counter
is kept and nothing has been executed. -/
def DeniedClock (s : ClockState D) (r : StdReturn × ClockState D) : Prop :=
  r.1 = .error ∧ r.2.elaps = s.elaps ∧ ∃ info, r.2.toCpuState =
    { s.toCpuState with
      cpu := { clearR0 s.cpu with
        mpu := { s.cpu.mpu with exceptionErrorInfo := info }
        currentCodeException := ⟨true, some .mip⟩ } }

/-- A denied check sets the error flag. -/
theorem targetMpuHasPermission_denied {cpu : TargetCore} {accessType : TargetMpuAccess}
    {addr size : Word} (h : (targetMpuHasPermission cpu accessType addr size).1 = false) :
    ∃ info, (targetMpuHasPermission cpu accessType addr size).2 = setErrorInfo cpu info ∧
      info.isErrorOccurred = true := by
  unfold targetMpuHasPermission at h ⊢
  dsimp only at h ⊢
  split_ifs at h ⊢
  exact ⟨_, rfl, rfl⟩

theorem execParsed_denied {p : Platform D} (cached : Bool) (pc : Word) (optype : OperationCode)
    (d : OpDecodedCode) {s : ClockState D}
    (hdenied : (cpuHasPermission s.cpu .exec pc (opFormatSize d.typeId)).1 = false) :
    (execParsed p cached pc optype d s).1 = .error ∧
      (execParsed p cached pc optype d s).2.elaps = s.elaps ∧
      ∃ info, (execParsed p cached pc optype d s).2.toCpuState =
        { s.toCpuState with
          cpu := { s.cpu with
            mpu := { s.cpu.mpu with exceptionErrorInfo := info }
            currentCodeException := ⟨true, some .mip⟩ } } := by
  obtain ⟨info, hinfo, herror⟩ := targetMpuHasPermission_denied hdenied
  have hput := sameCore_putDecodedCode s cached pc d
  unfold execParsed
  extract_lets s₁ permission s₂
  have hperm : permission = cpuHasPermission s.cpu .exec pc (opFormatSize d.typeId) := by
    show cpuHasPermission s₁.cpu .exec pc (opFormatSize d.typeId) = _
    rw [hput.cpu]
  have hcpu : permission.2 = setErrorInfo s.cpu info := by
    rw [hperm]
    exact hinfo
  have hflag : s₂.cpu.mpu.exceptionErrorInfo.isErrorOccurred = true := by
    show permission.2.mpu.exceptionErrorInfo.isErrorOccurred = true
    rw [hcpu]
    exact herror
  rw [if_pos (by rw [hperm]; exact hdenied), if_pos hflag]
  refine ⟨rfl, hput.elaps, { info with opCodeid := some optype.codeId }, ?_⟩
  show { s₁.toCpuState with cpu := flagViolation optype.codeId .mip permission.2 } = _
  rw [hcpu, hput.cpuState]
  rfl

/-- An uncached step whose check denies the access executes nothing. -/
theorem cpuSupplyClock_denied {p : Platform D} {cached : Word → Bool} {s : ClockState D}
    (hform : CacheFormed p s) (hfatal : s.cpu.fatalError = false) (hhalt : s.cpu.isHalt = false)
    (hempty : cached s.cpu.pc = true → (s.cache s.cpu.pc).opExec = none)
    {code : OpCode} (hfetch : fetchCode p s s.cpu.pc = some code)
    (hparse : parseOptype code ≠ none)
    (hdenied : (cpuHasPermission (clearR0 s.cpu) .exec s.cpu.pc (opFormatSize .format1)).1 = false) :
    DeniedClock s (cpuSupplyClock p cached s) := by
  obtain ⟨r, hr, hclock⟩ := exists_branch p cached hfatal hhalt
  have herror : DeniedClock s r := by
    cases hr with
    | slot hcached hslot =>
      have hnone : ((s.modifyCpu clearR0).cache (s.modifyCpu clearR0).cpu.pc).opExec = none :=
        hempty hcached
      rw [hslot] at hnone
      cases hnone
    | parse b _ =>
      obtain ⟨bytes, hbytes, rfl⟩ := Option.map_eq_some_iff.mp hfetch
      obtain ⟨optype, hoptype⟩ := Option.ne_none_iff_exists'.mp hparse
      have hbytes' : p.bus.getPointer (s.modifyCpu clearR0).toCpuState
          (s.modifyCpu clearR0).cpu.pc = some bytes := hbytes
      have hopParse (d : OpDecodedCode) : opParse (currentCode bytes) d =
          some (optype, opDecoder (currentCode bytes) optype.formatId d) := by
        unfold opParse
        rw [hoptype, Option.map_some]
      unfold cpuSupplyClockNotCached
      dsimp only
      rw [hbytes']
      dsimp only
      rw [hopParse]
      have hform' : CacheFormed p (s.modifyCpu clearR0) := hform.of_eq rfl rfl
      exact execParsed_denied b _ optype _
        (by rw [typeId_opDecoder, (hform'.pDecodedCode _ _).typeId]; exact hdenied)
  have hne : r.1 ≠ .ok := by
    rw [herror.1]
    decide
  have hend : endClock r = r := if_neg hne
  rw [hclock, hend]
  exact herror

/-- Two runs of a core that start in states which differ in the cache alone
and see the same events give the same return values and the same states,
whichever branch each step takes, as long as the decoded code is kept and the
instructions of the cached branch would be granted.  The check is made by the
uncached branch alone; there, a denied instruction is not executed. -/
theorem run_agree (p : Platform D) :
    (∀ (events : List (CoreEvent D)) (s t : ClockState D), SameRun p s t →
      RunPermitted p false events s → RunPermitted p true events t →
        (outputs (coreStep p false) events s).1 = (outputs (coreStep p true) events t).1 ∧
        SameCore (outputs (coreStep p false) events s).2
          (outputs (coreStep p true) events t).2) ∧
    (∀ (cached : Word → Bool) (s : ClockState D) (code : OpCode), CacheFormed p s →
      s.cpu.fatalError = false → s.cpu.isHalt = false →
      (cached s.cpu.pc = true → (s.cache s.cpu.pc).opExec = none) →
      fetchCode p s s.cpu.pc = some code → parseOptype code ≠ none →
      (cpuHasPermission (clearR0 s.cpu) .exec s.cpu.pc (opFormatSize .format1)).1 = false →
        DeniedClock s (cpuSupplyClock p cached s)) := by
  refine ⟨fun events s t h hs ht => ?_, ?_⟩
  · obtain ⟨hout, hlast⟩ := lockstep (fun e s t => coreStep_agree e) events h hs ht
    exact ⟨hout, hlast.core⟩
  · intro cached s code hform hfatal hhalt hempty hfetch hparse hdenied
    exact cpuSupplyClock_denied hform hfatal hhalt hempty hfetch hparse hdenied

/-! ## A loop over one instruction -/

/-- `BR` to itself. -/
def loopPlatform : Platform Unit := romPlatform [0x0585]

/-- A core after reset, with an empty cache. -/
def loopStart : ClockState Unit := (Machine.reset ()).clockState 0

/-- A clock, without containers in the first run and with one everywhere in the
second. -/
def loopClock : CoreEvent Unit := .clock fun run _ => run

/-- The core goes to user mode, protected, with no region enabled. -/
def loopProtect : CoreEvent Unit :=
  .outside fun s => { s with cpu := mpuSetConfig ((s.cpu.setPsw pswUM).setSysreg2 .mpm 1) }

/-- A ROM is never modified. -/
theorem codeKept_romPlatform (program : List HalfWord) (s s' : ClockState Unit) :
    CodeKept (romPlatform program) s s' :=
  fun _ _ _ code hfetch => ⟨code, hfetch, fun _ => rfl⟩

theorem sameRun_loopStart : SameRun loopPlatform loopStart loopStart := by
  have hcurrent : CacheCurrent loopPlatform loopStart := fun _ _ hslot => by cases hslot
  exact ⟨SameCore.refl _, ⟨cacheFormed_reset _ () 0, cacheFormed_reset _ () 0⟩,
    ⟨hcurrent, hcurrent⟩⟩

/-- The first clock finds an empty slot. -/
theorem eventPermitted_loopStart (run : Bool) : EventPermitted run loopStart loopClock :=
  fun _ _ _ _ hslot => by cases hslot

/-- The second clock takes the cached branch, with the protection off. -/
theorem eventPermitted_loopClock (run : Bool) :
    EventPermitted run (coreStep loopPlatform run loopClock loopStart).2 loopClock := by
  intro _ _ _ _ _
  refine targetMpuHasPermission_of_not_applied ?_ _ _ _
  cases run <;> decide +kernel

/-- The two runs of the loop agree over two clocks. -/
theorem run_agree_loop :
    (outputs (coreStep loopPlatform false) [loopClock, loopClock] loopStart).1 =
        (outputs (coreStep loopPlatform true) [loopClock, loopClock] loopStart).1 ∧
      SameCore (outputs (coreStep loopPlatform false) [loopClock, loopClock] loopStart).2
        (outputs (coreStep loopPlatform true) [loopClock, loopClock] loopStart).2 := by
  have hpermitted (run : Bool) :
      RunPermitted loopPlatform run [loopClock, loopClock] loopStart :=
    ⟨⟨codeKept_romPlatform _ _ _, eventPermitted_loopStart run⟩,
      ⟨codeKept_romPlatform _ _ _, eventPermitted_loopClock run⟩, trivial⟩
  exact (run_agree loopPlatform).1 [loopClock, loopClock] loopStart loopStart sameRun_loopStart
    (hpermitted false) (hpermitted true)

/-- After the instruction has been cached and its permission withdrawn, the
uncached branch denies it and the cached branch executes it. -/
theorem cached_not_checked :
    ∃ s t, SameRun loopPlatform s t ∧
      CodeKept loopPlatform s (cpuSupplyClock loopPlatform (fun _ => false) s).2 ∧
      CodeKept loopPlatform t (cpuSupplyClock loopPlatform (fun _ => true) t).2 ∧
      (cpuSupplyClock loopPlatform (fun _ => false) s).1 ≠
        (cpuSupplyClock loopPlatform (fun _ => true) t).1 := by
  obtain ⟨_, hclock⟩ := coreStep_agree loopClock sameRun_loopStart
    ⟨codeKept_romPlatform _ _ _, eventPermitted_loopStart false⟩
    ⟨codeKept_romPlatform _ _ _, eventPermitted_loopStart true⟩
  obtain ⟨_, hprotect⟩ := coreStep_agree loopProtect hclock
    ⟨codeKept_romPlatform _ _ _, trivial⟩ ⟨codeKept_romPlatform _ _ _, trivial⟩
  refine ⟨_, _, hprotect, codeKept_romPlatform _ _ _, codeKept_romPlatform _ _ _, ?_⟩
  decide +kernel

end Athrill
