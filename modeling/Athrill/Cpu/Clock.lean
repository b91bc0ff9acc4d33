import Athrill.Dec.Parse
import Athrill.Exec.Table
import Athrill.Mpu.Report

/-!
# One clock of a core

`cpu_supply_clock`, `cpu_supply_clock_not_cached`, `cpu_illegal_access` and
`cpu_illegal_opcode_trap`.  With `DISABLE_MEMPROTECT`, which the build defines,
the permission check of the cached branch is not compiled.

The containers of cached code are made by the emulator core, which also knows
their ranges; a slot stands for `codes[inx]` of the container that holds its
address.  The test for an empty slot is `op_exec == NULL`, so the slots start
as zeroed memory.

* `CacheSlot`, `CodeCache`: the instruction cache.
* `ClockState`: a core with the interrupt controller, the bus and the cache.
* `cpuSupplyClock`: one clock.
-/

namespace Athrill

open TargetCore Routine

/-! ## State -/

/-- One element of `codes`; the pointer `op_exec` is `none` for `NULL`. -/
structure CacheSlot (D : Type) where
  codeId : OpCodeId
  opExec : Option (OpDecodedCode → Exec D Unit)
  decodedCode : OpDecodedCode

/-- The slots of all containers, by address. -/
abbrev CodeCache (D : Type) := Word → CacheSlot D

/-- Zeroed memory. -/
def CodeCache.empty (D : Type) : CodeCache D := fun _ =>
  { codeId := .absf_d_F, opExec := none, decodedCode := OpDecodedCode.bss }

/-- What one clock of a core reads and writes; `decodedCode` is the static
variable of `cpu_supply_clock_not_cached`. -/
structure ClockState (D : Type) extends CpuState D where
  elaps : DoubleWord
  cache : CodeCache D
  decodedCode : OpDecodedCode

/-- The return value.  `bus` stands for an error of `bus_get_pointer`, `error`
for -1, `undefined` for C code without defined behaviour. -/
inductive StdReturn where
  | ok | invalid | bus | decode | segv | exec | error | undefined
  deriving DecidableEq, Repr

variable {D : Type}

namespace ClockState

/-- The core is changed. -/
def modifyCpu (f : TargetCore → TargetCore) (s : ClockState D) : ClockState D :=
  { s with cpu := f s.cpu }

/-- `p_decoded_code`: the slot, or the static variable without a container. -/
def pDecodedCode (s : ClockState D) (cached : Bool) (pc : Word) : OpDecodedCode :=
  if cached then (s.cache pc).decodedCode else s.decodedCode

/-- A write through `p_decoded_code`. -/
def putDecodedCode (s : ClockState D) (cached : Bool) (pc : Word) (code : OpDecodedCode) :
    ClockState D :=
  if cached then
    { s with cache := Function.update s.cache pc { s.cache pc with decodedCode := code } }
  else { s with decodedCode := code }

/-- The slot is filled after the execution. -/
def fillSlot (s : ClockState D) (cached : Bool) (pc : Word) (codeId : OpCodeId)
    (executor : OpDecodedCode → Exec D Unit) : ClockState D :=
  if cached then
    { s with
      cache := Function.update s.cache pc
        { s.cache pc with codeId := codeId, opExec := some executor } }
  else s

end ClockState

/-! ## Steps -/

/-- The flags of an MPU violation. -/
def flagViolation (codeId : OpCodeId) (exno : ExceptionId) (cpu : TargetCore) : TargetCore :=
  { cpu with
    mpu :=
      { cpu.mpu with
        exceptionErrorInfo := { cpu.mpu.exceptionErrorInfo with opCodeid := some codeId } }
    currentCodeException := ⟨true, some exno⟩ }

/-- `reg.r[0] = 0`. -/
def clearR0 (cpu : TargetCore) : TargetCore :=
  { cpu with r := Function.update cpu.r 0 0 }

/-- The halfwords behind `current_code`. -/
def currentCode (bytes : Nat → Byte) : OpCode := fun n =>
  bytes (2 * n + 1) ++ bytes (2 * n)

/-- The call of the executor and the tests after it, as both branches have
them. -/
def execCode (codeId : OpCodeId) (executor : Exec D Unit) (s : ClockState D) :
    StdReturn × ClockState D :=
  let s := s.modifyCpu fun cpu => { cpu with realElaps := opExecClocks codeId }
  let result := executor.run s.toCpuState
  let s := { s with toCpuState := result.2 }
  if result.1 = .error .undefined then (.undefined, s)
  else if s.cpu.mpu.exceptionErrorInfo.isErrorOccurred then
    (.error, s.modifyCpu (flagViolation codeId .mdp))
  else if result.1 = .error .fail then (.exec, s)
  else (.ok, { s with elaps := s.elaps + s.cpu.realElaps.setWidth 64 })

/-- `cpu_supply_clock_not_cached`, from the result of the parser on. -/
def execParsed (p : Platform D) (cached : Bool) (pc : Word) (optype : OperationCode)
    (decodedCode : OpDecodedCode) (s : ClockState D) : StdReturn × ClockState D :=
  let s := s.putDecodedCode cached pc decodedCode
  let permission := cpuHasPermission s.cpu .exec pc (opFormatSize decodedCode.typeId)
  let s := s.modifyCpu fun _ => permission.2
  if permission.1 = false then
    if s.cpu.mpu.exceptionErrorInfo.isErrorOccurred then
      (.error, s.modifyCpu (flagViolation optype.codeId .mip))
    else (.segv, s)
  else
    match opExecTable p optype.codeId with
    | none => (.exec, s)
    | some executor =>
      let result := execCode optype.codeId (executor decodedCode) s
      if result.1 = .ok then (.ok, result.2.fillSlot cached pc optype.codeId executor)
      else result

/-- `cpu_supply_clock_not_cached`; `cached` tells whether there is a container. -/
def cpuSupplyClockNotCached (p : Platform D) (cached : Bool) (s : ClockState D) :
    StdReturn × ClockState D :=
  let pc := s.cpu.pc
  match p.bus.getPointer s.toCpuState pc with
  | none => (.bus, s)
  | some bytes =>
    match opParse (currentCode bytes) (s.pDecodedCode cached pc) with
    | none => (.decode, s)
    | some (optype, decodedCode) => execParsed p cached pc optype decodedCode s

/-- A successful clock ends with `reg.r[0] = 0`. -/
def endClock (result : StdReturn × ClockState D) : StdReturn × ClockState D :=
  if result.1 = .ok then (.ok, result.2.modifyCpu clearR0) else result

/-- `cpu_supply_clock`; `cached` tells which addresses have a container. -/
def cpuSupplyClock (p : Platform D) (cached : Word → Bool) (s : ClockState D) :
    StdReturn × ClockState D :=
  if s.cpu.fatalError then (.invalid, s)
  else if s.cpu.isHalt then (.ok, s)
  else
    let s := s.modifyCpu clearR0
    let pc := s.cpu.pc
    if cached pc then
      match (s.cache pc).opExec with
      | none => endClock (cpuSupplyClockNotCached p true s)
      | some executor =>
        endClock (execCode (s.cache pc).codeId (executor (s.cache pc).decodedCode) s)
    else endClock (cpuSupplyClockNotCached p false s)

/-! ## Exceptions found by the executors -/

/-- The flags that `cpu_illegal_access` clears. -/
def clearViolation (cpu : TargetCore) : TargetCore :=
  { cpu with
    currentCodeException := ⟨false, none⟩
    mpu :=
      { cpu.mpu with
        exceptionErrorInfo := { cpu.mpu.exceptionErrorInfo with isErrorOccurred := false } } }

/-- `cpu_illegal_access`; `none` is undefined behaviour. -/
def cpuIllegalAccess (s : CpuIntc) : Option (Bool × CpuIntc) :=
  if s.cpu.currentCodeException.isCodeException = false then some (false, s)
  else
    let exno := s.cpu.currentCodeException.exceptionType
    let reported : Option CpuIntc :=
      if exno = some .pie then some (intcRaiseException s.cpu.coreId .pie s)
      else if exno = some .mdp then
        let s := intcRaiseException s.cpu.coreId .mdp s
        (targetMpuSetError s.cpu).map fun cpu => { s with cpu := cpu }
      else if exno = some .mip then
        let s := intcRaiseException s.cpu.coreId .mip s
        (targetMpuSetError s.cpu).map fun cpu => { s with cpu := cpu }
      else some s
    reported.map fun s => (true, { s with cpu := clearViolation s.cpu })

/-- `cpu_illegal_opcode_trap`; the mask keeps eight bits of `ECR`. -/
def cpuIllegalOpcodeTrap (cpu : TargetCore) : TargetCore :=
  let cpu := cpu.setSysreg2 .eipc (cpu.pc - 4)
  let cpu := cpu.setSysreg2 .eipsw cpu.psw
  let cpu := cpu.setSysreg2 .ecr ((cpu.getSysreg2 .ecr &&& 0x00FF#32) ||| (0x60#32 <<< 16))
  let cpu := ((cpu.setPsw pswNP).setPsw pswEP).setPsw pswID
  { cpu with pc := 0x60 }

end Athrill
