import Athrill.Cpu.Machine
import Athrill.Lib.MinScan

/-!
# The interrupt controller

`intc.c` and `intc_user.c`.  A user interrupt waits in the user queue of a
core; the judge copies it to the exception queue of its level, and starts the
best entry of the exception queues.  A started entry stays in its queue until
the handler returns, the entry of an interrupted handler with the status
`waiting`.

* `intcRaiseException`, `commonRaiseUserIntr`: new requests.
* `intcClrFe`, `intcClrEi`: the end of a handler.
* `judgePendingUserIntr`: from the user queue to the exception queue.
* `judgePendingException`: which entry starts.
* `raiseException`: the start of a handler.
* `Searched`, `raiseException_cases`: what that changes.
-/

namespace Athrill

open TargetCore Bits MinScan

/-! ## Queues -/

/-- The controller of one core is changed. -/
def Intc.modifyControl (intc : Intc) (coreId : CoreId)
    (f : ExceptionController → ExceptionController) : Intc :=
  { intc with control := Function.update intc.control coreId (f (intc.control coreId)) }

namespace ExceptionController

/-- One exception queue is changed. -/
def modifyQueue (control : ExceptionController) (level : Fin 16)
    (f : List ExceptionRequest → List ExceptionRequest) : ExceptionController :=
  { control with
    exceptionQueue :=
      Function.update control.exceptionQueue level (f (control.exceptionQueue level)) }

/-- A write to the status of an entry, in whatever queue it is. -/
def putStatus (control : ExceptionController) (entry : Nat) (status : ExceptionRequestStatus) :
    ExceptionController :=
  { control with
    exceptionQueue := fun level => setStatus entry status (control.exceptionQueue level)
    userQueue := setStatus entry status control.userQueue }

end ExceptionController

/-- `ListEntry_Alloc` and `ListEntry_AddEntry` on an exception queue. -/
def addException (intc : Intc) (coreId : CoreId) (level : Fin 16) (request : ExceptionRequest) :
    Intc :=
  { intc.modifyControl coreId fun control =>
      control.modifyQueue level fun queue => queue ++ [{ request with entry := intc.nextEntry }] with
    nextEntry := intc.nextEntry + 1 }

/-- `ListEntry_Alloc` and `ListEntry_AddEntry` on the user queue. -/
def addUser (intc : Intc) (coreId : CoreId) (request : ExceptionRequest) : Intc :=
  { intc.modifyControl coreId fun control =>
      { control with userQueue := control.userQueue ++ [{ request with entry := intc.nextEntry }] }
    with nextEntry := intc.nextEntry + 1 }

/-! ## Priority registers of a core -/

/-- `intc_get_current_user_intr_priority_degree` and
`intc_get_mask_priority_degree`: the lowest set bit of `ISPR` or `PMR` among
bits 0 to 15, and `IntcPriorityDegree_Num` without one. -/
def lowestDegree (data : Word) : Nat :=
  ((List.range 16).find? fun degree => data.getLsbD degree).getD 16

/-- `intc_get_current_user_intr_priority_degree`. -/
def intcGetCurrentUserIntrPriorityDegree (cpu : TargetCore) : Nat :=
  lowestDegree (cpu.getSysreg2 .ispr)

/-- `intc_get_mask_priority_degree`. -/
def intcGetMaskPriorityDegree (cpu : TargetCore) : Nat :=
  lowestDegree (cpu.getSysreg2 .pmr)

/-- `CPU_ISSET_INTCFG_ISPC`. -/
def issetIntcfgIspc (cpu : TargetCore) : Bool :=
  (cpu.getSysreg2 .intcfg).getLsbD 0

/-- `intc_set_current_user_intr_priority_degree`. -/
def intcSetCurrentUserIntrPriorityDegree (intc : Intc) (cpu : TargetCore) (intno : Nat)
    (flag : Bool) : TargetCore :=
  if issetIntcfgIspc cpu then cpu
  else
    let ispr := cpu.getSysreg2 .ispr
    if flag then cpu.setSysreg2 .ispr (setBit ispr (intcGetUserIntrPriorityDegree intc intno))
    else if cpu.issetEP then cpu
    else if lowestDegree ispr = 16 then cpu
    else cpu.setSysreg2 .ispr (clearBit ispr (lowestDegree ispr))

/-- `intc_set_user_intr_state_priority_degree_masked`: bit 0 of `ICSR`. -/
def intcSetUserIntrStatePriorityDegreeMasked (cpu : TargetCore) (flag : Bool) : TargetCore :=
  cpu.setSysreg2 .icsr (putBit (cpu.getSysreg2 .icsr) 0 flag)

/-! ## Requests -/

/-- `intc_raise_exception`. -/
def intcRaiseException (coreId : CoreId) (exno : ExceptionId) (s : CpuIntc) : CpuIntc where
  intc :=
    addException s.intc coreId (intcGetExceptionPriorityLevel exno)
      { entry := 0, status := .runnable, coreId := coreId, exno := exno, intno := 0
        priorityDegree := intcGetExceptionPriorityDegree s.intc exno 0 }
  cpu := { s.cpu with isHalt := false }

/-- `common_raise_user_intr`. -/
def commonRaiseUserIntr (intno : Nat) (coreId : CoreId) (intc : Intc) : Intc :=
  if intcIssetUserIntrReqflag intc intno then intc
  else
    let intc :=
      addUser intc coreId
        { entry := 0, status := .pending, coreId := coreId, exno := .userIntr, intno := intno
          priorityDegree := intcGetExceptionPriorityDegree intc .userIntr intno }
    intcSetUserIntrReqflag intc coreId intno true

/-- `intc_raise_intr`: the loop over the cores. -/
def intcRaiseIntr (intno : Nat) (intc : Intc) : Intc :=
  commonRaiseUserIntr intno 1 (commonRaiseUserIntr intno 0 intc)

/-- `intc_cpu_trigger_interrupt`: the other core. -/
def intcCpuTriggerInterrupt (coreId : CoreId) (intno : Nat) (intc : Intc) : Intc :=
  commonRaiseUserIntr intno (if coreId = 0 then 1 else 0) intc

/-! ## The end of a handler -/

/-- The running exception leaves its queue. -/
def dropCurrent (coreId : CoreId) (exp : ExceptionRequest) (intc : Intc) : Intc :=
  intc.modifyControl coreId fun control =>
    { control.modifyQueue (intcGetExceptionPriorityLevel exp.exno) (removeEntry exp.entry) with
      currentException := none }

/-- `intc_clr_fe`. -/
def intcClrFe (coreId : CoreId) (s : CpuIntc) : CpuIntc :=
  match (s.intc.control coreId).current with
  | none => s
  | some exp => { s with intc := dropCurrent coreId exp s.intc }

/-- `intc_clr_ei`. -/
def intcClrEi (coreId : CoreId) (s : CpuIntc) : CpuIntc :=
  match (s.intc.control coreId).current with
  | none => s
  | some exp =>
    { cpu :=
        if exp.exno = .userIntr then
          intcSetCurrentUserIntrPriorityDegree s.intc s.cpu exp.intno false
        else s.cpu
      intc := dropCurrent coreId exp s.intc }

/-! ## The user queue -/

/-- The loop of `judge_mask_and_priority_UserIntr`. -/
def userCandidate (intc : Intc) (queue : List ExceptionRequest) : Option ExceptionRequest :=
  (scan ExceptionRequest.priorityDegree (0xFFFFFFFF, none)
    (queue.filter fun req => !intcIsUserIntrMasked intc req.intno)).2

/-- `judge_cpu_mask_UserIntr`. -/
def judgeCpuMaskUserIntr (candidate : ExceptionRequest) (s : CpuIntc) : CpuIntc :=
  let intrLevel := intcGetUserIntrPriorityDegree s.intc candidate.intno
  if intcGetCurrentUserIntrPriorityDegree s.cpu ≤ intrLevel then s
  else if intcGetMaskPriorityDegree s.cpu ≤ intrLevel then
    { s with cpu := intcSetUserIntrStatePriorityDegreeMasked s.cpu true }
  else
    let intc := s.intc.modifyControl candidate.coreId fun control =>
      { control with userQueue := setStatus candidate.entry .runnable control.userQueue }
    { cpu := intcSetUserIntrStatePriorityDegreeMasked s.cpu false
      intc :=
        addException intc candidate.coreId candidate.level { candidate with status := .runnable } }

/-- `judge_pending_UserIntr`; a candidate that is already runnable is not
queued again. -/
def judgePendingUserIntr (coreId : CoreId) (s : CpuIntc) : CpuIntc :=
  match userCandidate s.intc (s.intc.control coreId).userQueue with
  | none => s
  | some candidate =>
    if candidate.status = .runnable then s
    else judgeCpuMaskUserIntr candidate { s with cpu := { s.cpu with isHalt := false } }

/-- `hook_UserIntr_Raised`: the first entry of the channel leaves the user
queue. -/
def hookUserIntrRaised (exception : ExceptionRequest) (s : CpuIntc) : CpuIntc :=
  let coreId := exception.coreId
  let found := (s.intc.control coreId).userQueue.find? fun req => req.intno = exception.intno
  let intc := match found with
    | some req => s.intc.modifyControl coreId fun control =>
        { control with userQueue := removeEntry req.entry control.userQueue }
    | none => s.intc
  { cpu := intcSetCurrentUserIntrPriorityDegree intc s.cpu exception.intno true
    intc := match found with
      | some req => intcSetUserIntrReqflag intc req.coreId req.intno false
      | none => intc }

/-! ## The exception queues -/

/-- `is_cpu_mask_UserIntr`: the result. -/
def isCpuMaskUserIntr (intc : Intc) (cpu : TargetCore) (candidate : ExceptionRequest) : Bool :=
  decide (intcGetMaskPriorityDegree cpu ≤ intcGetUserIntrPriorityDegree intc candidate.intno)

/-- The entry is skipped by the loop of `judge_pending_Exception`. -/
def judgeSkips (intc : Intc) (cpu : TargetCore) (req : ExceptionRequest) : Bool :=
  decide (req.exno = .userIntr) && isCpuMaskUserIntr intc cpu req

/-- What the loops of `judge_pending_Exception` carry: the minimal degree with
the candidate, and the core. -/
structure JudgeState where
  best : Nat × Option ExceptionRequest
  cpu : TargetCore

/-- One entry of the inner loop; a masked user interrupt is recorded in `ICSR`
and skipped. -/
def judgeEntry (intc : Intc) (js : JudgeState) (req : ExceptionRequest) : JudgeState :=
  if judgeSkips intc js.cpu req then
    { js with cpu := intcSetUserIntrStatePriorityDegreeMasked js.cpu true }
  else { js with best := step ExceptionRequest.priorityDegree js.best req }

/-- The outer loop of `judge_pending_Exception` over the levels that are left:
it goes on as long as the candidate is the running exception. -/
def judgeLevels (intc : Intc) (control : ExceptionController) :
    List (Fin 16) → JudgeState → JudgeState
  | [], js => js
  | level :: levels, js =>
    let js := (control.exceptionQueue level).foldl (judgeEntry intc) js
    if js.best.2.map ExceptionRequest.entry = control.currentException then
      judgeLevels intc control levels js
    else if js.best.2.isSome then js
    else judgeLevels intc control levels js

/-- The state in which the loops start. -/
def judgeStart (control : ExceptionController) (cpu : TargetCore) : JudgeState :=
  match control.current with
  | some current => { best := (current.priorityDegree, some current), cpu := cpu }
  | none => { best := (0xFFFFFFFF, none), cpu := cpu }

/-- The levels that the outer loop visits: up to that of the running exception. -/
def judgeLevelList (control : ExceptionController) : List (Fin 16) :=
  let currentLevel := match control.current with
    | some current => intcGetExceptionPriorityLevel current.exno
    | none => 15
  (List.finRange 16).filter fun level => level ≤ currentLevel

/-- The loops of `judge_pending_Exception`. -/
def judgeSearch (coreId : CoreId) (s : CpuIntc) : JudgeState :=
  let control := s.intc.control coreId
  judgeLevels s.intc control (judgeLevelList control) (judgeStart control s.cpu)

/-- `can_raise_Exception`. -/
def canRaiseException (exception : ExceptionRequest) (cpu : TargetCore) : Bool × TargetCore :=
  if exception.req.cond.np = false ∧ cpu.issetNP = true then (false, cpu)
  else if exception.req.cond.id = false ∧ cpu.issetID = true then
    if cpu.isHalt then (true, { cpu with isHalt := false }) else (false, cpu)
  else (true, cpu)

/-- The end of `judge_pending_Exception`, with a candidate that is not the
running exception. -/
def judgeAccept (coreId : CoreId) (candidate : ExceptionRequest) (s : CpuIntc) :
    Option ExceptionRequest × CpuIntc :=
  if candidate.status = .waiting then
    (none, { s with
      intc := s.intc.modifyControl coreId fun control =>
        { control.putStatus candidate.entry .running with
          currentException := some candidate.entry } })
  else
    -- the running exception is marked before the candidate is accepted
    let intc := match (s.intc.control coreId).currentException with
      | some current => s.intc.modifyControl coreId fun control => control.putStatus current .waiting
      | none => s.intc
    let (accepted, cpu) := canRaiseException candidate s.cpu
    if accepted then
      (some { candidate with status := .running },
        { cpu :=
            if candidate.exno = .userIntr then intcSetUserIntrStatePriorityDegreeMasked cpu false
            else cpu
          intc := intc.modifyControl coreId fun control =>
            { control.putStatus candidate.entry .running with
              currentException := some candidate.entry } })
    else (none, { cpu := cpu, intc := intc })

/-- `judge_pending_Exception`. -/
def judgePendingException (coreId : CoreId) (s : CpuIntc) : Option ExceptionRequest × CpuIntc :=
  let js := judgeSearch coreId s
  let s := { s with cpu := js.cpu }
  match js.best.2 with
  | none => (none, s)
  | some candidate =>
    if some candidate.entry = (s.intc.control coreId).currentException then (none, s)
    else judgeAccept coreId candidate s

/-! ## The start of a handler -/

/-- The four `PSW` updates of `raise_Exception`. -/
def updatePsw (op : ExceptionUpdatePswOp) (bit : Nat) (cpu : TargetCore) : TargetCore :=
  match op with
  | .set => cpu.setPsw bit
  | .clr => cpu.clrPsw bit
  | .save => cpu

/-- `intc_get_exception_code_mpu`; the conditional operator of
`INTC_GET_EXCEPTION_CODE_MPU_SET` binds weaker than the `|` between its uses. -/
def intcGetExceptionCodeMpu (cpu : TargetCore) : Word :=
  let info := cpu.mpu.exceptionErrorInfo.intcErrorInfo
  let wdata : Word :=
    if info.isMsError then BitVec.twoPow 32 24
    else if info.isBlError then BitVec.twoPow 32 23
    else if info.isRmwError then BitVec.twoPow 32 22
    else 0
  let wdata := wdata |||
    if info.isSvMode then BitVec.twoPow 32 (if info.accessType = .read then 19 else 20)
    else BitVec.twoPow 32 (if info.accessType = .read then 16 else 17)
  wdata ||| if info.exceptionErrorCode = .mip then 0x90 else 0x91

/-- `intc_get_exception_code`. -/
def intcGetExceptionCode (cpu : TargetCore) (exno : ExceptionId) (intno : Nat) : Word :=
  if exno = .userIntr then (exceptionConfig exno).handler.code + BitVec.ofNat 32 intno
  else if exno = .mip ∨ exno = .mdp then intcGetExceptionCodeMpu cpu
  else (exceptionConfig exno).handler.code

/-- The save and cause registers that `raise_Exception` writes. -/
def saveContext (exception : ExceptionRequest) (cpu : TargetCore) : TargetCore :=
  if exception.req.level = .fe then
    let cpu := cpu.setSysreg2 .fepc cpu.pc
    let cpu := cpu.setSysreg2 .fepsw cpu.psw
    cpu.setSysreg2 .feic (intcGetExceptionCode cpu exception.exno 0)
  else
    let cpu := cpu.setSysreg2 .eipc cpu.pc
    let cpu := cpu.setSysreg2 .eipsw cpu.psw
    cpu.setSysreg2 .eiic ((cpu.getSysreg2 .eiic &&& 0xFFFF0000#32) |||
      intcGetExceptionCode cpu exception.exno exception.intno)

/-- The four updates of `PSW`, in the order of the source. -/
def updatePswInfo (info : ExceptionUpdatePswInfo) (cpu : TargetCore) : TargetCore :=
  updatePsw info.um pswUM (updatePsw info.ep pswEP (updatePsw info.np pswNP
    (updatePsw info.id pswID cpu)))

/-- `HandlerAddressRefMethodType`. -/
inductive HandlerAddressRefMethod where
  | rbaseRint0 | rbaseRint1 | ebaseRint0 | ebaseRint1 | table
  deriving DecidableEq, Repr

/-- `intc_get_addr_refmethod`. -/
def intcGetAddrRefmethod (s : CpuIntc) (intno : Nat) : HandlerAddressRefMethod :=
  let isEbase := s.cpu.issetEBV
  let isRint := if isEbase then (s.cpu.getSysreg2 .ebase).getLsbD 0
    else (s.cpu.getSysreg2 .rbase).getLsbD 0
  if isRint then if isEbase then .ebaseRint1 else .rbaseRint1
  else if !intcIsDevsettingTableref s.intc intno then
    if isEbase then .ebaseRint0 else .rbaseRint0
  else .table

/-- `CPU_RBASE_ADDR`. -/
def cpuRbaseAddr (cpu : TargetCore) : Word := clearBit (cpu.getSysreg2 .rbase) 0

/-- `CPU_EBASE_ADDR`. -/
def cpuEbaseAddr (cpu : TargetCore) : Word := clearBit (cpu.getSysreg2 .ebase) 0

/-- The offset of a user interrupt's handler by priority. -/
def userHandlerOffset (intc : Intc) (intno : Nat) (isRint : Bool) : Word :=
  if isRint then 0 else BitVec.ofNat 32 (intcGetUserIntrPriorityDegree intc intno) * 16

/-- `intc_get_handler_addr_rbase`. -/
def intcGetHandlerAddrRbase (s : CpuIntc) (exno : ExceptionId) (intno : Nat) (isRint : Bool) :
    Word :=
  let baseAddr := cpuRbaseAddr s.cpu + (exceptionConfig exno).handler.addr
  if exno = .userIntr then baseAddr + userHandlerOffset s.intc intno isRint else baseAddr

/-- `intc_get_handler_addr_ebase`. -/
def intcGetHandlerAddrEbase (s : CpuIntc) (exno : ExceptionId) (intno : Nat) (isRint : Bool) :
    Word :=
  let baseAddr := cpuEbaseAddr s.cpu + (exceptionConfig exno).handler.addr
  if exno = .userIntr then baseAddr + userHandlerOffset s.intc intno isRint
  else if (exceptionConfig exno).handler.isRbase then
    cpuRbaseAddr s.cpu + (exceptionConfig exno).handler.addr
  else baseAddr

section Raise

variable {D : Type} (bus : Bus D)

/-- `intc_get_handler_addr_intbp`; the assertion that the exception is a user
interrupt fails for any other, and no address is returned.  The table is read
over the bus, and a failing read is fatal. -/
def intcGetHandlerAddrIntbp (s : CpuState D) (exno : ExceptionId) (intno : Nat) :
    Option (Word × CpuState D) :=
  let baseAddr := s.cpu.getSysreg2 .intbp + BitVec.ofNat 32 intno * 4
  if exno = .userIntr then
    match bus.getData32 s baseAddr with
    | (some data, v) => some (data, s.withView v)
    | (none, v) =>
      let s := s.withView v
      some (s.cpu.pc, { s with cpu := { s.cpu with fatalError := true } })
  else none

/-- `intc_get_exception_handler_addr`; `none` when an assertion stops the
emulator. -/
def intcGetExceptionHandlerAddr (s : CpuState D) (exno : ExceptionId) (intno : Nat) :
    Option (Word × CpuState D) :=
  match intcGetAddrRefmethod s.toCpuIntc intno with
  | .rbaseRint0 => some (intcGetHandlerAddrRbase s.toCpuIntc exno intno false, s)
  | .rbaseRint1 => some (intcGetHandlerAddrRbase s.toCpuIntc exno intno true, s)
  | .ebaseRint0 => some (intcGetHandlerAddrEbase s.toCpuIntc exno intno false, s)
  | .ebaseRint1 => some (intcGetHandlerAddrEbase s.toCpuIntc exno intno true, s)
  | .table => intcGetHandlerAddrIntbp bus s exno intno

/-- `raise_Exception` up to the search for the handler. -/
def enterException (exception : ExceptionRequest) (s : CpuState D) : CpuState D :=
  let ci := if exception.exno = .userIntr then hookUserIntrRaised exception s.toCpuIntc
    else s.toCpuIntc
  let cpu := updatePswInfo exception.req.info (saveContext exception ci.cpu)
  { s with cpu := cpu, intc := ci.intc }

/-- `raise_Exception`; where the search for the handler stops the emulator, the
state it stops in. -/
def raiseException (exception : ExceptionRequest) (s : CpuState D) : CpuState D :=
  let s := enterException exception s
  match intcGetExceptionHandlerAddr bus s exception.exno exception.intno with
  | some (addr, s) => { s with cpu := { s.cpu with pc := addr, isHalt := false } }
  | none => s

/-- One core's pass of the first loop of `device_supply_clock_intc`. -/
def supplyClockIntc (coreId : CoreId) (s : CpuState D) : CpuState D :=
  let ci := judgePendingUserIntr coreId s.toCpuIntc
  match judgePendingException coreId ci with
  | (some exception, ci) => raiseException bus exception { s with cpu := ci.cpu, intc := ci.intc }
  | (none, ci) => { s with cpu := ci.cpu, intc := ci.intc }

/-- The pass returns: no assertion stops the emulator in it. -/
def supplyClockReturns (coreId : CoreId) (s : CpuState D) : Bool :=
  let ci := judgePendingUserIntr coreId s.toCpuIntc
  match judgePendingException coreId ci with
  | (some exception, ci) =>
    (intcGetExceptionHandlerAddr bus
      (enterException exception { s with cpu := ci.cpu, intc := ci.intc })
      exception.exno exception.intno).isSome
  | (none, _) => true

/-! ## What the start of a handler changes -/

/-- The states that the search for a handler's address leaves of `s`; `v` is
what lies behind the bus after a read of the table. -/
inductive Searched (s : CpuState D) (v : BusView D) : CpuState D → Prop
  | direct : Searched s v s
  | table : Searched s v (s.withView v)
  | failed : Searched s v
      { s.withView v with cpu := { (s.withView v).cpu with fatalError := true } }

/-- The read of the table. -/
def tableView (s : CpuState D) (intno : Nat) : BusView D :=
  (bus.getData32 s (s.cpu.getSysreg2 .intbp + BitVec.ofNat 32 intno * 4)).2

theorem searched_of_some {bus : Bus D} {s s' : CpuState D} {exno : ExceptionId} {intno : Nat}
    {addr : Word} (h : intcGetExceptionHandlerAddr bus s exno intno = some (addr, s')) :
    Searched s (tableView bus s intno) s' := by
  unfold intcGetExceptionHandlerAddr at h
  unfold tableView
  split at h
  · cases h
    exact .direct
  · cases h
    exact .direct
  · cases h
    exact .direct
  · cases h
    exact .direct
  · unfold intcGetHandlerAddrIntbp at h
    dsimp only at h
    split_ifs at h
    split at h
    · rename_i data v hread
      cases h
      rw [hread]
      exact .table
    · rename_i v hread
      cases h
      rw [hread]
      exact .failed

/-- Either an assertion stops the emulator after the entry, or the handler starts
in the state that the search leaves. -/
theorem raiseException_cases (exception : ExceptionRequest) (s : CpuState D) :
    raiseException bus exception s = enterException exception s ∨
      ∃ s' addr, Searched (enterException exception s)
          (tableView bus (enterException exception s) exception.intno) s' ∧
        raiseException bus exception s =
          { s' with cpu := { s'.cpu with pc := addr, isHalt := false } } := by
  unfold raiseException
  dsimp only
  split
  · rename_i addr s' hsome
    exact Or.inr ⟨s', addr, searched_of_some hsome, rfl⟩
  · exact Or.inl rfl

end Raise

end Athrill
