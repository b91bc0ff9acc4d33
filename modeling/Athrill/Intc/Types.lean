import Athrill.Cpu.Registers

/-!
# Exception requests and the exception table

The types of `intc.h` and `intc_target.h`, and `exception_config`.

A list entry of the source is reached through its address; here every entry
carries a number, given to it when it is allocated, that stands for the
address.  `ListEntry_AddEntry` appends at the end of a list, so a list is in
the order of arrival.  The pointer `req` of an entry always points into
`exception_config`, at the exception number of the entry.

* `ExceptionRequest`: one list entry.
* `ExceptionController`: the queues of one core and its running exception.
* `exceptionConfig`: the table of exceptions.
-/

namespace Athrill

/-! ## The exception table -/

/-- `ExceptionLevelType`. -/
inductive ExceptionLevel where
  | fe | ei | reset
  deriving DecidableEq, Repr

/-- `ExceptionUpdatePswOpType`. -/
inductive ExceptionUpdatePswOp where
  | clr | set | save
  deriving DecidableEq, Repr

/-- `ExceptionUpdatePswInfoType`; no function reads its `EBV`. -/
structure ExceptionUpdatePswInfo where
  um : ExceptionUpdatePswOp
  id : ExceptionUpdatePswOp
  np : ExceptionUpdatePswOp
  ep : ExceptionUpdatePswOp
  ebv : ExceptionUpdatePswOp
  deriving DecidableEq, Repr

/-- `ExceptionPriorityType`. -/
structure ExceptionPriority where
  level : Fin 16
  degreeCustom : Nat
  deriving DecidableEq, Repr

/-- `ExceptionHandlerType`. -/
structure ExceptionHandler where
  addr : Word
  code : Word
  isRbase : Bool
  deriving DecidableEq, Repr

/-- `ExceptionCanRaiseConditionType`. -/
structure ExceptionCanRaiseCondition where
  id : Bool
  np : Bool
  deriving DecidableEq, Repr

/-- `ExceptionType` without its name. -/
structure ExceptionType where
  priority : ExceptionPriority
  handler : ExceptionHandler
  level : ExceptionLevel
  cond : ExceptionCanRaiseCondition
  info : ExceptionUpdatePswInfo
  deriving DecidableEq, Repr

open ExceptionUpdatePswOp in
/-- `exception_config`. -/
def exceptionConfig : ExceptionId → ExceptionType
  | .reset =>
    { priority := ⟨0, 0⟩, handler := ⟨0x00, 0x00, false⟩, level := .reset
      cond := ⟨true, true⟩, info := ⟨clr, set, clr, clr, clr⟩ }
  | .fenmi =>
    { priority := ⟨2, 0⟩, handler := ⟨0xE0, 0xE0, true⟩, level := .fe
      cond := ⟨true, true⟩, info := ⟨clr, set, set, clr, save⟩ }
  | .syserr1 =>
    { priority := ⟨2, 1⟩, handler := ⟨0x10, 0x10, true⟩, level := .fe
      cond := ⟨true, true⟩, info := ⟨clr, set, set, set, save⟩ }
  | .feint =>
    { priority := ⟨2, 2⟩, handler := ⟨0xF0, 0xF0, true⟩, level := .fe
      cond := ⟨true, false⟩, info := ⟨clr, set, set, clr, save⟩ }
  | .fpi =>
    { priority := ⟨3, 0⟩, handler := ⟨0x70, 0x72, true⟩, level := .ei
      cond := ⟨false, false⟩, info := ⟨clr, set, save, set, save⟩ }
  | .userIntr =>
    { priority := ⟨3, 0⟩, handler := ⟨0x100, 0x1000, true⟩, level := .ei
      cond := ⟨false, false⟩, info := ⟨clr, set, save, clr, save⟩ }
  | .mip =>
    { priority := ⟨9, 0⟩, handler := ⟨0x90, 0x90, true⟩, level := .fe
      cond := ⟨true, true⟩, info := ⟨clr, set, set, set, save⟩ }
  | .syserr2 =>
    { priority := ⟨9, 2⟩, handler := ⟨0x10, 0x10, true⟩, level := .fe
      cond := ⟨true, true⟩, info := ⟨clr, set, set, set, save⟩ }
  | .rie =>
    { priority := ⟨9, 3⟩, handler := ⟨0x60, 0x60, true⟩, level := .fe
      cond := ⟨true, true⟩, info := ⟨clr, set, set, set, save⟩ }
  | .ucpop =>
    { priority := ⟨9, 4⟩, handler := ⟨0x80, 0x80, true⟩, level := .fe
      cond := ⟨true, true⟩, info := ⟨clr, set, set, set, save⟩ }
  | .pie =>
    { priority := ⟨9, 5⟩, handler := ⟨0xA0, 0xA0, true⟩, level := .fe
      cond := ⟨true, true⟩, info := ⟨clr, set, set, set, save⟩ }
  | .mae =>
    { priority := ⟨10, 0⟩, handler := ⟨0xC0, 0xC0, true⟩, level := .fe
      cond := ⟨true, true⟩, info := ⟨clr, set, set, set, save⟩ }
  | .mdp =>
    { priority := ⟨10, 0⟩, handler := ⟨0x90, 0x91, true⟩, level := .fe
      cond := ⟨true, true⟩, info := ⟨clr, set, set, set, save⟩ }
  | .fpp =>
    { priority := ⟨10, 0⟩, handler := ⟨0x70, 0x71, true⟩, level := .ei
      cond := ⟨true, true⟩, info := ⟨clr, set, save, set, save⟩ }
  | .syscall =>
    { priority := ⟨11, 0⟩, handler := ⟨0x40, 0x8000, true⟩, level := .ei
      cond := ⟨true, true⟩, info := ⟨clr, set, save, set, save⟩ }
  | .fetrap =>
    { priority := ⟨11, 0⟩, handler := ⟨0x30, 0x31, true⟩, level := .fe
      cond := ⟨true, true⟩, info := ⟨clr, set, set, set, save⟩ }
  | .trap0 =>
    { priority := ⟨11, 0⟩, handler := ⟨0x40, 0x40, true⟩, level := .ei
      cond := ⟨true, true⟩, info := ⟨clr, set, save, set, save⟩ }
  | .trap1 =>
    { priority := ⟨11, 0⟩, handler := ⟨0x50, 0x50, true⟩, level := .ei
      cond := ⟨true, true⟩, info := ⟨clr, set, save, set, save⟩ }

/-! ## Requests -/

/-- `ExceptionRequestStatusType`. -/
inductive ExceptionRequestStatus where
  | pending | runnable | running | waiting
  deriving DecidableEq, Repr

/-- `ExceptionRequestEntryType`: the entry and its data.  The `uint32` degree is
kept as its value. -/
structure ExceptionRequest where
  entry : Nat
  status : ExceptionRequestStatus
  coreId : CoreId
  exno : ExceptionId
  intno : Nat
  priorityDegree : Nat
  deriving DecidableEq, Repr

/-- The pointer `data.req`. -/
def ExceptionRequest.req (request : ExceptionRequest) : ExceptionType :=
  exceptionConfig request.exno

/-- The queue index of a request. -/
def ExceptionRequest.level (request : ExceptionRequest) : Fin 16 :=
  request.req.priority.level

/-- `ExceptionControllerType` without the pointer to the core; the running
exception is given by its entry. -/
structure ExceptionController where
  currentException : Option Nat
  exceptionQueue : Fin 16 → List ExceptionRequest
  userQueue : List ExceptionRequest

/-- The data of the running exception, read through the pointer. -/
def ExceptionController.current (control : ExceptionController) : Option ExceptionRequest :=
  control.currentException.bind fun entry =>
    ((List.finRange 16).flatMap control.exceptionQueue).find? fun req => req.entry = entry

/-! ## List operations -/

/-- `ListEntry_RemoveEntry`. -/
def removeEntry (entry : Nat) (queue : List ExceptionRequest) : List ExceptionRequest :=
  queue.filter fun req => req.entry ≠ entry

/-- A write to the status through the address of an entry. -/
def setStatus (entry : Nat) (status : ExceptionRequestStatus)
    (queue : List ExceptionRequest) : List ExceptionRequest :=
  queue.map fun req => if req.entry = entry then { req with status := status } else req

end Athrill
