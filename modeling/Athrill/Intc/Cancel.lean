import Athrill.Intc.System
import Athrill.Lib.Levels

/-!
# Cancelling a request

Software cancels the request of a channel by clearing the `RF` bit of its IC
register.  The hook looks for the request in the user queue and then, for the
copy that the judge has made, through the exception queues of all levels.  It
knows an entry by its channel number, which is 0 in the entries of all other
exceptions.

* `IcWrite`: the writes that reach an IC register.
* `withoutRequests`: the queues without the requests of some channels.
* `cancel_exact`: the queues for which a write cancels exactly the requests.
-/

namespace Athrill

open TargetCore Bits Levels

/-! ## Writes to an IC register -/

/-- A write to the register of a channel: its high byte, the whole register, or
the register with the one after it. -/
inductive IcWrite where
  | high (data : Byte)
  | half (data : HalfWord)
  | word (data : Word)

namespace IcWrite

/-- The write by core `c` to the register of channel `n`. -/
def put (write : IcWrite) (c : CoreId) (n : Nat) (s : CpuIntc) : IntcReturn × CpuIntc :=
  match write with
  | high data => intcPutData8 c (icAddress n + 1) data s
  | half data => intcPutData16 c (icAddress n) data s
  | word data => intcPutData32 c (icAddress n) data s

/-- The write to the register of channel `n` clears `RF` of channel `i`. -/
def clears (write : IcWrite) (n i : Nat) : Bool :=
  match write with
  | high data => decide (i = n) && !data.getLsbD 4
  | half data => decide (i = n) && !data.getLsbD icIntreq
  | word data =>
    decide (i = n) && !data.getLsbD icIntreq ||
      decide (icAddress i = icAddress n + 2) && !data.getLsbD (16 + icIntreq)

end IcWrite

/-! ## The cancelled requests -/

/-- An entry of an exception queue is the request of one of the channels and has
not been started. -/
def isRequestOf (cleared : Nat → Bool) (req : ExceptionRequest) : Bool :=
  decide (req.exno = .userIntr) && decide (req.status = .runnable) && cleared req.intno

/-- The queues without the requests of some channels: the user queue holds
nothing but requests that have not been started. -/
def withoutRequests (cleared : Nat → Bool) (control : ExceptionController) :
    ExceptionController :=
  { control with
    exceptionQueue := fun level =>
      (control.exceptionQueue level).filter fun req => !isRequestOf cleared req
    userQueue := control.userQueue.filter fun req => !cleared req.intno }

/-- A write by core `c` cancels exactly the requests of the channels on that
core. -/
def CancelsExactly (cleared : Nat → Bool) (c : CoreId) (intc intc' : Intc) : Prop :=
  intc'.control = Function.update intc.control c (withoutRequests cleared (intc.control c))

/-- All entries of the exception queues, in the order in which the hook sees
them. -/
def allExceptions (control : ExceptionController) : List ExceptionRequest :=
  (List.finRange 16).flatMap control.exceptionQueue

/-- What the hook finds for channel `n` is what it should remove: in the user
queue at most one entry, among the runnable entries with the number `n` first a
user interrupt and no other one. -/
structure HookFits (n : Nat) (control : ExceptionController) : Prop where
  user : FirstOnly (fun req : ExceptionRequest => decide (req.intno = n))
    (fun req => decide (req.intno = n)) control.userQueue
  exceptions : FirstOnly
    (fun req : ExceptionRequest => decide (req.intno = n) && decide (req.status = .runnable))
    (isRequestOf fun i => decide (i = n)) (allExceptions control)

/-- No request of the channels is in the queues. -/
structure NothingQueued (cleared : Nat → Bool) (control : ExceptionController) : Prop where
  user : ∀ req ∈ control.userQueue, cleared req.intno = false
  exceptions : ∀ level, ∀ req ∈ control.exceptionQueue level, isRequestOf cleared req = false

/-- The condition on the queues for each write: a word write has no hook. -/
def WriteFits (write : IcWrite) (n : Nat) (control : ExceptionController) : Prop :=
  match write with
  | .high _ | .half _ => HookFits n control
  | .word _ => NothingQueued (write.clears n) control

/-! ## The hook -/

/-- An IC register belongs to one channel. -/
theorem icAddress_inj {i n : Nat} : icAddress i = icAddress n ↔ i = n := by
  unfold icAddress
  constructor
  · intro h
    split_ifs at h <;> omega
  · rintro rfl
    rfl

theorem isAtIcAddr_eq (n : Nat) :
    isAtIcAddr (icAddress n) = fun req => decide (req.intno = n) := by
  funext req
  unfold isAtIcAddr
  rw [decide_eq_decide]
  exact icAddress_inj

theorem dropRunnable_eq (n : Nat) (control : ExceptionController) :
    dropRunnable (icAddress n) control =
      { control with
        exceptionQueue := dropFirst (List.finRange 16) control.exceptionQueue
          fun req => decide (req.intno = n) && decide (req.status = .runnable) } := by
  have htest : isRunnableAtIcAddr (icAddress n) =
      fun req => decide (req.intno = n) && decide (req.status = .runnable) := by
    funext req
    unfold isRunnableAtIcAddr
    rw [isAtIcAddr_eq]
  unfold dropRunnable dropFirst
  rw [htest]
  dsimp only
  generalize List.find? _ (List.finRange 16) = found
  cases found with
  | none => rfl
  | some level => rfl

/-- Two changes of one controller. -/
theorem update_eq_update_iff {f : CoreId → ExceptionController} {c : CoreId}
    {control control' : ExceptionController} :
    Function.update f c control = Function.update f c control' ↔ control = control' := by
  constructor
  · intro h
    have hc := congrFun h c
    rw [Function.update_self, Function.update_self] at hc
    exact hc
  · rintro rfl
    rfl

/-- The hook cancels exactly the request of the channel when what it finds is
that. -/
theorem upperbit_iff {c : CoreId} {n : Nat} {data : HalfWord} {intc : Intc}
    (hclear : data.getLsbD icIntreq = false) :
    CancelsExactly (fun i => decide (i = n)) c intc
        (intcHookUpdateIcUpperbit c (icAddress n) data intc) ↔
      HookFits n (intc.control c) := by
  have hcontrol : (intcHookUpdateIcUpperbit c (icAddress n) data intc).control =
      Function.update intc.control c (dropRunnable (icAddress n)
        { intc.control c with
          userQueue := (intc.control c).userQueue.eraseP (isAtIcAddr (icAddress n)) }) := by
    unfold intcHookUpdateIcUpperbit
    rw [if_neg (by rw [hclear]; exact Bool.false_ne_true)]
    rfl
  unfold CancelsExactly
  rw [hcontrol, update_eq_update_iff, dropRunnable_eq, isAtIcAddr_eq]
  have hkind (req : ExceptionRequest) (h : isRequestOf (fun i => decide (i = n)) req = true) :
      (decide (req.intno = n) && decide (req.status = .runnable)) = true := by
    unfold isRequestOf at h
    rw [Bool.and_eq_true, Bool.and_eq_true] at h
    rw [Bool.and_eq_true]
    exact ⟨h.2, h.1.2⟩
  have huser := eraseP_eq_filter_iff
    (fun (req : ExceptionRequest) (h : decide (req.intno = n) = true) => h)
    (l := (intc.control c).userQueue)
  have hexceptions := dropFirst_eq_filter_iff (intc.control c).exceptionQueue hkind
    (List.nodup_finRange 16) List.mem_finRange
  constructor
  · intro h
    exact ⟨huser.mp (congrArg ExceptionController.userQueue h),
      hexceptions.mp (congrArg ExceptionController.exceptionQueue h)⟩
  · rintro ⟨hu, he⟩
    unfold withoutRequests
    rw [huser.mpr hu, hexceptions.mpr he]

/-! ## The writes -/

theorem control_storeIf (result : IntcReturn × CpuIntc) (store : IntcMemory → IntcMemory) :
    (storeIf result store).2.intc.control = result.2.intc.control := by
  unfold storeIf
  split_ifs <;> rfl

theorem storeIf_eq_ok {result : IntcReturn × CpuIntc} {store : IntcMemory → IntcMemory}
    (h : (storeIf result store).1 = .ok) : result.1 = .ok := by
  unfold storeIf at h
  split_ifs at h with hok
  · exact hok
  · exact h

/-- The addresses of the IC registers are even and in the ranges of the hooks. -/
theorem icAddress_range {n : Nat} (hn : n < tnumInt) :
    icAddress n % 2 = 0 ∧ isIcAddr (icAddress n) = true ∧ isIcAddr (icAddress n + 1) = true ∧
      isImrAddr (icAddress n) = false := by
  have hn' : n < 358 := hn
  unfold isIcAddr isImrAddr isImr1Addr isImr2Addr icAddress
  simp only [Bool.or_eq_true, Bool.or_eq_false_iff, decide_eq_true_eq, decide_eq_false_iff_not]
  split_ifs <;> omega

/-- The controllers after a write that clears `RF` of the channel. -/
theorem control_put_high {c : CoreId} {n : Nat} {data : Byte} {s : CpuIntc} (hn : n < tnumInt)
    (hok : ((IcWrite.high data).put c n s).1 = .ok) :
    ((IcWrite.high data).put c n s).2.intc.control =
      (intcHookUpdateIcUpperbit c (icAddress n) (data.setWidth 16 <<< 8) s.intc).control := by
  obtain ⟨heven, -, hic, -⟩ := icAddress_range hn
  have hodd : (icAddress n + 1) % 2 = 1 := by omega
  have hhook : (intcHookUpdateReg8 c (icAddress n + 1) data s).1 = .ok := storeIf_eq_ok hok
  show (storeIf (intcHookUpdateReg8 c (icAddress n + 1) data s) _).2.intc.control = _
  rw [control_storeIf]
  unfold intcHookUpdateReg8 intcHookUpdateIcReg8 at hhook ⊢
  rw [if_pos hic, if_pos hodd] at hhook ⊢
  by_cases hum : s.cpu.issetUM = true
  · rw [if_pos hum] at hhook
    cases hhook
  · rw [if_neg hum]
    rfl

theorem control_put_half {c : CoreId} {n : Nat} {data : HalfWord} {s : CpuIntc} (hn : n < tnumInt)
    (hok : ((IcWrite.half data).put c n s).1 = .ok) :
    ((IcWrite.half data).put c n s).2.intc.control =
      (intcHookUpdateIcUpperbit c (icAddress n) data
        (intcHookUpdateIcLowerbit c (icAddress n) data s.intc)).control := by
  obtain ⟨heven, hic, -, -⟩ := icAddress_range hn
  have hhook : (intcHookUpdateReg16 c (icAddress n) data s).1 = .ok := storeIf_eq_ok hok
  show (storeIf (intcHookUpdateReg16 c (icAddress n) data s) _).2.intc.control = _
  rw [control_storeIf]
  unfold intcHookUpdateReg16 intcHookUpdateIcReg16 at hhook ⊢
  rw [if_pos hic, if_neg (by omega)] at hhook ⊢
  by_cases hum : s.cpu.issetUM = true
  · rw [if_pos hum] at hhook
    cases hhook
  · rw [if_neg hum]

theorem control_put_word {c : CoreId} {n : Nat} {data : Word} {s : CpuIntc} (hn : n < tnumInt) :
    ((IcWrite.word data).put c n s).2.intc.control = s.intc.control := by
  obtain ⟨-, -, -, himr⟩ := icAddress_range hn
  show (storeIf (intcHookUpdateReg32 c (icAddress n) data s) _).2.intc.control = _
  rw [control_storeIf]
  unfold intcHookUpdateReg32
  rw [himr, if_neg Bool.false_ne_true]

/-- Nothing is cancelled exactly when nothing is queued. -/
theorem nothingQueued_iff {cleared : Nat → Bool} {control : ExceptionController} :
    control = withoutRequests cleared control ↔ NothingQueued cleared control := by
  constructor
  · intro h
    have huser := congrArg ExceptionController.userQueue h
    have hqueue := congrArg ExceptionController.exceptionQueue h
    exact ⟨filter_not_eq_self.mp huser.symm, fun level =>
      filter_not_eq_self.mp (congrFun hqueue level).symm⟩
  · rintro ⟨huser, hexceptions⟩
    unfold withoutRequests
    have hqueue : (fun level => (control.exceptionQueue level).filter
        fun req => !isRequestOf cleared req) = control.exceptionQueue :=
      funext fun level => filter_not_eq_self.mpr (hexceptions level)
    rw [hqueue, filter_not_eq_self.mpr huser]

/-- A write that clears `RF` of channel `n` cancels exactly the requests of the
channels it clears, for the queues that fit the write. -/
theorem cancel_exact {write : IcWrite} {c : CoreId} {n : Nat} {s : CpuIntc} (hn : n < tnumInt)
    (hclear : write.clears n n = true) (hok : (write.put c n s).1 = .ok) :
    CancelsExactly (write.clears n) c s.intc (write.put c n s).2.intc ↔
      WriteFits write n (s.intc.control c) := by
  cases write with
  | high data =>
    have hbit : data.getLsbD 4 = false := by
      have hand := (Bool.and_eq_true _ _).mp hclear
      exact (Bool.not_eq_true' _).mp hand.2
    have hshift : (data.setWidth 16 <<< 8 : HalfWord).getLsbD icIntreq = false := by
      rw [← hbit]
      simp [icIntreq]
    have hcleared : (IcWrite.high data).clears n = fun i => decide (i = n) := by
      funext i
      show (decide (i = n) && !data.getLsbD 4) = decide (i = n)
      rw [hbit, Bool.not_false, Bool.and_true]
    unfold CancelsExactly
    rw [control_put_high hn hok, hcleared]
    exact upperbit_iff hshift
  | half data =>
    have hbit : data.getLsbD icIntreq = false := by
      have hand := (Bool.and_eq_true _ _).mp hclear
      exact (Bool.not_eq_true' _).mp hand.2
    have hcleared : (IcWrite.half data).clears n = fun i => decide (i = n) := by
      funext i
      show (decide (i = n) && !data.getLsbD icIntreq) = decide (i = n)
      rw [hbit, Bool.not_false, Bool.and_true]
    unfold CancelsExactly
    rw [control_put_half hn hok, hcleared]
    -- the mask hook leaves the queues
    have hupper (intc : Intc) : CancelsExactly (fun i => decide (i = n)) c intc
        (intcHookUpdateIcUpperbit c (icAddress n) data intc) ↔ HookFits n (intc.control c) :=
      upperbit_iff hbit
    exact hupper (intcHookUpdateIcLowerbit c (icAddress n) data s.intc)
  | word data =>
    unfold CancelsExactly
    rw [control_put_word hn]
    constructor
    · intro h
      have hcontrol := congrFun h c
      rw [Function.update_self] at hcontrol
      exact nothingQueued_iff.mp hcontrol
    · intro h
      exact (Function.update_eq_self_iff.mpr (nothingQueued_iff.mpr h).symm).symm

/-! ## After reset -/

/-- A request of channel 32. -/
def requestedState : CpuIntc := ⟨resetState.cpu, intcRaiseIntr 32 resetState.intc⟩

/-- A pending exception without a channel. -/
def pieState : CpuIntc := intcRaiseException 0 .pie resetState.toCpuIntc

theorem cancel_exact_requested :
    CancelsExactly ((IcWrite.half 0x008F).clears 32) 0 requestedState.intc
        ((IcWrite.half 0x008F).put 0 32 requestedState).2.intc ↔
      WriteFits (.half 0x008F) 32 (requestedState.intc.control 0) :=
  cancel_exact (by decide) (by decide) (by decide +kernel)

/-- A pending `PIE` is removed when `RF` of channel 0 is cleared. -/
theorem cancel_drops_pie :
    (pieState.intc.control 0).exceptionQueue 9 ≠ [] ∧
      (((IcWrite.half 0x008F).put 0 0 pieState).2.intc.control 0).exceptionQueue 9 = [] ∧
      ¬ CancelsExactly ((IcWrite.half 0x008F).clears 0) 0 pieState.intc
        ((IcWrite.half 0x008F).put 0 0 pieState).2.intc := by
  have hafter : (((IcWrite.half 0x008F).put 0 0 pieState).2.intc.control 0).exceptionQueue 9 =
      [] := by
    decide +kernel
  refine ⟨by decide +kernel, hafter, fun h => ?_⟩
  have hcontrol := congrFun h 0
  rw [Function.update_self] at hcontrol
  rw [hcontrol] at hafter
  revert hafter
  decide +kernel

end Athrill
