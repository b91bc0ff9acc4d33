import Athrill.Intc.Control

/-!
# What the judge does

`judge_pending_Exception` looks for a candidate and then does one of four
things: nothing, resume a handler, start one, or refuse to.

* `markWaiting`, `markRunning`: the writes to the queues.
* `JudgeOutcome`, `judgeOutcome_judgePendingException`: the four cases.
-/

namespace Athrill

open TargetCore

/-! ## The queues -/

/-- The running exception is marked as waiting. -/
def markWaiting (coreId : CoreId) (intc : Intc) : Intc :=
  match (intc.control coreId).currentException with
  | some current => intc.modifyControl coreId fun control => control.putStatus current .waiting
  | none => intc

/-- An entry becomes the running exception. -/
def markRunning (coreId : CoreId) (entry : Nat) (intc : Intc) : Intc :=
  intc.modifyControl coreId fun control =>
    { control.putStatus entry .running with currentException := some entry }

/-- The core after a handler has been accepted. -/
def acceptedCpu (candidate : ExceptionRequest) (cpu : TargetCore) : TargetCore :=
  if candidate.exno = .userIntr then
    intcSetUserIntrStatePriorityDegreeMasked (canRaiseException candidate cpu).2 false
  else (canRaiseException candidate cpu).2

/-! ## The cases -/

/-- A candidate of the search that is not the running exception. -/
structure IsNewcomer (c : CoreId) (s : CpuIntc) (candidate : ExceptionRequest) : Prop where
  best : (judgeSearch c s).best.2 = some candidate
  other : some candidate.entry ≠ (s.intc.control c).currentException

/-- What `judge_pending_Exception` returns and the state it leaves. -/
inductive JudgeOutcome (c : CoreId) (s : CpuIntc) : Option ExceptionRequest × CpuIntc → Prop
  /-- No candidate, or the running exception. -/
  | idle (h : ∀ candidate, ¬ IsNewcomer c s candidate) :
      JudgeOutcome c s (none, ⟨(judgeSearch c s).cpu, s.intc⟩)
  /-- A handler that was interrupted goes on. -/
  | resumed (candidate : ExceptionRequest) (h : IsNewcomer c s candidate)
      (hstatus : candidate.status = .waiting) :
      JudgeOutcome c s (none, ⟨(judgeSearch c s).cpu, markRunning c candidate.entry s.intc⟩)
  | started (candidate : ExceptionRequest) (h : IsNewcomer c s candidate)
      (hstatus : candidate.status ≠ .waiting)
      (haccept : (canRaiseException candidate (judgeSearch c s).cpu).1 = true) :
      JudgeOutcome c s (some { candidate with status := .running },
        ⟨acceptedCpu candidate (judgeSearch c s).cpu,
          markRunning c candidate.entry (markWaiting c s.intc)⟩)
  /-- The running exception has been marked all the same. -/
  | refused (candidate : ExceptionRequest) (h : IsNewcomer c s candidate)
      (hstatus : candidate.status ≠ .waiting)
      (haccept : (canRaiseException candidate (judgeSearch c s).cpu).1 = false) :
      JudgeOutcome c s (none, ⟨(canRaiseException candidate (judgeSearch c s).cpu).2,
        markWaiting c s.intc⟩)

theorem judgeOutcome_judgePendingException (c : CoreId) (s : CpuIntc) :
    JudgeOutcome c s (judgePendingException c s) := by
  unfold judgePendingException
  dsimp only
  split
  · rename_i hbest
    refine .idle fun candidate h => ?_
    cases hbest.symm.trans h.best
  · rename_i candidate hbest
    split_ifs with hcurrent
    · refine .idle fun candidate' h => ?_
      obtain rfl := Option.some.inj (hbest.symm.trans h.best)
      exact h.other hcurrent
    · have hnew : IsNewcomer c s candidate := ⟨hbest, hcurrent⟩
      unfold judgeAccept
      dsimp only
      split_ifs with hstatus haccept huser
      · exact .resumed candidate hnew hstatus
      · have hstarted := JudgeOutcome.started candidate hnew hstatus haccept
        unfold acceptedCpu at hstarted
        rw [if_pos huser] at hstarted
        exact hstarted
      · have hstarted := JudgeOutcome.started candidate hnew hstatus haccept
        unfold acceptedCpu at hstarted
        rw [if_neg huser] at hstarted
        exact hstarted
      · exact .refused candidate hnew hstatus (Bool.eq_false_iff.mpr haccept)

end Athrill
