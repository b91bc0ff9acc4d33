import Athrill.Intc.Cancel
import Athrill.Intc.Queues
import Mathlib.Algebra.BigOperators.Fin

/-!
# The request entries

The entries of the queues come from a pool of the list library.  An entry is
allocated for every request and for every copy that the judge makes.  It goes
back to the pool when its user interrupt is started or cancelled.  The return
from a handler takes the entry out of its queue and keeps it.

* `linked`: the entries in the queues.
* `freesIn`: the calls of `ListEntry_Free` in a step.
* `Accounts`: a step in which entries leave the queues.
* `accountSystem`: runs that count the calls.
* `balanced_iff`: the runs in which the account is right.
-/

namespace Athrill

open TargetCore Bits Levels

variable {D : Type}

/-! ## Linked entries -/

/-- The entries in the queues of one core. -/
def linkedOn (control : ExceptionController) : Nat :=
  control.userQueue.length + ∑ level, (control.exceptionQueue level).length

/-- The entries in the queues of both cores. -/
def linked (intc : Intc) : Nat :=
  linkedOn (intc.control 0) + linkedOn (intc.control 1)

/-- The number depends on the lengths of the queues alone. -/
theorem linkedOn_congr {control control' : ExceptionController}
    (hqueue : ∀ level, (control'.exceptionQueue level).length = (control.exceptionQueue level).length)
    (huser : control'.userQueue.length = control.userQueue.length) :
    linkedOn control' = linkedOn control := by
  unfold linkedOn
  rw [huser, Finset.sum_congr rfl fun level _ => hqueue level]

/-- A sum over the queues when one of them is changed. -/
theorem sum_modifyQueue (number : List ExceptionRequest → Nat) (control : ExceptionController)
    (level : Fin 16) (f : List ExceptionRequest → List ExceptionRequest) :
    (∑ level', number ((control.modifyQueue level f).exceptionQueue level')) +
        number (control.exceptionQueue level) =
      (∑ level', number (control.exceptionQueue level')) +
        number (f (control.exceptionQueue level)) := by
  have hself : (control.modifyQueue level f).exceptionQueue level =
      f (control.exceptionQueue level) := Function.update_self _ _ _
  have hother : ∑ level' ∈ Finset.univ.erase level,
      number ((control.modifyQueue level f).exceptionQueue level') =
        ∑ level' ∈ Finset.univ.erase level, number (control.exceptionQueue level') :=
    Finset.sum_congr rfl fun level' hlevel => congrArg number
      (Function.update_of_ne (Finset.ne_of_mem_erase hlevel) _ _)
  rw [← Finset.add_sum_erase _ _ (Finset.mem_univ level),
    ← Finset.add_sum_erase _ (fun level' => number (control.exceptionQueue level'))
      (Finset.mem_univ level), hself, hother]
  omega

/-- One of the queues gets another length. -/
theorem linkedOn_modifyQueue (control : ExceptionController) (level : Fin 16)
    (f : List ExceptionRequest → List ExceptionRequest) :
    linkedOn (control.modifyQueue level f) + (control.exceptionQueue level).length =
      linkedOn control + (f (control.exceptionQueue level)).length := by
  have hsum := sum_modifyQueue List.length control level f
  have huser : (control.modifyQueue level f).userQueue = control.userQueue := rfl
  unfold linkedOn
  rw [huser]
  omega

/-- The queues of one core are changed. -/
theorem linked_modifyControl (intc : Intc) (c : CoreId)
    (f : ExceptionController → ExceptionController) :
    linked (intc.modifyControl c f) + linkedOn (intc.control c) =
      linked intc + linkedOn (f (intc.control c)) := by
  have hself : (intc.modifyControl c f).control c = f (intc.control c) := Function.update_self _ _ _
  have hother (i : CoreId) (hi : i ≠ c) : (intc.modifyControl c f).control i = intc.control i :=
    Function.update_of_ne hi _ _
  unfold linked
  match c with
  | 0 =>
    rw [hself, hother 1 (by decide)]
    omega
  | 1 =>
    rw [hself, hother 0 (by decide)]
    omega

/-! ## The account of a step -/

/-- From `intc` to `intc'` as many entries leave the queues as `gone` says: the
linked entries and those that are gone are the linked ones before and the
allocated ones. -/
structure Accounts (gone : Nat) (intc intc' : Intc) : Prop where
  entries : linked intc' + gone + intc.nextEntry = linked intc + intc'.nextEntry

theorem Accounts.of_eq {intc intc' : Intc} (hcontrol : intc'.control = intc.control)
    (hnext : intc'.nextEntry = intc.nextEntry) : Accounts 0 intc intc' := by
  have hlinked : linked intc' = linked intc := by
    unfold linked
    rw [hcontrol]
  exact ⟨by omega⟩

theorem Accounts.refl (intc : Intc) : Accounts 0 intc intc :=
  Accounts.of_eq rfl rfl

/-- A step without loss before another step. -/
theorem Accounts.after {gone : Nat} {intc intc' intc'' : Intc} (h : Accounts 0 intc intc')
    (h' : Accounts gone intc' intc'') : Accounts gone intc intc'' := by
  have hentries := h.entries
  have hentries' := h'.entries
  exact ⟨by omega⟩

theorem Accounts.before {gone : Nat} {intc intc' intc'' : Intc} (h : Accounts gone intc intc')
    (h' : Accounts 0 intc' intc'') : Accounts gone intc intc'' := by
  have hentries := h.entries
  have hentries' := h'.entries
  exact ⟨by omega⟩

/-- Entries of one core leave their queues. -/
theorem Accounts.of_modifyControl {gone : Nat} {intc : Intc} {c : CoreId}
    {f : ExceptionController → ExceptionController}
    (h : linkedOn (f (intc.control c)) + gone = linkedOn (intc.control c)) :
    Accounts gone intc (intc.modifyControl c f) := by
  have hlinked := linked_modifyControl intc c f
  have hnext : (intc.modifyControl c f).nextEntry = intc.nextEntry := rfl
  exact ⟨by omega⟩

/-- No entry of the core leaves its queue. -/
theorem Accounts.of_linkedOn_eq {intc : Intc} {c : CoreId}
    (f : ExceptionController → ExceptionController)
    (h : linkedOn (f (intc.control c)) = linkedOn (intc.control c)) :
    Accounts 0 intc (intc.modifyControl c f) := by
  have hlinked := linked_modifyControl intc c f
  have hnext : (intc.modifyControl c f).nextEntry = intc.nextEntry := rfl
  exact ⟨by omega⟩

/-- An entry is added to the queues of one core and uses up a number. -/
theorem Accounts.of_alloc {intc intc' : Intc} {c : CoreId}
    (f : ExceptionController → ExceptionController)
    (hcontrol : intc'.control = (intc.modifyControl c f).control)
    (hnext : intc'.nextEntry = intc.nextEntry + 1)
    (h : linkedOn (f (intc.control c)) = linkedOn (intc.control c) + 1) :
    Accounts 0 intc intc' := by
  have hlinked := linked_modifyControl intc c f
  have hsame : linked intc' = linked (intc.modifyControl c f) := by
    unfold linked
    rw [hcontrol]
  exact ⟨by omega⟩

/-- A status is written. -/
theorem linkedOn_putStatus (control : ExceptionController) (entry : Nat)
    (status : ExceptionRequestStatus) (current : Option Nat) :
    linkedOn { control.putStatus entry status with currentException := current } =
      linkedOn control :=
  linkedOn_congr (fun _ => List.length_map _) (List.length_map _)

theorem accounts_putStatus (intc : Intc) (c : CoreId) (entry : Nat)
    (status : ExceptionRequestStatus) (current : Option Nat) :
    Accounts 0 intc (intc.modifyControl c fun control =>
      { control.putStatus entry status with currentException := current }) :=
  Accounts.of_linkedOn_eq _ (linkedOn_putStatus (intc.control c) entry status current)

/-! ## Allocations -/

theorem accounts_addException (intc : Intc) (c : CoreId) (level : Fin 16)
    (request : ExceptionRequest) : Accounts 0 intc (addException intc c level request) := by
  refine Accounts.of_alloc (fun control => control.modifyQueue level
    fun queue => queue ++ [({ request with entry := intc.nextEntry } : ExceptionRequest)])
    rfl rfl ?_
  have hqueue := linkedOn_modifyQueue (intc.control c) level
    fun queue => queue ++ [({ request with entry := intc.nextEntry } : ExceptionRequest)]
  rw [List.length_append, List.length_singleton] at hqueue
  omega

theorem accounts_addUser (intc : Intc) (c : CoreId) (request : ExceptionRequest) :
    Accounts 0 intc (addUser intc c request) := by
  refine Accounts.of_alloc (fun control => { control with
    userQueue := control.userQueue ++ [{ request with entry := intc.nextEntry }] }) rfl rfl ?_
  unfold linkedOn
  dsimp only
  rw [List.length_append, List.length_singleton]
  omega

theorem accounts_reqflag (intc : Intc) (c : CoreId) (intno : Nat) (flag : Bool) :
    Accounts 0 intc (intcSetUserIntrReqflag intc c intno flag) :=
  Accounts.of_eq rfl rfl

theorem accounts_commonRaiseUserIntr (intno : Nat) (c : CoreId) (intc : Intc) :
    Accounts 0 intc (commonRaiseUserIntr intno c intc) := by
  unfold commonRaiseUserIntr
  dsimp only
  split_ifs
  · exact Accounts.refl intc
  · exact (accounts_addUser intc c _).after (accounts_reqflag _ c intno true)

theorem accounts_intcRaiseIntr (intno : Nat) (intc : Intc) :
    Accounts 0 intc (intcRaiseIntr intno intc) :=
  (accounts_commonRaiseUserIntr intno 0 intc).after (accounts_commonRaiseUserIntr intno 1 _)

/-! ## The judge -/

theorem accounts_judgePendingUserIntr (c : CoreId) (s : CpuIntc) :
    Accounts 0 s.intc (judgePendingUserIntr c s).intc := by
  have hmask (candidate : ExceptionRequest) (s : CpuIntc) :
      Accounts 0 s.intc (judgeCpuMaskUserIntr candidate s).intc := by
    unfold judgeCpuMaskUserIntr
    dsimp only
    split_ifs
    · exact Accounts.refl _
    · exact Accounts.refl _
    · refine Accounts.after (Accounts.of_linkedOn_eq _ ?_) (accounts_addException _ _ _ _)
      exact linkedOn_congr (fun _ => rfl) (List.length_map _)
  unfold judgePendingUserIntr
  split
  · exact Accounts.refl _
  · split_ifs
    · exact Accounts.refl _
    · exact hmask _ { s with cpu := { s.cpu with isHalt := false } }

theorem accounts_markWaiting (c : CoreId) (intc : Intc) :
    Accounts 0 intc (markWaiting c intc) := by
  unfold markWaiting
  split
  · exact accounts_putStatus intc c _ _ (intc.control c).currentException
  · exact Accounts.refl intc

theorem accounts_judgePendingException (c : CoreId) (s : CpuIntc) :
    Accounts 0 s.intc (judgePendingException c s).2.intc := by
  have houtcome := judgeOutcome_judgePendingException c s
  generalize judgePendingException c s = result at houtcome ⊢
  cases houtcome with
  | idle _ => exact Accounts.refl s.intc
  | resumed candidate _ _ => exact accounts_putStatus s.intc c candidate.entry .running _
  | started candidate _ _ _ =>
    exact (accounts_markWaiting c s.intc).after
      (accounts_putStatus _ c candidate.entry .running _)
  | refused _ _ _ _ => exact accounts_markWaiting c s.intc

/-! ## Entries that leave the queues -/

/-- The calls of `ListEntry_Free` in `hook_UserIntr_Raised`. -/
def hookFrees (exception : ExceptionRequest) (control : ExceptionController) : Nat :=
  if (control.userQueue.find? fun req => decide (req.intno = exception.intno)).isSome then 1 else 0

/-- The calls in one core's pass of `device_supply_clock_intc`. -/
def clockFrees (c : CoreId) (s : CpuIntc) : Nat :=
  match judgePendingException c (judgePendingUserIntr c s) with
  | (some exception, ci) =>
    if exception.exno = .userIntr then hookFrees exception (ci.intc.control exception.coreId) else 0
  | (none, _) => 0

/-- The calls in `intc_hook_update_ic_upperbit`. -/
def upperbitFrees (regaddr : Nat) (data : HalfWord) (control : ExceptionController) : Nat :=
  if data.getLsbD icIntreq then 0
  else
    (if control.userQueue.any (isAtIcAddr regaddr) then 1 else 0) +
      if (allExceptions control).any (isRunnableAtIcAddr regaddr) then 1 else 0

theorem accounts_hookUserIntrRaised {s : CpuIntc} (h : IntcFormed s.intc)
    (exception : ExceptionRequest) :
    Accounts (hookFrees exception (s.intc.control exception.coreId)) s.intc
      (hookUserIntrRaised exception s).intc := by
  unfold hookFrees hookUserIntrRaised
  dsimp only
  cases hfind : (s.intc.control exception.coreId).userQueue.find?
    fun req => decide (req.intno = exception.intno) with
  | none => exact Accounts.refl s.intc
  | some req =>
    have hlength := length_removeEntry (h exception.coreId).userSorted
      (List.mem_of_find?_eq_some hfind)
    have hdrop : Accounts 1 s.intc (s.intc.modifyControl exception.coreId fun control =>
        { control with userQueue := removeEntry req.entry control.userQueue }) := by
      refine Accounts.of_modifyControl ?_
      unfold linkedOn
      dsimp only
      omega
    exact hdrop.before (accounts_reqflag _ req.coreId req.intno false)

theorem accounts_supplyClockIntc (bus : Bus D) [TableReads bus] {s : CpuState D}
    (h : IntcFormed s.intc) (c : CoreId) :
    Accounts (clockFrees c s.toCpuIntc) s.intc (supplyClockIntc bus c s).intc := by
  have hjudge := (accounts_judgePendingUserIntr c s.toCpuIntc).after
    (accounts_judgePendingException c (judgePendingUserIntr c s.toCpuIntc))
  have hformed := intcFormed_judgePendingException
    (intcFormed_judgePendingUserIntr (s := s.toCpuIntc) h c) c
  unfold clockFrees supplyClockIntc
  dsimp only
  generalize judgePendingException c (judgePendingUserIntr c s.toCpuIntc) = result
    at hjudge hformed ⊢
  obtain ⟨found, ci⟩ := result
  cases found with
  | some exception =>
    dsimp only at hjudge hformed ⊢
    rw [intc_raiseException]
    split_ifs
    · exact hjudge.after (accounts_hookUserIntrRaised hformed exception)
    · exact hjudge
  | none => exact hjudge

/-- The running exception leaves its queue. -/
theorem accounts_dropCurrent {intc : Intc} (h : IntcFormed intc) {c : CoreId}
    {exp : ExceptionRequest} (hcurrent : (intc.control c).current = some exp) :
    Accounts 1 intc (dropCurrent c exp intc) := by
  obtain ⟨req, hsome, -, -, hmem⟩ :=
    (h c).current_eq_some ((h c).current_isSome_iff hcurrent)
  obtain rfl := Option.some.inj (hcurrent.symm.trans hsome)
  have hqueue := linkedOn_modifyQueue (intc.control c) (intcGetExceptionPriorityLevel exp.exno)
    (removeEntry exp.entry)
  have hlength := length_removeEntry ((h c).sorted exp.level) hmem
  have hlevel : intcGetExceptionPriorityLevel exp.exno = exp.level := rfl
  rw [hlevel] at hqueue
  refine Accounts.of_modifyControl (f := fun control =>
    { control.modifyQueue exp.level (removeEntry exp.entry) with currentException := none }) ?_
  have hsame : linkedOn { (intc.control c).modifyQueue exp.level (removeEntry exp.entry) with
      currentException := none } =
      linkedOn ((intc.control c).modifyQueue exp.level (removeEntry exp.entry)) :=
    linkedOn_congr (fun _ => rfl) rfl
  dsimp only at hsame ⊢
  omega

/-- A list from which at most one entry leaves. -/
theorem length_eraseP_add {α : Type} (p : α → Bool) (queue : List α) :
    (queue.eraseP p).length + (if queue.any p then 1 else 0) = queue.length := by
  split_ifs with hany
  · obtain ⟨a, hmem, hpass⟩ := List.any_eq_true.mp hany
    have hlength := List.length_eraseP_of_mem hmem hpass
    have hpos := List.length_pos_of_mem hmem
    omega
  · rw [List.any_eq_true, not_exists] at hany
    rw [List.eraseP_of_forall_not fun a hmem hpass => hany a ⟨hmem, hpass⟩]
    rfl

theorem linkedOn_dropRunnable (regaddr : Nat) (control : ExceptionController) :
    linkedOn (dropRunnable regaddr control) +
        (if (allExceptions control).any (isRunnableAtIcAddr regaddr) then 1 else 0) =
      linkedOn control := by
  have hany : (allExceptions control).any (isRunnableAtIcAddr regaddr) = true ↔
      ∃ level, (control.exceptionQueue level).any (isRunnableAtIcAddr regaddr) = true := by
    unfold allExceptions
    rw [List.any_flatMap, List.any_eq_true]
    exact ⟨fun ⟨level, _, h⟩ => ⟨level, h⟩, fun ⟨level, h⟩ => ⟨level, List.mem_finRange level, h⟩⟩
  unfold dropRunnable
  dsimp only
  split
  · rename_i level hfound
    have hlevel := List.find?_some hfound
    have hqueue := linkedOn_modifyQueue control level
      fun queue => queue.eraseP (isRunnableAtIcAddr regaddr)
    have hlength := length_eraseP_add (isRunnableAtIcAddr regaddr) (control.exceptionQueue level)
    rw [if_pos hlevel] at hlength
    rw [if_pos (hany.mpr ⟨level, hlevel⟩)]
    omega
  · rename_i hfound
    have hnone : ¬ (allExceptions control).any (isRunnableAtIcAddr regaddr) = true := fun h => by
      obtain ⟨level, hlevel⟩ := hany.mp h
      exact List.find?_eq_none.mp hfound level (List.mem_finRange level) hlevel
    rw [if_neg hnone, Nat.add_zero]

/-- The request in the user queue leaves it. -/
theorem linkedOn_eraseUser (regaddr : Nat) (control : ExceptionController) :
    linkedOn { control with userQueue := control.userQueue.eraseP (isAtIcAddr regaddr) } +
        (if control.userQueue.any (isAtIcAddr regaddr) then 1 else 0) = linkedOn control := by
  have huser := length_eraseP_add (isAtIcAddr regaddr) control.userQueue
  unfold linkedOn
  dsimp only
  omega

theorem accounts_icUpperbit (c : CoreId) (regaddr : Nat) (data : HalfWord) (intc : Intc) :
    Accounts (upperbitFrees regaddr data (intc.control c)) intc
      (intcHookUpdateIcUpperbit c regaddr data intc) := by
  unfold upperbitFrees intcHookUpdateIcUpperbit
  by_cases hreq : data.getLsbD icIntreq = true
  · rw [if_pos hreq, if_pos hreq]
    exact accounts_intcRaiseIntr _ intc
  · rw [if_neg hreq, if_neg hreq]
    refine Accounts.of_modifyControl ?_
    have huser := linkedOn_eraseUser regaddr (intc.control c)
    have hdrop := linkedOn_dropRunnable regaddr { intc.control c with
      userQueue := (intc.control c).userQueue.eraseP (isAtIcAddr regaddr) }
    have hsame : allExceptions { intc.control c with
        userQueue := (intc.control c).userQueue.eraseP (isAtIcAddr regaddr) } =
        allExceptions (intc.control c) := rfl
    rw [hsame] at hdrop
    dsimp only at hdrop ⊢
    omega

/-- The end of a handler: the running exception leaves its queue. -/
theorem accounts_intcClrFe {s : CpuIntc} (h : IntcFormed s.intc) (c : CoreId) :
    Accounts (if (s.intc.control c).current = none then 0 else 1) s.intc
      (intcClrFe c s).intc := by
  unfold intcClrFe
  cases hcurrent : (s.intc.control c).current with
  | none => exact Accounts.refl s.intc
  | some exp => exact accounts_dropCurrent h hcurrent

theorem accounts_intcClrEi {s : CpuIntc} (h : IntcFormed s.intc) (c : CoreId) :
    Accounts (if (s.intc.control c).current = none then 0 else 1) s.intc
      (intcClrEi c s).intc := by
  unfold intcClrEi
  cases hcurrent : (s.intc.control c).current with
  | none => exact Accounts.refl s.intc
  | some exp => exact accounts_dropCurrent h hcurrent

/-! ## Software writes -/

/-- The calls in `intc_put_data8`. -/
def put8Frees (addr : Nat) (data : Byte) (c : CoreId) (s : CpuIntc) : Nat :=
  if isIcAddr addr && !s.cpu.issetUM && decide (addr % 2 = 1) then
    upperbitFrees (addr - 1) (data.setWidth 16 <<< 8) (s.intc.control c)
  else 0

/-- The calls in `intc_put_data16`. -/
def put16Frees (addr : Nat) (data : HalfWord) (c : CoreId) (s : CpuIntc) : Nat :=
  if isIcAddr addr && !s.cpu.issetUM && decide (addr % 2 = 0) then
    upperbitFrees addr data (s.intc.control c)
  else 0

theorem accounts_storeIf {gone : Nat} {intc : Intc} {result : IntcReturn × CpuIntc}
    {store : IntcMemory → IntcMemory} (h : Accounts gone intc result.2.intc) :
    Accounts gone intc (storeIf result store).2.intc := by
  unfold storeIf
  split_ifs
  · exact h.before (Accounts.of_eq rfl rfl)
  · exact h

theorem accounts_imr (c : CoreId) (addr len : Nat) (data : Nat → Byte) (s : CpuIntc) :
    Accounts 0 s.intc (intcHookUpdateImr c addr len data s).2.intc := by
  unfold intcHookUpdateImr
  split_ifs
  · exact Accounts.refl s.intc
  · exact Accounts.of_eq (control_imrHookBytes c (imrFirstIntno addr) len data s.intc)
      (nextEntry_imrHookBytes c (imrFirstIntno addr) len data s.intc)

theorem accounts_intcPutData8 (c : CoreId) (addr : Nat) (data : Byte) (s : CpuIntc) :
    Accounts (put8Frees addr data c s) s.intc (intcPutData8 c addr data s).2.intc := by
  refine accounts_storeIf ?_
  unfold put8Frees intcHookUpdateReg8
  cases hic : isIcAddr addr with
  | false =>
    rw [Bool.false_and, Bool.false_and, if_neg Bool.false_ne_true, if_neg Bool.false_ne_true]
    split_ifs
    · exact accounts_imr c addr 1 (fun _ => data) s
    · exact Accounts.refl s.intc
  | true =>
    rw [Bool.true_and, if_pos rfl]
    unfold intcHookUpdateIcReg8
    cases hum : s.cpu.issetUM with
    | true => exact Accounts.refl s.intc
    | false =>
      by_cases hodd : addr % 2 = 1
      · rw [if_neg Bool.false_ne_true, if_pos hodd, if_pos (by simp [hodd])]
        exact accounts_icUpperbit c (addr - 1) (data.setWidth 16 <<< 8) s.intc
      · rw [if_neg Bool.false_ne_true, if_neg hodd, if_neg (by simp [hodd])]
        exact Accounts.of_eq rfl rfl

theorem accounts_intcPutData16 (c : CoreId) (addr : Nat) (data : HalfWord) (s : CpuIntc) :
    Accounts (put16Frees addr data c s) s.intc (intcPutData16 c addr data s).2.intc := by
  refine accounts_storeIf ?_
  unfold put16Frees intcHookUpdateReg16
  cases hic : isIcAddr addr with
  | false =>
    rw [Bool.false_and, Bool.false_and, if_neg Bool.false_ne_true, if_neg Bool.false_ne_true]
    split_ifs
    · exact Accounts.refl s.intc
    · exact accounts_imr c addr 2 _ s
    · exact Accounts.refl s.intc
  | true =>
    rw [Bool.true_and, if_pos rfl]
    by_cases heven : addr % 2 = 0
    · have hodd : ¬ addr % 2 ≠ 0 := not_not.mpr heven
      rw [if_neg hodd]
      unfold intcHookUpdateIcReg16
      cases hum : s.cpu.issetUM with
      | true => exact Accounts.refl s.intc
      | false =>
        rw [if_neg Bool.false_ne_true, if_pos (by simp [heven])]
        have hlower : Accounts 0 s.intc (intcHookUpdateIcLowerbit c addr data s.intc) :=
          Accounts.of_eq rfl rfl
        have hupper := accounts_icUpperbit c addr data (intcHookUpdateIcLowerbit c addr data s.intc)
        exact hlower.after hupper
    · rw [if_pos heven, if_neg (by simp [heven])]
      exact Accounts.refl s.intc

/-- A word write has no hook for the requests. -/
theorem accounts_intcPutData32 (c : CoreId) (addr : Nat) (data : Word) (s : CpuIntc) :
    Accounts 0 s.intc (intcPutData32 c addr data s).2.intc := by
  refine accounts_storeIf ?_
  unfold intcHookUpdateReg32
  split_ifs
  · exact Accounts.refl s.intc
  · exact accounts_imr c addr 4 _ s
  · exact Accounts.refl s.intc

/-! ## Runs -/

namespace IntcEvent

/-- The calls of `ListEntry_Free` in a step. -/
def frees (e : IntcEvent) (m : Machine D) : Nat :=
  match e with
  | put8 c addr data => put8Frees addr data c (m.cpuIntc c)
  | put16 c addr data => put16Frees addr data c (m.cpuIntc c)
  | clock c => clockFrees c (m.clockState c).toCpuIntc
  | _ => 0

/-- The handlers that a step ends: a return with a running exception. -/
def ends (e : IntcEvent) (m : Machine D) : Nat :=
  match e with
  | eiret c | feret c => if (m.intc.control c).current = none then 0 else 1
  | _ => 0

end IntcEvent

/-- A machine with the calls of `ListEntry_Free` and the ended handlers of the
run.  The allocated entries are numbered by `nextEntry`. -/
structure Account (D : Type) where
  machine : Machine D
  freed : Nat
  ended : Nat

namespace Account

/-- The allocated entries without the freed ones are those in the queues. -/
def Balanced (a : Account D) : Prop :=
  a.machine.intc.nextEntry = a.freed + linked a.machine.intc

/-- With at most `bound` entries in the queues, no more than `bound` are taken
from the pool. -/
def Spares (a : Account D) : Prop :=
  ∀ bound, linked a.machine.intc ≤ bound → a.machine.intc.nextEntry ≤ a.freed + bound

end Account

/-- The interrupt controller with its account. -/
def accountSystem (bus : Bus D) : TransitionSystem (Account D) IntcEvent where
  init a := ∃ dev, a = ⟨Machine.reset dev, 0, 0⟩
  step e a a' := IntcStep bus e a.machine a'.machine ∧
    a'.freed = a.freed + e.frees a.machine ∧ a'.ended = a.ended + e.ends a.machine

/-- What leaves the queues in a step is freed, or was the running exception. -/
theorem accounts_intcStep {bus : Bus D} [TableReads bus] {e : IntcEvent} {m m' : Machine D}
    (h : IntcFormed m.intc) (hstep : IntcStep bus e m m') :
    Accounts (e.frees m + e.ends m) m.intc m'.intc := by
  cases hstep with
  | other _ _ heq =>
    rw [heq]
    exact Accounts.refl m.intc
  | put8 _ c addr data _ => exact accounts_intcPutData8 c addr data (m.cpuIntc c)
  | put16 _ c addr data _ => exact accounts_intcPutData16 c addr data (m.cpuIntc c)
  | put32 _ c addr data _ => exact accounts_intcPutData32 c addr data (m.cpuIntc c)
  | raiseIntr _ intno _ => exact accounts_intcRaiseIntr intno m.intc
  | trigger _ c intno _ =>
    exact accounts_commonRaiseUserIntr intno (if c = 0 then 1 else 0) m.intc
  | raiseException _ c exno => exact accounts_addException m.intc c _ _
  | eiret _ c =>
    have hends := accounts_intcClrEi (s := ⟨restoreEi (m.cores c), m.intc⟩) h c
    show Accounts (0 + _) m.intc _
    rw [Nat.zero_add]
    exact hends
  | feret _ c =>
    have hends := accounts_intcClrFe (s := ⟨restoreFe (m.cores c), m.intc⟩) h c
    show Accounts (0 + _) m.intc _
    rw [Nat.zero_add]
    exact hends
  | clock _ c => exact accounts_supplyClockIntc bus (s := (m.clockState c).toCpuState) h c

theorem linked_reset (dev : D) : linked (Machine.reset dev).intc = 0 := by
  unfold linked linkedOn
  simp [Machine.reset, deviceInitIntc]

/-- The allocated entries are freed, in the queues, or those of the ended
handlers. -/
theorem account_invariant (bus : Bus D) [TableReads bus] :
    (accountSystem bus).Invariant fun a => IntcFormed a.machine.intc ∧
      a.machine.intc.nextEntry = a.freed + linked a.machine.intc + a.ended where
  init a hinit := by
    obtain ⟨dev, rfl⟩ := hinit
    refine ⟨intcFormed_reset dev, ?_⟩
    rw [linked_reset]
    rfl
  step e a a' h hstep := by
    obtain ⟨hformed, hsum⟩ := h
    obtain ⟨hmachine, hfreed, hended⟩ := hstep
    have hentries := (accounts_intcStep hformed hmachine).entries
    refine ⟨intcFormed_intcStep hformed hmachine, ?_⟩
    omega

/-- A run keeps the account of the entries exactly as long as no return has
ended a running exception; then the pool holds out for the entries in the
queues. -/
theorem balanced_iff (bus : Bus D) [TableReads bus] (a : Account D)
    (h : (accountSystem bus).Reachable a) :
    (a.Balanced ∧ a.Spares) ↔ a.ended = 0 := by
  obtain ⟨-, hsum⟩ := (account_invariant bus).of_reachable h
  unfold Account.Balanced Account.Spares
  constructor
  · rintro ⟨hbalanced, -⟩
    omega
  · intro hended
    refine ⟨by omega, fun bound hbound => ?_⟩
    omega

/-! ## A handler that returns -/

/-- A step of the controller with its account. -/
theorem reachable_account {bus : Bus D} {a : Account D} {e : IntcEvent} {m' : Machine D}
    (h : (accountSystem bus).Reachable a) (hstep : IntcStep bus e a.machine m') :
    (accountSystem bus).Reachable
      ⟨m', a.freed + e.frees a.machine, a.ended + e.ends a.machine⟩ :=
  .step h ⟨hstep, rfl, rfl⟩

/-- Core 0 has raised `PIE`. -/
def raisedPie : Machine Unit :=
  (Machine.reset ()).putCpuIntc 0 (intcRaiseException 0 .pie ((Machine.reset ()).cpuIntc 0))

/-- Its handler has been started. -/
def startedPie : Machine Unit :=
  raisedPie.putCpuState 0
    (supplyClockIntc (romBus fun _ => 0) 0 (raisedPie.clockState 0).toCpuState)

theorem returns_raisedPie :
    supplyClockReturns (romBus fun _ => 0) 0 (raisedPie.clockState 0).toCpuState = true := by
  decide +kernel

theorem reachable_raisedPie :
    (accountSystem (romBus fun _ => 0)).Reachable ⟨raisedPie, 0, 0⟩ :=
  reachable_account (.init ⟨(), rfl⟩) (.raiseException _ 0 .pie)

theorem reachable_startedPie :
    (accountSystem (romBus fun _ => 0)).Reachable
      ⟨startedPie, 0 + (IntcEvent.clock 0).frees raisedPie, 0⟩ :=
  reachable_account reachable_raisedPie (.clock _ 0 returns_raisedPie)

theorem balanced_iff_raisedPie :
    ((Account.mk raisedPie 0 0).Balanced ∧ (Account.mk raisedPie 0 0).Spares) ↔
      (Account.mk raisedPie 0 0).ended = 0 :=
  balanced_iff (romBus fun _ => 0) ⟨raisedPie, 0, 0⟩ reachable_raisedPie

/-- After `PIE` and `FERET` the entry is in no queue and has not been freed. -/
theorem feret_keeps_entry :
    ∃ a, (accountSystem (romBus fun _ => 0)).Reachable a ∧ ¬ a.Balanced := by
  have hreach := reachable_account reachable_startedPie (.feret startedPie 0)
  refine ⟨_, hreach, fun hbalanced => ?_⟩
  obtain ⟨-, hsum⟩ := (account_invariant _).of_reachable hreach
  have hends : (IntcEvent.feret 0).ends startedPie = 1 := by decide +kernel
  unfold Account.Balanced at hbalanced
  dsimp only at hbalanced hsum
  omega

end Athrill
