import Athrill.Intc.Masks

/-!
# The queues of the interrupt controller

What holds of the queues in every reachable state: each entry lies in the queue
of its level and core, an exception queue is in the order of arrival, no two
entries of a core have the same number, and the running exception is in its
queue.

* `ControlFormed`, `IntcFormed`: the invariant.
* the lemmas of `IntcFormed`: what every function preserves.
* `intcFormed_of_reachable`: it holds in every reachable state.
-/

namespace Athrill

open TargetCore

variable {D : Type}

/-! ## The invariant -/

/-- The queues of core `c` are in order; all numbers are below `nextEntry`. -/
structure ControlFormed (c : CoreId) (nextEntry : Nat) (control : ExceptionController) :
    Prop where
  level : ∀ level, ∀ req ∈ control.exceptionQueue level, req.level = level
  core : ∀ level, ∀ req ∈ control.exceptionQueue level, req.coreId = c
  degree : ∀ level, ∀ req ∈ control.exceptionQueue level, req.priorityDegree < 0xFFFFFFFF
  fresh : ∀ level, ∀ req ∈ control.exceptionQueue level, req.entry < nextEntry
  sorted : ∀ level, (control.exceptionQueue level).Pairwise fun a b => a.entry < b.entry
  apart : ∀ level level', ∀ a ∈ control.exceptionQueue level,
    ∀ b ∈ control.exceptionQueue level', a.entry = b.entry → level = level'
  current : ∀ entry, control.currentException = some entry →
    ∃ level, ∃ req ∈ control.exceptionQueue level, req.entry = entry ∧ req.status ≠ .runnable
  user : ∀ req ∈ control.userQueue,
    req.exno = .userIntr ∧ req.coreId = c ∧ req.intno < tnumInt ∧ req.priorityDegree < 0xFFFFFFFF
  userFresh : ∀ req ∈ control.userQueue, req.entry < nextEntry
  userSorted : control.userQueue.Pairwise fun a b => a.entry < b.entry
  userApart : ∀ level, ∀ a ∈ control.exceptionQueue level, ∀ b ∈ control.userQueue,
    a.entry ≠ b.entry

/-- The queues of both cores are in order. -/
def IntcFormed (intc : Intc) : Prop :=
  ∀ c, ControlFormed c intc.nextEntry (intc.control c)

/-- Entries of a sorted queue with the same number are the same. -/
theorem eq_of_entry_eq {queue : List ExceptionRequest}
    (hsorted : queue.Pairwise fun a b => a.entry < b.entry) {a b : ExceptionRequest}
    (ha : a ∈ queue) (hb : b ∈ queue) (h : a.entry = b.entry) : a = b := by
  induction queue with
  | nil => cases ha
  | cons x queue ih =>
    rw [List.pairwise_cons] at hsorted
    rcases List.mem_cons.mp ha with rfl | ha'
    · rcases List.mem_cons.mp hb with rfl | hb'
      · rfl
      · exact absurd h (Nat.ne_of_lt (hsorted.1 b hb'))
    · rcases List.mem_cons.mp hb with rfl | hb'
      · exact absurd h.symm (Nat.ne_of_lt (hsorted.1 a ha'))
      · exact ih hsorted.2 ha' hb'

/-- An entry that leaves a sorted queue leaves it alone: the entries of any kind. -/
theorem countP_removeEntry {queue : List ExceptionRequest}
    (hsorted : queue.Pairwise fun a b => a.entry < b.entry) {req : ExceptionRequest}
    (hmem : req ∈ queue) (kind : ExceptionRequest → Bool) :
    (removeEntry req.entry queue).countP kind + (if kind req then 1 else 0) =
      queue.countP kind := by
  induction queue with
  | nil => cases hmem
  | cons x queue ih =>
    rw [List.pairwise_cons] at hsorted
    unfold removeEntry at ih ⊢
    rcases List.mem_cons.mp hmem with rfl | hin
    · have hkept : queue.filter (fun a => decide (a.entry ≠ req.entry)) = queue :=
        List.filter_eq_self.mpr fun a ha => decide_eq_true (Nat.ne_of_gt (hsorted.1 a ha))
      rw [List.filter_cons_of_neg (by simp), hkept, List.countP_cons]
    · have hne : x.entry ≠ req.entry := Nat.ne_of_lt (hsorted.1 req hin)
      have hpos : decide (x.entry ≠ req.entry) = true := decide_eq_true hne
      have hrest := ih hsorted.2 hin
      rw [List.filter_cons, if_pos hpos, List.countP_cons, List.countP_cons]
      omega

theorem length_removeEntry {queue : List ExceptionRequest}
    (hsorted : queue.Pairwise fun a b => a.entry < b.entry) {req : ExceptionRequest}
    (hmem : req ∈ queue) : (removeEntry req.entry queue).length + 1 = queue.length := by
  have hcount := countP_removeEntry hsorted hmem fun _ => true
  rw [List.countP_true, if_pos rfl] at hcount
  exact hcount

/-- A number that is not in the queue. -/
theorem setStatus_eq_self {entry : Nat} {queue : List ExceptionRequest}
    (h : ∀ req ∈ queue, req.entry ≠ entry) (status : ExceptionRequestStatus) :
    setStatus entry status queue = queue := by
  unfold setStatus
  rw [List.map_congr_left fun req hreq => if_neg (h req hreq), List.map_id']

/-- A status is written to one entry of a sorted queue: the entries of any kind. -/
theorem countP_setStatus {queue : List ExceptionRequest}
    (hsorted : queue.Pairwise fun a b => a.entry < b.entry) {req : ExceptionRequest}
    (hmem : req ∈ queue) (status : ExceptionRequestStatus) (kind : ExceptionRequest → Bool) :
    (setStatus req.entry status queue).countP kind + (if kind req then 1 else 0) =
      queue.countP kind + if kind { req with status := status } then 1 else 0 := by
  induction queue with
  | nil => cases hmem
  | cons x queue ih =>
    rw [List.pairwise_cons] at hsorted
    rcases List.mem_cons.mp hmem with rfl | hin
    · have hkept : setStatus req.entry status queue = queue :=
        setStatus_eq_self (fun a ha => Nat.ne_of_gt (hsorted.1 a ha)) status
      unfold setStatus at hkept ⊢
      rw [List.map_cons, if_pos rfl, hkept, List.countP_cons, List.countP_cons]
      omega
    · have hne : x.entry ≠ req.entry := Nat.ne_of_lt (hsorted.1 req hin)
      have hrest := ih hsorted.2 hin
      unfold setStatus at hrest ⊢
      rw [List.map_cons, if_neg hne, List.countP_cons, List.countP_cons]
      omega

namespace ControlFormed

variable {c : CoreId} {nextEntry : Nat} {control : ExceptionController}

/-- An entry is known by its number. -/
theorem eq_of_entry (h : ControlFormed c nextEntry control) {level level' : Fin 16}
    {a b : ExceptionRequest} (ha : a ∈ control.exceptionQueue level)
    (hb : b ∈ control.exceptionQueue level') (heq : a.entry = b.entry) : a = b := by
  obtain rfl := h.apart level level' a ha b hb heq
  exact eq_of_entry_eq (h.sorted level) ha hb heq

theorem current_eq_none (hnone : control.currentException = none) : control.current = none := by
  unfold ExceptionController.current
  rw [hnone]
  rfl

/-- The running exception is read through its number. -/
theorem current_eq_some (h : ControlFormed c nextEntry control) {entry : Nat}
    (hsome : control.currentException = some entry) :
    ∃ req, control.current = some req ∧ req.entry = entry ∧ req.status ≠ .runnable ∧
      req ∈ control.exceptionQueue req.level := by
  obtain ⟨level, req, hmem, hentry, hstatus⟩ := h.current entry hsome
  refine ⟨req, ?_, hentry, hstatus, ?_⟩
  · unfold ExceptionController.current
    rw [hsome, Option.bind_some]
    cases hfind : ((List.finRange 16).flatMap control.exceptionQueue).find?
        fun req => decide (req.entry = entry) with
    | none =>
      rw [List.find?_eq_none] at hfind
      have hin : req ∈ (List.finRange 16).flatMap control.exceptionQueue :=
        List.mem_flatMap.mpr ⟨level, List.mem_finRange level, hmem⟩
      exact absurd (decide_eq_true hentry) (hfind req hin)
    | some req' =>
      have hin := List.mem_of_find?_eq_some hfind
      have hentry' := List.find?_some hfind
      rw [decide_eq_true_eq] at hentry'
      obtain ⟨level', _, hmem'⟩ := List.mem_flatMap.mp hin
      rw [h.eq_of_entry hmem' hmem (hentry'.trans hentry.symm)]
  · rw [h.level level req hmem]
    exact hmem

/-- The pointer is null when the data of the running exception are missing. -/
theorem current_isSome_iff (h : ControlFormed c nextEntry control) {req : ExceptionRequest}
    (hcur : control.current = some req) : control.currentException = some req.entry := by
  cases hptr : control.currentException with
  | none =>
    rw [current_eq_none hptr] at hcur
    cases hcur
  | some entry =>
    obtain ⟨req', hcur', hentry, _⟩ := h.current_eq_some hptr
    rw [hcur] at hcur'
    cases hcur'
    rw [hentry]

theorem mono (h : ControlFormed c nextEntry control) {nextEntry' : Nat}
    (hle : nextEntry ≤ nextEntry') : ControlFormed c nextEntry' control :=
  { h with
    fresh := fun level req hmem => (h.fresh level req hmem).trans_le hle
    userFresh := fun req hmem => (h.userFresh req hmem).trans_le hle }

/-! ## Changes of one controller -/

/-- A new entry in an exception queue. -/
theorem push (h : ControlFormed c nextEntry control) {level : Fin 16} {req : ExceptionRequest}
    (hentry : req.entry = nextEntry) (hlevel : req.level = level) (hcore : req.coreId = c)
    (hdegree : req.priorityDegree < 0xFFFFFFFF) :
    ControlFormed c (nextEntry + 1)
      (control.modifyQueue level fun queue => queue ++ [req]) := by
  have hmem {level' : Fin 16} {a : ExceptionRequest}
      (ha : a ∈ (control.modifyQueue level fun queue => queue ++ [req]).exceptionQueue level') :
      a ∈ control.exceptionQueue level' ∨ a = req ∧ level' = level := by
    dsimp only [ExceptionController.modifyQueue] at ha
    rw [Function.update_apply] at ha
    split_ifs at ha with hl
    · subst hl
      rcases List.mem_append.mp ha with ha | ha
      · exact Or.inl ha
      · exact Or.inr ⟨List.mem_singleton.mp ha, rfl⟩
    · exact Or.inl ha
  refine ⟨?_, ?_, ?_, ?_, ?_, ?_, ?_, h.user, ?_, h.userSorted, ?_⟩
  · intro level' a ha
    rcases hmem ha with ha | ⟨rfl, rfl⟩
    · exact h.level _ a ha
    · exact hlevel
  · intro level' a ha
    rcases hmem ha with ha | ⟨rfl, rfl⟩
    · exact h.core _ a ha
    · exact hcore
  · intro level' a ha
    rcases hmem ha with ha | ⟨rfl, rfl⟩
    · exact h.degree _ a ha
    · exact hdegree
  · intro level' a ha
    rcases hmem ha with ha | ⟨rfl, rfl⟩
    · exact (h.fresh _ a ha).trans (Nat.lt_succ_self _)
    · rw [hentry]
      exact Nat.lt_succ_self _
  · intro level'
    dsimp only [ExceptionController.modifyQueue]
    rw [Function.update_apply]
    split_ifs with hl
    · subst hl
      rw [List.pairwise_append]
      refine ⟨h.sorted _, List.pairwise_singleton _ _, fun a ha b hb => ?_⟩
      rw [List.mem_singleton.mp hb, hentry]
      exact h.fresh _ a ha
    · exact h.sorted level'
  · intro level₁ level₂ a ha b hb heq
    rcases hmem ha with hold | ⟨rfl, rfl⟩
    · rcases hmem hb with hold' | ⟨rfl, rfl⟩
      · exact h.apart _ _ a hold b hold' heq
      · exact absurd (heq.trans hentry) (Nat.ne_of_lt (h.fresh _ a hold))
    · rcases hmem hb with hold' | ⟨rfl, rfl⟩
      · exact absurd (heq.symm.trans hentry) (Nat.ne_of_lt (h.fresh _ b hold'))
      · rfl
  · intro entry hcur
    obtain ⟨level', a, ha, hrest⟩ := h.current entry hcur
    refine ⟨level', a, ?_, hrest⟩
    dsimp only [ExceptionController.modifyQueue]
    rw [Function.update_apply]
    split_ifs with hl
    · subst hl
      exact List.mem_append_left _ ha
    · exact ha
  · intro a ha
    exact (h.userFresh a ha).trans (Nat.lt_succ_self _)
  · intro level' a ha b hb heq
    rcases hmem ha with ha | ⟨rfl, rfl⟩
    · exact h.userApart _ a ha b hb heq
    · exact absurd (heq.symm.trans hentry) (Nat.ne_of_lt (h.userFresh b hb))

/-- A new entry in the user queue. -/
theorem pushUser (h : ControlFormed c nextEntry control) {req : ExceptionRequest}
    (hentry : req.entry = nextEntry)
    (huser : req.exno = .userIntr ∧ req.coreId = c ∧ req.intno < tnumInt ∧
      req.priorityDegree < 0xFFFFFFFF) :
    ControlFormed c (nextEntry + 1)
      { control with userQueue := control.userQueue ++ [req] } := by
  have hmem {a : ExceptionRequest} (ha : a ∈ control.userQueue ++ [req]) :
      a ∈ control.userQueue ∨ a = req := by
    rcases List.mem_append.mp ha with ha | ha
    · exact Or.inl ha
    · exact Or.inr (List.mem_singleton.mp ha)
  refine ⟨h.level, h.core, h.degree, ?_, h.sorted, h.apart, h.current, ?_, ?_, ?_, ?_⟩
  · intro level a ha
    exact (h.fresh level a ha).trans (Nat.lt_succ_self _)
  · intro a ha
    rcases hmem ha with ha | rfl
    · exact h.user a ha
    · exact huser
  · intro a ha
    rcases hmem ha with ha | rfl
    · exact (h.userFresh a ha).trans (Nat.lt_succ_self _)
    · rw [hentry]
      exact Nat.lt_succ_self _
  · rw [List.pairwise_append]
    refine ⟨h.userSorted, List.pairwise_singleton _ _, fun a ha b hb => ?_⟩
    rw [List.mem_singleton.mp hb, hentry]
    exact h.userFresh a ha
  · intro level a ha b hb heq
    rcases hmem hb with hb | rfl
    · exact h.userApart level a ha b hb heq
    · exact absurd (heq.trans hentry) (Nat.ne_of_lt (h.fresh level a ha))

/-- Entries leave the queues, but not the running exception. -/
theorem sublist (h : ControlFormed c nextEntry control) {control' : ExceptionController}
    (hqueue : ∀ level, (control'.exceptionQueue level).Sublist (control.exceptionQueue level))
    (huser : control'.userQueue.Sublist control.userQueue)
    (hcurrent : ∀ entry, control'.currentException = some entry →
      ∃ level, ∃ req ∈ control'.exceptionQueue level, req.entry = entry ∧
        req.status ≠ .runnable) : ControlFormed c nextEntry control' where
  level level req hmem := h.level level req ((hqueue level).subset hmem)
  core level req hmem := h.core level req ((hqueue level).subset hmem)
  degree level req hmem := h.degree level req ((hqueue level).subset hmem)
  fresh level req hmem := h.fresh level req ((hqueue level).subset hmem)
  sorted level := (h.sorted level).sublist (hqueue level)
  apart level level' a ha b hb :=
    h.apart level level' a ((hqueue level).subset ha) b ((hqueue level').subset hb)
  current := hcurrent
  user req hmem := h.user req (huser.subset hmem)
  userFresh req hmem := h.userFresh req (huser.subset hmem)
  userSorted := h.userSorted.sublist huser
  userApart level a ha b hb := h.userApart level a ((hqueue level).subset ha) b (huser.subset hb)

/-- The status of entries is written. -/
theorem mapStatus (h : ControlFormed c nextEntry control) {control' : ExceptionController}
    {f g : ExceptionRequest → ExceptionRequest} (hf : ∀ req, ∃ status, f req = { req with status })
    (hg : ∀ req, ∃ status, g req = { req with status })
    (hqueue : ∀ level, control'.exceptionQueue level = (control.exceptionQueue level).map f)
    (huser : control'.userQueue = control.userQueue.map g)
    (hcurrent : ∀ entry, control'.currentException = some entry →
      ∃ level, ∃ req ∈ control'.exceptionQueue level, req.entry = entry ∧
        req.status ≠ .runnable) : ControlFormed c nextEntry control' := by
  have hfentry (req : ExceptionRequest) : (f req).entry = req.entry := by
    obtain ⟨status, heq⟩ := hf req
    rw [heq]
  have hgentry (req : ExceptionRequest) : (g req).entry = req.entry := by
    obtain ⟨status, heq⟩ := hg req
    rw [heq]
  have hmem {level : Fin 16} {a : ExceptionRequest} (ha : a ∈ control'.exceptionQueue level) :
      ∃ b ∈ control.exceptionQueue level, f b = a := by
    rw [hqueue] at ha
    exact List.mem_map.mp ha
  have hmemUser {a : ExceptionRequest} (ha : a ∈ control'.userQueue) :
      ∃ b ∈ control.userQueue, g b = a := by
    rw [huser] at ha
    exact List.mem_map.mp ha
  refine ⟨?_, ?_, ?_, ?_, ?_, ?_, hcurrent, ?_, ?_, ?_, ?_⟩
  · intro level a ha
    obtain ⟨b, hb, rfl⟩ := hmem ha
    obtain ⟨status, heq⟩ := hf b
    rw [heq]
    exact h.level level b hb
  · intro level a ha
    obtain ⟨b, hb, rfl⟩ := hmem ha
    obtain ⟨status, heq⟩ := hf b
    rw [heq]
    exact h.core level b hb
  · intro level a ha
    obtain ⟨b, hb, rfl⟩ := hmem ha
    obtain ⟨status, heq⟩ := hf b
    rw [heq]
    exact h.degree level b hb
  · intro level a ha
    obtain ⟨b, hb, rfl⟩ := hmem ha
    rw [hfentry]
    exact h.fresh level b hb
  · intro level
    rw [hqueue, List.pairwise_map]
    simp only [hfentry]
    exact h.sorted level
  · intro level level' a ha b hb heq
    obtain ⟨a', ha', rfl⟩ := hmem ha
    obtain ⟨b', hb', rfl⟩ := hmem hb
    rw [hfentry, hfentry] at heq
    exact h.apart level level' a' ha' b' hb' heq
  · intro a ha
    obtain ⟨b, hb, rfl⟩ := hmemUser ha
    obtain ⟨status, heq⟩ := hg b
    rw [heq]
    exact h.user b hb
  · intro a ha
    obtain ⟨b, hb, rfl⟩ := hmemUser ha
    rw [hgentry]
    exact h.userFresh b hb
  · rw [huser, List.pairwise_map]
    simp only [hgentry]
    exact h.userSorted
  · intro level a ha b hb
    obtain ⟨a', ha', rfl⟩ := hmem ha
    obtain ⟨b', hb', rfl⟩ := hmemUser hb
    rw [hfentry, hgentry]
    exact h.userApart level a' ha' b' hb'

end ControlFormed

/-! ## The functions -/

theorem intcFormed_modifyControl {intc : Intc} (h : IntcFormed intc) (c : CoreId)
    {f : ExceptionController → ExceptionController}
    (hf : ControlFormed c intc.nextEntry (f (intc.control c))) :
    IntcFormed (intc.modifyControl c f) := by
  intro i
  show ControlFormed i intc.nextEntry (Function.update intc.control c (f (intc.control c)) i)
  rw [Function.update_apply]
  split_ifs with hi
  · subst hi
    exact hf
  · exact h i

/-- A change of one controller that uses up a number. -/
theorem intcFormed_alloc {intc intc' : Intc} (h : IntcFormed intc) (c : CoreId)
    {control : ExceptionController} (hcontrol : intc'.control = Function.update intc.control c control)
    (hnext : intc'.nextEntry = intc.nextEntry + 1)
    (hf : ControlFormed c (intc.nextEntry + 1) control) : IntcFormed intc' := by
  intro i
  rw [hcontrol, hnext, Function.update_apply]
  split_ifs with hi
  · subst hi
    exact hf
  · exact (h i).mono (Nat.le_succ _)

theorem intcFormed_addException {intc : Intc} (h : IntcFormed intc) {c : CoreId} {level : Fin 16}
    {req : ExceptionRequest} (hlevel : req.level = level) (hcore : req.coreId = c)
    (hdegree : req.priorityDegree < 0xFFFFFFFF) : IntcFormed (addException intc c level req) :=
  intcFormed_alloc h c rfl rfl
    ((h c).push rfl hlevel hcore hdegree)

/-- A change of the registers alone. -/
theorem intcFormed_of_eq {intc intc' : Intc} (h : IntcFormed intc)
    (hcontrol : intc'.control = intc.control) (hnext : intc'.nextEntry = intc.nextEntry) :
    IntcFormed intc' := by
  intro c
  rw [hcontrol, hnext]
  exact h c

theorem userPriority_le (intc : Intc) (intno : Nat) :
    intcGetUserIntrPriorityDegree intc intno ≤ 15 := by
  unfold intcGetUserIntrPriorityDegree
  rw [BitVec.toNat_and]
  exact Nat.and_le_right

/-- The degree of a user interrupt: its priority, then its number. -/
theorem priorityDegree_userIntr (intc : Intc) {intno : Nat} (hno : intno < tnumInt) :
    intcGetExceptionPriorityDegree intc .userIntr intno =
      intcGetUserIntrPriorityDegree intc intno * 65536 + intno := by
  have hprio := userPriority_le intc intno
  have hno' : intno < 2 ^ 16 := hno.trans (by decide)
  unfold intcGetExceptionPriorityDegree intcGetUserIntrPriorityDegreeDefault
  dsimp only
  generalize intcGetUserIntrPriorityDegree intc intno = prio at hprio ⊢
  rw [if_pos rfl, BitVec.toNat_or, BitVec.toNat_shiftLeft, BitVec.toNat_ofNat, BitVec.toNat_ofNat,
    Nat.mod_eq_of_lt (by omega : prio < 2 ^ 32), Nat.mod_eq_of_lt (by omega : intno < 2 ^ 32),
    Nat.shiftLeft_eq, Nat.mod_eq_of_lt (by omega : prio * 2 ^ 16 < 2 ^ 32), ← Nat.shiftLeft_eq,
    ← Nat.shiftLeft_add_eq_or_of_lt hno', Nat.shiftLeft_eq]

/-- The degrees are below the bound from which the judge starts. -/
theorem priorityDegree_lt (intc : Intc) (exno : ExceptionId) {intno : Nat} (hno : intno < tnumInt) :
    intcGetExceptionPriorityDegree intc exno intno < 0xFFFFFFFF := by
  by_cases huser : exno = .userIntr
  · subst huser
    rw [priorityDegree_userIntr intc hno]
    have hprio := userPriority_le intc intno
    have hno' : intno < 65536 := hno.trans (by decide)
    omega
  · unfold intcGetExceptionPriorityDegree
    dsimp only
    rw [if_neg huser]
    revert huser
    cases exno <;> decide

theorem intcFormed_putIcBit {intc : Intc} (h : IntcFormed intc) (c : CoreId) (intno bit : Nat)
    (flag : Bool) : IntcFormed (putIcBit intc c intno bit flag) :=
  intcFormed_of_eq h rfl rfl

theorem intcFormed_commonRaiseUserIntr {intc : Intc} (h : IntcFormed intc) (c : CoreId)
    {intno : Nat} (hno : intno < tnumInt) : IntcFormed (commonRaiseUserIntr intno c intc) := by
  unfold commonRaiseUserIntr
  split_ifs
  · exact h
  · refine intcFormed_putIcBit (intcFormed_alloc h c rfl rfl ?_) _ _ _ _
    exact (h c).pushUser rfl ⟨rfl, rfl, hno, priorityDegree_lt intc .userIntr hno⟩

theorem intcFormed_intcRaiseIntr {intc : Intc} (h : IntcFormed intc) {intno : Nat}
    (hno : intno < tnumInt) : IntcFormed (intcRaiseIntr intno intc) :=
  intcFormed_commonRaiseUserIntr (intcFormed_commonRaiseUserIntr h 0 hno) 1 hno

theorem intcFormed_intcRaiseException {s : CpuIntc} (h : IntcFormed s.intc) (c : CoreId)
    (exno : ExceptionId) : IntcFormed (intcRaiseException c exno s).intc :=
  intcFormed_addException h rfl rfl (priorityDegree_lt s.intc exno (by decide))

/-- The running exception leaves its queue, and the pointer is cleared. -/
theorem intcFormed_dropCurrent {intc : Intc} (h : IntcFormed intc) (c : CoreId)
    (exp : ExceptionRequest) : IntcFormed (dropCurrent c exp intc) := by
  refine intcFormed_modifyControl h c ((h c).sublist (fun level => ?_) (List.Sublist.refl _) ?_)
  · dsimp only [ExceptionController.modifyQueue]
    rw [Function.update_apply]
    split_ifs with hl
    · subst hl
      exact List.filter_sublist
    · exact List.Sublist.refl _
  · intro entry hcur
    cases hcur

theorem intcFormed_intcClrEi {s : CpuIntc} (h : IntcFormed s.intc) (c : CoreId) :
    IntcFormed (intcClrEi c s).intc := by
  unfold intcClrEi
  split
  · exact h
  · exact intcFormed_dropCurrent h c _

theorem intcFormed_intcClrFe {s : CpuIntc} (h : IntcFormed s.intc) (c : CoreId) :
    IntcFormed (intcClrFe c s).intc := by
  unfold intcClrFe
  split
  · exact h
  · exact intcFormed_dropCurrent h c _

theorem setStatus_spec (entry : Nat) (status : ExceptionRequestStatus) (req : ExceptionRequest) :
    ∃ status', (if req.entry = entry then { req with status := status } else req) =
      { req with status := status' } := by
  split_ifs
  · exact ⟨status, rfl⟩
  · exact ⟨req.status, rfl⟩

/-- A status other than runnable is written to an entry of the queues, which
may become the running exception. -/
theorem intcFormed_putStatus {intc : Intc} (h : IntcFormed intc) (c : CoreId) {entry : Nat}
    {status : ExceptionRequestStatus} (hstatus : status ≠ .runnable) {current : Option Nat}
    (hcurrent : current = (intc.control c).currentException ∨
      current = some entry ∧
        ∃ level, ∃ req ∈ (intc.control c).exceptionQueue level, req.entry = entry) :
    IntcFormed (intc.modifyControl c fun control =>
      { control.putStatus entry status with currentException := current }) := by
  refine intcFormed_modifyControl h c ((h c).mapStatus (setStatus_spec entry status)
    (setStatus_spec entry status) (fun _ => rfl) rfl ?_)
  intro entry' hcur
  dsimp only at hcur
  have hfound : ∃ level, ∃ req ∈ (intc.control c).exceptionQueue level,
      req.entry = entry' ∧ (req.entry ≠ entry → req.status ≠ .runnable) := by
    rcases hcurrent with hsame | ⟨hnew, level, req, hmem, hentry⟩
    · obtain ⟨level, req, hmem, hentry, hrun⟩ := (h c).current entry' (hsame ▸ hcur)
      exact ⟨level, req, hmem, hentry, fun _ => hrun⟩
    · rw [hnew, Option.some.injEq] at hcur
      exact ⟨level, req, hmem, hentry.trans hcur, fun hne => absurd hentry hne⟩
  obtain ⟨level, req, hmem, hentry, hrun⟩ := hfound
  refine ⟨level, if req.entry = entry then { req with status := status } else req,
    List.mem_map.mpr ⟨req, hmem, rfl⟩, ?_⟩
  split_ifs with heq
  · exact ⟨hentry, hstatus⟩
  · exact ⟨hentry, hrun heq⟩

theorem intcFormed_judgeCpuMaskUserIntr {s : CpuIntc} (h : IntcFormed s.intc) {c : CoreId}
    {candidate : ExceptionRequest} (hmem : candidate ∈ (s.intc.control c).userQueue) :
    IntcFormed (judgeCpuMaskUserIntr candidate s).intc := by
  obtain ⟨_, hcore, _, hdegree⟩ := (h c).user candidate hmem
  unfold judgeCpuMaskUserIntr
  dsimp only
  split_ifs
  · exact h
  · exact h
  · refine intcFormed_addException ?_ rfl rfl hdegree
    rw [hcore]
    refine intcFormed_modifyControl h c ((h c).mapStatus (f := id) (fun req => ⟨req.status, rfl⟩)
      (setStatus_spec candidate.entry .runnable) (fun level => (List.map_id _).symm) rfl ?_)
    exact (h c).current

theorem userCandidate_mem {intc : Intc} {queue : List ExceptionRequest}
    {candidate : ExceptionRequest} (h : userCandidate intc queue = some candidate) :
    candidate ∈ queue ∧ intcIsUserIntrMasked intc candidate.intno = false := by
  unfold userCandidate at h
  rcases MinScan.scan_cases ExceptionRequest.priorityDegree (0xFFFFFFFF, none)
    (queue.filter fun req => !intcIsUserIntrMasked intc req.intno) with ⟨hkeep, _⟩ | ⟨a, hgive, _, hmin⟩
  · rw [hkeep] at h
    cases h
  · rw [hgive] at h
    cases h
    have hmem := List.mem_filter.mp hmin.mem
    exact ⟨hmem.1, by simpa using hmem.2⟩

theorem intcFormed_judgePendingUserIntr {s : CpuIntc} (h : IntcFormed s.intc) (c : CoreId) :
    IntcFormed (judgePendingUserIntr c s).intc := by
  unfold judgePendingUserIntr
  split
  · exact h
  · rename_i candidate hcandidate
    split_ifs
    · exact h
    · exact intcFormed_judgeCpuMaskUserIntr (c := c)
        (s := { s with cpu := { s.cpu with isHalt := false } }) h (userCandidate_mem hcandidate).1

/-! ## The judge -/

/-- What a loop over one queue can make of the candidate. -/
theorem judgeEntry_foldl (intc : Intc) (queue : List ExceptionRequest) (js : JudgeState) :
    (queue.foldl (judgeEntry intc) js).best.2 = js.best.2 ∨
      ∃ req ∈ queue, (queue.foldl (judgeEntry intc) js).best.2 = some req := by
  induction queue generalizing js with
  | nil => exact Or.inl rfl
  | cons req queue ih =>
    rw [List.foldl_cons]
    rcases ih (judgeEntry intc js req) with hsame | ⟨req', hmem, hgive⟩
    · rw [hsame]
      unfold judgeEntry MinScan.step
      split_ifs
      · exact Or.inl rfl
      · exact Or.inr ⟨req, List.mem_cons_self, rfl⟩
      · exact Or.inl rfl
    · exact Or.inr ⟨req', List.mem_cons_of_mem _ hmem, hgive⟩

/-- The candidate at the end is the one at the start or an entry of a queue. -/
theorem judgeLevels_best (intc : Intc) (control : ExceptionController) (levels : List (Fin 16))
    (js : JudgeState) :
    (judgeLevels intc control levels js).best.2 = js.best.2 ∨
      ∃ level, ∃ req ∈ control.exceptionQueue level,
        (judgeLevels intc control levels js).best.2 = some req := by
  induction levels generalizing js with
  | nil => exact Or.inl rfl
  | cons level levels ih =>
    have hqueue := judgeEntry_foldl intc (control.exceptionQueue level) js
    unfold judgeLevels
    dsimp only
    generalize (control.exceptionQueue level).foldl (judgeEntry intc) js = after at hqueue ⊢
    have hafter : after.best.2 = js.best.2 ∨ ∃ level, ∃ req ∈ control.exceptionQueue level,
        after.best.2 = some req := hqueue.imp id fun hgive => ⟨level, hgive⟩
    have hnext : (judgeLevels intc control levels after).best.2 = js.best.2 ∨
        ∃ level, ∃ req ∈ control.exceptionQueue level,
          (judgeLevels intc control levels after).best.2 = some req := by
      rcases ih after with hsame | hgive
      · rw [hsame]
        exact hafter
      · exact Or.inr hgive
    split_ifs
    · exact hnext
    · exact hafter
    · exact hnext

/-- A candidate that is not the running exception is an entry of a queue. -/
theorem judgeSearch_mem {c : CoreId} {s : CpuIntc} {nextEntry : Nat}
    (h : ControlFormed c nextEntry (s.intc.control c)) {candidate : ExceptionRequest}
    (hbest : (judgeSearch c s).best.2 = some candidate)
    (hne : some candidate.entry ≠ (s.intc.control c).currentException) :
    ∃ level, candidate ∈ (s.intc.control c).exceptionQueue level := by
  unfold judgeSearch at hbest
  dsimp only at hbest
  rcases judgeLevels_best s.intc (s.intc.control c) (judgeLevelList (s.intc.control c))
    (judgeStart (s.intc.control c) s.cpu) with hstart | ⟨level, req, hmem, hgive⟩
  · rw [hstart] at hbest
    unfold judgeStart at hbest
    split at hbest
    · rename_i current hcurrent
      obtain rfl := Option.some.inj hbest
      exact absurd (h.current_isSome_iff hcurrent).symm hne
    · cases hbest
  · rw [hgive] at hbest
    obtain rfl := Option.some.inj hbest
    exact ⟨level, hmem⟩

/-- An entry keeps its place and number when a status is written. -/
theorem exists_entry_putStatus {control : ExceptionController} {level : Fin 16}
    {req : ExceptionRequest} (hmem : req ∈ control.exceptionQueue level) (entry : Nat)
    (status : ExceptionRequestStatus) :
    ∃ level, ∃ req' ∈ (control.putStatus entry status).exceptionQueue level,
      req'.entry = req.entry :=
  ⟨level, _, List.mem_map.mpr ⟨req, hmem, rfl⟩, by split_ifs <;> rfl⟩

theorem intcFormed_markWaiting {intc : Intc} (h : IntcFormed intc) (c : CoreId) :
    IntcFormed (markWaiting c intc) := by
  unfold markWaiting
  split
  · exact intcFormed_putStatus h c (by decide) (Or.inl rfl)
  · exact h

theorem intcFormed_markRunning {intc : Intc} (h : IntcFormed intc) (c : CoreId) {entry : Nat}
    (hin : ∃ level, ∃ req ∈ (intc.control c).exceptionQueue level, req.entry = entry) :
    IntcFormed (markRunning c entry intc) :=
  intcFormed_putStatus h c (by decide) (Or.inr ⟨rfl, hin⟩)

/-- Marking the running exception leaves the entries where they are. -/
theorem exists_entry_markWaiting {intc : Intc} {c : CoreId} {level : Fin 16}
    {req : ExceptionRequest} (hmem : req ∈ (intc.control c).exceptionQueue level) :
    ∃ level, ∃ req' ∈ ((markWaiting c intc).control c).exceptionQueue level,
      req'.entry = req.entry := by
  unfold markWaiting
  split
  · rename_i current _
    have hself : ((intc.modifyControl c fun control =>
        control.putStatus current .waiting).control c) =
        (intc.control c).putStatus current .waiting := Function.update_self _ _ _
    rw [hself]
    exact exists_entry_putStatus hmem current .waiting
  · exact ⟨level, req, hmem, rfl⟩

theorem intcFormed_judgePendingException {s : CpuIntc} (h : IntcFormed s.intc) (c : CoreId) :
    IntcFormed (judgePendingException c s).2.intc := by
  have houtcome := judgeOutcome_judgePendingException c s
  generalize judgePendingException c s = result at houtcome ⊢
  cases houtcome with
  | idle _ => exact h
  | resumed candidate hnew _ =>
    obtain ⟨level, hmem⟩ := judgeSearch_mem (h c) hnew.best hnew.other
    exact intcFormed_markRunning h c ⟨level, candidate, hmem, rfl⟩
  | started candidate hnew _ _ =>
    obtain ⟨level, hmem⟩ := judgeSearch_mem (h c) hnew.best hnew.other
    exact intcFormed_markRunning (intcFormed_markWaiting h c) c (exists_entry_markWaiting hmem)
  | refused _ _ _ _ => exact intcFormed_markWaiting h c

/-! ## The start of a handler -/

/-- An entry leaves the user queue. -/
theorem intcFormed_dropUser {intc : Intc} (h : IntcFormed intc) (c : CoreId)
    {f : List ExceptionRequest → List ExceptionRequest} (hf : ∀ queue, (f queue).Sublist queue) :
    IntcFormed (intc.modifyControl c fun control =>
      { control with userQueue := f control.userQueue }) :=
  intcFormed_modifyControl h c
    ((h c).sublist (fun _ => List.Sublist.refl _) (hf _) (h c).current)

theorem intcFormed_hookUserIntrRaised {s : CpuIntc} (h : IntcFormed s.intc)
    (exception : ExceptionRequest) : IntcFormed (hookUserIntrRaised exception s).intc := by
  unfold hookUserIntrRaised
  dsimp only
  split
  · exact intcFormed_putIcBit (intcFormed_dropUser h _ fun _ => List.filter_sublist) _ _ _ _
  · exact h

theorem intcFormed_supplyClockIntc (bus : Bus D) [TableReads bus] {s : CpuState D}
    (h : IntcFormed s.intc) (c : CoreId) : IntcFormed (supplyClockIntc bus c s).intc := by
  have hjudge := intcFormed_judgePendingException (intcFormed_judgePendingUserIntr h c) c
  unfold supplyClockIntc
  dsimp only
  split
  · rename_i exception ci heq
    rw [heq] at hjudge
    rw [intc_raiseException]
    split_ifs
    · exact intcFormed_hookUserIntrRaised hjudge exception
    · exact hjudge
  · rename_i ci heq
    rw [heq] at hjudge
    exact hjudge

/-! ## Software writes -/

/-- A runnable entry leaves a queue; it is not the running exception. -/
theorem controlFormed_dropRunnable {c : CoreId} {nextEntry : Nat} {control : ExceptionController}
    (h : ControlFormed c nextEntry control) (regaddr : Nat) :
    ControlFormed c nextEntry (dropRunnable regaddr control) := by
  unfold dropRunnable
  dsimp only
  split
  · rename_i dropped _
    have hqueue (level : Fin 16) : (control.modifyQueue dropped fun queue =>
        queue.eraseP (isRunnableAtIcAddr regaddr)).exceptionQueue level =
        if level = dropped then
          (control.exceptionQueue level).eraseP (isRunnableAtIcAddr regaddr)
        else control.exceptionQueue level := by
      show Function.update _ _ _ level = _
      rw [Function.update_apply]
      split_ifs with heq
      · rw [heq]
      · rfl
    refine h.sublist (fun level => ?_) (List.Sublist.refl _) fun entry hcurrent => ?_
    · rw [hqueue]
      split_ifs
      · exact List.eraseP_sublist
      · exact List.Sublist.refl _
    · obtain ⟨level, req, hmem, hentry, hstatus⟩ := h.current entry hcurrent
      refine ⟨level, req, ?_, hentry, hstatus⟩
      rw [hqueue]
      have hnot : ¬ isRunnableAtIcAddr regaddr req = true := fun htest => by
        unfold isRunnableAtIcAddr at htest
        rw [Bool.and_eq_true, decide_eq_true_eq] at htest
        exact hstatus htest.2
      split_ifs
      · exact (List.mem_eraseP_of_neg hnot).mpr hmem
      · exact hmem
  · exact h

theorem intcFormed_icUpperbit {intc : Intc} (h : IntcFormed intc) (c : CoreId) {regaddr : Nat}
    (data : HalfWord) (hno : icaddr2intno regaddr < tnumInt) :
    IntcFormed (intcHookUpdateIcUpperbit c regaddr data intc) := by
  unfold intcHookUpdateIcUpperbit
  split_ifs
  · exact intcFormed_intcRaiseIntr h hno
  · refine intcFormed_modifyControl h c (controlFormed_dropRunnable ?_ regaddr)
    exact (h c).sublist (fun _ => List.Sublist.refl _) List.eraseP_sublist (h c).current

/-- The hook of the IMR registers leaves the queues. -/
theorem intcFormed_imr {c : CoreId} {addr len : Nat} {data : Nat → Byte} {s : CpuIntc}
    (h : IntcFormed s.intc) : IntcFormed (intcHookUpdateImr c addr len data s).2.intc := by
  unfold intcHookUpdateImr
  split_ifs
  · exact h
  · exact intcFormed_of_eq h (control_imrHookBytes c (imrFirstIntno addr) len data s.intc)
      (nextEntry_imrHookBytes c (imrFirstIntno addr) len data s.intc)

theorem intcFormed_storeIf {result : IntcReturn × CpuIntc} {store : IntcMemory → IntcMemory}
    (h : IntcFormed result.2.intc) : IntcFormed (storeIf result store).2.intc := by
  unfold storeIf
  split_ifs
  · exact intcFormed_of_eq h rfl rfl
  · exact h

theorem intcFormed_intcPutData8 {s : CpuIntc} (h : IntcFormed s.intc) (c : CoreId) (addr : Nat)
    (data : Byte) : IntcFormed (intcPutData8 c addr data s).2.intc := by
  refine intcFormed_storeIf ?_
  unfold intcHookUpdateReg8
  split_ifs with hic
  · unfold intcHookUpdateIcReg8
    split_ifs with hum hodd
    · exact h
    · exact intcFormed_icUpperbit h c _ (icaddr2intno_lt (isIcAddr_pred hic hodd))
    · exact intcFormed_of_eq h rfl rfl
  · exact intcFormed_imr h
  · exact h

theorem intcFormed_intcPutData16 {s : CpuIntc} (h : IntcFormed s.intc) (c : CoreId) (addr : Nat)
    (data : HalfWord) : IntcFormed (intcPutData16 c addr data s).2.intc := by
  have hlower : IntcFormed (intcHookUpdateIcLowerbit c addr data s.intc) :=
    intcFormed_of_eq h rfl rfl
  refine intcFormed_storeIf ?_
  unfold intcHookUpdateReg16
  split_ifs with hic
  · exact h
  · unfold intcHookUpdateIcReg16
    split_ifs
    · exact h
    · exact intcFormed_icUpperbit hlower c _ (icaddr2intno_lt hic)
  · exact h
  · exact intcFormed_imr h
  · exact h

theorem intcFormed_intcPutData32 {s : CpuIntc} (h : IntcFormed s.intc) (c : CoreId) (addr : Nat)
    (data : Word) : IntcFormed (intcPutData32 c addr data s).2.intc := by
  refine intcFormed_storeIf ?_
  unfold intcHookUpdateReg32
  split_ifs
  · exact h
  · exact intcFormed_imr h
  · exact h

/-! ## Runs -/

theorem intcFormed_reset (dev : D) : IntcFormed (Machine.reset dev).intc := by
  intro c
  refine ⟨?_, ?_, ?_, ?_, ?_, ?_, ?_, ?_, ?_, ?_, ?_⟩
  · exact fun level req hmem => absurd hmem List.not_mem_nil
  · exact fun level req hmem => absurd hmem List.not_mem_nil
  · exact fun level req hmem => absurd hmem List.not_mem_nil
  · exact fun level req hmem => absurd hmem List.not_mem_nil
  · exact fun level => List.Pairwise.nil
  · exact fun level level' a ha => absurd ha List.not_mem_nil
  · exact fun entry hcurrent => absurd hcurrent (by simp [Machine.reset, deviceInitIntc])
  · exact fun req hmem => absurd hmem List.not_mem_nil
  · exact fun req hmem => absurd hmem List.not_mem_nil
  · exact List.Pairwise.nil
  · exact fun level a ha => absurd ha List.not_mem_nil

theorem intcFormed_intcStep {bus : Bus D} [TableReads bus] {e : IntcEvent} {m m' : Machine D}
    (h : IntcFormed m.intc) (hstep : IntcStep bus e m m') : IntcFormed m'.intc := by
  cases hstep with
  | other _ _ heq =>
    rw [heq]
    exact h
  | put8 _ c addr data _ => exact intcFormed_intcPutData8 (s := m.cpuIntc c) h c addr data
  | put16 _ c addr data _ => exact intcFormed_intcPutData16 (s := m.cpuIntc c) h c addr data
  | put32 _ c addr data _ => exact intcFormed_intcPutData32 (s := m.cpuIntc c) h c addr data
  | raiseIntr _ intno hno => exact intcFormed_intcRaiseIntr h hno
  | trigger _ c intno hno => exact intcFormed_commonRaiseUserIntr h _ hno
  | raiseException _ c exno => exact intcFormed_intcRaiseException (s := m.cpuIntc c) h c exno
  | eiret _ c => exact intcFormed_intcClrEi (s := ⟨restoreEi (m.cores c), m.intc⟩) h c
  | feret _ c => exact intcFormed_intcClrFe (s := ⟨restoreFe (m.cores c), m.intc⟩) h c
  | clock _ c => exact intcFormed_supplyClockIntc bus (s := (m.clockState c).toCpuState) h c

/-- The queues are in order in every reachable state. -/
theorem intcFormed_invariant (bus : Bus D) [TableReads bus] :
    (intcSystem bus).Invariant fun m => IntcFormed m.intc where
  init m hinit := by
    obtain ⟨dev, rfl⟩ := hinit
    exact intcFormed_reset dev
  step _ _ _ h hstep := intcFormed_intcStep h hstep

end Athrill
