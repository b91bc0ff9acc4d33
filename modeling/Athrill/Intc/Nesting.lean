import Athrill.Cpu.Return
import Athrill.Intc.Handlers
import Athrill.Intc.Records

/-!
# Nested handlers

A handler may be interrupted by another one, to any depth, and the return of
the inner one makes the outer one go on.  The registers of the level are the
matter of the handlers, which save and restore them; the stack of the handlers
is that of the controller.

* `ClockGuard`, `stacked_judged`: what the judge does to a stack.
* `nestingMachine`: the controller with the handlers on each core.
* `Nested`, `NestingStepKept`: the stack is shown by the queues and `ISPR`, and
  what a return and a start do to it.
* `nesting_exact`: the runs in which they do so.
-/

namespace Athrill

open TargetCore Bits

variable {D : Type}

/-! ## The judge -/

theorem ExceptionRequest.Precedes.trans {a b c : ExceptionRequest} (h : a.Precedes b)
    (h' : b.Precedes c) : a.Precedes c := by
  unfold ExceptionRequest.Precedes at *
  omega

/-- The innermost handler is not skipped when it is to go on, and no request is
refused then; a user interrupt that starts is still above `ISPR`, by its own
priority and that in bank 0. -/
structure ClockGuard (c : CoreId) (s : CpuIntc) (handlers : List StartedHandler) : Prop where
  resumable : ∀ f rest, handlers = f :: rest → (s.intc.control c).currentException = none →
    judgeSkips s.intc s.cpu f.request = false
  accepted : handlers ≠ [] → (s.intc.control c).currentException = none →
    ∀ req, Foremost c s req → req.status ≠ .waiting → (canRaiseException req s.cpu).1 = true
  above : ∀ req, Foremost c s req → req.status ≠ .waiting →
    (canRaiseException req s.cpu).1 = true → req.exno = .userIntr →
      icPriority s.intc 0 req.intno = icPriority s.intc c req.intno ∧
        Above (s.cpu.getSysreg2 .ispr) (icPriority s.intc c req.intno)

section Judge

variable {c : CoreId} {s : CpuIntc} {f : StartedHandler} {handlers rest : List StartedHandler}

/-- The running exception is the innermost handler. -/
theorem Stacked.current_cases {control : ExceptionController} (h : Stacked control (f :: rest)) :
    control.currentException = none ∨ control.currentException = some f.request.entry :=
  h.current

/-- While no exception runs, the innermost handler contends for going on. -/
theorem contends_of_none (h : Stacked (s.intc.control c) (f :: rest))
    (hnone : (s.intc.control c).currentException = none)
    (hadmitted : judgeSkips s.intc s.cpu f.request = false) :
    Contends c s (f.withStatus .waiting) where
  queued := by
    refine h.waiting f List.mem_cons_self ?_
    rw [hnone]
    exact Option.some_ne_none _
  admitted := hadmitted
  outranks current hcurrent := by
    rw [ControlFormed.current_eq_none hnone] at hcurrent
    cases hcurrent

/-- What the loops find comes before the innermost handler, or it is that handler. -/
theorem Foremost.head_cases (hformed : IntcFormed s.intc)
    (h : Stacked (s.intc.control c) (f :: rest))
    (hresumable : (s.intc.control c).currentException = none →
      judgeSkips s.intc s.cpu f.request = false)
    {req : ExceptionRequest} (hforemost : Foremost c s req) :
    req.Precedes f.request ∨ req = f.withStatus .waiting := by
  rcases h.current_cases with hnone | hsome
  · by_cases hsame : f.withStatus .waiting = req
    · exact Or.inr hsame.symm
    · have hbefore := hforemost.first _ (contends_of_none h hnone (hresumable hnone)) hsame
      exact Or.inl hbefore
  · obtain ⟨current, hcurrent, hentry, -, hqueued⟩ := (hformed c).current_eq_some hsome
    obtain ⟨hsame, -⟩ := h.eq_withStatus (hformed c) List.mem_cons_self hqueued hentry
    obtain ⟨hlevel, hdegree⟩ := hforemost.contends.outranks current hcurrent
    rw [hsame] at hlevel hdegree
    have hle : req.level ≤ f.request.level := hlevel
    have hlt : req.priorityDegree < f.request.priorityDegree := hdegree
    left
    unfold ExceptionRequest.Precedes
    omega

/-- A request that has not been started comes before all handlers. -/
theorem Foremost.precedes (hformed : IntcFormed s.intc)
    (h : Stacked (s.intc.control c) handlers)
    (hresumable : ∀ f rest, handlers = f :: rest → (s.intc.control c).currentException = none →
      judgeSkips s.intc s.cpu f.request = false)
    {req : ExceptionRequest} (hforemost : Foremost c s req) (hstatus : req.status ≠ .waiting) :
    ∀ g ∈ handlers, req.Precedes g.request := by
  cases handlers with
  | nil => exact fun g hg => absurd hg List.not_mem_nil
  | cons f rest =>
    have hhead : req.Precedes f.request := by
      rcases hforemost.head_cases hformed h (hresumable f rest rfl) with hbefore | rfl
      · exact hbefore
      · exact absurd rfl hstatus
    intro g hg
    rcases List.mem_cons.mp hg with rfl | hg
    · exact hhead
    · exact hhead.trans (List.rel_of_pairwise_cons h.sorted hg)

/-- The entry of a handler that waits belongs to the innermost one, when the loops
find it. -/
theorem Foremost.eq_head (hformed : IntcFormed s.intc)
    (h : Stacked (s.intc.control c) (f :: rest))
    (hresumable : (s.intc.control c).currentException = none →
      judgeSkips s.intc s.cpu f.request = false)
    {req : ExceptionRequest} (hforemost : Foremost c s req) (hstatus : req.status = .waiting) :
    req = f.withStatus .waiting := by
  rcases hforemost.head_cases hformed h hresumable with hbefore | hsame
  · obtain ⟨g, hg, heq⟩ := h.started req.level req hforemost.contends.queued
      (by rw [hstatus]; decide)
    have hrank : g.request.Precedes f.request := by
      rw [heq] at hbefore
      exact hbefore
    rcases List.mem_cons.mp hg with rfl | hg
    · exact absurd hrank hrank.asymm
    · exact absurd hrank (List.rel_of_pairwise_cons h.sorted hg).asymm
  · exact hsame

/-- The entry that the judge starts has not been started before. -/
theorem IsNewcomer.runnable (hformed : IntcFormed s.intc)
    (h : Stacked (s.intc.control c) handlers) {req : ExceptionRequest}
    (hnew : IsNewcomer c s req) (hstatus : req.status ≠ .waiting) : req.status = .runnable := by
  by_contra hnot
  have hqueued := ((isNewcomer_iff (hformed c)).mp hnew).contends.queued
  obtain ⟨g, hg, heq⟩ := h.started req.level req hqueued hnot
  have hentry : req.entry = g.request.entry := (congrArg ExceptionRequest.entry heq :)
  have hwaiting := h.waiting g hg (hentry ▸ hnew.other)
  rw [(hformed c).eq_of_entry hqueued hwaiting hentry] at hstatus
  exact hstatus rfl

theorem currentException_markWaiting (c : CoreId) (intc : Intc) :
    ((markWaiting c intc).control c).currentException =
      (intc.control c).currentException := by
  unfold markWaiting
  split
  · unfold Intc.modifyControl
    dsimp only
    rw [Function.update_self]
    rfl
  · rfl

/-- The running exception is marked: all handlers wait. -/
theorem stacked_markWaiting (hformed : IntcFormed s.intc)
    (h : Stacked (s.intc.control c) handlers) :
    Stacked ((markWaiting c s.intc).control c) handlers ∧
      ∀ g ∈ handlers, g.withStatus .waiting ∈
        ((markWaiting c s.intc).control c).exceptionQueue g.request.level := by
  unfold markWaiting
  split
  · rename_i current hcurrent
    have hself : (s.intc.modifyControl c fun control =>
        control.putStatus current .waiting).control c =
        (s.intc.control c).putStatus current .waiting := Function.update_self _ _ _
    rw [hself]
    cases handlers with
    | nil =>
      rcases h.current with hnone | hsome
      · rw [hnone] at hcurrent
        cases hcurrent
      · rw [hsome] at hcurrent
        cases hcurrent
    | cons f rest =>
      obtain rfl : f.request.entry = current := by
        rcases h.current_cases with hnone | hsome
        · rw [hnone] at hcurrent
          cases hcurrent
        · rw [hsome] at hcurrent
          exact Option.some.inj hcurrent
      have hwaiting : ExceptionRequestStatus.waiting ≠ .runnable := by decide
      have hput := h.putStatus (hformed c) hwaiting
      rw [← hcurrent] at hput
      refine ⟨hput, fun g hg => ?_⟩
      obtain ⟨status, -, hmem⟩ := h.queued g hg
      by_cases hentry : g.request.entry = f.request.entry
      · exact mem_setStatus.mpr ⟨_, hmem, if_pos hentry⟩
      · refine mem_setStatus.mpr ⟨_, h.waiting g hg ?_, if_neg hentry⟩
        rw [hcurrent]
        exact fun heq => hentry (Option.some.inj heq)
  · rename_i hnone
    refine ⟨h, fun g hg => h.waiting g hg ?_⟩
    rw [hnone]
    exact Option.some_ne_none _

/-- The judge leaves the stack, or it puts the handler that it starts on top; then
the innermost handler runs. -/
theorem stacked_judged (hformed : IntcFormed s.intc) (h : Stacked (s.intc.control c) handlers)
    (hguard : ClockGuard c s handlers) (start : ExceptionRequest → StartedHandler)
    (hstart : ∀ e, (start e).request = e) :
    Stacked ((judgePendingException c s).2.intc.control c)
        ((judgePendingException c s).1.toList.map start ++ handlers) ∧
      ((judgePendingException c s).2.intc.control c).currentException =
        ((judgePendingException c s).1.toList.map start ++ handlers).head?.map
          fun f => f.request.entry := by
  have houtcome := judgeOutcome_judgePendingException c s
  generalize judgePendingException c s = result at houtcome ⊢
  have hcandidate (req : ExceptionRequest) (hnew : IsNewcomer c s req) : Foremost c s req :=
    (isNewcomer_iff (hformed c)).mp hnew
  cases houtcome with
  | idle hidle =>
    refine ⟨h, ?_⟩
    rcases h.current with hnone | hsome
    · cases handlers with
      | nil => exact hnone
      | cons f rest =>
        -- the innermost handler would be found
        have hcontends := contends_of_none h hnone (hguard.resumable f rest rfl hnone)
        rcases judgeSearch_cases (hformed c) with ⟨-, hno⟩ | ⟨req, -, hforemost⟩
        · exact absurd hcontends (hno _)
        · exact absurd ((isNewcomer_iff (hformed c)).mpr hforemost) (hidle req)
    · exact hsome
  | resumed candidate hnew hstatus =>
    have hforemost := hcandidate candidate hnew
    have hself : (markRunning c candidate.entry s.intc).control c =
        { (s.intc.control c).putStatus candidate.entry .running with
          currentException := some candidate.entry } := Function.update_self _ _ _
    cases handlers with
    | nil =>
      obtain ⟨g, hg, -⟩ := h.started candidate.level candidate hforemost.contends.queued
        (by rw [hstatus]; decide)
      cases hg
    | cons f rest =>
      obtain rfl := hforemost.eq_head hformed h (hguard.resumable f rest rfl) hstatus
      have hrunning : ExceptionRequestStatus.running ≠ .runnable := by decide
      show Stacked ((markRunning c _ s.intc).control c) (f :: rest) ∧ _
      rw [hself]
      exact ⟨h.putStatus (hformed c) hrunning, rfl⟩
  | started candidate hnew hstatus haccept =>
    have hforemost := hcandidate candidate hnew
    have hrunnable := hnew.runnable hformed h hstatus
    obtain ⟨hmarked, hwaiting⟩ := stacked_markWaiting hformed h
    have hself : (markRunning c candidate.entry (markWaiting c s.intc)).control c =
        { ((markWaiting c s.intc).control c).putStatus candidate.entry .running with
          currentException := some candidate.entry } := Function.update_self _ _ _
    have hrequest := hstart { candidate with status := .running }
    show Stacked ((markRunning c candidate.entry (markWaiting c s.intc)).control c)
        (start { candidate with status := .running } :: handlers) ∧
      ((markRunning c candidate.entry (markWaiting c s.intc)).control c).currentException =
        some (start { candidate with status := .running }).request.entry
    generalize start { candidate with status := .running } = g at hrequest ⊢
    have hentry : candidate.entry = g.request.entry := by rw [hrequest]
    have hqueued : g.withStatus .runnable = candidate := by
      unfold StartedHandler.withStatus
      rw [hrequest, ← hrunnable]
    have hlevel : g.request.level = candidate.level := by rw [hrequest]; rfl
    have hprecedes : ∀ g' ∈ handlers, g.request.Precedes g'.request := by
      intro g' hg'
      rw [hrequest]
      exact hforemost.precedes hformed h hguard.resumable hstatus g' hg'
    have hmem : g.withStatus .runnable ∈
        ((markWaiting c s.intc).control c).exceptionQueue g.request.level := by
      rw [hqueued, hlevel]
      exact mem_markWaiting hforemost.contends.queued hnew.other
    rw [hself, hentry]
    exact ⟨hmarked.push (intcFormed_markWaiting hformed c c) hwaiting hmem hprecedes, rfl⟩
  | refused candidate hnew hstatus haccept =>
    obtain ⟨hmarked, -⟩ := stacked_markWaiting hformed h
    refine ⟨hmarked, ?_⟩
    show ((markWaiting c s.intc).control c).currentException =
      handlers.head?.map fun f => f.request.entry
    rw [currentException_markWaiting]
    rcases h.current with hnone | hsome
    · have hcan : (canRaiseException candidate s.cpu).1 = false :=
        ((noted_judgeSearch (c := c) (s := s)).canRaise candidate).symm.trans haccept
      cases handlers with
      | nil => exact hnone
      | cons f rest =>
        have haccepted := hguard.accepted (List.cons_ne_nil f rest) hnone candidate
          (hcandidate candidate hnew) hstatus
        rw [hcan] at haccepted
        cases haccepted
    · exact hsome

end Judge

/-! ## The registers of the core -/

/-- The core has the same `pc`, and system registers that differ in `ICSR` alone. -/
structure ContextKept (cpu cpu' : TargetCore) : Prop where
  pc : cpu'.pc = cpu.pc
  sys : ∀ id, id ≠ .icsr → cpu'.getSysreg2 id = cpu.getSysreg2 id

theorem ContextKept.refl (cpu : TargetCore) : ContextKept cpu cpu :=
  ⟨rfl, fun _ _ => rfl⟩

theorem ContextKept.trans {cpu cpu' cpu'' : TargetCore} (h : ContextKept cpu cpu')
    (h' : ContextKept cpu' cpu'') : ContextKept cpu cpu'' :=
  ⟨h'.pc.trans h.pc, fun id hid => (h'.sys id hid).trans (h.sys id hid)⟩

theorem Noted.contextKept {cpu cpu' : TargetCore} (h : Noted cpu cpu') : ContextKept cpu cpu' := by
  obtain ⟨icsr, rfl⟩ := h
  exact ⟨rfl, fun id hid => getSysreg2_setSysreg2_of_ne _ _ hid⟩

theorem contextKept_judgePendingUserIntr (c : CoreId) (s : CpuIntc) :
    ContextKept s.cpu (judgePendingUserIntr c s).cpu := by
  have hnoted (cpu : TargetCore) (flag : Bool) :
      ContextKept cpu (intcSetUserIntrStatePriorityDegreeMasked cpu flag) :=
    Noted.contextKept ⟨_, rfl⟩
  have hmask (candidate : ExceptionRequest) (s : CpuIntc) :
      ContextKept s.cpu (judgeCpuMaskUserIntr candidate s).cpu := by
    unfold judgeCpuMaskUserIntr
    dsimp only
    split_ifs
    · exact .refl _
    · exact hnoted s.cpu true
    · exact hnoted s.cpu false
  unfold judgePendingUserIntr
  split
  · exact .refl _
  · split_ifs
    · exact .refl _
    · have hwoken : ContextKept s.cpu { s.cpu with isHalt := false } := ⟨rfl, fun _ _ => rfl⟩
      exact hwoken.trans (hmask _ { s with cpu := { s.cpu with isHalt := false } })

theorem contextKept_canRaiseException (exception : ExceptionRequest) (cpu : TargetCore) :
    ContextKept cpu (canRaiseException exception cpu).2 := by
  unfold canRaiseException
  split_ifs
  · exact .refl _
  · exact ⟨rfl, fun _ _ => rfl⟩
  · exact .refl _
  · exact .refl _

theorem contextKept_judgePendingException (c : CoreId) (s : CpuIntc) :
    ContextKept s.cpu (judgePendingException c s).2.cpu := by
  have hsearch : ContextKept s.cpu (judgeSearch c s).cpu := noted_judgeSearch.contextKept
  have houtcome := judgeOutcome_judgePendingException c s
  generalize judgePendingException c s = result at houtcome ⊢
  cases houtcome with
  | idle _ => exact hsearch
  | resumed _ _ _ => exact hsearch
  | started candidate _ _ _ =>
    have hcan := hsearch.trans (contextKept_canRaiseException candidate _)
    unfold acceptedCpu
    split_ifs
    · exact hcan.trans (Noted.contextKept ⟨_, rfl⟩)
    · exact hcan
  | refused candidate _ _ _ => exact hsearch.trans (contextKept_canRaiseException candidate _)

theorem memory_judgePendingUserIntr (c : CoreId) (s : CpuIntc) :
    (judgePendingUserIntr c s).intc.memory = s.intc.memory := by
  unfold judgePendingUserIntr judgeCpuMaskUserIntr
  split
  · rfl
  · dsimp only
    split_ifs <;> rfl

theorem memory_judgePendingException (c : CoreId) (s : CpuIntc) :
    (judgePendingException c s).2.intc.memory = s.intc.memory := by
  have hmark : (markWaiting c s.intc).memory = s.intc.memory := by
    unfold markWaiting
    split <;> rfl
  have houtcome := judgeOutcome_judgePendingException c s
  generalize judgePendingException c s = result at houtcome ⊢
  cases houtcome with
  | idle _ => rfl
  | resumed _ _ _ => rfl
  | started _ _ _ _ => exact hmark
  | refused _ _ _ _ => exact hmark

/-- The start of a handler sets the bit of a user interrupt in `ISPR`, by the
priority in bank 0. -/
theorem ispr_raiseException (bus : Bus D) (exception : ExceptionRequest) {s : CpuState D}
    (hispc : issetIntcfgIspc s.cpu = false) :
    (raiseException bus exception s).cpu.getSysreg2 .ispr =
      if exception.exno = .userIntr then
        setBit (s.cpu.getSysreg2 .ispr) (icPriority s.intc 0 exception.intno)
      else s.cpu.getSysreg2 .ispr := by
  have hsave (cpu : TargetCore) :
      (saveContext exception cpu).getSysreg2 .ispr = cpu.getSysreg2 .ispr := by
    unfold saveContext
    split_ifs
    · simp (disch := decide) only [getSysreg2_setSysreg2_of_ne]
    · simp (disch := decide) only [getSysreg2_setSysreg2_of_ne]
  have hsys : (raiseException bus exception s).cpu.getSysreg2 .ispr =
      (updatePswInfo exception.req.info
        (saveContext exception (raisedCore exception s.toCpuIntc))).getSysreg2 .ispr :=
    congrFun (sys_raiseException bus exception s) .ispr
  rw [hsys, getSysreg2_updatePswInfo (by decide), hsave]
  unfold raisedCore
  split_ifs
  · have hmemory : (hookUserIntrRaised exception s.toCpuIntc).cpu =
        s.cpu.setSysreg2 .ispr
          (setBit (s.cpu.getSysreg2 .ispr) (icPriority s.intc 0 exception.intno)) := by
      unfold hookUserIntrRaised intcSetCurrentUserIntrPriorityDegree
      dsimp only
      rw [hispc, if_neg Bool.false_ne_true, if_pos rfl]
      split <;> rfl
    rw [hmemory, getSysreg2_setSysreg2]
  · rfl

/-- It saves the context in the registers of its level. -/
theorem context_raiseException (bus : Bus D) (exception : ExceptionRequest) (s : CpuState D) :
    (raiseException bus exception s).cpu.getSysreg2
        (levelRegs (decide (exception.req.level = .fe))).pc = s.cpu.pc ∧
      (raiseException bus exception s).cpu.getSysreg2
        (levelRegs (decide (exception.req.level = .fe))).psw = s.cpu.psw := by
  obtain ⟨hpc, -, hregs⟩ := raisedCore_eq exception s.toCpuIntc
  have hpsw : (raisedCore exception s.toCpuIntc).psw = s.cpu.psw := hregs .psw (by decide)
  have hsys := congrFun (sys_raiseException bus exception s)
  have hread (id : SysReg) (hid : id ≠ .psw) :
      (raiseException bus exception s).cpu.getSysreg2 id =
        (saveContext exception (raisedCore exception s.toCpuIntc)).getSysreg2 id :=
    (hsys id).trans (getSysreg2_updatePswInfo hid _ _)
  by_cases hlevel : exception.req.level = .fe
  · obtain ⟨hsavedPc, hsavedPsw, -⟩ :=
      saveContext_fe hlevel (raisedCore exception s.toCpuIntc)
    rw [decide_eq_true hlevel]
    exact ⟨(hread .fepc (by decide)).trans (hsavedPc.trans hpc),
      (hread .fepsw (by decide)).trans (hsavedPsw.trans hpsw)⟩
  · obtain ⟨hsavedPc, hsavedPsw, -⟩ :=
      saveContext_ei hlevel (raisedCore exception s.toCpuIntc)
    rw [decide_eq_false hlevel]
    exact ⟨(hread .eipc (by decide)).trans (hsavedPc.trans hpc),
      (hread .eipsw (by decide)).trans (hsavedPsw.trans hpsw)⟩

/-! ## The end of a handler -/

namespace StartedHandler

/-- The handler runs at the FE level. -/
def isFe (f : StartedHandler) : Bool :=
  decide (f.request.req.level = .fe)

/-- The return of a level ends the handler: it is that of its level, and the
handler has put back the context. -/
def ReturnsBy (f : StartedHandler) (fe : Bool) (cpu : TargetCore) : Prop :=
  f.isFe = fe ∧ cpu.getSysreg2 (levelRegs fe).pc = f.pc ∧
    cpu.getSysreg2 (levelRegs fe).psw = f.psw

instance (f : StartedHandler) (fe : Bool) (cpu : TargetCore) : Decidable (f.ReturnsBy fe cpu) :=
  inferInstanceAs (Decidable (_ ∧ _ ∧ _))

/-- The handlers after a return of a level. -/
def ended (fe : Bool) (cpu : TargetCore) : List StartedHandler → List StartedHandler
  | [] => []
  | f :: rest => if f.ReturnsBy fe cpu then rest else f :: rest

end StartedHandler

/-- What the return of a level restores. -/
def restored (fe : Bool) (cpu : TargetCore) : TargetCore :=
  if fe then restoreFe cpu else restoreEi cpu

/-- `op_exec_eiret` and `op_exec_feret` without their test of `UM`. -/
def returnFrom (fe : Bool) (c : CoreId) (s : CpuIntc) : CpuIntc :=
  if fe then intcClrFe c ⟨restored fe s.cpu, s.intc⟩ else intcClrEi c ⟨restored fe s.cpu, s.intc⟩

/-- A return ends the innermost handler: the handler is the running exception and
has put back the context, which has an even address and, for a user interrupt, not
`PSW.EP`. -/
structure ReturnGuard (fe : Bool) (cpu : TargetCore) (control : ExceptionController)
    (f : StartedHandler) : Prop where
  context : f.ReturnsBy fe cpu
  current : control.currentException = some f.request.entry
  even : f.pc.getLsbD 0 = false
  ep : f.isUser = true → f.psw.getLsbD pswEP = false

/-- The core and its controller show the handlers. -/
structure NestedOn (cpu : TargetCore) (control : ExceptionController)
    (handlers : List StartedHandler) : Prop where
  ispr : IsprShows (cpu.getSysreg2 .ispr) handlers
  stacked : Stacked control handlers

theorem NestedOn.of_same {cpu cpu' : TargetCore} {control control' : ExceptionController}
    {handlers : List StartedHandler} (h : NestedOn cpu control handlers)
    (hispr : cpu'.getSysreg2 .ispr = cpu.getSysreg2 .ispr)
    (hsame : SameStarted control control') : NestedOn cpu' control' handlers where
  ispr := by
    rw [hispr]
    exact h.ispr
  stacked := h.stacked.of_same hsame

section Return

variable {fe : Bool} {c : CoreId} {s : CpuIntc} {f : StartedHandler} {rest : List StartedHandler}

theorem getSysreg2_restored (fe : Bool) {id : SysReg} (hid : id ≠ .psw) (cpu : TargetCore) :
    (restored fe cpu).getSysreg2 id = cpu.getSysreg2 id := by
  cases fe
  · exact getSysreg2_setSysreg2_of_ne _ _ hid
  · exact getSysreg2_setSysreg2_of_ne _ _ hid

/-- The context comes from the registers of the level, the address without bit 0. -/
theorem context_restored (fe : Bool) (cpu : TargetCore) :
    (restored fe cpu).pc = cpu.getSysreg2 (levelRegs fe).pc &&& 0xFFFFFFFE#32 ∧
      (restored fe cpu).psw = cpu.getSysreg2 (levelRegs fe).psw := by
  cases fe
  · exact ⟨rfl, getSysreg2_setSysreg2 cpu .psw (cpu.getSysreg2 .eipsw)⟩
  · exact ⟨rfl, getSysreg2_setSysreg2 cpu .psw (cpu.getSysreg2 .fepsw)⟩

/-- Without a running exception a return is one of the core alone. -/
theorem returnFrom_of_none (hnone : (s.intc.control c).currentException = none) :
    returnFrom fe c s = ⟨restored fe s.cpu, s.intc⟩ := by
  have hcurrent : (s.intc.control c).current = none := ControlFormed.current_eq_none hnone
  unfold returnFrom intcClrFe intcClrEi
  dsimp only
  rw [hcurrent]
  cases fe <;> rfl

/-- The running exception leaves its queue; `EIRET` of a user interrupt also clears
a bit of `ISPR`. -/
theorem returnFrom_of_some {exp : ExceptionRequest}
    (hcurrent : (s.intc.control c).current = some exp) :
    returnFrom fe c s =
      ⟨if fe = false ∧ exp.exno = .userIntr then
          intcSetCurrentUserIntrPriorityDegree s.intc (restored fe s.cpu) exp.intno false
        else restored fe s.cpu, dropCurrent c exp s.intc⟩ := by
  unfold returnFrom intcClrFe intcClrEi
  dsimp only
  rw [hcurrent]
  cases fe with
  | false => simp
  | true => simp

theorem setCurrentDegree_false {intc : Intc} {cpu : TargetCore} {intno degree : Nat}
    (hispc : issetIntcfgIspc cpu = false) (hep : cpu.issetEP = false)
    (hlowest : lowestDegree (cpu.getSysreg2 .ispr) = degree) (hlt : degree < 16) :
    intcSetCurrentUserIntrPriorityDegree intc cpu intno false =
      cpu.setSysreg2 .ispr (clearBit (cpu.getSysreg2 .ispr) degree) := by
  unfold intcSetCurrentUserIntrPriorityDegree
  dsimp only
  rw [hispc, hep, hlowest]
  rw [if_neg Bool.false_ne_true, if_neg Bool.false_ne_true, if_neg Bool.false_ne_true,
    if_neg (Nat.ne_of_lt hlt)]

/-- The core after the return that ends the innermost handler. -/
theorem cpu_returnFrom (hformed : IntcFormed s.intc)
    (h : NestedOn s.cpu (s.intc.control c) (f :: rest)) (hispc : issetIntcfgIspc s.cpu = false)
    (hguard : ReturnGuard fe s.cpu (s.intc.control c) f) :
    (returnFrom fe c s).cpu =
      if f.isUser = true then
        (restored fe s.cpu).setSysreg2 .ispr (clearBit (s.cpu.getSysreg2 .ispr) f.degree)
      else restored fe s.cpu := by
  obtain ⟨exp, hcurrent, hentry, -, hqueued⟩ := (hformed c).current_eq_some hguard.current
  obtain ⟨hsame, -⟩ := h.stacked.eq_withStatus (hformed c) List.mem_cons_self hqueued hentry
  have hexno : exp.exno = f.request.exno := by
    rw [hsame]
    rfl
  obtain ⟨hlevel, -, hpsw⟩ := hguard.context
  rw [returnFrom_of_some hcurrent]
  by_cases huser : f.isUser = true
  · have hno : f.request.exno = .userIntr := of_decide_eq_true huser
    have hfe : fe = false := by
      rw [← hlevel]
      unfold StartedHandler.isFe ExceptionRequest.req
      rw [hno]
      rfl
    obtain ⟨hlowest, -⟩ := h.ispr.pop huser
    have hispr : (restored fe s.cpu).getSysreg2 .ispr = s.cpu.getSysreg2 .ispr :=
      getSysreg2_restored fe (by decide) s.cpu
    have hispc' : issetIntcfgIspc (restored fe s.cpu) = false := by
      unfold issetIntcfgIspc
      rw [getSysreg2_restored fe (by decide)]
      exact hispc
    have hep : (restored fe s.cpu).issetEP = false := by
      unfold issetEP issetPsw
      rw [(context_restored fe s.cpu).2, hpsw]
      exact hguard.ep huser
    rw [← hispr] at hlowest ⊢
    rw [if_pos ⟨hfe, hexno.trans hno⟩, if_pos huser]
    exact setCurrentDegree_false hispc' hep hlowest (h.ispr.bound f List.mem_cons_self)
  · have hno : ¬ (fe = false ∧ exp.exno = .userIntr) := by
      rintro ⟨-, hexp⟩
      exact huser (decide_eq_true (hexno.symm.trans hexp))
    rw [if_neg hno, if_neg huser]

/-- Its entry has left the queues, and the other handlers are left. -/
theorem stacked_returnFrom (hformed : IntcFormed s.intc)
    (h : Stacked (s.intc.control c) (f :: rest))
    (hcurrent : (s.intc.control c).currentException = some f.request.entry) :
    Stacked ((returnFrom fe c s).intc.control c) rest ∧
      ∀ level, ∀ req ∈ ((returnFrom fe c s).intc.control c).exceptionQueue level,
        req.entry ≠ f.request.entry := by
  obtain ⟨exp, hsome, hentry, -, hqueued⟩ := (hformed c).current_eq_some hcurrent
  obtain ⟨hsame, -⟩ := h.eq_withStatus (hformed c) List.mem_cons_self hqueued hentry
  have hlevel : intcGetExceptionPriorityLevel exp.exno = f.request.level := by
    rw [hsame]
    rfl
  have hself : (dropCurrent c exp s.intc).control c =
      { (s.intc.control c).modifyQueue f.request.level (removeEntry f.request.entry) with
        currentException := none } := by
    rw [← hlevel, ← hentry]
    exact Function.update_self _ _ _
  rw [returnFrom_of_some hsome]
  dsimp only
  rw [hself]
  refine ⟨h.pop (hformed c) hcurrent, fun level req hreq heq => ?_⟩
  dsimp only [ExceptionController.modifyQueue] at hreq
  rw [Function.update_apply] at hreq
  split_ifs at hreq with hlevel'
  · have hne := (List.mem_filter.mp hreq).2
    rw [decide_eq_true_eq] at hne
    exact hne heq
  · obtain ⟨hreq', -⟩ := h.eq_withStatus (hformed c) List.mem_cons_self hreq heq
    refine hlevel' ?_
    rw [← (hformed c).level level req hreq, hreq']
    rfl

end Return

/-! ## Runs -/

/-- The handlers that have been started on each core and have not returned, the
innermost one first. -/
abbrev Nesting := CoreId → List StartedHandler

/-- The handler that the judge starts on a core, if any. -/
def startedHandlers (c : CoreId) (m : Machine D) : List StartedHandler :=
  (judgePendingException c (judged c m)).1.toList.map fun e =>
    { request := e, degree := icPriority m.intc c e.intno
      pc := (m.cores c).pc, psw := (m.cores c).psw }

/-- The handlers after a step. -/
def IntcEvent.nest (e : IntcEvent) (m : Machine D) (nesting : Nesting) : Nesting :=
  match e with
  | .clock c => Function.update nesting c (startedHandlers c m ++ nesting c)
  | .eiret c => Function.update nesting c (StartedHandler.ended false (m.cores c) (nesting c))
  | .feret c => Function.update nesting c (StartedHandler.ended true (m.cores c) (nesting c))
  | .other | .put8 _ _ _ | .put16 _ _ _ | .put32 _ _ _ | .raiseIntr _ | .trigger _ _
  | .raiseException _ _ => nesting

/-- The steps with those that write `ISPR` told apart. -/
inductive NestingEvent where
  | intc (e : IntcEvent)
  /-- `LDSR` writes `ISPR`. -/
  | ldsrIspr

/-- One step while `ISPC` is 0; what does not reach the controller keeps `ISPR`. -/
inductive NestingStep (bus : Bus D) :
    NestingEvent → Machine D × Nesting → Machine D × Nesting → Prop
  | intc {e : IntcEvent} {m m' : Machine D} (nesting : Nesting)
      (hispc : ∀ c, issetIntcfgIspc (m.cores c) = false) (hstep : IntcStep bus e m m')
      (hispr : e = .other →
        ∀ c, (m'.cores c).getSysreg2 .ispr = (m.cores c).getSysreg2 .ispr) :
      NestingStep bus (.intc e) (m, nesting) (m', e.nest m nesting)
  | ldsrIspr {m m' : Machine D} (nesting : Nesting)
      (hispc : ∀ c, issetIntcfgIspc (m.cores c) = false) (hstep : IntcStep bus .other m m') :
      NestingStep bus .ldsrIspr (m, nesting) (m', nesting)

/-- The controller with the handlers; there are none initially. -/
def nestingMachine (bus : Bus D) : TransitionSystem (Machine D × Nesting) NestingEvent where
  init s := (intcSystem bus).init s.1 ∧ s.2 = fun _ => []
  step := NestingStep bus

/-- The controller and `ISPR` of both cores show the handlers. -/
def Nested (s : Machine D × Nesting) : Prop :=
  ∀ c, NestedOn (s.1.cores c) (s.1.intc.control c) (s.2 c)

/-- The innermost handler has ended. -/
structure Ended (c : CoreId) (f : StartedHandler) (rest : List StartedHandler)
    (s s' : Machine D × Nesting) : Prop where
  nesting : s'.2 c = rest
  dropped : ∀ level, ∀ req ∈ (s'.1.intc.control c).exceptionQueue level,
    req.entry ≠ f.request.entry
  ispr : (s'.1.cores c).getSysreg2 .ispr =
    if f.isUser = true then clearBit ((s.1.cores c).getSysreg2 .ispr) f.degree
    else (s.1.cores c).getSysreg2 .ispr
  pc : (s'.1.cores c).pc = f.pc
  psw : (s'.1.cores c).psw = f.psw

/-- The innermost handler runs; what has been started has saved the context. -/
structure Clocked (c : CoreId) (s s' : Machine D × Nesting) : Prop where
  current : (s'.1.intc.control c).currentException =
    (s'.2 c).head?.map fun f => f.request.entry
  context : ∀ f, s'.2 c = f :: s.2 c → f.ReturnsBy f.isFe (s'.1.cores c)

/-- A return ends the innermost handler, and a clock makes it run. -/
def NestingStepKept (e : NestingEvent) (s s' : Machine D × Nesting) : Prop :=
  match e with
  | .intc (.eiret c) | .intc (.feret c) => ∀ f rest, s.2 c = f :: rest → Ended c f rest s s'
  | .intc (.clock c) => Clocked c s s'
  | _ => True

/-- The steps after which the controller shows the handlers. -/
def NestingGuard (e : NestingEvent) (s : Machine D × Nesting) : Prop :=
  match e with
  | .intc (.eiret c) => ∀ f rest, s.2 c = f :: rest →
    ReturnGuard false (s.1.cores c) (s.1.intc.control c) f
  | .intc (.feret c) => ∀ f rest, s.2 c = f :: rest →
    ReturnGuard true (s.1.cores c) (s.1.intc.control c) f
  | .intc (.clock c) => ClockGuard c (judged c s.1) (s.2 c)
  | .intc _ => True
  | .ldsrIspr => False

/-! ## One step -/

section Steps

variable {bus : Bus D} {m m' : Machine D} {nesting : Nesting} {c : CoreId}

/-- Neither the handlers nor `ISPR` are touched. -/
theorem Nested.of_same (h : Nested (m, nesting))
    (hispr : ∀ i, (m'.cores i).getSysreg2 .ispr = (m.cores i).getSysreg2 .ispr)
    (hsame : m.intc.SameStarted m'.intc) : Nested (m', nesting) :=
  fun i => (h i).of_same (hispr i) (hsame i)

/-- The handlers of one core are touched. -/
theorem Nested.update (h : Nested (m, nesting)) {cpu : TargetCore} {handlers : List StartedHandler}
    (hcores : m'.cores = Function.update m.cores c cpu)
    (hself : NestedOn cpu (m'.intc.control c) handlers)
    (hother : ∀ i, i ≠ c → SameStarted (m.intc.control i) (m'.intc.control i)) :
    Nested (m', Function.update nesting c handlers) := by
  intro i
  show NestedOn (m'.cores i) (m'.intc.control i) (Function.update nesting c handlers i)
  rw [hcores, Function.update_apply, Function.update_apply]
  by_cases hi : i = c
  · subst hi
    rw [if_pos rfl, if_pos rfl]
    exact hself
  · rw [if_neg hi, if_neg hi]
    exact (h i).of_same rfl (hother i hi)

/-- A write to the registers of the controller. -/
theorem Nested.registersOnly (h : Nested (m, nesting)) {s : CpuIntc}
    (hs : RegistersOnly (m.cpuIntc c) s) : Nested (m.putCpuIntc c s, nesting) := by
  refine h.of_same (fun i => ?_) hs.started
  show (Function.update m.cores c s.cpu i).getSysreg2 .ispr = _
  rw [Function.update_apply]
  split_ifs with hi
  · subst hi
    exact congrFun hs.sys .ispr
  · rfl

/-- A return touches the controller of its own core. -/
theorem control_returnFrom_of_ne {fe : Bool} {i : CoreId} (hi : i ≠ c) (s : CpuIntc) :
    (returnFrom fe c s).intc.control i = s.intc.control i := by
  cases hcurrent : (s.intc.control c).current with
  | none =>
    unfold returnFrom intcClrFe intcClrEi
    dsimp only
    rw [hcurrent]
    cases fe <;> rfl
  | some exp =>
    rw [returnFrom_of_some hcurrent]
    exact Function.update_of_ne hi _ _

/-- A return ends the innermost handler; without handlers it is one of the core
alone. -/
theorem nested_returnFrom (hformed : IntcFormed m.intc) (h : Nested (m, nesting)) {fe : Bool}
    (hispc : issetIntcfgIspc (m.cores c) = false)
    (hguard : ∀ f rest, nesting c = f :: rest →
      ReturnGuard fe (m.cores c) (m.intc.control c) f) {s' : Machine D × Nesting}
    (hs' : s' = (m.putCpuIntc c (returnFrom fe c (m.cpuIntc c)),
      Function.update nesting c (StartedHandler.ended fe (m.cores c) (nesting c)))) :
    Nested s' ∧ ∀ f rest, nesting c = f :: rest → Ended c f rest (m, nesting) s' := by
  subst hs'
  have hother (i : CoreId) (hi : i ≠ c) : SameStarted (m.intc.control i)
      ((returnFrom fe c (m.cpuIntc c)).intc.control i) := by
    rw [control_returnFrom_of_ne hi]
    exact .refl _
  have hself : NestedOn (m.cores c) (m.intc.control c) (nesting c) := h c
  cases hnesting : nesting c with
  | nil =>
    rw [hnesting] at hself
    have hnone : (m.intc.control c).currentException = none := by
      rcases hself.stacked.current with hnone | hsome
      · exact hnone
      · exact hsome
    have hreturn : returnFrom fe c (m.cpuIntc c) = ⟨restored fe (m.cores c), m.intc⟩ :=
      returnFrom_of_none hnone
    refine ⟨h.update rfl ?_ hother, fun f rest hcons => absurd hcons.symm (List.cons_ne_nil f rest)⟩
    show NestedOn (returnFrom fe c (m.cpuIntc c)).cpu _ _
    rw [hreturn]
    exact hself.of_same (getSysreg2_restored fe (by decide) _) (.refl _)
  | cons f rest =>
    rw [hnesting] at hself
    have hreturns := hguard f rest hnesting
    have hcpu := cpu_returnFrom (s := m.cpuIntc c) hformed hself hispc hreturns
    obtain ⟨hstacked, hdropped⟩ :=
      @stacked_returnFrom fe c (m.cpuIntc c) f rest hformed hself.stacked hreturns.current
    obtain ⟨hpc, hpsw⟩ := context_restored fe (m.cores c)
    obtain ⟨-, hsavedPc, hsavedPsw⟩ := hreturns.context
    have hended : StartedHandler.ended fe (m.cores c) (f :: rest) = rest :=
      if_pos hreturns.context
    have hcores : (m.putCpuIntc c (returnFrom fe c (m.cpuIntc c))).cores c =
        (returnFrom fe c (m.cpuIntc c)).cpu := Function.update_self _ _ _
    have hispr : (returnFrom fe c (m.cpuIntc c)).cpu.getSysreg2 .ispr =
        if f.isUser = true then clearBit ((m.cores c).getSysreg2 .ispr) f.degree
        else (m.cores c).getSysreg2 .ispr := by
      rw [hcpu]
      split_ifs
      · exact getSysreg2_setSysreg2 _ _ _
      · exact getSysreg2_restored fe (by decide) _
    rw [hended]
    constructor
    · refine h.update rfl ⟨?_, hstacked⟩ hother
      rw [hispr]
      split_ifs with huser
      · exact (hself.ispr.pop huser).2
      · exact (IsprShows.cons_of_not_user (Bool.eq_false_iff.mpr huser)
          (hself.ispr.bound f List.mem_cons_self)).mp hself.ispr
    · intro f' rest' hcons
      obtain ⟨rfl, rfl⟩ := List.cons.inj hcons
      refine ⟨Function.update_self _ _ _, hdropped, ?_, ?_, ?_⟩
      · rw [hcores]
        exact hispr
      · rw [hcores, hcpu]
        have heven : (restored fe (m.cores c)).pc = f.pc := by
          rw [hpc, hsavedPc]
          exact (and_even_eq_iff _).mpr hreturns.even
        show (if f.isUser = true then _ else _ : TargetCore).pc = f.pc
        split_ifs
        · exact heven
        · exact heven
      · rw [hcores, hcpu]
        show (if f.isUser = true then _ else _ : TargetCore).psw = f.psw
        split_ifs
        · exact (psw_setSysreg2_of_ne (by decide) _ _).trans (hpsw.trans hsavedPsw)
        · exact hpsw.trans hsavedPsw

/-- What a start leaves of the handlers in the queues. -/
theorem sameStarted_raiseException (bus : Bus D) [TableReads bus] (exception : ExceptionRequest)
    (s : CpuState D) : s.intc.SameStarted (raiseException bus exception s).intc := by
  rw [intc_raiseException]
  split_ifs
  · exact sameStarted_hookUserIntrRaised exception s.toCpuIntc
  · exact .of_eq rfl

theorem control_judgePendingException_of_ne {i : CoreId} (hi : i ≠ c) (s : CpuIntc) :
    (judgePendingException c s).2.intc.control i = s.intc.control i := by
  have hmark : (markWaiting c s.intc).control i = s.intc.control i := by
    unfold markWaiting
    split
    · exact Function.update_of_ne hi _ _
    · rfl
  have houtcome := judgeOutcome_judgePendingException c s
  generalize judgePendingException c s = result at houtcome ⊢
  cases houtcome with
  | idle _ => rfl
  | resumed _ _ _ => exact Function.update_of_ne hi _ _
  | started _ _ _ _ => exact (Function.update_of_ne hi _ _).trans hmark
  | refused _ _ _ _ => exact hmark

/-- One core's pass of the clock, when the judge starts nothing or something. -/
theorem supplyClockIntc_cases (bus : Bus D) (c : CoreId) (m : Machine D) :
    ((judgePendingException c (judged c m)).1 = none ∧
      supplyClockIntc bus c (m.clockState c).toCpuState =
        ⟨(judgePendingException c (judged c m)).2, m.dev⟩) ∨
      ∃ e, (judgePendingException c (judged c m)).1 = some e ∧
        supplyClockIntc bus c (m.clockState c).toCpuState =
          raiseException bus e ⟨(judgePendingException c (judged c m)).2, m.dev⟩ := by
  have hjudged : judgePendingUserIntr c (m.clockState c).toCpuState.toCpuIntc = judged c m := rfl
  unfold supplyClockIntc
  dsimp only
  rw [hjudged]
  rcases hresult : judgePendingException c (judged c m) with ⟨_ | e, ci⟩
  · exact Or.inl ⟨rfl, rfl⟩
  · exact Or.inr ⟨e, rfl, rfl⟩

theorem icPriority_judged (c i : CoreId) (n : Nat) (m : Machine D) :
    icPriority (judged c m).intc i n = icPriority m.intc i n := by
  unfold icPriority judged
  rw [memory_judgePendingUserIntr]
  rfl

/-- `ISPR` shows the handlers after a start. -/
theorem isprShows_started (bus : Bus D) (hformed : IntcFormed (judged c m).intc)
    (hispr : IsprShows ((m.cores c).getSysreg2 .ispr) (nesting c))
    (hispc : issetIntcfgIspc (m.cores c) = false) (hguard : ClockGuard c (judged c m) (nesting c))
    {e : ExceptionRequest} (hstarted : (judgePendingException c (judged c m)).1 = some e)
    {f : StartedHandler} (hrequest : f.request = e)
    (hdegree : f.degree = icPriority m.intc c e.intno) :
    IsprShows ((raiseException bus e
      ⟨(judgePendingException c (judged c m)).2, m.dev⟩).cpu.getSysreg2 .ispr)
      (f :: nesting c) := by
  have hkept : ContextKept (m.cores c) (judgePendingException c (judged c m)).2.cpu :=
    (contextKept_judgePendingUserIntr c (m.cpuIntc c)).trans
      (contextKept_judgePendingException c (judged c m))
  have hispc' : issetIntcfgIspc (judgePendingException c (judged c m)).2.cpu = false := by
    unfold issetIntcfgIspc
    rw [hkept.sys .intcfg (by decide)]
    exact hispc
  have hpriority : icPriority (judgePendingException c (judged c m)).2.intc 0 e.intno =
      icPriority m.intc 0 e.intno := by
    rw [← icPriority_judged c]
    unfold icPriority
    rw [memory_judgePendingException]
  have hbound : f.degree < 16 := by
    have hle : icPriority m.intc c e.intno ≤ 15 := by
      unfold icPriority
      rw [BitVec.toNat_and]
      exact Nat.and_le_right
    omega
  have hafter := ispr_raiseException bus e
    (s := ⟨(judgePendingException c (judged c m)).2, m.dev⟩) hispc'
  dsimp only at hafter
  rw [hafter, hkept.sys .ispr (by decide), hpriority]
  by_cases huser : e.exno = .userIntr
  · obtain ⟨req, hforemost, hstatus, hcan, he⟩ := (started_iff (hformed c)).mp hstarted
    have hexno : e.exno = req.exno := by rw [he]
    have hintno : e.intno = req.intno := by rw [he]
    obtain ⟨hsame, habove⟩ := hguard.above req hforemost hstatus hcan (hexno.symm.trans huser)
    rw [icPriority_judged, icPriority_judged, ← hintno, ← hdegree] at hsame
    have hregs := (contextKept_judgePendingUserIntr c (m.cpuIntc c)).sys .ispr (by decide)
    have habove' : Above ((m.cores c).getSysreg2 .ispr) f.degree := by
      rw [hdegree, hintno, ← icPriority_judged c]
      exact hregs ▸ habove
    rw [if_pos huser, hsame]
    exact hispr.push hbound (decide_eq_true (hrequest ▸ huser)) habove'
  · rw [if_neg huser]
    refine (IsprShows.cons_of_not_user ?_ hbound).mpr hispr
    exact decide_eq_false (hrequest ▸ huser)

/-- The clock puts what the judge starts on top of the handlers. -/
theorem nested_clock (bus : Bus D) [TableReads bus] (hformed : IntcFormed m.intc)
    (h : Nested (m, nesting)) (hispc : issetIntcfgIspc (m.cores c) = false)
    (hguard : ClockGuard c (judged c m) (nesting c)) {s' : Machine D × Nesting}
    (hs' : s' = (m.putCpuState c (supplyClockIntc bus c (m.clockState c).toCpuState),
      Function.update nesting c (startedHandlers c m ++ nesting c))) :
    Nested s' ∧ Clocked c (m, nesting) s' := by
  subst hs'
  have hjudged : IntcFormed (judged c m).intc :=
    intcFormed_judgePendingUserIntr (s := m.cpuIntc c) hformed c
  have hself : NestedOn (m.cores c) (m.intc.control c) (nesting c) := h c
  have huser := sameStarted_judgePendingUserIntr c (m.cpuIntc c)
  have hkept : ContextKept (m.cores c) (judgePendingException c (judged c m)).2.cpu :=
    (contextKept_judgePendingUserIntr c (m.cpuIntc c)).trans
      (contextKept_judgePendingException c (judged c m))
  have hstack := stacked_judged hjudged (hself.stacked.of_same (huser c)) hguard
    (fun e => { request := e, degree := icPriority m.intc c e.intno
                pc := (m.cores c).pc, psw := (m.cores c).psw }) fun _ => rfl
  rw [← startedHandlers] at hstack
  obtain ⟨hstacked, hcurrent⟩ := hstack
  have hother (i : CoreId) (hi : i ≠ c) : SameStarted (m.intc.control i)
      ((judgePendingException c (judged c m)).2.intc.control i) := by
    rw [control_judgePendingException_of_ne hi]
    exact huser i
  rcases supplyClockIntc_cases bus c m with ⟨hnone, hclock⟩ | ⟨e, hstarted, hclock⟩
  · have hempty : startedHandlers c m = [] := by
      unfold startedHandlers
      rw [hnone]
      rfl
    rw [hempty, List.nil_append] at hstacked hcurrent
    rw [hclock, hempty, List.nil_append, Function.update_eq_self]
    have hnested : Nested (m.putCpuState c ⟨(judgePendingException c (judged c m)).2, m.dev⟩,
        Function.update nesting c (nesting c)) :=
      h.update rfl ⟨(hkept.sys .ispr (by decide)).symm ▸ hself.ispr, hstacked⟩ hother
    rw [Function.update_eq_self] at hnested
    exact ⟨hnested, hcurrent, fun f hcons => absurd hcons (List.cons_ne_self f _).symm⟩
  · obtain ⟨f, hf⟩ : ∃ f : StartedHandler, f =
        { request := e, degree := icPriority m.intc c e.intno
          pc := (m.cores c).pc, psw := (m.cores c).psw } := ⟨_, rfl⟩
    have hone : startedHandlers c m = [f] := by
      unfold startedHandlers
      rw [hstarted, hf]
      rfl
    rw [hone, List.singleton_append] at hstacked hcurrent
    have hraise := sameStarted_raiseException bus e
      ⟨(judgePendingException c (judged c m)).2, m.dev⟩
    have hispr := isprShows_started bus hjudged hself.ispr hispc hguard hstarted
      (f := f) (by rw [hf]) (by rw [hf])
    obtain ⟨hpc, hpsw⟩ := context_raiseException bus e
      ⟨(judgePendingException c (judged c m)).2, m.dev⟩
    rw [hclock, hone, List.singleton_append]
    generalize raiseException bus e ⟨(judgePendingException c (judged c m)).2, m.dev⟩ = r
      at hraise hispr hpc hpsw
    have hcores : (m.putCpuState c r).cores c = r.cpu := Function.update_self _ _ _
    refine ⟨h.update rfl ⟨hispr, hstacked.of_same (hraise c)⟩ fun i hi =>
      (hother i hi).trans (hraise i), ?_, fun g hcons => ?_⟩
    · show (r.intc.control c).currentException =
        (Function.update nesting c (f :: nesting c) c).head?.map _
      rw [Function.update_self, (hraise c).current]
      exact hcurrent
    · have hpushed : Function.update nesting c (f :: nesting c) c = f :: nesting c :=
        Function.update_self _ _ _
      obtain ⟨rfl, -⟩ := List.cons.inj (hpushed.symm.trans hcons)
      show f.ReturnsBy f.isFe ((m.putCpuState c r).cores c)
      rw [hcores, hf]
      exact ⟨rfl, hpc.trans hkept.pc, hpsw.trans (hkept.sys .psw (by decide))⟩

end Steps

/-- One step keeps the handlers in view when it meets the condition. -/
theorem nested_step {bus : Bus D} [TableReads bus] {l : NestingEvent} {s s' : Machine D × Nesting}
    (hformed : IntcFormed s.1.intc) (h : Nested s) (hguard : NestingGuard l s)
    (hstep : (nestingMachine bus).step l s s') : Nested s' ∧ NestingStepKept l s s' := by
  cases hstep with
  | ldsrIspr => exact absurd hguard not_false
  | @intc e m m' nesting hispc hstep hispr =>
    cases hstep with
    | other _ _ hsame =>
      refine ⟨h.of_same (hispr rfl) ?_, trivial⟩
      rw [hsame]
      exact .of_eq rfl
    | put8 _ c addr data _ =>
      exact ⟨h.registersOnly (registersOnly_intcPutData8 c addr data _), trivial⟩
    | put16 _ c addr data _ =>
      exact ⟨h.registersOnly (registersOnly_intcPutData16 c addr data _), trivial⟩
    | put32 _ c addr data _ =>
      exact ⟨h.registersOnly (registersOnly_intcPutData32 c addr data _), trivial⟩
    | raiseIntr _ intno _ =>
      exact ⟨h.of_same (fun _ => rfl) (sameStarted_intcRaiseIntr intno m.intc), trivial⟩
    | trigger _ c intno _ =>
      exact ⟨h.of_same (fun _ => rfl) (sameStarted_commonRaiseUserIntr intno _ m.intc), trivial⟩
    | raiseException _ c exno =>
      refine ⟨h.registersOnly ⟨?_, rfl⟩, trivial⟩
      exact sameStarted_addException m.intc c _ rfl
    | eiret _ c => exact nested_returnFrom hformed h (hispc c) hguard rfl
    | feret _ c => exact nested_returnFrom hformed h (hispc c) hguard rfl
    | clock _ c => exact nested_clock bus hformed h (hispc c) hguard rfl

/-! ## Runs whose steps meet the condition -/

theorem nested_init {bus : Bus D} {s : Machine D × Nesting} (h : (nestingMachine bus).init s) :
    Nested s := by
  obtain ⟨m, nesting⟩ := s
  obtain ⟨⟨dev, hm⟩, hnesting⟩ := h
  obtain rfl : m = Machine.reset dev := hm
  obtain rfl : nesting = fun _ => [] := hnesting
  intro c
  have hispr : (cpuInit c).getSysreg2 .ispr = 0 := by
    revert c
    decide +kernel
  have hnone : ∀ f : StartedHandler, f ∉ ([] : List StartedHandler) := fun f => List.not_mem_nil
  refine ⟨⟨fun k => ?_, List.Pairwise.nil, fun f hf => absurd hf (hnone f)⟩,
    ⟨fun level req hmem => absurd hmem List.not_mem_nil, fun f hf => absurd hf (hnone f),
      fun f hf => absurd hf (hnone f), Or.inl rfl, List.Pairwise.nil⟩⟩
  show ((cpuInit c).getSysreg2 .ispr).getLsbD k = true ↔ _
  rw [hispr]
  simp

/-- The queues are in order in every run, and in those whose steps meet the
condition the handlers are in view. -/
theorem nested_invariant (bus : Bus D) [TableReads bus] :
    ((nestingMachine bus).guarded NestingGuard).Invariant
      fun s => IntcFormed s.1.intc ∧ Nested s where
  init s h := ⟨(intcFormed_invariant bus).init s.1 h.1, nested_init h⟩
  step l s s' h hstep := by
    obtain ⟨hguard, hstep⟩ := hstep
    refine ⟨?_, (nested_step h.1 h.2 hguard hstep).1⟩
    cases hstep with
    | intc _ _ hstep _ => exact (intcFormed_invariant bus).step _ _ _ h.1 hstep
    | ldsrIspr _ _ hstep => exact (intcFormed_invariant bus).step _ _ _ h.1 hstep

/-- In the runs whose steps meet the condition `ISPR` and the queues show the
handlers that have been started and have not returned, every return ends the
innermost one, and the one below it runs again after the clock. -/
theorem nesting_exact {bus : Bus D} [TableReads bus] {s : Machine D × Nesting}
    (h : ((nestingMachine bus).guarded NestingGuard).Reachable s) :
    Nested s ∧ ∀ l s', NestingGuard l s → (nestingMachine bus).step l s s' →
      NestingStepKept l s s' := by
  obtain ⟨hformed, hnested⟩ := (nested_invariant bus).of_reachable h
  exact ⟨hnested, fun l s' hguard hstep => (nested_step hformed hnested hguard hstep).2⟩

/-! ## One interrupt -/

/-- After reset core 0 enables interrupts, with or without `PSW.EP`. -/
def enabledIntr (ep : Bool) : Machine Unit :=
  { Machine.reset () with
    cores := Function.update (Machine.reset ()).cores 0
      (((Machine.reset ()).cores 0).setSysreg2 .psw (if ep then 0x40 else 0)) }

/-- Channel 35 is unmasked with priority 0. -/
def unmaskedIntr (ep : Bool) : Machine Unit :=
  (enabledIntr ep).putCpuIntc 0 (intcPutData16 0 0xFFFFB046 0 ((enabledIntr ep).cpuIntc 0)).2

def raisedIntr (ep : Bool) : Machine Unit :=
  { unmaskedIntr ep with intc := intcRaiseIntr 35 (unmaskedIntr ep).intc }

/-- Its handler is started. -/
def handledIntr (ep : Bool) : Machine Unit × Nesting :=
  ((raisedIntr ep).putCpuState 0
      (supplyClockIntc (romBus fun _ => 0) 0 ((raisedIntr ep).clockState 0).toCpuState),
    (IntcEvent.clock 0).nest (raisedIntr ep) fun _ => [])

/-- It returns at once. -/
def returnedIntr (ep : Bool) : Machine Unit × Nesting :=
  ((handledIntr ep).1.putCpuIntc 0
      (intcClrEi 0 ⟨restoreEi ((handledIntr ep).1.cores 0), (handledIntr ep).1.intc⟩),
    (IntcEvent.eiret 0).nest (handledIntr ep).1 (handledIntr ep).2)

/-- The interrupt machine with an empty table. -/
abbrev intrMachine : TransitionSystem (Machine Unit × Nesting) NestingEvent :=
  nestingMachine (romBus fun _ => 0)

/-- The machines of the run keep `ISPC` clear, and `ISPR` up to the handler; the
clock that starts it returns. -/
theorem runs_intr : ∀ ep,
    (∀ c, issetIntcfgIspc ((Machine.reset ()).cores c) = false ∧
      issetIntcfgIspc ((enabledIntr ep).cores c) = false ∧
      issetIntcfgIspc ((unmaskedIntr ep).cores c) = false ∧
      issetIntcfgIspc ((raisedIntr ep).cores c) = false ∧
      issetIntcfgIspc ((handledIntr ep).1.cores c) = false ∧
      ((enabledIntr ep).cores c).getSysreg2 .ispr =
        ((Machine.reset ()).cores c).getSysreg2 .ispr) ∧
    (judged 0 (raisedIntr ep)).cpu.getSysreg2 .ispr = 0 ∧
    supplyClockReturns (romBus fun _ => 0) 0 ((raisedIntr ep).clockState 0).toCpuState = true := by
  decide +kernel

section Intr

variable (ep : Bool)

theorem step_enabledIntr : intrMachine.step (.intc .other)
    (Machine.reset (), fun _ => []) (enabledIntr ep, fun _ => []) := by
  obtain ⟨hcores, -⟩ := runs_intr ep
  refine .intc _ (fun c => (hcores c).1) (.other _ _ rfl) fun _ c => ?_
  obtain ⟨-, -, -, -, -, hispr⟩ := hcores c
  exact hispr

theorem step_unmaskedIntr : intrMachine.step (.intc (.put16 0 0xFFFFB046 0))
    (enabledIntr ep, fun _ => []) (unmaskedIntr ep, fun _ => []) := by
  have hispc (c : CoreId) : issetIntcfgIspc ((enabledIntr ep).cores c) = false :=
    ((runs_intr ep).1 c).2.1
  exact .intc _ hispc (.put16 _ 0 _ _ (by unfold inIntc; decide)) nofun

theorem step_raisedIntr : intrMachine.step (.intc (.raiseIntr 35))
    (unmaskedIntr ep, fun _ => []) (raisedIntr ep, fun _ => []) := by
  have hispc (c : CoreId) : issetIntcfgIspc ((unmaskedIntr ep).cores c) = false :=
    ((runs_intr ep).1 c).2.2.1
  exact .intc _ hispc (.raiseIntr _ 35 (by decide)) nofun

theorem step_handledIntr : intrMachine.step (.intc (.clock 0))
    (raisedIntr ep, fun _ => []) (handledIntr ep) := by
  have hispc (c : CoreId) : issetIntcfgIspc ((raisedIntr ep).cores c) = false :=
    ((runs_intr ep).1 c).2.2.2.1
  exact .intc _ hispc (.clock _ 0 (runs_intr ep).2.2) nofun

theorem step_returnedIntr : intrMachine.step (.intc (.eiret 0)) (handledIntr ep)
    (returnedIntr ep) := by
  have hispc (c : CoreId) : issetIntcfgIspc ((handledIntr ep).1.cores c) = false :=
    ((runs_intr ep).1 c).2.2.2.2.1
  exact .intc _ hispc (.eiret _ 0) nofun

/-- No handler runs yet, and `ISPR` is clear. -/
theorem guard_raisedIntr : NestingGuard (.intc (.clock 0)) (raisedIntr ep, fun _ => []) where
  resumable f rest hcons := absurd hcons.symm (List.cons_ne_nil f rest)
  accepted hne := absurd rfl hne
  above req _ _ _ _ := by
    rw [(runs_intr ep).2.1]
    exact ⟨rfl, fun k _ => BitVec.getLsbD_zero⟩

theorem reachable_handledIntr :
    (intrMachine.guarded NestingGuard).Reachable (handledIntr ep) := by
  have hinit : (intrMachine.guarded NestingGuard).Reachable (Machine.reset (), fun _ => []) :=
    .init ⟨⟨(), rfl⟩, rfl⟩
  have hfree (l : NestingEvent) {s s' : Machine Unit × Nesting} (hguard : NestingGuard l s)
      (hstep : intrMachine.step l s s') (h : (intrMachine.guarded NestingGuard).Reachable s) :
      (intrMachine.guarded NestingGuard).Reachable s' := .step h ⟨hguard, hstep⟩
  have henabled := hfree (.intc .other) trivial (step_enabledIntr ep) hinit
  have hunmasked := hfree (.intc (.put16 0 _ _)) trivial (step_unmaskedIntr ep) henabled
  have hraised := hfree (.intc (.raiseIntr 35)) trivial (step_raisedIntr ep) hunmasked
  exact .step hraised ⟨guard_raisedIntr ep, step_handledIntr ep⟩

end Intr

/-- The handler of channel 35 runs. -/
theorem nesting_exact_handled : Nested (handledIntr false) ∧
    ∀ l s', NestingGuard l (handledIntr false) → intrMachine.step l (handledIntr false) s' →
      NestingStepKept l (handledIntr false) s' :=
  nesting_exact (reachable_handledIntr false)

/-- `PSW.EP` was set when the interrupt came: its bit stays in `ISPR` after the
return, since `intc_clr_ei` looks at the `PSW` that has been restored. -/
theorem return_keeps_ispr : ¬ ∀ s, intrMachine.Reachable s → Nested s := by
  intro h
  have hreach := (reachable_handledIntr true).of_guarded
  have hreturned := h _ (.step hreach (step_returnedIntr true)) 0
  have hbit : (((returnedIntr true).1.cores 0).getSysreg2 .ispr).getLsbD 0 = true := by
    decide +kernel
  have hempty : ((returnedIntr true).2 0).isEmpty = true := by decide +kernel
  obtain ⟨f, hf, -⟩ := (hreturned.ispr.bits 0).mp hbit
  rw [List.isEmpty_iff.mp hempty] at hf
  cases hf

end Athrill
