import Athrill.Intc.Starts

/-!
# Started handlers

The handlers that have been started on a core and have not returned lie one
above the other.  The controller knows them as the entries of the exception
queues that are not runnable, together with the pointer to the running
exception, and `ISPR` has a bit for each user interrupt among them.

* `StartedHandler`: a handler, with the context that it interrupted.
* `Stacked`: the queues hold exactly the handlers of a stack.
* `IsprShows`: `ISPR` has the bits of the stack.
* `SameStarted`: the changes that leave the handlers alone.
* `Stacked.push`, `Stacked.pop`: a start and a return.
-/

namespace Athrill

open TargetCore Bits

variable {D : Type}

/-! ## Stacks of handlers -/

/-- A handler that has been started: its request, the priority for which it has a
bit in `ISPR`, and the interrupted context. -/
structure StartedHandler where
  request : ExceptionRequest
  degree : Nat
  pc : Word
  psw : Word

namespace StartedHandler

def isUser (f : StartedHandler) : Bool :=
  decide (f.request.exno = .userIntr)

/-- The entry of the handler with a status. -/
def withStatus (f : StartedHandler) (status : ExceptionRequestStatus) : ExceptionRequest :=
  { f.request with status := status }

end StartedHandler

/-- The started entries in the queues are those of the handlers, the innermost
one first; all but the running exception wait. -/
structure Stacked (control : ExceptionController) (handlers : List StartedHandler) : Prop where
  started : ∀ level, ∀ req ∈ control.exceptionQueue level, req.status ≠ .runnable →
    ∃ f ∈ handlers, req = f.withStatus req.status
  queued : ∀ f ∈ handlers, ∃ status, status ≠ .runnable ∧
    f.withStatus status ∈ control.exceptionQueue f.request.level
  waiting : ∀ f ∈ handlers, some f.request.entry ≠ control.currentException →
    f.withStatus .waiting ∈ control.exceptionQueue f.request.level
  current : control.currentException = none ∨
    control.currentException = handlers.head?.map fun f => f.request.entry
  sorted : handlers.Pairwise fun f g => f.request.Precedes g.request

/-- `ISPR` has one bit for each user interrupt among the handlers. -/
structure IsprShows (ispr : Word) (handlers : List StartedHandler) : Prop where
  bits : ∀ k, ispr.getLsbD k = true ↔ ∃ f ∈ handlers, f.isUser = true ∧ f.degree = k
  distinct : handlers.Pairwise fun f g => f.isUser = true → g.isUser = true → f.degree < g.degree
  bound : ∀ f ∈ handlers, f.degree < 16

/-! ## Changes that leave the handlers alone -/

/-- The started entries and the running exception are the same. -/
structure SameStarted (control control' : ExceptionController) : Prop where
  current : control'.currentException = control.currentException
  started : ∀ level req, req.status ≠ .runnable →
    (req ∈ control'.exceptionQueue level ↔ req ∈ control.exceptionQueue level)

theorem SameStarted.of_eq {control control' : ExceptionController}
    (hcurrent : control'.currentException = control.currentException)
    (hqueue : control'.exceptionQueue = control.exceptionQueue) : SameStarted control control' :=
  ⟨hcurrent, fun level req _ => by rw [hqueue]⟩

theorem SameStarted.refl (control : ExceptionController) : SameStarted control control :=
  .of_eq rfl rfl

theorem SameStarted.trans {control control' control'' : ExceptionController}
    (h : SameStarted control control') (h' : SameStarted control' control'') :
    SameStarted control control'' :=
  ⟨h'.current.trans h.current, fun level req hreq =>
    (h'.started level req hreq).trans (h.started level req hreq)⟩

theorem Stacked.of_same {control control' : ExceptionController} {handlers : List StartedHandler}
    (h : Stacked control handlers) (hsame : SameStarted control control') :
    Stacked control' handlers where
  started level req hmem hreq := h.started level req ((hsame.started level req hreq).mp hmem) hreq
  queued f hf := by
    obtain ⟨status, hstatus, hmem⟩ := h.queued f hf
    exact ⟨status, hstatus, (hsame.started _ _ hstatus).mpr hmem⟩
  waiting f hf hother := by
    rw [hsame.current] at hother
    have hwaiting : (f.withStatus .waiting).status ≠ .runnable := by
      show ExceptionRequestStatus.waiting ≠ .runnable
      decide
    exact (hsame.started _ _ hwaiting).mpr (h.waiting f hf hother)
  current := by
    rw [hsame.current]
    exact h.current
  sorted := h.sorted

/-- The handlers of both cores are the same. -/
def Intc.SameStarted (intc intc' : Intc) : Prop :=
  ∀ c, Athrill.SameStarted (intc.control c) (intc'.control c)

theorem Intc.SameStarted.of_eq {intc intc' : Intc} (h : intc'.control = intc.control) :
    intc.SameStarted intc' := by
  intro c
  rw [h]
  exact .refl _

theorem Intc.SameStarted.trans {intc intc' intc'' : Intc} (h : intc.SameStarted intc')
    (h' : intc'.SameStarted intc'') : intc.SameStarted intc'' :=
  fun c => (h c).trans (h' c)

/-- The controller of one core is changed. -/
theorem sameStarted_modifyControl (intc : Intc) (c : CoreId)
    {f : ExceptionController → ExceptionController}
    (hf : SameStarted (intc.control c) (f (intc.control c))) :
    intc.SameStarted (intc.modifyControl c f) := by
  intro i
  show SameStarted _ (Function.update intc.control c (f (intc.control c)) i)
  rw [Function.update_apply]
  split_ifs with hi
  · rw [hi]
    exact hf
  · exact .refl _

/-- The user queue holds no handlers. -/
theorem sameStarted_userQueue (intc : Intc) (c : CoreId)
    (f : List ExceptionRequest → List ExceptionRequest) :
    intc.SameStarted (intc.modifyControl c fun control =>
      { control with userQueue := f control.userQueue }) :=
  sameStarted_modifyControl intc c ⟨rfl, fun _ _ _ => Iff.rfl⟩

theorem sameStarted_addUser (intc : Intc) (c : CoreId) (req : ExceptionRequest) :
    intc.SameStarted (addUser intc c req) := by
  have huser := sameStarted_userQueue intc c
    fun queue => queue ++ [{ req with entry := intc.nextEntry }]
  exact huser.trans (.of_eq rfl)

/-- A new request has not been started. -/
theorem sameStarted_addException (intc : Intc) (c : CoreId) (level : Fin 16)
    {req : ExceptionRequest} (hstatus : req.status = .runnable) :
    intc.SameStarted (addException intc c level req) := by
  intro i
  show SameStarted _ (Function.update intc.control c ((intc.control c).modifyQueue level
    fun queue => queue ++ [{ req with entry := intc.nextEntry }]) i)
  rw [Function.update_apply]
  split_ifs with hi
  · subst hi
    refine ⟨rfl, fun level' req' hreq' => ?_⟩
    dsimp only [ExceptionController.modifyQueue]
    rw [Function.update_apply]
    split_ifs with hlevel
    · subst hlevel
      rw [List.mem_append, List.mem_singleton]
      refine or_iff_left ?_
      rintro rfl
      exact hreq' hstatus
    · exact Iff.rfl
  · exact .refl _

theorem sameStarted_commonRaiseUserIntr (intno : Nat) (c : CoreId) (intc : Intc) :
    intc.SameStarted (commonRaiseUserIntr intno c intc) := by
  unfold commonRaiseUserIntr
  split_ifs
  · exact .of_eq rfl
  · exact (sameStarted_addUser intc c _).trans (.of_eq rfl)

theorem sameStarted_intcRaiseIntr (intno : Nat) (intc : Intc) :
    intc.SameStarted (intcRaiseIntr intno intc) :=
  (sameStarted_commonRaiseUserIntr intno 0 intc).trans (sameStarted_commonRaiseUserIntr intno 1 _)

theorem sameStarted_judgePendingUserIntr (c : CoreId) (s : CpuIntc) :
    s.intc.SameStarted (judgePendingUserIntr c s).intc := by
  have hmask (candidate : ExceptionRequest) (s : CpuIntc) :
      s.intc.SameStarted (judgeCpuMaskUserIntr candidate s).intc := by
    unfold judgeCpuMaskUserIntr
    dsimp only
    split_ifs
    · exact .of_eq rfl
    · exact .of_eq rfl
    · exact (sameStarted_userQueue s.intc candidate.coreId
        (setStatus candidate.entry .runnable)).trans (sameStarted_addException _ _ _ rfl)
  unfold judgePendingUserIntr
  split
  · exact .of_eq rfl
  · split_ifs
    · exact .of_eq rfl
    · exact hmask _ { s with cpu := { s.cpu with isHalt := false } }

theorem sameStarted_hookUserIntrRaised (exception : ExceptionRequest) (s : CpuIntc) :
    s.intc.SameStarted (hookUserIntrRaised exception s).intc := by
  unfold hookUserIntrRaised
  dsimp only
  split
  · rename_i req _
    exact (sameStarted_userQueue s.intc exception.coreId (removeEntry req.entry)).trans (.of_eq rfl)
  · exact .of_eq rfl

/-- The hook of the IC registers drops an entry that has not been started. -/
theorem sameStarted_dropRunnable (regaddr : Nat) (control : ExceptionController) :
    SameStarted control (dropRunnable regaddr control) := by
  unfold dropRunnable
  dsimp only
  split
  · rename_i dropped _
    refine ⟨rfl, fun level req hreq => ?_⟩
    have hnot : ¬ isRunnableAtIcAddr regaddr req = true := by
      unfold isRunnableAtIcAddr
      rw [decide_eq_false hreq, Bool.and_false]
      exact Bool.false_ne_true
    dsimp only [ExceptionController.modifyQueue]
    rw [Function.update_apply]
    split_ifs with hlevel
    · rw [hlevel]
      exact List.mem_eraseP_of_neg hnot
    · exact Iff.rfl
  · exact .refl _

theorem sameStarted_icUpperbit (c : CoreId) (regaddr : Nat) (data : HalfWord) (intc : Intc) :
    intc.SameStarted (intcHookUpdateIcUpperbit c regaddr data intc) := by
  unfold intcHookUpdateIcUpperbit
  split_ifs
  · exact sameStarted_intcRaiseIntr _ intc
  · have herased : SameStarted (intc.control c) { intc.control c with
        userQueue := (intc.control c).userQueue.eraseP (isAtIcAddr regaddr) } :=
      .of_eq rfl rfl
    exact sameStarted_modifyControl intc c (herased.trans (sameStarted_dropRunnable regaddr _))

/-! ## Software writes -/

/-- A write to the registers leaves the handlers and the registers of the core
alone. -/
structure RegistersOnly (s s' : CpuIntc) : Prop where
  started : s.intc.SameStarted s'.intc
  sys : s'.cpu.sys = s.cpu.sys

theorem RegistersOnly.refl (s : CpuIntc) : RegistersOnly s s :=
  ⟨.of_eq rfl, rfl⟩

theorem registersOnly_storeIf {s : CpuIntc} {result : IntcReturn × CpuIntc}
    {store : IntcMemory → IntcMemory} (h : RegistersOnly s result.2) :
    RegistersOnly s (storeIf result store).2 := by
  unfold storeIf
  split_ifs
  · exact ⟨h.started.trans (.of_eq rfl), h.sys⟩
  · exact h

theorem registersOnly_imr (c : CoreId) (addr len : Nat) (data : Nat → Byte) (s : CpuIntc) :
    RegistersOnly s (intcHookUpdateImr c addr len data s).2 := by
  unfold intcHookUpdateImr
  split_ifs
  · exact ⟨.of_eq rfl, rfl⟩
  · exact ⟨.of_eq (control_imrHookBytes c (imrFirstIntno addr) len data s.intc), rfl⟩

theorem registersOnly_intcPutData8 (c : CoreId) (addr : Nat) (data : Byte) (s : CpuIntc) :
    RegistersOnly s (intcPutData8 c addr data s).2 := by
  refine registersOnly_storeIf ?_
  unfold intcHookUpdateReg8
  split_ifs
  · unfold intcHookUpdateIcReg8
    split_ifs
    · exact ⟨.of_eq rfl, rfl⟩
    · exact ⟨sameStarted_icUpperbit c _ _ s.intc, rfl⟩
    · exact ⟨.of_eq rfl, rfl⟩
  · exact registersOnly_imr c addr 1 _ s
  · exact .refl s

theorem registersOnly_intcPutData16 (c : CoreId) (addr : Nat) (data : HalfWord) (s : CpuIntc) :
    RegistersOnly s (intcPutData16 c addr data s).2 := by
  refine registersOnly_storeIf ?_
  unfold intcHookUpdateReg16
  split_ifs
  · exact .refl s
  · unfold intcHookUpdateIcReg16
    split_ifs
    · exact ⟨.of_eq rfl, rfl⟩
    · refine ⟨?_, rfl⟩
      exact .trans (.of_eq rfl) (sameStarted_icUpperbit c addr data
        (intcHookUpdateIcLowerbit c addr data s.intc))
  · exact .refl s
  · exact registersOnly_imr c addr 2 _ s
  · exact .refl s

theorem registersOnly_intcPutData32 (c : CoreId) (addr : Nat) (data : Word) (s : CpuIntc) :
    RegistersOnly s (intcPutData32 c addr data s).2 := by
  refine registersOnly_storeIf ?_
  unfold intcHookUpdateReg32
  split_ifs
  · exact .refl s
  · exact registersOnly_imr c addr 4 _ s
  · exact .refl s

/-! ## Starts and returns -/

/-- The handler does not depend on its status. -/
theorem withStatus_of_eq {f : StartedHandler} {req : ExceptionRequest}
    (h : req = f.withStatus req.status) (status : ExceptionRequestStatus) :
    { req with status := status } = f.withStatus status := by
  rw [h]
  rfl

namespace Stacked

variable {c : CoreId} {nextEntry : Nat} {control : ExceptionController}
  {f : StartedHandler} {handlers : List StartedHandler} (hformed : ControlFormed c nextEntry control)
include hformed

/-- An entry of a handler, found by its number. -/
theorem eq_withStatus (h : Stacked control handlers) (hf : f ∈ handlers) {level : Fin 16}
    {req : ExceptionRequest} (hmem : req ∈ control.exceptionQueue level)
    (hentry : req.entry = f.request.entry) :
    req = f.withStatus req.status ∧ req.status ≠ .runnable := by
  obtain ⟨status, hstatus, hqueued⟩ := h.queued f hf
  obtain rfl := hformed.eq_of_entry hmem hqueued hentry
  exact ⟨rfl, hstatus⟩

/-- An entry of a handler below the innermost one has another number. -/
theorem entry_ne (h : Stacked control (f :: handlers)) {g : StartedHandler} (hg : g ∈ handlers) :
    g.request.entry ≠ f.request.entry := by
  intro hentry
  obtain ⟨status, -, hqueued⟩ := h.queued g (List.mem_cons_of_mem f hg)
  obtain ⟨hsame, -⟩ := h.eq_withStatus hformed List.mem_cons_self hqueued hentry
  have hprecedes := List.rel_of_pairwise_cons h.sorted hg
  have hself : (f.withStatus status).Precedes (g.withStatus status) := hprecedes
  rw [hsame] at hself
  exact hself.asymm hself

/-- The innermost handler gets a status and is the running exception. -/
theorem putStatus (h : Stacked control (f :: handlers)) {status : ExceptionRequestStatus}
    (hstatus : status ≠ .runnable) :
    Stacked { control.putStatus f.request.entry status with
      currentException := some f.request.entry } (f :: handlers) where
  started level req hmem hreq := by
    obtain ⟨old, hold, rfl⟩ := mem_setStatus.mp hmem
    split_ifs at hreq ⊢ with hentry
    · obtain ⟨hsame, -⟩ := h.eq_withStatus hformed List.mem_cons_self hold hentry
      exact ⟨f, List.mem_cons_self, withStatus_of_eq hsame status⟩
    · exact h.started level old hold hreq
  queued g hg := by
    obtain ⟨status', hstatus', hmem⟩ := h.queued g hg
    by_cases hentry : g.request.entry = f.request.entry
    · exact ⟨status, hstatus, mem_setStatus.mpr ⟨_, hmem, if_pos hentry⟩⟩
    · exact ⟨status', hstatus', mem_setStatus.mpr ⟨_, hmem, if_neg hentry⟩⟩
  waiting g hg hother := by
    have hne : g.request.entry ≠ f.request.entry := fun heq => hother (congrArg some heq)
    have hcurrent : some g.request.entry ≠ control.currentException := by
      intro heq
      rcases h.current with hnone | hsome
      · rw [hnone] at heq
        cases heq
      · rw [hsome] at heq
        exact hne (Option.some.inj heq)
    exact mem_setStatus.mpr ⟨_, h.waiting g hg hcurrent, if_neg hne⟩
  current := Or.inr rfl
  sorted := h.sorted

/-- A request that comes before all handlers is started on top of them. -/
theorem push (h : Stacked control handlers)
    (hwaiting : ∀ g ∈ handlers, g.withStatus .waiting ∈ control.exceptionQueue g.request.level)
    (hmem : f.withStatus .runnable ∈ control.exceptionQueue f.request.level)
    (hprecedes : ∀ g ∈ handlers, f.request.Precedes g.request) :
    Stacked { control.putStatus f.request.entry .running with
      currentException := some f.request.entry } (f :: handlers) := by
  have hne (g : StartedHandler) (hg : g ∈ handlers) : g.request.entry ≠ f.request.entry := by
    intro hentry
    have hsame := hformed.eq_of_entry (hwaiting g hg) hmem hentry
    exact absurd (congrArg ExceptionRequest.status hsame) (by simp [StartedHandler.withStatus])
  have hkept {g : StartedHandler} (hg : g ∈ handlers) :
      g.withStatus .waiting ∈ setStatus f.request.entry .running
        (control.exceptionQueue g.request.level) :=
    mem_setStatus.mpr ⟨_, hwaiting g hg, if_neg (hne g hg)⟩
  refine ⟨fun level req hreq hstatus => ?_, fun g hg => ?_, fun g hg hother => ?_, Or.inr rfl,
    List.pairwise_cons.mpr ⟨hprecedes, h.sorted⟩⟩
  · obtain ⟨old, hold, rfl⟩ := mem_setStatus.mp hreq
    split_ifs at hstatus ⊢ with hentry
    · obtain rfl := hformed.eq_of_entry hold hmem hentry
      exact ⟨f, List.mem_cons_self, rfl⟩
    · obtain ⟨g, hg, heq⟩ := h.started level old hold hstatus
      exact ⟨g, List.mem_cons_of_mem f hg, heq⟩
  · rcases List.mem_cons.mp hg with rfl | hg
    · exact ⟨.running, by decide, mem_setStatus.mpr ⟨_, hmem, if_pos rfl⟩⟩
    · exact ⟨.waiting, by decide, hkept hg⟩
  · rcases List.mem_cons.mp hg with rfl | hg
    · exact absurd rfl hother
    · exact hkept hg

/-- The running exception leaves its queue. -/
theorem pop (h : Stacked control (f :: handlers))
    (hcurrent : control.currentException = some f.request.entry) :
    Stacked { control.modifyQueue f.request.level (removeEntry f.request.entry) with
      currentException := none } handlers := by
  have hqueue (level : Fin 16) (req : ExceptionRequest) :
      req ∈ (control.modifyQueue f.request.level
          (removeEntry f.request.entry)).exceptionQueue level ↔
        req ∈ control.exceptionQueue level ∧ (level = f.request.level →
          req.entry ≠ f.request.entry) := by
    dsimp only [ExceptionController.modifyQueue]
    rw [Function.update_apply]
    split_ifs with hlevel
    · subst hlevel
      unfold removeEntry
      rw [List.mem_filter, decide_eq_true_eq]
      exact and_congr_right fun _ => ⟨fun hne _ => hne, fun hne => hne rfl⟩
    · exact ⟨fun hmem => ⟨hmem, fun heq => absurd heq hlevel⟩, And.left⟩
  have hkept {g : StartedHandler} (hg : g ∈ handlers) {status : ExceptionRequestStatus}
      (hmem : g.withStatus status ∈ control.exceptionQueue g.request.level) :
      g.withStatus status ∈ (control.modifyQueue f.request.level
        (removeEntry f.request.entry)).exceptionQueue g.request.level :=
    (hqueue _ _).mpr ⟨hmem, fun _ => h.entry_ne hformed hg⟩
  refine ⟨fun level req hreq hstatus => ?_, fun g hg => ?_, fun g hg _ => ?_, Or.inl rfl,
    (List.pairwise_cons.mp h.sorted).2⟩
  · obtain ⟨hmem, hne⟩ := (hqueue level req).mp hreq
    obtain ⟨g, hg, heq⟩ := h.started level req hmem hstatus
    rcases List.mem_cons.mp hg with rfl | hg
    · have hlevel : level = g.request.level := by
        rw [← hformed.level level req hmem, heq]
        rfl
      refine absurd ?_ (hne hlevel)
      rw [heq]
      rfl
    · exact ⟨g, hg, heq⟩
  · obtain ⟨status, hstatus, hmem⟩ := h.queued g (List.mem_cons_of_mem f hg)
    exact ⟨status, hstatus, hkept hg hmem⟩
  · refine hkept hg (h.waiting g (List.mem_cons_of_mem f hg) ?_)
    rw [hcurrent]
    exact fun heq => h.entry_ne hformed hg (Option.some.inj heq)

end Stacked

/-! ## The bits of the priorities -/

namespace IsprShows

variable {ispr : Word} {f : StartedHandler} {handlers : List StartedHandler}

/-- A handler that is no user interrupt has no bit. -/
theorem cons_of_not_user (hf : f.isUser = false) (hbound : f.degree < 16) :
    IsprShows ispr (f :: handlers) ↔ IsprShows ispr handlers := by
  have hnone (k : Nat) : (∃ g ∈ f :: handlers, g.isUser = true ∧ g.degree = k) ↔
      ∃ g ∈ handlers, g.isUser = true ∧ g.degree = k := by
    simp [hf]
  constructor
  · rintro ⟨hbits, hdistinct, hlt⟩
    exact ⟨fun k => (hbits k).trans (hnone k), (List.pairwise_cons.mp hdistinct).2,
      fun g hg => hlt g (List.mem_cons_of_mem f hg)⟩
  · rintro ⟨hbits, hdistinct, hlt⟩
    refine ⟨fun k => (hbits k).trans (hnone k).symm, List.pairwise_cons.mpr ⟨?_, hdistinct⟩,
      List.forall_mem_cons.mpr ⟨hbound, hlt⟩⟩
    intro g _ huser
    rw [hf] at huser
    cases huser

/-- A user interrupt above all bits gets one of its own. -/
theorem push (h : IsprShows ispr handlers) (hbound : f.degree < 16) (huser : f.isUser = true)
    (habove : Above ispr f.degree) : IsprShows (setBit ispr f.degree) (f :: handlers) := by
  have hless : ∀ g ∈ handlers, g.isUser = true → f.degree < g.degree := by
    intro g hg hguser
    by_contra hnot
    have hset := (h.bits g.degree).mpr ⟨g, hg, hguser, rfl⟩
    rw [habove g.degree (by omega)] at hset
    cases hset
  refine ⟨fun k => ?_, List.pairwise_cons.mpr ⟨fun g hg _ => hless g hg, h.distinct⟩,
    List.forall_mem_cons.mpr ⟨hbound, h.bound⟩⟩
  have hbit : (setBit ispr f.degree).getLsbD k = true ↔ f.degree = k ∨ ispr.getLsbD k = true := by
    rw [getLsbD_setBit]
    simp only [Bool.or_eq_true, Bool.and_eq_true, decide_eq_true_eq]
    constructor
    · rintro (hset | heq)
      · exact Or.inr hset
      · exact Or.inl (by omega)
    · rintro (heq | hset)
      · exact Or.inr (by omega)
      · exact Or.inl hset
  rw [hbit, h.bits]
  simp [huser]

/-- The lowest bit is that of the innermost user interrupt. -/
theorem pop (h : IsprShows ispr (f :: handlers)) (huser : f.isUser = true) :
    lowestDegree ispr = f.degree ∧ IsprShows (clearBit ispr f.degree) handlers := by
  have hlt := h.bound f List.mem_cons_self
  have hless : ∀ g ∈ handlers, g.isUser = true → f.degree < g.degree :=
    fun g hg hguser => List.rel_of_pairwise_cons h.distinct hg huser hguser
  have hset : ispr.getLsbD f.degree = true := (h.bits f.degree).mpr ⟨f, List.mem_cons_self, huser, rfl⟩
  constructor
  · have hbelow : ∀ k, k < f.degree → ispr.getLsbD k = false := by
      intro k hk
      by_contra hnot
      rw [Bool.not_eq_false] at hnot
      obtain ⟨g, hg, hguser, rfl⟩ := (h.bits k).mp hnot
      rcases List.mem_cons.mp hg with rfl | hg
      · exact absurd hk (Nat.lt_irrefl _)
      · exact absurd (hless g hg hguser) (by omega)
    unfold lowestDegree
    have hfind : (List.range 16).find? (fun degree => ispr.getLsbD degree) = some f.degree := by
      rw [List.find?_range_eq_some]
      exact ⟨hset, List.mem_range.mpr hlt, fun k hk => by rw [hbelow k hk]; rfl⟩
    rw [hfind]
    rfl
  · refine ⟨fun k => ?_, (List.pairwise_cons.mp h.distinct).2,
      fun g hg => h.bound g (List.mem_cons_of_mem f hg)⟩
    have hbit : (clearBit ispr f.degree).getLsbD k = true ↔
        k ≠ f.degree ∧ ispr.getLsbD k = true := by
      rw [getLsbD_clearBit]
      simp only [Bool.and_eq_true, decide_eq_true_eq]
      tauto
    rw [hbit, h.bits]
    constructor
    · rintro ⟨hne, g, hg, hguser, rfl⟩
      rcases List.mem_cons.mp hg with rfl | hg
      · exact absurd rfl hne
      · exact ⟨g, hg, hguser, rfl⟩
    · rintro ⟨g, hg, hguser, rfl⟩
      exact ⟨Nat.ne_of_gt (hless g hg hguser), g, List.mem_cons_of_mem f hg, hguser, rfl⟩

end IsprShows

end Athrill
