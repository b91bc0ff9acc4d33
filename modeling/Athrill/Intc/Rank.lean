import Athrill.Intc.Queues

/-!
# Which request comes first

The order of the requests is their level, then their degree, then their
arrival.  The loops of `judge_pending_Exception` find the first request in this
order, but only among those whose degree is below that of the running
exception, whatever their level.

* `ExceptionRequest.Precedes`: the order.
* `Contends`, `Foremost`: what the loops look at, and what they find.
* `scan_of_judgeLevels`: the outer loop.
* `isNewcomer_iff`: the candidate is the foremost request.
-/

namespace Athrill

open TargetCore MinScan

/-! ## The order -/

/-- The level comes first, then the degree, then the arrival. -/
def ExceptionRequest.Precedes (a b : ExceptionRequest) : Prop :=
  a.level < b.level ∨ a.level = b.level ∧ (a.priorityDegree < b.priorityDegree ∨
    a.priorityDegree = b.priorityDegree ∧ a.entry < b.entry)

theorem ExceptionRequest.Precedes.asymm {a b : ExceptionRequest} (h : a.Precedes b) :
    ¬ b.Precedes a := by
  unfold ExceptionRequest.Precedes at *
  omega

/-- The request comes before the running exception, as far as the loops can
tell. -/
def Outranks (control : ExceptionController) (req : ExceptionRequest) : Prop :=
  ∀ current, control.current = some current →
    req.level ≤ current.level ∧ req.priorityDegree < current.priorityDegree

/-- The loops look at the request. -/
structure Contends (c : CoreId) (s : CpuIntc) (req : ExceptionRequest) : Prop where
  queued : req ∈ (s.intc.control c).exceptionQueue req.level
  admitted : judgeSkips s.intc s.cpu req = false
  outranks : Outranks (s.intc.control c) req

/-- The first of the requests that the loops look at. -/
structure Foremost (c : CoreId) (s : CpuIntc) (req : ExceptionRequest) : Prop where
  contends : Contends c s req
  first : ∀ other, Contends c s other → other ≠ req → req.Precedes other

/-! ## The inner loop -/

/-- The core differs in `ICSR` alone. -/
def Noted (cpu cpu' : TargetCore) : Prop :=
  ∃ icsr, cpu' = cpu.setSysreg2 .icsr icsr

theorem Noted.refl (cpu : TargetCore) : Noted cpu cpu := by
  refine ⟨cpu.getSysreg2 .icsr, ?_⟩
  unfold setSysreg2 getSysreg2
  rw [Function.update_eq_self]

theorem Noted.trans {cpu cpu' cpu'' : TargetCore} (h : Noted cpu cpu') (h' : Noted cpu' cpu'') :
    Noted cpu cpu'' := by
  obtain ⟨icsr, rfl⟩ := h
  obtain ⟨icsr', rfl⟩ := h'
  refine ⟨icsr', ?_⟩
  unfold setSysreg2
  rw [Function.update_idem]

/-- What is skipped does not depend on `ICSR`. -/
theorem Noted.judgeSkips {cpu cpu' : TargetCore} (h : Noted cpu cpu') (intc : Intc)
    (req : ExceptionRequest) : judgeSkips intc cpu' req = judgeSkips intc cpu req := by
  obtain ⟨icsr, rfl⟩ := h
  have hpmr : (cpu.setSysreg2 .icsr icsr).getSysreg2 .pmr = cpu.getSysreg2 .pmr :=
    getSysreg2_setSysreg2_of_ne _ _ (by decide)
  unfold Athrill.judgeSkips isCpuMaskUserIntr intcGetMaskPriorityDegree
  rw [hpmr]

/-- Nor does the acceptance. -/
theorem Noted.canRaise {cpu cpu' : TargetCore} (h : Noted cpu cpu') (req : ExceptionRequest) :
    (canRaiseException req cpu').1 = (canRaiseException req cpu).1 := by
  obtain ⟨icsr, rfl⟩ := h
  have hpsw : (cpu.setSysreg2 .icsr icsr).psw = cpu.psw :=
    getSysreg2_setSysreg2_of_ne _ _ (by decide)
  have hhalt : (cpu.setSysreg2 .icsr icsr).isHalt = cpu.isHalt := rfl
  unfold canRaiseException issetNP issetID issetPsw
  rw [hpsw, hhalt]
  split_ifs <;> rfl

/-- The inner loop scans the requests that are not skipped. -/
theorem scan_of_judgeEntry (intc : Intc) (queue : List ExceptionRequest) (js : JudgeState) :
    (queue.foldl (judgeEntry intc) js).best =
        scan ExceptionRequest.priorityDegree js.best
          (queue.filter fun req => !judgeSkips intc js.cpu req) ∧
      Noted js.cpu (queue.foldl (judgeEntry intc) js).cpu := by
  induction queue generalizing js with
  | nil => exact ⟨rfl, Noted.refl _⟩
  | cons req queue ih =>
    obtain ⟨hbest, hnoted⟩ := ih (judgeEntry intc js req)
    rw [List.foldl_cons]
    by_cases hskip : judgeSkips intc js.cpu req = true
    · have hentry : judgeEntry intc js req =
          { js with cpu := intcSetUserIntrStatePriorityDegreeMasked js.cpu true } := if_pos hskip
      have hnote : Noted js.cpu (intcSetUserIntrStatePriorityDegreeMasked js.cpu true) := ⟨_, rfl⟩
      rw [hentry] at hbest hnoted ⊢
      simp only [hnote.judgeSkips] at hbest
      refine ⟨?_, hnote.trans hnoted⟩
      rw [hbest, List.filter_cons_of_neg (by simp [hskip])]
    · have hentry : judgeEntry intc js req =
          { js with best := step ExceptionRequest.priorityDegree js.best req } := if_neg hskip
      rw [hentry] at hbest hnoted ⊢
      refine ⟨?_, hnoted⟩
      rw [hbest, List.filter_cons_of_pos (by simp [hskip])]
      rfl

/-! ## The outer loop -/

section Levels

variable (intc : Intc) (control : ExceptionController)

theorem noted_judgeLevels (levels : List (Fin 16)) (js : JudgeState) :
    Noted js.cpu (judgeLevels intc control levels js).cpu := by
  induction levels generalizing js with
  | nil => exact Noted.refl _
  | cons level levels ih =>
    have hqueue := (scan_of_judgeEntry intc (control.exceptionQueue level) js).2
    unfold judgeLevels
    dsimp only
    split_ifs
    · exact hqueue.trans (ih _)
    · exact hqueue
    · exact hqueue.trans (ih _)

/-- The requests of a level that are not skipped. -/
def admitted (intc : Intc) (control : ExceptionController) (cpu : TargetCore) (level : Fin 16) :
    List ExceptionRequest :=
  (control.exceptionQueue level).filter fun req => !judgeSkips intc cpu req

/-- The outer loop keeps what it started from, or it ends at the first level
with a request below the degree that it started from. -/
theorem scan_of_judgeLevels (levels : List (Fin 16)) {js : JudgeState}
    (hcurrent : js.best.2.map ExceptionRequest.entry = control.currentException)
    (hother : ∀ level, ∀ req ∈ control.exceptionQueue level, req.priorityDegree < js.best.1 →
      some req.entry ≠ control.currentException) :
    ((judgeLevels intc control levels js).best = js.best ∧
        ∀ level ∈ levels, ∀ req ∈ admitted intc control js.cpu level,
          js.best.1 ≤ req.priorityDegree) ∨
      ∃ before level after req, levels = before ++ level :: after ∧
        (judgeLevels intc control levels js).best = (req.priorityDegree, some req) ∧
        (∀ level' ∈ before, ∀ other ∈ admitted intc control js.cpu level',
          js.best.1 ≤ other.priorityDegree) ∧
        req.priorityDegree < js.best.1 ∧
        IsFirstMin ExceptionRequest.priorityDegree (admitted intc control js.cpu level) req := by
  induction levels generalizing js with
  | nil => exact Or.inl ⟨rfl, fun _ h => absurd h List.not_mem_nil⟩
  | cons level levels ih =>
    obtain ⟨hbest, hnoted⟩ := scan_of_judgeEntry intc (control.exceptionQueue level) js
    unfold judgeLevels
    dsimp only
    generalize (control.exceptionQueue level).foldl (judgeEntry intc) js = after at hbest hnoted ⊢
    have hadmitted : ∀ level', admitted intc control after.cpu level' =
        admitted intc control js.cpu level' := by
      intro level'
      unfold admitted
      simp only [hnoted.judgeSkips]
    rcases scan_cases ExceptionRequest.priorityDegree js.best
      (admitted intc control js.cpu level) with ⟨hkeep, hle⟩ | ⟨req, hgive, hlt, hfirst⟩
    · have hafter : after.best = js.best := hbest.trans hkeep
      have hnext : ((judgeLevels intc control levels after).best = js.best ∧
          ∀ level' ∈ level :: levels, ∀ req ∈ admitted intc control js.cpu level',
            js.best.1 ≤ req.priorityDegree) ∨
          ∃ before level' rest req, level :: levels = before ++ level' :: rest ∧
            (judgeLevels intc control levels after).best = (req.priorityDegree, some req) ∧
            (∀ level' ∈ before, ∀ other ∈ admitted intc control js.cpu level',
              js.best.1 ≤ other.priorityDegree) ∧
            req.priorityDegree < js.best.1 ∧
            IsFirstMin ExceptionRequest.priorityDegree
              (admitted intc control js.cpu level') req := by
        have hrest := @ih after (by rw [hafter]; exact hcurrent)
          (by rw [hafter]; exact hother)
        simp only [hadmitted, hafter] at hrest
        rcases hrest with ⟨hsame, hnone⟩ | ⟨before, level', rest, req, rfl, hgive, hnone, h⟩
        · refine Or.inl ⟨hsame, ?_⟩
          intro level' hlevel'
          rcases List.mem_cons.mp hlevel' with rfl | hlevel'
          · exact hle
          · exact hnone level' hlevel'
        · refine Or.inr ⟨level :: before, level', rest, req, rfl, hgive, ?_, h⟩
          intro level'' hlevel''
          rcases List.mem_cons.mp hlevel'' with rfl | hlevel''
          · exact hle
          · exact hnone level'' hlevel''
      rw [hafter, if_pos hcurrent]
      exact hnext
    · have hafter : after.best = (req.priorityDegree, some req) := hbest.trans hgive
      have hmem : req ∈ control.exceptionQueue level := (List.mem_filter.mp hfirst.mem).1
      have hne : (some req).map ExceptionRequest.entry ≠ control.currentException :=
        hother level req hmem hlt
      have hsome : (req.priorityDegree, some req).2.isSome = true := rfl
      rw [hafter, if_neg hne, if_pos hsome]
      exact Or.inr ⟨[], level, levels, req, rfl, hafter,
        fun _ h => absurd h List.not_mem_nil, hlt, hfirst⟩

end Levels

/-! ## The candidate -/

section Candidate

variable {c : CoreId} {nextEntry : Nat} {s : CpuIntc}
  (h : ControlFormed c nextEntry (s.intc.control c))
include h

theorem judgeStart_current : (judgeStart (s.intc.control c) s.cpu).best.2.map
    ExceptionRequest.entry = (s.intc.control c).currentException := by
  unfold judgeStart
  cases hptr : (s.intc.control c).currentException with
  | none =>
    rw [ControlFormed.current_eq_none hptr]
    rfl
  | some entry =>
    obtain ⟨current, hcurrent, hentry, -⟩ := h.current_eq_some hptr
    rw [hcurrent]
    exact congrArg some hentry

omit h in
theorem judgeStart_cpu : (judgeStart (s.intc.control c) s.cpu).cpu = s.cpu := by
  unfold judgeStart
  split <;> rfl

omit h in
theorem pairwise_judgeLevelList :
    (judgeLevelList (s.intc.control c)).Pairwise fun a b => a < b := by
  unfold judgeLevelList
  exact (List.pairwise_lt_finRange 16).filter _

/-- The requests that the loops look at are those of the visited levels that
are not skipped, below the degree of the running exception. -/
theorem contends_iff {req : ExceptionRequest} : Contends c s req ↔
    (∃ level ∈ judgeLevelList (s.intc.control c),
      req ∈ admitted s.intc (s.intc.control c) s.cpu level) ∧
    req.priorityDegree < (judgeStart (s.intc.control c) s.cpu).best.1 := by
  have hadmitted : ∀ level, req ∈ admitted s.intc (s.intc.control c) s.cpu level ↔
      req ∈ (s.intc.control c).exceptionQueue level ∧ judgeSkips s.intc s.cpu req = false := by
    intro level
    unfold admitted
    rw [List.mem_filter, Bool.not_eq_true']
  have houtranks : req ∈ (s.intc.control c).exceptionQueue req.level →
      (Outranks (s.intc.control c) req ↔ req.level ∈ judgeLevelList (s.intc.control c) ∧
        req.priorityDegree < (judgeStart (s.intc.control c) s.cpu).best.1) := by
    intro hqueued
    unfold Outranks judgeLevelList judgeStart
    rw [List.mem_filter, decide_eq_true_eq]
    cases (s.intc.control c).current with
    | none =>
      have hlevel : req.level ≤ 15 := Fin.le_last _
      have hdegree := h.degree req.level req hqueued
      exact iff_of_true (fun _ hcurrent => nomatch hcurrent)
        ⟨⟨List.mem_finRange _, hlevel⟩, hdegree⟩
    | some current =>
      constructor
      · intro hout
        obtain ⟨hlevel, hdegree⟩ := hout current rfl
        exact ⟨⟨List.mem_finRange _, hlevel⟩, hdegree⟩
      · rintro ⟨⟨-, hlevel⟩, hdegree⟩ current' hcurrent
        cases hcurrent
        exact ⟨hlevel, hdegree⟩
  constructor
  · rintro ⟨hqueued, hadm, hout⟩
    obtain ⟨hlevel, hdegree⟩ := (houtranks hqueued).mp hout
    exact ⟨⟨req.level, hlevel, (hadmitted _).mpr ⟨hqueued, hadm⟩⟩, hdegree⟩
  · rintro ⟨⟨level, hlevel, hmem⟩, hdegree⟩
    obtain ⟨hqueued, hadm⟩ := (hadmitted level).mp hmem
    obtain rfl := h.level level req hqueued
    exact ⟨hqueued, hadm, (houtranks hqueued).mpr ⟨hlevel, hdegree⟩⟩

/-- Either no request contends, or the candidate is the foremost one. -/
theorem judgeSearch_cases :
    ((judgeSearch c s).best = (judgeStart (s.intc.control c) s.cpu).best ∧
        ∀ req, ¬ Contends c s req) ∨
      ∃ req, (judgeSearch c s).best.2 = some req ∧ Foremost c s req := by
  have hother : ∀ level, ∀ req ∈ (s.intc.control c).exceptionQueue level,
      req.priorityDegree < (judgeStart (s.intc.control c) s.cpu).best.1 →
      some req.entry ≠ (s.intc.control c).currentException := by
    intro level req hmem hlt hcurrent
    obtain ⟨current, hsome, hentry, -, hqueued⟩ := h.current_eq_some hcurrent.symm
    obtain rfl := h.eq_of_entry hqueued hmem hentry
    unfold judgeStart at hlt
    rw [hsome] at hlt
    exact Nat.lt_irrefl _ hlt
  have hscan := scan_of_judgeLevels s.intc (s.intc.control c) (judgeLevelList (s.intc.control c))
    (judgeStart_current h) hother
  rw [judgeStart_cpu] at hscan
  rcases hscan with ⟨hsame, hnone⟩ | ⟨before, level, after, req, hlevels, hgive, hnone, hlt, hfirst⟩
  · refine Or.inl ⟨hsame, ?_⟩
    intro req hcontends
    obtain ⟨⟨level, hlevel, hmem⟩, hdegree⟩ := (contends_iff h).mp hcontends
    exact absurd hdegree (Nat.not_lt.mpr (hnone level hlevel req hmem))
  · have hin : level ∈ judgeLevelList (s.intc.control c) := by
      rw [hlevels]
      exact List.mem_append_right before List.mem_cons_self
    have hself : ∀ {level' : Fin 16} {other : ExceptionRequest},
        other ∈ admitted s.intc (s.intc.control c) s.cpu level' → other.level = level' :=
      fun hmem => h.level _ _ (List.mem_filter.mp hmem).1
    refine Or.inr ⟨req, congrArg Prod.snd hgive,
      (contends_iff h).mpr ⟨⟨level, hin, hfirst.mem⟩, hlt⟩, ?_⟩
    intro other hcontends hne
    obtain ⟨⟨level', hlevel', hmem⟩, hdegree⟩ := (contends_iff h).mp hcontends
    have hordered := pairwise_judgeLevelList (c := c) (s := s)
    rw [hlevels] at hlevel' hordered
    rcases List.mem_append.mp hlevel' with hbefore | hrest
    · exact absurd hdegree (Nat.not_lt.mpr (hnone level' hbefore other hmem))
    · rcases List.mem_cons.mp hrest with rfl | hafter
      · have hsame : req.level = other.level := (hself hfirst.mem).trans (hself hmem).symm
        obtain ⟨first, rest, hsplit, hless, hle⟩ := hfirst
        have hsorted : (admitted s.intc (s.intc.control c) s.cpu level').Pairwise
            fun a b => a.entry < b.entry := (h.sorted level').filter _
        rw [hsplit] at hmem hsorted
        refine Or.inr ⟨hsame, ?_⟩
        rcases List.mem_append.mp hmem with hearlier | hlater
        · exact Or.inl (hless other hearlier)
        · rcases List.mem_cons.mp hlater with heq | hlater
          · exact absurd heq hne
          · have harrival : req.entry < other.entry :=
              (List.pairwise_cons.mp (List.pairwise_append.mp hsorted).2.1).1 other hlater
            have hlow : req.priorityDegree ≤ other.priorityDegree := hle other hlater
            omega
      · have hlater : level < level' :=
          (List.pairwise_cons.mp (List.pairwise_append.mp hordered).2.1).1 level' hafter
        exact Or.inl ((hself hfirst.mem).symm ▸ (hself hmem).symm ▸ hlater)

omit h in
theorem noted_judgeSearch : Noted s.cpu (judgeSearch c s).cpu := by
  have hlevels := noted_judgeLevels s.intc (s.intc.control c)
    (judgeLevelList (s.intc.control c)) (judgeStart (s.intc.control c) s.cpu)
  rw [judgeStart_cpu] at hlevels
  exact hlevels

/-- The newcomer is the foremost request. -/
theorem isNewcomer_iff {req : ExceptionRequest} : IsNewcomer c s req ↔ Foremost c s req := by
  have hfromStart : ∀ req', (judgeStart (s.intc.control c) s.cpu).best.2 = some req' →
      some req'.entry = (s.intc.control c).currentException := by
    intro req' hstart
    have hcurrent := judgeStart_current h
    rw [hstart] at hcurrent
    exact hcurrent
  rcases judgeSearch_cases h with ⟨hsame, hnone⟩ | ⟨req', hgive, hforemost⟩
  · refine iff_of_false ?_ fun hforemost => hnone req hforemost.contends
    rintro ⟨hbest, hother⟩
    rw [hsame] at hbest
    exact hother (hfromStart req hbest)
  · constructor
    · rintro ⟨hbest, -⟩
      rw [hgive] at hbest
      cases hbest
      exact hforemost
    · intro hreq
      have heq : req = req' := by
        by_contra hne
        exact (hforemost.first req hreq.contends hne).asymm
          (hreq.first req' hforemost.contends (Ne.symm hne))
      subst heq
      refine ⟨hgive, ?_⟩
      intro hcurrent
      obtain ⟨current, hsome, hentry, -, hqueued⟩ := h.current_eq_some hcurrent.symm
      obtain rfl := h.eq_of_entry hqueued hreq.contends.queued hentry
      exact Nat.lt_irrefl _ (hreq.contends.outranks current hsome).2

end Candidate

end Athrill
