import Athrill.Intc.Conserve
import Athrill.Intc.Rank

/-!
# What the judge starts

`judge_pending_Exception` tests a candidate once more before it starts it, but
not everything: `MK` and `ISPR` have been tested when the request was
forwarded, and a halted core is woken whatever `PSW.ID` says.  The running
exception is marked before the test.

* `Startable`: what the registers of the core demand.
* `JudgeCorrect`, `judge_exact`: the right request starts, and the running
  exception is marked for nothing else.
* `StartsAllowed`, `start_exact`: what starts is allowed to.
-/

namespace Athrill

open TargetCore Bits

variable {D : Type}

/-! ## Registers -/

/-- The priority field of `ICn` in the bank of a core. -/
def icPriority (intc : Intc) (c : CoreId) (n : Nat) : Nat :=
  (intc.memory.get16 (icCell c n) &&& 0x000F#16).toNat

/-- No bit of `ISPR` or `PMR` stands at the priority or above it. -/
def Above (data : Word) (priority : Nat) : Prop :=
  ∀ k, k ≤ priority → data.getLsbD k = false

theorem lt_lowestDegree_iff {data : Word} {priority : Nat} (hlt : priority < 16) :
    priority < lowestDegree data ↔ Above data priority := by
  unfold lowestDegree Above
  cases hfind : (List.range 16).find? fun degree => data.getLsbD degree with
  | none =>
    rw [List.find?_eq_none] at hfind
    refine iff_of_true hlt ?_
    intro k hk
    have hin : k ∈ List.range 16 := List.mem_range.mpr (by omega)
    exact Bool.eq_false_iff.mpr (hfind k hin)
  | some degree =>
    obtain ⟨hset, -, hclear⟩ := List.find?_range_eq_some.mp hfind
    show priority < degree ↔ _
    constructor
    · intro h k hk
      exact Bool.not_eq_true' _ ▸ hclear k (by omega)
    · intro h
      by_contra hnot
      rw [h degree (by omega)] at hset
      cases hset

/-- The registers of core `c` accept user interrupt `n`. -/
structure UserAccepted (c : CoreId) (s : CpuIntc) (n : Nat) : Prop where
  mask : icMask s.intc.memory c n = false
  ispr : Above (s.cpu.getSysreg2 .ispr) (icPriority s.intc c n)
  pmr : Above (s.cpu.getSysreg2 .pmr) (icPriority s.intc c n)

/-- The request waits for its start. -/
structure Pending (c : CoreId) (s : CpuIntc) (req : ExceptionRequest) : Prop where
  queued : req ∈ (s.intc.control c).exceptionQueue req.level
  status : req.status = .runnable

/-- The state in which the judge of core `c` is called. -/
def judged (c : CoreId) (m : Machine D) : CpuIntc :=
  judgePendingUserIntr c (m.cpuIntc c)

/-! ## The outcome -/

section Outcome

variable {c : CoreId} {nextEntry : Nat} {s : CpuIntc}
  (h : ControlFormed c nextEntry (s.intc.control c))
include h

/-- The judge starts the foremost request when `PSW` accepts it and it has not
been started before. -/
theorem started_iff {e : ExceptionRequest} : (judgePendingException c s).1 = some e ↔
    ∃ req, Foremost c s req ∧ req.status ≠ .waiting ∧ (canRaiseException req s.cpu).1 = true ∧
      e = { req with status := .running } := by
  have hunique : ∀ req req', Foremost c s req → IsNewcomer c s req' → req = req' := by
    intro req req' hreq hreq'
    exact Option.some.inj (((isNewcomer_iff h).mpr hreq).best.symm.trans hreq'.best)
  have houtcome := judgeOutcome_judgePendingException c s
  generalize judgePendingException c s = result at houtcome ⊢
  cases houtcome with
  | idle hnone =>
    refine iff_of_false (fun hsome => nomatch hsome) ?_
    rintro ⟨req, hforemost, -⟩
    exact hnone req ((isNewcomer_iff h).mpr hforemost)
  | resumed candidate hnew hstatus =>
    refine iff_of_false (fun hsome => nomatch hsome) ?_
    rintro ⟨req, hforemost, hnot, -⟩
    obtain rfl := hunique req candidate hforemost hnew
    exact hnot hstatus
  | started candidate hnew hstatus haccept =>
    have hpsw := (noted_judgeSearch (c := c) (s := s)).canRaise candidate
    constructor
    · intro hsome
      exact ⟨candidate, (isNewcomer_iff h).mp hnew, hstatus, hpsw.symm.trans haccept,
        (Option.some.inj hsome).symm⟩
    · rintro ⟨req, hforemost, -, -, rfl⟩
      rw [hunique req candidate hforemost hnew]
  | refused candidate hnew hstatus haccept =>
    have hpsw := (noted_judgeSearch (c := c) (s := s)).canRaise candidate
    refine iff_of_false (fun hsome => nomatch hsome) ?_
    rintro ⟨req, hforemost, -, hcan, -⟩
    obtain rfl := hunique req candidate hforemost hnew
    rw [hpsw, hcan] at haccept
    cases haccept

end Outcome

/-! ## The order of the starts -/

/-- A write of a status, seen from an entry of the new queue. -/
theorem mem_setStatus {entry : Nat} {status : ExceptionRequestStatus}
    {queue : List ExceptionRequest} {req : ExceptionRequest} :
    req ∈ setStatus entry status queue ↔ ∃ old ∈ queue,
      (if old.entry = entry then { old with status := status } else old) = req := by
  unfold setStatus
  exact List.mem_map

section Order

variable {c : CoreId} {nextEntry : Nat} {s : CpuIntc}
  (h : ControlFormed c nextEntry (s.intc.control c))
include h

end Order

/-- The judge is called with the queues in order. -/
theorem formed_judged {bus : Bus D} [TableReads bus] {m : Machine D}
    (hreach : (intcSystem bus).Reachable m) (c : CoreId) :
    ControlFormed c (judged c m).intc.nextEntry ((judged c m).intc.control c) := by
  have hformed := (intcFormed_invariant bus).of_reachable hreach
  exact intcFormed_judgePendingUserIntr (s := m.cpuIntc c) hformed c c

/-- The state allows the start of the exception. -/
structure StartAllowed (c : CoreId) (s : CpuIntc) (e : ExceptionRequest) : Prop where
  np : e.req.cond.np = false → s.cpu.issetNP = false
  id : e.req.cond.id = false → s.cpu.issetID = false
  user : e.exno = .userIntr →
    UserAccepted c s e.intno ∧ s.cpu.issetID = false ∧ s.cpu.issetNP = false

/-- The judge starts nothing that the state does not allow. -/
def StartsAllowed (c : CoreId) (s : CpuIntc) : Prop :=
  ∀ e, (judgePendingException c s).1 = some e → StartAllowed c s e

/-- The foremost request, if `PSW` accepts it, is not accepted only because the
core is halted, and a user interrupt is still unmasked and above `ISPR`; that
it is not masked by `PMR` has been tested with the priority in bank 0. -/
def StartGuard (c : CoreId) (s : CpuIntc) : Prop :=
  ∀ req, Foremost c s req → req.status ≠ .waiting → (canRaiseException req s.cpu).1 = true →
    (s.cpu.isHalt = true → req.req.cond.id = false → s.cpu.issetID = false) ∧
    (req.exno = .userIntr → icMask s.intc.memory c req.intno = false ∧
      Above (s.cpu.getSysreg2 .ispr) (icPriority s.intc c req.intno) ∧
      (icPriority s.intc c req.intno ≠ icPriority s.intc 0 req.intno →
        Above (s.cpu.getSysreg2 .pmr) (icPriority s.intc c req.intno)))

/-- What `can_raise_Exception` has tested. -/
theorem canRaise_eq_true {req : ExceptionRequest} {cpu : TargetCore} :
    (canRaiseException req cpu).1 = true ↔ (req.req.cond.np = false → cpu.issetNP = false) ∧
      (req.req.cond.id = false → cpu.issetID = false ∨ cpu.isHalt = true) := by
  unfold canRaiseException
  split_ifs with hnp hid hhalt
  · exact iff_of_false (by simp) fun h => by simp [h.1 hnp.1] at hnp
  · exact iff_of_true rfl ⟨fun hcond => by simpa [hcond] using hnp, fun _ => Or.inr hhalt⟩
  · refine iff_of_false (by simp) fun h => ?_
    rcases h.2 hid.1 with hclear | hhalt'
    · simp [hclear] at hid
    · exact hhalt hhalt'
  · exact iff_of_true rfl ⟨fun hcond => by simpa [hcond] using hnp,
      fun hcond => Or.inl (by simpa [hcond] using hid)⟩

/-- A user interrupt that is not skipped is above `PMR`, by its priority in
bank 0. -/
theorem above_pmr_of_admitted {intc : Intc} {cpu : TargetCore} {req : ExceptionRequest}
    (huser : req.exno = .userIntr) (hadmitted : judgeSkips intc cpu req = false) :
    Above (cpu.getSysreg2 .pmr) (icPriority intc 0 req.intno) := by
  have hle : icPriority intc 0 req.intno ≤ 15 := userPriority_le intc req.intno
  unfold judgeSkips isCpuMaskUserIntr at hadmitted
  rw [decide_eq_true huser, Bool.true_and, decide_eq_false_iff_not, Nat.not_le] at hadmitted
  exact (lt_lowestDegree_iff (by omega)).mp hadmitted

/-- The starts are allowed exactly when the foremost request meets the
condition. -/
theorem start_exact {bus : Bus D} [TableReads bus] {m : Machine D}
    (hreach : (intcSystem bus).Reachable m) (c : CoreId) :
    StartsAllowed c (judged c m) ↔ StartGuard c (judged c m) := by
  have h := formed_judged hreach c
  generalize judged c m = s at h ⊢
  constructor
  · intro hallowed req hforemost hstatus hcan
    obtain ⟨-, hid, huser⟩ := hallowed _ ((started_iff h).mpr ⟨req, hforemost, hstatus, hcan, rfl⟩)
    refine ⟨fun _ => hid, ?_⟩
    intro hexno
    obtain ⟨⟨hmask, hispr, hpmr⟩, -, -⟩ := huser hexno
    exact ⟨hmask, hispr, fun _ => hpmr⟩
  · intro hguard e hstarted
    obtain ⟨req, hforemost, hstatus, hcan, rfl⟩ := (started_iff h).mp hstarted
    obtain ⟨hhalt, huser⟩ := hguard req hforemost hstatus hcan
    obtain ⟨hnp, hidOrHalt⟩ := canRaise_eq_true.mp hcan
    have hid : req.req.cond.id = false → s.cpu.issetID = false := by
      intro hcond
      rcases hidOrHalt hcond with hclear | hhalted
      · exact hclear
      · exact hhalt hhalted hcond
    refine ⟨hnp, hid, ?_⟩
    intro hexno
    have hcond : req.req.cond = ⟨false, false⟩ := by
      unfold ExceptionRequest.req
      rw [show req.exno = .userIntr from hexno]
      rfl
    obtain ⟨hmask, hispr, hother⟩ := huser hexno
    refine ⟨⟨hmask, hispr, ?_⟩, hid (by rw [hcond]), hnp (by rw [hcond])⟩
    show Above (s.cpu.getSysreg2 .pmr) (icPriority s.intc c req.intno)
    by_cases hsame : icPriority s.intc c req.intno = icPriority s.intc 0 req.intno
    · rw [hsame]
      exact above_pmr_of_admitted hexno hforemost.contends.admitted
    · exact hother hsame

/-- User interrupt 35 has been unmasked and raised, and waits for `PSW.ID`. -/
def waitingIntr : Machine Unit :=
  let m := (Machine.reset ()).putCpuIntc 0
    (intcPutData16 0 0xFFFFB046 0 ((Machine.reset ()).cpuIntc 0)).2
  let m := { m with intc := intcRaiseIntr 35 m.intc }
  m.putCpuState 0 (supplyClockIntc (romBus fun _ => 0) 0 (m.clockState 0).toCpuState)

/-- Core 0 has halted then, still with `PSW.ID = 1`. -/
def haltedIntr : Machine Unit :=
  { waitingIntr with
    cores := Function.update waitingIntr.cores 0 { waitingIntr.cores 0 with isHalt := true } }

theorem reachable_waitingIntr : (intcSystem (romBus fun _ => 0)).Reachable waitingIntr :=
  .step (.step (.step (.init ⟨(), rfl⟩) (.put16 _ 0 0xFFFFB046 0 (by unfold inIntc; decide)))
    (.raiseIntr _ 35 (by decide))) (.clock _ 0 (by decide +kernel))

theorem start_exact_waiting :
    StartsAllowed 0 (judged 0 waitingIntr) ↔ StartGuard 0 (judged 0 waitingIntr) :=
  start_exact reachable_waitingIntr 0

/-- The halted core is woken by the interrupt, and its handler starts. -/
theorem start_of_halted : ∃ m, (intcSystem (romBus fun _ => 0)).Reachable m ∧
    ¬ StartsAllowed 0 (judged 0 (m : Machine Unit)) := by
  refine ⟨haltedIntr, .step reachable_waitingIntr (.other _ _ rfl), ?_⟩
  intro hallowed
  have hstarted : (judgePendingException 0 (judged 0 haltedIntr)).1 =
      some ⟨1, .running, 0, .userIntr, 35, 35⟩ := by decide +kernel
  have hset : (judged 0 haltedIntr).cpu.issetID = true := by decide +kernel
  have hclear := (hallowed _ hstarted).id rfl
  rw [hset] at hclear
  cases hclear

end Athrill
