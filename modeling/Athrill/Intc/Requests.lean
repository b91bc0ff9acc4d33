import Athrill.Intc.Records

/-!
# Requests over a run

A run of requests, writes, starts and returns is followed by a plain record of
the requests that are outstanding: a request is outstanding from the step that
raises it until it is started or cancelled.  The records of the controller show
the same as long as core 1 gets its requests through core 0 and no write goes
past the hook.

* `IntcEvent.request`: what a step asks for.
* `requestMachine`: the controller with the outstanding requests.
* `Kept`: the controller shows the outstanding requests.
* `RequestGuard`, `requests_exact`: the runs in which it does.
-/

namespace Athrill

open TargetCore Bits TransitionSystem

variable {D : Type}

/-! ## Software writes -/

/-- The request bit that a write gives to a channel, unless it is refused. -/
def reqWrite (cpu : TargetCore) (c : CoreId) (addr len : Nat) (data : Nat → Byte) (c' : CoreId)
    (n : Nat) : Option Bool :=
  if isRefused cpu addr len then none
  else
    let cell := mpuGetPointer c addr
    let high := (icCell c' n).add 1
    if c' = c ∧ InCells cell len high then some ((data (high.index - cell.index)).getLsbD 4)
    else none

/-- The hook for the request bit of a channel. -/
def hookRequest (c : CoreId) (n : Nat) (flag : Bool) (intc : Intc) : Intc :=
  if flag then intcRaiseIntr n intc else intc.modifyControl c (cleared n)

theorem icUpperbit_eq (c : CoreId) {addr : Nat} (data : HalfWord) (intc : Intc)
    (haddr : isIcAddr addr = true) (heven : addr % 2 = 0) :
    intcHookUpdateIcUpperbit c addr data intc =
      hookRequest c (icaddr2intno addr) (data.getLsbD icIntreq) intc := by
  unfold intcHookUpdateIcUpperbit hookRequest cleared
  rw [icAddress_icaddr2intno haddr heven]

/-- The high byte of an IC register. -/
theorem mpuGetPointer_high (c : CoreId) {addr : Nat} (haddr : isIcAddr addr = true)
    (hodd : addr % 2 = 1) :
    mpuGetPointer c addr = (icCell c (icaddr2intno (addr - 1))).add 1 := by
  have hpred := icAddress_icaddr2intno (isIcAddr_pred haddr hodd) (by omega)
  unfold icCell
  rw [hpred]
  simp only [isIcAddr, Bool.or_eq_true, decide_eq_true_eq] at haddr
  unfold mpuGetPointer intcRegionOf IntcCell.add
  split_ifs with h₁ h₂ h₂
  · simp only [IntcRegion.start, IntcRegion.size, IntcCell.mk.injEq, true_and]
    omega
  · omega
  · omega
  · simp only [IntcRegion.start, IntcRegion.size, IntcCell.mk.injEq, true_and]
    omega

section Cells

variable {c c' : CoreId} {n n' : Nat} (hn : n < 384) (hn' : n' < 384)
include hn hn'

theorem inCells_high : InCells ((icCell c n).add 1) 1 ((icCell c' n').add 1) ↔ c' = c ∧ n' = n := by
  constructor
  · intro h
    exact (inCells_icCell_high hn hn').mp ⟨h.1, (Nat.le_succ _).trans h.2.1, h.2.2⟩
  · rintro ⟨rfl, rfl⟩
    exact ⟨rfl, le_rfl, Nat.lt_succ_self _⟩

theorem not_inCells_low : ¬ InCells (icCell c n) 1 ((icCell c' n').add 1) := by
  intro h
  obtain ⟨hregion, hlow, hhigh⟩ := h
  obtain ⟨rfl, rfl⟩ :=
    (inCells_icCell_high hn hn').mp ⟨hregion, hlow, hhigh.trans (Nat.lt_succ_self _)⟩
  exact absurd hhigh (Nat.lt_irrefl _)

end Cells

/-- No request bit lies among the IMR registers. -/
theorem not_inCells_request (c c' : CoreId) {addr len n : Nat} (h : isImrAddr addr = true)
    (hlen : IsWidth len) (halign : addr % len = 0) (hn : n < 384) :
    ¬ InCells (mpuGetPointer c addr) len ((icCell c' n).add 1) := by
  rw [mpuGetPointer_imr c h, icCell_eq]
  simp only [isImrAddr, isImr1Addr, isImr2Addr, Bool.or_eq_true, decide_eq_true_eq] at h
  have hc := c.isLt
  have hc' := c'.isLt
  have hbound : len ≤ 4 := by
    rcases hlen with rfl | rfl | rfl <;> omega
  unfold InCells IntcCell.add
  split_ifs <;> simp only [false_and, not_false_eq_true, true_and] <;> omega

/-- What a write of any width does to the records. -/
inductive ReqAccess (cpu : TargetCore) (intc : Intc) (c : CoreId) (addr len : Nat)
    (data : Nat → Byte) (intc' : Intc) : Prop
  /-- It is refused, or there is no request bit among its bytes. -/
  | quiet (hhooked : isHooked addr len = true)
      (hwrite : ∀ c' n, n < tnumInt → reqWrite cpu c addr len data c' n = none)
      (hsame : ∀ c' n, n < tnumInt → record intc' c' n = record intc c' n)
  /-- The request bit of one channel goes through the hook. -/
  | hooked (n : Nat) (flag : Bool) (mid : Intc) (hhooked : isHooked addr len = true)
      (hn : n < tnumInt)
      (hwrite : ∀ c' n', n' < tnumInt →
        reqWrite cpu c addr len data c' n' = if c' = c ∧ n' = n then some flag else none)
      (hcontrol : mid.control = intc.control)
      (hmid : ∀ c' n', n' < tnumInt → icReq mid.memory c' n' = icReq intc.memory c' n')
      (hqueues : intc'.control = (hookRequest c n flag mid).control)
      (hstore : ∀ c' n', n' < tnumInt → icReq intc'.memory c' n' =
        if c' = c ∧ n' = n then flag else icReq (hookRequest c n flag mid).memory c' n')
  | raw (hhooked : isHooked addr len = false) (hqueues : intc'.control = intc.control)
      (hstore : intc'.memory = writeCells intc.memory (mpuGetPointer c addr) len data)

section Access

variable {c : CoreId} {addr len : Nat} {data : Nat → Byte} {s : CpuIntc}

theorem reqWrite_of_refused (h : isRefused s.cpu addr len = true) (c' : CoreId) (n : Nat) :
    reqWrite s.cpu c addr len data c' n = none :=
  if_pos h

theorem reqWrite_of_not_inCells (h : ∀ c' n, n < tnumInt →
      ¬ InCells (mpuGetPointer c addr) len ((icCell c' n).add 1)) (c' : CoreId) (n : Nat)
    (hn : n < tnumInt) : reqWrite s.cpu c addr len data c' n = none := by
  unfold reqWrite
  dsimp only
  split_ifs with hrefused hw
  · rfl
  · exact absurd hw.2 (h c' n hn)
  · rfl

/-- The only request bit that is written is that of a channel. -/
theorem reqWrite_of_inCells (hrefused : isRefused s.cpu addr len = false) {n k : Nat} {flag : Bool}
    (hcells : ∀ c' n', n' < tnumInt →
      (InCells (mpuGetPointer c addr) len ((icCell c' n').add 1) ↔ c' = c ∧ n' = n))
    (hindex : ((icCell c n).add 1).index - (mpuGetPointer c addr).index = k)
    (hflag : (data k).getLsbD 4 = flag) (c' : CoreId) (n' : Nat) (hn' : n' < tnumInt) :
    reqWrite s.cpu c addr len data c' n' = if c' = c ∧ n' = n then some flag else none := by
  unfold reqWrite
  dsimp only
  rw [hrefused, if_neg Bool.false_ne_true]
  by_cases hsame : c' = c ∧ n' = n
  · rw [if_pos ⟨hsame.1, (hcells c' n' hn').mpr hsame⟩, if_pos hsame]
    obtain ⟨rfl, rfl⟩ := hsame
    rw [hindex, hflag]
  · rw [if_neg fun hw => hsame ((hcells c' n' hn').mp hw.2), if_neg hsame]

/-- The bits that a store reaches, after the hook for the channel. -/
theorem icReq_store {n k : Nat} {flag : Bool} (memory : IntcMemory)
    (hcells : ∀ c' n', n' < tnumInt →
      (InCells (mpuGetPointer c addr) len ((icCell c' n').add 1) ↔ c' = c ∧ n' = n))
    (hindex : ((icCell c n).add 1).index - (mpuGetPointer c addr).index = k)
    (hflag : (data k).getLsbD 4 = flag) (c' : CoreId) (n' : Nat) (hn' : n' < tnumInt) :
    icReq (writeCells memory (mpuGetPointer c addr) len data) c' n' =
      if c' = c ∧ n' = n then flag else icReq memory c' n' := by
  rw [icReq_writeCells]
  by_cases hsame : c' = c ∧ n' = n
  · rw [if_pos ((hcells c' n' hn').mpr hsame), if_pos hsame]
    obtain ⟨rfl, rfl⟩ := hsame
    rw [hindex, hflag]
  · rw [if_neg (mt (hcells c' n' hn').mp hsame), if_neg hsame]

/-- The hook of the IMR registers, followed by the store. -/
theorem reqAccess_imr {data' : Nat → Byte} {store : IntcMemory → IntcMemory}
    (haddr : isImrAddr addr = true) (hlen : IsWidth len) (halign : addr % len = 0)
    (hstore : ∀ memory, store memory = writeCells memory (mpuGetPointer c addr) len data) :
    ReqAccess s.cpu s.intc c addr len data
      (storeIf (intcHookUpdateImr c addr len data' s) store).2.intc := by
  have hhooked : isHooked addr len = true := by simp [isHooked, haddr]
  have hcells (c' : CoreId) (n : Nat) (hn : n < tnumInt) :
      ¬ InCells (mpuGetPointer c addr) len ((icCell c' n).add 1) :=
    not_inCells_request c c' haddr hlen halign (hn.trans (by decide))
  refine .quiet hhooked (reqWrite_of_not_inCells hcells) fun c' n hn => ?_
  unfold intcHookUpdateImr
  split_ifs with hum
  · rfl
  · have hbound : imrFirstIntno addr + len * 8 ≤ 384 := by
      rw [imrFirstIntno_eq haddr]
      simp only [isImrAddr, isImr1Addr, isImr2Addr, Bool.or_eq_true, decide_eq_true_eq] at haddr
      rcases hlen with rfl | rfl | rfl <;> split_ifs <;> omega
    refine record_congr ?_ (congrFun (control_imrHookBytes c _ len data' s.intc) c')
    rw [memory_storeIf_ok, hstore, icReq_writeCells, if_neg (hcells c' n hn)]
    exact icReq_imrHookBytes s.intc c hbound data' (hn.trans (by decide))

end Access

/-- A store of one byte. -/
theorem reqAccess_put8 (c : CoreId) (addr : Nat) (data : Byte) (s : CpuIntc) :
    ReqAccess s.cpu s.intc c addr 1 (byteOf data) (intcPutData8 c addr data s).2.intc := by
  have hbyte : byteOf data 0 = data := by simp [byteOf]
  have hput (memory : IntcMemory) := put8_eq_writeCells memory (mpuGetPointer c addr) data
  unfold intcPutData8 intcHookUpdateReg8
  split_ifs with hic himr
  · have hhooked : isHooked addr 1 = true := by simp [isHooked, hic]
    unfold intcHookUpdateIcReg8
    split_ifs with hum hodd
    · have hrefused : isRefused s.cpu addr 1 = true := by simp [isRefused, hhooked, hum]
      exact .quiet hhooked (fun c' n _ => reqWrite_of_refused hrefused c' n) fun _ _ _ => rfl
    · have hpred := isIcAddr_pred hic hodd
      have hlt := icaddr2intno_lt hpred
      have hcell := mpuGetPointer_high c hic hodd
      have hcells (c' : CoreId) (n' : Nat) (hn' : n' < tnumInt) :
          InCells (mpuGetPointer c addr) 1 ((icCell c' n').add 1) ↔
            c' = c ∧ n' = icaddr2intno (addr - 1) := by
        rw [hcell]
        exact inCells_high (hlt.trans (by decide)) (hn'.trans (by decide))
      have hindex : ((icCell c (icaddr2intno (addr - 1))).add 1).index -
          (mpuGetPointer c addr).index = 0 := by
        rw [hcell, Nat.sub_self]
      have hflag : (byteOf data 0).getLsbD 4 =
          (data.setWidth 16 <<< 8 : HalfWord).getLsbD icIntreq := by
        rw [hbyte]
        simp [icIntreq]
      have hrefused : isRefused s.cpu addr 1 = false := by
        simp [isRefused, Nat.mod_one, hum]
      have hhook := icUpperbit_eq c (data.setWidth 16 <<< 8) s.intc hpred (by omega)
      refine .hooked _ _ s.intc hhooked hlt (reqWrite_of_inCells hrefused hcells hindex hflag) rfl
        (fun _ _ _ => rfl) ?_ fun c' n' hn' => ?_
      · rw [control_storeIf]
        exact congrArg Intc.control hhook
      · rw [memory_storeIf_ok, hput, icReq_store _ hcells hindex hflag c' n' hn']
        dsimp only
        rw [hhook]
    · have hcell : mpuGetPointer c addr = icCell c (icaddr2intno addr) := by
        unfold icCell
        rw [icAddress_icaddr2intno hic (by omega)]
      have hcells (c' : CoreId) (n : Nat) (hn : n < tnumInt) :
          ¬ InCells (mpuGetPointer c addr) 1 ((icCell c' n).add 1) := by
        rw [hcell]
        exact not_inCells_low ((icaddr2intno_lt hic).trans (by decide)) (hn.trans (by decide))
      refine .quiet hhooked (reqWrite_of_not_inCells hcells) fun c' n hn => ?_
      refine record_congr ?_ rfl
      rw [memory_storeIf_ok, hput, icReq_writeCells, if_neg (hcells c' n hn)]
      exact icReq_icLowerbit s.intc c addr (data.setWidth 16) c' n
  · exact reqAccess_imr himr (Or.inl rfl) (Nat.mod_one _) hput
  · refine .raw (by simp [isHooked, hic, himr]) rfl ?_
    rw [memory_storeIf_ok, hput]

theorem reqAccess_put16 (c : CoreId) (addr : Nat) (data : HalfWord) (s : CpuIntc) :
    ReqAccess s.cpu s.intc c addr 2 (byteOf data) (intcPutData16 c addr data s).2.intc := by
  have hput (memory : IntcMemory) := put16_eq_writeCells memory (mpuGetPointer c addr) data
  have hodd2 (hodd : addr % 2 ≠ 0) (h : isHooked addr 2 = true) : isRefused s.cpu addr 2 = true := by
    simp [isRefused, h, hodd]
  unfold intcPutData16 intcHookUpdateReg16
  split_ifs with hic hodd himr hodd
  · have hhooked : isHooked addr 2 = true := by simp [isHooked, hic]
    exact .quiet hhooked (fun c' n _ => reqWrite_of_refused (hodd2 hodd hhooked) c' n)
      fun _ _ _ => rfl
  · have hhooked : isHooked addr 2 = true := by simp [isHooked, hic]
    have heven : addr % 2 = 0 := not_not.mp hodd
    unfold intcHookUpdateIcReg16
    split_ifs with hum
    · have hrefused : isRefused s.cpu addr 2 = true := by simp [isRefused, hhooked, hum]
      exact .quiet hhooked (fun c' n _ => reqWrite_of_refused hrefused c' n) fun _ _ _ => rfl
    · have hlt := icaddr2intno_lt hic
      have hcell : mpuGetPointer c addr = icCell c (icaddr2intno addr) := by
        unfold icCell
        rw [icAddress_icaddr2intno hic heven]
      have hcells (c' : CoreId) (n' : Nat) (hn' : n' < tnumInt) :
          InCells (mpuGetPointer c addr) 2 ((icCell c' n').add 1) ↔
            c' = c ∧ n' = icaddr2intno addr := by
        rw [hcell]
        exact inCells_icCell_high (hlt.trans (by decide)) (hn'.trans (by decide))
      have hindex : ((icCell c (icaddr2intno addr)).add 1).index -
          (mpuGetPointer c addr).index = 1 := by
        rw [hcell]
        exact Nat.add_sub_cancel_left _ 1
      have hflag : (byteOf data 1).getLsbD 4 = data.getLsbD icIntreq := by
        simp [byteOf, icIntreq]
      have hrefused : isRefused s.cpu addr 2 = false := by
        simp [isRefused, heven, hum]
      have hhook := icUpperbit_eq c data (intcHookUpdateIcLowerbit c addr data s.intc) hic heven
      refine .hooked _ _ (intcHookUpdateIcLowerbit c addr data s.intc) hhooked hlt
        (reqWrite_of_inCells hrefused hcells hindex hflag) rfl
        (fun c' n' _ => icReq_icLowerbit s.intc c addr data c' n') ?_ fun c' n' hn' => ?_
      · rw [control_storeIf]
        exact congrArg Intc.control hhook
      · rw [memory_storeIf_ok, hput, icReq_store _ hcells hindex hflag c' n' hn']
        dsimp only
        rw [hhook]
  · have hhooked : isHooked addr 2 = true := by simp [isHooked, himr]
    exact .quiet hhooked (fun c' n _ => reqWrite_of_refused (hodd2 hodd hhooked) c' n)
      fun _ _ _ => rfl
  · exact reqAccess_imr himr (Or.inr (Or.inl rfl)) (not_not.mp hodd) hput
  · refine .raw (by simp [isHooked, hic, himr]) rfl ?_
    rw [memory_storeIf_ok, hput]

theorem reqAccess_put32 (c : CoreId) (addr : Nat) (data : Word) (s : CpuIntc) :
    ReqAccess s.cpu s.intc c addr 4 (byteOf data) (intcPutData32 c addr data s).2.intc := by
  have hput (memory : IntcMemory) := put32_eq_writeCells memory (mpuGetPointer c addr) data
  unfold intcPutData32 intcHookUpdateReg32
  split_ifs with himr hodd
  · have hhooked : isHooked addr 4 = true := by simp [isHooked, himr]
    have hrefused : isRefused s.cpu addr 4 = true := by simp [isRefused, hhooked, hodd]
    exact .quiet hhooked (fun c' n _ => reqWrite_of_refused hrefused c' n) fun _ _ _ => rfl
  · exact reqAccess_imr himr (Or.inr (Or.inr rfl)) (not_not.mp hodd) hput
  · refine .raw (by simp [isHooked, himr]) rfl ?_
    rw [memory_storeIf_ok, hput]

/-! ## Outstanding requests -/

/-- The requests that are outstanding. -/
abbrev Requested := CoreId → Nat → Bool

/-- The controller shows the outstanding requests. -/
def Intc.Keeps (intc : Intc) (requested : Requested) : Prop :=
  ∀ c n, n < tnumInt → (record intc c n).Shows (requested c n)

theorem Intc.Keeps.of_follows {intc intc' : Intc} {requested : Requested}
    (h : intc.Keeps requested)
    (hfollows : ∀ c n, n < tnumInt → (record intc c n).Follows (record intc' c n)) :
    intc'.Keeps requested :=
  fun c n hn => (hfollows c n hn).shows (h c n hn)

theorem Intc.Keeps.of_record_eq {intc intc' : Intc} {requested : Requested}
    (h : intc.Keeps requested)
    (hsame : ∀ c n, n < tnumInt → record intc' c n = record intc c n) : intc'.Keeps requested :=
  h.of_follows fun c n hn => .of_eq (hsame c n hn)

/-- What a step asks for is given to the outstanding requests. -/
def Requested.put (requested : Requested) (effect : CoreId → Nat → Option Bool) : Requested :=
  fun c n => (effect c n).getD (requested c n)

section Put

variable {requested : Requested} {effect : CoreId → Nat → Option Bool} {c : CoreId} {n : Nat}

theorem Requested.put_of_some {flag : Bool} (h : effect c n = some flag) :
    requested.put effect c n = flag := by
  unfold Requested.put
  rw [h]
  rfl

theorem Requested.put_of_none (h : effect c n = none) :
    requested.put effect c n = requested c n := by
  unfold Requested.put
  rw [h]
  rfl

end Put

theorem shows_raised {r : RequestRecord} (h : r.Shows false) : r.raised.Shows true := by
  obtain ⟨-, hqueued, hcopies⟩ := h
  refine ⟨rfl, ?_, hcopies⟩
  show r.queued + 1 = 1
  rw [hqueued]
  rfl

/-- A request that is queued twice. -/
theorem not_shows_raised {r : RequestRecord} (h : r.Shows true) (requested : Bool) :
    ¬ r.raised.Shows requested := by
  rintro ⟨-, hqueued, -⟩
  have htwo : r.raised.queued = 2 := by
    show r.queued + 1 = 2
    rw [h.queued]
    rfl
  rw [htwo] at hqueued
  cases requested <;> cases hqueued

theorem core_eq (c : CoreId) : c = 0 ∨ c = 1 := by
  revert c
  decide

section Steps

variable {intc : Intc} {requested : Requested} (h : intc.Keeps requested)
include h

/-- A request of a peripheral reaches core 0 alone. -/
theorem keeps_raiseIntr_iff {i : Nat} (hi : i < tnumInt) (bound : CoreId → Bool) :
    (intcRaiseIntr i intc).Keeps (requested.put fun c n =>
        if n = i ∧ bound c = true then some true else none) ↔
      (bound 0 = true ∨ icReq intc.memory 0 i = true) ∧
        (bound 1 = true → icReq intc.memory 1 i = true) := by
  have hi' : i < 384 := hi.trans (by decide)
  have hrecord (c : CoreId) {n : Nat} (hn : n < tnumInt) :=
    @record_intcRaiseIntr intc c n i (hn.trans (by decide)) hi'
  have hflag (c : CoreId) : icReq intc.memory c i = requested c i := (h c i hi).flag
  have hput (c : CoreId) : requested.put (fun c n =>
      if n = i ∧ bound c = true then some true else none) c i =
        (bound c || requested c i) := by
    cases hbound : bound c with
    | false =>
      exact Requested.put_of_none (if_neg fun h => Bool.false_ne_true (hbound.symm.trans h.2))
    | true => exact Requested.put_of_some (if_pos ⟨rfl, hbound⟩)
  constructor
  · intro hkeeps
    constructor
    · have hzero := hkeeps 0 i hi
      rw [hrecord 0 hi, hput] at hzero
      cases hreq : icReq intc.memory 0 i with
      | true => exact Or.inr rfl
      | false =>
        rw [hreq, if_pos ⟨⟨rfl, rfl⟩, rfl⟩] at hzero
        have hshown : true = (bound 0 || requested 0 i) := hzero.flag
        rw [← hflag, hreq, Bool.or_false] at hshown
        exact Or.inl hshown.symm
    · intro hbound
      have hone := hkeeps 1 i hi
      rw [hrecord 1 hi, hput, hbound, if_neg fun h => absurd h.1.1 (by decide)] at hone
      exact hone.flag
  · rintro ⟨hzero, hone⟩ c n hn
    rw [hrecord c hn]
    by_cases hn' : n = i
    · subst hn'
      rw [hput]
      rcases core_eq c with rfl | rfl
      · cases hreq : icReq intc.memory 0 n with
        | true =>
          rw [if_neg fun h => absurd h.2 (by decide), ← hflag, hreq, Bool.or_true]
          have hshown := h 0 n hn
          rw [← hflag, hreq] at hshown
          exact hshown
        | false =>
          have hbound : bound 0 = true := hzero.resolve_right (by rw [hreq]; decide)
          rw [if_pos ⟨⟨rfl, rfl⟩, rfl⟩, hbound, Bool.true_or]
          have hshown := h 0 n hn
          rw [← hflag, hreq] at hshown
          exact shows_raised hshown
      · rw [if_neg fun h => absurd h.1.1 (by decide)]
        cases hbound : bound 1 with
        | true =>
          have hreq := hone hbound
          have hshown := h 1 n hn
          rw [← hflag, hreq] at hshown
          exact hshown
        | false => exact h 1 n hn
    · have hsame : requested.put (fun c n =>
          if n = i ∧ bound c = true then some true else none) c n = requested c n :=
        Requested.put_of_none (if_neg fun h => hn' h.1)
      rw [if_neg fun h => hn' h.1.2, hsame]
      exact h c n hn

/-- A request of one core for the other is queued unless the bit in bank 0 is
set. -/
theorem keeps_trigger_iff {i : Nat} (hi : i < tnumInt) (t : CoreId) :
    (commonRaiseUserIntr i t intc).Keeps (requested.put fun c n =>
        if n = i ∧ c = t then some true else none) ↔
      icReq intc.memory t i = icReq intc.memory 0 i := by
  have hi' : i < 384 := hi.trans (by decide)
  have hrecord (c : CoreId) {n : Nat} (hn : n < tnumInt) :=
    @record_commonRaiseUserIntr intc c t n i (hn.trans (by decide)) hi'
  have hflag : icReq intc.memory t i = requested t i := (h t i hi).flag
  have hput : requested.put (fun c n => if n = i ∧ c = t then some true else none) t i = true :=
    Requested.put_of_some (if_pos ⟨rfl, rfl⟩)
  have hshown := h t i hi
  rw [← hflag] at hshown
  constructor
  · intro hkeeps
    have hself := hkeeps t i hi
    rw [hrecord t hi, hput] at hself
    cases hzero : icReq intc.memory 0 i with
    | true =>
      rw [hzero, if_neg fun h => absurd h.2 (by decide)] at hself
      exact hself.flag
    | false =>
      rw [hzero, if_pos ⟨⟨rfl, rfl⟩, rfl⟩] at hself
      by_contra hset
      rw [Bool.not_eq_false] at hset
      rw [hset] at hshown
      exact not_shows_raised hshown true hself
  · intro hsame c n hn
    rw [hrecord c hn]
    by_cases hself : c = t ∧ n = i
    · obtain ⟨rfl, rfl⟩ := hself
      rw [hput]
      cases hzero : icReq intc.memory 0 n with
      | true =>
        rw [if_neg fun h => absurd h.2 (by decide)]
        rw [hsame, hzero] at hshown
        exact hshown
      | false =>
        rw [if_pos ⟨⟨rfl, rfl⟩, rfl⟩]
        rw [hsame, hzero] at hshown
        exact shows_raised hshown
    · have hother : requested.put (fun c n => if n = i ∧ c = t then some true else none) c n =
          requested c n := Requested.put_of_none (if_neg fun h => hself ⟨h.2, h.1⟩)
      rw [if_neg fun h => hself h.1, hother]
      exact h c n hn

/-- An exception that is no user interrupt is no request. -/
theorem keeps_addException_iff (c' : CoreId) (level : Fin 16) (req : ExceptionRequest)
    (hstatus : req.status = .runnable) (hintno : req.intno < tnumInt) :
    (addException intc c' level req).Keeps requested ↔ req.exno ≠ .userIntr := by
  constructor
  · intro hkeeps hexno
    have hcopy : isCopy req.intno req = true := by
      unfold isCopy isRequestOf
      rw [hexno, hstatus]
      simp
    have hbefore := h c' req.intno hintno
    have hafter := hkeeps c' req.intno hintno
    rw [record_addException, if_pos ⟨rfl, hcopy⟩] at hafter
    have hcopies := hbefore.copies
    have hcopies' : (record intc c' req.intno).copies + 1 =
        (record intc c' req.intno).forwarded := hafter.copies
    omega
  · intro hexno
    refine h.of_record_eq fun c n hn => ?_
    have hnot : isCopy n req = false := by
      unfold isCopy isRequestOf
      rw [decide_eq_false hexno, Bool.false_and, Bool.false_and]
    rw [record_addException, hnot, if_neg fun h => Bool.false_ne_true h.2]

end Steps

/-! ## Writes -/

/-- The writes that keep the records together. -/
structure ReqWriteGuard (cpu : TargetCore) (intc : Intc) (c : CoreId) (addr len : Nat)
    (data : Nat → Byte) : Prop where
  /-- A request that core 1 raises for itself is there already, on both cores. -/
  set : isHooked addr len = true → ∀ n < tnumInt, reqWrite cpu c addr len data c n = some true →
    c = 0 ∨ ∀ c', icReq intc.memory c' n = true
  /-- A copy that is cancelled is not behind another pending exception. -/
  clear : isHooked addr len = true → ∀ n < tnumInt,
    reqWrite cpu c addr len data c n = some false →
      (∀ level, ∀ req ∈ (intc.control c).exceptionQueue level, isCopy n req = false) ∨
        (hookFinds n (intc.control c)).any (isCopy n) = true
  /-- A write without a hook leaves the request bits as they are. -/
  raw : isHooked addr len = false → ∀ c' n, n < tnumInt →
    icReq (writeCells intc.memory (mpuGetPointer c addr) len data) c' n = icReq intc.memory c' n

theorem copies_eq_zero_iff {flag : Bool} {control : ExceptionController} {n : Nat} :
    (recordOn flag control n).copies = 0 ↔
      ∀ level, ∀ req ∈ control.exceptionQueue level, isCopy n req = false := by
  show (∑ level, (control.exceptionQueue level).countP (isCopy n)) = 0 ↔ _
  rw [Finset.sum_eq_zero_iff]
  refine forall_congr' fun level => ?_
  rw [List.countP_eq_zero]
  simp only [Finset.mem_univ, true_implies, Bool.not_eq_true]

theorem queued_eq_zero_iff {flag : Bool} {control : ExceptionController} {n : Nat} :
    (recordOn flag control n).queued = 0 ↔ ∀ req ∈ control.userQueue, req.intno ≠ n := by
  show control.userQueue.countP (ofChannel n) = 0 ↔ _
  rw [List.countP_eq_zero]
  unfold ofChannel
  simp only [decide_eq_true_eq]

section Writes

variable {intc intc' : Intc} {requested : Requested} (h : intc.Keeps requested) {c : CoreId}
include h

/-- A request that is raised through the hook. -/
theorem keeps_hookSet_iff {n : Nat} (hn : n < tnumInt) {effect : CoreId → Nat → Option Bool}
    (heffect : ∀ c' n', n' < tnumInt → effect c' n' = if c' = c ∧ n' = n then some true else none)
    (hrecord : ∀ c' n', n' < tnumInt → record intc' c' n' =
      if c' = c ∧ n' = n then { record (intcRaiseIntr n intc) c' n' with flag := true }
      else record (intcRaiseIntr n intc) c' n') :
    intc'.Keeps (requested.put effect) ↔ c = 0 ∨ ∀ c', icReq intc.memory c' n = true := by
  have hraise (c' : CoreId) {n' : Nat} (hn' : n' < tnumInt) :=
    @record_intcRaiseIntr intc c' n' n (hn'.trans (by decide)) (hn.trans (by decide))
  have hflag (c' : CoreId) : icReq intc.memory c' n = requested c' n := (h c' n hn).flag
  have hself : requested.put effect c n = true :=
    Requested.put_of_some ((heffect c n hn).trans (if_pos ⟨rfl, rfl⟩))
  have hother {c' : CoreId} {n' : Nat} (hn' : n' < tnumInt) (hne : ¬ (c' = c ∧ n' = n)) :
      requested.put effect c' n' = requested c' n' :=
    Requested.put_of_none ((heffect c' n' hn').trans (if_neg hne))
  constructor
  · intro hkeeps
    rcases core_eq c with rfl | rfl
    · exact Or.inl rfl
    · refine Or.inr ?_
      have hne : ¬ ((0 : CoreId) = 1 ∧ n = n) := fun h => absurd h.1 (by decide)
      have hzero := hkeeps 0 n hn
      have hone := hkeeps 1 n hn
      rw [hrecord 0 n hn, if_neg hne, hraise 0 hn, hother hn hne] at hzero
      rw [hrecord 1 n hn, if_pos ⟨rfl, rfl⟩, hraise 1 hn, hself,
        if_neg fun h => absurd h.1.1 (by decide), (h 1 n hn).withFlag_iff] at hone
      have hset : icReq intc.memory 0 n = true := by
        by_contra hclear
        rw [Bool.not_eq_true] at hclear
        rw [if_pos ⟨⟨rfl, rfl⟩, hclear⟩, ← hflag, hclear] at hzero
        cases hzero.flag
      intro c'
      rcases core_eq c' with rfl | rfl
      · exact hset
      · exact (hflag 1).trans hone.1.symm
  · intro hguard c' n' hn'
    rw [hrecord c' n' hn', hraise c' hn']
    by_cases hsame : n' = n
    · subst hsame
      by_cases hqueued : (c' = 0 ∧ n' = n') ∧ icReq intc.memory 0 n' = false
      · obtain ⟨⟨rfl, -⟩, hclear⟩ := hqueued
        obtain rfl : c = 0 := hguard.resolve_right fun hset => by simp [hset 0] at hclear
        have hraised : (0 : CoreId) = 0 ∧ n' = n' := ⟨rfl, rfl⟩
        rw [if_pos hraised, if_pos ⟨hraised, hclear⟩, hself]
        have hshown := h 0 n' hn
        rw [← hflag, hclear] at hshown
        exact shows_raised hshown
      · rw [if_neg hqueued]
        by_cases hcore : c' = c ∧ n' = n'
        · obtain ⟨rfl, -⟩ := id hcore
          rw [if_pos hcore, hself, (h c' n' hn).withFlag_iff, ← hflag]
          have hset : icReq intc.memory c' n' = true := by
            rcases hguard with rfl | hall
            · by_contra hclear
              exact hqueued ⟨⟨rfl, rfl⟩, Bool.not_eq_true _ ▸ hclear⟩
            · exact hall c'
          exact ⟨hset.symm, hset.symm⟩
        · rw [if_neg hcore, hother hn hcore]
          exact h c' n' hn
    · have hne : ¬ (c' = c ∧ n' = n) := fun h => hsame h.2
      rw [if_neg hne, if_neg fun h => hsame h.1.2, hother hn' hne]
      exact h c' n' hn'

/-- A request that is cancelled through the hook. -/
theorem keeps_hookClear_iff {n : Nat} (hn : n < tnumInt) {effect : CoreId → Nat → Option Bool}
    (heffect : ∀ c' n', n' < tnumInt → effect c' n' = if c' = c ∧ n' = n then some false else none)
    (hrecord : ∀ c' n', n' < tnumInt → record intc' c' n' =
      if c' = c then
        recordOn (if n' = n then false else icReq intc.memory c' n') (cleared n (intc.control c)) n'
      else record intc c' n') :
    intc'.Keeps (requested.put effect) ↔
      (∀ level, ∀ req ∈ (intc.control c).exceptionQueue level, isCopy n req = false) ∨
        (hookFinds n (intc.control c)).any (isCopy n) = true := by
  have hself : requested.put effect c n = false :=
    Requested.put_of_some ((heffect c n hn).trans (if_pos ⟨rfl, rfl⟩))
  have hother {c' : CoreId} {n' : Nat} (hn' : n' < tnumInt) (hne : ¬ (c' = c ∧ n' = n)) :
      requested.put effect c' n' = requested c' n' :=
    Requested.put_of_none ((heffect c' n' hn').trans (if_neg hne))
  have hbefore := h c n hn
  have hqueued : (record intc c n).queued ≤ 1 := by
    rw [hbefore.queued]
    split_ifs <;> omega
  have hcopies := hbefore.copies
  have hle : (record intc c n).forwarded ≤ (record intc c n).queued :=
    forwarded_le_queued _ (intc.control c) n
  have hafter : (recordOn false (cleared n (intc.control c)) n).queued =
      (record intc c n).queued - 1 := queued_cleared
  have hafterLe := forwarded_le_queued false (cleared n (intc.control c)) n
  have hfound : (recordOn false (cleared n (intc.control c)) n).copies +
      (if (hookFinds n (intc.control c)).any (isCopy n) then 1 else 0) =
        (record intc c n).copies := copies_cleared n
  constructor
  · intro hkeeps
    have hshown := hkeeps c n hn
    rw [hrecord c n hn, if_pos rfl, if_pos rfl, hself] at hshown
    have hsame := hshown.copies
    by_cases hany : (hookFinds n (intc.control c)).any (isCopy n) = true
    · exact Or.inr hany
    · rw [if_neg hany] at hfound
      have hzero : (record intc c n).copies = 0 := by omega
      exact Or.inl (copies_eq_zero_iff.mp hzero)
  · intro hguard c' n' hn'
    rw [hrecord c' n' hn']
    by_cases hc : c' = c
    · subst hc
      by_cases hsame : n' = n
      · subst hsame
        have hzero : (recordOn false (cleared n' (intc.control c')) n').copies = 0 := by
          rcases hguard with hnone | hany
          · have hcopies' : (record intc c' n').copies = 0 := copies_eq_zero_iff.mpr hnone
            omega
          · rw [if_pos hany] at hfound
            omega
        rw [if_pos rfl, if_pos rfl, hself]
        refine ⟨rfl, ?_, by omega⟩
        rw [hafter, if_neg Bool.false_ne_true]
        omega
      · rw [if_pos rfl, if_neg hsame, recordOn_cleared_of_ne hsame, hother hn' fun h => hsame h.2]
        exact h c' n' hn'
    · rw [if_neg hc, hother hn' fun h => hc h.1]
      exact h c' n' hn'

/-- A write keeps the records together exactly when it meets the condition. -/
theorem keeps_reqAccess_iff {cpu : TargetCore} {addr len : Nat} {data : Nat → Byte}
    (haccess : ReqAccess cpu intc c addr len data intc') :
    intc'.Keeps (requested.put (reqWrite cpu c addr len data)) ↔
      ReqWriteGuard cpu intc c addr len data := by
  cases haccess with
  | quiet hhooked hwrite hsame =>
    refine iff_of_true (fun c' n hn => ?_) ⟨?_, ?_, ?_⟩
    · rw [hsame c' n hn, Requested.put_of_none (hwrite c' n hn)]
      exact h c' n hn
    · intro _ n hn hsome
      rw [hwrite c n hn] at hsome
      cases hsome
    · intro _ n hn hsome
      rw [hwrite c n hn] at hsome
      cases hsome
    · intro hraw
      rw [hhooked] at hraw
      cases hraw
  | hooked n flag mid hhooked hn hwrite hcontrol hmid hqueues hstore =>
    have hraw : ¬ isHooked addr len = false := by simp [hhooked]
    have hmidRecord (c' : CoreId) (n' : Nat) (hn' : n' < tnumInt) :
        record mid c' n' = record intc c' n' :=
      record_congr (hmid c' n' hn') (congrFun hcontrol c')
    have hchannel {n' : Nat} (hn' : n' < tnumInt) {flag' : Bool}
        (hsome : reqWrite cpu c addr len data c n' = some flag') : n' = n ∧ flag = flag' := by
      rw [hwrite c n' hn'] at hsome
      split_ifs at hsome with hsame
      exact ⟨hsame.2, Option.some.inj hsome⟩
    cases flag with
    | true =>
      have hiff := @keeps_hookSet_iff intc intc' requested h c n hn _ hwrite ?_
      · rw [hiff]
        constructor
        · intro hset
          refine ⟨fun _ n' hn' hsome => ?_, fun _ n' hn' hsome => ?_, fun h => absurd h hraw⟩
          · rw [(hchannel hn' hsome).1]
            exact hset
          · cases (hchannel hn' hsome).2
        · intro hguard
          exact hguard.set hhooked n hn ((hwrite c n hn).trans (if_pos ⟨rfl, rfl⟩))
      · intro c' n' hn'
        have hlt := hn.trans (show tnumInt < 384 by decide)
        have hraise : record (intcRaiseIntr n mid) c' n' = record (intcRaiseIntr n intc) c' n' := by
          rw [record_intcRaiseIntr (hn'.trans (by decide)) hlt,
            record_intcRaiseIntr (hn'.trans (by decide)) hlt, hmidRecord c' n' hn', hmid 0 n hn]
        have hrecord : record intc' c' n' =
            { record (intcRaiseIntr n mid) c' n' with
              flag := if c' = c ∧ n' = n then true
                else icReq (intcRaiseIntr n mid).memory c' n' } := by
          unfold record
          rw [hqueues, hstore c' n' hn']
          rfl
        rw [hrecord, hraise]
        split_ifs with hsame
        · rfl
        · rw [← hraise]
          rfl
    | false =>
      have hiff := @keeps_hookClear_iff intc intc' requested h c n hn _ hwrite ?_
      · rw [hiff]
        constructor
        · intro hclear
          refine ⟨fun _ n' hn' hsome => ?_, fun _ n' hn' hsome => ?_, fun h => absurd h hraw⟩
          · cases (hchannel hn' hsome).2
          · rw [(hchannel hn' hsome).1]
            exact hclear
        · intro hguard
          exact hguard.clear hhooked n hn ((hwrite c n hn).trans (if_pos ⟨rfl, rfl⟩))
      · intro c' n' hn'
        have hclear : hookRequest c n false mid = mid.modifyControl c (cleared n) := rfl
        rw [hclear] at hqueues hstore
        have hreq : icReq intc'.memory c' n' =
            if c' = c ∧ n' = n then false else icReq intc.memory c' n' := by
          rw [hstore c' n' hn', ← hmid c' n' hn']
          rfl
        unfold record
        rw [hqueues, hreq]
        by_cases hc : c' = c
        · subst hc
          have hcleared : (mid.modifyControl c' (cleared n)).control c' =
              cleared n (mid.control c') := Function.update_self _ _ _
          rw [hcleared, if_pos rfl, hcontrol]
          simp only [true_and]
        · have hcleared : (mid.modifyControl c (cleared n)).control c' = mid.control c' :=
            Function.update_of_ne hc _ _
          rw [hcleared, if_neg hc, if_neg fun h => hc h.1, hcontrol]
  | raw hhooked hqueues hstore =>
    have hrefused : isRefused cpu addr len = false := by simp [isRefused, hhooked]
    have hrecord (c' : CoreId) (n : Nat) : record intc' c' n =
        { record intc c' n with
          flag := icReq (writeCells intc.memory (mpuGetPointer c addr) len data) c' n } := by
      unfold record
      rw [hqueues, hstore]
      rfl
    have hnot : ¬ isHooked addr len = true := by simp [hhooked]
    constructor
    · intro hkeeps
      refine ⟨fun h => absurd h hnot, fun h => absurd h hnot, fun _ c' n hn => ?_⟩
      have hshown := hkeeps c' n hn
      rw [hrecord, (h c' n hn).withFlag_iff] at hshown
      exact hshown.1.trans (h c' n hn).flag.symm
    · intro hguard c' n hn
      have hsame := hguard.raw hhooked c' n hn
      have hbefore : icReq intc.memory c' n = requested c' n := (h c' n hn).flag
      rw [hrecord, (h c' n hn).withFlag_iff]
      refine ⟨hsame.trans hbefore, ?_⟩
      rw [icReq_writeCells] at hsame
      by_cases hw : c' = c ∧ InCells (mpuGetPointer c addr) len ((icCell c' n).add 1)
      · rw [if_pos hw.2] at hsame
        refine (Requested.put_of_some ?_).trans (hsame.trans hbefore)
        unfold reqWrite
        dsimp only
        rw [hrefused, if_neg Bool.false_ne_true, if_pos hw]
      · refine Requested.put_of_none ?_
        unfold reqWrite
        dsimp only
        rw [hrefused, if_neg Bool.false_ne_true, if_neg hw]

end Writes

/-! ## Starts -/

/-- A user interrupt that is started is the copy of a request, or none of its
channel is queued. -/
def StartsRequested (c : CoreId) (s : CpuIntc) : Prop :=
  ∀ req, Foremost c s req → req.status ≠ .waiting → (canRaiseException req s.cpu).1 = true →
    req.exno = .userIntr →
      req.status = .runnable ∨ ∀ other ∈ (s.intc.control c).userQueue, other.intno ≠ req.intno

/-- A copy that waits. -/
theorem copies_pos {flag : Bool} {control : ExceptionController} {level : Fin 16}
    {req : ExceptionRequest} {n : Nat} (hmem : req ∈ control.exceptionQueue level)
    (hcopy : isCopy n req = true) : 0 < (recordOn flag control n).copies := by
  by_contra hnot
  have hzero : (recordOn flag control n).copies = 0 := by omega
  rw [copies_eq_zero_iff.mp hzero level req hmem] at hcopy
  cases hcopy

/-- The first request of the channel in the user queue. -/
theorem find?_eq_none_iff {flag : Bool} {control : ExceptionController} {n : Nat} :
    control.userQueue.find? (fun req => decide (req.intno = n)) = none ↔
      (recordOn flag control n).queued = 0 := by
  rw [List.find?_eq_none, queued_eq_zero_iff]
  simp only [decide_eq_true_eq, ne_eq]

section Clock

variable {s : CpuIntc} (hformed : IntcFormed s.intc) {c : CoreId} {requested : Requested}
  (h : s.intc.Keeps requested)
include hformed

/-- A user interrupt that is started takes its request out of the queue. -/
theorem keeps_started_iff (h : s.intc.Keeps requested) {req e : ExceptionRequest}
    (hforemost : Foremost c s req) (he : e = { req with status := .running })
    (hstarted : (judgePendingException c s).1 = some e) (hexno : req.exno = .userIntr) :
    (hookUserIntrRaised e (judgePendingException c s).2).intc.Keeps
        (requested.put fun c' n =>
          if c' = c ∧ startsCopy c s n = true then some false else none) ↔
      req.status = .runnable ∨ ∀ other ∈ (s.intc.control c).userQueue, other.intno ≠ req.intno := by
  have hmem := hforemost.contends.queued
  have hcore : e.coreId = c := by
    rw [he]
    exact (hformed c).core _ req hmem
  have hintno : e.intno = req.intno := by rw [he]
  have hcopy (n : Nat) : startsCopy c s n = isCopy n req :=
    startsCopy_of_started hformed hmem hstarted (by rw [he])
  have hof (n : Nat) : isCopy n req = true ↔ req.status = .runnable ∧ req.intno = n := by
    unfold isCopy isRequestOf
    rw [decide_eq_true hexno, Bool.true_and, Bool.and_eq_true, decide_eq_true_eq,
      decide_eq_true_eq]
  have hformed' := intcFormed_judgePendingException hformed c
  have hrecord (c' : CoreId) (n : Nat) :
      record (judgePendingException c s).2.intc c' n =
        if c' = c ∧ isCopy n req = true then (record s.intc c' n).started
        else record s.intc c' n := by
    rw [record_judgePendingException hformed, hcopy]
  have hqueued : (record (judgePendingException c s).2.intc c req.intno).queued =
      (record s.intc c req.intno).queued := by
    rw [hrecord]
    split_ifs <;> rfl
  simp only [hcopy]
  generalize (judgePendingException c s).2 = s' at hformed' hrecord hqueued ⊢
  cases hfind : (s'.intc.control c).userQueue.find? fun other => decide (other.intno = req.intno) with
  | none =>
    -- the channel has no request, and so no copy
    have hzero : (record s.intc c req.intno).queued = 0 :=
      hqueued.symm.trans (find?_eq_none_iff.mp hfind)
    have hnocopy (n : Nat) (hn : n < tnumInt) : isCopy n req = false := by
      by_contra hnot
      rw [Bool.not_eq_false] at hnot
      obtain rfl := ((hof n).mp hnot).2
      have hpos : 0 < (record s.intc c req.intno).copies := copies_pos hmem hnot
      have hsame := (h c req.intno hn).copies
      have hle : (record s.intc c req.intno).forwarded ≤ (record s.intc c req.intno).queued :=
        forwarded_le_queued _ (s.intc.control c) req.intno
      omega
    refine iff_of_true ?_ (Or.inr (queued_eq_zero_iff.mp hzero))
    rw [intc_hookUserIntrRaised_of_none (by rw [hcore, hintno]; exact hfind)]
    intro c' n hn
    have hnot : ¬ (c' = c ∧ isCopy n req = true) := fun h => by simp [hnocopy n hn] at h
    rw [hrecord, if_neg hnot, Requested.put_of_none (if_neg hnot)]
    exact h c' n hn
  | some found =>
    have hchannel : found.intno = req.intno := of_decide_eq_true (List.find?_some hfind :)
    have hn : req.intno < tnumInt :=
      hchannel ▸ ((hformed' c).user found (List.mem_of_find?_eq_some hfind)).2.2.1
    have hnonzero : (record s.intc c req.intno).queued ≠ 0 := by
      rw [← hqueued]
      intro hzero
      have hnone := find?_eq_none_iff.mpr hzero
      rw [hfind] at hnone
      cases hnone
    have hbefore := h c req.intno hn
    have hset : requested c req.intno = true := by
      by_contra hclear
      rw [Bool.not_eq_true] at hclear
      have hzero := hbefore.queued
      rw [hclear] at hzero
      exact hnonzero hzero
    have hone : (record s.intc c req.intno).queued = 1 := by
      have hqueue := hbefore.queued
      rw [hset] at hqueue
      exact hqueue
    have hhook (c' : CoreId) {n : Nat} (hn : n < tnumInt) :=
      @record_hookUserIntrRaised c' n s' hformed' (hn.trans (by decide))
        e found (by rw [hcore, hintno]; exact hfind)
    rw [hcore, hintno] at hhook
    constructor
    · intro hkeeps
      by_contra hguard
      rw [not_or] at hguard
      have hnot : ¬ (c = c ∧ isCopy req.intno req = true) := fun h => hguard.1 ((hof _).mp h.2).1
      have hafter := hkeeps c req.intno hn
      rw [hhook c hn, if_pos ⟨rfl, rfl⟩, Requested.put_of_none (if_neg hnot), hset] at hafter
      cases hafter.flag
    · intro hguard
      have hrunnable : req.status = .runnable :=
        hguard.resolve_right fun hnone => hnonzero (queued_eq_zero_iff.mpr hnone)
      intro c' n hn'
      by_cases hself : c' = c ∧ n = req.intno
      · obtain ⟨rfl, rfl⟩ := id hself
        have hcopy' : isCopy req.intno req = true := (hof _).mpr ⟨hrunnable, rfl⟩
        have hpos : 0 < (record s.intc c' req.intno).copies := copies_pos hmem hcopy'
        have hsame := hbefore.copies
        have hle : (record s.intc c' req.intno).forwarded ≤ (record s.intc c' req.intno).queued :=
          forwarded_le_queued _ (s.intc.control c') req.intno
        have hafter := hhook c' hn'
        have hfew : (record (hookUserIntrRaised e s').intc c' req.intno).forwarded ≤
            (record (hookUserIntrRaised e s').intc c' req.intno).queued :=
          forwarded_le_queued _ _ req.intno
        rw [if_pos hself, hrecord, if_pos ⟨rfl, hcopy'⟩] at hafter
        rw [hafter] at hfew
        rw [hafter, Requested.put_of_some (if_pos ⟨rfl, hcopy'⟩)]
        dsimp only [RequestRecord.dropped, RequestRecord.started] at hfew ⊢
        refine ⟨rfl, ?_, ?_⟩
        · show (record s.intc c' req.intno).queued - 1 = 0
          omega
        · show (record s.intc c' req.intno).copies - 1 =
            (record s.intc c' req.intno).forwarded -
              if isRunnableOf req.intno found = true then 1 else 0
          omega
      · have hnot : ¬ (c' = c ∧ isCopy n req = true) :=
          fun h => hself ⟨h.1, ((hof n).mp h.2).2.symm⟩
        rw [hhook c' hn', if_neg hself, hrecord, if_neg hnot, Requested.put_of_none (if_neg hnot)]
        exact h c' n hn'

/-- What one core's pass of the clock does to the requests. -/
theorem keeps_clock_iff (h : s.intc.Keeps requested) (bus : Bus D) [TableReads bus]
    {state : CpuState D} (hstate : judgePendingUserIntr c state.toCpuIntc = s) :
    (supplyClockIntc bus c state).intc.Keeps (requested.put fun c' n =>
        if c' = c ∧ startsCopy c s n = true then some false else none) ↔ StartsRequested c s := by
  have hrecord (c' : CoreId) (n : Nat) :
      record (judgePendingException c s).2.intc c' n =
        if c' = c ∧ startsCopy c s n = true then (record s.intc c' n).started
        else record s.intc c' n := record_judgePendingException hformed
  -- no copy of a request is started
  have hidle (hnot : ∀ n, startsCopy c s n = false) :
      (judgePendingException c s).2.intc.Keeps (requested.put fun c' n =>
        if c' = c ∧ startsCopy c s n = true then some false else none) := by
    intro c' n hn
    have hno : ¬ (c' = c ∧ startsCopy c s n = true) := fun h => by simp [hnot n] at h
    rw [hrecord, if_neg hno, Requested.put_of_none (if_neg hno)]
    exact h c' n hn
  cases hstarted : (judgePendingException c s).1 with
  | none =>
    have hintc : (supplyClockIntc bus c state).intc = (judgePendingException c s).2.intc := by
      unfold supplyClockIntc
      dsimp only
      rw [hstate]
      generalize judgePendingException c s = result at hstarted ⊢
      obtain ⟨found, ci⟩ := result
      obtain rfl : found = none := hstarted
      rfl
    rw [hintc]
    refine iff_of_true (hidle fun n => ?_) fun req hforemost hstatus hcan _ => ?_
    · unfold startsCopy
      rw [hstarted]
      rfl
    · have hsome := (started_iff (hformed c)).mpr ⟨req, hforemost, hstatus, hcan, rfl⟩
      rw [hstarted] at hsome
      cases hsome
  | some e =>
    obtain ⟨req, hforemost, hstatus, hcan, he⟩ := (started_iff (hformed c)).mp hstarted
    have hintc : (supplyClockIntc bus c state).intc =
        if e.exno = .userIntr then (hookUserIntrRaised e (judgePendingException c s).2).intc
        else (judgePendingException c s).2.intc := by
      unfold supplyClockIntc
      dsimp only
      rw [hstate]
      generalize judgePendingException c s = result at hstarted ⊢
      obtain ⟨found, ci⟩ := result
      obtain rfl : found = some e := hstarted
      exact intc_raiseException bus e _
    have hguard : StartsRequested c s ↔ (req.exno = .userIntr →
        req.status = .runnable ∨
          ∀ other ∈ (s.intc.control c).userQueue, other.intno ≠ req.intno) := by
      refine ⟨fun hstarts => hstarts req hforemost hstatus hcan, fun hreq req' hreq' hstatus' hcan' => ?_⟩
      have hsome := (started_iff (hformed c)).mpr ⟨req', hreq', hstatus', hcan', rfl⟩
      rw [hstarted, he, Option.some.injEq] at hsome
      have hentry : req.entry = req'.entry := (congrArg ExceptionRequest.entry hsome :)
      rw [← (hformed c).eq_of_entry hforemost.contends.queued hreq'.contends.queued hentry]
      exact hreq
    have hexno : e.exno = req.exno := by rw [he]
    rw [hintc, hguard, hexno]
    by_cases huser : req.exno = .userIntr
    · rw [if_pos huser, keeps_started_iff hformed h hforemost he hstarted huser]
      exact ⟨fun hreq _ => hreq, fun hreq => hreq huser⟩
    · rw [if_neg huser]
      refine iff_of_true (hidle fun n => ?_) fun hexno => absurd hexno huser
      rw [startsCopy_of_started hformed hforemost.contends.queued hstarted (by rw [he])]
      unfold isCopy isRequestOf
      rw [decide_eq_false huser, Bool.false_and, Bool.false_and]

end Clock

/-! ## Runs -/

/-- What a step asks for a channel on a core: a request, with `bound` for the
cores that the channel is bound to, or its end, by a write or by a start. -/
def IntcEvent.request (bound : Nat → CoreId → Bool) (e : IntcEvent) (m : Machine D)
    (c' : CoreId) (n : Nat) : Option Bool :=
  match e with
  | .put8 c addr data => reqWrite (m.cores c) c addr 1 (byteOf data) c' n
  | .put16 c addr data => reqWrite (m.cores c) c addr 2 (byteOf data) c' n
  | .put32 c addr data => reqWrite (m.cores c) c addr 4 (byteOf data) c' n
  | .raiseIntr intno => if n = intno ∧ bound intno c' = true then some true else none
  | .trigger c intno => if n = intno ∧ c' = (if c = 0 then 1 else 0) then some true else none
  | .clock c => if c' = c ∧ startsCopy c (judged c m) n = true then some false else none
  | .other | .raiseException _ _ | .eiret _ | .feret _ => none

/-- The controller with the outstanding requests; there are none initially. -/
def requestMachine (bus : Bus D) (bound : Nat → CoreId → Bool) :
    TransitionSystem (Machine D × Requested) IntcEvent where
  init s := (intcSystem bus).init s.1 ∧ s.2 = fun _ _ => false
  step e s s' := (intcSystem bus).step e s.1 s'.1 ∧ s'.2 = s.2.put (e.request bound s.1)

/-- For every channel and core the request bit, the queues and the outstanding
requests say the same. -/
def RequestsKept (s : Machine D × Requested) : Prop :=
  s.1.intc.Keeps s.2

/-- The steps after which the controller shows the outstanding requests. -/
def RequestGuard (bound : Nat → CoreId → Bool) (e : IntcEvent) (m : Machine D) : Prop :=
  match e with
  | .put8 c addr data => ReqWriteGuard (m.cores c) m.intc c addr 1 (byteOf data)
  | .put16 c addr data => ReqWriteGuard (m.cores c) m.intc c addr 2 (byteOf data)
  | .put32 c addr data => ReqWriteGuard (m.cores c) m.intc c addr 4 (byteOf data)
  | .raiseIntr intno =>
    (bound intno 0 = true ∨ icReq m.intc.memory 0 intno = true) ∧
      (bound intno 1 = true → icReq m.intc.memory 1 intno = true)
  | .trigger c intno =>
    icReq m.intc.memory (if c = 0 then 1 else 0) intno = icReq m.intc.memory 0 intno
  | .raiseException _ exno => exno ≠ .userIntr
  | .clock c => StartsRequested c (judged c m)
  | .other | .eiret _ | .feret _ => True

theorem requestsKept_step_iff {bus : Bus D} [TableReads bus] {bound : Nat → CoreId → Bool}
    {e : IntcEvent} {s s' : Machine D × Requested} (hformed : IntcFormed s.1.intc)
    (h : RequestsKept s) (hstep : (requestMachine bus bound).step e s s') :
    RequestsKept s' ↔ RequestGuard bound e s.1 := by
  obtain ⟨m, requested⟩ := s
  obtain ⟨m', requested'⟩ := s'
  obtain ⟨hstep, hrequested⟩ := hstep
  obtain rfl : requested' = requested.put (e.request bound m) := hrequested
  have h : m.intc.Keeps requested := h
  show m'.intc.Keeps _ ↔ _
  cases hstep with
  | other _ _ hsame =>
    rw [hsame]
    exact iff_of_true h trivial
  | put8 _ c addr data _ => exact keeps_reqAccess_iff h (reqAccess_put8 c addr data (m.cpuIntc c))
  | put16 _ c addr data _ => exact keeps_reqAccess_iff h (reqAccess_put16 c addr data (m.cpuIntc c))
  | put32 _ c addr data _ => exact keeps_reqAccess_iff h (reqAccess_put32 c addr data (m.cpuIntc c))
  | raiseIntr _ intno hno => exact keeps_raiseIntr_iff h hno (bound intno)
  | trigger _ c intno hno => exact keeps_trigger_iff h hno (if c = 0 then 1 else 0)
  | raiseException _ c exno =>
    exact keeps_addException_iff h c _ _ rfl (show 0 < tnumInt by decide)
  | eiret _ c =>
    refine iff_of_true (h.of_record_eq fun c' n _ => ?_) trivial
    exact record_intcClrEi (s := ⟨restoreEi (m.cores c), m.intc⟩) hformed c
  | feret _ c =>
    refine iff_of_true (h.of_record_eq fun c' n _ => ?_) trivial
    exact record_intcClrFe (s := ⟨restoreFe (m.cores c), m.intc⟩) hformed c
  | clock _ c =>
    have hjudged : (judged c m).intc.Keeps requested :=
      h.of_follows fun c' n _ => follows_judgePendingUserIntr (s := m.cpuIntc c) hformed
    exact keeps_clock_iff (intcFormed_judgePendingUserIntr (s := m.cpuIntc c) hformed c) hjudged
      bus rfl

/-- Reset clears the request bits. -/
theorem icReq_reset (dev : D) (c : CoreId) {n : Nat} (hn : n < tnumInt) :
    icReq (Machine.reset dev).intc.memory c n = false := by
  have hn' : n < 384 := hn.trans (by decide)
  have hic (core : CoreId) (memory : IntcMemory) (k : Nat) (hk : k ≤ 384)
      (hbefore : icReq memory c n = false) :
      icReq ((List.range k).foldl (resetIc core) memory) c n = false := by
    induction k with
    | zero => exact hbefore
    | succ k ih =>
      have hk' : k < 384 := by omega
      have hcell : mpuGetPointer core (icAddress k) = icCell core k := rfl
      rw [List.range_succ, List.foldl_append, List.foldl_cons, List.foldl_nil, resetIc,
        put16_eq_writeCells, icReq_writeCells, hcell, ih (by omega)]
      split_ifs with hw
      · obtain ⟨rfl, rfl⟩ := (inCells_icCell_high hk' hn').mp hw
        have hindex : ((icCell c n).add 1).index - (icCell c n).index = 1 :=
          Nat.add_sub_cancel_left _ 1
        rw [hindex]
        decide
      · rfl
  have himr (core : CoreId) (memory : IntcMemory) (k : Nat) (hk : k ≤ 11)
      (hbefore : icReq memory c n = false) :
      icReq ((List.range k).foldl (resetImr core) memory) c n = false := by
    induction k with
    | zero => exact hbefore
    | succ k ih =>
      have haddr : ∀ k < 11, isImrAddr (imrAddress (k * 32)) = true ∧
          imrAddress (k * 32) % 4 = 0 := by decide
      obtain ⟨himr, halign⟩ := haddr k hk
      rw [List.range_succ, List.foldl_append, List.foldl_cons, List.foldl_nil, resetImr,
        put32_eq_writeCells, icReq_writeCells,
        if_neg (not_inCells_request core c himr (Or.inr (Or.inr rfl)) halign hn')]
      exact ih (by omega)
  have hreset (core : CoreId) (memory : IntcMemory) (hbefore : icReq memory c n = false) :
      icReq (intcResetRegisters core memory) c n = false :=
    himr core _ 11 le_rfl (hic core memory tnumInt (by decide) hbefore)
  have hzero : icReq (fun _ => 0) c n = false := by simp [icReq]
  exact hreset 1 _ (hreset 0 _ hzero)

theorem requestsKept_init {bus : Bus D} {bound : Nat → CoreId → Bool}
    {s : Machine D × Requested} (h : (requestMachine bus bound).init s) : RequestsKept s := by
  obtain ⟨m, requested⟩ := s
  obtain ⟨⟨dev, hm⟩, hrequested⟩ := h
  obtain rfl : m = Machine.reset dev := hm
  obtain rfl : requested = fun _ _ => false := hrequested
  intro c n hn
  refine ⟨icReq_reset dev c hn, rfl, ?_⟩
  exact copies_eq_zero_iff.mpr fun level req hmem => absurd hmem List.not_mem_nil

/-- The queues are in order in every run. -/
theorem requestMachine_formed (bus : Bus D) [TableReads bus] (bound : Nat → CoreId → Bool) :
    (requestMachine bus bound).Invariant fun s => IntcFormed s.1.intc where
  init s h := (intcFormed_invariant bus).init s.1 h.1
  step e s s' h hstep := (intcFormed_invariant bus).step e s.1 s'.1 h hstep.1

/-- The controller shows the outstanding requests all along a run exactly when
all its steps meet the condition. -/
theorem requests_exact {bus : Bus D} [TableReads bus] {bound : Nat → CoreId → Bool}
    {past : List (IntcEvent × Machine D × Requested)} {s : Machine D × Requested}
    (h : (requestMachine bus bound).Trace past s) :
    (∀ e ∈ past, RequestsKept e.2) ∧ RequestsKept s ↔
      ∀ e ∈ past, RequestGuard bound e.1 e.2.1 :=
  Trace.always_iff_of_invariant (requestMachine_formed bus bound)
    (fun _ hinit => requestsKept_init hinit)
    (fun _ _ _ hformed hkept hstep => requestsKept_step_iff hformed hkept hstep) h

/-! ## One request -/

/-- The state after reset, with no requests. -/
def resetRequests : Machine Unit × Requested :=
  (Machine.reset (), fun _ _ => false)

/-- Core 0 has triggered channel 0 of core 1. -/
def triggeredOnce : Machine Unit × Requested :=
  ({ resetRequests.1 with intc := intcCpuTriggerInterrupt 0 0 resetRequests.1.intc },
    resetRequests.2.put ((IntcEvent.trigger 0 0).request (fun _ _ => true) resetRequests.1))

/-- It has done so again, before the first request is started. -/
def triggeredTwice : Machine Unit × Requested :=
  ({ triggeredOnce.1 with intc := intcCpuTriggerInterrupt 0 0 triggeredOnce.1.intc },
    triggeredOnce.2.put ((IntcEvent.trigger 0 0).request (fun _ _ => true) triggeredOnce.1))

theorem trace_triggeredOnce : (requestMachine (romBus fun _ => 0) fun _ _ => true).Trace
    [(.trigger 0 0, resetRequests)] triggeredOnce :=
  .step (.init ⟨⟨(), rfl⟩, rfl⟩) ⟨.trigger _ 0 0 (by decide), rfl⟩

theorem requests_exact_triggered :
    (∀ e ∈ [(IntcEvent.trigger 0 0, resetRequests)], RequestsKept e.2) ∧
        RequestsKept triggeredOnce ↔
      ∀ e ∈ [(IntcEvent.trigger 0 0, resetRequests)], RequestGuard (fun _ _ => true) e.1 e.2.1 :=
  requests_exact trace_triggeredOnce

theorem step_triggeredTwice : (requestMachine (romBus fun _ => 0) fun _ _ => true).step
    (.trigger 0 0) triggeredOnce triggeredTwice :=
  ⟨.trigger _ 0 0 (by decide), rfl⟩

/-- The second request is queued next to the first one: the bit that is read
is that of core 0. -/
theorem request_is_queued_twice :
    ¬ ∀ past (s : Machine Unit × Requested),
      (requestMachine (romBus fun _ => 0) fun _ _ => true).Trace past s → RequestsKept s := by
  intro h
  have honce := h _ _ trace_triggeredOnce
  have htwice := h _ _ (.step trace_triggeredOnce step_triggeredTwice)
  have hformed := (requestMachine_formed (romBus fun _ => 0) fun _ _ => true).of_reachable
    trace_triggeredOnce.reachable
  have hguard := (requestsKept_step_iff hformed honce step_triggeredTwice).mp htwice
  have hsame : icReq triggeredOnce.1.intc.memory 1 0 = icReq triggeredOnce.1.intc.memory 0 0 :=
    hguard
  have hset : icReq triggeredOnce.1.intc.memory 1 0 = true := by decide +kernel
  have hclear : icReq triggeredOnce.1.intc.memory 0 0 = false := by decide +kernel
  rw [hset, hclear] at hsame
  cases hsame

end Athrill
