import Athrill.Intc.Judge
import Athrill.Intc.MaskAccess
import Athrill.Intc.System

/-!
# Masks over a run

A run of writes, requests and acknowledgements keeps the two records of every
mask together, as long as no write goes where its hook does not reach.  Reset
leaves the last IMR register out, so the channels from 352 on start apart.

* `Maskless`: the steps that touch no mask.
* `MaskStep`, `masks_agree`: what holds in a run.
-/

namespace Athrill

open TargetCore Bits

variable {D : Type}

/-! ## The other steps -/

/-- The user queues hold requests of channels that exist. -/
def UserFormed (intc : Intc) : Prop :=
  ∀ c, ∀ req ∈ (intc.control c).userQueue, req.intno < tnumInt

/-- A step that leaves the masks alone and the queues in order. -/
structure Maskless (intc intc' : Intc) : Prop where
  formed : UserFormed intc → UserFormed intc'
  same : UserFormed intc → SameMasks intc.memory intc'.memory

theorem Maskless.refl (intc : Intc) : Maskless intc intc :=
  ⟨fun h => h, fun _ => SameMasks.refl _⟩

theorem Maskless.trans {intc intc' intc'' : Intc} (h : Maskless intc intc')
    (h' : Maskless intc' intc'') : Maskless intc intc'' :=
  ⟨fun hf => h'.formed (h.formed hf), fun hf => (h.same hf).trans (h'.same (h.formed hf))⟩

/-- A change of the queues of one core. -/
theorem maskless_modifyControl (intc : Intc) (c : CoreId)
    (f : ExceptionController → ExceptionController)
    (h : ∀ control, ∀ req ∈ (f control).userQueue, ∃ req' ∈ control.userQueue,
      req'.intno = req.intno) : Maskless intc (intc.modifyControl c f) where
  formed hf i req hmem := by
    have hcontrol : (intc.modifyControl c f).control i =
        if i = c then f (intc.control c) else intc.control i := Function.update_apply _ _ _ _
    rw [hcontrol] at hmem
    split_ifs at hmem with hi
    · obtain ⟨req', hmem', hintno⟩ := h _ req hmem
      rw [← hintno]
      exact hf c req' hmem'
    · exact hf i req hmem
  same _ := SameMasks.refl _

/-- The user queue is left alone. -/
theorem maskless_modifyControl_of_eq (intc : Intc) (c : CoreId)
    (f : ExceptionController → ExceptionController)
    (h : ∀ control, (f control).userQueue = control.userQueue) :
    Maskless intc (intc.modifyControl c f) :=
  maskless_modifyControl intc c f fun control req hmem => ⟨req, h control ▸ hmem, rfl⟩

theorem maskless_reqflag (intc : Intc) (c : CoreId) {n : Nat} (hn : n < tnumInt) (flag : Bool) :
    Maskless intc (intcSetUserIntrReqflag intc c n flag) where
  formed hf := hf
  same _ := sameMasks_reqflag intc c (hn.trans (by decide)) flag

theorem maskless_addException (intc : Intc) (c : CoreId) (level : Fin 16)
    (request : ExceptionRequest) : Maskless intc (addException intc c level request) where
  formed hf :=
    (maskless_modifyControl_of_eq intc c
      (fun control => control.modifyQueue level fun queue =>
        queue ++ [({ request with entry := intc.nextEntry } : ExceptionRequest)])
      fun _ => rfl).formed hf
  same _ := SameMasks.refl _

theorem maskless_commonRaiseUserIntr (intc : Intc) (c : CoreId) {n : Nat} (hn : n < tnumInt) :
    Maskless intc (commonRaiseUserIntr n c intc) := by
  refine ⟨fun hf => ?_, fun _ => sameMasks_commonRaiseUserIntr intc c (hn.trans (by decide))⟩
  unfold commonRaiseUserIntr
  split_ifs
  · exact hf
  · intro i req hmem
    dsimp only [intcSetUserIntrReqflag, putIcBit, addUser, Intc.modifyControl] at hmem
    rw [Function.update_apply] at hmem
    split_ifs at hmem with hi
    · rcases List.mem_append.mp hmem with hmem | hmem
      · exact hf c req hmem
      · rw [List.mem_singleton] at hmem
        rw [hmem]
        exact hn
    · exact hf i req hmem

theorem maskless_intcRaiseIntr (intc : Intc) {n : Nat} (hn : n < tnumInt) :
    Maskless intc (intcRaiseIntr n intc) :=
  (maskless_commonRaiseUserIntr intc 0 hn).trans (maskless_commonRaiseUserIntr _ 1 hn)

theorem mem_userQueue_dropRunnable (regaddr : Nat) (control : ExceptionController) :
    (dropRunnable regaddr control).userQueue = control.userQueue := by
  unfold dropRunnable
  dsimp only
  split <;> rfl

/-- The queues after the hook of the upper byte. -/
theorem userFormed_icUpperbit (c : CoreId) {regaddr : Nat} (data : HalfWord) {intc : Intc}
    (hno : icaddr2intno regaddr < tnumInt) (hf : UserFormed intc) :
    UserFormed (intcHookUpdateIcUpperbit c regaddr data intc) := by
  unfold intcHookUpdateIcUpperbit
  split_ifs
  · exact (maskless_intcRaiseIntr intc hno).formed hf
  · refine (maskless_modifyControl intc c _ fun control req hmem => ?_).formed hf
    rw [mem_userQueue_dropRunnable] at hmem
    exact ⟨req, List.mem_of_mem_eraseP hmem, rfl⟩

theorem maskless_judgePendingUserIntr (c : CoreId) (s : CpuIntc) :
    Maskless s.intc (judgePendingUserIntr c s).intc := by
  have hmask (candidate : ExceptionRequest) (s : CpuIntc) :
      Maskless s.intc (judgeCpuMaskUserIntr candidate s).intc := by
    unfold judgeCpuMaskUserIntr
    dsimp only
    split_ifs
    · exact Maskless.refl _
    · exact Maskless.refl _
    · refine Maskless.trans (maskless_modifyControl _ _ _ fun control req hmem => ?_)
        (maskless_addException _ _ _ _)
      obtain ⟨req', hmem', rfl⟩ := List.mem_map.mp hmem
      exact ⟨req', hmem', by split_ifs <;> rfl⟩
  unfold judgePendingUserIntr
  split
  · exact Maskless.refl _
  · split_ifs
    · exact Maskless.refl _
    · exact hmask _ { s with cpu := { s.cpu with isHalt := false } }

/-- The user queue keeps its channels when a status is written. -/
theorem maskless_putStatus (intc : Intc) (c : CoreId) (entry : Nat)
    (status : ExceptionRequestStatus) (current : Option Nat) :
    Maskless intc (intc.modifyControl c fun control =>
      { control.putStatus entry status with currentException := current }) := by
  refine maskless_modifyControl _ _ _ fun control req hmem => ?_
  obtain ⟨req', hmem', rfl⟩ := List.mem_map.mp hmem
  exact ⟨req', hmem', by split_ifs <;> rfl⟩

theorem maskless_markWaiting (c : CoreId) (intc : Intc) : Maskless intc (markWaiting c intc) := by
  unfold markWaiting
  split
  · exact maskless_putStatus intc c _ .waiting (intc.control c).currentException
  · exact Maskless.refl _

theorem maskless_judgePendingException (c : CoreId) (s : CpuIntc) :
    Maskless s.intc (judgePendingException c s).2.intc := by
  have houtcome := judgeOutcome_judgePendingException c s
  generalize judgePendingException c s = result at houtcome ⊢
  cases houtcome with
  | idle _ => exact Maskless.refl _
  | resumed candidate _ _ => exact maskless_putStatus s.intc c candidate.entry .running _
  | started candidate _ _ _ =>
    exact (maskless_markWaiting c s.intc).trans
      (maskless_putStatus _ c candidate.entry .running _)
  | refused _ _ _ _ => exact maskless_markWaiting c s.intc

theorem maskless_hookUserIntrRaised (exception : ExceptionRequest) (s : CpuIntc) :
    Maskless s.intc (hookUserIntrRaised exception s).intc := by
  unfold hookUserIntrRaised
  dsimp only
  cases hfind : (s.intc.control exception.coreId).userQueue.find?
    fun req => decide (req.intno = exception.intno) with
  | none => exact Maskless.refl _
  | some req =>
    have hdrop : Maskless s.intc (s.intc.modifyControl exception.coreId fun control =>
        { control with userQueue := removeEntry req.entry control.userQueue }) :=
      maskless_modifyControl _ _ _ fun control req' hmem =>
        ⟨req', (List.mem_filter.mp hmem).1, rfl⟩
    have hmem := List.mem_of_find?_eq_some hfind
    refine ⟨fun hf => ?_, fun hf => ?_⟩
    · exact (maskless_reqflag _ _ (hf _ req hmem) _).formed (hdrop.formed hf)
    · exact (hdrop.same hf).trans
        ((maskless_reqflag _ _ (hf _ req hmem) _).same (hdrop.formed hf))

theorem intc_raiseException (bus : Bus D) [hbus : TableReads bus] (exception : ExceptionRequest)
    (s : CpuState D) :
    (raiseException bus exception s).intc =
      if exception.exno = .userIntr then (hookUserIntrRaised exception s.toCpuIntc).intc
      else s.intc := by
  have henter : (enterException exception s).intc =
      if exception.exno = .userIntr then (hookUserIntrRaised exception s.toCpuIntc).intc
      else s.intc := by
    unfold enterException
    split_ifs <;> rfl
  have hread : (tableView bus (enterException exception s) exception.intno).intc =
      (enterException exception s).intc := hbus.intc _ _
  rw [← henter]
  rcases raiseException_cases bus exception s with heq | ⟨s', addr, hsearched, heq⟩
  · rw [heq]
  · rw [heq]
    cases hsearched with
    | direct => rfl
    | table => exact hread
    | failed => exact hread

theorem maskless_supplyClockIntc (bus : Bus D) [TableReads bus] (c : CoreId) (s : CpuState D) :
    Maskless s.intc (supplyClockIntc bus c s).intc := by
  have hjudge := (maskless_judgePendingUserIntr c s.toCpuIntc).trans
    (maskless_judgePendingException c (judgePendingUserIntr c s.toCpuIntc))
  unfold supplyClockIntc
  dsimp only
  split
  · rename_i exception ci heq
    rw [heq] at hjudge
    rw [intc_raiseException]
    split_ifs
    · exact hjudge.trans (maskless_hookUserIntrRaised exception ci)
    · exact hjudge
  · rename_i ci heq
    rw [heq] at hjudge
    exact hjudge

theorem maskless_dropCurrent (c : CoreId) (exp : ExceptionRequest) (intc : Intc) :
    Maskless intc (dropCurrent c exp intc) :=
  maskless_modifyControl_of_eq _ _ _ fun _ => rfl

theorem maskless_intcClrEi (c : CoreId) (s : CpuIntc) : Maskless s.intc (intcClrEi c s).intc := by
  unfold intcClrEi
  split
  · exact Maskless.refl _
  · exact maskless_dropCurrent c _ _

theorem maskless_intcClrFe (c : CoreId) (s : CpuIntc) : Maskless s.intc (intcClrFe c s).intc := by
  unfold intcClrFe
  split
  · exact Maskless.refl _
  · exact maskless_dropCurrent c _ _

/-! ## Runs -/

/-- The core, the address, the number of bytes and the bytes of a write. -/
def IntcEvent.write : IntcEvent → Option (CoreId × Nat × Nat × (Nat → Byte))
  | .put8 c addr data => some (c, addr, 1, byteOf data)
  | .put16 c addr data => some (c, addr, 2, byteOf data)
  | .put32 c addr data => some (c, addr, 4, byteOf data)
  | _ => none

/-- The writes of a run meet the condition. -/
def MaskStep (e : IntcEvent) (m : Machine D) : Prop :=
  ∀ c addr len data, e.write = some (c, addr, len, data) →
    MaskGuard (m.cores c) m.intc.memory c addr len data

/-- What a step does to the mask of a channel: only a write gives it a bit. -/
def IntcEvent.maskEffect (e : IntcEvent) (m : Machine D) (c' : CoreId) (n : Nat) : Option Bool :=
  e.write.bind fun (c, addr, len, data) => Athrill.maskEffect (m.cores c) c addr len data c' n

/-- A step that is no write leaves the masks alone. -/
theorem maskless_intcStep {bus : Bus D} [TableReads bus] {e : IntcEvent} {m m' : Machine D}
    (hstep : IntcStep bus e m m') (he : e.write = none) : Maskless m.intc m'.intc := by
  cases hstep with
  | other _ _ h =>
    rw [h]
    exact Maskless.refl _
  | put8 => cases he
  | put16 => cases he
  | put32 => cases he
  | raiseIntr _ intno h => exact maskless_intcRaiseIntr _ h
  | trigger _ c intno h => exact maskless_commonRaiseUserIntr _ _ h
  | raiseException _ c exno => exact maskless_addException _ _ _ _
  | eiret _ c => exact maskless_intcClrEi c ⟨restoreEi (m.cores c), m.intc⟩
  | feret _ c => exact maskless_intcClrFe c ⟨restoreFe (m.cores c), m.intc⟩
  | clock _ c => exact maskless_supplyClockIntc bus c (m.clockState c).toCpuState

/-- The queues after a write. -/
theorem userFormed_storeIf {result : IntcReturn × CpuIntc} {store : IntcMemory → IntcMemory}
    (h : UserFormed result.2.intc) : UserFormed (storeIf result store).2.intc := by
  unfold storeIf
  split_ifs
  · exact h
  · exact h

theorem control_imrHookBytes (c : CoreId) (first len : Nat) (data : Nat → Byte) (intc : Intc) :
    (imrHookBytes c first len data intc).control = intc.control := by
  have hbits (k : Nat) (first : Nat) (flag : Nat → Bool) (intc : Intc) :
      ((List.range k).foldl (fun intc bit => putIntmask intc c (first + bit) (flag bit))
        intc).control = intc.control := by
    induction k with
    | zero => rfl
    | succ k ih =>
      rw [List.range_succ, List.foldl_append, List.foldl_cons, List.foldl_nil]
      exact ih
  induction len with
  | zero => rfl
  | succ len ih =>
    rw [imrHookBytes_succ, ← ih]
    exact hbits 8 _ _ _

theorem nextEntry_imrHookBytes (c : CoreId) (first len : Nat) (data : Nat → Byte) (intc : Intc) :
    (imrHookBytes c first len data intc).nextEntry = intc.nextEntry := by
  have hbits (k : Nat) (first : Nat) (flag : Nat → Bool) (intc : Intc) :
      ((List.range k).foldl (fun intc bit => putIntmask intc c (first + bit) (flag bit))
        intc).nextEntry = intc.nextEntry := by
    induction k with
    | zero => rfl
    | succ k ih =>
      rw [List.range_succ, List.foldl_append, List.foldl_cons, List.foldl_nil]
      exact ih
  induction len with
  | zero => rfl
  | succ len ih =>
    rw [imrHookBytes_succ, ← ih]
    exact hbits 8 _ _ _

theorem userFormed_imr {c : CoreId} {addr len : Nat} {data : Nat → Byte} {s : CpuIntc}
    (h : UserFormed s.intc) : UserFormed (intcHookUpdateImr c addr len data s).2.intc := by
  unfold intcHookUpdateImr
  split_ifs
  · exact h
  · intro i req hmem
    have hcontrol := control_imrHookBytes c (imrFirstIntno addr) len data s.intc
    unfold imrHookBytes at hcontrol
    dsimp only at hmem
    rw [hcontrol] at hmem
    exact h i req hmem

theorem userFormed_write {bus : Bus D} {e : IntcEvent} {m m' : Machine D}
    (hstep : IntcStep bus e m m') {w : CoreId × Nat × Nat × (Nat → Byte)} (he : e.write = some w)
    (h : UserFormed m.intc) : UserFormed m'.intc := by
  cases hstep with
  | put8 _ c addr data _ =>
    show UserFormed (intcPutData8 c addr data (m.cpuIntc c)).2.intc
    refine userFormed_storeIf ?_
    unfold intcHookUpdateReg8
    split_ifs with hic
    · unfold intcHookUpdateIcReg8
      split_ifs with hum hodd
      · exact h
      · exact userFormed_icUpperbit c _ (icaddr2intno_lt (isIcAddr_pred hic hodd)) h
      · exact h
    · exact userFormed_imr h
    · exact h
  | put16 _ c addr data _ =>
    show UserFormed (intcPutData16 c addr data (m.cpuIntc c)).2.intc
    refine userFormed_storeIf ?_
    unfold intcHookUpdateReg16
    split_ifs with hic
    · exact h
    · unfold intcHookUpdateIcReg16
      split_ifs
      · exact h
      · exact userFormed_icUpperbit c _ (icaddr2intno_lt hic) h
    · exact h
    · exact userFormed_imr h
    · exact h
  | put32 _ c addr data _ =>
    show UserFormed (intcPutData32 c addr data (m.cpuIntc c)).2.intc
    refine userFormed_storeIf ?_
    unfold intcHookUpdateReg32
    split_ifs
    · exact h
    · exact userFormed_imr h
    · exact h
  | other | raiseIntr | trigger | raiseException | eiret | feret | clock => cases he

/-- What a step of a run does to both records. -/
theorem maskWritten_intcStep {bus : Bus D} [TableReads bus] {e : IntcEvent} {m m' : Machine D}
    (hstep : IntcStep bus e m m') (hguard : MaskStep e m) (hformed : UserFormed m.intc)
    (hagree : MasksAgree m.intc.memory) (c' : CoreId) {n : Nat} (hn : n < 352) :
    MaskWritten (e.maskEffect m) m.intc.memory m'.intc.memory c' n := by
  cases hwrite : e.write with
  | none =>
    obtain ⟨hic, himr⟩ := (maskless_intcStep hstep hwrite).same hformed c' n (by omega)
    refine maskWritten_of_none ?_ hic himr
    unfold IntcEvent.maskEffect
    rw [hwrite]
    rfl
  | some w =>
    obtain ⟨c, addr, len, data⟩ := w
    have heffect : e.maskEffect m = maskEffect (m.cores c) c addr len data := by
      unfold IntcEvent.maskEffect
      rw [hwrite]
      rfl
    rw [heffect]
    have hguard' := hguard c addr len data hwrite
    cases hstep with
    | put8 =>
      cases hwrite
      exact maskWritten_of_regAccess (Or.inl rfl) (regAccess_put8 _ _ _ (m.cpuIntc c)) hguard'
        hagree hn
    | put16 =>
      cases hwrite
      exact maskWritten_of_regAccess (Or.inr (Or.inl rfl)) (regAccess_put16 _ _ _ (m.cpuIntc c))
        hguard' hagree hn
    | put32 =>
      cases hwrite
      exact maskWritten_of_regAccess (Or.inr (Or.inr rfl)) (regAccess_put32 _ _ _ (m.cpuIntc c))
        hguard' hagree hn
    | other | raiseIntr | trigger | raiseException | eiret | feret | clock => cases hwrite

/-! ## Reset -/

theorem masks_resetIc (c c' : CoreId) (memory : IntcMemory) {k : Nat} (hk : k ≤ 384)
    {n : Nat} (hn : n < 384) :
    icMask ((List.range k).foldl (resetIc c) memory) c' n =
        (if c' = c ∧ n < k then true else icMask memory c' n) ∧
      imrMask ((List.range k).foldl (resetIc c) memory) c' n = imrMask memory c' n := by
  induction k with
  | zero => exact ⟨by rw [if_neg (by omega)]; rfl, rfl⟩
  | succ k ih =>
    obtain ⟨hic, himr⟩ := ih (by omega)
    have hk' : k < 384 := by omega
    rw [List.range_succ, List.foldl_append, List.foldl_cons, List.foldl_nil]
    have hcell : mpuGetPointer c (icAddress k) = icCell c k := rfl
    rw [resetIc, put16_eq_writeCells, icMask_writeCells, imrMask_writeCells, hcell,
      if_neg (not_inCells_imrCell hk' hn), hic]
    refine ⟨?_, himr⟩
    by_cases hself : c' = c ∧ n = k
    · obtain ⟨rfl, rfl⟩ := hself
      rw [if_pos ((inCells_icCell hk' hn).mpr ⟨rfl, rfl⟩), if_pos ⟨rfl, by omega⟩, Nat.sub_self]
      decide
    · rw [if_neg (mt (inCells_icCell hk' hn).mp hself)]
      refine if_congr (and_congr_right fun hc => ?_) rfl rfl
      have hne : n ≠ k := fun h => hself ⟨hc, h⟩
      omega

theorem masks_resetImr (c c' : CoreId) (memory : IntcMemory) {k : Nat} (hk : k ≤ 12)
    {n : Nat} (hn : n < 384) :
    imrMask ((List.range k).foldl (resetImr c) memory) c' n =
        (if c' = c ∧ n < k * 32 then true else imrMask memory c' n) ∧
      icMask ((List.range k).foldl (resetImr c) memory) c' n = icMask memory c' n := by
  induction k with
  | zero => exact ⟨by rw [if_neg (by omega)]; rfl, rfl⟩
  | succ k ih =>
    obtain ⟨himr, hic⟩ := ih (by omega)
    rw [List.range_succ, List.foldl_append, List.foldl_cons, List.foldl_nil]
    have hc := c.isLt
    have hc' := c'.isLt
    have hinCells : InCells (mpuGetPointer c (imrAddress (k * 32))) 4 (imrCell c' n) ↔
        c' = c ∧ n / 32 = k := by
      rw [mpuGetPointer_imrAddress, imrCell_eq, Fin.ext_iff]
      unfold InCells
      split_ifs <;> simp only [false_and, false_iff, true_and] <;> omega
    have hnotic : ¬ InCells (mpuGetPointer c (imrAddress (k * 32))) 4 (icCell c' n) := by
      rw [mpuGetPointer_imrAddress, icCell_eq]
      unfold InCells
      split_ifs <;> simp only [false_and, not_false_eq_true, true_and] <;> omega
    rw [resetImr, put32_eq_writeCells, icMask_writeCells, imrMask_writeCells, if_neg hnotic, himr]
    refine ⟨?_, hic⟩
    have hones : ∀ j < 4, ∀ i < 8, (byteOf (0xFFFFFFFF : Word) j).getLsbD i = true := by
      decide
    by_cases hself : c' = c ∧ n / 32 = k
    · have hw := hinCells.mpr hself
      rw [if_pos hw, if_pos ⟨hself.1, by omega⟩]
      exact hones _ (by have := hw.2; omega) _ (by omega)
    · rw [if_neg (mt hinCells.mp hself)]
      refine if_congr (and_congr_right fun hc => ?_) rfl rfl
      have hne : n / 32 ≠ k := fun h => hself ⟨hc, h⟩
      omega

/-- After reset every channel is masked, and every IMR register but the last
says so. -/
theorem masks_deviceInitIntc {c : CoreId} {n : Nat} (hn : n < tnumInt) :
    icMask deviceInitIntc.memory c n = true ∧
      imrMask deviceInitIntc.memory c n = decide (n < 352) := by
  have hn' : n < 384 := hn.trans (by decide)
  have hreset (core : CoreId) (memory : IntcMemory) :
      icMask (intcResetRegisters core memory) c n =
          (if c = core then true else icMask memory c n) ∧
        imrMask (intcResetRegisters core memory) c n =
          if c = core ∧ n < 352 then true else imrMask memory c n := by
    unfold intcResetRegisters
    obtain ⟨hic, himr⟩ := masks_resetIc core c memory (k := tnumInt) (by decide) hn'
    obtain ⟨himr', hic'⟩ := masks_resetImr core c
      ((List.range tnumInt).foldl (resetIc core) memory) (k := 11) (by decide) hn'
    rw [hic', himr', hic, himr]
    exact ⟨if_congr (and_iff_left hn) rfl rfl, rfl⟩
  obtain ⟨hic₁, himr₁⟩ := hreset 1 (intcResetRegisters 0 fun _ => 0)
  obtain ⟨hic₀, himr₀⟩ := hreset 0 fun _ => 0
  have hzero : imrMask (fun _ => 0) c n = false := by simp [imrMask]
  show icMask (intcResetRegisters 1 _) c n = true ∧ imrMask (intcResetRegisters 1 _) c n = _
  rw [hic₁, hic₀, himr₁, himr₀, hzero]
  have hcore : ∀ c : CoreId, c = 0 ∨ c = 1 := by decide
  rcases hcore c with rfl | rfl
  · by_cases h : n < 352 <;> simp [h]
  · by_cases h : n < 352 <;> simp [h]

theorem masksAgree_reset (dev : D) :
    MasksAgree (Machine.reset dev).intc.memory ∧ UserFormed (Machine.reset dev).intc := by
  constructor
  · intro c n hn
    obtain ⟨hic, himr⟩ := masks_deviceInitIntc (c := c) (n := n) (hn.trans (by decide))
    show icMask deviceInitIntc.memory c n = imrMask deviceInitIntc.memory c n
    rw [hic, himr, decide_eq_true hn]
  · intro c req hmem
    cases hmem

theorem masksAgree_invariant (bus : Bus D) [TableReads bus] :
    ((intcSystem bus).guarded MaskStep).Invariant fun m =>
      MasksAgree m.intc.memory ∧ UserFormed m.intc where
  init m hm := by
    obtain ⟨dev, rfl⟩ := hm
    exact masksAgree_reset dev
  step e m m' h hstep := by
    obtain ⟨hagree, hformed⟩ := h
    obtain ⟨hguard, hstep⟩ := hstep
    refine ⟨fun c n hn => ?_, ?_⟩
    · obtain ⟨hic, himr⟩ := maskWritten_intcStep hstep hguard hformed hagree c hn
      rw [hic, himr, hagree c n hn]
    · cases hwrite : e.write with
      | none => exact (maskless_intcStep hstep hwrite).formed hformed
      | some w => exact userFormed_write hstep hwrite hformed

/-- In a run whose writes meet the condition both records of every channel below
352 agree, and a further such step changes both for exactly the channels that
it addresses. -/
theorem masks_agree {bus : Bus D} [TableReads bus] {m : Machine D}
    (h : ((intcSystem bus).guarded MaskStep).Reachable m) :
    MasksAgree m.intc.memory ∧
      ∀ e m', MaskStep e m → IntcStep bus e m m' → ∀ c n, n < 352 →
        MaskWritten (e.maskEffect m) m.intc.memory m'.intc.memory c n := by
  obtain ⟨hagree, hformed⟩ := (masksAgree_invariant bus).of_reachable h
  exact ⟨hagree, fun e m' hguard hstep c n hn =>
    maskWritten_intcStep hstep hguard hformed hagree c hn⟩

/-- The state after core 0 has cleared `IC0` with a 16-bit write. -/
def clearedIc0 : Machine Unit :=
  (Machine.reset ()).putCpuIntc 0 (intcPutData16 0 0xFFFEEA00 0 ((Machine.reset ()).cpuIntc 0)).2

theorem maskStep_clearIc0 : MaskStep (.put16 0 0xFFFEEA00 0) (Machine.reset ()) := by
  intro c addr len data hwrite
  cases hwrite
  refine ⟨fun _ _ _ _ => Or.inl (by decide), fun _ himr => ?_, fun hraw => ?_⟩
  · exact absurd himr (by decide)
  · exact absurd hraw (by decide)

theorem masks_agree_clearedIc0 :
    MasksAgree clearedIc0.intc.memory ∧
      ∀ e m', MaskStep e clearedIc0 → IntcStep (romBus fun _ => 0) e clearedIc0 m' →
        ∀ c n, n < 352 →
          MaskWritten (e.maskEffect clearedIc0) clearedIc0.intc.memory m'.intc.memory c n :=
  masks_agree (.step (.init ⟨(), rfl⟩) ⟨maskStep_clearIc0,
    .put16 _ 0 0xFFFEEA00 0 (Or.inl ⟨by decide, by decide⟩)⟩)

/-- A 16-bit write to `IC8` clears its mask and leaves the bit of the IMR
register set. -/
theorem not_masks_agree :
    ∃ m, (intcSystem (romBus fun _ => 0)).Reachable m ∧
      ∃ c n, n < tnumInt ∧ icMask m.intc.memory c n ≠ imrMask m.intc.memory c n := by
  refine ⟨(Machine.reset ()).putCpuIntc 0
    (intcPutData16 0 0xFFFEEA10 0 ((Machine.reset ()).cpuIntc 0)).2,
    .step (.init ⟨(), rfl⟩) (.put16 _ 0 0xFFFEEA10 0 (Or.inl ⟨by decide, by decide⟩)), 0, 8,
    by decide, ?_⟩
  decide +kernel

end Athrill
