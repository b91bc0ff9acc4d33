import Athrill.Cpu.Ldsr

/-!
# The enable bits of MPRC and MPAT

The enable bit of region `n` is bit `n` of `MPRC` and bit 7 of `MPATn`.  A
write to one register is meant to reach the other through the write hook.  The
hook takes the register number and the selector in this order; `LDSR` gives
them the other way round, so the hook acts for two registers alone, `MPAT1`
and the reserved register after it.

* `Mirror`: the two bits of every region agree.
* `MirrorWrite`: what a write should do.
* `BreaksMirror`, `mirrorWrite_iff`: when it does not.
* `mirror_of_guarded`: the runs without such a write.
-/

namespace Athrill

open TargetCore Bits

variable {D : Type}

/-! ## The mirror -/

/-- `MPRC.En` is the `E` bit of `MPATn`, for every region. -/
def Mirror (cpu : TargetCore) : Prop :=
  ∀ n : Fin 16, (cpu.getSysreg2 .mprc).getLsbD n.val = (cpu.getSysreg2 (mpat n)).getLsbD mpatE

/-- The registers of the mirror are not changed. -/
def SameMirror (cpu cpu' : TargetCore) : Prop :=
  cpu'.getSysreg2 .mprc = cpu.getSysreg2 .mprc ∧
    ∀ n, cpu'.getSysreg2 (mpat n) = cpu.getSysreg2 (mpat n)

theorem SameMirror.mirror {cpu cpu' : TargetCore} (h : SameMirror cpu cpu') :
    Mirror cpu' ↔ Mirror cpu := by
  unfold Mirror
  rw [h.1]
  simp only [h.2]

theorem SameMirror.trans {cpu cpu' cpu'' : TargetCore} (h : SameMirror cpu cpu')
    (h' : SameMirror cpu' cpu'') : SameMirror cpu cpu'' :=
  ⟨h'.1.trans h.1, fun n => (h'.2 n).trans (h.2 n)⟩

theorem mpat_selid (n : Fin 16) : 5 ≤ (mpat n).selid := by
  revert n
  decide

theorem SameMpu.sameMirror {cpu cpu' : TargetCore} (h : SameMpu cpu cpu') :
    SameMirror cpu cpu' :=
  ⟨h.sys .mprc (by decide), fun n => h.sys (mpat n) (mpat_selid n)⟩

/-- What a write to a register should do: the mirror holds after it, so a write
to either side has reached the other, and other registers leave both alone. -/
structure MirrorWrite (id : SysReg) (data : Word) (cpu cpu' : TargetCore) : Prop where
  mirror : Mirror cpu'
  mprc : id = .mprc → cpu'.getSysreg2 .mprc = data
  mpat : ∀ n, id = mpat n → cpu'.getSysreg2 (mpat n) = data
  other : id ≠ .mprc → (∀ n, id ≠ Athrill.mpat n) → SameMirror cpu cpu'

/-- The reserved register for which the hook writes bit 9 of `MPRC`. -/
def reservedHook : SysReg := ⟨6, 7⟩

/-- The writes that break the mirror: a new value of an enable bit, except in
`MPAT1`, or a new bit 9 of `MPRC` through the reserved register. -/
def BreaksMirror (id : SysReg) (data : Word) (cpu : TargetCore) : Prop :=
  (id = .mprc ∧ ∃ n : Fin 16, data.getLsbD n.val ≠ (cpu.getSysreg2 .mprc).getLsbD n.val) ∨
  (∃ n : Fin 16, n ≠ 1 ∧ id = mpat n ∧
    data.getLsbD mpatE ≠ (cpu.getSysreg2 (mpat n)).getLsbD mpatE) ∨
  (id = reservedHook ∧ data.getLsbD mpatE ≠ (cpu.getSysreg2 .mprc).getLsbD 9)

/-! ## The registers after a write -/

/-- The core after the hook as `LDSR` calls it. -/
theorem hook_swapped {id : SysReg} (data : Word)
    (hid : id.selid = 5 ∨ id.selid = 6 ∨ id.selid = 7) (cpu : TargetCore) :
    mpuHookAccessWrite data id.selid.val id.regid.val cpu =
      if id = mpat 1 then
        cpu.setSysreg2 .mprc (putBit (cpu.getSysreg2 .mprc) 1 (data.getLsbD mpatE))
      else if id = reservedHook then
        cpu.setSysreg2 .mprc (putBit (cpu.getSysreg2 .mprc) 9 (data.getLsbD mpatE))
      else cpu := by
  obtain ⟨selid, regid⟩ := id
  have hsel : selid.val = 5 ∨ selid.val = 6 ∨ selid.val = 7 :=
    hid.imp (congrArg Fin.val) (Or.imp (congrArg Fin.val) (congrArg Fin.val))
  have hmprc : ¬ (regid.val = 5 ∧ selid.val = 1) := by
    omega
  unfold mpuHookAccessWrite
  rw [if_neg hmprc]
  have hcases : ((regid.val = 6 ∨ regid.val = 7) ∧ selid.val % 4 = 2) ↔
      (selid = 6 ∧ (regid = 6 ∨ regid = 7)) := by
    rw [Fin.ext_iff, Fin.ext_iff, Fin.ext_iff]
    show _ ↔ selid.val = 6 ∧ (regid.val = 6 ∨ regid.val = 7)
    omega
  by_cases hhook : (regid.val = 6 ∨ regid.val = 7) ∧ selid.val % 4 = 2
  · rw [if_pos hhook]
    obtain ⟨hsel, hreg⟩ := hcases.mp hhook
    subst hsel
    rcases hreg with hreg | hreg
    · subst hreg
      rw [if_pos (by decide)]
      rfl
    · subst hreg
      rw [if_neg (by decide), if_pos (by decide)]
      rfl
  · have hnot : ¬ (selid = 6 ∧ (regid = 6 ∨ regid = 7)) := fun h => hhook (hcases.mpr h)
    have hmpat : (⟨selid, regid⟩ : SysReg) ≠ mpat 1 := by
      intro h
      have hmk : mpat 1 = ⟨6, 6⟩ := by decide
      rw [hmk] at h
      cases h
      exact hnot ⟨rfl, Or.inl rfl⟩
    have hres : (⟨selid, regid⟩ : SysReg) ≠ reservedHook := by
      intro h
      cases h
      exact hnot ⟨rfl, Or.inr rfl⟩
    rw [if_neg hhook, if_neg hmpat, if_neg hres]

/-- A write to a register of the MPU. -/
theorem getSysreg2_ldsrWrite {id : SysReg} (data : Word)
    (hid : id.selid = 5 ∨ id.selid = 6 ∨ id.selid = 7) (hmcc : id ≠ .mcc) (cpu : TargetCore)
    (id' : SysReg) :
    (ldsrWrite id data cpu).getSysreg2 id' =
      if id' = id then data
      else (mpuHookAccessWrite data id.selid.val id.regid.val cpu).getSysreg2 id' := by
  have hispr : id ≠ .ispr := by
    rintro rfl
    revert hid
    decide
  have hpsw : id ≠ .psw := by
    rintro rfl
    revert hid
    decide
  unfold ldsrWrite
  rw [if_neg hispr, if_neg hpsw, if_neg hmcc, if_pos hid]
  show ((mpuHookAccessWrite data id.selid.val id.regid.val cpu).setSysreg2 id data).getSysreg2 id' =
    _
  split_ifs with h
  · rw [h, getSysreg2_setSysreg2]
  · rw [getSysreg2_setSysreg2_of_ne _ _ h]

theorem mprc_ne_mpat (n : Fin 16) : SysReg.mprc ≠ mpat n := by
  revert n
  decide

theorem reservedHook_ne_mpat (n : Fin 16) : reservedHook ≠ mpat n := by
  revert n
  decide

theorem getSysreg2_hook_of_ne {id' : SysReg} (hne : id' ≠ .mprc) (data : Word) {id : SysReg}
    (hid : id.selid = 5 ∨ id.selid = 6 ∨ id.selid = 7) (cpu : TargetCore) :
    (mpuHookAccessWrite data id.selid.val id.regid.val cpu).getSysreg2 id' =
      cpu.getSysreg2 id' := by
  rw [hook_swapped data hid]
  split_ifs
  · exact getSysreg2_setSysreg2_of_ne _ _ hne
  · exact getSysreg2_setSysreg2_of_ne _ _ hne
  · rfl

/-! ## When a write keeps the mirror -/

section Write

variable {data : Word} {cpu : TargetCore}

/-- A write to `MPRC` reaches no `MPAT`. -/
theorem mirrorWrite_mprc (hmirror : Mirror cpu) :
    MirrorWrite .mprc data cpu (ldsrWrite .mprc data cpu) ↔ ¬ BreaksMirror .mprc data cpu := by
  have hsel : SysReg.mprc.selid = 5 ∨ SysReg.mprc.selid = 6 ∨ SysReg.mprc.selid = 7 := Or.inl rfl
  have hread (id' : SysReg) := getSysreg2_ldsrWrite data hsel (by decide) cpu id'
  have hmprc : (ldsrWrite .mprc data cpu).getSysreg2 .mprc = data := by
    rw [hread, if_pos rfl]
  have hmpat (n : Fin 16) :
      (ldsrWrite .mprc data cpu).getSysreg2 (mpat n) = cpu.getSysreg2 (mpat n) := by
    rw [hread, if_neg (mprc_ne_mpat n).symm]
    exact getSysreg2_hook_of_ne (mprc_ne_mpat n).symm data (Or.inl rfl) cpu
  constructor
  · rintro hwrite (⟨_, n, hn⟩ | ⟨n, _, hid, _⟩ | ⟨hid, _⟩)
    · have hbit := hwrite.mirror n
      rw [hmprc, hmpat, ← hmirror n] at hbit
      exact hn hbit
    · exact mprc_ne_mpat n hid
    · revert hid
      decide
  · intro hok
    refine ⟨fun n => ?_, fun _ => hmprc, fun n h => absurd h (mprc_ne_mpat n),
      fun h => absurd rfl h⟩
    rw [hmprc, hmpat, ← hmirror n]
    by_contra hbit
    exact hok (Or.inl ⟨rfl, n, hbit⟩)

/-- A write to an `MPAT` other than `MPAT1` does not reach `MPRC`. -/
theorem mirrorWrite_mpat (n : Fin 16) (hmirror : Mirror cpu) :
    MirrorWrite (mpat n) data cpu (ldsrWrite (mpat n) data cpu) ↔
      ¬ BreaksMirror (mpat n) data cpu := by
  have hsel : (mpat n).selid = 5 ∨ (mpat n).selid = 6 ∨ (mpat n).selid = 7 := by
    revert n
    decide
  have hmcc : mpat n ≠ .mcc := by
    revert n
    decide
  have hread (id' : SysReg) := getSysreg2_ldsrWrite data hsel hmcc cpu id'
  have hself : (ldsrWrite (mpat n) data cpu).getSysreg2 (mpat n) = data := by
    rw [hread, if_pos rfl]
  have hother {i : Fin 16} (hi : i ≠ n) :
      (ldsrWrite (mpat n) data cpu).getSysreg2 (mpat i) = cpu.getSysreg2 (mpat i) := by
    have hne : mpat i ≠ mpat n := fun h => hi (regionReg_inj.mp h).1
    rw [hread, if_neg hne]
    exact getSysreg2_hook_of_ne (mprc_ne_mpat i).symm data hsel cpu
  have hmprc : (ldsrWrite (mpat n) data cpu).getSysreg2 .mprc =
      if n = 1 then putBit (cpu.getSysreg2 .mprc) 1 (data.getLsbD mpatE)
      else cpu.getSysreg2 .mprc := by
    rw [hread, if_neg (mprc_ne_mpat n), hook_swapped data hsel]
    by_cases hn : n = 1
    · subst hn
      rw [if_pos rfl, if_pos rfl, getSysreg2_setSysreg2]
    · have hne : mpat n ≠ mpat 1 := fun h => hn (regionReg_inj.mp h).1
      rw [if_neg hne, if_neg (reservedHook_ne_mpat n).symm, if_neg hn]
  constructor
  · rintro hwrite (⟨hid, _⟩ | ⟨i, hi, hid, hbit⟩ | ⟨hid, _⟩)
    · exact mprc_ne_mpat n hid.symm
    · obtain rfl := (regionReg_inj.mp hid).1
      have h := hwrite.mirror n
      rw [hself, hmprc, if_neg hi, hmirror n] at h
      exact hbit h.symm
    · exact reservedHook_ne_mpat n hid.symm
  · intro hok
    refine ⟨fun i => ?_, fun h => absurd h.symm (mprc_ne_mpat n), fun i hi => ?_,
      fun _ h => absurd rfl (h n)⟩
    · by_cases hn : n = 1
      · subst hn
        rw [hmprc, if_pos rfl]
        by_cases hi : i = 1
        · subst hi
          rw [hself]
          exact getLsbD_putBit_self _ (by decide) _
        · have hval : 1 ≠ i.val := fun h => hi (Fin.ext h.symm)
          rw [hother hi, getLsbD_putBit_ne _ hval]
          exact hmirror i
      · rw [hmprc, if_neg hn]
        by_cases hi : i = n
        · subst hi
          rw [hself, hmirror i]
          by_contra hbit
          exact hok (Or.inr (Or.inl ⟨i, hn, rfl, fun h => hbit h.symm⟩))
        · rw [hother hi]
          exact hmirror i
    · obtain rfl := (regionReg_inj.mp hi).1
      exact hself

/-- The reserved register writes bit 9 of `MPRC`. -/
theorem mirrorWrite_reserved (hmirror : Mirror cpu) :
    MirrorWrite reservedHook data cpu (ldsrWrite reservedHook data cpu) ↔
      ¬ BreaksMirror reservedHook data cpu := by
  have hsel : reservedHook.selid = 5 ∨ reservedHook.selid = 6 ∨ reservedHook.selid = 7 := by
    decide
  have hread (id' : SysReg) := getSysreg2_ldsrWrite data hsel (by decide) cpu id'
  have hmprc : (ldsrWrite reservedHook data cpu).getSysreg2 .mprc =
      putBit (cpu.getSysreg2 .mprc) 9 (data.getLsbD mpatE) := by
    rw [hread, if_neg (by decide), hook_swapped data hsel, if_neg (reservedHook_ne_mpat 1),
      if_pos rfl, getSysreg2_setSysreg2]
  have hmpat (n : Fin 16) :
      (ldsrWrite reservedHook data cpu).getSysreg2 (mpat n) = cpu.getSysreg2 (mpat n) := by
    rw [hread, if_neg (reservedHook_ne_mpat n).symm]
    exact getSysreg2_hook_of_ne (mprc_ne_mpat n).symm data hsel cpu
  have hbit9 : ((ldsrWrite reservedHook data cpu).getSysreg2 .mprc).getLsbD 9 =
      data.getLsbD mpatE := by
    rw [hmprc]
    exact getLsbD_putBit_self _ (by decide) _
  constructor
  · rintro hwrite (⟨hid, _⟩ | ⟨n, _, hid, _⟩ | ⟨_, hbit⟩)
    · revert hid
      decide
    · exact reservedHook_ne_mpat n hid
    · obtain ⟨hsame, _⟩ := hwrite.other (by decide) reservedHook_ne_mpat
      rw [hsame] at hbit9
      exact hbit hbit9.symm
  · intro hok
    have hbit : data.getLsbD mpatE = (cpu.getSysreg2 .mprc).getLsbD 9 := by
      by_contra hne
      exact hok (Or.inr (Or.inr ⟨rfl, hne⟩))
    have hsame : (ldsrWrite reservedHook data cpu).getSysreg2 .mprc = cpu.getSysreg2 .mprc := by
      rw [hmprc, hbit]
      apply BitVec.eq_of_getLsbD_eq
      intro i hi
      by_cases hnine : 9 = i
      · subst hnine
        exact getLsbD_putBit_self _ hi _
      · exact getLsbD_putBit_ne _ hnine _
    have hmirr : SameMirror cpu (ldsrWrite reservedHook data cpu) := ⟨hsame, hmpat⟩
    exact ⟨hmirr.mirror.mpr hmirror, fun h => absurd h (by decide),
      fun n h => absurd h (reservedHook_ne_mpat n), fun _ _ => hmirr⟩

/-- A write to any other register. -/
theorem sameMirror_ldsrWrite {id : SysReg} (hmprc : id ≠ .mprc) (hmpat : ∀ n, id ≠ mpat n)
    (hres : id ≠ reservedHook) : SameMirror cpu (ldsrWrite id data cpu) := by
  by_cases hid : id.selid < 5
  · exact (sameMpu_ldsrWrite hid data cpu).sameMirror
  by_cases hmcc : id = .mcc
  · subst hmcc
    have h : SameMpu cpu (mpuCheck cpu) := sameMpu_setSysreg2 (by decide) _ _
    exact h.sameMirror
  have hsel : id.selid = 5 ∨ id.selid = 6 ∨ id.selid = 7 := by
    have := id.selid.isLt
    omega
  have hhook : mpuHookAccessWrite data id.selid.val id.regid.val cpu = cpu := by
    rw [hook_swapped data hsel, if_neg (hmpat 1), if_neg hres]
  refine ⟨?_, fun n => ?_⟩
  · rw [getSysreg2_ldsrWrite data hsel hmcc, if_neg (Ne.symm hmprc), hhook]
  · rw [getSysreg2_ldsrWrite data hsel hmcc, if_neg (Ne.symm (hmpat n)), hhook]

/-- A write does what it should exactly when it is not one of those that break
the mirror. -/
theorem mirrorWrite_iff (id : SysReg) (hmirror : Mirror cpu) :
    MirrorWrite id data cpu (ldsrWrite id data cpu) ↔ ¬ BreaksMirror id data cpu := by
  by_cases hmprc : id = .mprc
  · subst hmprc
    exact mirrorWrite_mprc hmirror
  by_cases hmpat : ∃ n, id = mpat n
  · obtain ⟨n, rfl⟩ := hmpat
    exact mirrorWrite_mpat n hmirror
  by_cases hres : id = reservedHook
  · subst hres
    exact mirrorWrite_reserved hmirror
  · have hne : ∀ n, id ≠ mpat n := fun n h => hmpat ⟨n, h⟩
    have hsame : SameMirror cpu (ldsrWrite id data cpu) := sameMirror_ldsrWrite hmprc hne hres
    have hwrite : MirrorWrite id data cpu (ldsrWrite id data cpu) :=
      ⟨hsame.mirror.mpr hmirror, fun h => absurd h hmprc, fun n h => absurd h (hne n),
        fun _ _ => hsame⟩
    refine iff_of_true hwrite ?_
    rintro (⟨h, _⟩ | ⟨n, _, h, _⟩ | ⟨h, _⟩)
    · exact hmprc h
    · exact hne n h
    · exact hres h

end Write

/-! ## Runs -/

/-- What a clock should do with the mirror. -/
def MirrorClock (p : Platform D) (cached : Word → Bool) (s : ClockState D) : Prop :=
  match ldsrOf (called p cached s) with
  | some (id, data) => MirrorWrite id data s.cpu (cpuSupplyClock p cached s).2.cpu
  | none => SameMirror s.cpu (cpuSupplyClock p cached s).2.cpu

/-- The clock executes an `LDSR` that breaks the mirror. -/
def ClockBreaksMirror (p : Platform D) (cached : Word → Bool) (s : ClockState D) : Prop :=
  ∃ id data, ldsrOf (called p cached s) = some (id, data) ∧ BreaksMirror id data s.cpu

/-- The steps whose instruction does not break the mirror. -/
def KeepsMirror (p : Platform D) (e : MachineEvent) (m : Machine D) : Prop :=
  ∀ c cached, e = .clock c cached → ¬ ClockBreaksMirror p cached (m.clockState c)

theorem Aside.sameMirror {s s' : CpuState D} (h : Aside s s') : SameMirror s.cpu s'.cpu :=
  h.ordinaryStep.mpuStep.sameMirror

/-- The registers agree before and after the parts of a clock around the
instruction. -/
theorem MirrorWrite.of_same {id : SysReg} {data : Word} {cpu₀ cpu cpu' cpu₁ : TargetCore}
    (hbefore : SameMirror cpu₀ cpu) (hafter : SameMirror cpu' cpu₁) :
    MirrorWrite id data cpu₀ cpu₁ ↔ MirrorWrite id data cpu cpu' := by
  constructor
  · intro h
    refine ⟨hafter.mirror.mp h.mirror, fun hid => ?_, fun n hid => ?_, fun hprc hpat => ?_⟩
    · rw [← hafter.1]
      exact h.mprc hid
    · rw [← hafter.2]
      exact h.mpat n hid
    · obtain ⟨hmprc, hmpat⟩ := h.other hprc hpat
      exact ⟨by rw [← hafter.1, hmprc, hbefore.1], fun n => by rw [← hafter.2, hmpat, hbefore.2]⟩
  · intro h
    refine ⟨hafter.mirror.mpr h.mirror, fun hid => ?_, fun n hid => ?_, fun hprc hpat => ?_⟩
    · rw [hafter.1]
      exact h.mprc hid
    · rw [hafter.2]
      exact h.mpat n hid
    · exact (hbefore.trans (h.other hprc hpat)).trans hafter

theorem BreaksMirror.of_same {id : SysReg} {data : Word} {cpu₀ cpu : TargetCore}
    (h : SameMirror cpu₀ cpu) : BreaksMirror id data cpu₀ ↔ BreaksMirror id data cpu := by
  unfold BreaksMirror
  rw [h.1]
  simp only [h.2]

/-- One clock does what it should exactly when its instruction does not break
the mirror. -/
theorem mirrorClock_iff {p : Platform D} (cached : Word → Bool) {s : ClockState D}
    (hform : CacheFormed p s) (hmirror : Mirror s.cpu) :
    MirrorClock p cached s ↔ ¬ ClockBreaksMirror p cached s := by
  have hout := cpuSupplyClock_outcome cached hform
  have hnone (h : ldsrOf (called p cached s) = none)
      (hsame : SameMirror s.cpu (cpuSupplyClock p cached s).2.cpu) :
      MirrorClock p cached s ↔ ¬ ClockBreaksMirror p cached s := by
    unfold MirrorClock ClockBreaksMirror
    rw [h]
    refine iff_of_true hsame ?_
    rintro ⟨id, data, hid, _⟩
    cases hid
  cases hcall : called p cached s with
  | none =>
    refine hnone ?_ (hout.idle hcall).sameMirror
    rw [hcall]
    rfl
  | some call =>
    have hbefore : SameMirror s.cpu call.state.cpu := (hout.before call hcall).sameMirror
    have hafter : SameMirror call.result.2.cpu (cpuSupplyClock p cached s).2.cpu :=
      (hout.after call hcall).sameMirror
    have htable := hout.table call hcall
    have hrecord := hout.record call hcall
    by_cases hldsr : call.codeId = .ldsr_9
    · have hexec : call.executor = fun d => Exec.opExecLdsr d.type9 := by
        rw [hldsr] at htable
        exact (Option.some.inj htable).symm
      cases htarget : ldsrTarget call with
      | none =>
        refine hnone ?_ ((hbefore.trans ?_).trans hafter)
        · simp [hcall, ldsrOf, hldsr, htarget]
        · rcases result_ldsr_none hexec hrecord htarget with h | h
          · rw [h]
            exact ⟨rfl, fun _ => rfl⟩
          · rw [h]
            exact ⟨rfl, fun _ => rfl⟩
      | some id =>
        have hof : ldsrOf (called p cached s) = some (id, ldsrData call) := by
          simp [hcall, ldsrOf, hldsr, htarget]
        have hcore : SameMirror (ldsrWrite id (ldsrData call) call.state.cpu)
            call.result.2.cpu := by
          rw [result_ldsr hexec hrecord htarget]
          exact (sameMpu_ldsrCore id _ _).sameMirror
        have hwrite : MirrorWrite id (ldsrData call) call.state.cpu
            (ldsrWrite id (ldsrData call) call.state.cpu) ↔
              ¬ BreaksMirror id (ldsrData call) call.state.cpu :=
          mirrorWrite_iff id (hbefore.mirror.mpr hmirror)
        unfold MirrorClock ClockBreaksMirror
        rw [hof]
        dsimp only
        rw [MirrorWrite.of_same hbefore (hcore.trans hafter), hwrite,
          ← BreaksMirror.of_same hbefore]
        constructor
        · rintro h ⟨id', data', heq, hbreaks⟩
          cases heq
          exact h hbreaks
        · intro h hbreaks
          exact h ⟨id, _, rfl, hbreaks⟩
    · refine hnone ?_ ((hbefore.trans ?_).trans hafter)
      · simp [hcall, ldsrOf, hldsr]
      · exact SameMpu.sameMirror ((keeps_sameMpu hldsr htable call.decodedCode).keeps call.state)

theorem mirror_of_mirrorClock {p : Platform D} {cached : Word → Bool} {s : ClockState D}
    (hmirror : Mirror s.cpu) (h : MirrorClock p cached s) :
    Mirror (cpuSupplyClock p cached s).2.cpu := by
  unfold MirrorClock at h
  split at h
  · exact h.mirror
  · exact h.mirror.mpr hmirror

/-- The loop of `mpu_init` over some regions leaves the other registers. -/
theorem getSysreg2_clearMpat_of_ne (l : List (Fin 16)) (cpu : TargetCore) {id : SysReg}
    (h : ∀ n ∈ l, id ≠ mpat n) :
    (l.foldl (fun cpu index => cpu.setSysreg2 (mpat index) 0) cpu).getSysreg2 id =
      cpu.getSysreg2 id := by
  induction l generalizing cpu with
  | nil => rfl
  | cons n l ih =>
    rw [List.foldl_cons, ih _ fun i hi => h i (List.mem_cons_of_mem n hi)]
    exact getSysreg2_setSysreg2_of_ne _ _ (h n List.mem_cons_self)

/-- What is clear stays clear. -/
theorem getSysreg2_clearMpat_of_eq_zero (l : List (Fin 16)) (cpu : TargetCore) {id : SysReg}
    (h : cpu.getSysreg2 id = 0) :
    (l.foldl (fun cpu index => cpu.setSysreg2 (mpat index) 0) cpu).getSysreg2 id = 0 := by
  induction l generalizing cpu with
  | nil => exact h
  | cons n l ih =>
    rw [List.foldl_cons]
    refine ih _ ?_
    by_cases hid : id = mpat n
    · rw [hid]
      exact getSysreg2_setSysreg2 _ _ _
    · rw [getSysreg2_setSysreg2_of_ne _ _ hid]
      exact h

/-- The loop clears the attributes of its regions. -/
theorem getSysreg2_clearMpat (l : List (Fin 16)) (cpu : TargetCore) {n : Fin 16} (hn : n ∈ l) :
    (l.foldl (fun cpu index => cpu.setSysreg2 (mpat index) 0) cpu).getSysreg2 (mpat n) = 0 := by
  induction l generalizing cpu with
  | nil => cases hn
  | cons m l ih =>
    rw [List.foldl_cons]
    rcases List.mem_cons.mp hn with rfl | hin
    · exact getSysreg2_clearMpat_of_eq_zero l _ (getSysreg2_setSysreg2 _ _ _)
    · exact ih _ hin

theorem mirror_mpuInit (cpu : TargetCore) : Mirror (mpuInit cpu) := by
  intro n
  unfold mpuInit
  extract_lets cpu₁ cpu₂ cpu₃ cpu₄ cpu₅
  have hmcc (id : SysReg) (hid : id ≠ .mcc) :
      (cpu₅.setSysreg2 .mcc 0).getSysreg2 id = cpu₅.getSysreg2 id :=
    getSysreg2_setSysreg2_of_ne _ _ hid
  have hmpat : mpat n ≠ .mcc := by
    revert n
    decide
  have hmprc : cpu₄.getSysreg2 .mprc = 0 := by
    rw [getSysreg2_setSysreg2_of_ne _ _ (by decide), getSysreg2_setSysreg2_of_ne _ _ (by decide)]
    exact getSysreg2_setSysreg2 _ _ _
  rw [hmcc _ (by decide), hmcc _ hmpat,
    getSysreg2_clearMpat_of_ne _ _ fun i _ => mprc_ne_mpat i,
    getSysreg2_clearMpat _ _ (List.mem_finRange n), hmprc]
  simp

theorem mirror_cpuReset (cpu : TargetCore) : Mirror (cpuReset cpu) := by
  have h := mirror_mpuInit (privateCpuReset cpu)
  unfold cpuReset targetMpuInit
  generalize mpuInit (privateCpuReset cpu) = cpu' at h ⊢
  exact h

theorem mirror_invariant (p : Platform D) :
    ((machine p).guarded fun e m => KeepsMirror p e m).Invariant fun m =>
      WellFormed p m ∧ ∀ c, Mirror (m.cores c) := by
  refine ((wellFormed_invariant p).guarded _).strengthen ?_ ?_
  · rintro m ⟨dev, rfl⟩ c
    exact mirror_cpuReset _
  · rintro e m m' hform hmirror ⟨hkeeps, hstep⟩ i
    by_cases he : ∃ c cached, e = .clock c cached
    · obtain ⟨c, cached, rfl⟩ := he
      cases hstep with
      | clock _ _ _ _ =>
        rw [cores_putClockState]
        split_ifs with hi
        · have hclock := (mirrorClock_iff cached (hform.cache c) (hmirror c)).mpr
            (hkeeps c cached rfl)
          exact mirror_of_mirrorClock (hmirror c) hclock
        · exact hmirror i
    · have hsame := (sameUnits_machineStep hstep (fun c cached h => he ⟨c, cached, h⟩) i).toSameMpu
      exact hsame.sameMirror.mirror.mpr (hmirror i)

/-- In every run without an `LDSR` that breaks the mirror, the enable bits agree
on every core, and the next clock does what it should exactly when it executes
no such `LDSR` either. -/
theorem mirror_of_guarded {p : Platform D} {m : Machine D}
    (h : ((machine p).guarded fun e m => KeepsMirror p e m).Reachable m) :
    (∀ c, Mirror (m.cores c)) ∧
      ∀ c cached, MirrorClock p cached (m.clockState c) ↔
        ¬ ClockBreaksMirror p cached (m.clockState c) := by
  obtain ⟨hform, hmirror⟩ := (mirror_invariant p).of_reachable h
  exact ⟨hmirror, fun c cached => mirrorClock_iff cached (hform.cache c) (hmirror c)⟩

/-! ## Programs with and without such a write -/

/-- What a clock writes decides whether it breaks the mirror. -/
theorem not_clockBreaksMirror {p : Platform D} {cached : Word → Bool} {s : ClockState D}
    {write : Option (SysReg × Word)} (hwrite : ldsrOf (called p cached s) = write)
    (h : ∀ w ∈ write, ¬ BreaksMirror w.1 w.2 s.cpu) : ¬ ClockBreaksMirror p cached s := by
  rintro ⟨id, data, hldsr, hbreaks⟩
  exact h (id, data) (hwrite.symm.trans hldsr) hbreaks

/-- Region 1 is enabled in `MPAT1`, for which the hook is right. -/
def mpat1Program : List HalfWord :=
  -- MOVEA 0x80, r0, r1; LDSR r1, MPAT1
  [0x0E20, 0x0080, 0x37E1, 0x3020]

/-- The machine after these instructions. -/
def mpat1Run (n : Nat) : Machine Unit :=
  (Machine.reset ()).clocks (romPlatform mpat1Program) 0 (fun _ => false) n

theorem keepsMirror_mpat1Run (k : Nat) (hk : k < 2) :
    KeepsMirror (romPlatform mpat1Program) (.clock 0 fun _ => false) (mpat1Run k) := by
  intro c cached heq
  cases heq
  obtain rfl | rfl : k = 0 ∨ k = 1 := by omega
  · have hwrite : ldsrOf (called (romPlatform mpat1Program) (fun _ => false)
        ((mpat1Run 0).clockState 0)) = none := by decide +kernel
    exact not_clockBreaksMirror hwrite nofun
  · have hwrite : ldsrOf (called (romPlatform mpat1Program) (fun _ => false)
        ((mpat1Run 1).clockState 0)) = some (mpat 1, 0x80) := by decide +kernel
    refine not_clockBreaksMirror hwrite ?_
    rintro _ ⟨⟩
    unfold BreaksMirror
    decide +kernel

/-- The mirror after the write: region 1 is enabled on both sides. -/
theorem mirror_of_guarded_mpat1 :
    (∀ c, Mirror ((mpat1Run 2).cores c)) ∧
      ((mpat1Run 2).cores 0).getSysreg2 (mpat 1) = 0x80 ∧
      ∀ c cached, MirrorClock (romPlatform mpat1Program) cached ((mpat1Run 2).clockState c) ↔
        ¬ ClockBreaksMirror (romPlatform mpat1Program) cached ((mpat1Run 2).clockState c) := by
  obtain ⟨hmirror, hclock⟩ := mirror_of_guarded (reachable_guardedClocks
    (.init ⟨(), rfl⟩) (by decide +kernel) keepsMirror_mpat1Run)
  exact ⟨hmirror, by decide +kernel, hclock⟩

/-- Region 0 is enabled in `MPAT0`. -/
def enableProgram : List HalfWord :=
  -- MOVEA 0x80, r0, r1; LDSR r1, MPAT0
  [0x0E20, 0x0080, 0x17E1, 0x3020]

/-- After `LDSR` to `MPAT0` region 0 is enabled there and not in `MPRC`. -/
theorem not_mirror_enable :
    ∃ m, (machine (romPlatform enableProgram)).Reachable m ∧ ¬ Mirror (m.cores 0) := by
  refine ⟨(Machine.reset ()).clocks (romPlatform enableProgram) 0 (fun _ => false) 2,
    reachable_clocks (reachable_reset _ ()) (by decide +kernel), fun h => ?_⟩
  have hbit := h 0
  revert hbit
  decide +kernel

end Athrill
