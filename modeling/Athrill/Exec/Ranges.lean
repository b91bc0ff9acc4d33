import Athrill.Exec.Frames

/-!
# Register ranges on the stack

`PUSHSP` stores the registers from `rh` to `rt` below the aligned stack pointer
and `POPSP` loads them from `rt` down to `rh`.  The counter of `POPSP` is
unsigned: with `rh = 0` its loop does not stop at register 0.

* `rangeRegs`: the registers of a range.
* `run_pushspLoop`, `run_popspLoop`: the loops as `push` and `pop`.
* `RangeCorrect`, `range_exact`: when `POPSP` undoes `PUSHSP`.
-/

namespace Athrill

open TargetCore Routine ByteMemory

namespace Exec

variable {D : Type}

/-! ## The registers -/

/-- The `n` registers from `cur` on. -/
def rangeRegs (cur n : Nat) : List (Fin 32) :=
  (List.range' cur n).map (Fin.ofNat 32)

section RangeRegs

variable {cur n : Nat}

theorem length_rangeRegs : (rangeRegs cur n).length = n := by
  unfold rangeRegs
  rw [List.length_map, List.length_range']

theorem rangeRegs_succ (h : cur < 32) :
    rangeRegs cur (n + 1) = ⟨cur, h⟩ :: rangeRegs (cur + 1) n := by
  have hcur : Fin.ofNat 32 cur = ⟨cur, h⟩ := Fin.ext (Nat.mod_eq_of_lt h)
  unfold rangeRegs
  rw [List.range'_succ, List.map_cons, hcur]

theorem reverse_rangeRegs_succ (h : cur + n < 32) :
    (rangeRegs cur (n + 1)).reverse = ⟨cur + n, h⟩ :: (rangeRegs cur n).reverse := by
  have hlast : Fin.ofNat 32 (cur + n) = ⟨cur + n, h⟩ := Fin.ext (Nat.mod_eq_of_lt h)
  unfold rangeRegs
  rw [List.range'_1_concat, List.map_append, List.reverse_append, List.map_singleton, hlast]
  rfl

theorem mem_rangeRegs (h : cur + n ≤ 32) {i : Fin 32} :
    i ∈ rangeRegs cur n ↔ cur ≤ i.val ∧ i.val < cur + n := by
  unfold rangeRegs
  rw [List.mem_map]
  constructor
  · rintro ⟨k, hk, rfl⟩
    rw [List.mem_range'_1] at hk
    show cur ≤ k % 32 ∧ k % 32 < cur + n
    omega
  · intro hi
    exact ⟨i.val, List.mem_range'_1.mpr hi, Fin.ext (Nat.mod_eq_of_lt i.isLt)⟩

theorem rangeRegs_nodup (h : cur + n ≤ 32) : (rangeRegs cur n).Nodup := by
  refine List.Nodup.map_on ?_ List.nodup_range'
  intro j hj k hk heq
  rw [List.mem_range'_1] at hj hk
  have hval : j % 32 = k % 32 := congrArg Fin.val heq
  omega

end RangeRegs

/-! ## The loops -/

theorem toNat_below_mod {top : Word} (h : top.toNat % 4 = 0) (k : Nat) :
    (below top k).toNat % 4 = 0 := by
  unfold below
  rw [BitVec.toNat_sub, BitVec.toNat_ofNat]
  omega

/-- An aligned address has its low two bits cleared. -/
theorem aligned_of_mod {x : Word} (h : x.toNat % 4 = 0) : x &&& 0xFFFFFFFC#32 = x := by
  have hmask : ∀ j : Fin 32, (0xFFFFFFFC#32).getLsbD j.val = decide (2 ≤ j.val) := by decide
  apply BitVec.eq_of_getLsbD_eq
  intro i hi
  rw [BitVec.getLsbD_and, hmask ⟨i, hi⟩]
  by_cases h2 : 2 ≤ i
  · rw [decide_eq_true h2, Bool.and_true]
  · have hbit : x.getLsbD i = (x.toNat % 2 ^ 2).testBit i := by
      rw [Nat.testBit_mod_two_pow, decide_eq_true (show i < 2 by omega), Bool.true_and]
      rfl
    rw [hbit, show x.toNat % 2 ^ 2 = 0 from h, Nat.zero_testBit, Bool.false_and]

theorem toNat_aligned_mod (x : Word) : (x &&& 0xFFFFFFFC#32).toNat % 4 = 0 := by
  have hzero : x &&& 0xFFFFFFFC#32 &&& 3#32 = 0#32 := by
    rw [BitVec.and_assoc]
    exact BitVec.and_zero
  have hmod : (x &&& 0xFFFFFFFC#32 &&& 3#32).toNat = (x &&& 0xFFFFFFFC#32).toNat % 4 := by
    rw [BitVec.toNat_and]
    exact Nat.and_two_pow_sub_one_eq_mod _ 2
  rw [← hmod, hzero]
  rfl

section Loops

variable {bus : Bus D} {ram : Ram D} (hram : RamContract bus ram)
include hram

theorem run_pushspLoop {n cur : Nat} (hcur : cur + n ≤ 32) {tmpSp : Word} {s : CpuState D}
    (halign : tmpSp.toNat % 4 = 0) (hpermits : StackPermits ram s.cpu tmpSp n) :
    ∃ s', (pushspLoop bus n cur tmpSp).run s = (.ok (below tmpSp n), s') ∧
      s'.cpu.r = s.cpu.r ∧ s'.cpu.realElaps = s.cpu.realElaps + BitVec.ofNat 32 n ∧
      ram.mem s'.dev = push (ram.mem s.dev) tmpSp ((rangeRegs cur n).map s.cpu.r) ∧
      SameProtection s.cpu s'.cpu := by
  induction n generalizing cur tmpSp s with
  | zero =>
    refine ⟨s, ?_, rfl, ?_, rfl, .refl _⟩
    · rw [below_zero]
      rfl
    · exact (BitVec.add_zero _).symm
  | succ n ih =>
    have hlt : cur < 32 := by omega
    obtain ⟨s₁, hput, hs₁⟩ := run_access ram
      (fun s' => bus.putData32 s' (below tmpSp 1) (s.cpu.r ⟨cur, hlt⟩))
      (hram.put32 s _ _ ⟨toNat_below_mod halign 1, hpermits.inside 0 (Nat.succ_pos _),
        hpermits.write 0 (Nat.succ_pos _)⟩)
    have hprotection₁ : SameProtection s.cpu
        { s₁.cpu with realElaps := s₁.cpu.realElaps + 1 } :=
      hs₁.protection.trans ⟨rfl, ⟨_, rfl⟩⟩
    obtain ⟨s', hloop, hr, helaps, hmem, hprotection⟩ :=
      ih (s := { s₁ with cpu := { s₁.cpu with realElaps := s₁.cpu.realElaps + 1 } })
        (show cur + 1 + n ≤ 32 by omega) (toNat_below_mod halign 1)
        (hpermits.rest.congr hprotection₁)
    refine ⟨s', ?_, ?_, ?_, ?_, hprotection₁.trans hprotection⟩
    · unfold pushspLoop
      rw [run_bind, run_getR hlt, andThen_ok]
      show (busPutData32 bus (below tmpSp 1) (s.cpu.r ⟨cur, hlt⟩) >>= fun _ => _).run s = _
      unfold busPutData32
      rw [run_bind, hput, andThen_ok]
      refine hloop.trans ?_
      rw [below_below, Nat.add_comm]
    · exact hr.trans hs₁.r
    · rw [helaps]
      show s₁.cpu.realElaps + 1 + BitVec.ofNat 32 n = _
      rw [hs₁.elaps, BitVec.add_assoc, Nat.add_comm n 1, BitVec.ofNat_add]
      rfl
    · rw [hmem, rangeRegs_succ hlt, List.map_cons]
      show push (ram.mem s₁.dev) (below tmpSp 1) ((rangeRegs (cur + 1) n).map s₁.cpu.r) = _
      rw [hs₁.r, hs₁.mem]
      rfl

theorem run_popspLoop {n cur rh : Nat} (hcur : 0 < n → cur + 1 = rh + n) (hlt : cur < 32)
    {tmpSp : Word} {s : CpuState D}
    (hread : ∀ k, k < n → ram.Permits .read s.cpu (tmpSp + BitVec.ofNat 32 (4 * k)) 4) :
    ∃ s', (popspLoop bus n cur tmpSp).run s = (.ok (tmpSp + BitVec.ofNat 32 (4 * n)), s') ∧
      s'.cpu.r = pop (ram.mem s.dev) tmpSp (rangeRegs rh n).reverse s.cpu.r ∧
      s'.cpu.realElaps = s.cpu.realElaps + BitVec.ofNat 32 n ∧
      ram.mem s'.dev = ram.mem s.dev := by
  induction n generalizing cur tmpSp s with
  | zero =>
    refine ⟨s, ?_, rfl, (BitVec.add_zero _).symm, rfl⟩
    show (Except.ok tmpSp, s) = (Except.ok (tmpSp + 0#32), s)
    rw [BitVec.add_zero]
  | succ n ih =>
    have heq : cur = rh + n := by
      have hstep := hcur (Nat.succ_pos n)
      omega
    have hfirst := hread 0 (Nat.succ_pos n)
    have hzero : tmpSp + BitVec.ofNat 32 (4 * 0) = tmpSp := BitVec.add_zero _
    rw [hzero] at hfirst
    obtain ⟨s₁, hget, hs₁⟩ := run_access ram (fun s => bus.getData32 s tmpSp)
      (hram.get32 s tmpSp hfirst)
    have hplace : ∀ k, tmpSp + 4 + BitVec.ofNat 32 (4 * k) =
        tmpSp + BitVec.ofNat 32 (4 * (k + 1)) := by
      intro k
      rw [BitVec.add_assoc, Nat.mul_add, Nat.add_comm, BitVec.ofNat_add]
      rfl
    obtain ⟨s₂, hs₂⟩ : ∃ x : CpuState D, { s₁ with cpu := { s₁.cpu with
        r := Function.update s₁.cpu.r ⟨cur, hlt⟩ (loadWord (ram.mem s.dev) tmpSp)
        realElaps := s₁.cpu.realElaps + 1 } } = x := ⟨_, rfl⟩
    have hprotection : SameProtection s.cpu s₂.cpu := by
      rw [← hs₂]
      exact hs₁.protection.trans ⟨rfl, ⟨_, rfl⟩⟩
    have hmem₂ : ram.mem s₂.dev = ram.mem s.dev := by
      rw [← hs₂]
      exact hs₁.mem
    have hr₂ : s₂.cpu.r = Function.update s.cpu.r ⟨cur, hlt⟩ (loadWord (ram.mem s.dev) tmpSp) := by
      rw [← hs₂, ← hs₁.r]
    have helaps₂ : s₂.cpu.realElaps = s.cpu.realElaps + 1 := by
      rw [← hs₂, ← hs₁.elaps]
    have hread₂ : ∀ k, k < n →
        ram.Permits .read s₂.cpu (tmpSp + 4 + BitVec.ofNat 32 (4 * k)) 4 := by
      intro k hk
      rw [hplace]
      obtain ⟨haligned, hinside, hgranted⟩ := hread (k + 1) (Nat.succ_lt_succ hk)
      exact ⟨haligned, hinside, (hprotection.granted _ _ _).trans hgranted⟩
    obtain ⟨s', hloop, hr, helaps, hmem⟩ :=
      ih (show 0 < n → cur - 1 + 1 = rh + n by omega) (by omega) hread₂
    refine ⟨s', ?_, ?_, ?_, hmem.trans hmem₂⟩
    · unfold popspLoop busGetData32
      rw [run_bind, hget, andThen_ok]
      show (setR cur (loadWord (ram.mem s.dev) tmpSp) >>= fun _ => _).run s₁ = _
      rw [run_bind, run_setR hlt, andThen_ok, run_bind]
      show (popspLoop bus n (cur - 1) (tmpSp + 4)).run { s₁ with cpu := { s₁.cpu with
        r := Function.update s₁.cpu.r ⟨cur, hlt⟩ (loadWord (ram.mem s.dev) tmpSp)
        realElaps := s₁.cpu.realElaps + 1 } } = _
      rw [hs₂, hloop, hplace]
    · subst heq
      rw [hr, hmem₂, hr₂, reverse_rangeRegs_succ hlt]
      rfl
    · rw [helaps, helaps₂, BitVec.add_assoc, Nat.add_comm n 1, BitVec.ofNat_add]
      rfl

end Loops

/-! ## The executors -/

/-- The number of registers from `rh` to `rt`. -/
def rangeLength (d : OpCodeFormatType11) : Nat :=
  d.reg3.toNat + 1 - d.reg1.toNat

section Executors

variable {bus : Bus D} {ram : Ram D} (hram : RamContract bus ram) {d : OpCodeFormatType11}
  (hle : d.reg1.toNat ≤ d.reg3.toNat) (hlt : d.reg3.toNat < 32) {s : CpuState D}
include hram hle hlt

theorem run_pushsp {top : Word} (htop : s.cpu.r 3 &&& 0xFFFFFFFC#32 = top)
    (hpermits : StackPermits ram s.cpu top (rangeLength d)) :
    ∃ s', (opExecPushsp11 bus d).run s = (.ok (), s') ∧
      s'.cpu.r = Function.update s.cpu.r 3 (below top (rangeLength d)) ∧
      s'.cpu.realElaps = s.cpu.realElaps + BitVec.ofNat 32 (rangeLength d) ∧
      ram.mem s'.dev =
        push (ram.mem s.dev) top ((rangeRegs d.reg1.toNat (rangeLength d)).map s.cpu.r) ∧
      SameProtection s.cpu s'.cpu := by
  have hnot : ¬ d.reg3.toNat < d.reg1.toNat := by omega
  have hfit : d.reg1.toNat + rangeLength d ≤ 32 := by
    unfold rangeLength
    omega
  obtain ⟨s₁, hloop, hr, helaps, hmem, hprotection⟩ :=
    run_pushspLoop hram hfit (htop ▸ toNat_aligned_mod _) hpermits
  refine ⟨{ s₁ with cpu := { s₁.cpu with
    r := Function.update s₁.cpu.r 3 (below top (rangeLength d))
    pc := s₁.cpu.pc + 4 } }, ?_, ?_, helaps, hmem, hprotection.trans ⟨rfl, ⟨_, rfl⟩⟩⟩
  · unfold opExecPushsp11
    rw [if_neg hnot, run_bind, run_getSp, andThen_ok, htop]
    show (pushspLoop bus (rangeLength d) d.reg1.toNat top >>= fun _ => _).run s = _
    rw [run_bind, hloop, andThen_ok, run_bind, run_setSp, andThen_ok]
    rfl
  · show Function.update s₁.cpu.r 3 _ = _
    rw [hr]

theorem run_popsp {top : Word} (hsp : s.cpu.r 3 = below top (rangeLength d))
    (halign : top.toNat % 4 = 0) (hpermits : StackPermits ram s.cpu top (rangeLength d)) :
    ∃ s', (opExecPopsp11 bus d).run s =
        (if d.reg1.toNat = 0 then (.error .undefined, s') else (.ok (), s')) ∧
      (d.reg1.toNat ≠ 0 → s'.cpu.r = Function.update (pop (ram.mem s.dev)
          (below top (rangeLength d)) (rangeRegs d.reg1.toNat (rangeLength d)).reverse s.cpu.r)
          3 top ∧
        s'.cpu.realElaps = s.cpu.realElaps + BitVec.ofNat 32 (rangeLength d)) := by
  obtain ⟨n, hn⟩ : ∃ n, rangeLength d = n := ⟨_, rfl⟩
  rw [hn] at hsp hpermits ⊢
  have hlength : d.reg3.toNat + 1 - d.reg1.toNat = n := hn
  have hnot : ¬ d.reg3.toNat < d.reg1.toNat := by omega
  have haligned : s.cpu.r 3 &&& 0xFFFFFFFC#32 = below top n := by
    rw [hsp]
    exact aligned_of_mod (toNat_below_mod halign n)
  have hread : ∀ k, k < n →
      ram.Permits .read s.cpu (below top n + BitVec.ofNat 32 (4 * k)) 4 := by
    intro k hk
    have hplace : below top n + BitVec.ofNat 32 (4 * k) = below top (n - k - 1 + 1) := by
      rw [below_add top (by omega)]
      congr 1
      omega
    rw [hplace]
    exact ⟨toNat_below_mod halign _, hpermits.inside _ (by omega), hpermits.read _ (by omega)⟩
  have htop : below top n + BitVec.ofNat 32 (4 * n) = top := by
    rw [below_add top (Nat.le_refl n), Nat.sub_self, below_zero]
  obtain ⟨s₁, hloop, hr, helaps, hmem⟩ :=
    run_popspLoop hram (show 0 < n → d.reg3.toNat + 1 = d.reg1.toNat + n by omega) hlt hread
  rw [htop] at hloop
  by_cases hzero : d.reg1.toNat = 0
  · refine ⟨s₁, ?_, fun hne => absurd hzero hne⟩
    unfold opExecPopsp11
    rw [if_neg hnot, run_bind, run_getSp, andThen_ok, haligned, hlength, run_bind, hloop,
      andThen_ok, if_pos hzero, if_pos hzero]
    rfl
  · refine ⟨{ s₁ with cpu := { s₁.cpu with
      r := Function.update s₁.cpu.r 3 top
      pc := s₁.cpu.pc + 4 } }, ?_, fun _ => ⟨?_, helaps⟩⟩
    · unfold opExecPopsp11
      rw [if_neg hnot, run_bind, run_getSp, andThen_ok, haligned, hlength, run_bind, hloop,
        andThen_ok, if_neg hzero, if_neg hzero]
      show ((pure () : Exec D Unit) >>= fun _ => setR cpuRegSp top >>= fun _ => addPc 4).run s₁ = _
      rw [run_bind, run_pure, andThen_ok, run_bind, run_setSp, andThen_ok]
      rfl
    · show Function.update s₁.cpu.r 3 top = _
      rw [hr]

end Executors

/-! ## Both instructions -/

/-- A register that code between the instructions may change. -/
def InRange (d : OpCodeFormatType11) (i : Fin 32) : Prop :=
  d.reg1.toNat ≤ i.val ∧ i.val ≤ d.reg3.toNat ∧ i ≠ 3

/-- `PUSHSP` and `POPSP` of a range transfer each register once and undo each
other; an empty range is skipped. -/
structure RangeCorrect (bus : Bus D) (d d' : OpCodeFormatType11) (s : CpuState D) : Prop where
  empty : d.reg3.toNat < d.reg1.toNat →
    (opExecPushsp11 bus d).run s =
        (.ok (), { s with cpu := { s.cpu with pc := s.cpu.pc + 4 } }) ∧
      (opExecPopsp11 bus d').run s =
        (.ok (), { s with cpu := { s.cpu with pc := s.cpu.pc + 4 } })
  restored : d.reg1.toNat ≤ d.reg3.toNat →
    ∃ s₁, (opExecPushsp11 bus d).run s = (.ok (), s₁) ∧
      s₁.cpu.realElaps = s.cpu.realElaps + BitVec.ofNat 32 (rangeLength d) ∧
      ∀ r : Fin 32 → Word, (∀ i, ¬ InRange d i → r i = s₁.cpu.r i) →
        ∃ s₂, (opExecPopsp11 bus d').run { s₁ with cpu := { s₁.cpu with r := r } } =
            (.ok (), s₂) ∧
          s₂.cpu.realElaps = s₁.cpu.realElaps + BitVec.ofNat 32 (rangeLength d) ∧
          (∀ i, i ≠ 3 → s₂.cpu.r i = s.cpu.r i) ∧
          s₂.cpu.r 3 = s.cpu.r 3 &&& 0xFFFFFFFC#32

/-- The instructions undo each other unless the range starts at register 0. -/
theorem range_exact {bus : Bus D} {ram : Ram D} (hram : RamContract bus ram)
    {d d' : OpCodeFormatType11} (hrh : d'.reg1 = d.reg1) (hrt : d'.reg3 = d.reg3)
    (hlt : d.reg3.toNat < 32) {s : CpuState D}
    (hpermits : StackPermits ram s.cpu (s.cpu.r 3 &&& 0xFFFFFFFC#32) (rangeLength d)) :
    RangeCorrect bus d d' s ↔ d.reg1.toNat ≠ 0 := by
  have hlength : rangeLength d' = rangeLength d := by
    unfold rangeLength
    rw [hrh, hrt]
  have hlt' : d'.reg3.toNat < 32 := by
    rw [hrt]
    exact hlt
  -- what `POPSP` does after `PUSHSP`, whatever the registers are
  have hpair : d.reg1.toNat ≤ d.reg3.toNat → ∃ s₁, (opExecPushsp11 bus d).run s = (.ok (), s₁) ∧
      s₁.cpu.r = Function.update s.cpu.r 3
        (below (s.cpu.r 3 &&& 0xFFFFFFFC#32) (rangeLength d)) ∧
      s₁.cpu.realElaps = s.cpu.realElaps + BitVec.ofNat 32 (rangeLength d) ∧
      ∀ r : Fin 32 → Word, r 3 = s₁.cpu.r 3 →
        ∃ s₂, (opExecPopsp11 bus d').run { s₁ with cpu := { s₁.cpu with r := r } } =
            (if d.reg1.toNat = 0 then (.error .undefined, s₂) else (.ok (), s₂)) ∧
          (d.reg1.toNat ≠ 0 →
            s₂.cpu.realElaps = s₁.cpu.realElaps + BitVec.ofNat 32 (rangeLength d) ∧
            s₂.cpu.r 3 = s.cpu.r 3 &&& 0xFFFFFFFC#32 ∧
            ∀ i, i ≠ 3 → s₂.cpu.r i =
              if i ∈ rangeRegs d.reg1.toNat (rangeLength d) then s.cpu.r i else r i) := by
    intro hle
    obtain ⟨top, htop⟩ : ∃ x, s.cpu.r 3 &&& 0xFFFFFFFC#32 = x := ⟨_, rfl⟩
    rw [htop] at hpermits ⊢
    have hfit : d.reg1.toNat + rangeLength d ≤ 32 := by
      unfold rangeLength
      omega
    obtain ⟨s₁, hpush, hr, helaps, hmem, hprotection⟩ := run_pushsp hram hle hlt htop hpermits
    refine ⟨s₁, hpush, hr, helaps, ?_⟩
    intro r hsp
    have hpermits' : StackPermits ram { s₁.cpu with r := r } top (rangeLength d') := by
      rw [hlength]
      exact hpermits.congr (hprotection.trans ⟨rfl, ⟨_, rfl⟩⟩)
    have hstart : r 3 = below top (rangeLength d') := by
      rw [hsp, hr, Function.update_self, hlength]
    obtain ⟨s₂, hrun, hs₂⟩ := run_popsp hram (d := d')
      (s := { s₁ with cpu := { s₁.cpu with r := r } }) (by rw [hrh, hrt]; exact hle) hlt' hstart
      (htop ▸ toNat_aligned_mod _) hpermits'
    rw [hrh] at hrun hs₂
    rw [hlength] at hs₂
    refine ⟨s₂, hrun, ?_⟩
    intro hne
    obtain ⟨hr₂, helaps₂⟩ := hs₂ hne
    have hlen : (rangeRegs d.reg1.toNat (rangeLength d)).length = rangeLength d :=
      length_rangeRegs
    have hpop := pop_push (rangeRegs_nodup hfit) (by rw [hlen]; omega) (ram.mem s.dev) top
      s.cpu.r r
    rw [hlen] at hpop
    refine ⟨helaps₂, ?_, ?_⟩
    · rw [hr₂, Function.update_self]
    · intro i hi
      rw [hr₂, Function.update_of_ne hi]
      show pop (ram.mem s₁.dev) _ _ r i = _
      rw [hmem, hpop]
  constructor
  · intro h hzero
    have hle : d.reg1.toNat ≤ d.reg3.toNat := by omega
    obtain ⟨s₁, hpush, -, -, hpop⟩ := hpair hle
    obtain ⟨s₁', hpush', -, hpop'⟩ := h.restored hle
    rw [hpush] at hpush'
    cases hpush'
    obtain ⟨s₂, hrun, -⟩ := hpop s₁.cpu.r rfl
    obtain ⟨s₂', hrun', -⟩ := hpop' s₁.cpu.r fun _ _ => rfl
    rw [hrun, if_pos hzero] at hrun'
    cases hrun'
  · intro hne
    refine ⟨?_, ?_⟩
    · intro hempty
      have hempty' : d'.reg3.toNat < d'.reg1.toNat := by
        rw [hrh, hrt]
        exact hempty
      unfold opExecPushsp11 opExecPopsp11
      rw [if_pos hempty, if_pos hempty']
      exact ⟨rfl, rfl⟩
    · intro hle
      obtain ⟨s₁, hpush, hr, helaps, hpop⟩ := hpair hle
      refine ⟨s₁, hpush, helaps, ?_⟩
      intro r hkept
      have hsp : r 3 = s₁.cpu.r 3 := hkept 3 fun h => h.2.2 rfl
      obtain ⟨s₂, hrun, hs₂⟩ := hpop r hsp
      obtain ⟨helaps₂, hsp₂, hregs₂⟩ := hs₂ hne
      rw [if_neg hne] at hrun
      refine ⟨s₂, hrun, helaps₂, ?_, hsp₂⟩
      intro i hi
      rw [hregs₂ i hi]
      split_ifs with hmem
      · rfl
      · have hfit : d.reg1.toNat + rangeLength d ≤ 32 := by
          unfold rangeLength
          omega
        have hout : ¬ InRange d i := by
          rintro ⟨hlo, hhi, -⟩
          refine hmem ((mem_rangeRegs hfit).mpr ⟨hlo, ?_⟩)
          unfold rangeLength
          omega
        rw [hkept i hout, hr, Function.update_of_ne hi]

/-- `PUSHSP r20-r22` and `POPSP r20-r22` have the same range. -/
def rangeCode : OpCodeFormatType11 :=
  opDecode11 fun n => [0x47F4, 0xB160].getD n 0

theorem range_exact_reset :
    RangeCorrect ramBus rangeCode rangeCode stackState ↔ rangeCode.reg1.toNat ≠ 0 := by
  have happlied : mpuApplied stackState.cpu = false := by decide +kernel
  exact range_exact ramContract_ramBus rfl rfl (by decide)
    (stackPermits_wholeRam happlied _ _)

/-- The range from register 0 to register 0. -/
def rangeFromZero : OpCodeFormatType11 :=
  opDecode11 fun n => [0x47E0, 0x0160].getD n 0

/-- `POPSP` does not return for a range that starts at register 0. -/
theorem popsp_from_zero : ¬ RangeCorrect ramBus rangeFromZero rangeFromZero stackState := by
  intro h
  obtain ⟨s₁, hpush, -, hpop⟩ := h.restored (by decide)
  have hs₁ : s₁ = ((opExecPushsp11 ramBus rangeFromZero).run stackState).2 :=
    (congrArg Prod.snd hpush).symm
  obtain ⟨s₂, hrun, -⟩ := hpop s₁.cpu.r fun _ _ => rfl
  have hstuck : ((opExecPopsp11 ramBus rangeFromZero).run
      ((opExecPushsp11 ramBus rangeFromZero).run stackState).2).1 = .error .undefined := by
    decide +kernel
  rw [← hs₁] at hstuck
  have hdone : ((opExecPopsp11 ramBus rangeFromZero).run s₁).1 = .ok () :=
    congrArg Prod.fst hrun
  rw [hstuck] at hdone
  cases hdone

end Exec

end Athrill
