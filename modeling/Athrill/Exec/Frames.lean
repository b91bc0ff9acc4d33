import Athrill.Dec.Extended
import Athrill.Exec.Ram

/-!
# Stack frames

`PREPARE` stores the registers of its list below the stack pointer and makes
room for locals; `DISPOSE` frees the room and loads the registers.  They visit
the list in opposite orders.

* `StackPermits`: the RAM below the stack pointer.
* `run_prepareLoop`, `run_disposeLoop`: the loops as `push` and `pop`.
* `frame_restored`: `DISPOSE` undoes `PREPARE`.
-/

namespace Athrill

open TargetCore Routine ByteMemory

variable {D : Type}

/-- The `n` words below `top` are RAM that can be written and read. -/
structure StackPermits (ram : Ram D) (cpu : TargetCore) (top : Word) (n : Nat) : Prop where
  inside : ∀ k, k < n → ram.inside (below top (k + 1)) 4
  write : ∀ k, k < n → (targetMpuHasPermission cpu .write (below top (k + 1)) 4).1 = true
  read : ∀ k, k < n → (targetMpuHasPermission cpu .read (below top (k + 1)) 4).1 = true

namespace StackPermits

variable {ram : Ram D} {cpu cpu' : TargetCore} {top : Word} {n : Nat}

theorem congr (h : StackPermits ram cpu top n) (hprotection : SameProtection cpu cpu') :
    StackPermits ram cpu' top n where
  inside := h.inside
  write k hk := (hprotection.granted _ _ _).trans (h.write k hk)
  read k hk := (hprotection.granted _ _ _).trans (h.read k hk)

/-- The words below the first one. -/
theorem rest (h : StackPermits ram cpu top (n + 1)) : StackPermits ram cpu (below top 1) n := by
  have hplace : ∀ k, below (below top 1) (k + 1) = below top (k + 1 + 1) := by
    intro k
    rw [below_below, Nat.add_comm]
  refine ⟨?_, ?_, ?_⟩
  · intro k hk
    rw [hplace]
    exact h.inside (k + 1) (by omega)
  · intro k hk
    rw [hplace]
    exact h.write (k + 1) (by omega)
  · intro k hk
    rw [hplace]
    exact h.read (k + 1) (by omega)

end StackPermits

namespace Exec

variable {bus : Bus D} {ram : Ram D}

/-! ## The passes of the loops -/

/-- `prepareStore` for a register of the list. -/
abbrev prepareOne (bus : Bus D) (i : Fin 32) : Exec D Unit := do
  let sp ← getR cpuRegSp
  let addr := sp - 4
  let granted ← hasPermission .write addr 4
  failIf (granted = false)
  let data ← getR i.val
  busStorePointer bus addr data
  setR cpuRegSp addr
  addElaps 1

/-- `disposeLoad` for a register of the list. -/
abbrev disposeOne (bus : Bus D) (i : Fin 32) : Exec D Unit := do
  let addr ← getR cpuRegSp
  let granted ← hasPermission .read addr 4
  failIf (granted = false)
  let addrp ← busGetPointer bus addr
  setR i.val (pointer32 addrp)
  setR cpuRegSp (addr + 4)
  addElaps 1

section Passes

variable (hram : RamContract bus ram) (i : Fin 32) {s : CpuState D}
include hram

theorem run_prepareOne (hinside : ram.inside (below (s.cpu.r 3) 1) 4)
    (hgranted : (targetMpuHasPermission s.cpu .write (below (s.cpu.r 3) 1) 4).1 = true) :
    ∃ s', (prepareOne bus i).run s = (.ok (), s') ∧
      s'.cpu.r = Function.update s.cpu.r 3 (below (s.cpu.r 3) 1) ∧
      ram.mem s'.dev = storeWord (ram.mem s.dev) (below (s.cpu.r 3) 1) (s.cpu.r i) ∧
      SameProtection s.cpu s'.cpu := by
  obtain ⟨s₁, hcheck, hs₁⟩ := run_hasPermission ram hgranted
  obtain ⟨s₂, hstore, hs₂⟩ := run_storePointer hram (s := s₁) (s.cpu.r i) hinside
  have hget : (getR i.val).run s₁ = (.ok (s.cpu.r i), s₁) := by
    rw [run_getR i.isLt, hs₁.r]
  refine ⟨{ s₂ with cpu := { s₂.cpu with
    r := Function.update s₂.cpu.r 3 (below (s.cpu.r 3) 1)
    realElaps := s₂.cpu.realElaps + 1 } }, ?_, ?_, ?_, ?_⟩
  · unfold prepareOne
    rw [run_bind, run_getSp, andThen_ok]
    show ((hasPermission .write (below (s.cpu.r 3) 1) 4) >>= fun _ => _).run s = _
    rw [run_bind, hcheck, andThen_ok, run_bind, run_failIf (by decide), andThen_ok, run_bind, hget,
      andThen_ok]
    show ((busStorePointer bus (below (s.cpu.r 3) 1) (s.cpu.r i)) >>= fun _ => _).run s₁ = _
    rw [run_bind, hstore, andThen_ok, run_bind, run_setSp, andThen_ok]
    rfl
  · rw [hs₂.r, hs₁.r]
  · rw [hs₂.mem, hs₁.mem]
  · exact (hs₁.protection.trans hs₂.protection).trans ⟨rfl, ⟨_, rfl⟩⟩

theorem run_disposeOne (hinside : ram.inside (s.cpu.r 3) 4)
    (hgranted : (targetMpuHasPermission s.cpu .read (s.cpu.r 3) 4).1 = true) :
    ∃ s', (disposeOne bus i).run s = (.ok (), s') ∧
      s'.cpu.r = Function.update
        (Function.update s.cpu.r i (loadWord (ram.mem s.dev) (s.cpu.r 3))) 3 (s.cpu.r 3 + 4) ∧
      ram.mem s'.dev = ram.mem s.dev ∧ SameProtection s.cpu s'.cpu := by
  obtain ⟨s₁, hcheck, hs₁⟩ := run_hasPermission ram hgranted
  obtain ⟨bytes, s₂, hpointer, hs₂, hword⟩ := run_pointer hram (s := s₁) hinside
  refine ⟨{ s₂ with cpu := { s₂.cpu with
    r := Function.update (Function.update s₂.cpu.r i (pointer32 bytes)) 3 (s.cpu.r 3 + 4)
    realElaps := s₂.cpu.realElaps + 1 } }, ?_, ?_, ?_, ?_⟩
  · unfold disposeOne
    rw [run_bind, run_getSp, andThen_ok, run_bind, hcheck, andThen_ok, run_bind,
      run_failIf (by decide), andThen_ok, run_bind, hpointer, andThen_ok, run_bind,
      run_setR i.isLt, andThen_ok, run_bind, run_setSp, andThen_ok]
    rfl
  · rw [hs₂.r, hs₁.r, hword, hs₁.mem]
  · rw [hs₂.mem, hs₁.mem]
  · exact (hs₁.protection.trans hs₂.protection).trans ⟨rfl, ⟨_, rfl⟩⟩

end Passes

/-! ## The loops -/

section Loops

variable (hram : RamContract bus ram) {s : CpuState D}
include hram

theorem run_prepareLoop {regs : List (Fin 32)} (hsp : 3 ∉ regs)
    (hpermits : StackPermits ram s.cpu (s.cpu.r 3) regs.length) :
    ∃ s', (regs.forM (prepareOne bus)).run s = (.ok (), s') ∧
      s'.cpu.r = Function.update s.cpu.r 3 (below (s.cpu.r 3) regs.length) ∧
      ram.mem s'.dev = push (ram.mem s.dev) (s.cpu.r 3) (regs.map s.cpu.r) ∧
      SameProtection s.cpu s'.cpu := by
  induction regs generalizing s with
  | nil =>
    refine ⟨s, rfl, ?_, rfl, .refl _⟩
    rw [List.length_nil, below_zero, Function.update_eq_self]
  | cons i regs ih =>
    obtain ⟨hne, hrest⟩ := List.ne_and_not_mem_of_not_mem_cons hsp
    obtain ⟨s₁, hone, hr, hmem, hprotection⟩ := run_prepareOne hram i
      (hpermits.inside 0 (Nat.succ_pos _)) (hpermits.write 0 (Nat.succ_pos _))
    have hsp₁ : s₁.cpu.r 3 = below (s.cpu.r 3) 1 := by
      rw [hr, Function.update_self]
    have hmap : regs.map s₁.cpu.r = regs.map s.cpu.r := by
      refine List.map_congr_left fun j hj => ?_
      have hj3 : j ≠ 3 := fun h => hrest (h ▸ hj)
      rw [hr, Function.update_of_ne hj3]
    have hpermits₁ : StackPermits ram s₁.cpu (s₁.cpu.r 3) regs.length := by
      rw [hsp₁]
      exact hpermits.rest.congr hprotection
    obtain ⟨s', hloop, hr', hmem', hprotection'⟩ := ih hrest hpermits₁
    refine ⟨s', ?_, ?_, ?_, hprotection.trans hprotection'⟩
    · show (prepareOne bus i >>= fun _ => regs.forM (prepareOne bus)).run s = _
      rw [run_bind, hone, andThen_ok]
      exact hloop
    · rw [hr', hsp₁, hr, Function.update_idem, below_below, Nat.add_comm]
      rfl
    · rw [hmem', hsp₁, hmap, hmem]
      rfl

theorem run_disposeLoop {regs : List (Fin 32)} (hsp : 3 ∉ regs)
    (hinside : ∀ k, k < regs.length → ram.inside (s.cpu.r 3 + BitVec.ofNat 32 (4 * k)) 4)
    (hread : ∀ k, k < regs.length →
      (targetMpuHasPermission s.cpu .read (s.cpu.r 3 + BitVec.ofNat 32 (4 * k)) 4).1 = true) :
    ∃ s', (regs.forM (disposeOne bus)).run s = (.ok (), s') ∧
      s'.cpu.r = Function.update (pop (ram.mem s.dev) (s.cpu.r 3) regs s.cpu.r) 3
        (s.cpu.r 3 + BitVec.ofNat 32 (4 * regs.length)) ∧
      ram.mem s'.dev = ram.mem s.dev := by
  induction regs generalizing s with
  | nil =>
    refine ⟨s, rfl, ?_, rfl⟩
    show s.cpu.r = Function.update s.cpu.r 3 (s.cpu.r 3 + 0#32)
    rw [BitVec.add_zero, Function.update_eq_self]
  | cons i regs ih =>
    obtain ⟨hne, hrest⟩ := List.ne_and_not_mem_of_not_mem_cons hsp
    have hfirst : s.cpu.r 3 + BitVec.ofNat 32 (4 * 0) = s.cpu.r 3 := BitVec.add_zero _
    obtain ⟨s₁, hone, hr, hmem, hprotection⟩ := run_disposeOne hram i
      (hfirst ▸ hinside 0 (Nat.succ_pos _)) (hfirst ▸ hread 0 (Nat.succ_pos _))
    have hsp₁ : s₁.cpu.r 3 = s.cpu.r 3 + BitVec.ofNat 32 4 := by
      rw [hr, Function.update_self]
      rfl
    have hplace : ∀ k, s₁.cpu.r 3 + BitVec.ofNat 32 (4 * k) =
        s.cpu.r 3 + BitVec.ofNat 32 (4 * (k + 1)) := by
      intro k
      rw [hsp₁, BitVec.add_assoc, ← BitVec.ofNat_add]
      congr 2
      omega
    have hinside₁ : ∀ k, k < regs.length →
        ram.inside (s₁.cpu.r 3 + BitVec.ofNat 32 (4 * k)) 4 := by
      intro k hk
      rw [hplace]
      exact hinside (k + 1) (Nat.succ_lt_succ hk)
    have hread₁ : ∀ k, k < regs.length → (targetMpuHasPermission s₁.cpu .read
        (s₁.cpu.r 3 + BitVec.ofNat 32 (4 * k)) 4).1 = true := by
      intro k hk
      rw [hplace, hprotection.granted]
      exact hread (k + 1) (Nat.succ_lt_succ hk)
    obtain ⟨s', hloop, hr', hmem'⟩ := ih hrest hinside₁ hread₁
    refine ⟨s', ?_, ?_, hmem'.trans hmem⟩
    · show (disposeOne bus i >>= fun _ => regs.forM (disposeOne bus)).run s = _
      rw [run_bind, hone, andThen_ok]
      exact hloop
    · -- the stack pointer is none of the registers that are loaded
      rw [hr', hplace, hmem, hsp₁, hr, pop_update hrest, Function.update_idem]
      rfl

end Loops

/-! ## The executors -/

/-- The registers of a list, in the order of `PREPARE`. -/
def frameRegs (list : Fin 32 → Bool) : List (Fin 32) :=
  listRegs.filter list

section FrameRegs

variable (list : Fin 32 → Bool)

theorem frameRegs_nodup : (frameRegs list).Nodup := by
  have hall : listRegs.Nodup := by decide
  exact hall.filter list

theorem mem_frameRegs {i : Fin 32} : i ∈ frameRegs list ↔ 20 ≤ i.val ∧ list i = true := by
  have hmem : ∀ i : Fin 32, i ∈ listRegs ↔ 20 ≤ i.val := by decide
  unfold frameRegs
  rw [List.mem_filter, hmem]

theorem sp_not_mem_frameRegs : 3 ∉ frameRegs list := by
  intro h
  have hge := ((mem_frameRegs list).mp h).1
  exact absurd hge (by decide)

theorem length_frameRegs : (frameRegs list).length ≤ 12 :=
  List.length_filter_le list listRegs

end FrameRegs

section Executors

variable (hram : RamContract bus ram) {d : OpCodeFormatType13} {s : CpuState D}
include hram

theorem run_prepare (hgen : d.gen &&& 0x0007#16 = 1)
    (hpermits : StackPermits ram s.cpu (s.cpu.r 3) (frameRegs d.list).length) :
    ∃ s', (opExecPrepare bus d).run s = (.ok (), s') ∧
      s'.cpu.r = Function.update s.cpu.r 3
        (below (s.cpu.r 3) (frameRegs d.list).length - d.imm <<< 2) ∧
      ram.mem s'.dev = push (ram.mem s.dev) (s.cpu.r 3) ((frameRegs d.list).map s.cpu.r) ∧
      SameProtection s.cpu s'.cpu := by
  obtain ⟨s₁, hloop, hr, hmem, hprotection⟩ :=
    run_prepareLoop hram (sp_not_mem_frameRegs d.list) hpermits
  have hfilter : listRegs.forM (prepareStore bus d.list) =
      (frameRegs d.list).forM (prepareOne bus) :=
    forM_filter d.list (prepareOne bus) listRegs
  have hsp₁ : s₁.cpu.r 3 = below (s.cpu.r 3) (frameRegs d.list).length := by
    rw [hr, Function.update_self]
  refine ⟨{ s₁ with cpu := { s₁.cpu with
    r := Function.update s₁.cpu.r 3
      (below (s.cpu.r 3) (frameRegs d.list).length - d.imm <<< 2)
    pc := s₁.cpu.pc + 4 } }, ?_, ?_, hmem, hprotection.trans ⟨rfl, ⟨_, rfl⟩⟩⟩
  · unfold opExecPrepare
    rw [hfilter, run_bind, hloop, andThen_ok, run_bind, run_getSp, andThen_ok, hsp₁, run_bind,
      run_setSp, andThen_ok, if_pos hgen]
    rfl
  · show Function.update s₁.cpu.r 3 _ = _
    rw [hr, Function.update_idem]

theorem run_dispose (hgen : d.gen = 0) {top : Word}
    (hsp : s.cpu.r 3 + d.imm <<< 2 = below top (frameRegs d.list).length)
    (hpermits : StackPermits ram s.cpu top (frameRegs d.list).length) :
    ∃ s', (opExecDispose bus d).run s = (.ok (), s') ∧
      s'.cpu.r = Function.update (pop (ram.mem s.dev) (below top (frameRegs d.list).length)
        (frameRegs d.list).reverse s.cpu.r) 3 top ∧
      ram.mem s'.dev = ram.mem s.dev := by
  obtain ⟨bottom, hbottom⟩ : ∃ x, below top (frameRegs d.list).length = x := ⟨_, rfl⟩
  rw [hbottom] at hsp ⊢
  have hfilter : listRegs.reverse.forM (disposeLoad bus d.list) =
      (frameRegs d.list).reverse.forM (disposeOne bus) := by
    refine (forM_filter d.list (disposeOne bus) listRegs.reverse).trans ?_
    rw [List.filter_reverse]
    rfl
  have hnot : 3 ∉ (frameRegs d.list).reverse :=
    fun h => sp_not_mem_frameRegs d.list (List.mem_reverse.mp h)
  have hlen : (frameRegs d.list).reverse.length = (frameRegs d.list).length :=
    List.length_reverse
  have hplace : ∀ k, k < (frameRegs d.list).length → bottom + BitVec.ofNat 32 (4 * k) =
      below top ((frameRegs d.list).length - k - 1 + 1) := by
    intro k hk
    rw [← hbottom, below_add top (by omega)]
    congr 1
    omega
  have htop : bottom + BitVec.ofNat 32 (4 * (frameRegs d.list).reverse.length) = top := by
    rw [hlen, ← hbottom, below_add top (Nat.le_refl _), Nat.sub_self, below_zero]
  -- the state in which the loop starts
  obtain ⟨s₀, hs₀⟩ : ∃ x : CpuState D, { s with cpu := { s.cpu with
    r := Function.update s.cpu.r 3 bottom
    realElaps := 0 } } = x := ⟨_, rfl⟩
  have hdev₀ : s₀.dev = s.dev := by
    rw [← hs₀]
  have hr₀ : s₀.cpu.r = Function.update s.cpu.r 3 bottom := by
    rw [← hs₀]
  have hsp₀ : s₀.cpu.r 3 = bottom := by
    rw [hr₀, Function.update_self]
  have hpermits₀ : StackPermits ram s₀.cpu top (frameRegs d.list).length := by
    rw [← hs₀]
    exact hpermits.congr ⟨rfl, ⟨_, rfl⟩⟩
  obtain ⟨s₁, hloop, hr, hmem⟩ := run_disposeLoop hram (s := s₀) hnot
    (fun k hk => by
      rw [hsp₀, hplace k (by omega)]
      exact hpermits₀.inside _ (by omega))
    (fun k hk => by
      rw [hsp₀, hplace k (by omega)]
      exact hpermits₀.read _ (by omega))
  rw [hsp₀, htop, hdev₀, hr₀, pop_update hnot, Function.update_idem] at hr
  refine ⟨{ s₁ with cpu := { s₁.cpu with
    realElaps := s₁.cpu.realElaps + 2
    pc := s₁.cpu.pc + 4 } }, ?_, hr, hmem.trans (congrArg ram.mem hdev₀)⟩
  unfold opExecDispose
  rw [hfilter, run_bind]
  show andThen _ (Except.ok (), _) = _
  rw [andThen_ok, run_bind, run_getSp, andThen_ok]
  show ((setR cpuRegSp (s.cpu.r 3 + d.imm <<< 2)) >>= fun _ => _).run _ = _
  have hgen0 : ¬ d.gen.toNat ≠ 0 := by
    rw [hgen]
    decide
  have hstart : ({ s with cpu := { s.cpu with
      r := Function.update s.cpu.r 3 (s.cpu.r 3 + d.imm <<< 2)
      realElaps := 0 } } : CpuState D) = s₀ := by
    rw [hsp, hs₀]
  rw [run_bind, run_setSp, andThen_ok]
  show ((frameRegs d.list).reverse.forM (disposeOne bus) >>= fun _ => _).run
    { s with cpu := { s.cpu with
      r := Function.update s.cpu.r 3 (s.cpu.r 3 + d.imm <<< 2)
      realElaps := 0 } } = _
  rw [hstart, run_bind, hloop, andThen_ok, if_neg hgen0]
  rfl

end Executors

/-! ## Both instructions -/

/-- The instructions have the same immediate and the same list. -/
structure SameFrame (code code' : OpCode) : Prop where
  imm : (bits code' 5 1 : BitVec 5) = bits code 5 1
  high : (bits code' 31 21 : BitVec 11) = bits code 31 21
  low : (bits code' 0 0 : BitVec 1) = bits code 0 0

section Decode

variable (code : OpCode)

theorem fields_opDecode13 :
    (opDecode13 code).imm = bits code 5 1 ∧ (opDecode13 code).gen = bits code 20 16 ∧
      (opDecode13 code).list = documentedList code := by
  have hfields := documented_opDecoder code .format13 OpDecodedCode.bss
  exact ⟨congrArg OpCodeFormatType13.imm hfields, congrArg OpCodeFormatType13.gen hfields,
    congrArg OpCodeFormatType13.list hfields⟩

theorem getLsbD_insn_of_bits {code code' : OpCode} {hi lo : Nat}
    (h : (bits code' hi lo : BitVec (hi + 1 - lo)) = bits code hi lo) {n : Nat} (hlo : lo ≤ n)
    (hhi : n ≤ hi) : (insn code').getLsbD n = (insn code).getLsbD n := by
  have hbit := congrArg (fun x : BitVec (hi + 1 - lo) => x.getLsbD (n - lo)) h
  have hlen : n - lo < hi + 1 - lo := by omega
  have hpos : lo + (n - lo) = n := by omega
  simp only [getLsbD_bits, hlen, hpos, decide_true, Bool.true_and] at hbit
  exact hbit

theorem le_of_documentedList {i : Fin 32} (h : documentedList code i = true) : 20 ≤ i.val := by
  by_contra hlow
  unfold documentedList at h
  rw [dif_neg hlow] at h
  cases h

theorem SameFrame.list {code code' : OpCode} (h : SameFrame code code') :
    (opDecode13 code').list = (opDecode13 code).list := by
  rw [(fields_opDecode13 code).2.2, (fields_opDecode13 code').2.2]
  funext i
  unfold documentedList
  by_cases hi : 20 ≤ i.val
  · rw [dif_pos hi, dif_pos hi]
    rcases (listBijection.2 _).mp ⟨_, rfl⟩ with hzero | ⟨hlo, hhi⟩
    · rw [hzero]
      exact getLsbD_insn_of_bits h.low (Nat.le_refl 0) (Nat.le_refl 0)
    · exact getLsbD_insn_of_bits h.high hlo hhi
  · rw [dif_neg hi, dif_neg hi]

theorem SameFrame.imm_eq {code code' : OpCode} (h : SameFrame code code') :
    (opDecode13 code').imm = (opDecode13 code).imm := by
  rw [(fields_opDecode13 code).1, (fields_opDecode13 code').1]
  apply BitVec.eq_of_getLsbD_eq
  intro i _
  rw [getLsbD_bits, getLsbD_bits]
  by_cases hlen : i < 5 + 1 - 1
  · rw [getLsbD_insn_of_bits h.imm (show 1 ≤ 1 + i by omega) (by omega)]
  · rw [decide_eq_false hlen, Bool.and_false, Bool.false_and, Bool.false_and]

theorem subop_opDecode13 (h : (bits code 18 16 : BitVec 3) = 1) :
    (opDecode13 code).gen &&& 0x0007#16 = 1 := by
  have hmask : ∀ j : Fin 16, (0x0007#16).getLsbD j.val = decide (j.val < 3) := by decide
  have hjoin : (bits code 20 16 : HalfWord) &&& 0x0007#16 =
      (bits code 18 16 : BitVec 3).setWidth 16 := by
    apply BitVec.eq_of_getLsbD_eq
    intro i hi
    rw [BitVec.getLsbD_and, BitVec.getLsbD_setWidth, getLsbD_bits, getLsbD_bits, hmask ⟨i, hi⟩]
    by_cases h3 : i < 3
    · have h5 : i < 5 := by omega
      simp [h3, h5, hi]
    · simp [h3]
  rw [(fields_opDecode13 code).2.1, hjoin, h]
  rfl

theorem gen_opDecode13 (h : (bits code 20 16 : BitVec 5) = 0) : (opDecode13 code).gen = 0 := by
  have hwide : (bits code 20 16 : HalfWord) = (bits code 20 16 : BitVec 5).setWidth 16 := by
    apply BitVec.eq_of_getLsbD_eq
    intro i hi
    rw [BitVec.getLsbD_setWidth, getLsbD_bits, getLsbD_bits]
    by_cases h5 : i < 5
    · simp [h5, hi]
    · simp [h5]
  rw [(fields_opDecode13 code).2.1, hwide, h]
  rfl

end Decode

/-- After `DISPOSE` in the state `s'`, the frame of the state `s` is gone. -/
structure FrameRestored (ram : Ram D) (list : Fin 32 → Bool) (s s' s'' : CpuState D) : Prop where
  sp : s''.cpu.r 3 = s.cpu.r 3
  listed : ∀ i, list i = true → s''.cpu.r i = s.cpu.r i
  others : ∀ i, i ≠ 3 → list i = false → s''.cpu.r i = s'.cpu.r i
  mem : ram.mem s''.dev = ram.mem s'.dev

/-- `PREPARE` changes the stack pointer and the words below it; `DISPOSE` with
the same operands restores the stack pointer and the list, whatever is done to
the other registers and the listed ones in between. -/
theorem frame_restored {bus : Bus D} {ram : Ram D} (hram : RamContract bus ram)
    {code code' : OpCode} (hprepare : (bits code 18 16 : BitVec 3) = 1)
    (hdispose : (bits code' 20 16 : BitVec 5) = 0) (hsame : SameFrame code code')
    {s : CpuState D}
    (hpermits : StackPermits ram s.cpu (s.cpu.r 3) (frameRegs (documentedList code)).length) :
    ∃ s₁, (opExecPrepare bus (opDecode13 code)).run s = (.ok (), s₁) ∧
      (∀ i, i ≠ 3 → s₁.cpu.r i = s.cpu.r i) ∧
      (∀ a, ¬ Within (below (s.cpu.r 3) (frameRegs (documentedList code)).length)
          (4 * (frameRegs (documentedList code)).length) a →
        ram.mem s₁.dev a = ram.mem s.dev a) ∧
      ∀ r : Fin 32 → Word, r 3 = s₁.cpu.r 3 →
        ∃ s₂, (opExecDispose bus (opDecode13 code')).run
            { s₁ with cpu := { s₁.cpu with r := r } } = (.ok (), s₂) ∧
          FrameRestored ram (documentedList code) s
            { s₁ with cpu := { s₁.cpu with r := r } } s₂ := by
  have hlist : (opDecode13 code).list = documentedList code := (fields_opDecode13 code).2.2
  have hlist' : (opDecode13 code').list = documentedList code := hsame.list.trans hlist
  obtain ⟨regs, hregs⟩ : ∃ x, frameRegs (documentedList code) = x := ⟨_, rfl⟩
  have hlen : regs.length ≤ 12 := hregs ▸ length_frameRegs _
  have hmem_regs : ∀ i, i ∈ regs ↔ documentedList code i = true := by
    intro i
    rw [← hregs, mem_frameRegs]
    exact and_iff_right_of_imp fun hi => le_of_documentedList code hi
  rw [← hlist] at hpermits
  obtain ⟨s₁, hrun, hr, hmem, hprotection⟩ :=
    run_prepare hram (subop_opDecode13 code hprepare) hpermits
  rw [hlist, hregs] at hr hmem hpermits
  rw [hregs]
  refine ⟨s₁, hrun, ?_, ?_, ?_⟩
  · intro i hi
    rw [hr, Function.update_of_ne hi]
  · intro a ha
    rw [hmem]
    refine push_outside ?_ ?_
    · rw [List.length_map]
      omega
    · rw [List.length_map]
      exact ha
  · intro r hsp
    have hstart : r 3 + (opDecode13 code').imm <<< 2 =
        below (s.cpu.r 3) (frameRegs (opDecode13 code').list).length := by
      rw [hsp, hr, Function.update_self, hsame.imm_eq, hlist', hregs]
      exact BitVec.sub_add_cancel _ _
    obtain ⟨s₂, hrun', hr', hmem'⟩ := run_dispose hram (d := opDecode13 code')
      (s := { s₁ with cpu := { s₁.cpu with r := r } }) (gen_opDecode13 code' hdispose) hstart
      (by
        rw [hlist', hregs]
        exact hpermits.congr (hprotection.trans ⟨rfl, ⟨_, rfl⟩⟩))
    rw [hlist', hregs] at hr'
    have hpop := pop_push (hregs ▸ frameRegs_nodup _) (by omega) (ram.mem s.dev) (s.cpu.r 3)
      s.cpu.r r
    refine ⟨s₂, hrun', ?_⟩
    exact
      { sp := by
          rw [hr', Function.update_self]
        listed := by
          intro i hi
          have hne : i ≠ 3 := by
            rintro rfl
            exact absurd (le_of_documentedList code hi) (by decide)
          rw [hr', Function.update_of_ne hne]
          show pop (ram.mem s₁.dev) _ _ r i = _
          rw [hmem, hpop, if_pos ((hmem_regs i).mpr hi)]
        others := by
          intro i hne hi
          have hnot : i ∉ regs := by
            rw [hmem_regs, hi]
            decide
          rw [hr', Function.update_of_ne hne]
          show pop (ram.mem s₁.dev) _ _ r i = r i
          rw [hmem, hpop, if_neg hnot]
        mem := hmem' }

/-- Without protection every word of the bus with RAM only can be used. -/
theorem stackPermits_wholeRam {cpu : TargetCore} (h : mpuApplied cpu = false) (top : Word)
    (n : Nat) : StackPermits wholeRam cpu top n where
  inside _ _ := trivial
  write _ _ := congrArg Prod.fst (targetMpuHasPermission_of_not_applied h _ _ _)
  read _ _ := congrArg Prod.fst (targetMpuHasPermission_of_not_applied h _ _ _)

/-- The state after reset with a stack. -/
def stackState : CpuState (Memory 32) :=
  { ramState with cpu := { ramState.cpu with r := Function.update ramState.cpu.r 3 0x1000 } }

/-- `PREPARE {r20, r21, r22, r23, r31}, 2`. -/
def prepareCode : OpCode := fun n => [0x0784, 0x0F21].getD n 0

/-- `DISPOSE 2, {r20, r21, r22, r23, r31}`. -/
def disposeCode : OpCode := fun n => [0x0644, 0x0F20].getD n 0

theorem frame_restored_reset :
    ∃ s₁, (opExecPrepare ramBus (opDecode13 prepareCode)).run stackState = (.ok (), s₁) ∧
      (∀ i, i ≠ 3 → s₁.cpu.r i = stackState.cpu.r i) ∧
      (∀ a, ¬ Within (below 0x1000 5) 20 a → s₁.dev a = stackState.dev a) ∧
      ∀ r : Fin 32 → Word, r 3 = s₁.cpu.r 3 →
        ∃ s₂, (opExecDispose ramBus (opDecode13 disposeCode)).run
            { s₁ with cpu := { s₁.cpu with r := r } } = (.ok (), s₂) ∧
          FrameRestored wholeRam (documentedList prepareCode) stackState
            { s₁ with cpu := { s₁.cpu with r := r } } s₂ := by
  have happlied : mpuApplied stackState.cpu = false := by decide +kernel
  have hlen : (frameRegs (documentedList prepareCode)).length = 5 := by decide +kernel
  have hsame : SameFrame prepareCode disposeCode := ⟨by decide, by decide, by decide⟩
  have hrestored := frame_restored ramContract_ramBus (by decide) (by decide) hsame
    (stackPermits_wholeRam happlied _ _)
  rw [hlen] at hrestored
  exact hrestored

end Exec

end Athrill
