import Athrill.Exec.Guarded
import Athrill.Lib.Relational

/-!
# Executors that do not see a byte

Two states that are the same but for one byte of the memory: as long as no load
of the byte is granted, an instruction without privilege ends in the same way
in both, and the states it leaves are again the same but for the byte.

The bus carries out a load after `cpu_has_permission` has granted it.  A pointer
is not checked; `DISPOSE` asks before it loads through one, and the operands of
`PREPARE` are read behind the instruction without a question.

* `SameBut`: the states are the same but for what lies behind the bus.
* `BlindPlatform`: what is asked of the bus and of the host.
* `parallel_unseen`: every unprivileged entry of the table but `PREPARE`.
* `paired_executor`: every entry, from states in which the byte is out of reach.
-/

namespace Athrill

open TargetCore Routine Bits ByteMemory

variable {D : Type}

/-! ## States -/

namespace CpuState

/-- The state with something else behind the bus. -/
abbrev withDev (s : CpuState D) (dev : D) : CpuState D :=
  { s with dev := dev }

end CpuState

/-- The states are the same but for what lies behind the bus, which is related
by `low`. -/
def SameBut (low : D → D → Prop) (s t : CpuState D) : Prop :=
  ∃ dev, low s.dev dev ∧ t = s.withDev dev

/-! ## What is asked of the outside -/

/-- A load of `n` bytes reaches byte `a` and is granted. -/
def LoadOf (cpu : TargetCore) (a addr : Word) (n : Nat) : Prop :=
  Within addr n a ∧ (targetMpuHasPermission cpu .read addr (BitVec.ofNat 32 n)).1 = true

/-- Two accesses end with the same data, and leave what is related. -/
def SameAccess {α : Type} (low : D → D → Prop) (p q : Option α × BusView D) : Prop :=
  ∃ dev, low p.2.dev dev ∧ q = (p.1, { p.2 with dev := dev })

/-- The bus checks its loads, and no other access looks at byte `a`: `low` says
that the byte is the only difference.  A pointer is not checked. -/
structure BlindBus (bus : Bus D) (low : D → D → Prop) (a : Word) : Prop where
  get8 : ∀ s dev addr, low s.dev dev → ¬ LoadOf s.cpu a addr 1 →
    SameAccess low (bus.getData8 s addr) (bus.getData8 (s.withDev dev) addr)
  get16 : ∀ s dev addr, low s.dev dev → ¬ LoadOf s.cpu a addr 2 →
    SameAccess low (bus.getData16 s addr) (bus.getData16 (s.withDev dev) addr)
  get32 : ∀ s dev addr, low s.dev dev → ¬ LoadOf s.cpu a addr 4 →
    SameAccess low (bus.getData32 s addr) (bus.getData32 (s.withDev dev) addr)
  put8 : ∀ s dev addr data, low s.dev dev →
    SameAccess low (bus.putData8 s addr data) (bus.putData8 (s.withDev dev) addr data)
  put16 : ∀ s dev addr data, low s.dev dev →
    SameAccess low (bus.putData16 s addr data) (bus.putData16 (s.withDev dev) addr data)
  put32 : ∀ s dev addr data, low s.dev dev →
    SameAccess low (bus.putData32 s addr data) (bus.putData32 (s.withDev dev) addr data)
  pointer : ∀ s dev addr, low s.dev dev →
    Option.Rel (fun bytes bytes' => ∀ i, addr + BitVec.ofNat 32 i ≠ a → bytes i = bytes' i)
      (bus.getPointer s addr) (bus.getPointer (s.withDev dev) addr)
  storePointer : ∀ s dev addr data, low s.dev dev →
    Option.Rel (fun v w => ∃ dev', low v.dev dev' ∧ w = { v with dev := dev' })
      (bus.storePointer s addr data) (bus.storePointer (s.withDev dev) addr data)

/-- The evaluation gives the same from related states. -/
class BlindEval {α : Type} (low : D → D → Prop) (f : D → α × D) : Prop where
  blind : ∀ d e, low d e → (f d).1 = (f e).1 ∧ low (f d).2 (f e).2

/-- The floating-point unit of the host has no access to the memory. -/
structure BlindHost (host : HostFloat D) (low : D → D → Prop) : Prop where
  fesetround : ∀ mode, BlindEval low fun d => ((), host.fesetround mode d)
  feclearexcept : BlindEval low fun d => ((), host.feclearexcept d)
  fetestexcept : ∀ d e, low d e → host.fetestexcept d = host.fetestexcept e
  float : ∀ expr a b c, BlindEval low (host.float expr a b c)
  double : ∀ expr a b, BlindEval low (host.double expr a b)
  floatLess : ∀ a b, BlindEval low (host.floatLess a b)
  floatEqual : ∀ a b, BlindEval low (host.floatEqual a b)
  doubleLess : ∀ a b, BlindEval low (host.doubleLess a b)
  doubleEqual : ∀ a b, BlindEval low (host.doubleEqual a b)
  toFloat : ∀ type a, BlindEval low (host.toFloat type a)
  toDouble : ∀ type a, BlindEval low (host.toDouble type a)
  floatToInt : ∀ type fn a, BlindEval low (host.floatToInt type fn a)
  doubleToInt : ∀ type fn a, BlindEval low (host.doubleToInt type fn a)

/-- Nothing outside tells what the byte holds. -/
structure BlindPlatform (p : Platform D) (low : D → D → Prop) (a : Word) : Prop where
  bus : BlindBus p.bus low a
  host : BlindHost p.host low
  overflow : ∀ d e, low d e → p.mayStoreOnStackOverflow d = p.mayStoreOnStackOverflow e

variable {low : D → D → Prop} {a : Word} {α : Type}

namespace Exec

/-! ## Steps that leave the bus alone -/

/-- A computation that neither reads nor writes what lies behind the bus. -/
theorem parallel_local {x : Exec D α}
    (h : ∀ s dev, x.run (s.withDev dev) = ((x.run s).1, (x.run s).2.withDev dev)) :
    Parallel (SameBut low) x := by
  constructor
  rintro s _ ⟨dev, hlow, rfl⟩
  have hself : x.run s = ((x.run s).1, (x.run s).2.withDev s.dev) := h s s.dev
  have hdev : (x.run s).2.dev = s.dev := congrArg (fun p => p.2.dev) hself
  rw [← hdev] at hlow
  rw [h s dev]
  rcases hrun : x.run s with ⟨e | v, s'⟩
  · rw [hrun] at hlow
    exact .error ⟨dev, hlow, rfl⟩
  · rw [hrun] at hlow
    exact .ok rfl ⟨dev, hlow, rfl⟩

instance parallel_fail : Parallel (SameBut low) (fail : Exec D α) :=
  parallel_stop _

instance parallel_undefined : Parallel (SameBut low) (undefined : Exec D α) :=
  parallel_stop _

instance parallel_getCpu (f : TargetCore → α) : Parallel (SameBut low) (getCpu f : Exec D α) :=
  parallel_local fun _ _ => rfl

instance parallel_modifyCpu (f : TargetCore → TargetCore) :
    Parallel (SameBut low) (modifyCpu f : Exec D Unit) :=
  parallel_local fun _ _ => rfl

instance parallel_modifyIntc (f : CoreId → CpuIntc → CpuIntc) :
    Parallel (SameBut low) (modifyIntc f : Exec D Unit) :=
  parallel_local fun _ _ => rfl

instance parallel_getR (n : Nat) : Parallel (SameBut low) (getR n : Exec D Word) := by
  unfold getR
  infer_instance

instance parallel_setR (n : Nat) (data : Word) :
    Parallel (SameBut low) (setR n data : Exec D Unit) := by
  unfold setR
  infer_instance

instance parallel_getPcAdd (n : Word) : Parallel (SameBut low) (getPcAdd n : Exec D Word) :=
  parallel_getCpu _

instance parallel_setPc (pc : Word) : Parallel (SameBut low) (setPc pc : Exec D Unit) :=
  parallel_modifyCpu _

instance parallel_addPc (n : Word) : Parallel (SameBut low) (addPc n : Exec D Unit) :=
  parallel_modifyCpu _

instance parallel_failIf (c : Prop) [Decidable c] :
    Parallel (SameBut low) (failIf c : Exec D Unit) := by
  unfold failIf
  infer_instance

instance parallel_checkReg (n : Nat) : Parallel (SameBut low) (checkReg n : Exec D Unit) :=
  parallel_failIf _

theorem parallel_putPsw (bit : Nat) (flag : Bool) :
    Parallel (SameBut low) (putPsw bit flag : Exec D Unit) :=
  parallel_modifyCpu _

instance parallel_addElaps (n : Word) : Parallel (SameBut low) (addElaps n : Exec D Unit) :=
  parallel_modifyCpu _

instance parallel_raiseCode (exno : ExceptionId) :
    Parallel (SameBut low) (raiseCode exno : Exec D Unit) :=
  parallel_modifyCpu _

instance parallel_getSysregId (selid regid : Nat) :
    Parallel (SameBut low) (getSysregId selid regid : Exec D SysReg) := by
  unfold getSysregId
  infer_instance

theorem parallel_hasPermission (accessType : TargetMpuAccess) (addr size : Word) :
    Parallel (SameBut low) (hasPermission accessType addr size : Exec D Bool) :=
  parallel_local fun _ _ => rfl

theorem parallel_hostEval (f : D → α × D) [h : BlindEval low f] :
    Parallel (SameBut low) (hostEval f : Exec D α) := by
  constructor
  rintro s _ ⟨dev, hlow, rfl⟩
  obtain ⟨hresult, hafter⟩ := h.blind s.dev dev hlow
  exact .ok hresult ⟨(f dev).2, hafter, rfl⟩

/-! ## Accesses -/

/-- An access that ends alike. -/
theorem paired_busAccess {access : CpuState D → Option α × BusView D} {s : CpuState D} {dev : D}
    (h : SameAccess low (access s) (access (s.withDev dev))) :
    Paired Eq (SameBut low) ((busAccess access).run s)
      ((busAccess access).run (s.withDev dev)) := by
  obtain ⟨dev', hlow, hsame⟩ := h
  unfold busAccess
  rw [run_lift, run_lift, hsame]
  rcases haccess : access s with ⟨_ | data, v⟩
  · rw [haccess] at hlow
    exact .error ⟨dev', hlow, rfl⟩
  · rw [haccess] at hlow
    exact .ok rfl ⟨dev', hlow, rfl⟩

theorem parallel_store {access : CpuState D → Option α × BusView D}
    (h : ∀ s dev, low s.dev dev → SameAccess low (access s) (access (s.withDev dev))) :
    Parallel (SameBut low) (busAccess access : Exec D α) := by
  constructor
  rintro s _ ⟨dev, hlow, rfl⟩
  exact paired_busAccess (h s dev hlow)

theorem parallel_storePointer {bus : Bus D} (hbus : BlindBus bus low a) (addr data : Word) :
    Parallel (SameBut low) (busStorePointer bus addr data) := by
  unfold busStorePointer
  refine parallel_store fun s dev hlow => ?_
  have hstore := hbus.storePointer s dev addr data hlow
  generalize bus.storePointer s addr data = v at hstore ⊢
  generalize bus.storePointer (s.withDev dev) addr data = w at hstore ⊢
  cases hstore with
  | none => exact ⟨dev, hlow, rfl⟩
  | some h =>
    obtain ⟨dev', hlow', rfl⟩ := h
    exact ⟨dev', hlow', rfl⟩

/-- The bytes behind a pointer agree where byte `a` does not lie. -/
theorem paired_getPointer {bus : Bus D} (hbus : BlindBus bus low a) (addr : Word)
    {s : CpuState D} {dev : D} (hlow : low s.dev dev) :
    Paired (fun bytes bytes' => ∀ i, addr + BitVec.ofNat 32 i ≠ a → bytes i = bytes' i)
      (SameBut low) ((busGetPointer bus addr).run s)
      ((busGetPointer bus addr).run (s.withDev dev)) := by
  have hpointer := hbus.pointer s dev addr hlow
  have hrun (s : CpuState D) : (busGetPointer bus addr).run s =
      match bus.getPointer s addr with
      | some bytes => (.ok bytes, s)
      | none => (.error .fail, s) := by
    unfold busGetPointer busAccess
    rw [run_lift]
    dsimp only
    rcases bus.getPointer s addr with _ | _
    · rfl
    · rfl
  rw [hrun, hrun]
  generalize bus.getPointer s addr = bytes at hpointer ⊢
  generalize bus.getPointer (s.withDev dev) addr = bytes' at hpointer ⊢
  cases hpointer with
  | none => exact .error ⟨dev, hlow, rfl⟩
  | some h => exact .ok h ⟨dev, hlow, rfl⟩

end Exec

/-! ## States in which the byte is out of reach -/

/-- The states are the same but for the byte, and no load of it is granted. -/
def Unseen (low : D → D → Prop) (a : Word) (s t : CpuState D) : Prop :=
  SameBut low s t ∧ ¬ Granted .read s.cpu a ∧ ¬ Granted .read t.cpu a

/-- Neither an instruction at `pc` nor its operands hold the byte. -/
def CodeAway (pc a : Word) : Prop :=
  ∀ i, i < 8 → pc + BitVec.ofNat 32 i ≠ a

/-- A byte of an access is within it. -/
theorem within_add (addr : Word) {n i : Nat} (hi : i < n) (hn : n ≤ 4) :
    Within addr n (addr + BitVec.ofNat 32 i) := by
  have hsub := toNat_add_sub hi (hn.trans (by decide)) addr
  unfold Within
  omega

theorem SameBut.unseen {s t : CpuState D} (h : SameBut low s t) (hno : ¬ Granted .read s.cpu a) :
    Unseen low a s t := by
  obtain ⟨dev, hlow, rfl⟩ := h
  exact ⟨⟨dev, hlow, rfl⟩, hno, hno⟩

/-- Unprivileged steps keep what the check of a load looks at. -/
theorem parallel_unseen_of {x : Exec D α} (hx : Parallel (SameBut low) x)
    (hkeeps : Keeps OrdinaryStep x) : Parallel (Unseen low a) x :=
  hx.restrict hkeeps fun _ _ hstep hno hgranted => hno (hstep.accessGranted.mp hgranted)

namespace Exec

instance unseen_fail : Parallel (Unseen low a) (fail : Exec D α) :=
  parallel_stop _

instance unseen_undefined : Parallel (Unseen low a) (undefined : Exec D α) :=
  parallel_stop _

instance unseen_getCpu (f : TargetCore → α) : Parallel (Unseen low a) (getCpu f : Exec D α) :=
  parallel_unseen_of inferInstance inferInstance

instance unseen_getR (n : Nat) : Parallel (Unseen low a) (getR n : Exec D Word) :=
  parallel_unseen_of inferInstance inferInstance

instance unseen_setR (n : Nat) (data : Word) :
    Parallel (Unseen low a) (setR n data : Exec D Unit) :=
  parallel_unseen_of inferInstance inferInstance

instance unseen_getPc : Parallel (Unseen low a) (getPc : Exec D Word) :=
  parallel_unseen_of (parallel_getCpu _) inferInstance

instance unseen_getPcAdd (n : Word) : Parallel (Unseen low a) (getPcAdd n : Exec D Word) :=
  parallel_unseen_of inferInstance inferInstance

instance unseen_setPc (pc : Word) : Parallel (Unseen low a) (setPc pc : Exec D Unit) :=
  parallel_unseen_of inferInstance inferInstance

instance unseen_addPc (n : Word) : Parallel (Unseen low a) (addPc n : Exec D Unit) :=
  parallel_unseen_of inferInstance inferInstance

instance unseen_failIf (c : Prop) [Decidable c] :
    Parallel (Unseen low a) (failIf c : Exec D Unit) :=
  parallel_unseen_of inferInstance inferInstance

instance unseen_checkReg (n : Nat) : Parallel (Unseen low a) (checkReg n : Exec D Unit) :=
  parallel_unseen_of inferInstance inferInstance

section Flags

variable (flag : Bool)

instance unseen_setZ : Parallel (Unseen low a) (setZ flag : Exec D Unit) :=
  parallel_unseen_of (parallel_putPsw _ flag) inferInstance

instance unseen_setS : Parallel (Unseen low a) (setS flag : Exec D Unit) :=
  parallel_unseen_of (parallel_putPsw _ flag) inferInstance

instance unseen_setOV : Parallel (Unseen low a) (setOV flag : Exec D Unit) :=
  parallel_unseen_of (parallel_putPsw _ flag) inferInstance

instance unseen_setCY : Parallel (Unseen low a) (setCY flag : Exec D Unit) :=
  parallel_unseen_of (parallel_putPsw _ flag) inferInstance

instance unseen_setSAT : Parallel (Unseen low a) (setSAT flag : Exec D Unit) :=
  parallel_unseen_of (parallel_putPsw _ flag) inferInstance

end Flags

instance unseen_addElaps (n : Word) : Parallel (Unseen low a) (addElaps n : Exec D Unit) :=
  parallel_unseen_of inferInstance inferInstance

instance unseen_clearElaps : Parallel (Unseen low a) (clearElaps : Exec D Unit) :=
  parallel_unseen_of (parallel_modifyCpu _) inferInstance

instance unseen_hasPermission (accessType : TargetMpuAccess) (addr size : Word) :
    Parallel (Unseen low a) (hasPermission accessType addr size : Exec D Bool) :=
  parallel_unseen_of (parallel_hasPermission _ _ _) inferInstance

instance unseen_getSysregId (selid regid : Nat) :
    Parallel (Unseen low a) (getSysregId selid regid : Exec D SysReg) :=
  parallel_unseen_of inferInstance inferInstance

instance unseen_raiseCode (exno : ExceptionId) :
    Parallel (Unseen low a) (raiseCode exno : Exec D Unit) :=
  parallel_unseen_of inferInstance inferInstance

instance unseen_raiseFpst (bits : Byte) : Parallel (Unseen low a) (raiseFpst bits : Exec D Unit) :=
  parallel_unseen_of (parallel_modifyCpu _) inferInstance

instance unseen_putFpsrCc (data : Byte) : Parallel (Unseen low a) (putFpsrCc data : Exec D Unit) :=
  parallel_unseen_of (parallel_modifyCpu _) inferInstance

instance unseen_hostEval (f : D → α × D) [BlindEval low f] :
    Parallel (Unseen low a) (hostEval f : Exec D α) :=
  parallel_unseen_of (parallel_hostEval f) inferInstance

/-- A load that the check does not grant for byte `a`. -/
theorem unseen_load {access : CpuState D → Option α × BusView D} {addr : Word} {n : Nat}
    (hn : n ≤ 4)
    (h : ∀ s dev, low s.dev dev → ¬ LoadOf s.cpu a addr n →
      SameAccess low (access s) (access (s.withDev dev))) :
    Parallel (Unseen low a) (busAccess access : Exec D α) := by
  constructor
  rintro s _ ⟨⟨dev, hlow, rfl⟩, hno, hno'⟩
  have hload : ¬ LoadOf s.cpu a addr n :=
    fun ⟨hin, hgranted⟩ => hno ⟨addr, n, hn, hin, hgranted⟩
  have hkeeps := keeps_busAccess access
  exact (paired_busAccess (h s dev hlow hload)).and
    ⟨(hkeeps.keeps s).not_granted hno, (hkeeps.keeps (s.withDev dev)).not_granted hno'⟩

/-- The bytes behind a pointer, in states in which the byte is out of reach. -/
theorem unseen_getPointer {bus : Bus D} (hbus : BlindBus bus low a) (addr : Word)
    {s t : CpuState D} (h : Unseen low a s t) :
    Paired (fun bytes bytes' => ∀ i, addr + BitVec.ofNat 32 i ≠ a → bytes i = bytes' i)
      (Unseen low a) ((busGetPointer bus addr).run s) ((busGetPointer bus addr).run t) := by
  obtain ⟨⟨dev, hlow, rfl⟩, hno, hno'⟩ := h
  have hkeeps := keeps_busAccess fun s => (bus.getPointer s addr, s.view)
  exact (paired_getPointer hbus addr hlow).and
    ⟨(hkeeps.keeps s).not_granted hno, (hkeeps.keeps (s.withDev dev)).not_granted hno'⟩

/-! ## Frames and loops -/

/-- The word behind a pointer. -/
theorem pointer32_congr {bytes bytes' : Nat → Byte} (h : ∀ i, i < 4 → bytes i = bytes' i) :
    pointer32 bytes = pointer32 bytes' := by
  unfold pointer32
  rw [h 0 (by decide), h 1 (by decide), h 2 (by decide), h 3 (by decide)]

/-- A pass of `DISPOSE` asks for the word that it loads. -/
theorem unseen_disposeLoad {bus : Bus D} (hbus : BlindBus bus low a) (list : Fin 32 → Bool)
    (i : Fin 32) : Parallel (Unseen low a) (disposeLoad bus list i) := by
  have hchecked (addr : Word) : Parallel (Unseen low a) (do
      let granted ← hasPermission .read addr 4
      failIf (granted = false)
      let addrp ← busGetPointer bus addr
      setR i.val (pointer32 addrp)
      setR cpuRegSp (addr + 4)
      addElaps 1) := by
    constructor
    intro s t hst
    have hcheck : Paired (fun granted granted' => granted = granted' ∧
        (granted = true → ¬ Within addr 4 a)) (Unseen low a)
        ((hasPermission .read addr 4).run s) ((hasPermission .read addr 4).run t) := by
      have hafter := ((unseen_hasPermission .read addr 4).paired s t hst).state
      obtain ⟨⟨dev, hlow, rfl⟩, hno, _⟩ := hst
      exact .ok ⟨rfl, fun hgranted hin => hno ⟨addr, 4, Nat.le_refl 4, hin, hgranted⟩⟩ hafter
    rw [run_bind, run_bind]
    refine hcheck.andThen (fun _ _ h => h) ?_
    rintro granted _ s' t' ⟨rfl, hout⟩ hst'
    cases granted with
    | false => exact .error hst'
    | true =>
      show Paired Eq (Unseen low a)
        ((busGetPointer bus addr >>= fun addrp => setR i.val (pointer32 addrp) >>= fun _ =>
          setR cpuRegSp (addr + 4) >>= fun _ => addElaps 1).run s')
        ((busGetPointer bus addr >>= fun addrp => setR i.val (pointer32 addrp) >>= fun _ =>
          setR cpuRegSp (addr + 4) >>= fun _ => addElaps 1).run t')
      rw [run_bind, run_bind]
      refine (unseen_getPointer hbus addr hst').andThen (fun _ _ h => h) ?_
      intro bytes bytes' s'' t'' hbytes hst''
      have hword : pointer32 bytes = pointer32 bytes' := by
        refine pointer32_congr fun k hk => hbytes k ?_
        intro heq
        have hin := within_add addr hk (Nat.le_refl 4)
        rw [heq] at hin
        exact hout rfl hin
      rw [hword]
      have hrest : Parallel (Unseen low a) (setR i.val (pointer32 bytes') >>= fun _ =>
          setR cpuRegSp (addr + 4) >>= fun _ => addElaps 1 : Exec D Unit) := inferInstance
      exact hrest.paired s'' t'' hst''
  unfold disposeLoad
  infer_instance

section Bus

variable {bus : Bus D} (hbus : BlindBus bus low a)
include hbus

theorem unseen_prepareStore (list : Fin 32 → Bool) (i : Fin 32) :
    Parallel (Unseen low a) (prepareStore bus list i) := by
  have hstore (addr data : Word) : Parallel (Unseen low a) (busStorePointer bus addr data) :=
    parallel_unseen_of (parallel_storePointer hbus addr data) (keeps_busAccess _)
  unfold prepareStore
  infer_instance

theorem unseen_pushspLoop (n cur : Nat) (tmpSp : Word) :
    Parallel (Unseen low a) (pushspLoop bus n cur tmpSp) := by
  have hput (addr data : Word) : Parallel (Unseen low a) (busPutData32 bus addr data) :=
    parallel_unseen_of (parallel_store fun s dev => hbus.put32 s dev addr data) (keeps_busAccess _)
  induction n generalizing cur tmpSp with
  | zero => exact parallel_pure _
  | succ n ih =>
    rw [pushspLoop]
    infer_instance

theorem unseen_popspLoop (n cur : Nat) (tmpSp : Word) :
    Parallel (Unseen low a) (popspLoop bus n cur tmpSp) := by
  have hget (addr : Word) : Parallel (Unseen low a) (busGetData32 bus addr) :=
    unseen_load (Nat.le_refl 4) fun s dev => hbus.get32 s dev addr
  induction n generalizing cur tmpSp with
  | zero => exact parallel_pure _
  | succ n ih =>
    rw [popspLoop]
    infer_instance

end Bus

/-! ## PREPARE -/

/-- The program counter is kept. -/
def PcKept (s s' : CpuState D) : Prop :=
  s'.cpu.pc = s.cpu.pc

instance : Std.Refl (PcKept (D := D)) where
  refl _ := rfl

instance : IsTrans (CpuState D) PcKept where
  trans _ _ _ h h' := Eq.trans h' h

instance pcKept_getR (n : Nat) : Keeps PcKept (getR n : Exec D Word) := by
  have hread (f : TargetCore → Word) : Keeps PcKept (getCpu f : Exec D Word) := keeps_gets _
  have hundef : Keeps PcKept (undefined : Exec D Word) := keeps_stop _
  unfold getR
  infer_instance

instance pcKept_setR (n : Nat) (data : Word) : Keeps PcKept (setR n data : Exec D Unit) := by
  have hwrite (i : Fin 32) : Keeps PcKept
      (modifyCpu fun cpu => { cpu with r := Function.update cpu.r i data } : Exec D Unit) :=
    keeps_modify fun _ => rfl
  have hundef : Keeps PcKept (undefined : Exec D Unit) := keeps_stop _
  unfold setR
  infer_instance

theorem pcKept_prepareStore (bus : Bus D) (list : Fin 32 → Bool) (i : Fin 32) :
    Keeps PcKept (prepareStore bus list i) := by
  have hcheck (addr : Word) : Keeps PcKept (hasPermission .write addr 4 : Exec D Bool) := by
    refine keeps_lift fun s => ?_
    obtain ⟨info, hinfo⟩ := targetMpuHasPermission_snd s.cpu .write addr 4
    show (targetMpuHasPermission s.cpu .write addr 4).2.pc = s.cpu.pc
    rw [hinfo]
    rfl
  have hfail (c : Prop) [Decidable c] : Keeps PcKept (failIf c : Exec D Unit) := by
    have hstop : Keeps PcKept (fail : Exec D Unit) := keeps_stop _
    unfold failIf
    infer_instance
  have hstore (addr data : Word) : Keeps PcKept (busStorePointer bus addr data) := by
    constructor
    intro s
    unfold busStorePointer busAccess
    rw [run_lift]
    dsimp only
    rcases bus.storePointer s addr data with _ | _
    · rfl
    · rfl
  have helaps : Keeps PcKept (addElaps 1 : Exec D Unit) := keeps_modify fun _ => rfl
  unfold prepareStore
  infer_instance

/-- `PREPARE`, away from the byte. -/
theorem paired_prepare {bus : Bus D} (hbus : BlindBus bus low a) (d : OpCodeFormatType13)
    {s t : CpuState D} (hst : Unseen low a s t) (haway : CodeAway s.cpu.pc a) :
    Paired Eq (Unseen low a) ((opExecPrepare bus d).run s) ((opExecPrepare bus d).run t) := by
  have hat {β : Type} {x : Exec D β} (hx : Parallel (Unseen low a) x) (hkeeps : Keeps PcKept x) :
      Parallel (fun s' t' => Unseen low a s' t' ∧ s'.cpu.pc = s.cpu.pc ∧ t'.cpu.pc = s.cpu.pc) x :=
    hx.restrict hkeeps fun _ _ hsame hpc => Eq.trans hsame hpc
  have hpc : t.cpu.pc = s.cpu.pc := by
    obtain ⟨⟨_, _, rfl⟩, _⟩ := hst
    rfl
  have hbody (i : Fin 32) := unseen_prepareStore hbus d.list i
  have hkeeps (i : Fin 32) := pcKept_prepareStore bus d.list i
  have hloop : Parallel _ (listRegs.forM (prepareStore bus d.list)) :=
    hat inferInstance inferInstance
  unfold opExecPrepare
  rw [run_bind, run_bind]
  refine (hloop.paired s t ⟨hst, rfl, hpc⟩).andThen (fun _ _ h => h.1) ?_
  rintro _ _ s₁ t₁ - hst₁
  rw [run_bind, run_bind]
  refine ((hat (unseen_getR cpuRegSp) inferInstance).paired s₁ t₁ hst₁).andThen
    (fun _ _ h => h.1) ?_
  rintro sp _ s₂ t₂ rfl hst₂
  rw [run_bind, run_bind]
  refine ((hat (unseen_setR cpuRegSp _) inferInstance).paired s₂ t₂ hst₂).andThen
    (fun _ _ h => h.1) ?_
  rintro _ _ s₃ t₃ - ⟨hst₃, hs₃, ht₃⟩
  by_cases hsub : d.gen &&& 0x0007#16 = 1
  · rw [if_pos hsub]
    exact (unseen_addPc 4).paired s₃ t₃ hst₃
  · rw [if_neg hsub]
    have hrun (s : CpuState D) : (getPcAdd 4 : Exec D Word).run s = (.ok (s.cpu.pc + 4), s) := rfl
    rw [run_bind, run_bind, hrun, hrun, andThen_ok, andThen_ok, hs₃, ht₃, run_bind, run_bind]
    refine (unseen_getPointer hbus _ hst₃).andThen (fun _ _ h => h) ?_
    intro bytes bytes' s₄ t₄ hbytes hst₄
    have hbyte : ∀ i, i < 4 → bytes i = bytes' i := by
      intro i hi
      refine hbytes i ?_
      have hi8 := haway (4 + i) (by omega)
      rwa [BitVec.ofNat_add, ← BitVec.add_assoc] at hi8
    have hhalf : pointer16 bytes = pointer16 bytes' := by
      unfold pointer16
      rw [hbyte 0 (by decide), hbyte 1 (by decide)]
    rw [hhalf, pointer32_congr hbyte]
    exact Parallel.paired s₄ t₄ hst₄

end Exec

/-! ## Every instruction -/

open Exec

set_option synthInstance.maxSize 100000 in
/-- The unprivileged entries of the table but `PREPARE`. -/
theorem parallel_unseen {p : Platform D} (hp : BlindPlatform p low a) {codeId : OpCodeId}
    {executor : OpDecodedCode → Exec D Unit} (hpriv : privileged codeId = false)
    (hprepare : codeId ≠ .prepare_13) (hexec : opExecTable p codeId = some executor)
    (d : OpDecodedCode) : Parallel (Unseen low a) (executor d) := by
  obtain ⟨hbus, ⟨hround, hclear, htest, hfloat, hdouble, hless, hequal, hlessD, hequalD, htoFloat,
    htoDouble, hfloatTo, hdoubleTo⟩, hoverflow⟩ := hp
  have hget8 (addr : Word) : Parallel (Unseen low a) (busGetData8 p.bus addr) :=
    unseen_load (by decide) fun s dev => hbus.get8 s dev addr
  have hget16 (addr : Word) : Parallel (Unseen low a) (busGetData16 p.bus addr) :=
    unseen_load (by decide) fun s dev => hbus.get16 s dev addr
  have hget32 (addr : Word) : Parallel (Unseen low a) (busGetData32 p.bus addr) :=
    unseen_load (Nat.le_refl 4) fun s dev => hbus.get32 s dev addr
  have hput8 (addr : Word) (data : Byte) : Parallel (Unseen low a) (busPutData8 p.bus addr data) :=
    parallel_unseen_of (parallel_store fun s dev => hbus.put8 s dev addr data) (keeps_busAccess _)
  have hput16 (addr : Word) (data : HalfWord) :
      Parallel (Unseen low a) (busPutData16 p.bus addr data) :=
    parallel_unseen_of (parallel_store fun s dev => hbus.put16 s dev addr data) (keeps_busAccess _)
  have hput32 (addr data : Word) : Parallel (Unseen low a) (busPutData32 p.bus addr data) :=
    parallel_unseen_of (parallel_store fun s dev => hbus.put32 s dev addr data) (keeps_busAccess _)
  have hdispose (list : Fin 32 → Bool) (i : Fin 32) :
      Parallel (Unseen low a) (disposeLoad p.bus list i) :=
    unseen_disposeLoad hbus list i
  have hpushsp (n cur : Nat) (tmpSp : Word) :
      Parallel (Unseen low a) (pushspLoop p.bus n cur tmpSp) :=
    unseen_pushspLoop hbus n cur tmpSp
  have hpopsp (n cur : Nat) (tmpSp : Word) :
      Parallel (Unseen low a) (popspLoop p.bus n cur tmpSp) :=
    unseen_popspLoop hbus n cur tmpSp
  have hflags : Parallel (Unseen low a) (gets fun s => p.host.fetestexcept s.dev : Exec D _) := by
    refine parallel_gets fun s t hst => ?_
    obtain ⟨⟨dev, hlow, rfl⟩, _⟩ := hst
    exact htest s.dev dev hlow
  have hstack (reg1 : Nat) (base disp : Word) :
      Parallel (Unseen low a)
        (checkStack p.mayStoreOnStackOverflow reg1 base disp : Exec D Unit) := by
    constructor
    intro s t hst
    have hrun (s : CpuState D) :
        (checkStack p.mayStoreOnStackOverflow reg1 base disp : Exec D Unit).run s =
          (failIf (reg1 = cpuRegSp ∧ p.mayStoreOnStackOverflow s.dev base disp = true)).run s := rfl
    have hsame : p.mayStoreOnStackOverflow t.dev = p.mayStoreOnStackOverflow s.dev := by
      obtain ⟨⟨dev, hlow, rfl⟩, _⟩ := hst
      exact (hoverflow s.dev dev hlow).symm
    rw [hrun, hrun, hsame]
    exact (unseen_failIf _).paired s t hst
  refine entry_holds ?_ hexec
  clear hexec
  -- the class finds the proof from the executor's shape, with the steps above
  induction codeId <;>
    first
    | exact trivial
    | exact Bool.noConfusion hpriv
    | exact absurd rfl hprepare
    | (change Parallel _ _; infer_instance)

/-- The privileged entries of the table but `SYSCALL`. -/
theorem parallel_privileged {p : Platform D} {codeId : OpCodeId}
    {executor : OpDecodedCode → Exec D Unit} (hpriv : privileged codeId = true)
    (hsyscall : codeId ≠ .syscall_10) (hexec : opExecTable p codeId = some executor)
    (d : OpDecodedCode) : Parallel (SameBut low) (executor d) := by
  rcases privileged_cases hpriv with rfl | (rfl | rfl) | rfl | rfl | rfl | rfl | rfl | rfl | rfl
  case inr.inr.inr.inr.inr.inr.inr.inl => exact absurd rfl hsyscall
  all_goals
    cases hexec
    infer_instance

/-- `SYSCALL` reads its table in supervisor mode. -/
theorem paired_syscall {bus : Bus D} (hbus : BlindBus bus low a) (d : OpCodeFormatType10)
    {s t : CpuState D} (hst : SameBut low s t)
    (htable : ¬ Within (syscallTableAddr (syscallVector d) s.cpu) 4 a) :
    Paired Eq (SameBut low) ((opExecSyscall10 bus d).run s) ((opExecSyscall10 bus d).run t) := by
  obtain ⟨dev, hlow, rfl⟩ := hst
  have hload : ¬ LoadOf (syscallEntry (syscallVector d) s.cpu) a
      (syscallTableAddr (syscallVector d) s.cpu) 4 := fun h => htable h.1
  have hread : Paired Eq (SameBut low)
      ((busGetData32 bus (syscallTableAddr (syscallVector d) s.cpu)).run
        { s with cpu := syscallEntry (syscallVector d) s.cpu })
      ((busGetData32 bus (syscallTableAddr (syscallVector d) s.cpu)).run
        { s.withDev dev with cpu := syscallEntry (syscallVector d) s.cpu }) :=
    paired_busAccess (hbus.get32 { s with cpu := syscallEntry (syscallVector d) s.cpu } dev _ hlow
      hload)
  refine hread.andThen (fun _ _ h => h) ?_
  rintro data _ s' t' rfl hst'
  exact (parallel_setPc _).paired s' t' hst'

/-- The byte cannot be loaded, and neither the instruction nor the table of
`SYSCALL` holds it. -/
structure OutOfReach (cpu : TargetCore) (a : Word) : Prop where
  load : ¬ Granted .read cpu a
  code : CodeAway cpu.pc a
  table : ∀ vector, ¬ Within (syscallTableAddr vector cpu) 4 a

/-- Every entry of the table ends in the same way whatever a byte out of reach
holds. -/
theorem paired_executor {p : Platform D} (hp : BlindPlatform p low a) {codeId : OpCodeId}
    {executor : OpDecodedCode → Exec D Unit} (hexec : opExecTable p codeId = some executor)
    (d : OpDecodedCode) {s t : CpuState D} (hst : SameBut low s t)
    (hout : OutOfReach s.cpu a) :
    Paired Eq (SameBut low) ((executor d).run s) ((executor d).run t) := by
  have hunseen : Unseen low a s t := hst.unseen hout.load
  cases hpriv : privileged codeId with
  | false =>
    by_cases hprepare : codeId = .prepare_13
    · subst hprepare
      cases hexec
      exact (paired_prepare hp.bus d.type13 hunseen hout.code).mono (fun _ _ h => h)
        fun _ _ h => h.1
    · exact ((parallel_unseen hp hpriv hprepare hexec d).paired s t hunseen).mono (fun _ _ h => h)
        fun _ _ h => h.1
  | true =>
    by_cases hsyscall : codeId = .syscall_10
    · subst hsyscall
      cases hexec
      exact paired_syscall hp.bus d.type10 hst (hout.table _)
    · exact (parallel_privileged hpriv hsyscall hexec d).paired s t hst

end Athrill
