import Athrill.Exec.Table
import Athrill.Lib.ByteMemory

/-!
# Stores under the permission check

Which bytes an instruction without privilege can change.  The bus carries out a
store after `cpu_has_permission` has granted it; `PREPARE` writes through a
pointer, after its own call of `target_mpu_has_permission`.

* `CheckedStores`, `QuietHost`: what is asked of the bus and of the host.
* `Granted`: some access to the byte is granted.
* `GuardedStep`: a byte without a granted store is kept.
* `keeps_guardedStep`: every unprivileged entry of the table is such a step.
-/

namespace Routine

variable {σ ε α β : Type} {R : σ → σ → Prop}

/-- The second half may use how the first one has ended. -/
theorem keeps_bind_of [IsTrans σ R] {x : Routine σ ε α} {f : α → Routine σ ε β} (hx : Keeps R x)
    (hf : ∀ s a s', x.run s = (.ok a, s') → R s' ((f a).run s').2) : Keeps R (x >>= f) := by
  constructor
  intro s
  have hs := hx.keeps s
  rw [run_bind]
  rcases hrun : x.run s with ⟨_ | a, s'⟩
  · rw [hrun] at hs
    exact hs
  · rw [hrun] at hs
    exact trans_of R hs (hf s a s' hrun)

/-- A step followed by a computation that keeps the relation. -/
theorem related_bind [IsTrans σ R] {x : Routine σ ε α} {f : α → Routine σ ε β} {s : σ}
    (hx : R s (x.run s).2) (hf : ∀ a, Keeps R (f a)) : R s ((x >>= f).run s).2 := by
  rw [run_bind]
  rcases hrun : x.run s with ⟨_ | a, s'⟩
  · rw [hrun] at hx
    exact hx
  · rw [hrun] at hx
    exact trans_of R hx ((hf a).keeps s')

end Routine

namespace Athrill

open TargetCore Routine Bits ByteMemory

variable {D : Type}

/-! ## What is asked of the outside -/

/-- The only bytes that change are those of a store that the check grants. -/
def StoredIn (cell : D → Memory 32) (s : CpuState D) (dev : D) (addr : Word) (n : Nat) : Prop :=
  ∀ a, cell dev a ≠ cell s.dev a →
    Within addr n a ∧ (targetMpuHasPermission s.cpu .write addr (BitVec.ofNat 32 n)).1 = true

/-- The bus checks its stores, and a load stores nothing.  A store through a
pointer is not checked. -/
structure CheckedStores (bus : Bus D) (cell : D → Memory 32) : Prop where
  get8 : ∀ s addr, cell (bus.getData8 s addr).2.dev = cell s.dev
  get16 : ∀ s addr, cell (bus.getData16 s addr).2.dev = cell s.dev
  get32 : ∀ s addr, cell (bus.getData32 s addr).2.dev = cell s.dev
  put8 : ∀ s addr data, StoredIn cell s (bus.putData8 s addr data).2.dev addr 1
  put16 : ∀ s addr data, StoredIn cell s (bus.putData16 s addr data).2.dev addr 2
  put32 : ∀ s addr data, StoredIn cell s (bus.putData32 s addr data).2.dev addr 4
  pointer : ∀ s addr data v, bus.storePointer s addr data = some v →
    ∀ a, ¬ Within addr 4 a → cell v.dev a = cell s.dev a

/-- The evaluation leaves the memory alone. -/
class QuietEval {α : Type} (cell : D → Memory 32) (f : D → α × D) : Prop where
  quiet : ∀ d, cell (f d).2 = cell d

/-- The floating-point unit of the host has no access to the memory. -/
structure QuietHost (host : HostFloat D) (cell : D → Memory 32) : Prop where
  fesetround : ∀ mode, QuietEval cell fun d => ((), host.fesetround mode d)
  feclearexcept : QuietEval cell fun d => ((), host.feclearexcept d)
  float : ∀ expr a b c, QuietEval cell (host.float expr a b c)
  double : ∀ expr a b, QuietEval cell (host.double expr a b)
  floatLess : ∀ a b, QuietEval cell (host.floatLess a b)
  floatEqual : ∀ a b, QuietEval cell (host.floatEqual a b)
  doubleLess : ∀ a b, QuietEval cell (host.doubleLess a b)
  doubleEqual : ∀ a b, QuietEval cell (host.doubleEqual a b)
  toFloat : ∀ type a, QuietEval cell (host.toFloat type a)
  toDouble : ∀ type a, QuietEval cell (host.toDouble type a)
  floatToInt : ∀ type fn a, QuietEval cell (host.floatToInt type fn a)
  doubleToInt : ∀ type fn a, QuietEval cell (host.doubleToInt type fn a)

/-! ## The relation -/

/-- Some access of at most four bytes that reaches the byte is granted. -/
def Granted (accessType : TargetMpuAccess) (cpu : TargetCore) (a : Word) : Prop :=
  ∃ addr n, n ≤ 4 ∧ Within addr n a ∧
    (targetMpuHasPermission cpu accessType addr (BitVec.ofNat 32 n)).1 = true

/-- An unprivileged step keeps what the check looks at. -/
theorem OrdinaryStep.granted {s s' : CpuState D} (h : OrdinaryStep s s')
    (accessType : TargetMpuAccess) (addr size : Word) :
    (targetMpuHasPermission s'.cpu accessType addr size).1 =
      (targetMpuHasPermission s.cpu accessType addr size).1 := by
  obtain ⟨info, hmpu⟩ := h.mpu
  have hasid : s'.cpu.getSysreg2 .asid = s.cpu.getSysreg2 .asid :=
    h.sys .asid (by decide) (by decide)
  have hum : s'.cpu.issetUM = s.cpu.issetUM := h.psw pswUM (by decide)
  have happlied : mpuApplied s'.cpu = mpuApplied s.cpu := by
    unfold mpuApplied
    rw [hum, hmpu]
  cases hcpu : mpuApplied s.cpu with
  | false =>
    rw [targetMpuHasPermission_of_not_applied hcpu,
      targetMpuHasPermission_of_not_applied (happlied.trans hcpu)]
  | true =>
    have hregions : enableRegionConfig s'.cpu accessType = enableRegionConfig s.cpu accessType := by
      unfold enableRegionConfig mpuIsApplyProtectionRegion mpuHasPermissionAccessType
      rw [hasid, hum, hmpu]
    rw [targetMpuHasPermission_fst_of_applied hcpu,
      targetMpuHasPermission_fst_of_applied (happlied.trans hcpu), hregions]

theorem OrdinaryStep.accessGranted {s s' : CpuState D} (h : OrdinaryStep s s')
    {accessType : TargetMpuAccess} {a : Word} :
    Granted accessType s'.cpu a ↔ Granted accessType s.cpu a := by
  unfold Granted
  simp only [h.granted]

theorem OrdinaryStep.not_granted {s s' : CpuState D} (h : OrdinaryStep s s')
    {accessType : TargetMpuAccess} {a : Word} (hno : ¬ Granted accessType s.cpu a) :
    ¬ Granted accessType s'.cpu a :=
  fun hgranted => hno (h.accessGranted.mp hgranted)

/-- An unprivileged step that keeps the byte, unless a store to it is granted. -/
def GuardedStep (cell : D → Memory 32) (a : Word) (s s' : CpuState D) : Prop :=
  OrdinaryStep s s' ∧ (¬ Granted .write s.cpu a → cell s'.dev a = cell s.dev a)

variable {cell : D → Memory 32} {a : Word}

instance : Std.Refl (GuardedStep cell a) where
  refl s := ⟨refl_of OrdinaryStep s, fun _ => rfl⟩

instance : IsTrans (CpuState D) (GuardedStep cell a) where
  trans s s' s'' h h' := by
    refine ⟨trans_of OrdinaryStep h.1 h'.1, fun hno => ?_⟩
    exact (h'.2 (h.1.not_granted hno)).trans (h.2 hno)

namespace Exec

variable {α : Type}

/-! ## Steps that leave the bus alone -/

theorem keeps_guarded {x : Exec D α} [h : Keeps OrdinaryStep x]
    (hdev : ∀ s, (x.run s).2.dev = s.dev) : Keeps (GuardedStep cell a) x :=
  ⟨fun s => ⟨h.keeps s, fun _ => by rw [hdev s]⟩⟩

instance keeps_guarded_fail : Keeps (GuardedStep cell a) (fail : Exec D α) :=
  keeps_stop _

instance keeps_guarded_undefined : Keeps (GuardedStep cell a) (undefined : Exec D α) :=
  keeps_stop _

instance keeps_guarded_getCpu (f : TargetCore → α) :
    Keeps (GuardedStep cell a) (getCpu f : Exec D α) :=
  keeps_gets _

instance keeps_guarded_getR (n : Nat) : Keeps (GuardedStep cell a) (getR n : Exec D Word) := by
  unfold getR
  infer_instance

instance keeps_guarded_setR (n : Nat) (data : Word) :
    Keeps (GuardedStep cell a) (setR n data : Exec D Unit) := by
  refine keeps_guarded fun s => ?_
  unfold setR
  split_ifs
  · rfl
  · rfl

instance keeps_guarded_getPc : Keeps (GuardedStep cell a) (getPc : Exec D Word) :=
  keeps_gets _

instance keeps_guarded_getPcAdd (n : Word) :
    Keeps (GuardedStep cell a) (getPcAdd n : Exec D Word) :=
  keeps_gets _

instance keeps_guarded_setPc (pc : Word) : Keeps (GuardedStep cell a) (setPc pc : Exec D Unit) :=
  keeps_guarded fun _ => rfl

instance keeps_guarded_addPc (n : Word) : Keeps (GuardedStep cell a) (addPc n : Exec D Unit) :=
  keeps_guarded fun _ => rfl

instance keeps_guarded_failIf (c : Prop) [Decidable c] :
    Keeps (GuardedStep cell a) (failIf c : Exec D Unit) := by
  unfold failIf
  infer_instance

instance keeps_guarded_checkReg (n : Nat) :
    Keeps (GuardedStep cell a) (checkReg n : Exec D Unit) :=
  keeps_guarded_failIf _

section Flags

variable (flag : Bool)

instance keeps_guarded_setZ : Keeps (GuardedStep cell a) (setZ flag : Exec D Unit) :=
  keeps_guarded fun _ => rfl

instance keeps_guarded_setS : Keeps (GuardedStep cell a) (setS flag : Exec D Unit) :=
  keeps_guarded fun _ => rfl

instance keeps_guarded_setOV : Keeps (GuardedStep cell a) (setOV flag : Exec D Unit) :=
  keeps_guarded fun _ => rfl

instance keeps_guarded_setCY : Keeps (GuardedStep cell a) (setCY flag : Exec D Unit) :=
  keeps_guarded fun _ => rfl

instance keeps_guarded_setSAT : Keeps (GuardedStep cell a) (setSAT flag : Exec D Unit) :=
  keeps_guarded fun _ => rfl

end Flags

instance keeps_guarded_addElaps (n : Word) :
    Keeps (GuardedStep cell a) (addElaps n : Exec D Unit) :=
  keeps_guarded fun _ => rfl

instance keeps_guarded_clearElaps : Keeps (GuardedStep cell a) (clearElaps : Exec D Unit) :=
  keeps_guarded fun _ => rfl

instance keeps_guarded_hasPermission (accessType : TargetMpuAccess) (addr size : Word) :
    Keeps (GuardedStep cell a) (hasPermission accessType addr size : Exec D Bool) :=
  keeps_guarded fun _ => rfl

instance keeps_guarded_getSysregId (selid regid : Nat) :
    Keeps (GuardedStep cell a) (getSysregId selid regid : Exec D SysReg) := by
  unfold getSysregId
  infer_instance

instance keeps_guarded_raiseCode (exno : ExceptionId) :
    Keeps (GuardedStep cell a) (raiseCode exno : Exec D Unit) :=
  keeps_guarded fun _ => rfl

instance keeps_guarded_raiseFpst (bits : Byte) :
    Keeps (GuardedStep cell a) (raiseFpst bits : Exec D Unit) :=
  keeps_guarded fun _ => rfl

instance keeps_guarded_putFpsrCc (data : Byte) :
    Keeps (GuardedStep cell a) (putFpsrCc data : Exec D Unit) :=
  keeps_guarded fun _ => rfl

instance keeps_guarded_hostEval (f : D → α × D) [h : QuietEval cell f] :
    Keeps (GuardedStep cell a) (hostEval f : Exec D α) := by
  refine ⟨fun s => ⟨(keeps_hostEval f).keeps s, fun _ => ?_⟩⟩
  exact congrFun (h.quiet s.dev) a

/-! ## Accesses -/

theorem dev_busAccess (access : CpuState D → Option α × BusView D) (s : CpuState D) :
    ((busAccess access : Exec D α).run s).2.dev = (access s).2.dev := by
  unfold busAccess
  rw [run_lift]
  rcases access s with ⟨_ | _, _⟩
  · rfl
  · rfl

theorem keeps_guarded_load {access : CpuState D → Option α × BusView D}
    (h : ∀ s, cell (access s).2.dev = cell s.dev) :
    Keeps (GuardedStep cell a) (busAccess access : Exec D α) := by
  refine ⟨fun s => ⟨(keeps_busAccess access).keeps s, fun _ => ?_⟩⟩
  rw [dev_busAccess]
  exact congrFun (h s) a

theorem keeps_guarded_store {access : CpuState D → Option α × BusView D} {addr : Word} {n : Nat}
    (hn : n ≤ 4) (h : ∀ s, StoredIn cell s (access s).2.dev addr n) :
    Keeps (GuardedStep cell a) (busAccess access : Exec D α) := by
  refine ⟨fun s => ⟨(keeps_busAccess access).keeps s, fun hno => ?_⟩⟩
  rw [dev_busAccess]
  by_contra hchanged
  obtain ⟨hin, hgranted⟩ := h s a hchanged
  exact hno ⟨addr, n, hn, hin, hgranted⟩

/-- A store through a pointer to a word that may be stored. -/
theorem guardedStep_storePointer {bus : Bus D} (hbus : CheckedStores bus cell) {addr : Word}
    {s : CpuState D} (hgranted : (targetMpuHasPermission s.cpu .write addr 4).1 = true)
    (data : Word) : GuardedStep cell a s ((busStorePointer bus addr data).run s).2 := by
  refine ⟨(keeps_busAccess _).keeps s, fun hno => ?_⟩
  have hout : ¬ Within addr 4 a := fun hin => hno ⟨addr, 4, Nat.le_refl 4, hin, hgranted⟩
  unfold busStorePointer
  rw [dev_busAccess]
  rcases hv : bus.storePointer s addr data with _ | v
  · rfl
  · exact hbus.pointer s addr data v hv a hout

/-- A pass of `PREPARE` asks for the word that it stores. -/
theorem keeps_guarded_prepareStore {bus : Bus D} (hbus : CheckedStores bus cell)
    (list : Fin 32 → Bool) (i : Fin 32) :
    Keeps (GuardedStep cell a) (prepareStore bus list i) := by
  have hchecked (addr : Word) : Keeps (GuardedStep cell a) (do
      let granted ← hasPermission .write addr 4
      failIf (granted = false)
      let data ← getR i.val
      busStorePointer bus addr data
      setR cpuRegSp addr
      addElaps 1) := by
    refine keeps_bind_of inferInstance fun s granted s' hrun => ?_
    have hstep : OrdinaryStep s s' := by
      have h := (keeps_hasPermission .write addr 4).keeps s
      rw [hrun] at h
      exact h
    have hresult : granted = (targetMpuHasPermission s.cpu .write addr 4).1 := by
      cases hrun
      rfl
    cases granted with
    | false => exact refl_of (GuardedStep cell a) s'
    | true =>
      have hgranted : (targetMpuHasPermission s'.cpu .write addr 4).1 = true := by
        rw [hstep.granted, ← hresult]
      have hdata := run_getR i.isLt s'
      show GuardedStep cell a s' ((getR i.val >>= fun data => busStorePointer bus addr data >>=
        fun _ => setR cpuRegSp addr >>= fun _ => addElaps 1).run s').2
      rw [run_bind, hdata, andThen_ok]
      exact related_bind (guardedStep_storePointer hbus hgranted _) inferInstance
  unfold prepareStore
  infer_instance

section Bus

variable {bus : Bus D} (hbus : CheckedStores bus cell)
include hbus

theorem keeps_guarded_pushspLoop (n cur : Nat) (tmpSp : Word) :
    Keeps (GuardedStep cell a) (pushspLoop bus n cur tmpSp) := by
  have hput (addr data : Word) : Keeps (GuardedStep cell a) (busPutData32 bus addr data) :=
    keeps_guarded_store (Nat.le_refl 4) fun s => hbus.put32 s addr data
  induction n generalizing cur tmpSp with
  | zero => exact keeps_pure _
  | succ n ih =>
    rw [pushspLoop]
    infer_instance

theorem keeps_guarded_popspLoop (n cur : Nat) (tmpSp : Word) :
    Keeps (GuardedStep cell a) (popspLoop bus n cur tmpSp) := by
  have hget (addr : Word) : Keeps (GuardedStep cell a) (busGetData32 bus addr) :=
    keeps_guarded_load fun s => hbus.get32 s addr
  induction n generalizing cur tmpSp with
  | zero => exact keeps_pure _
  | succ n ih =>
    rw [popspLoop]
    infer_instance

end Bus

end Exec

/-! ## Every instruction without privilege -/

set_option synthInstance.maxSize 100000 in
/-- An unprivileged entry of the table keeps the privileged state, and a byte to
which no store is granted. -/
theorem keeps_guardedStep {p : Platform D} (hbus : CheckedStores p.bus cell)
    (hhost : QuietHost p.host cell) (a : Word) {codeId : OpCodeId}
    {executor : OpDecodedCode → Exec D Unit} (hpriv : privileged codeId = false)
    (hexec : opExecTable p codeId = some executor) (d : OpDecodedCode) :
    Keeps (GuardedStep cell a) (executor d) := by
  obtain ⟨hround, hclear, hfloat, hdouble, hless, hequal, hlessD, hequalD, htoFloat, htoDouble,
    hfloatTo, hdoubleTo⟩ := hhost
  have hget8 (addr : Word) : Keeps (GuardedStep cell a) (Exec.busGetData8 p.bus addr) :=
    Exec.keeps_guarded_load fun s => hbus.get8 s addr
  have hget16 (addr : Word) : Keeps (GuardedStep cell a) (Exec.busGetData16 p.bus addr) :=
    Exec.keeps_guarded_load fun s => hbus.get16 s addr
  have hget32 (addr : Word) : Keeps (GuardedStep cell a) (Exec.busGetData32 p.bus addr) :=
    Exec.keeps_guarded_load fun s => hbus.get32 s addr
  have hput8 (addr : Word) (data : Byte) :
      Keeps (GuardedStep cell a) (Exec.busPutData8 p.bus addr data) :=
    Exec.keeps_guarded_store (by decide) fun s => hbus.put8 s addr data
  have hput16 (addr : Word) (data : HalfWord) :
      Keeps (GuardedStep cell a) (Exec.busPutData16 p.bus addr data) :=
    Exec.keeps_guarded_store (by decide) fun s => hbus.put16 s addr data
  have hput32 (addr data : Word) : Keeps (GuardedStep cell a) (Exec.busPutData32 p.bus addr data) :=
    Exec.keeps_guarded_store (Nat.le_refl 4) fun s => hbus.put32 s addr data
  have hpointer (addr : Word) : Keeps (GuardedStep cell a) (Exec.busGetPointer p.bus addr) :=
    Exec.keeps_guarded_load fun _ => rfl
  have hprepare (list : Fin 32 → Bool) (i : Fin 32) :
      Keeps (GuardedStep cell a) (Exec.prepareStore p.bus list i) :=
    Exec.keeps_guarded_prepareStore hbus list i
  have hpushsp (n cur : Nat) (tmpSp : Word) :
      Keeps (GuardedStep cell a) (Exec.pushspLoop p.bus n cur tmpSp) :=
    Exec.keeps_guarded_pushspLoop hbus n cur tmpSp
  have hpopsp (n cur : Nat) (tmpSp : Word) :
      Keeps (GuardedStep cell a) (Exec.popspLoop p.bus n cur tmpSp) :=
    Exec.keeps_guarded_popspLoop hbus n cur tmpSp
  refine entry_holds ?_ hexec
  clear hexec
  -- the class finds the proof from the executor's shape, with the steps on the bus above
  induction codeId <;>
    first
    | exact trivial
    | exact Bool.noConfusion hpriv
    | (change Keeps _ _; infer_instance)

end Athrill
