import Athrill.Exec.Compute
import Athrill.Exec.Stack
import Athrill.Lib.ByteMemory
import Athrill.Lib.Limbs

/-!
# RAM behind the bus

The bus belongs to the emulator core.  What the memory instructions rely on is
that an access to RAM which the MPU grants reads or writes the bytes of its
address, the lowest byte first, and leaves the general registers alone.

* `Ram`, `RamContract`: the memory and the contract of the bus.
* `Accessed`: the state after accesses to RAM.
* `run_loadOf`, `run_storeOf`: the accesses of the three widths.
* `run_pointer`, `run_storePointer`: the accesses through a pointer.
-/

namespace Athrill

open TargetCore Routine ByteMemory

variable {D : Type}

/-! ## The contract -/

/-- The bytes of a memory, and the ranges that one access can reach. -/
structure Ram (D : Type) where
  mem : D → Memory 32
  inside : Word → Nat → Prop

namespace Ram

variable (ram : Ram D)

/-- The access is aligned, in RAM and granted. -/
structure Permits (accessType : TargetMpuAccess) (cpu : TargetCore) (addr : Word) (n : Nat) :
    Prop where
  aligned : addr.toNat % n = 0
  inside : ram.inside addr n
  granted : (targetMpuHasPermission cpu accessType addr (BitVec.ofNat 32 n)).1 = true

/-- An access to RAM that goes through, with the memory it leaves. -/
structure Access {α : Type} (s : CpuState D) (result : Option α × BusView D) (data : α)
    (mem : Memory 32) : Prop where
  data : result.1 = some data
  r : result.2.r = s.cpu.r
  mem : ram.mem result.2.dev = mem

end Ram

/-- The bus gives access to the RAM. -/
structure RamContract (bus : Bus D) (ram : Ram D) : Prop where
  get8 : ∀ s addr, ram.Permits .read s.cpu addr 1 →
    ram.Access s (bus.getData8 s addr) (BitVec.ofNat 8 (load (ram.mem s.dev) addr 1))
      (ram.mem s.dev)
  get16 : ∀ s addr, ram.Permits .read s.cpu addr 2 →
    ram.Access s (bus.getData16 s addr) (BitVec.ofNat 16 (load (ram.mem s.dev) addr 2))
      (ram.mem s.dev)
  get32 : ∀ s addr, ram.Permits .read s.cpu addr 4 →
    ram.Access s (bus.getData32 s addr) (BitVec.ofNat 32 (load (ram.mem s.dev) addr 4))
      (ram.mem s.dev)
  put8 : ∀ s addr data, ram.Permits .write s.cpu addr 1 →
    ram.Access s (bus.putData8 s addr data) () (store (ram.mem s.dev) addr 1 data.toNat)
  put16 : ∀ s addr data, ram.Permits .write s.cpu addr 2 →
    ram.Access s (bus.putData16 s addr data) () (store (ram.mem s.dev) addr 2 data.toNat)
  put32 : ∀ s addr data, ram.Permits .write s.cpu addr 4 →
    ram.Access s (bus.putData32 s addr data) () (store (ram.mem s.dev) addr 4 data.toNat)
  /-- A pointer is not checked and need not be aligned. -/
  pointer : ∀ s addr n, ram.inside addr n → ∃ bytes, bus.getPointer s addr = some bytes ∧
    ∀ i, i < n → bytes i = ram.mem s.dev (addr + BitVec.ofNat 32 i)
  storePointer : ∀ s addr data, ram.inside addr 4 →
    ∃ v, bus.storePointer s addr data = some v ∧ v.r = s.cpu.r ∧
      ram.mem v.dev = storeWord (ram.mem s.dev) addr data

namespace Exec

variable {bus : Bus D} {ram : Ram D}

/-- The state after accesses to RAM that leave the memory `mem`. -/
structure Accessed (ram : Ram D) (mem : Memory 32) (s s' : CpuState D) : Prop where
  r : s'.cpu.r = s.cpu.r
  pc : s'.cpu.pc = s.cpu.pc
  elaps : s'.cpu.realElaps = s.cpu.realElaps
  protection : SameProtection s.cpu s'.cpu
  mem : ram.mem s'.dev = mem

theorem accessed_withView {mem : Memory 32} {s : CpuState D} {v : BusView D}
    (hr : v.r = s.cpu.r) (hmem : ram.mem v.dev = mem) : Accessed ram mem s (s.withView v) :=
  ⟨hr, rfl, rfl, ⟨rfl, ⟨v.exceptionErrorInfo, rfl⟩⟩, hmem⟩

theorem run_access (ram : Ram D) {α : Type} (access : CpuState D → Option α × BusView D)
    {s : CpuState D} {data : α} {mem : Memory 32} (h : ram.Access s (access s) data mem) :
    ∃ s', (busAccess access).run s = (.ok data, s') ∧ Accessed ram mem s s' := by
  obtain ⟨hdata, hr, hmem⟩ := h
  refine ⟨s.withView (access s).2, ?_, accessed_withView hr hmem⟩
  have hsome : access s = (some data, (access s).2) := Prod.ext hdata rfl
  unfold busAccess
  rw [run_lift, hsome]

/-- A computation followed by a function of its result. -/
theorem run_bind_pure {α β : Type} {x : Exec D α} {a : α} {s s' : CpuState D}
    (h : x.run s = (.ok a, s')) (f : α → β) :
    (x >>= fun a => pure (f a)).run s = (.ok (f a), s') := by
  rw [run_bind, h]
  rfl

/-! ## Accesses by width -/

inductive Width where
  | byte | half | word
  deriving DecidableEq

namespace Width

def bytes : Width → Nat
  | byte => 1
  | half => 2
  | word => 4

/-- The low bytes of a register, as a number. -/
def low (width : Width) (data : Word) : Nat :=
  data.toNat % 256 ^ width.bytes

/-- The bytes of the width in a register, with the sign or without. -/
def extend (width : Width) (signed : Bool) (value : Nat) : Word :=
  if signed then (BitVec.ofNat (8 * width.bytes) value).signExtend 32
  else (BitVec.ofNat (8 * width.bytes) value).setWidth 32

end Width

/-- The sign is of no use to a word. -/
def loadOf (bus : Bus D) : Bool → Width → Word → Exec D Word
  | true, .byte => loadS8 bus
  | false, .byte => loadU8 bus
  | true, .half => loadS16 bus
  | false, .half => loadU16 bus
  | _, .word => load32 bus

def storeOf (bus : Bus D) : Width → Word → Word → Exec D Unit
  | .byte => store8 bus
  | .half => store16 bus
  | .word => store32 bus

section Access

variable (hram : RamContract bus ram) {s : CpuState D} {addr : Word}
include hram

theorem run_loadOf (signed : Bool) {width : Width}
    (h : ram.Permits .read s.cpu addr width.bytes) :
    ∃ s', (loadOf bus signed width addr).run s =
        (.ok (width.extend signed (load (ram.mem s.dev) addr width.bytes)), s') ∧
      Accessed ram (ram.mem s.dev) s s' := by
  cases width with
  | byte =>
    obtain ⟨s', hrun, hs'⟩ := run_access ram (fun s => bus.getData8 s addr) (hram.get8 s addr h)
    cases signed with
    | true => exact ⟨s', run_bind_pure hrun _, hs'⟩
    | false => exact ⟨s', run_bind_pure hrun _, hs'⟩
  | half =>
    obtain ⟨s', hrun, hs'⟩ := run_access ram (fun s => bus.getData16 s addr) (hram.get16 s addr h)
    cases signed with
    | true => exact ⟨s', run_bind_pure hrun _, hs'⟩
    | false => exact ⟨s', run_bind_pure hrun _, hs'⟩
  | word =>
    obtain ⟨s', hrun, hs'⟩ := run_access ram (fun s => bus.getData32 s addr) (hram.get32 s addr h)
    have hword : Width.extend .word signed (load (ram.mem s.dev) addr 4) =
        BitVec.ofNat 32 (load (ram.mem s.dev) addr 4) := by
      unfold Width.extend
      split_ifs
      · exact BitVec.signExtend_eq _
      · exact BitVec.setWidth_eq _
    refine ⟨s', ?_, hs'⟩
    show _ = (Except.ok (Width.extend .word signed (load (ram.mem s.dev) addr 4)), s')
    rw [hword]
    cases signed with
    | true => exact hrun
    | false => exact hrun

theorem run_storeOf {width : Width} (data : Word)
    (h : ram.Permits .write s.cpu addr width.bytes) :
    ∃ s', (storeOf bus width addr data).run s = (.ok (), s') ∧
      Accessed ram (store (ram.mem s.dev) addr width.bytes (width.low data)) s s' := by
  cases width with
  | byte =>
    have hlow : (data.setWidth 8).toNat = Width.low .byte data := BitVec.toNat_setWidth ..
    rw [← hlow]
    exact run_access ram (fun s => bus.putData8 s addr (data.setWidth 8)) (hram.put8 s addr _ h)
  | half =>
    have hlow : (data.setWidth 16).toNat = Width.low .half data := BitVec.toNat_setWidth ..
    rw [← hlow]
    exact run_access ram (fun s => bus.putData16 s addr (data.setWidth 16)) (hram.put16 s addr _ h)
  | word =>
    have hlow : data.toNat = Width.low .word data := (Nat.mod_eq_of_lt data.isLt).symm
    rw [← hlow]
    exact run_access ram (fun s => bus.putData32 s addr data) (hram.put32 s addr _ h)

/-! ## Accesses through a pointer -/

omit hram in
theorem run_hasPermission (ram : Ram D) {accessType : TargetMpuAccess} {size : Word}
    (h : (targetMpuHasPermission s.cpu accessType addr size).1 = true) :
    ∃ s', (hasPermission accessType addr size).run s = (.ok true, s') ∧
      Accessed ram (ram.mem s.dev) s s' := by
  obtain ⟨info, hinfo⟩ := targetMpuHasPermission_snd s.cpu accessType addr size
  refine ⟨{ s with cpu := (targetMpuHasPermission s.cpu accessType addr size).2 }, ?_, ?_⟩
  · rw [← h]
    rfl
  · rw [hinfo]
    exact ⟨rfl, rfl, rfl, ⟨rfl, ⟨info, rfl⟩⟩, rfl⟩

theorem run_pointer (h : ram.inside addr 4) :
    ∃ bytes s', (busGetPointer bus addr).run s = (.ok bytes, s') ∧
      Accessed ram (ram.mem s.dev) s s' ∧ pointer32 bytes = loadWord (ram.mem s.dev) addr := by
  obtain ⟨bytes, hbytes, hmem⟩ := hram.pointer s addr 4 h
  obtain ⟨s', hrun, hs'⟩ := run_access ram (fun s => (bus.getPointer s addr, s.view))
    ⟨hbytes, rfl, rfl⟩
  refine ⟨bytes, s', hrun, hs', ?_⟩
  have hload : load (ram.mem s.dev) addr 4 = (bytes 0).toNat + 2 ^ 8 * (bytes 1).toNat +
      2 ^ 16 * (bytes 2).toNat + 2 ^ 24 * (bytes 3).toNat := by
    rw [hmem 0 (by omega), hmem 1 (by omega), hmem 2 (by omega), hmem 3 (by omega)]
    simp only [load, Nat.zero_add, Nat.pow_zero, Nat.one_mul]
    rfl
  apply BitVec.eq_of_toNat_eq
  have h0 : (bytes 0).toNat < 2 ^ 8 := (bytes 0).isLt
  have h1 : (bytes 1).toNat < 2 ^ 8 := (bytes 1).isLt
  have h2 : (bytes 2).toNat < 2 ^ 8 := (bytes 2).isLt
  have h3 : (bytes 3).toNat < 2 ^ 8 := (bytes 3).isLt
  unfold pointer32 loadWord
  rw [Limbs.toNat_append, Limbs.toNat_append, Limbs.toNat_append, BitVec.toNat_ofNat, hload]
  omega

theorem run_storePointer (data : Word) (h : ram.inside addr 4) :
    ∃ s', (busStorePointer bus addr data).run s = (.ok (), s') ∧
      Accessed ram (storeWord (ram.mem s.dev) addr data) s s' := by
  obtain ⟨v, hv, hr, hmem⟩ := hram.storePointer s addr data h
  refine ⟨s.withView v, ?_, accessed_withView hr hmem⟩
  unfold busStorePointer busAccess
  rw [run_lift]
  dsimp only
  rw [hv]

end Access

end Exec

/-! ## A bus with RAM only -/

/-- An access that the MPU checks. -/
def checkedAccess {α : Type} (s : CpuState (Memory 32)) (accessType : TargetMpuAccess)
    (addr : Word) (n : Nat) (data : α) (mem : Memory 32) : Option α × BusView (Memory 32) :=
  let checked := targetMpuHasPermission s.cpu accessType addr (BitVec.ofNat 32 n)
  let view := { s.view with exceptionErrorInfo := checked.2.mpu.exceptionErrorInfo }
  if checked.1 then (some data, { view with dev := mem }) else (none, view)

def ramBus : Bus (Memory 32) where
  getData8 s addr := checkedAccess s .read addr 1 (BitVec.ofNat 8 (load s.dev addr 1)) s.dev
  getData16 s addr := checkedAccess s .read addr 2 (BitVec.ofNat 16 (load s.dev addr 2)) s.dev
  getData32 s addr := checkedAccess s .read addr 4 (BitVec.ofNat 32 (load s.dev addr 4)) s.dev
  putData8 s addr data := checkedAccess s .write addr 1 () (store s.dev addr 1 data.toNat)
  putData16 s addr data := checkedAccess s .write addr 2 () (store s.dev addr 2 data.toNat)
  putData32 s addr data := checkedAccess s .write addr 4 () (store s.dev addr 4 data.toNat)
  getPointer s addr := some fun i => s.dev (addr + BitVec.ofNat 32 i)
  storePointer s addr data := some { s.view with dev := storeWord s.dev addr data }

/-- All addresses are RAM. -/
def wholeRam : Ram (Memory 32) where
  mem := id
  inside _ _ := True

theorem access_checkedAccess {α : Type} {s : CpuState (Memory 32)} {accessType : TargetMpuAccess}
    {addr : Word} {n : Nat} (h : wholeRam.Permits accessType s.cpu addr n) (data : α)
    (mem : Memory 32) : wholeRam.Access s (checkedAccess s accessType addr n data mem) data mem := by
  unfold checkedAccess
  dsimp only
  rw [if_pos h.granted]
  exact ⟨rfl, rfl, rfl⟩

theorem ramContract_ramBus : RamContract ramBus wholeRam where
  get8 _ _ h := access_checkedAccess h _ _
  get16 _ _ h := access_checkedAccess h _ _
  get32 _ _ h := access_checkedAccess h _ _
  put8 _ _ _ h := access_checkedAccess h _ _
  put16 _ _ _ h := access_checkedAccess h _ _
  put32 _ _ _ h := access_checkedAccess h _ _
  pointer s addr _ _ := ⟨fun i => s.dev (addr + BitVec.ofNat 32 i), rfl, fun _ _ => rfl⟩
  storePointer s addr data _ :=
    ⟨{ s.view with dev := storeWord s.dev addr data }, rfl, rfl, rfl⟩

/-- The state after reset, with empty RAM. -/
def ramState : CpuState (Memory 32) :=
  ((Machine.reset fun _ => 0).clockState 0).toCpuState

end Athrill
