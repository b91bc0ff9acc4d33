import Athrill.Can.Independence
import Athrill.Can.Messages
import Athrill.Can.Steps

/-!
# The register bytes over a step

The registers of the messages lie above all control registers.  A store leaves
its own bytes there, and a load can write its own register again.

* `searchMap_of_mem`: the group of an address in the table.
* `memory_put`: the bytes after a store.
* `memory_get`, `memory_get_of_group`: the bytes after a load.
* `CanEvent.written`: the bytes that software wrote last.
-/

namespace Athrill

/-- The groups of the table do not overlap. -/
theorem table_disjoint : ∀ map ∈ canRegisterMappingTable, ∀ map' ∈ canRegisterMappingTable,
    map.start < map'.start + map'.size → map'.start < map.start + map.size →
      map.group = map'.group := by
  decide

theorem searchMap_of_mem (map : CanRegisterMapping) (hmem : map ∈ canRegisterMappingTable)
    {address : Nat} (hle : map.start ≤ address) (hlt : address < map.start + map.size) :
    searchMap address = some map.group := by
  unfold searchMap
  cases hfind : canRegisterMappingTable.find? fun map =>
      map.start ≤ address ∧ address < map.start + map.size with
  | none =>
    have hnot := List.find?_eq_none.mp hfind map hmem
    simp only [decide_eq_true_eq, not_and, Nat.not_lt] at hnot
    exact absurd hlt (Nat.not_lt.mpr (hnot hle))
  | some found =>
    have hrange := List.find?_some hfind
    simp only [decide_eq_true_eq] at hrange
    have heq := table_disjoint found (List.mem_of_find?_eq_some hfind) map hmem (by omega) (by omega)
    exact congrArg some heq

/-- The control registers that a handler of a write clears. -/
theorem table_low : ∀ map ∈ canRegisterMappingTable,
    map.group = .cfpctr ∨ map.group = .rfpctr ∨ map.group = .txqpctr ∨ map.group = .thlpctr →
      map.start + map.size ≤ 0x500 := by
  decide

namespace CanDevice

/-- The handlers of the modes write in the control registers only. -/
theorem memory_hook {address i : Nat} (hi : 0x500 ≤ i) (ioType : CanRegisterIo) (d : CanDevice) :
    (d.canRegisterMappingIo ioType address).memory i = d.memory i := by
  by_cases hin : canRegGetAlignedAddr address ≤ i ∧ i < canRegGetAlignedAddr address + 4
  · have hfar : 0x4FC < canRegGetAlignedAddr address := by omega
    have hchannel : ¬ address < 16 * canChannelNum := by
      unfold canRegGetAlignedAddr at hfar
      show ¬ address < 16 * 6
      omega
    have hgcfg : canRegGetAlignedAddr address ≠ canRegRSCANnGCFG := by
      unfold canRegRSCANnGCFG
      omega
    have hgctr : canRegGetAlignedAddr address ≠ canRegRSCANnGCTR := by
      unfold canRegRSCANnGCTR
      omega
    have hgsts : canRegGetAlignedAddr address ≠ canRegRSCANnGSTS := by
      unfold canRegRSCANnGSTS
      omega
    unfold canRegisterMappingIo
    rw [if_neg hchannel, if_neg hgcfg, if_neg hgctr, if_neg hgsts]
  · exact memory_hook_outside (by omega)

theorem memory_put {i : Nat} (hi : 0x500 ≤ i) (size : AccessSize) (address : Nat)
    (data : BitVec 32) (d : CanDevice) :
    (d.put size address data).memory i = storeBytes size.bytes address data d.memory i :=
  memory_hook hi .write (d.stored size address data)

theorem memory_get {i : Nat} (hi : 0x500 ≤ i) (address : Nat) (d : CanDevice) :
    (d.get address).memory i = d.memory i :=
  memory_hook hi .read d

end CanDevice

namespace CanController

variable {s s' : CanController}

/-- A handler of a write can clear its control register. -/
theorem memory_writeHook {group : CanRegisterGroup} {address i : Nat} (hi : 0x500 ≤ i)
    (hgroup : searchMap address = some group) (h : s.writeHook group address = some s') :
    s'.memory i = s.memory i := by
  obtain ⟨map, hmem, heq, hle, hlt⟩ := searchMap_bounds hgroup
  have hlow : group = .cfpctr ∨ group = .rfpctr ∨ group = .txqpctr ∨ group = .thlpctr →
      canRegGetAlignedAddr address + 4 ≤ i := by
    intro hpctr
    rw [← heq] at hpctr
    have hend := table_low map hmem hpctr
    unfold canRegGetAlignedAddr
    omega
  have hkept : KeptByHook group address fun t => t.memory i = s.memory i :=
    { dlcError := fun _ _ ht => ht
      rules := fun _ _ _ _ _ ht => ht
      rxBuffer := fun _ _ ht => ht
      rxFifo := fun _ _ _ ht => ht
      txrxFifo := fun _ _ _ _ ht => ht
      staged := fun _ _ ht => ht
      txBuffer := fun _ _ _ _ _ ht => ht
      txIntrEnable := fun _ _ ht => ht
      txQueue := fun _ _ _ _ ht => ht
      txHistory := fun _ _ _ _ ht => ht
      cleared := fun hpctr t ht => (write_of_ne 0 t.memory (Or.inr (hlow hpctr))).trans ht }
  exact hkept.keeps rfl h

/-- A store leaves its bytes in the registers of the messages. -/
theorem memory_put {size : AccessSize} {address i : Nat} {data : BitVec 32} (hi : 0x500 ≤ i)
    (h : s.put size address data = some s') :
    s'.memory i = storeBytes size.bytes address data s.memory i := by
  have hafter : (s.afterStore size address data).memory i =
      storeBytes size.bytes address data s.memory i :=
    CanDevice.memory_put hi size address data s.toCanDevice
  rw [put_eq] at h
  cases hgroup : searchMap address with
  | none =>
    simp only [hgroup] at h
    cases h
    exact hafter
  | some group =>
    simp only [hgroup] at h
    rw [memory_writeHook hi hgroup h]
    exact hafter

/-- A load writes at most its own register. -/
theorem memory_get {address i : Nat} (indeterminate : BitVec 32) (hi : 0x500 ≤ i)
    (hout : i < canRegGetAlignedAddr address ∨ canRegGetAlignedAddr address + 4 ≤ i) :
    (s.get address indeterminate).memory i = s.memory i := by
  have hdevice := CanDevice.memory_get hi address s.toCanDevice
  have hne : i ≠ address := by
    unfold canRegGetAlignedAddr at hout
    omega
  unfold get
  cases searchMap address with
  | none => exact hdevice
  | some group =>
    dsimp only
    generalize readWord group address indeterminate _ = word
    generalize readByte group address _ = byte
    cases word with
    | some word => exact (write_of_ne word _ hout).trans hdevice
    | none =>
      cases byte with
      | some byte => exact (Function.update_of_ne hne ..).trans hdevice
      | none => exact hdevice

/-- A load whose handler writes its register. -/
theorem memory_get_of_group {address i : Nat} {group : CanRegisterGroup} {word : BitVec 32}
    (hi : 0x500 ≤ i) (hgroup : searchMap address = some group) (indeterminate : BitVec 32)
    (hword : readWord group address indeterminate
      { s with toCanDevice := s.toCanDevice.get address } = some word) :
    (s.get address indeterminate).memory i =
      canRegisterWriteData32 (canRegGetAlignedAddr address) word s.memory i := by
  have hdevice := CanDevice.memory_get hi address s.toCanDevice
  unfold get
  rw [hgroup]
  dsimp only
  rw [hword]
  exact storeBytes_congr hdevice

end CanController

/-- The bytes that software wrote last, after one more event. -/
def CanEvent.written (event : CanEvent) (bytes : CanMemory) : CanMemory :=
  match event with
  | .put size address data => storeBytes size.bytes address data bytes
  | _ => bytes

/-- A store that crosses no register boundary changes one register. -/
theorem storeBytes_within {size : AccessSize} {address i : Nat} {data : BitVec 32}
    {memory : CanMemory} (hwithin : address % 4 + size.bytes ≤ 4)
    (hout : i < canRegGetAlignedAddr address ∨ canRegGetAlignedAddr address + 4 ≤ i) :
    storeBytes size.bytes address data memory i = memory i := by
  refine storeBytes_outside ?_
  unfold canRegGetAlignedAddr at hout
  omega

end Athrill
