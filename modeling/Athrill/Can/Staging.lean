import Athrill.Can.Memory

/-!
# The message of the transmit FIFOs

The registers of all TXRX FIFOs write into one message, `txrx_tx_fifodata`,
that the pointer control register of any transmit FIFO queues and clears.  What
is queued is the message of that FIFO only if nobody else has written a part of
it, and if the flags of the identifier, which are lost, are clear.

* `fifoBase`, `decodeFifo`: the registers of a FIFO.
* `Staging`, `fifoWatch`: what software wrote last, and who wrote each part.
* `QueuesMessage`: the stores that queue a message.
* `StagedProperly`, `staged_exact`: the runs in which the message is the one of
  its own registers.
-/

namespace Athrill

open CanController

/-! ## The registers of a FIFO -/

/-- The address of `RSCANnCFIDk`. -/
def fifoBase (k : Nat) : Nat := 0x0E80 + 16 * k

/-- The message in the registers of a TXRX FIFO. -/
def decodeFifo (bytes : CanMemory) (k : Nat) : CanData := decodeMessage 0xFFF bytes (fifoBase k)

/-- The number of the FIFO whose registers hold an address. -/
def fifoNumber (address : Nat) : Nat := groupIndex address 0x0E80 16

/-- The number of the FIFO that a pointer control register belongs to. -/
def cfpctrNumber (address : Nat) : Nat := groupIndex address 0x01D8 4

theorem searchMap_txrxFifo {address : Nat} (hle : 0x0E80 ≤ address) (hlt : address < 0x0FA0) :
    searchMap address = some .txrxFifo := by
  have hmem : ⟨0x0E80, 16 * 18, .txrxFifo⟩ ∈ canRegisterMappingTable := by
    simp [canRegisterMappingTable]
  exact searchMap_of_mem _ hmem hle hlt

theorem bounds_of_txrxFifo {address : Nat} (h : searchMap address = some .txrxFifo) :
    0x0E80 ≤ address ∧ address < 0x0FA0 := by
  obtain ⟨map, hmem, heq, hle, hlt⟩ := searchMap_bounds h
  have hone : ∀ map ∈ canRegisterMappingTable, map.group = .txrxFifo →
      map.start = 0x0E80 ∧ map.size = 0x120 := by
    decide
  obtain ⟨hstart, hsize⟩ := hone map hmem heq
  omega

/-- The handler of an address works on the FIFO whose registers hold it. -/
theorem txrxFifo_address {address : Nat} (h : searchMap address = some .txrxFifo) :
    canRegGetAlignedAddr address =
        fifoBase (fifoNumber address) + canRegGetAlignedAddr address % 16 ∧
      IsMessageRegister (canRegGetAlignedAddr address % 16) ∧ fifoNumber address < 18 := by
  obtain ⟨hle, hlt⟩ := bounds_of_txrxFifo h
  unfold fifoBase fifoNumber groupIndex IsMessageRegister canRegGetAlignedAddr
  omega

/-! ## Who wrote the message -/

/-- The bytes that software wrote last, and for each register the FIFO that the
part in the message comes from. -/
structure Staging where
  bytes : CanMemory
  stager : Nat → Option Nat

/-- A store to a register of a transmit FIFO. -/
def StagesPart (address : Nat) (s : CanController) : Prop :=
  searchMap address = some .txrxFifo ∧
    (s.txrxFifoAt (fifoNumber address)).config.mode = canTxrxFifoModeTx

instance (address : Nat) (s : CanController) : Decidable (StagesPart address s) :=
  inferInstanceAs (Decidable (_ ∧ _))

/-- A store to a register of a transmit FIFO makes it the origin of that part;
a message that is cleared has no origin. -/
def Staging.after (event : CanEvent) (s s' : CanController) (staging : Staging) : Staging :=
  let cleared := if s'.txrxTxFifodata = zeroCanData then fun _ => none else staging.stager
  { bytes := event.written staging.bytes
    stager := match event with
      | .put _ address _ =>
        if StagesPart address s then
          Function.update staging.stager (canRegGetAlignedAddr address % 16)
            (some (fifoNumber address))
        else cleared
      | _ => cleared }

section After

variable {address : Nat} {s : CanController}

theorem Staging.stager_of_stages (h : StagesPart address s) (size : AccessSize)
    (data : BitVec 32) (s' : CanController) (staging : Staging) :
    (staging.after (.put size address data) s s').stager =
      Function.update staging.stager (canRegGetAlignedAddr address % 16)
        (some (fifoNumber address)) :=
  if_pos h

theorem Staging.stager_of_not (h : ¬ StagesPart address s) (size : AccessSize)
    (data : BitVec 32) (s' : CanController) (staging : Staging) :
    (staging.after (.put size address data) s s').stager =
      if s'.txrxTxFifodata = zeroCanData then fun _ => none else staging.stager :=
  if_neg h

end After

/-- The controller beside what software wrote last. -/
def fifoWatch : TransitionSystem (CanController × Staging) CanEvent where
  init w := w = (initialCan, { bytes := fun _ => 0, stager := fun _ => none })
  step event w w' := canController.step event w.1 w'.1 ∧ w'.2 = w.2.after event w.1 w'.1

/-- The store writes 0xFF into the pointer control register of a transmit
FIFO. -/
def QueuesMessage (size : AccessSize) (address : Nat) (data : BitVec 32) (s : CanController) :
    Prop :=
  searchMap address = some .cfpctr ∧
    (s.afterStore size address data).word address &&& 0xFF = 0xFF ∧
    (s.txrxFifoAt (cfpctrNumber address)).config.mode = canTxrxFifoModeTx

/-- The part of the message that an origin has given. -/
def stagedPart (bytes : CanMemory) (stager : Option Nat) (reg : Nat) : CanData :=
  match stager with
  | some k => (decodeFifo bytes k).part reg
  | none => zeroCanData

/-- The store crosses no boundary between the registers of the FIFOs. -/
def KeepsBoundaries (size : AccessSize) (address : Nat) : Prop :=
  address % 4 + size.bytes ≤ 4 ∨ address + size.bytes ≤ 0x0E80 ∨ 0x0FA0 ≤ address

/-- The condition on a step.  A store to the registers of the FIFOs crosses no
register boundary; in transmit mode the register holds what software wrote to
it before, in another mode it changes no part that the message has from it; and
a message is queued with all parts from its own FIFO and without the flags of
the identifier. -/
def StagedProperly (event : CanEvent) (w : CanController × Staging) : Prop :=
  match event with
  | .put size address data =>
    let reg := canRegGetAlignedAddr address % 16
    let k := fifoNumber address
    let stored := storeBytes size.bytes address data
    KeepsBoundaries size address ∧
      (StagesPart address w.1 →
        (decodeFifo (stored w.1.memory) k).part reg =
          (decodeFifo (stored w.2.bytes) k).part reg) ∧
      (searchMap address = some .txrxFifo → ¬ StagesPart address w.1 →
        w.2.stager reg = some k →
          (decodeFifo (stored w.2.bytes) k).part reg = (decodeFifo w.2.bytes k).part reg) ∧
      (QueuesMessage size address data w.1 →
        (decodeFifo w.2.bytes (cfpctrNumber address)).ide = false ∧
          (decodeFifo w.2.bytes (cfpctrNumber address)).rtr = false ∧
          ∀ reg, IsMessageRegister reg →
            w.2.stager reg = some (cfpctrNumber address) ∨
              w.2.stager reg = none ∧
                (decodeFifo w.2.bytes (cfpctrNumber address)).part reg = zeroCanData)
  | _ => True

/-- The message has no flag of the identifier, and each part from its origin. -/
structure StagedOk (w : CanController × Staging) : Prop where
  ide : w.1.txrxTxFifodata.ide = false
  rtr : w.1.txrxTxFifodata.rtr = false
  origin : ∀ reg k, w.2.stager reg = some k → k < 18
  part : ∀ reg, IsMessageRegister reg →
    w.1.txrxTxFifodata.part reg = stagedPart w.2.bytes (w.2.stager reg) reg

theorem part_zeroCanData (reg : Nat) : zeroCanData.part reg = zeroCanData := by
  unfold CanData.part
  split
  · rfl
  · rfl
  · rw [zeroCanData]
    simp
  · rw [zeroCanData]
    simp
  · rfl

/-! ## Stores -/

section Stores

variable {s s' : CanController} {size : AccessSize} {address : Nat} {data : BitVec 32}

/-- A store to another register keeps the message or clears it. -/
theorem staged_put (hmap : searchMap address ≠ some .txrxFifo)
    (h : s.put size address data = some s') :
    s'.txrxTxFifodata = s.txrxTxFifodata ∨ s'.txrxTxFifodata = zeroCanData := by
  have hafter : (s.afterStore size address data).txrxTxFifodata = s.txrxTxFifodata ∨
      (s.afterStore size address data).txrxTxFifodata = zeroCanData := by
    refine afterStore_induction
      (R := fun s s' => s'.txrxTxFifodata = s.txrxTxFifodata ∨ s'.txrxTxFifodata = zeroCanData)
      (fun _ => Or.inl rfl) (fun t t' t'' h h' => ?_) (fun _ _ => Or.inl rfl)
      (fun _ => Or.inr rfl) (fun _ _ => Or.inl rfl) size address data s
    rcases h' with h' | h'
    · rw [h']
      exact h
    · exact Or.inr h'
  rw [put_eq] at h
  cases hgroup : searchMap address with
  | none =>
    simp only [hgroup] at h
    cases h
    exact hafter
  | some group =>
    simp only [hgroup] at h
    cases group with
    | txrxFifo => exact absurd hgroup hmap
    | rxRule =>
      unfold writeHook writeRule at h
      dsimp only at h
      split_ifs at h
      cases h
      exact hafter
    | cfpctr =>
      cases h
      unfold writeCfpctr
      dsimp only
      split_ifs
      · exact Or.inr rfl
      · exact hafter
      · exact hafter
    | rfpctr =>
      cases h
      unfold writeRfpctr
      dsimp only
      split_ifs <;> exact hafter
    | txqpctr =>
      cases h
      unfold writeTxqpctr
      dsimp only
      split_ifs <;> exact hafter
    | thlpctr =>
      cases h
      unfold writeThlpctr
      dsimp only
      split_ifs <;> exact hafter
    | _ =>
      cases h
      exact hafter

/-- A store to a register of a FIFO. -/
theorem staged_put_txrxFifo (hmap : searchMap address = some .txrxFifo)
    (h : s.put size address data = some s') :
    s'.txrxTxFifodata =
      if StagesPart address s then
        writeTxrxFifo (canRegGetAlignedAddr address % 16)
          (canRegisterReadData32 (canRegGetAlignedAddr address) s'.memory) s.txrxTxFifodata
      else s.txrxTxFifodata := by
  rw [put_of_group hmap nofun nofun] at h
  cases h
  unfold writeTxrxFifodata
  dsimp only
  by_cases hstages : StagesPart address s
  · have hmode : (s.txrxFifo (txrxFifoCid (groupIndex address 0x0E80 16))
        (txrxFifoBid (groupIndex address 0x0E80 16))).config.mode = canTxrxFifoModeTx := hstages.2
    rw [if_pos hstages, if_pos hmode]
    rfl
  · have hmode : ¬ (s.txrxFifo (txrxFifoCid (groupIndex address 0x0E80 16))
        (txrxFifoBid (groupIndex address 0x0E80 16))).config.mode = canTxrxFifoModeTx :=
      fun hmode => hstages ⟨hmap, hmode⟩
    rw [if_neg hstages, if_neg hmode]

/-- A store that queues a message. -/
theorem put_queuesMessage (hqueues : QueuesMessage size address data s)
    (h : s.put size address data = some s') :
    s'.txrxFifoAt (cfpctrNumber address) =
      (canTxrxfifoPutTxdata s.txrxTxFifodata (s.txrxFifoAt (cfpctrNumber address))).2 := by
  obtain ⟨hmap, hword, hmode⟩ := hqueues
  rw [afterStore_of_group hmap nofun nofun] at hword
  rw [put_of_group hmap nofun nofun] at h
  cases h
  have htaken : ∀ t : CanController, t.txrxFifo = s.txrxFifo →
      t.txrxTxFifodata = s.txrxTxFifodata → t.word address &&& 0xFF = 0xFF →
      (t.writeCfpctr address).txrxFifoAt (cfpctrNumber address) =
        (canTxrxfifoPutTxdata s.txrxTxFifodata (s.txrxFifoAt (cfpctrNumber address))).2 := by
    intro t hfifo hdata hword
    have hmode' : (t.txrxFifo (txrxFifoCid (cfpctrNumber address))
        (txrxFifoBid (cfpctrNumber address))).config.mode = canTxrxFifoModeTx := by
      rw [hfifo]
      exact hmode
    unfold cfpctrNumber at hmode' ⊢
    unfold writeCfpctr txrxFifoAt
    dsimp only
    rw [if_pos hword, if_pos hmode', ← hfifo, ← hdata]
    show Function.update t.txrxFifo _ _ _ _ = _
    rw [Function.update_self]
    show Function.update (t.txrxFifo _) _ _ _ = _
    rw [Function.update_self]
  exact htaken _ rfl rfl hword

/-- A store changes the part of its own register only. -/
theorem decodeFifo_part_outside {reg k : Nat} (hkeeps : KeepsBoundaries size address)
    (hreg : IsMessageRegister reg) (hk : k < 18)
    (hother : ¬ (searchMap address = some .txrxFifo ∧ reg = canRegGetAlignedAddr address % 16 ∧
      k = fifoNumber address)) (data : BitVec 32) (bytes : CanMemory) :
    (decodeFifo (storeBytes size.bytes address data bytes) k).part reg =
      (decodeFifo bytes k).part reg := by
  have hle : reg ≤ 12 ∧ reg % 4 = 0 := by
    rcases hreg with rfl | rfl | rfl | rfl <;> omega
  have hbase : fifoBase k = 0x0E80 + 16 * k := rfl
  refine decodeMessage_part_congr hreg fun i hi => ?_
  rcases hkeeps with hwithin | hbelow | habove
  · refine storeBytes_within hwithin ?_
    by_cases hmap : searchMap address = some .txrxFifo
    · obtain ⟨haddr, hreg', hlt⟩ := txrxFifo_address hmap
      have hle' : canRegGetAlignedAddr address % 16 ≤ 12 ∧
          canRegGetAlignedAddr address % 16 % 4 = 0 := by
        rcases hreg' with h | h | h | h <;> omega
      have hbase' : fifoBase (fifoNumber address) = 0x0E80 + 16 * fifoNumber address := rfl
      have hne : ¬ (reg = canRegGetAlignedAddr address % 16 ∧ k = fifoNumber address) :=
        fun heq => hother ⟨hmap, heq⟩
      omega
    · have hout : ¬ (0x0E80 ≤ address ∧ address < 0x0FA0) := fun h =>
        hmap (searchMap_txrxFifo h.1 h.2)
      unfold canRegGetAlignedAddr
      omega
  · exact storeBytes_outside (by omega)
  · exact storeBytes_outside (by omega)

end Stores

namespace StagedOk

variable {w : CanController × Staging} {s' : CanController}

/-- A step that keeps the message, or clears it, and the bytes of its parts. -/
theorem kept (h : StagedOk w) {bytes : CanMemory}
    (hdata : s'.txrxTxFifodata = w.1.txrxTxFifodata ∨ s'.txrxTxFifodata = zeroCanData)
    (hbytes : ∀ reg k, IsMessageRegister reg → w.2.stager reg = some k →
      (decodeFifo bytes k).part reg = (decodeFifo w.2.bytes k).part reg) :
    StagedOk (s', { bytes := bytes
                    stager := if s'.txrxTxFifodata = zeroCanData then fun _ => none
                      else w.2.stager }) := by
  by_cases hzero : s'.txrxTxFifodata = zeroCanData
  · rw [if_pos hzero]
    refine ⟨?_, ?_, nofun, fun reg _ => ?_⟩
    · exact congrArg CanData.ide hzero
    · exact congrArg CanData.rtr hzero
    · show s'.txrxTxFifodata.part reg = zeroCanData
      rw [hzero, part_zeroCanData]
  · have hsame := hdata.resolve_right hzero
    rw [if_neg hzero]
    refine ⟨?_, ?_, h.origin, fun reg hreg => ?_⟩
    · show s'.txrxTxFifodata.ide = false
      rw [hsame]
      exact h.ide
    · show s'.txrxTxFifodata.rtr = false
      rw [hsame]
      exact h.rtr
    · show s'.txrxTxFifodata.part reg = stagedPart bytes (w.2.stager reg) reg
      rw [hsame, h.part reg hreg]
      cases hstager : w.2.stager reg with
      | none => rfl
      | some k => exact (hbytes reg k hreg hstager).symm

theorem put (h : StagedOk w) {size : AccessSize} {address : Nat} {data : BitVec 32}
    (hproper : StagedProperly (.put size address data) w)
    (hput : w.1.put size address data = some s') :
    StagedOk (s', w.2.after (.put size address data) w.1 s') := by
  obtain ⟨hkeeps, hstored, hidle, _⟩ := hproper
  by_cases hstages : StagesPart address w.1
  · have hmap := hstages.1
    obtain ⟨haddr, hreg, hlt⟩ := txrxFifo_address hmap
    have hdata := staged_put_txrxFifo hmap hput
    rw [if_pos hstages] at hdata
    have hafter : w.2.after (.put size address data) w.1 s' =
        { bytes := storeBytes size.bytes address data w.2.bytes
          stager := Function.update w.2.stager (canRegGetAlignedAddr address % 16)
            (some (fifoNumber address)) } :=
      congrArg (Staging.mk (storeBytes size.bytes address data w.2.bytes))
        (Staging.stager_of_stages hstages size data s' w.2)
    rw [hafter]
    obtain ⟨hide, hrtr⟩ := writeTxrxFifo_flags (canRegGetAlignedAddr address % 16)
      (canRegisterReadData32 (canRegGetAlignedAddr address) s'.memory) w.1.txrxTxFifodata
    refine ⟨?_, ?_, fun reg k hstager => ?_, fun reg hreg' => ?_⟩
    · show s'.txrxTxFifodata.ide = false
      rw [hdata, hide]
      exact h.ide
    · show s'.txrxTxFifodata.rtr = false
      rw [hdata, hrtr]
      exact h.rtr
    · by_cases hr : reg = canRegGetAlignedAddr address % 16
      · rw [hr] at hstager
        dsimp only at hstager
        rw [Function.update_self] at hstager
        rw [← Option.some.inj hstager]
        exact hlt
      · dsimp only at hstager
        rw [Function.update_of_ne hr] at hstager
        exact h.origin reg k hstager
    · show s'.txrxTxFifodata.part reg = stagedPart (storeBytes size.bytes address data w.2.bytes)
        (Function.update w.2.stager _ _ reg) reg
      rw [hdata]
      by_cases hr : reg = canRegGetAlignedAddr address % 16
      · -- the part of the register that is written
        have hbytes : ∀ i, i < 4 →
            s'.memory (fifoBase (fifoNumber address) + canRegGetAlignedAddr address % 16 + i) =
              storeBytes size.bytes address data w.1.memory
                (fifoBase (fifoNumber address) + canRegGetAlignedAddr address % 16 + i) := by
          intro i _
          have hbase : fifoBase (fifoNumber address) = 0x0E80 + 16 * fifoNumber address := rfl
          exact memory_put (by omega) hput
        have hpart := writeTxrxFifo_part hreg s'.memory (fifoBase (fifoNumber address))
          w.1.txrxTxFifodata
        rw [← haddr] at hpart
        rw [hr, Function.update_self, hpart]
        exact (decodeMessage_part_congr hreg hbytes).trans (hstored hstages)
      · rw [Function.update_of_ne hr, writeTxrxFifo_part_of_ne hreg hreg' hr, h.part reg hreg']
        cases hstager : w.2.stager reg with
        | none => rfl
        | some k =>
          exact (decodeFifo_part_outside hkeeps hreg' (h.origin reg k hstager)
            (fun hown => hr hown.2.1) data w.2.bytes).symm
  · have hafter : w.2.after (.put size address data) w.1 s' =
        { bytes := storeBytes size.bytes address data w.2.bytes
          stager := if s'.txrxTxFifodata = zeroCanData then fun _ => none else w.2.stager } :=
      congrArg (Staging.mk (storeBytes size.bytes address data w.2.bytes))
        (Staging.stager_of_not hstages size data s' w.2)
    rw [hafter]
    refine h.kept ?_ fun reg k hreg hstager => ?_
    · by_cases hmap : searchMap address = some .txrxFifo
      · have hdata := staged_put_txrxFifo hmap hput
        rw [if_neg hstages] at hdata
        exact Or.inl hdata
      · exact staged_put hmap hput
    · by_cases hown : searchMap address = some .txrxFifo ∧
          reg = canRegGetAlignedAddr address % 16 ∧ k = fifoNumber address
      · obtain ⟨hmap, hr, hk⟩ := hown
        rw [hr, hk] at hstager ⊢
        exact hidle hmap hstages hstager
      · exact decodeFifo_part_outside hkeeps hreg (h.origin reg k hstager) hown data w.2.bytes

end StagedOk

/-! ## Runs -/

theorem stagedOk_init :
    StagedOk (initialCan, { bytes := fun _ => 0, stager := fun _ => none }) :=
  ⟨rfl, rfl, nofun, fun reg _ => part_zeroCanData reg⟩

theorem stagedOk_invariant : (fifoWatch.guarded StagedProperly).Invariant StagedOk where
  init w hw := by
    cases hw
    exact stagedOk_init
  step event w w' h hstep := by
    obtain ⟨hproper, ⟨outputs, hstep⟩, hafter⟩ := hstep
    obtain ⟨s', staging⟩ := w'
    have hstaging : staging = w.2.after event w.1 s' := hafter
    rw [hstaging]
    cases event with
    | put size address data =>
      obtain ⟨mid, hput, heq⟩ := Option.map_eq_some_iff.mp hstep
      cases heq
      exact h.put hproper hput
    | get size address indeterminate =>
      have heq : s' = w.1.get address indeterminate :=
        (congrArg Prod.fst (Option.some.inj hstep)).symm
      obtain ⟨memory, hget⟩ := get_eq address indeterminate w.1
      rw [hget] at heq
      refine h.kept (Or.inl ?_) fun _ _ _ _ => rfl
      rw [heq]
    | clock bus => exact h.kept (Or.inl (clock_clockStep hstep).txrxTxFifodata) fun _ _ _ _ => rfl

/-- Registers other than those of the FIFOs and their pointers. -/
theorem stagedProperly_other {size : AccessSize} {address : Nat} {data : BitVec 32}
    {w : CanController × Staging} (hkeeps : KeepsBoundaries size address)
    (hdata : searchMap address ≠ some .txrxFifo) (hpctr : searchMap address ≠ some .cfpctr) :
    StagedProperly (.put size address data) w :=
  ⟨hkeeps, fun hstages => absurd hstages.1 hdata, fun hmap => absurd hmap hdata,
    fun hqueues => absurd hqueues.1 hpctr⟩

/-- A word store to a register of a transmit FIFO. -/
theorem stagedProperly_word {address : Nat} {data : BitVec 32} {w : CanController × Staging}
    (haligned : address % 4 = 0) (hstages : StagesPart address w.1) :
    StagedProperly (.put .word address data) w := by
  obtain ⟨haddr, hreg, _⟩ := txrxFifo_address hstages.1
  refine ⟨Or.inl ?_, fun _ => ?_, fun _ hnot => absurd hstages hnot, fun hqueues => ?_⟩
  · show address % 4 + 4 ≤ 4
    omega
  · refine decodeMessage_part_congr hreg fun i hi => ?_
    have halready : canRegGetAlignedAddr address = address := by
      unfold canRegGetAlignedAddr
      omega
    have hsize : AccessSize.word.bytes = 4 := rfl
    rw [← haddr, halready]
    have hin : address ≤ address + i ∧ address + i < address + AccessSize.word.bytes := by
      rw [hsize]
      omega
    unfold storeBytes
    rw [if_pos hin, if_pos hin]
  · have hmap := hqueues.1
    rw [hstages.1] at hmap
    cases hmap

/-- In the runs that meet the condition, the message that a transmit FIFO is
given is the decoding of the bytes that software wrote last to its own
registers. -/
theorem staged_exact {w w' : CanController × Staging} {size : AccessSize} {address : Nat}
    {data : BitVec 32} (h : (fifoWatch.guarded StagedProperly).Reachable w)
    (hstep : (fifoWatch.guarded StagedProperly).step (.put size address data) w w')
    (hqueues : QueuesMessage size address data w.1) :
    w'.1.txrxFifoAt (cfpctrNumber address) =
      (canTxrxfifoPutTxdata (decodeFifo w.2.bytes (cfpctrNumber address))
        (w.1.txrxFifoAt (cfpctrNumber address))).2 := by
  have hok := stagedOk_invariant.of_reachable h
  obtain ⟨⟨_, _, _, hown⟩, ⟨outputs, hstep⟩, _⟩ := hstep
  obtain ⟨mid, hput, heq⟩ := Option.map_eq_some_iff.mp hstep
  have hmid : w'.1 = mid := (congrArg Prod.fst heq).symm
  obtain ⟨hide, hrtr, hparts⟩ := hown hqueues
  have hmessage : w.1.txrxTxFifodata = decodeFifo w.2.bytes (cfpctrNumber address) := by
    refine CanData.eq_of_parts (hok.ide.trans hide.symm) (hok.rtr.trans hrtr.symm) fun reg hreg => ?_
    rw [hok.part reg hreg]
    rcases hparts reg hreg with hstager | ⟨hstager, hzero⟩
    · rw [hstager]
      rfl
    · rw [hstager, hzero]
      rfl
  rw [hmid, put_queuesMessage hqueues hput, hmessage]

/-- FIFO 0 in transmit mode is given the identifier that was written to it. -/
theorem staged_exact_one :
    ∃ w w', (fifoWatch.guarded StagedProperly).Reachable w ∧
      (fifoWatch.guarded StagedProperly).step (.put .word 0x01D8 0xFF) w w' ∧
      w'.1.txrxFifoAt 0 =
        (canTxrxfifoPutTxdata (decodeFifo w.2.bytes 0) (w.1.txrxFifoAt 0)).2 ∧
      (decodeFifo w.2.bytes 0).id = 5 := by
  have hview : (initialCan.put .word 0x0118 0x10101).bind (fun s₁ =>
      (s₁.put .word 0x0E80 5).bind fun s₂ => (s₂.put .word 0x01D8 0xFF).map fun _ =>
        decide ((s₁.txrxFifoAt 0).config.mode = canTxrxFifoModeTx ∧
          (s₂.txrxFifoAt 0).config.mode = canTxrxFifoModeTx ∧
          (s₂.afterStore .word 0x01D8 0xFF).word 0x01D8 &&& 0xFF = 0xFF)) = some true := by
    decide +kernel
  obtain ⟨s₁, hfirst, hview⟩ := Option.bind_eq_some_iff.mp hview
  obtain ⟨s₂, hsecond, hview⟩ := Option.bind_eq_some_iff.mp hview
  obtain ⟨s₃, hthird, hview⟩ := Option.map_eq_some_iff.mp hview
  obtain ⟨hmode₁, hmode₂, hword⟩ := of_decide_eq_true hview
  have hput : ∀ {t t' : CanController} {address : Nat} {data : BitVec 32},
      t.put .word address data = some t' →
        canController.step (.put .word address data) t t' := by
    intro t t' address data h
    exact ⟨[], congrArg (Option.map fun s => (s, [])) h⟩
  let staging : Staging := { bytes := fun _ => 0, stager := fun _ => none }
  let staging₁ := staging.after (.put .word 0x0118 0x10101) initialCan s₁
  let staging₂ := staging₁.after (.put .word 0x0E80 5) s₁ s₂
  have hreach₁ : (fifoWatch.guarded StagedProperly).Reachable (s₁, staging₁) :=
    .step (.init rfl) ⟨stagedProperly_other (Or.inl (by decide)) (by decide) (by decide),
      hput hfirst, rfl⟩
  have hstages : StagesPart 0x0E80 s₁ := ⟨by decide, hmode₁⟩
  have hreach₂ : (fifoWatch.guarded StagedProperly).Reachable (s₂, staging₂) :=
    .step hreach₁ ⟨stagedProperly_word rfl hstages, hput hsecond, rfl⟩
  have hqueues : QueuesMessage .word 0x01D8 0xFF s₂ := ⟨by decide, hword, hmode₂⟩
  have hbytes : staging₂.bytes = storeBytes 4 0x0E80 5 (storeBytes 4 0x0118 0x10101 fun _ => 0) :=
    rfl
  have hid : (decodeFifo staging₂.bytes 0).id = 5 := by
    rw [hbytes]
    decide
  have hnone : ∀ reg, staging₁.stager reg = none := by
    intro reg
    have hother : ¬ StagesPart 0x0118 initialCan := fun hstages => absurd hstages.1 (by decide)
    have hcleared := Staging.stager_of_not hother .word 0x10101 s₁ staging
    rw [ite_self] at hcleared
    exact congrFun hcleared reg
  have hstager : staging₂.stager = Function.update staging₁.stager 0 (some 0) :=
    Staging.stager_of_stages hstages .word 5 s₂ staging₁
  have hproper : StagedProperly (.put .word 0x01D8 0xFF) (s₂, staging₂) := by
    refine ⟨Or.inl (by decide), fun hstages => absurd hstages.1 (by decide),
      fun hmap => absurd hmap (by decide), fun _ => ⟨?_, ?_, fun reg hreg => ?_⟩⟩
    · show (decodeFifo staging₂.bytes 0).ide = false
      rw [hbytes]
      decide
    · show (decodeFifo staging₂.bytes 0).rtr = false
      rw [hbytes]
      decide
    · show staging₂.stager reg = some 0 ∨ staging₂.stager reg = none ∧
        (decodeFifo staging₂.bytes 0).part reg = zeroCanData
      rw [hstager, hbytes]
      by_cases hr : reg = 0
      · rw [hr]
        exact Or.inl (Function.update_self ..)
      · refine Or.inr ⟨(Function.update_of_ne hr ..).trans (hnone reg), ?_⟩
        rcases hreg with rfl | rfl | rfl | rfl
        · exact absurd rfl hr
        · decide
        · rw [zeroCanData, CanData.part, CanData.mk.injEq]
          refine ⟨rfl, rfl, rfl, rfl, rfl, funext ?_⟩
          decide
        · rw [zeroCanData, CanData.part, CanData.mk.injEq]
          refine ⟨rfl, rfl, rfl, rfl, rfl, funext ?_⟩
          decide
  have hstep : (fifoWatch.guarded StagedProperly).step (.put .word 0x01D8 0xFF) (s₂, staging₂)
      (s₃, staging₂.after (.put .word 0x01D8 0xFF) s₂ s₃) :=
    ⟨hproper, hput hthird, rfl⟩
  exact ⟨_, _, hreach₂, hstep, staged_exact hreach₂ hstep hqueues, hid⟩

/-- The runs of the controller, with the bytes that they have written. -/
theorem exists_watched (events : List CanEvent) {s : CanController}
    (hrun : run events initialCan = some s) :
    ∃ staging, fifoWatch.Reachable (s, staging) ∧
      staging.bytes = events.foldl (fun bytes event => event.written bytes) fun _ => 0 := by
  have hall : ∀ (events : List CanEvent) (t : CanController) (staging : Staging),
      fifoWatch.Reachable (t, staging) → run events t = some s →
        ∃ staging', fifoWatch.Reachable (s, staging') ∧
          staging'.bytes = events.foldl (fun bytes event => event.written bytes) staging.bytes := by
    intro events
    induction events with
    | nil =>
      intro t staging hreach hrun
      cases hrun
      exact ⟨staging, hreach, rfl⟩
    | cons event events ih =>
      intro t staging hreach hrun
      obtain ⟨⟨t', outputs⟩, hstep, hrest⟩ := Option.bind_eq_some_iff.mp hrun
      exact ih t' (staging.after event t t') (.step hreach ⟨⟨outputs, hstep⟩, rfl⟩) hrest
  exact hall events initialCan _ (.init rfl) hrun

/-- Two transmit FIFOs whose identifiers are written before FIFO 0 is queued. -/
def interleavedStores : List CanEvent :=
  [.put .word 0x0118 0x10101, .put .word 0x011C 0x10101, .put .word 0x0E80 5, .put .word 0x0E90 7]

/-- FIFO 0 is given the identifier of FIFO 1. -/
theorem staged_interleaved :
    ∃ w w', fifoWatch.Reachable w ∧ fifoWatch.step (.put .word 0x01D8 0xFF) w w' ∧
      QueuesMessage .word 0x01D8 0xFF w.1 ∧
      w'.1.txrxFifoAt 0 ≠
        (canTxrxfifoPutTxdata (decodeFifo w.2.bytes 0) (w.1.txrxFifoAt 0)).2 := by
  have hview : (run interleavedStores initialCan).bind (fun s =>
      (s.put .word 0x01D8 0xFF).map fun s' =>
        decide ((s.afterStore .word 0x01D8 0xFF).word 0x01D8 &&& 0xFF = 0xFF ∧
          (s.txrxFifoAt 0).config.mode = canTxrxFifoModeTx ∧
          (s.txrxFifoAt 0).config.enableFifo = true ∧ (s.txrxFifoAt 0).fifoControl.count = 0 ∧
          (s.txrxFifoAt 0).cap = 4 ∧ (s.txrxFifoAt 0).fifoControl.woff = 0 ∧
          ((s'.txrxFifoAt 0).tx 0).id = 7)) = some true := by
    decide +kernel
  obtain ⟨s, hrun, hput⟩ := Option.bind_eq_some_iff.mp hview
  obtain ⟨s', hput, hfacts⟩ := Option.map_eq_some_iff.mp hput
  obtain ⟨hword, hmode, henable, hcount, hcap, hwoff, hid⟩ := of_decide_eq_true hfacts
  obtain ⟨staging, hreach, hbytes⟩ := exists_watched interleavedStores hrun
  refine ⟨(s, staging), (s', staging.after (.put .word 0x01D8 0xFF) s s'), hreach,
    ⟨⟨[], congrArg (Option.map fun s => (s, [])) hput⟩, rfl⟩, ⟨by decide, hword, hmode⟩, ?_⟩
  intro heq
  have hown : (decodeFifo staging.bytes 0).id = 5 := by
    rw [hbytes]
    decide
  have hqueued : (canTxrxfifoPutTxdata (decodeFifo staging.bytes 0) (s.txrxFifoAt 0)).2.tx 0 =
      decodeFifo staging.bytes 0 := by
    have hroom : ¬ (s.txrxFifoAt 0).fifoControl.count ≥ (s.txrxFifoAt 0).cap := by
      rw [hcount, hcap]
      decide
    unfold canTxrxfifoPutTxdata
    rw [if_neg (not_not.mpr hmode), if_neg (by rw [henable]; decide), if_neg hroom, hwoff]
    exact Function.update_self 0 (decodeFifo staging.bytes 0) (s.txrxFifoAt 0).tx
  have htx : (s'.txrxFifoAt 0).tx 0 = decodeFifo staging.bytes 0 := by
    rw [← hqueued]
    exact congrArg (fun fifo => fifo.tx 0) heq
  rw [htx, hown] at hid
  exact absurd hid (by decide)

end Athrill
