import Athrill.Can.Steps
import Athrill.Can.Words

/-!
# Indices into the tables of the reception

The rules of a channel follow those of the channels before it.  Software writes
the page, the counts and the receive-buffer numbers in fields that are wider
than the tables, and nothing checks them.

* `ruleStart`, `canRxUpdateRuleTable_eq`: the range of a channel.
* `IndicesInRange`: the page, the ranges and the receive buffers fit.
* `RulesOk`: a write that keeps them so.
* `indicesInRange_step`: exactly these writes do.
* `indices_in_range`: the runs of such writes.
-/

namespace Athrill

open CanController

/-! ## The ranges of the channels -/

/-- The number of the first rule of a channel. -/
def ruleStart (rxNumber : CanChannelId → Nat) (cid : CanChannelId) : Nat :=
  (((List.finRange canChannelNum).take cid.val).map rxNumber).sum

/-- The number of rules of all channels. -/
def ruleTotal (rxNumber : CanChannelId → Nat) : Nat :=
  ((List.finRange canChannelNum).map rxNumber).sum

theorem ruleTotal_eq (rxNumber : CanChannelId → Nat) :
    ruleTotal rxNumber =
      rxNumber 0 + (rxNumber 1 + (rxNumber 2 + (rxNumber 3 + (rxNumber 4 + rxNumber 5)))) := by
  rfl

/-- The rules of a channel come after those of the channels before it. -/
theorem canRxUpdateRuleTable_eq (rxNumber : CanChannelId → Nat) (cid : CanChannelId) :
    canRxUpdateRuleTable rxNumber cid =
      (List.range' (ruleStart rxNumber cid) (rxNumber cid)).map canRxRulePointer := by
  have hchannels : List.finRange canChannelNum = [0, 1, 2, 3, 4, 5] := rfl
  unfold canRxUpdateRuleTable ruleStart
  rw [hchannels]
  match cid with
  | 0 | 1 | 2 | 3 | 4 | 5 => simp [canChannelNum, Nat.add_assoc]

/-- The channels share the rules up to the total. -/
theorem exists_channel_iff {rxNumber : CanChannelId → Nat} {rid : Nat} :
    (∃ cid, ruleStart rxNumber cid ≤ rid ∧ rid < ruleStart rxNumber cid + rxNumber cid) ↔
      rid < ruleTotal rxNumber := by
  have hchannels : List.finRange canChannelNum = [0, 1, 2, 3, 4, 5] := rfl
  have hstart : ∀ cid, ruleStart rxNumber cid =
      (([0, 1, 2, 3, 4, 5].take cid.val).map rxNumber).sum := fun cid => by
    rw [ruleStart, hchannels]
  rw [ruleTotal_eq]
  simp only [hstart, Fin.exists_fin_succ]
  simp [canChannelNum]
  omega

/-! ## Indices in range -/

/-- The receive buffer of a rule exists, if the rule stores into one. -/
def BufferExists (rule : CanRxRule) : Prop :=
  rule.filterBuffer.enableRxbuffer = true →
    rule.filterBuffer.rxbufferNumber.toNat < canRxBufferNum

/-- Every index that the controller computes fits its table: the page of the
rule registers, the ranges of the channels, and the receive buffer of every
rule that a frame can match. -/
structure IndicesInRange (s : CanController) : Prop where
  page : s.rxRuleTable.pageNumber < canRxRuleTablePageNum
  ranges : ∀ cid, ruleStart s.rxNumber cid + s.rxNumber cid ≤
    canRxRuleTablePageNum * canRxPageRuleNum
  rules : ∀ cid, ∀ pointer ∈ s.rxChannelRule cid, pointer.pid < canRxRuleTablePageNum
  buffers : ∀ cid, ∀ pointer ∈ s.rxChannelRule cid, ∀ rule,
    s.rxRuleTable.rule pointer = some rule → ∀ frame,
    canRxProcFilterAcceptance rule frame = true →
    canRxProcFilterDlc s.modeGlobal.config.enableDlcCheck rule frame = true → BufferExists rule

/-- The counts end within the table, and the counted rules store into receive
buffers that exist. -/
def CountsFit (table : CanRxRuleTable) (rxNumber : CanChannelId → Nat) : Prop :=
  ruleTotal rxNumber ≤ canRxRuleTablePageNum * canRxPageRuleNum ∧
    ∀ rid, rid < ruleTotal rxNumber → ∀ rule,
      table.rule (canRxRulePointer rid) = some rule → BufferExists rule

/-- A store keeps the indices in range: the page exists, the counts fit, and a
counted rule gets a receive buffer that exists. -/
def RulesOk (event : CanEvent) (s : CanController) : Prop :=
  match event with
  | .put size address data =>
    let written :=
      (s.toCanDevice.put size address data).register (canRegGetAlignedAddr address)
    match searchMap address with
    | some .gaflectr => (written &&& 0x1F).toNat < canRxRuleTablePageNum
    | some .gaflcfg0 => CountsFit s.rxRuleTable (gaflcfg0 written s.rxNumber)
    | some .gaflcfg1 => CountsFit s.rxRuleTable (gaflcfg1 written s.rxNumber)
    | some .rxRule =>
      canRegGetAlignedAddr address % 16 = 0x8 →
        canRxPageRuleNum * s.rxRuleTable.pageNumber + groupIndex address 0x0500 16 %
          canRxPageRuleNum < ruleTotal s.rxNumber →
        canRegUpdateModelFlag written 15 = true →
        (((written >>> 8) &&& 0x7F).setWidth 8).toNat < canRxBufferNum
    | _ => True
  | _ => True

instance (rule : CanRxRule) : Decidable (BufferExists rule) :=
  inferInstanceAs (Decidable (_ → _))

instance (table : CanRxRuleTable) (rxNumber : CanChannelId → Nat) :
    Decidable (CountsFit table rxNumber) :=
  have hmem : (∀ rid, rid < ruleTotal rxNumber →
      ∀ rule ∈ table.rule (canRxRulePointer rid), BufferExists rule) ↔ ∀ rid,
        rid < ruleTotal rxNumber → ∀ rule, table.rule (canRxRulePointer rid) = some rule →
          BufferExists rule := Iff.rfl
  have : Decidable (∀ rid, rid < ruleTotal rxNumber → ∀ rule,
      table.rule (canRxRulePointer rid) = some rule → BufferExists rule) :=
    decidable_of_iff _ hmem
  inferInstanceAs (Decidable (_ ∧ _))

instance (event : CanEvent) (s : CanController) : Decidable (RulesOk event s) :=
  match event with
  | .put size address data => by
    unfold RulesOk
    dsimp only
    cases searchMap address with
    | none => exact .isTrue trivial
    | some group => cases group <;> infer_instance
  | .get _ _ _ => .isTrue trivial
  | .clock _ => .isTrue trivial

/-- Some frame matches a rule. -/
theorem exists_matching (enableDlcCheck : Bool) (rule : CanRxRule) :
    ∃ frame, canRxProcFilterAcceptance rule frame = true ∧
      canRxProcFilterDlc enableDlcCheck rule frame = true := by
  refine ⟨{ zeroCanData with
    ide := rule.id.ide, rtr := rule.id.rtr, id := rule.id.canid, dlc := rule.filterBuffer.dlc },
    ?_, ?_⟩
  · simp [canRxProcFilterAcceptance]
  · unfold canRxProcFilterDlc
    split_ifs
    · rfl
    · simp
    · rfl

/-- The ranges are those of the counts. -/
def RulesLinked (s : CanController) : Prop :=
  s.rxChannelRule = canRxUpdateRuleTable s.rxNumber

theorem mem_rxChannelRule {s : CanController} (hlinked : RulesLinked s)
    {pointer : CanRxRulePointer} :
    (∃ cid, pointer ∈ s.rxChannelRule cid) ↔
      ∃ rid, rid < ruleTotal s.rxNumber ∧ pointer = canRxRulePointer rid := by
  have hmem : ∀ cid, pointer ∈ s.rxChannelRule cid ↔ ∃ rid,
      (ruleStart s.rxNumber cid ≤ rid ∧ rid < ruleStart s.rxNumber cid + s.rxNumber cid) ∧
        canRxRulePointer rid = pointer := by
    intro cid
    rw [hlinked, canRxUpdateRuleTable_eq, List.mem_map]
    simp only [List.mem_range'_1]
  constructor
  · intro h
    obtain ⟨cid, hcid⟩ := h
    obtain ⟨rid, hrange, heq⟩ := (hmem cid).mp hcid
    exact ⟨rid, exists_channel_iff.mp ⟨cid, hrange⟩, heq.symm⟩
  · intro h
    obtain ⟨rid, hlt, heq⟩ := h
    obtain ⟨cid, hrange⟩ := exists_channel_iff.mpr hlt
    exact ⟨cid, (hmem cid).mpr ⟨rid, hrange, heq.symm⟩⟩

/-- The ranges end where the last one does. -/
theorem ranges_iff (rxNumber : CanChannelId → Nat) (size : Nat) :
    (∀ cid, ruleStart rxNumber cid + rxNumber cid ≤ size) ↔ ruleTotal rxNumber ≤ size := by
  have hchannels : List.finRange canChannelNum = [0, 1, 2, 3, 4, 5] := rfl
  have hstart : ∀ cid, ruleStart rxNumber cid =
      (([0, 1, 2, 3, 4, 5].take cid.val).map rxNumber).sum := fun cid => by
    rw [ruleStart, hchannels]
  rw [ruleTotal_eq]
  simp only [hstart, Fin.forall_fin_succ]
  simp [canChannelNum]
  omega

/-- The indices in terms of the table and the counts. -/
theorem indicesInRange_iff {s : CanController} (hlinked : RulesLinked s) :
    IndicesInRange s ↔
      s.rxRuleTable.pageNumber < canRxRuleTablePageNum ∧ CountsFit s.rxRuleTable s.rxNumber := by
  constructor
  · intro h
    refine ⟨h.page, (ranges_iff _ _).mp h.ranges, fun rid hrid rule hrule => ?_⟩
    obtain ⟨cid, hmem⟩ := (mem_rxChannelRule hlinked).mpr ⟨rid, hrid, rfl⟩
    obtain ⟨frame, haccept, hdlc⟩ := exists_matching s.modeGlobal.config.enableDlcCheck rule
    exact h.buffers cid _ hmem rule hrule frame haccept hdlc
  · intro h
    obtain ⟨hpage, htotal, hbuffers⟩ := h
    refine ⟨hpage, (ranges_iff _ _).mpr htotal, fun cid pointer hmem => ?_,
      fun cid pointer hmem rule hrule frame _ _ => ?_⟩
    · obtain ⟨rid, hrid, heq⟩ := (mem_rxChannelRule hlinked).mp ⟨cid, hmem⟩
      have hlt : rid < 24 * 16 := Nat.lt_of_lt_of_le hrid htotal
      rw [heq]
      show rid / 16 < 24
      omega
    · obtain ⟨rid, hrid, heq⟩ := (mem_rxChannelRule hlinked).mp ⟨cid, hmem⟩
      rw [heq] at hrule
      exact hbuffers rid hrid rule hrule

/-! ## Steps -/

/-- The reception rules are the same. -/
def SameRules (s s' : CanController) : Prop :=
  s'.rxRuleTable = s.rxRuleTable ∧ s'.rxNumber = s.rxNumber ∧ s'.rxChannelRule = s.rxChannelRule

theorem SameRules.trans {s s' s'' : CanController} (h : SameRules s s') (h' : SameRules s' s'') :
    SameRules s s'' :=
  ⟨h'.1.trans h.1, h'.2.1.trans h.2.1, h'.2.2.trans h.2.2⟩

namespace CanController

variable {s s' : CanController}

theorem afterStore_rules (size : AccessSize) (address : Nat) (data : BitVec 32)
    (s : CanController) : SameRules s (s.afterStore size address data) :=
  afterStore_induction (fun _ => ⟨rfl, rfl, rfl⟩) (fun _ _ _ h h' => h.trans h')
    (fun _ _ => ⟨rfl, rfl, rfl⟩) (fun _ => ⟨rfl, rfl, rfl⟩) (fun _ _ => ⟨rfl, rfl, rfl⟩) size
    address data s

/-- The groups whose handlers write rules. -/
def WritesRules (group : CanRegisterGroup) : Prop :=
  group = .gaflectr ∨ group = .gaflcfg0 ∨ group = .gaflcfg1 ∨ group = .rxRule

theorem writeHook_rules {group : CanRegisterGroup} (hgroup : ¬ WritesRules group) (address : Nat)
    (s : CanController) : ∃ s', s.writeHook group address = some s' ∧ SameRules s s' := by
  have hkept : KeptByHook group address (SameRules s) :=
    { dlcError := fun _ _ ht => ht
      rules := fun hwrites => absurd hwrites hgroup
      rxBuffer := fun _ _ ht => ht
      rxFifo := fun _ _ _ ht => ht
      txrxFifo := fun _ _ _ _ ht => ht
      staged := fun _ _ ht => ht
      txBuffer := fun _ _ _ _ _ ht => ht
      txIntrEnable := fun _ _ ht => ht
      txQueue := fun _ _ _ _ ht => ht
      txHistory := fun _ _ _ _ ht => ht
      cleared := fun _ _ ht => ht }
  obtain ⟨s', hs'⟩ : ∃ s', s.writeHook group address = some s' := by
    cases group with
    | rxRule => exact absurd (Or.inr (Or.inr (Or.inr rfl))) hgroup
    | _ => exact ⟨_, rfl⟩
  exact ⟨s', hs', hkept.keeps ⟨rfl, rfl, rfl⟩ hs'⟩

/-- A store outside the rule registers. -/
theorem put_rules {size : AccessSize} {address : Nat} {data : BitVec 32}
    (hgroup : ∀ group, searchMap address = some group → ¬ WritesRules group) :
    ∃ s', s.put size address data = some s' ∧ SameRules s s' := by
  have hafter := afterStore_rules size address data s
  rw [put_eq]
  cases hmap : searchMap address with
  | none => exact ⟨_, rfl, hafter⟩
  | some group =>
    obtain ⟨s', hs', hrules⟩ :=
      writeHook_rules (hgroup group hmap) address (s.afterStore size address data)
    exact ⟨s', hs', hafter.trans hrules⟩

/-- The rule of a number after a write to a rule register. -/
theorem rule_update {table : CanRxRuleTable} (index : Fin canRxPageRuleNum)
    (hpage : table.pageNumber < canRxRuleTablePageNum) (rule : CanRxRule) (rid : Nat) :
    ({ table with
        page := Function.update table.page ⟨table.pageNumber, hpage⟩
          (Function.update (table.page ⟨table.pageNumber, hpage⟩) index rule) }).rule
        (canRxRulePointer rid) =
      if rid = canRxPageRuleNum * table.pageNumber + index.val then some rule
      else table.rule (canRxRulePointer rid) := by
  have hindex : index.val < 16 := index.isLt
  unfold CanRxRuleTable.rule canRxRulePointer
  dsimp only
  by_cases hrid : rid = canRxPageRuleNum * table.pageNumber + index.val
  · have hrid' : rid = 16 * table.pageNumber + index.val := hrid
    have hdiv : rid / canRxPageRuleNum = table.pageNumber := by
      show rid / 16 = table.pageNumber
      omega
    have hmod : Fin.ofNat canRxPageRuleNum rid = index := by
      apply Fin.ext
      show rid % 16 = index.val
      omega
    have hlt : rid / canRxPageRuleNum < canRxRuleTablePageNum := by rw [hdiv]; exact hpage
    have hpid : (⟨rid / canRxPageRuleNum, hlt⟩ : Fin canRxRuleTablePageNum) =
        ⟨table.pageNumber, hpage⟩ := Fin.ext hdiv
    rw [if_pos hrid, dif_pos hlt, hpid, hmod, Function.update_self, Function.update_self]
  · rw [if_neg hrid]
    by_cases hlt : rid / canRxPageRuleNum < canRxRuleTablePageNum
    · rw [dif_pos hlt, dif_pos hlt]
      by_cases hdiv : rid / canRxPageRuleNum = table.pageNumber
      · have hpid : (⟨rid / canRxPageRuleNum, hlt⟩ : Fin canRxRuleTablePageNum) =
            ⟨table.pageNumber, hpage⟩ := Fin.ext hdiv
        have hne : Fin.ofNat canRxPageRuleNum rid ≠ index := by
          intro heq
          have hval : rid % 16 = index.val := congrArg Fin.val heq
          have hdiv' : rid / 16 = table.pageNumber := hdiv
          have hrid' : ¬ rid = 16 * table.pageNumber + index.val := hrid
          omega
        rw [hpid, Function.update_self, Function.update_of_ne hne]
      · have hne : (⟨rid / canRxPageRuleNum, hlt⟩ : Fin canRxRuleTablePageNum) ≠
            ⟨table.pageNumber, hpage⟩ := fun heq => hdiv (congrArg Fin.val heq)
        rw [Function.update_of_ne hne]
    · rw [dif_neg hlt, dif_neg hlt]

/-- The rule that the page and the register select. -/
theorem rule_selected {table : CanRxRuleTable}
    (hpage : table.pageNumber < canRxRuleTablePageNum) (index : Fin canRxPageRuleNum) :
    table.rule (canRxRulePointer (canRxPageRuleNum * table.pageNumber + index.val)) =
      some (table.page ⟨table.pageNumber, hpage⟩ index) := by
  have hrule := rule_update index hpage (table.page ⟨table.pageNumber, hpage⟩ index)
    (canRxPageRuleNum * table.pageNumber + index.val)
  rw [if_pos rfl, Function.update_eq_self, Function.update_eq_self] at hrule
  exact hrule

/-- A rule register other than `RSCANnGAFLP0j` keeps the receive buffer. -/
theorem filterBuffer_writeRxRule {reg : Nat} (hreg : reg ≠ 0x8) (data : BitVec 32)
    (rule : CanRxRule) : (writeRxRule reg data rule).filterBuffer = rule.filterBuffer := by
  unfold writeRxRule
  split
  · rfl
  · rfl
  · exact absurd rfl hreg
  · rfl
  · rfl

/-- A rule that is counted gets a receive buffer that exists. -/
theorem countsFit_update {table : CanRxRuleTable} {rxNumber : CanChannelId → Nat}
    (index : Fin canRxPageRuleNum) (hpage : table.pageNumber < canRxRuleTablePageNum)
    (hfit : CountsFit table rxNumber) (rule : CanRxRule) :
    CountsFit { table with
        page := Function.update table.page ⟨table.pageNumber, hpage⟩
          (Function.update (table.page ⟨table.pageNumber, hpage⟩) index rule) } rxNumber ↔
      (canRxPageRuleNum * table.pageNumber + index.val < ruleTotal rxNumber →
        BufferExists rule) := by
  constructor
  · intro h hlt
    refine h.2 _ hlt rule ?_
    rw [rule_update index hpage rule, if_pos rfl]
  · intro h
    refine ⟨hfit.1, fun rid hrid other hother => ?_⟩
    rw [rule_update index hpage rule] at hother
    split_ifs at hother with heq
    · cases hother
      rw [heq] at hrid
      exact h hrid
    · exact hfit.2 rid hrid other hother

/-- What a write to a rule register does to the table. -/
theorem writeRule_of_lt (address : Nat)
    (hpage : s.rxRuleTable.pageNumber < canRxRuleTablePageNum) :
    s.writeRule address = some
      { s with
        rxRuleTable :=
          { s.rxRuleTable with
            page := Function.update s.rxRuleTable.page ⟨s.rxRuleTable.pageNumber, hpage⟩
              (Function.update (s.rxRuleTable.page ⟨s.rxRuleTable.pageNumber, hpage⟩)
                (Fin.ofNat canRxPageRuleNum (groupIndex address 0x0500 16))
                (writeRxRule (canRegGetAlignedAddr address % 16) (s.word address)
                  (s.rxRuleTable.page ⟨s.rxRuleTable.pageNumber, hpage⟩
                    (Fin.ofNat canRxPageRuleNum (groupIndex address 0x0500 16))))) } } := by
  unfold writeRule
  dsimp only
  rw [dif_pos hpage]

/-- The write of a rule register keeps the rules fit exactly when its receive
buffer exists or the rule is not counted. -/
theorem rulesOk_rxRule {size : AccessSize} {address : Nat} {data : BitVec 32}
    (hmap : searchMap address = some .rxRule)
    (hpage : s.rxRuleTable.pageNumber < canRxRuleTablePageNum)
    (hfit : CountsFit s.rxRuleTable s.rxNumber)
    (hput : s.put size address data = some s') :
    s'.rxRuleTable.pageNumber = s.rxRuleTable.pageNumber ∧ s'.rxNumber = s.rxNumber ∧
      (CountsFit s'.rxRuleTable s.rxNumber ↔ RulesOk (.put size address data) s) := by
  rw [put_of_group hmap nofun nofun] at hput
  have hwrite := writeRule_of_lt (s := { s with toCanDevice := s.toCanDevice.put size address data })
    address hpage
  have heq := Option.some.inj (hwrite.symm.trans hput)
  rw [← heq]
  refine ⟨rfl, rfl, ?_⟩
  have hupdate := countsFit_update (Fin.ofNat canRxPageRuleNum (groupIndex address 0x0500 16))
    hpage hfit
  refine (hupdate _).trans ?_
  unfold RulesOk
  dsimp only
  rw [hmap]
  dsimp only
  by_cases hreg : canRegGetAlignedAddr address % 16 = 0x8
  · rw [hreg]
    exact ⟨fun h _ hlt => h hlt, fun h hlt => h rfl hlt⟩
  · -- the receive buffer is that of the rule before
    refine ⟨fun _ hreg' => absurd hreg' hreg, fun _ hlt => ?_⟩
    have hold := hfit.2 _ hlt _ (rule_selected hpage _)
    unfold BufferExists at hold ⊢
    rw [filterBuffer_writeRxRule hreg]
    exact hold

section RulesOfGroup

variable {size : AccessSize} {address : Nat} {data : BitVec 32}

theorem rulesOk_gaflectr (hmap : searchMap address = some .gaflectr) :
    RulesOk (.put size address data) s ↔
      ((s.toCanDevice.put size address data).register (canRegGetAlignedAddr address) &&&
        0x1F).toNat < canRxRuleTablePageNum := by
  unfold RulesOk
  dsimp only
  rw [hmap]

theorem rulesOk_gaflcfg0 (hmap : searchMap address = some .gaflcfg0) :
    RulesOk (.put size address data) s ↔ CountsFit s.rxRuleTable
      (gaflcfg0 ((s.toCanDevice.put size address data).register (canRegGetAlignedAddr address))
        s.rxNumber) := by
  unfold RulesOk
  dsimp only
  rw [hmap]

theorem rulesOk_gaflcfg1 (hmap : searchMap address = some .gaflcfg1) :
    RulesOk (.put size address data) s ↔ CountsFit s.rxRuleTable
      (gaflcfg1 ((s.toCanDevice.put size address data).register (canRegGetAlignedAddr address))
        s.rxNumber) := by
  unfold RulesOk
  dsimp only
  rw [hmap]

end RulesOfGroup

/-- Another page is in range when it exists. -/
theorem selectPage_indices {table : CanRxRuleTable} (hlinked : RulesLinked s)
    (hpage : table.page = s.rxRuleTable.page) (hfit : CountsFit s.rxRuleTable s.rxNumber) :
    IndicesInRange { s with rxRuleTable := table } ↔ table.pageNumber < canRxRuleTablePageNum := by
  have hlinked' : RulesLinked { s with rxRuleTable := table } := hlinked
  have hfit' : CountsFit table s.rxNumber := by
    refine ⟨hfit.1, fun rid hrid rule hrule => hfit.2 rid hrid rule ?_⟩
    rw [← hrule]
    unfold CanRxRuleTable.rule
    rw [hpage]
  exact (indicesInRange_iff hlinked').trans ⟨fun h => h.1, fun h => ⟨h, hfit'⟩⟩

/-- New counts are in range when they fit. -/
theorem writeGaflcfg_indices {rxNumber : CanChannelId → Nat}
    (hpage : s.rxRuleTable.pageNumber < canRxRuleTablePageNum) :
    IndicesInRange (s.writeGaflcfg rxNumber) ↔ CountsFit s.rxRuleTable rxNumber := by
  have hlinked : RulesLinked (s.writeGaflcfg rxNumber) := rfl
  exact (indicesInRange_iff hlinked).trans ⟨fun h => h.2, fun h => ⟨hpage, h⟩⟩

/-- A group whose handler writes no rule keeps the indices in range. -/
theorem rulesOk_of_group {size : AccessSize} {address : Nat} {data : BitVec 32}
    (hgroup : ∀ group, searchMap address = some group → ¬ WritesRules group) :
    RulesOk (.put size address data) s := by
  unfold RulesOk
  dsimp only
  unfold WritesRules at hgroup
  split
  · next hmap => exact absurd (Or.inl rfl) (hgroup _ hmap)
  · next hmap => exact absurd (Or.inr (Or.inl rfl)) (hgroup _ hmap)
  · next hmap => exact absurd (Or.inr (Or.inr (Or.inl rfl))) (hgroup _ hmap)
  · next hmap => exact absurd (Or.inr (Or.inr (Or.inr rfl))) (hgroup _ hmap)
  · trivial

/-- A store finds its register while the page exists. -/
theorem put_isSome (hpage : s.rxRuleTable.pageNumber < canRxRuleTablePageNum) (size : AccessSize)
    (address : Nat) (data : BitVec 32) : (s.put size address data).isSome = true := by
  by_cases hmap : searchMap address = some .rxRule
  · rw [put_of_group hmap nofun nofun]
    have hwrite := writeRule_of_lt
      (s := { s with toCanDevice := s.toCanDevice.put size address data }) address hpage
    exact Option.isSome_of_eq_some hwrite
  · rw [put_eq]
    cases hgroup : searchMap address with
    | none => rfl
    | some group =>
      cases group with
      | rxRule => exact absurd hgroup hmap
      | _ => rfl

end CanController

theorem RulesLinked.of_sameRules {s s' : CanController} (hlinked : RulesLinked s)
    (hsame : SameRules s s') : RulesLinked s' := by
  obtain ⟨_, hnumber, hrule⟩ := hsame
  rw [RulesLinked, hrule, hnumber]
  exact hlinked

theorem IndicesInRange.of_sameRules {s s' : CanController} (hlinked : RulesLinked s)
    (hin : IndicesInRange s) (hsame : SameRules s s') : IndicesInRange s' := by
  rw [indicesInRange_iff (hlinked.of_sameRules hsame), hsame.1, hsame.2.1]
  exact (indicesInRange_iff hlinked).mp hin

/-- A load or a clock changes no rule. -/
theorem step_rules {s s' : CanController} {event : CanEvent}
    (hstep : canController.step event s s') :
    SameRules s s' ∧ RulesOk event s ∨
      ∃ size address data, event = .put size address data ∧ s.put size address data = some s' := by
  obtain ⟨outputs, hstep⟩ := hstep
  cases event with
  | get size address indeterminate =>
    cases hstep
    obtain ⟨memory, hmemory⟩ := s.get_eq address indeterminate
    rw [hmemory]
    exact Or.inl ⟨⟨rfl, rfl, rfl⟩, trivial⟩
  | clock bus =>
    have hclock := clock_clockStep hstep
    exact Or.inl ⟨⟨hclock.rxRuleTable, hclock.rxNumber, hclock.rxChannelRule⟩, trivial⟩
  | put size address data =>
    obtain ⟨mid, hput, heq⟩ := Option.map_eq_some_iff.mp hstep
    cases heq
    exact Or.inr ⟨size, address, data, rfl, hput⟩

/-- A store that writes no rule, and one that does. -/
theorem put_rules_cases {s s' : CanController} {size : AccessSize} {address : Nat}
    {data : BitVec 32} (hput : s.put size address data = some s') :
    SameRules s s' ∧ RulesOk (.put size address data) s ∨
      ∃ group, searchMap address = some group ∧ WritesRules group := by
  by_cases hgroup : ∀ group, searchMap address = some group → ¬ WritesRules group
  · obtain ⟨mid, hmid, hsame⟩ : ∃ mid, s.put size address data = some mid ∧ SameRules s mid :=
      put_rules hgroup
    have heq : mid = s' := Option.some.inj (hmid.symm.trans hput)
    rw [heq] at hsame
    exact Or.inl ⟨hsame, rulesOk_of_group hgroup⟩
  · simp only [not_forall, not_not] at hgroup
    obtain ⟨group, hmap, hwrites⟩ := hgroup
    exact Or.inr ⟨group, hmap, hwrites⟩

/-- The ranges are always those of the counts. -/
theorem linked_step {s s' : CanController} {event : CanEvent} (hlinked : RulesLinked s)
    (hstep : canController.step event s s') : RulesLinked s' := by
  rcases step_rules hstep with ⟨hsame, _⟩ | ⟨size, address, data, _, hput⟩
  · exact hlinked.of_sameRules hsame
  · rcases put_rules_cases hput with ⟨hsame, _⟩ | ⟨group, hmap, hwrites⟩
    · exact hlinked.of_sameRules hsame
    · rcases hwrites with rfl | rfl | rfl | rfl
      · rw [put_of_group hmap nofun nofun] at hput
        cases hput
        exact hlinked
      · rw [put_of_group hmap nofun nofun] at hput
        cases hput
        rfl
      · rw [put_of_group hmap nofun nofun] at hput
        cases hput
        rfl
      · rw [put_of_group hmap nofun nofun] at hput
        unfold writeHook writeRule at hput
        dsimp only at hput
        split_ifs at hput
        cases hput
        exact hlinked

/-- Exactly the stores that keep the rules fit keep the indices in range. -/
theorem indicesInRange_put {s s' : CanController} {size : AccessSize} {address : Nat}
    {data : BitVec 32} (hlinked : RulesLinked s) (hlinked' : RulesLinked s')
    (hin : IndicesInRange s) (hput : s.put size address data = some s') :
    IndicesInRange s' ↔ RulesOk (.put size address data) s := by
  obtain ⟨hpage, hfit⟩ := (indicesInRange_iff hlinked).mp hin
  rcases put_rules_cases hput with ⟨hsame, hok⟩ | ⟨group, hmap, hwrites⟩
  · exact iff_of_true (hin.of_sameRules hlinked hsame) hok
  · rcases hwrites with rfl | rfl | rfl | rfl
    · rw [put_of_group hmap nofun nofun] at hput
      cases hput
      rw [rulesOk_gaflectr hmap]
      exact selectPage_indices hlinked rfl hfit
    · rw [put_of_group hmap nofun nofun] at hput
      cases hput
      rw [rulesOk_gaflcfg0 hmap]
      exact writeGaflcfg_indices hpage
    · rw [put_of_group hmap nofun nofun] at hput
      cases hput
      rw [rulesOk_gaflcfg1 hmap]
      exact writeGaflcfg_indices hpage
    · obtain ⟨hsame, hnumber, hiff⟩ := rulesOk_rxRule hmap hpage hfit hput
      rw [indicesInRange_iff hlinked', hsame, hnumber, ← hiff]
      exact ⟨fun h => h.2, fun h => ⟨hpage, h⟩⟩

/-- In a state whose indices are in range, exactly the stores that keep the
rules fit keep them so. -/
theorem indicesInRange_step {s s' : CanController} {event : CanEvent}
    (hlinked : RulesLinked s) (hin : IndicesInRange s) (hstep : canController.step event s s') :
    IndicesInRange s' ↔ RulesOk event s := by
  rcases step_rules hstep with ⟨hsame, hok⟩ | ⟨size, address, data, rfl, hput⟩
  · exact iff_of_true (hin.of_sameRules hlinked hsame) hok
  · exact indicesInRange_put hlinked (linked_step hlinked hstep) hin hput

/-! ## Received frames -/

/-- The rule of a number, for the numbers of the table. -/
def CanRxRuleTable.ruleAt (table : CanRxRuleTable) (rid : Nat) : CanRxRule :=
  table.page (Fin.ofNat canRxRuleTablePageNum (rid / canRxPageRuleNum))
    (Fin.ofNat canRxPageRuleNum rid)

theorem CanRxRuleTable.rule_eq (table : CanRxRuleTable) {rid : Nat}
    (hrid : rid < canRxRuleTablePageNum * canRxPageRuleNum) :
    table.rule (canRxRulePointer rid) = some (table.ruleAt rid) := by
  have hlt : rid < 24 * 16 := hrid
  have hpage : rid / canRxPageRuleNum < canRxRuleTablePageNum := by
    show rid / 16 < 24
    omega
  have hpid : (⟨rid / canRxPageRuleNum, hpage⟩ : Fin canRxRuleTablePageNum) =
      Fin.ofNat canRxRuleTablePageNum (rid / canRxPageRuleNum) :=
    Fin.ext (Nat.mod_eq_of_lt hpage).symm
  have hpage' : (canRxRulePointer rid).pid < canRxRuleTablePageNum := hpage
  unfold CanRxRuleTable.rule
  rw [dif_pos hpage']
  show some (table.page ⟨rid / canRxPageRuleNum, hpage⟩ _) = _
  rw [hpid]
  rfl

namespace CanController

variable {s : CanController}

/-- The rules of a channel, in the order in which they are tried. -/
def channelRules (s : CanController) (cid : CanChannelId) : List CanRxRule :=
  (List.range' (ruleStart s.rxNumber cid) (s.rxNumber cid)).map s.rxRuleTable.ruleAt

/-- The controller after a rule whose receive buffer exists. -/
def afterRule (cid : CanChannelId) (frame : CanData) (s : CanController) (rule : CanRxRule) :
    CanController :=
  if canRxProcFilterAcceptance rule frame = false then s
  else if canRxProcFilterDlc s.modeGlobal.config.enableDlcCheck rule frame = false then
    s.setDlcError
  else
    { s with
      rxBuffer := (storeRxBuffer rule frame s.rxBuffer).getD s.rxBuffer
      rxFifo := fun x => offerRxFifo rule (labelled rule frame) x (s.rxFifo x)
      txrxFifo := Function.update s.txrxFifo cid fun k =>
        offerTxrxFifo cid rule (labelled rule frame) k (s.txrxFifo cid k) }

theorem storeRxBuffer_eq {rule : CanRxRule} (hbuffer : BufferExists rule) (frame : CanData)
    (control : CanRxBufferControl) :
    storeRxBuffer rule frame control = some ((storeRxBuffer rule frame control).getD control) := by
  unfold storeRxBuffer
  by_cases henable : rule.filterBuffer.enableRxbuffer = true
  · rw [if_pos henable, canRxbufferPutRxdata, dif_pos (hbuffer henable)]
    rfl
  · rw [if_neg henable]
    rfl

theorem canRxProcRule_eq {rid : Nat} (hrid : rid < canRxRuleTablePageNum * canRxPageRuleNum)
    (hbuffer : BufferExists (s.rxRuleTable.ruleAt rid)) (cid : CanChannelId) (frame : CanData) :
    s.canRxProcRule cid frame (canRxRulePointer rid) =
      some (s.afterRule cid frame (s.rxRuleTable.ruleAt rid)) := by
  unfold canRxProcRule afterRule
  rw [s.rxRuleTable.rule_eq hrid, Option.bind_some]
  split_ifs
  · rfl
  · rfl
  · rw [canRxProcRouting_eq, storeRxBuffer_eq hbuffer frame s.rxBuffer]
    rfl

@[simp] theorem rxRuleTable_afterRule (cid : CanChannelId) (frame : CanData) (s : CanController)
    (rule : CanRxRule) : (s.afterRule cid frame rule).rxRuleTable = s.rxRuleTable := by
  unfold afterRule
  split_ifs <;> rfl

theorem sameRules_afterRule (cid : CanChannelId) (frame : CanData) (s : CanController)
    (rule : CanRxRule) : SameRules s (s.afterRule cid frame rule) := by
  unfold afterRule
  split_ifs <;> exact ⟨rfl, rfl, rfl⟩

/-- The loop over the rules of a channel reaches its end. -/
theorem foldlM_canRxProcRule {start : CanController} (hlinked : RulesLinked start)
    (hfit : CountsFit start.rxRuleTable start.rxNumber) (cid : CanChannelId) (frame : CanData)
    (hsame : SameRules start s) :
    (start.rxChannelRule cid).foldlM (canRxProcRule cid frame) s =
        some ((start.channelRules cid).foldl (afterRule cid frame) s) ∧
      SameRules start ((start.channelRules cid).foldl (afterRule cid frame) s) := by
  have hpass : ∀ mid, ∀ rid ∈ List.range' (ruleStart start.rxNumber cid) (start.rxNumber cid),
      SameRules start mid →
        canRxProcRule cid frame mid (canRxRulePointer rid) =
            some (mid.afterRule cid frame (start.rxRuleTable.ruleAt rid)) ∧
          SameRules start (mid.afterRule cid frame (start.rxRuleTable.ruleAt rid)) := by
    intro mid rid hmem hmid
    have htotal : rid < ruleTotal start.rxNumber :=
      exists_channel_iff.mp ⟨cid, List.mem_range'_1.mp hmem⟩
    have hlt : rid < canRxRuleTablePageNum * canRxPageRuleNum := Nat.lt_of_lt_of_le htotal hfit.1
    have hbuffer := hfit.2 rid htotal _ (start.rxRuleTable.rule_eq hlt)
    rw [← hmid.1] at hbuffer ⊢
    exact ⟨canRxProcRule_eq hlt hbuffer cid frame, hmid.trans (sameRules_afterRule cid frame mid _)⟩
  have hloop := Pointwise.foldlM_eq_foldl _ hpass hsame
  rw [hlinked, canRxUpdateRuleTable_eq, List.foldlM_map]
  unfold channelRules
  rw [List.foldl_map]
  exact hloop

/-- The reception of one channel. -/
def receiveOne (bus : CanBus) (cid : CanChannelId) (s : CanController) :
    CanController × List CanOutput :=
  if bus.isArrived cid = false then (s, [])
  else if (s.modeGlobal.channel cid).mode ≠ .comm then (s, [])
  else
    let s := s.commEvent cid .commRxStart
    if (s.modeGlobal.channel cid).commMode ≠ .rx then (s, [])
    else
      (((s.channelRules cid).foldl (afterRule cid (bus.receive cid)) s).commEvent cid .commRxDone,
        [.received cid (bus.receive cid)])

theorem sameRules_receiveOne (bus : CanBus) (cid : CanChannelId) (s : CanController) :
    SameRules s (receiveOne bus cid s).1 := by
  have hloop : ∀ (rules : List CanRxRule) (t : CanController),
      SameRules t (rules.foldl (afterRule cid (bus.receive cid)) t) := by
    intro rules
    induction rules with
    | nil => exact fun t => ⟨rfl, rfl, rfl⟩
    | cons rule rules ih => exact fun t => (sameRules_afterRule cid _ t rule).trans (ih _)
  unfold receiveOne
  dsimp only
  split_ifs
  · exact ⟨rfl, rfl, rfl⟩
  · exact ⟨rfl, rfl, rfl⟩
  · exact ⟨rfl, rfl, rfl⟩
  · exact hloop _ (s.commEvent cid .commRxStart)

theorem canRxProcOne_eq (hlinked : RulesLinked s) (hfit : CountsFit s.rxRuleTable s.rxNumber)
    (bus : CanBus) (cid : CanChannelId) :
    canRxProcOne bus cid s = some (receiveOne bus cid s) := by
  have hlinked' : RulesLinked (s.commEvent cid .commRxStart) := hlinked
  have hfit' : CountsFit (s.commEvent cid .commRxStart).rxRuleTable
      (s.commEvent cid .commRxStart).rxNumber := hfit
  have hloop := foldlM_canRxProcRule hlinked' hfit' cid (bus.receive cid) ⟨rfl, rfl, rfl⟩
  unfold canRxProcOne receiveOne
  dsimp only
  split_ifs
  · rfl
  · rfl
  · rfl
  · rw [hloop.1]
    rfl

/-- The reception of all channels. -/
def receiveAll (bus : CanBus) (s : CanController) : CanController × List CanOutput :=
  (List.finRange canChannelNum).foldl
    (fun acc cid => ((receiveOne bus cid acc.1).1, acc.2 ++ (receiveOne bus cid acc.1).2)) (s, [])

theorem canRxProc_eq (hlinked : RulesLinked s) (hfit : CountsFit s.rxRuleTable s.rxNumber)
    (bus : CanBus) :
    canRxProc bus s = some (if s.modeGlobal.mode ≠ .run then (s, []) else receiveAll bus s) := by
  have hpass : ∀ acc : CanController × List CanOutput, ∀ cid ∈ List.finRange canChannelNum,
      SameRules s acc.1 →
        ((canRxProcOne bus cid acc.1).map fun received => (received.1, acc.2 ++ received.2)) =
            some ((receiveOne bus cid acc.1).1, acc.2 ++ (receiveOne bus cid acc.1).2) ∧
          SameRules s (receiveOne bus cid acc.1).1 := by
    intro acc cid _ hacc
    have hfit' : CountsFit acc.1.rxRuleTable acc.1.rxNumber := by
      rw [hacc.1, hacc.2.1]
      exact hfit
    rw [canRxProcOne_eq (hlinked.of_sameRules hacc) hfit' bus cid]
    exact ⟨rfl, hacc.trans (sameRules_receiveOne bus cid acc.1)⟩
  unfold CanController.canRxProc whenRunning
  split_ifs
  · rfl
  · exact (Pointwise.foldlM_eq_foldl _ hpass ⟨rfl, rfl, rfl⟩).1

end CanController

/-! ## Runs -/

theorem linked_of_reachable {s : CanController} (h : canController.Reachable s) :
    RulesLinked s := by
  refine TransitionSystem.Invariant.of_reachable (I := RulesLinked) ⟨fun s hs => ?_,
    fun event s s' hlinked hstep => linked_step hlinked hstep⟩ h
  rw [show s = initialCan from hs]
  rfl

/-- The runs of stores that keep the rules fit. -/
theorem indices_of_guarded {s : CanController} (h : (canController.guarded RulesOk).Reachable s) :
    RulesLinked s ∧ IndicesInRange s := by
  refine TransitionSystem.Invariant.of_reachable (I := fun s => RulesLinked s ∧ IndicesInRange s)
    ⟨fun s hs => ?_, fun event s s' hI hstep => ?_⟩ h
  · have hlinked : RulesLinked s := by
      rw [show s = initialCan from hs]
      rfl
    refine ⟨hlinked, (indicesInRange_iff hlinked).mpr ?_⟩
    rw [show s = initialCan from hs]
    exact ⟨by decide, by decide, fun rid hrid => absurd hrid (Nat.not_lt_zero rid)⟩
  · exact ⟨linked_step hI.1 hstep.2, (indicesInRange_step hI.1 hI.2 hstep.2).mpr hstep.1⟩

/-- In every run of stores that keep the rules fit, with loads and clocks
between them, the indices are in range, every received frame is handled and every
store finds its register; and from a reachable state with the indices in range,
exactly these stores keep them so. -/
theorem indices_in_range {s : CanController} (hs : (canController.guarded RulesOk).Reachable s) :
    (IndicesInRange s ∧ (∀ bus, (CanController.canRxProc bus s).isSome = true) ∧
        ∀ size address data, (s.put size address data).isSome = true) ∧
      ∀ s event s', canController.Reachable s → IndicesInRange s →
        canController.step event s s' → (IndicesInRange s' ↔ RulesOk event s) := by
  refine ⟨?_, fun s event s' hreach hin hstep => ?_⟩
  · obtain ⟨hlinked, hin⟩ := indices_of_guarded hs
    obtain ⟨hpage, hfit⟩ := (indicesInRange_iff hlinked).mp hin
    refine ⟨hin, fun bus => ?_, fun size address data => put_isSome hpage size address data⟩
    rw [canRxProc_eq hlinked hfit]
    rfl
  · exact indicesInRange_step (linked_of_reachable hreach) hin hstep

/-- Seventeen rules for channel 0, the last one on page 1 and for buffer 5. -/
def ruleStores : List CanEvent :=
  [.put .word 0x0098 0x1, .put .word 0x009C 0x11000000, .put .word 0x0508 0x8500]

/-- The indices are in range after these stores, and the buffer 127 for the last
rule ends that. -/
theorem indices_in_range_page :
    ∃ s, (canController.guarded RulesOk).Reachable s ∧
      (s.rxRuleTable.pageNumber = 1 ∧ ruleTotal s.rxNumber = 17) ∧ IndicesInRange s ∧
      ∀ s', canController.step (.put .word 0x0508 0xFF00) s s' → ¬ IndicesInRange s' := by
  have hview : (CanController.runWhile RulesOk ruleStores initialCan).map (fun s =>
      (decide (s.rxRuleTable.pageNumber = 1 ∧ ruleTotal s.rxNumber = 17),
        decide (RulesOk (.put .word 0x0508 0xFF00) s))) = some (true, false) := by
    decide +kernel
  obtain ⟨s, hreach, hs⟩ := CanController.exists_guarded hview
  obtain ⟨hcounts, hbreaks⟩ := Prod.mk.inj hs
  obtain ⟨⟨hin, -⟩, hstep⟩ := indices_in_range hreach
  refine ⟨s, hreach, of_decide_eq_true hcounts, hin, fun s' hs' hin' => ?_⟩
  exact of_decide_eq_false hbreaks ((hstep s _ s' hreach.of_guarded hin hs').mp hin')

/-- A bus with a frame of zeros for every channel. -/
def arrivingBus : CanBus where
  isArrived _ := true
  receive _ := zeroCanData
  startSend _ _ := { isOk := true, isAccepted := true }
  isDone _ := false

/-- The fields reach past the tables: a rule register of page 31, ranges that
end at rule 510, and a frame for receive buffer 127. -/
theorem indices_out_of_range :
    (∃ s, canController.Reachable s ∧ s.rxRuleTable.pageNumber = 31 ∧
      (s.put .word 0x0500 0).isNone = true) ∧
    (∃ s, canController.Reachable s ∧ ruleTotal s.rxNumber = 510) ∧
    ∃ s, canController.Reachable s ∧ (CanController.canRxProc arrivingBus s).isNone = true := by
  have hpage : ((CanController.run [.put .word 0x0098 0x1F] initialCan).map fun s =>
      (s.rxRuleTable.pageNumber, (s.put .word 0x0500 0).isNone)) = some (31, true) := by
    decide +kernel
  have htotal : ((CanController.run [.put .word 0x009C 0xFFFF0000] initialCan).map fun s =>
      ruleTotal s.rxNumber) = some 510 := by
    decide +kernel
  have hbuffer : ((CanController.run
      ([.put .word 0x009C 0x01000000, .put .word 0x0508 0xFF00] ++ startChannel) initialCan).map
      fun s => (CanController.canRxProc arrivingBus s).isNone) = some true := by
    decide +kernel
  obtain ⟨s₁, hreach₁, hview₁⟩ := exists_reachable hpage
  obtain ⟨s₂, hreach₂, hview₂⟩ := exists_reachable htotal
  obtain ⟨s₃, hreach₃, hview₃⟩ := exists_reachable hbuffer
  exact ⟨⟨s₁, hreach₁, congrArg Prod.fst hview₁, congrArg Prod.snd hview₁⟩, ⟨s₂, hreach₂, hview₂⟩,
    ⟨s₃, hreach₃, hview₃⟩⟩

end Athrill
