import Athrill.Can.Rings
import Athrill.Can.Words

/-!
# The entries of a transmit history

A history is a ring of sixteen entries whatever its configuration is.  Software
reads the oldest entry through `RSCANnTHLACCm` and removes it through
`RSCANnTHLPCTRm`.

* `thlaccWord`, `thlTid_word` to `thlBt_word`: an entry as the register shows it.
* `entries`, `historyFormed_of_reachable`: the entries that a history holds.
* `entries_put`, `entries_next`: one more entry, and one less.
* `word_get_thlacc`: what software finds in the register.
* `put_entries`: what a store removes.
-/

namespace Athrill

open Ring

/-! ## The register -/

/-- `can_register_mapping_io_RSCANnTHLACCm` on an entry. -/
def thlaccWord (thldata : CanTxHistoryData) : BitVec 32 :=
  (thldata.label.setWidth 32 <<< 8) ||| (thldata.bufno.setWidth 32 <<< 3) |||
    thldata.buftype.setWidth 32

/-- `TID` of the register. -/
def thlTid (word : BitVec 32) : Nat := ((word >>> 8) &&& 0xFF).toNat

/-- `BN`. -/
def thlBn (word : BitVec 32) : Nat := ((word >>> 3) &&& 0xF).toNat

/-- `BT`. -/
def thlBt (word : BitVec 32) : Nat := (word &&& 0x7).toNat

theorem toNat_thlaccWord (thldata : CanTxHistoryData) :
    (thlaccWord thldata).toNat =
      (thldata.label.toNat * 2 ^ 8 ||| thldata.bufno.toNat * 2 ^ 3) ||| thldata.buftype.toNat := by
  have hlabel := thldata.label.isLt
  have hbufno := thldata.bufno.isLt
  have hbuftype := thldata.buftype.isLt
  have hlabel' : (thldata.label.toNat % 2 ^ 32) <<< 8 % 2 ^ 32 = thldata.label.toNat * 2 ^ 8 := by
    rw [Nat.shiftLeft_eq]
    omega
  have hbufno' : (thldata.bufno.toNat % 2 ^ 32) <<< 3 % 2 ^ 32 = thldata.bufno.toNat * 2 ^ 3 := by
    rw [Nat.shiftLeft_eq]
    omega
  have hbuftype' : thldata.buftype.toNat % 2 ^ 32 = thldata.buftype.toNat := by omega
  unfold thlaccWord
  rw [BitVec.toNat_or, BitVec.toNat_or, BitVec.toNat_shiftLeft, BitVec.toNat_shiftLeft,
    BitVec.toNat_setWidth, BitVec.toNat_setWidth, BitVec.toNat_setWidth, hlabel', hbufno',
    hbuftype']

/-- The number of the source reaches into the field of the label. -/
theorem thlTid_word {thldata : CanTxHistoryData} (h : thldata.buftype.toNat < 8) :
    thlTid (thlaccWord thldata) = thldata.label.toNat ||| thldata.bufno.toNat / 32 := by
  have hlabel := thldata.label.isLt
  have hbufno := thldata.bufno.isLt
  have hmask : thlTid (thlaccWord thldata) = (thlaccWord thldata).toNat >>> 8 % 2 ^ 8 :=
    Nat.and_two_pow_sub_one_eq_mod _ 8
  have hlabel' : thldata.label.toNat * 2 ^ 8 / 2 ^ 8 % 2 ^ 8 = thldata.label.toNat := by omega
  have hbufno' : thldata.bufno.toNat * 2 ^ 3 / 2 ^ 8 % 2 ^ 8 = thldata.bufno.toNat / 32 := by omega
  have hbuftype : thldata.buftype.toNat / 2 ^ 8 % 2 ^ 8 = 0 := by omega
  rw [hmask, toNat_thlaccWord, Nat.shiftRight_or_distrib, Nat.shiftRight_or_distrib,
    Nat.or_mod_two_pow, Nat.or_mod_two_pow, Nat.shiftRight_eq_div_pow, Nat.shiftRight_eq_div_pow,
    Nat.shiftRight_eq_div_pow, hlabel', hbufno', hbuftype, Nat.or_zero]

/-- Its four low bits stand in their own field. -/
theorem thlBn_word {thldata : CanTxHistoryData} (h : thldata.buftype.toNat < 8) :
    thlBn (thlaccWord thldata) = thldata.bufno.toNat % 16 := by
  have hmask : thlBn (thlaccWord thldata) = (thlaccWord thldata).toNat >>> 3 % 2 ^ 4 :=
    Nat.and_two_pow_sub_one_eq_mod _ 4
  have hlabel : thldata.label.toNat * 2 ^ 8 / 2 ^ 3 % 2 ^ 4 = 0 := by omega
  have hbufno : thldata.bufno.toNat * 2 ^ 3 / 2 ^ 3 % 2 ^ 4 = thldata.bufno.toNat % 16 := by omega
  have hbuftype : thldata.buftype.toNat / 2 ^ 3 % 2 ^ 4 = 0 := by omega
  rw [hmask, toNat_thlaccWord, Nat.shiftRight_or_distrib, Nat.shiftRight_or_distrib,
    Nat.or_mod_two_pow, Nat.or_mod_two_pow, Nat.shiftRight_eq_div_pow, Nat.shiftRight_eq_div_pow,
    Nat.shiftRight_eq_div_pow, hlabel, hbufno, hbuftype, Nat.zero_or, Nat.or_zero]

theorem thlBt_word {thldata : CanTxHistoryData} (h : thldata.buftype.toNat < 8) :
    thlBt (thlaccWord thldata) = thldata.buftype.toNat := by
  have hmask : thlBt (thlaccWord thldata) = (thlaccWord thldata).toNat % 2 ^ 3 :=
    Nat.and_two_pow_sub_one_eq_mod _ 3
  have hlabel : thldata.label.toNat * 2 ^ 8 % 2 ^ 3 = 0 := by omega
  have hbufno : thldata.bufno.toNat * 2 ^ 3 % 2 ^ 3 = 0 := by omega
  have hbuftype : thldata.buftype.toNat % 2 ^ 3 = thldata.buftype.toNat := by omega
  rw [hmask, toNat_thlaccWord, Nat.or_mod_two_pow, Nat.or_mod_two_pow, hlabel, hbufno, hbuftype,
    Nat.zero_or, Nat.zero_or]

/-! ## The ring -/

namespace CanTxHistory

variable {history : CanTxHistory}

/-- The entries of a history, the oldest one first. -/
def entries (history : CanTxHistory) : List CanTxHistoryData :=
  contents canTxHistoryBufferNum history.fifoControl history.buffer

/-- The entry that software can read. -/
def oldest (history : CanTxHistory) : Option CanTxHistoryData :=
  match canTxhlPeekThldata history with
  | .ok thldata => some thldata
  | .error _ => none

/-- A history that takes an entry. -/
def Open (history : CanTxHistory) : Prop :=
  history.config.enableHistory = true ∧ history.fifoControl.count < canTxHistoryBufferNum

instance (history : CanTxHistory) : Decidable history.Open :=
  inferInstanceAs (Decidable (_ ∧ _))

/-- An open history takes an entry, another one stays as it is. -/
theorem entries_put (hformed : Formed canTxHistoryBufferNum history.fifoControl)
    (thldata : CanTxHistoryData) :
    (canTxhlPutThldata thldata history).2.entries =
      history.entries ++ if history.Open then [thldata] else [] := by
  unfold canTxhlPutThldata
  by_cases henable : history.config.enableHistory = false
  · have hclosed : ¬ history.Open := by
      intro hopen
      rw [hopen.1] at henable
      cases henable
    rw [if_pos henable, if_neg hclosed, List.append_nil]
  · have hon : history.config.enableHistory = true := by simpa using henable
    by_cases hcount : history.fifoControl.count ≥ canTxHistoryBufferNum
    · have hclosed : ¬ history.Open := fun hopen => absurd hopen.2 (Nat.not_lt.mpr hcount)
      rw [if_neg henable, if_pos hcount, if_neg hclosed, List.append_nil]
      rfl
    · have hroom : history.fifoControl.count < canTxHistoryBufferNum := by omega
      rw [if_neg henable, if_neg hcount, if_pos ⟨hon, hroom⟩]
      exact contents_put hformed hroom thldata history.buffer

/-- Removing an entry. -/
theorem entries_next (hformed : Formed canTxHistoryBufferNum history.fifoControl) :
    history.entries = history.oldest.toList ++ (canTxhlNextThldata history).2.entries := by
  unfold oldest canTxhlPeekThldata canTxhlNextThldata
  by_cases henable : history.config.enableHistory = false
  · rw [if_pos henable, if_pos henable]
    rfl
  · by_cases hcount : history.fifoControl.count = 0
    · rw [if_neg henable, if_neg henable, if_pos hcount, if_pos hcount]
      rfl
    · rw [if_neg henable, if_neg henable, if_neg hcount, if_neg hcount]
      exact contents_take hformed (Nat.pos_of_ne_zero hcount) history.buffer

end CanTxHistory

theorem TxHistoryOp.apply_formed (op : TxHistoryOp) {history : CanTxHistory}
    (h : Formed canTxHistoryBufferNum history.fifoControl) :
    Formed canTxHistoryBufferNum (op.apply history).fifoControl := by
  cases op with
  | put thldata =>
    show Formed canTxHistoryBufferNum (canTxhlPutThldata thldata history).2.fifoControl
    unfold canTxhlPutThldata
    by_cases henable : history.config.enableHistory = false
    · rw [if_pos henable]
      exact h
    · rw [if_neg henable]
      by_cases hcount : history.fifoControl.count ≥ canTxHistoryBufferNum
      · rw [if_pos hcount]
        exact h
      · rw [if_neg hcount]
        exact h.put (by omega)
  | next =>
    show Formed canTxHistoryBufferNum (canTxhlNextThldata history).2.fifoControl
    unfold canTxhlNextThldata
    split_ifs with henable hcount
    · exact h
    · exact h
    · exact h.take (by omega)
  | config data => exact h
  | status data => exact h

/-- Every history of the controller is a ring of sixteen entries. -/
theorem historyFormed_of_reachable {s : CanController} (h : canController.Reachable s)
    (cid : CanChannelId) : Formed canTxHistoryBufferNum (s.txHistory cid).fifoControl :=
  CanController.part_of_reachable (fun s => s.txHistory cid)
    (I := fun history => Formed canTxHistoryBufferNum history.fifoControl)
    (formed_clear (by decide))
    (fun _ _ _ hmoves hbefore => (hmoves.txHistory cid).invariant
      (I := fun history => Formed canTxHistoryBufferNum history.fifoControl)
      (fun op _ _ hhistory => op.apply_formed hhistory) hbefore) h

/-! ## Stores -/

namespace CanController

variable {s t : CanController} {size : AccessSize} {address : Nat} {data : BitVec 32}

/-- What the handler of `RSCANnTHLACCm` writes. -/
theorem readWord_thlacc {cid : CanChannelId} {thldata : CanTxHistoryData}
    (h : (s.txHistory cid).oldest = some thldata) (indeterminate : BitVec 32) :
    s.readWord .thlacc (0x1800 + 4 * cid.val) indeterminate = some (thlaccWord thldata) := by
  have hindex : ∀ cid : CanChannelId,
      Fin.ofNat canChannelNum (groupIndex (0x1800 + 4 * cid.val) 0x1800 4) = cid := by
    decide
  unfold readWord
  dsimp only
  rw [hindex cid]
  unfold CanTxHistory.oldest at h
  cases hpeek : canTxhlPeekThldata (s.txHistory cid) with
  | error e =>
    rw [hpeek] at h
    cases h
  | ok found =>
    rw [hpeek] at h
    cases h
    rfl

/-- A load of `RSCANnTHLACCm` leaves the oldest entry in the register. -/
theorem word_get_thlacc {cid : CanChannelId} {thldata : CanTxHistoryData}
    (h : (s.txHistory cid).oldest = some thldata) (indeterminate : BitVec 32) :
    (s.get (0x1800 + 4 * cid.val) indeterminate).word (0x1800 + 4 * cid.val) =
      thlaccWord thldata := by
  have hgroup : ∀ cid : CanChannelId, searchMap (0x1800 + 4 * cid.val) = some .thlacc := by
    decide
  have hword := readWord_thlacc
    (s := { s with toCanDevice := s.toCanDevice.get (0x1800 + 4 * cid.val) }) h indeterminate
  unfold get
  rw [hgroup cid]
  dsimp only
  rw [hword]
  exact read_write _ _ _

/-- The store writes the value that removes an entry of a channel. -/
def Advances (size : AccessSize) (address : Nat) (data : BitVec 32) (s : CanController)
    (cid : CanChannelId) : Prop :=
  searchMap address = some .thlpctr ∧
    Fin.ofNat canChannelNum (groupIndex address 0x0440 4) = cid ∧
    (s.afterStore size address data).word address &&& 0xFF = 0xFF

instance (size : AccessSize) (address : Nat) (data : BitVec 32) (s : CanController)
    (cid : CanChannelId) : Decidable (Advances size address data s cid) :=
  inferInstanceAs (Decidable (_ ∧ _ ∧ _))

theorem afterStore_txHistory (size : AccessSize) (address : Nat) (data : BitVec 32)
    (s : CanController) : (s.afterStore size address data).txHistory = s.txHistory :=
  afterStore_induction (R := fun s t => t.txHistory = s.txHistory) (fun _ => rfl)
    (fun _ _ _ h h' => h'.trans h) (fun _ _ => rfl) (fun _ => rfl) (fun _ _ => rfl) size address
    data s

/-- The handlers of the other registers leave the histories alone. -/
theorem writeHook_txHistory {group : CanRegisterGroup} (hcc : group ≠ .thlcc)
    (hsts : group ≠ .thlsts) (hpctr : group ≠ .thlpctr) (h : s.writeHook group address = some t) :
    t.txHistory = s.txHistory := by
  have hother : ¬ (group = .thlcc ∨ group = .thlsts ∨ group = .thlpctr) :=
    not_or.mpr ⟨hcc, not_or.mpr ⟨hsts, hpctr⟩⟩
  have hkept : KeptByHook group address fun t => t.txHistory = s.txHistory :=
    { dlcError := fun _ _ ht => ht
      rules := fun _ _ _ _ _ ht => ht
      rxBuffer := fun _ _ ht => ht
      rxFifo := fun _ _ _ ht => ht
      txrxFifo := fun _ _ _ _ ht => ht
      staged := fun _ _ ht => ht
      txBuffer := fun _ _ _ _ _ ht => ht
      txIntrEnable := fun _ _ ht => ht
      txQueue := fun _ _ _ _ ht => ht
      txHistory := fun hgroup => absurd hgroup hother
      cleared := fun _ _ ht => ht }
  exact hkept.keeps rfl h

theorem txHistory_putWord (address : Nat) (data : BitVec 32) (s : CanController) :
    (s.putWord address data).txHistory = s.txHistory :=
  rfl

theorem txHistory_modifyTxHistory_self (cid : CanChannelId)
    (f : CanTxHistory → CanTxHistory) (s : CanController) :
    (s.modifyTxHistory cid f).txHistory cid = f (s.txHistory cid) :=
  Function.update_self ..

theorem txHistory_modifyTxHistory_of_ne {c cid : CanChannelId} (h : cid ≠ c)
    (f : CanTxHistory → CanTxHistory) (s : CanController) :
    (s.modifyTxHistory c f).txHistory cid = s.txHistory cid :=
  Function.update_of_ne h ..

/-- A change of the configuration or the flags of a history keeps its entries. -/
theorem entries_modifyTxHistory {f : CanTxHistory → CanTxHistory}
    (hf : ∀ history, (f history).entries = history.entries) (c cid : CanChannelId)
    (s : CanController) :
    ((s.modifyTxHistory c f).txHistory cid).entries = (s.txHistory cid).entries := by
  by_cases hc : cid = c
  · rw [hc, txHistory_modifyTxHistory_self, hf]
  · rw [txHistory_modifyTxHistory_of_ne hc]

/-- A store removes the oldest entry of the channel that it advances, and no
other entry. -/
theorem put_entries (h : s.put size address data = some t) {cid : CanChannelId}
    (hformed : Formed canTxHistoryBufferNum (s.txHistory cid).fifoControl) :
    (s.txHistory cid).entries =
      (if Advances size address data s cid then (s.txHistory cid).oldest.toList else []) ++
        (t.txHistory cid).entries := by
  have hafter := congrFun (afterStore_txHistory size address data s) cid
  rw [put_eq] at h
  cases hgroup : searchMap address with
  | none =>
    simp only [hgroup] at h
    cases h
    have hnot : ¬ Advances size address data s cid := by
      intro hadvances
      rw [Advances, hgroup] at hadvances
      exact absurd hadvances.1 nofun
    rw [if_neg hnot, hafter, List.nil_append]
  | some group =>
    simp only [hgroup] at h
    by_cases hpctr : group = .thlpctr
    · rw [hpctr] at h hgroup
      cases h
      unfold writeThlpctr
      dsimp only
      by_cases hword : (s.afterStore size address data).word address &&& 0xFF = 0xFF
      · rw [if_pos hword]
        by_cases hc : Fin.ofNat canChannelNum (groupIndex address 0x0440 4) = cid
        · have hadvances : Advances size address data s cid := ⟨hgroup, hc, hword⟩
          rw [if_pos hadvances, hc]
          rw [txHistory_putWord, txHistory_modifyTxHistory_self, hafter]
          exact CanTxHistory.entries_next hformed
        · have hnot : ¬ Advances size address data s cid := fun hadvances => hc hadvances.2.1
          rw [if_neg hnot]
          rw [txHistory_putWord, txHistory_modifyTxHistory_of_ne (Ne.symm hc), hafter,
            List.nil_append]
      · have hnot : ¬ Advances size address data s cid := fun hadvances => hword hadvances.2.2
        rw [if_neg hword, if_neg hnot, List.nil_append]
        rw [txHistory_putWord, hafter]
    · have hnot : ¬ Advances size address data s cid := by
        intro hadvances
        rw [Advances, hgroup] at hadvances
        exact hpctr (Option.some.inj hadvances.1)
      rw [if_neg hnot, List.nil_append]
      by_cases hcc : group = .thlcc
      · rw [hcc] at h
        cases h
        rw [← hafter]
        refine (entries_modifyTxHistory ?_ _ cid _).symm
        exact fun _ => rfl
      · by_cases hsts : group = .thlsts
        · rw [hsts] at h
          cases h
          rw [← hafter]
          refine (entries_modifyTxHistory ?_ _ cid _).symm
          exact fun _ => rfl
        · rw [writeHook_txHistory hcc hsts hpctr h, hafter]

end CanController

end Athrill
