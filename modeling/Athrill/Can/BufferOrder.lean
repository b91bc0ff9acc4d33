import Athrill.Can.Offers

/-!
# Choosing by the buffer number

With the priority of the buffer numbers a channel compares its pending transmit
buffers with the buffers that its transmit FIFOs are linked to.  A FIFO is
compared through the number of the buffer in the whole controller, remembered
through the number in its channel, and fetched as if the number of the buffer
were its own.

* `TxOrigin`: the buffers and FIFOs of a channel, with their numbers.
* `Looped`, `looped_step`: what the loop over the FIFOs has found so far.
* `selection_bufno`: the choice.
* `SendsSmallest`, `sendsSmallest_exact`: when it is the pending source with the
  smallest number.
-/

namespace Athrill

namespace CanController

variable {s : CanController} {cid : CanChannelId}

/-! ## Sources -/

/-- A transmit buffer or a TXRX FIFO of a channel. -/
inductive TxOrigin where
  | buffer (bufno : CanTxBufferIdx)
  | fifo (k : CanTxrxFifoIdx)

/-- A FIFO in transmit mode that is not empty. -/
def PendingFifo (s : CanController) (cid : CanChannelId) (k : CanTxrxFifoIdx) : Prop :=
  (s.txrxFifo cid k).config.mode = canTxrxFifoModeTx ∧
    (s.txrxFifo cid k).fifoControl.count ≠ 0

/-- The buffer that a FIFO is linked to. -/
def link (s : CanController) (cid : CanChannelId) (k : CanTxrxFifoIdx) : CanTxBufferIdx :=
  (s.txrxFifo cid k).config.txBufno

namespace TxOrigin

/-- It has something to send. -/
def Pending (s : CanController) (cid : CanChannelId) : TxOrigin → Prop
  | buffer bufno => (s.txBuffer cid bufno).reqTx = true
  | fifo k => PendingFifo s cid k

/-- Its number, for a FIFO that of its link. -/
def number (s : CanController) (cid : CanChannelId) : TxOrigin → CanTxBufferIdx
  | buffer bufno => bufno
  | fifo k => link s cid k

/-- The message that it sends next. -/
def message (s : CanController) (cid : CanChannelId) : TxOrigin → CanData
  | buffer bufno => (s.txBuffer cid bufno).message
  | fifo k => (s.txrxFifo cid k).tx (s.txrxFifo cid k).fifoControl.roff

/-- The controller after it has sent. -/
def completed (cid : CanChannelId) : TxOrigin → CanController → CanController
  | buffer bufno => modifyTxBuffer cid bufno canTxbufferNotifyTxdone
  | fifo k => modifyTxrxFifo cid k canTxrxfifoNotifyTxdone

/-- The function pointers and the index lead to it, and the index is one of its
container. -/
def Is (choice : Selection) : TxOrigin → Prop
  | buffer bufno => choice.source = .buffer ∧ choice.bufidx = bufno
  | fifo k => choice.source = .fifo ∧ choice.bufidx.val = k.val

end TxOrigin

/-- The channel chooses the pending source with the smallest number, takes its
message and completes it. -/
def SendsSmallest (s : CanController) (cid : CanChannelId) : Prop :=
  ∃ choice, s.selection cid = some choice ∧
    ∃ origin : TxOrigin, origin.Pending s cid ∧
      (∀ other : TxOrigin, other.Pending s cid → origin.number s cid ≤ other.number s cid) ∧
      origin.Is choice ∧
      s.taken cid choice.source choice.bufidx = some (.ok (origin.message s cid)) ∧
      ∀ t : CanController,
        t.notifyTxdone cid choice.source choice.bufidx = some (origin.completed cid t)

/-! ## The buffers -/

/-- The first index of a search is the smallest one. -/
theorem find?_finRange_eq_some {n : Nat} {p : Fin n → Bool} {i : Fin n}
    (h : (List.finRange n).find? p = some i) : p i = true ∧ ∀ j, p j = true → i ≤ j := by
  refine ⟨List.find?_some h, fun j hj => ?_⟩
  obtain ⟨_, before, after, heq, hbefore⟩ := List.find?_eq_some_iff_append.mp h
  have hsorted := List.pairwise_lt_finRange n
  rw [heq] at hsorted
  have hmem : j ∈ before ++ i :: after := by
    rw [← heq]
    exact List.mem_finRange j
  rcases List.mem_append.mp hmem with hmem | hmem
  · have hnot := hbefore j hmem
    rw [hj] at hnot
    cases hnot
  · rcases List.mem_cons.mp hmem with heq | hmem
    · exact le_of_eq heq.symm
    · have hlater := (List.pairwise_cons.mp (List.pairwise_append.mp hsorted).2.1).1
      exact le_of_lt (hlater j hmem)

/-! ## The FIFOs -/

/-- A pending FIFO whose link comes before all pending buffers. -/
def Preferred (s : CanController) (cid : CanChannelId) (k : CanTxrxFifoIdx) : Prop :=
  PendingFifo s cid k ∧ ∀ bufno, (s.txBuffer cid bufno).reqTx = true → link s cid k < bufno

/-- Among the preferred FIFOs with numbers below `n` this one is remembered: on
channel 0, where the two numbers of a buffer agree, the one with the smallest
link, on the other channels the first one. -/
def Leads (s : CanController) (cid : CanChannelId) (n : Nat) (k : CanTxrxFifoIdx) : Prop :=
  Preferred s cid k ∧ k.val < n ∧ ∀ other, Preferred s cid other → other.val < n →
    if cid = 0 then link s cid k ≤ link s cid other else k ≤ other

/-- What the loop knows after `n` FIFOs, from the bound `start` on. -/
def Looped (s : CanController) (cid : CanChannelId) (start n : Nat) (acc : Nat × Bool) : Prop :=
  acc = (start, true) ∧ (∀ k, Preferred s cid k → n ≤ k.val) ∨
    ∃ k, acc = ((link s cid k).val, false) ∧ Leads s cid n k

/-- One FIFO in the loop. -/
def loopFifo (s : CanController) (cid : CanChannelId) (acc : Nat × Bool) (k : CanTxrxFifoIdx) :
    Nat × Bool :=
  let fifo := s.txrxFifo cid k
  if fifo.config.mode ≠ canTxrxFifoModeTx then acc
  else if fifo.fifoControl.count = 0 then acc
  else if canTxBufferId cid.val fifo.config.txBufno.val < acc.1 then
    (fifo.config.txBufno.val, false)
  else acc

theorem loopFifo_of_pending {k : CanTxrxFifoIdx} (h : PendingFifo s cid k) (acc : Nat × Bool) :
    loopFifo s cid acc k =
      if canTxBufferId cid.val (link s cid k).val < acc.1 then ((link s cid k).val, false)
      else acc := by
  unfold loopFifo
  dsimp only
  rw [if_neg (not_not.mpr h.1), if_neg h.2]
  rfl

theorem loopFifo_of_not_pending {k : CanTxrxFifoIdx} (h : ¬ PendingFifo s cid k)
    (acc : Nat × Bool) : loopFifo s cid acc k = acc := by
  unfold loopFifo
  dsimp only
  split_ifs with hmode hcount
  · rfl
  · rfl
  · exact absurd ⟨not_not.mp hmode, hcount⟩ h
  · rfl

/-- The bound that the buffers give: a FIFO is below it exactly when its link
comes before all pending buffers. -/
def IsBound (s : CanController) (cid : CanChannelId) (start : Nat) : Prop :=
  ∀ k, canTxBufferId cid.val (link s cid k).val < start ↔
    ∀ bufno, (s.txBuffer cid bufno).reqTx = true → link s cid k < bufno

/-- The next FIFO does not take the lead. -/
theorem Leads.succ {lead k : CanTxrxFifoIdx} (h : Leads s cid k.val lead)
    (hk : Preferred s cid k → if cid = 0 then link s cid lead ≤ link s cid k else lead ≤ k) :
    Leads s cid (k.val + 1) lead := by
  obtain ⟨hlead, hlt, hfirst⟩ := h
  refine ⟨hlead, Nat.lt_succ_of_lt hlt, fun other hother hbound => ?_⟩
  by_cases hsame : other = k
  · rw [hsame]
    exact hk (hsame ▸ hother)
  · have hne : other.val ≠ k.val := fun heq => hsame (Fin.ext heq)
    exact hfirst other hother (by omega)

/-- No FIFO is preferred yet. -/
theorem none_preferred_succ {k : CanTxrxFifoIdx} (hk : ¬ Preferred s cid k)
    (h : ∀ other, Preferred s cid other → k.val ≤ other.val) (other : CanTxrxFifoIdx)
    (hother : Preferred s cid other) : k.val + 1 ≤ other.val := by
  have hne : other.val ≠ k.val := by
    intro heq
    have hsame : other = k := Fin.ext heq
    exact hk (hsame ▸ hother)
  have hge := h other hother
  omega

/-- One more FIFO. -/
theorem looped_step {start : Nat} (hbound : IsBound s cid start) {acc : Nat × Bool}
    (k : CanTxrxFifoIdx) (h : Looped s cid start k.val acc) :
    Looped s cid start (k.val + 1) (loopFifo s cid acc k) := by
  by_cases hpending : PendingFifo s cid k
  · rw [loopFifo_of_pending hpending]
    rcases h with ⟨hacc, hnone⟩ | ⟨lead, hacc, hleads⟩
    · rw [hacc]
      by_cases hbelow : canTxBufferId cid.val (link s cid k).val < start
      · -- the first preferred FIFO
        rw [if_pos hbelow]
        have hpreferred : Preferred s cid k := ⟨hpending, (hbound k).mp hbelow⟩
        refine Or.inr ⟨k, rfl, hpreferred, Nat.lt_succ_self _, fun other hother hlt => ?_⟩
        have hge := hnone other hother
        have hsame : other = k := Fin.ext (by omega)
        rw [hsame]
        split_ifs
        · exact le_refl _
        · exact le_refl _
      · rw [if_neg hbelow]
        exact Or.inl ⟨rfl, none_preferred_succ (fun hk => hbelow ((hbound k).mpr hk.2)) hnone⟩
    · rw [hacc]
      by_cases hzero : cid = 0
      · have hid : canTxBufferId cid.val (link s cid k).val = (link s cid k).val := by
          rw [hzero, canTxBufferId]
          show 0 * 16 + _ = _
          omega
        rw [hid]
        by_cases hless : (link s cid k).val < (link s cid lead).val
        · -- on channel 0 a smaller link takes the lead
          rw [if_pos hless]
          have hpreferred : Preferred s cid k := ⟨hpending, fun bufno hreq =>
            lt_trans (show link s cid k < link s cid lead from hless) (hleads.1.2 bufno hreq)⟩
          refine Or.inr ⟨k, rfl, hpreferred, Nat.lt_succ_self _, fun other hother hlt => ?_⟩
          rw [if_pos hzero]
          by_cases hsame : other = k
          · rw [hsame]
          · have hne : other.val ≠ k.val := fun heq => hsame (Fin.ext heq)
            have hle := hleads.2.2 other hother (by omega)
            rw [if_pos hzero] at hle
            exact le_trans (le_of_lt hless) hle
        · rw [if_neg hless]
          refine Or.inr ⟨lead, rfl, hleads.succ fun _ => ?_⟩
          rw [if_pos hzero]
          exact Nat.not_lt.mp hless
      · -- on the other channels no number of a buffer is below a remembered link
        have hpos : 0 < cid.val := Fin.pos_iff_ne_zero.mpr hzero
        have hlink := (link s cid lead).isLt
        have hnot : ¬ canTxBufferId cid.val (link s cid k).val < (link s cid lead).val := by
          unfold canTxBufferId
          omega
        rw [if_neg hnot]
        refine Or.inr ⟨lead, rfl, hleads.succ fun _ => ?_⟩
        rw [if_neg hzero]
        exact le_of_lt (show lead.val < k.val from hleads.2.1)
  · rw [loopFifo_of_not_pending hpending]
    rcases h with ⟨hacc, hnone⟩ | ⟨lead, hacc, hleads⟩
    · exact Or.inl ⟨hacc, none_preferred_succ (fun hk => hpending hk.1) hnone⟩
    · exact Or.inr ⟨lead, hacc, hleads.succ fun hk => absurd hk.1 hpending⟩

/-- The whole loop. -/
theorem looped_prioBufnoFifos {start : Nat} (hbound : IsBound s cid start) :
    Looped s cid start 3 (s.prioBufnoFifos cid start) := by
  have hnone : Looped s cid start 0 (start, true) := Or.inl ⟨rfl, fun _ _ => Nat.zero_le _⟩
  have hone := looped_step hbound 0 hnone
  have htwo := looped_step hbound 1 hone
  exact looped_step hbound 2 htwo

/-! ## The choice -/

/-- With the priority of the buffer numbers: nothing waits, or the first pending
buffer is chosen, or a FIFO whose link is taken for its number. -/
theorem selection_bufno (cid : CanChannelId)
    (hprio : s.modeGlobal.config.enableTxBufnoFirst = true) :
    s.selection cid = none ∧ (∀ origin : TxOrigin, ¬ origin.Pending s cid) ∨
      (∃ choice bufno, s.selection cid = some choice ∧ TxOrigin.Is choice (.buffer bufno) ∧
        (s.txBuffer cid bufno).reqTx = true ∧
        (∀ other, (s.txBuffer cid other).reqTx = true → bufno ≤ other) ∧
        ∀ k, PendingFifo s cid k → bufno ≤ link s cid k) ∨
      ∃ choice k, s.selection cid = some choice ∧ choice.source = .fifo ∧
        choice.bufidx = link s cid k ∧ Leads s cid 3 k := by
  have hselection : s.selection cid = s.canTxSelectBufferPrioBufno cid := by
    unfold selection
    rw [hprio]
    rfl
  rw [hselection]
  unfold canTxSelectBufferPrioBufno
  dsimp only
  have hfifo : ∀ k : CanTxrxFifoIdx, (link s cid k).val ≠ canTxBufferId canChannelNum 16 := by
    intro k heq
    have hlt := (link s cid k).isLt
    rw [heq] at hlt
    exact absurd hlt (by decide)
  have hindex : ∀ bufno : CanTxBufferIdx, Fin.ofNat 16 bufno.val = bufno :=
    fun bufno => Fin.ext (Nat.mod_eq_of_lt bufno.isLt)
  cases hfirst : s.firstTxBuffer cid with
  | none =>
    have hnone : ∀ bufno, ¬ (s.txBuffer cid bufno).reqTx = true := fun bufno =>
      List.find?_eq_none.mp hfirst bufno (List.mem_finRange bufno)
    have hbound : IsBound s cid (canTxBufferId canChannelNum 16) := by
      intro k
      have hcid := cid.isLt
      have hlink := (link s cid k).isLt
      refine iff_of_true ?_ fun bufno hreq => absurd hreq (hnone bufno)
      unfold canTxBufferId canChannelNum at *
      omega
    rcases looped_prioBufnoFifos hbound with ⟨hacc, hempty⟩ | ⟨k, hacc, hleads⟩
    · refine Or.inl ⟨?_, fun origin => ?_⟩
      · rw [hacc]
        exact if_pos rfl
      · cases origin with
        | buffer bufno => exact hnone bufno
        | fifo k =>
          intro hpending
          have hge := hempty k ⟨hpending, fun bufno hreq => absurd hreq (hnone bufno)⟩
          exact absurd k.isLt (Nat.not_lt.mpr hge)
    · refine Or.inr (Or.inr ?_)
      rw [hacc]
      dsimp only
      rw [if_neg (hfifo k), if_neg nofun]
      exact ⟨_, k, rfl, rfl, hindex _, hleads⟩
  | some bufno =>
    obtain ⟨hreq, hsmallest⟩ := find?_finRange_eq_some hfirst
    have hbound : IsBound s cid (canTxBufferId cid.val bufno.val) := by
      intro k
      have hless : canTxBufferId cid.val (link s cid k).val < canTxBufferId cid.val bufno.val ↔
          link s cid k < bufno := by
        unfold canTxBufferId
        exact Nat.add_lt_add_iff_left
      rw [hless]
      exact ⟨fun hlt other hother => lt_of_lt_of_le hlt (hsmallest other hother),
        fun hall => hall bufno hreq⟩
    rcases looped_prioBufnoFifos hbound with ⟨hacc, hempty⟩ | ⟨k, hacc, hleads⟩
    · have hne : canTxBufferId cid.val bufno.val ≠ canTxBufferId canChannelNum 16 := by
        have hcid := cid.isLt
        have hbufno := bufno.isLt
        unfold canTxBufferId canChannelNum at *
        omega
      refine Or.inr (Or.inl ?_)
      rw [hacc]
      dsimp only
      rw [if_neg hne, if_pos rfl]
      refine ⟨_, bufno, rfl, ⟨rfl, Fin.ext ?_⟩, hreq, hsmallest, fun k hpending => ?_⟩
      · show (cid.val * 16 + bufno.val) % 16 = bufno.val
        have hbufno := bufno.isLt
        omega
      · by_contra hlink
        have hpreferred : Preferred s cid k := ⟨hpending, fun other hother =>
          lt_of_lt_of_le (lt_of_not_ge hlink) (hsmallest other hother)⟩
        exact absurd k.isLt (Nat.not_lt.mpr (hempty k hpreferred))
    · refine Or.inr (Or.inr ?_)
      rw [hacc]
      dsimp only
      rw [if_neg (hfifo k), if_neg nofun]
      exact ⟨_, k, rfl, rfl, hindex _, hleads⟩

/-! ## The condition -/

/-- No transmit FIFO goes before the first pending buffer. -/
def BufferFirst (s : CanController) (cid : CanChannelId) : Prop :=
  ∃ bufno, (s.txBuffer cid bufno).reqTx = true ∧ ∀ k, PendingFifo s cid k → bufno ≤ link s cid k

/-- The link of the remembered FIFO, read as the number of a FIFO, is that of an
enabled one that is pending with the smallest number. -/
def LinkIsIndex (s : CanController) (cid : CanChannelId) : Prop :=
  ∃ k j : CanTxrxFifoIdx, Leads s cid 3 k ∧ (link s cid k).val = j.val ∧ PendingFifo s cid j ∧
    (s.txrxFifo cid j).config.enableFifo = true ∧
    ∀ other : TxOrigin, other.Pending s cid → link s cid j ≤ other.number s cid

/-- What an index of a FIFO gives. -/
theorem taken_fifo {bufidx : CanTxBufferIdx} {k : CanTxrxFifoIdx} (h : bufidx.val = k.val) :
    s.taken cid .fifo bufidx = some (canTxrxfifoGetTxdata (s.txrxFifo cid k)).1 := by
  have hlt : bufidx.val < 3 := by
    rw [h]
    exact k.isLt
  have hk : (⟨bufidx.val, hlt⟩ : CanTxrxFifoIdx) = k := Fin.ext h
  unfold taken getTxdata
  dsimp only
  rw [dif_pos hlt, hk]
  rfl

/-- A pending FIFO gives its message exactly if it is enabled. -/
theorem getTxdata_pending {k : CanTxrxFifoIdx} (h : PendingFifo s cid k) :
    (canTxrxfifoGetTxdata (s.txrxFifo cid k)).1 =
        .ok ((s.txrxFifo cid k).tx (s.txrxFifo cid k).fifoControl.roff) ↔
      (s.txrxFifo cid k).config.enableFifo = true := by
  unfold canTxrxfifoGetTxdata canTxrxfifoPeekTxdata
  rw [if_neg (not_not.mpr h.1), if_neg h.2]
  cases henable : (s.txrxFifo cid k).config.enableFifo with
  | true => exact iff_of_true rfl rfl
  | false => exact iff_of_false nofun nofun

theorem notifyTxdone_fifo {bufidx : CanTxBufferIdx} {k : CanTxrxFifoIdx} (h : bufidx.val = k.val)
    (t : CanController) :
    t.notifyTxdone cid .fifo bufidx = some (t.modifyTxrxFifo cid k canTxrxfifoNotifyTxdone) := by
  have hlt : bufidx.val < 3 := by
    rw [h]
    exact k.isLt
  have hk : (⟨bufidx.val, hlt⟩ : CanTxrxFifoIdx) = k := Fin.ext h
  unfold notifyTxdone
  dsimp only
  rw [dif_pos hlt, hk]

/-- Two FIFOs that lead have the same link. -/
theorem Leads.link_eq {k k' : CanTxrxFifoIdx} (h : Leads s cid 3 k) (h' : Leads s cid 3 k') :
    link s cid k = link s cid k' := by
  have hle := h.2.2 k' h'.1 h'.2.1
  have hge := h'.2.2 k h.1 h.2.1
  by_cases hzero : cid = 0
  · rw [if_pos hzero] at hle hge
    exact le_antisymm hle hge
  · rw [if_neg hzero] at hle hge
    rw [le_antisymm hle hge]

/-- A FIFO that leads goes before every pending buffer. -/
theorem Leads.not_bufferFirst {k : CanTxrxFifoIdx} (h : Leads s cid 3 k) : ¬ BufferFirst s cid := by
  intro hbuffer
  obtain ⟨bufno, hreq, hfirst⟩ := hbuffer
  exact absurd (h.1.2 bufno hreq) (not_lt_of_ge (hfirst k h.1.1))

/-- A chosen buffer is the pending source with the smallest number. -/
theorem sendsSmallest_of_buffer {choice : Selection} {bufno : CanTxBufferIdx}
    (hchoice : s.selection cid = some choice) (his : TxOrigin.Is choice (.buffer bufno))
    (hreq : (s.txBuffer cid bufno).reqTx = true)
    (hbuffers : ∀ other, (s.txBuffer cid other).reqTx = true → bufno ≤ other)
    (hfifos : ∀ k, PendingFifo s cid k → bufno ≤ link s cid k) : SendsSmallest s cid := by
  refine ⟨choice, hchoice, .buffer bufno, hreq, fun other hother => ?_, his, ?_, fun t => ?_⟩
  · cases other with
    | buffer other => exact hbuffers other hother
    | fifo k => exact hfifos k hother
  · rw [his.1, his.2]
    rfl
  · rw [his.1, his.2]
    rfl

/-- A chosen FIFO is fetched under the number of its link. -/
theorem sendsSmallest_of_fifo {choice : Selection} {k : CanTxrxFifoIdx}
    (hchoice : s.selection cid = some choice) (hsource : choice.source = .fifo)
    (hbufidx : choice.bufidx = link s cid k) (hleads : Leads s cid 3 k) :
    SendsSmallest s cid ↔ LinkIsIndex s cid := by
  constructor
  · intro hsends
    obtain ⟨choice', hchoice', origin, hpending, hsmallest, his, htaken, _⟩ := hsends
    have hsame : choice' = choice := Option.some.inj (hchoice'.symm.trans hchoice)
    rw [hsame] at his htaken
    cases origin with
    | buffer bufno =>
      have hbuffer : choice.source = .buffer := his.1
      rw [hsource] at hbuffer
      cases hbuffer
    | fifo j =>
      have hindex : choice.bufidx.val = j.val := his.2
      rw [hsource, taken_fifo hindex] at htaken
      refine ⟨k, j, hleads, ?_, hpending, ?_, hsmallest⟩
      · rw [← hbufidx]
        exact hindex
      · exact (getTxdata_pending hpending).mp (Option.some.inj htaken)
  · intro hlink
    obtain ⟨k', j, hleads', hindex, hpending, henable, hsmallest⟩ := hlink
    have hj : choice.bufidx.val = j.val := by
      rw [hbufidx, hleads.link_eq hleads']
      exact hindex
    refine ⟨choice, hchoice, .fifo j, hpending, hsmallest, ⟨hsource, hj⟩, ?_, fun t => ?_⟩
    · rw [hsource, taken_fifo hj]
      exact congrArg some ((getTxdata_pending hpending).mpr henable)
    · rw [hsource]
      exact notifyTxdone_fifo hj t

/-- With the priority of the buffer numbers a channel sends the pending source
with the smallest number exactly when no transmit FIFO goes before its first
pending buffer, or when the link of the remembered FIFO happens to be the number
of the right one. -/
theorem sendsSmallest_exact (s : CanController) (cid : CanChannelId)
    (hprio : s.modeGlobal.config.enableTxBufnoFirst = true) :
    SendsSmallest s cid ↔ BufferFirst s cid ∨ LinkIsIndex s cid := by
  rcases selection_bufno cid hprio with
    ⟨hnone, hempty⟩ | ⟨choice, bufno, hchoice, his, hreq, hbuffers, hfifos⟩ |
      ⟨choice, k, hchoice, hsource, hbufidx, hleads⟩
  · refine iff_of_false (fun hsends => ?_) fun hcases => ?_
    · obtain ⟨choice, hchoice, _⟩ := hsends
      rw [hnone] at hchoice
      cases hchoice
    · rcases hcases with ⟨bufno, hreq, _⟩ | ⟨k, _, hleads, _⟩
      · exact hempty (.buffer bufno) hreq
      · exact hempty (.fifo k) hleads.1.1
  · exact iff_of_true (sendsSmallest_of_buffer hchoice his hreq hbuffers hfifos)
      (Or.inl ⟨bufno, hreq, hfifos⟩)
  · rw [sendsSmallest_of_fifo hchoice hsource hbufidx hleads, or_iff_right hleads.not_bufferFirst]

/-- The writes that put a message into FIFO 0 of channel 1, linked to buffer 5. -/
def linkedMessage : List CanEvent :=
  [.put .word 0x0084 0x1, .put .word 0x0124 0x510101, .put .word 0x01E4 0xFF]

/-- Buffer 0 is pending as well. -/
theorem sendsSmallest_one :
    ∃ s, canController.Reachable s ∧ s.modeGlobal.config.enableTxBufnoFirst = true ∧
      PendingFifo s 1 0 ∧ SendsSmallest s 1 := by
  have hview : (run (linkedMessage ++ [.put .byte 0x0260 0x1]) initialCan).map (fun s =>
      (s.modeGlobal.config.enableTxBufnoFirst, (s.txBuffer 1 0).reqTx,
        (s.txrxFifo 1 0).config.mode, (s.txrxFifo 1 0).fifoControl.count)) =
      some (true, true, canTxrxFifoModeTx, 1) := by
    decide +kernel
  obtain ⟨s, hreach, hs⟩ := exists_reachable hview
  obtain ⟨hprio, hrest⟩ := Prod.mk.inj hs
  obtain ⟨hreq, hrest⟩ := Prod.mk.inj hrest
  obtain ⟨hmode, hcount⟩ := Prod.mk.inj hrest
  have hpending : PendingFifo s 1 0 := by
    refine ⟨hmode, ?_⟩
    rw [hcount]
    exact Nat.one_ne_zero
  have hfirst : BufferFirst s 1 := ⟨0, hreq, fun k _ => Fin.zero_le _⟩
  exact ⟨s, hreach, hprio, hpending, (sendsSmallest_exact s 1 hprio).mpr (Or.inl hfirst)⟩

/-- The index 5 is not one of a FIFO. -/
theorem link_is_not_index :
    ¬ ∀ s, canController.Reachable s → ∀ cid, s.modeGlobal.config.enableTxBufnoFirst = true →
      (∃ origin : TxOrigin, origin.Pending s cid) → SendsSmallest s cid := by
  intro hall
  have hview : (run linkedMessage initialCan).map (fun s =>
      (s.modeGlobal.config.enableTxBufnoFirst, (s.txrxFifo 1 0).config.mode,
        (s.txrxFifo 1 0).fifoControl.count,
        (s.selection 1).map fun choice => (choice.source, choice.bufidx))) =
      some (true, canTxrxFifoModeTx, 1, some (.fifo, 5)) := by
    decide +kernel
  obtain ⟨s, hreach, hs⟩ := exists_reachable hview
  obtain ⟨hprio, hrest⟩ := Prod.mk.inj hs
  obtain ⟨hmode, hrest⟩ := Prod.mk.inj hrest
  obtain ⟨hcount, hchosen⟩ := Prod.mk.inj hrest
  have hpending : (TxOrigin.fifo 0).Pending s 1 := by
    refine ⟨hmode, ?_⟩
    rw [hcount]
    exact Nat.one_ne_zero
  obtain ⟨choice, hchoice, origin, _, _, his, _⟩ := hall s hreach 1 hprio ⟨_, hpending⟩
  rw [hchoice] at hchosen
  obtain ⟨hsource, hbufidx⟩ := Prod.mk.inj (Option.some.inj hchosen)
  cases origin with
  | buffer bufno =>
    have hbuffer := his.1
    rw [hsource] at hbuffer
    cases hbuffer
  | fifo k =>
    have hindex : choice.bufidx.val = k.val := his.2
    have hfive : choice.bufidx.val = 5 := congrArg Fin.val hbufidx
    have hlt := k.isLt
    omega

end CanController

end Athrill
