import Athrill.Can.Steps

/-!
# The link of a TXRX FIFO to a transmit buffer

A write to `RSCANnCFCCk` takes the link of the FIFO from the field `CFTML` and
cancels the request of the buffer that the field names, whatever the mode of the
FIFO is.

* `put_cfcc`: the transmit buffers after such a write.
* `LinkConfined`: a write touches no buffer in receive mode and at most the
  linked one in transmit mode.
* `link_confined_exact`: the writes that do so.
-/

namespace Athrill

namespace CanController

variable {s s' : CanController} {address : Nat}

/-! ## The write -/

/-- `CFM` of a written configuration. -/
def cfccMode (data : BitVec 32) : BitVec 2 := ((data >>> 16) &&& 0x3).setWidth 2

/-- The channel of the FIFO that a configuration register belongs to. -/
def cfccChannel (address : Nat) : CanChannelId := txrxFifoCid (groupIndex address 0x0118 4)

/-- A configuration write succeeds and changes the transmit buffers in one
place. -/
theorem put_cfcc (hmap : searchMap address = some .cfcc) (size : AccessSize) (data : BitVec 32)
    (s : CanController) :
    ∃ s', s.put size address data = some s' ∧
      s'.txBuffer = (s.modifyTxBuffer (cfccChannel address)
        (cfccTxBufno ((s.afterStore size address data).word address)) fun buffer =>
          { buffer with reqTx := false }).txBuffer := by
  refine ⟨(s.afterStore size address data).writeCfcc address, ?_, ?_⟩
  · rw [put_eq, hmap]
    rfl
  · rw [afterStore_of_group hmap nofun nofun]
    rfl

/-! ## The transmit buffers -/

/-- A write that selects receive mode changes no transmit buffer, and one that
selects transmit mode cancels at most the request of the buffer that it links
to. -/
structure LinkConfined (address : Nat) (data : BitVec 32) (s s' : CanController) : Prop where
  receive : cfccMode data = canTxrxFifoModeRx → s'.txBuffer = s.txBuffer
  transmit : cfccMode data = canTxrxFifoModeTx → ∀ cid bufno,
    s'.txBuffer cid bufno = s.txBuffer cid bufno ∨
      cid = cfccChannel address ∧ bufno = cfccTxBufno data ∧
        s'.txBuffer cid bufno = { s.txBuffer cid bufno with reqTx := false }

/-- Cancelling one request changes nothing if there was none. -/
theorem cancel_eq_iff (cid : CanChannelId) (bufno : CanTxBufferIdx) (s : CanController) :
    (s.modifyTxBuffer cid bufno fun buffer => { buffer with reqTx := false }).txBuffer =
        s.txBuffer ↔ (s.txBuffer cid bufno).reqTx = false := by
  unfold modifyTxBuffer
  constructor
  · intro heq
    have hbuffer := congrFun (congrFun heq cid) bufno
    simp only [Function.update_self] at hbuffer
    exact (congrArg CanTxBuffer.reqTx hbuffer).symm
  · intro hnone
    have hbuffer : { s.txBuffer cid bufno with reqTx := false } = s.txBuffer cid bufno := by
      rw [← hnone]
    dsimp only
    rw [hbuffer, Function.update_eq_self, Function.update_eq_self]

/-- The other buffers stay as they are. -/
theorem cancel_cases (c : CanChannelId) (b : CanTxBufferIdx) (s : CanController)
    (cid : CanChannelId) (bufno : CanTxBufferIdx) :
    (s.modifyTxBuffer c b fun buffer => { buffer with reqTx := false }).txBuffer cid bufno =
        s.txBuffer cid bufno ∨
      cid = c ∧ bufno = b ∧
        (s.modifyTxBuffer c b fun buffer => { buffer with reqTx := false }).txBuffer cid bufno =
          { s.txBuffer cid bufno with reqTx := false } := by
  unfold modifyTxBuffer
  by_cases hc : cid = c
  · subst hc
    by_cases hb : bufno = b
    · subst hb
      exact Or.inr ⟨rfl, rfl, by simp⟩
    · exact Or.inl (by simp [hb])
  · exact Or.inl (by simp [hc])

/-- A configuration write leaves the transmissions of the other buffers alone
exactly when it does not select receive mode over a pending request of the
buffer that the link field names. -/
theorem link_confined_exact (s : CanController) (size : AccessSize) (data : BitVec 32)
    (hmap : searchMap address = some .cfcc) :
    ∃ s', s.put size address data = some s' ∧
      (LinkConfined address ((s.afterStore size address data).word address) s s' ↔
        (cfccMode ((s.afterStore size address data).word address) = canTxrxFifoModeRx →
          (s.txBuffer (cfccChannel address)
            (cfccTxBufno ((s.afterStore size address data).word address))).reqTx = false)) := by
  obtain ⟨s', hput, hbuffers⟩ := put_cfcc hmap size data s
  refine ⟨s', hput, ?_⟩
  constructor
  · intro h hmode
    have hsame := h.receive hmode
    rw [hbuffers] at hsame
    exact (cancel_eq_iff _ _ s).mp hsame
  · intro h
    refine ⟨fun hmode => ?_, fun _ cid bufno => ?_⟩
    · rw [hbuffers]
      exact (cancel_eq_iff _ _ s).mpr (h hmode)
    · rw [hbuffers]
      exact cancel_cases _ _ s cid bufno

/-- FIFO 0 is linked to buffer 1 in transmit mode while two buffers have a request,
and only that of buffer 1 goes away. -/
theorem link_confined_pending :
    searchMap 0x0118 = some .cfcc ∧
      ∃ s s', s.put .word 0x0118 0x110101 = some s' ∧
        (((s.txBuffer 0 0).reqTx, (s.txBuffer 0 1).reqTx) = (true, true) ∧
          ((s'.txBuffer 0 0).reqTx, (s'.txBuffer 0 1).reqTx) = (true, false)) ∧
        LinkConfined 0x0118 ((s.afterStore .word 0x0118 0x110101).word 0x0118) s s' := by
  have hmap : searchMap 0x0118 = some .cfcc := by decide
  have hview : (run [.put .byte 0x0250 0x1, .put .byte 0x0251 0x1] initialCan).bind (fun s =>
      (s.put .word 0x0118 0x110101).map fun s' =>
        decide ((((s.txBuffer 0 0).reqTx, (s.txBuffer 0 1).reqTx) = (true, true) ∧
          ((s'.txBuffer 0 0).reqTx, (s'.txBuffer 0 1).reqTx) = (true, false)) ∧
          cfccMode ((s.afterStore .word 0x0118 0x110101).word 0x0118) ≠ canTxrxFifoModeRx)) =
        some true := by
    decide +kernel
  obtain ⟨s, _, hstore⟩ := Option.bind_eq_some_iff.mp hview
  obtain ⟨s', hput, hs⟩ := Option.map_eq_some_iff.mp hstore
  obtain ⟨hrequests, hmode⟩ := of_decide_eq_true hs
  obtain ⟨stored, hstored, hconfined⟩ := link_confined_exact s .word 0x110101 hmap
  obtain rfl := Option.some.inj (hput.symm.trans hstored)
  exact ⟨hmap, s, s', hput, hrequests, hconfined.mpr fun h => absurd h hmode⟩

/-- A request of buffer 0 does not survive a write that puts FIFO 0 into receive
mode. -/
theorem receive_mode_cancels :
    ¬ ∀ s, canController.Reachable s → ∀ size address data s', searchMap address = some .cfcc →
      s.put size address data = some s' →
        LinkConfined address ((s.afterStore size address data).word address) s s' := by
  intro hall
  have hview : (run [.put .byte 0x0250 1] initialCan).map (fun s =>
      ((s.txBuffer 0 0).reqTx, cfccMode ((s.afterStore .word 0x0118 0x101).word 0x0118),
        (s.put .word 0x0118 0x101).map fun s' => (s'.txBuffer 0 0).reqTx)) =
      some (true, canTxrxFifoModeRx, some false) := by
    decide +kernel
  obtain ⟨s, hreach, hs⟩ := exists_reachable hview
  obtain ⟨hpending, hrest⟩ := Prod.mk.inj hs
  obtain ⟨hmode, hput⟩ := Prod.mk.inj hrest
  obtain ⟨s', hput, hafter⟩ := Option.map_eq_some_iff.mp hput
  have hsame := (hall s hreach .word 0x0118 0x101 s' (by decide) hput).receive hmode
  rw [hsame, hpending] at hafter
  exact absurd hafter nofun

end CanController

end Athrill
