import Athrill.Can.Register

/-!
# Channels that share the memory of a write handler

The write handler of `RSCANnCmCTR` compares the mode bits with those of the last
write, and keeps these in static variables that all channels share.  A write
then moves its channel as the channel's own history asks for only when the
shared values differ from the written ones exactly where the channel's own last
values do.  In the runs in which every write to one channel meets this, what
the other channels were told does not show in it.

* `OwnBits`, `CmctrUndisturbed`: the memory of one channel, and the condition.
* `channelView`: the mode and the two registers of a channel.
* `Alike`: devices that look the same from one channel.
* `channel_independent`: two runs that differ in the other channels.
-/

namespace Athrill

open CanModeGlobal

/-! ## What a channel sees -/

/-- The access stores into `RSCANnCmCTR` of the channel. -/
def WritesCmctr (cid : CanChannelId) (address : Nat) : Prop :=
  canRegGetAlignedAddr address = canRegRSCANnCmCTR cid

instance (cid : CanChannelId) (address : Nat) : Decidable (WritesCmctr cid address) :=
  inferInstanceAs (Decidable (_ = _))

/-- The answers of the bus and of the buffers for one channel. -/
def CanBusInput.only (cid : CanChannelId) (bus : CanBusInput) : CanBusInput where
  isArrived c := decide (c = cid) && bus.isArrived c
  selectBuffer c := decide (c = cid) && bus.selectBuffer c
  isDone c := decide (c = cid) && bus.isDone c
  notifyTxdone c := decide (c = cid) && bus.notifyTxdone c

/-- What is left of an access without the writes to the control registers of
the other channels and without their frames. -/
def channelAccess (cid : CanChannelId) : CanAccess → Option CanAccess
  | .put size address data =>
    if IsCmctr address ∧ ¬ WritesCmctr cid address then none else some (.put size address data)
  | .get size address => some (.get size address)
  | .clock bus => some (.clock (bus.only cid))

/-- The record of a channel, and its control and status registers as a load
returns them. -/
def channelView (cid : CanChannelId) (d : CanDevice) :
    CanModeChannel × BitVec 32 × BitVec 32 :=
  (d.modeGlobal.channel cid,
    (d.get (canRegRSCANnCmCTR cid)).register (canRegRSCANnCmCTR cid),
    (d.get (canRegRSCANnCmSTS cid)).register (canRegRSCANnCmSTS cid))

/-- The mode bits of the last write to the control register of a channel. -/
structure OwnBits where
  cslpr : BitVec 32
  chmdc : BitVec 32
  deriving DecidableEq

/-- The mode bits before the first write, as the static variables have them. -/
def OwnBits.initial : OwnBits := ⟨1, 1⟩

namespace CanDevice

/-- The word of `RSCANnCmCTR` that the handler reads after a store. -/
def writtenCmctr (cid : CanChannelId) (size : AccessSize) (address : Nat) (data : BitVec 32)
    (d : CanDevice) : BitVec 32 :=
  (d.stored size address data).register (canRegRSCANnCmCTR cid)

end CanDevice

/-- A step of the device, with the last write to one channel kept beside it. -/
def watchedStep (cid : CanChannelId) (access : CanAccess) (s : CanDevice × OwnBits) :
    CanDevice × OwnBits :=
  (s.1.step access,
    match access with
    | .put size address data =>
      if WritesCmctr cid address then
        let written := s.1.writtenCmctr cid size address data
        ⟨currentSlpr written, currentMdc written⟩
      else s.2
    | _ => s.2)

/-- A write to the channel finds in the static variables a difference exactly
where the channel's own last write leaves one. -/
def CmctrUndisturbed (cid : CanChannelId) (access : CanAccess) (s : CanDevice × OwnBits) : Prop :=
  match access with
  | .put size address data =>
    WritesCmctr cid address →
      let written := s.1.writtenCmctr cid size address data
      (currentSlpr written = s.1.oldCslpr ↔ currentSlpr written = s.2.cslpr) ∧
        (currentMdc written = s.1.oldChmdc ↔ currentMdc written = s.2.chmdc)
  | _ => True

/-! ## Register bytes -/

theorem storeBytes_outside {size offset i : Nat} {data : BitVec 32} {memory : CanMemory}
    (h : i < offset ∨ offset + size ≤ i) : storeBytes size offset data memory i = memory i := by
  have hnot : ¬ (offset ≤ i ∧ i < offset + size) := by omega
  exact if_neg hnot

/-- A store writes the same bytes into every memory. -/
theorem storeBytes_congr {size offset i : Nat} {data : BitVec 32} {memory memory' : CanMemory}
    (h : memory i = memory' i) :
    storeBytes size offset data memory i = storeBytes size offset data memory' i := by
  unfold storeBytes
  rw [h]

/-- The bytes of a store do not depend on the memory. -/
theorem storeBytes_inside {size offset i : Nat} {data : BitVec 32} (memory memory' : CanMemory)
    (h : offset ≤ i) (h' : i < offset + size) :
    storeBytes size offset data memory i = storeBytes size offset data memory' i :=
  (if_pos ⟨h, h'⟩).trans (if_pos ⟨h, h'⟩).symm

/-- Two devices have the same word in a register. -/
def SameRegister (offset : Nat) (d d' : CanDevice) : Prop :=
  ∀ i, offset ≤ i → i < offset + 4 → d.memory i = d'.memory i

theorem SameRegister.symm {offset : Nat} {d d' : CanDevice} (h : SameRegister offset d d') :
    SameRegister offset d' d :=
  fun i hi hi' => (h i hi hi').symm

theorem SameRegister.register {offset : Nat} {d d' : CanDevice} (h : SameRegister offset d d') :
    d.register offset = d'.register offset := by
  unfold CanDevice.register canRegisterReadData32
  rw [h offset (by omega) (by omega), h (offset + 1) (by omega) (by omega),
    h (offset + 2) (by omega) (by omega), h (offset + 3) (by omega) (by omega)]

theorem SameRegister.stored {offset : Nat} {d d' : CanDevice} (h : SameRegister offset d d')
    (size : AccessSize) (address : Nat) (data : BitVec 32) :
    SameRegister offset (d.stored size address data) (d'.stored size address data) :=
  fun i hi hi' => storeBytes_congr (h i hi hi')

namespace CanDevice

/-- The hook of an address writes at most the word of that address. -/
theorem memory_hook_outside {ioType : CanRegisterIo} {address i : Nat} {d : CanDevice}
    (h : i < canRegGetAlignedAddr address ∨ canRegGetAlignedAddr address + 4 ≤ i) :
    (d.canRegisterMappingIo ioType address).memory i = d.memory i := by
  unfold canRegisterMappingIo canRegisterMappingIoCHANNEL
  split
  · split
    · cases ioType <;> exact storeBytes_outside h
    · cases ioType with
      | read => exact storeBytes_outside h
      | write => rfl
    · rfl
  · split
    · cases ioType <;> rfl
    · split
      · next hgctr =>
        rw [hgctr] at h
        cases ioType <;> exact storeBytes_outside h
      · split
        · next hgsts =>
          rw [hgsts] at h
          cases ioType with
          | read => exact storeBytes_outside h
          | write => rfl
        · rfl

/-- Only the hook of `RSCANnGCTR` changes what it remembers. -/
theorem oldGctr_hook {address : Nat} (h : canRegGetAlignedAddr address ≠ canRegRSCANnGCTR)
    (ioType : CanRegisterIo) (d : CanDevice) :
    (d.canRegisterMappingIo ioType address).oldGslpr = d.oldGslpr ∧
      (d.canRegisterMappingIo ioType address).oldGmdc = d.oldGmdc := by
  unfold canRegisterMappingIo canRegisterMappingIoCHANNEL
  rw [if_neg h]
  split
  · split <;> cases ioType <;> exact ⟨rfl, rfl⟩
  · split
    · cases ioType <;> exact ⟨rfl, rfl⟩
    · split
      · cases ioType <;> exact ⟨rfl, rfl⟩
      · exact ⟨rfl, rfl⟩

/-- The word of `RSCANnCmCTR` after its hook. -/
theorem memory_hook_cmctr {ioType : CanRegisterIo} {address : Nat} {cid : CanChannelId}
    (h : WritesCmctr cid address) (d : CanDevice) :
    let d' := d.canRegisterMappingIo ioType address
    d'.memory =
      canRegisterWriteData32 (canRegRSCANnCmCTR cid)
        (updateModeBits (d'.modeGlobal.channel cid).ctrl.stop
          (d'.modeGlobal.channel cid).ctrl.selectMode (d.register (canRegRSCANnCmCTR cid)))
        d.memory := by
  have hctr : IsCmctr address := isCmctr_iff.mpr ⟨cid, h⟩
  unfold canRegisterMappingIo canRegisterMappingIoCHANNEL canRegisterMappingIoRSCANnCmCTR
  rw [if_pos hctr.1, hctr.2, h, canRegGroupIndex_cmctr h]
  cases ioType <;> rfl

/-- A load from the status register of a channel reads the record alone. -/
theorem sameRegister_get_cmsts {cid : CanChannelId} {d d' : CanDevice}
    (h : d.modeGlobal.channel cid = d'.modeGlobal.channel cid) :
    SameRegister (canRegRSCANnCmSTS cid) (d.get (canRegRSCANnCmSTS cid))
      (d'.get (canRegRSCANnCmSTS cid)) := by
  have hlt : canRegRSCANnCmSTS cid < 16 * canChannelNum := by
    have hcid := cid.isLt
    unfold canRegRSCANnCmSTS
    omega
  have halign : canRegGetAlignedAddr (canRegRSCANnCmSTS cid) = canRegRSCANnCmSTS cid := by
    unfold canRegGetAlignedAddr canRegRSCANnCmSTS
    omega
  have hmod : canRegRSCANnCmSTS cid % 16 = 8 := by
    unfold canRegRSCANnCmSTS
    omega
  have hindex : canRegGroupIndex (canRegRSCANnCmSTS cid) 0x8 = cid := by
    apply Fin.ext
    rw [canRegGroupIndex, halign, canRegRSCANnCmSTS, Nat.add_sub_cancel_left,
      Nat.mul_div_cancel_left _ (by decide)]
    exact Nat.mod_eq_of_lt cid.isLt
  unfold get canRegisterMappingIo canRegisterMappingIoCHANNEL canRegisterMappingIoRSCANnCmSTS
  rw [if_pos hlt, if_pos hlt, halign, hmod, hindex]
  intro i hi hi'
  dsimp only
  rw [h]
  exact storeBytes_inside _ _ hi hi'

/-- The control register of the controller is not among those of the channels. -/
theorem not_channel_of_gctr {address : Nat}
    (h : canRegGetAlignedAddr address = canRegRSCANnGCTR) : ¬ address < 16 * canChannelNum := by
  have hword : canRegGetAlignedAddr address = 0x88 := h
  unfold canRegGetAlignedAddr at hword
  show ¬ address < 16 * 6
  omega

/-- The word of `RSCANnGCTR` after its hook. -/
theorem memory_hook_gctr {ioType : CanRegisterIo} {address : Nat}
    (h : canRegGetAlignedAddr address = canRegRSCANnGCTR) (d : CanDevice) :
    let d' := d.canRegisterMappingIo ioType address
    d'.memory =
      canRegisterWriteData32 canRegRSCANnGCTR
        (updateModeBits d'.modeGlobal.ctrl.stop d'.modeGlobal.ctrl.selectMode
          (d.register canRegRSCANnGCTR))
        d.memory := by
  unfold canRegisterMappingIo
  rw [if_neg (not_channel_of_gctr h), if_neg (by rw [h]; decide), if_pos h]
  cases ioType <;> rfl

/-- A hook keeps the word of the control register of a channel the same in two
devices that agree about the channel after it. -/
theorem sameRegister_hook_cmctr {cid : CanChannelId} {d d' : CanDevice}
    (h : SameRegister (canRegRSCANnCmCTR cid) d d') (ioType : CanRegisterIo) (address : Nat)
    (hchannel : (d.canRegisterMappingIo ioType address).modeGlobal.channel cid =
      (d'.canRegisterMappingIo ioType address).modeGlobal.channel cid) :
    SameRegister (canRegRSCANnCmCTR cid) (d.canRegisterMappingIo ioType address)
      (d'.canRegisterMappingIo ioType address) := by
  intro i hi hi'
  by_cases hctr : WritesCmctr cid address
  · rw [memory_hook_cmctr hctr, memory_hook_cmctr hctr, hchannel, h.register]
    exact storeBytes_congr (h i hi hi')
  · have hout : i < canRegGetAlignedAddr address ∨ canRegGetAlignedAddr address + 4 ≤ i := by
      unfold WritesCmctr at hctr
      unfold canRegGetAlignedAddr canRegRSCANnCmCTR at *
      omega
    rw [memory_hook_outside hout, memory_hook_outside hout]
    exact h i hi hi'

/-- The same for the control register of the controller. -/
theorem sameRegister_hook_gctr {d d' : CanDevice} (h : SameRegister canRegRSCANnGCTR d d')
    (ioType : CanRegisterIo) (address : Nat)
    (hstop : (d.canRegisterMappingIo ioType address).modeGlobal.ctrl.stop =
      (d'.canRegisterMappingIo ioType address).modeGlobal.ctrl.stop)
    (hselect : (d.canRegisterMappingIo ioType address).modeGlobal.ctrl.selectMode =
      (d'.canRegisterMappingIo ioType address).modeGlobal.ctrl.selectMode) :
    SameRegister canRegRSCANnGCTR (d.canRegisterMappingIo ioType address)
      (d'.canRegisterMappingIo ioType address) := by
  intro i hi hi'
  by_cases hgctr : canRegGetAlignedAddr address = canRegRSCANnGCTR
  · rw [memory_hook_gctr hgctr, memory_hook_gctr hgctr, hstop, hselect, h.register]
    exact storeBytes_congr (h i hi hi')
  · have hout : i < canRegGetAlignedAddr address ∨ canRegGetAlignedAddr address + 4 ≤ i := by
      unfold canRegGetAlignedAddr canRegRSCANnGCTR at *
      omega
    rw [memory_hook_outside hout, memory_hook_outside hout]
    exact h i hi hi'

/-- What the handler of `RSCANnGCTR` remembers comes from its register. -/
theorem sameOldGctr_hook {d d' : CanDevice} (h : SameRegister canRegRSCANnGCTR d d')
    (hslpr : d.oldGslpr = d'.oldGslpr) (hmdc : d.oldGmdc = d'.oldGmdc) (ioType : CanRegisterIo)
    (address : Nat) :
    (d.canRegisterMappingIo ioType address).oldGslpr =
        (d'.canRegisterMappingIo ioType address).oldGslpr ∧
      (d.canRegisterMappingIo ioType address).oldGmdc =
        (d'.canRegisterMappingIo ioType address).oldGmdc := by
  by_cases hgctr : canRegGetAlignedAddr address = canRegRSCANnGCTR
  · have hchannel := not_channel_of_gctr hgctr
    unfold canRegisterMappingIo
    rw [if_neg hchannel, if_neg hchannel, hgctr, if_neg (by decide), if_pos rfl,
      if_neg (by decide), if_pos rfl]
    cases ioType with
    | read => exact ⟨hslpr, hmdc⟩
    | write => exact ⟨congrArg currentSlpr h.register, congrArg currentMdc h.register⟩
  · obtain ⟨hs, hm⟩ := oldGctr_hook hgctr ioType d
    obtain ⟨hs', hm'⟩ := oldGctr_hook hgctr ioType d'
    exact ⟨hs.trans (hslpr.trans hs'.symm), hm.trans (hmdc.trans hm'.symm)⟩

end CanDevice

/-! ## Phases that look the same from one channel -/

/-- The controller and one channel are in the same phase. -/
structure AlikePhase (cid : CanChannelId) (p q : ControllerPhase) : Prop where
  mode : p.mode = q.mode
  channel : p.channel cid = q.channel cid

theorem AlikePhase.symm {cid : CanChannelId} {p q : ControllerPhase} (h : AlikePhase cid p q) :
    AlikePhase cid q p :=
  ⟨h.mode.symm, h.channel.symm⟩

theorem AlikePhase.enter {cid : CanChannelId} {p q : ControllerPhase} (h : AlikePhase cid p q)
    (mode : GlobalMode) (event : Option CanModeChannelEvent) :
    AlikePhase cid (p.enter mode event) (q.enter mode event) := by
  refine ⟨rfl, ?_⟩
  unfold ControllerPhase.enter
  cases event with
  | none => exact h.channel
  | some event => exact congrArg (ChannelPhase.step event) h.channel

theorem AlikePhase.step {cid : CanChannelId} {p q : ControllerPhase} (h : AlikePhase cid p q)
    (event : CanModeEvent) : AlikePhase cid (p.step event) (q.step event) := by
  cases event with
  | channel index event =>
    refine ⟨h.mode, ?_⟩
    show Function.update _ _ _ cid = Function.update _ _ _ cid
    by_cases hcid : cid = index
    · subst hcid
      rw [Function.update_self, Function.update_self, h.channel]
    · rw [Function.update_of_ne hcid, Function.update_of_ne hcid, h.channel]
  | global event =>
    unfold ControllerPhase.step
    cases event <;>
      (dsimp only; rw [h.mode]; split; exact h.enter _ _; exact h)

theorem AlikePhase.events {cid : CanChannelId} {p q : ControllerPhase} (h : AlikePhase cid p q)
    (es : List CanModeEvent) : AlikePhase cid (p.events es) (q.events es) := by
  induction es generalizing p q with
  | nil => exact h
  | cons e es ih => exact ih (h.step e)

/-- The events of another channel do not show. -/
theorem AlikePhase.events_other {cid index : CanChannelId} (hne : cid ≠ index)
    {p q : ControllerPhase} (h : AlikePhase cid p q) (es : List CanModeChannelEvent) :
    AlikePhase cid (p.events (es.map (.channel index))) q := by
  induction es generalizing p with
  | nil => exact h
  | cons e es ih =>
    refine ih ⟨h.mode, ?_⟩
    show Function.update _ _ _ cid = _
    rw [Function.update_of_ne hne, h.channel]

theorem AlikePhase.clock {cid : CanChannelId} {p q : ControllerPhase} (h : AlikePhase cid p q)
    {bus bus' : CanBusInput} (hbus : bus.only cid = bus'.only cid) :
    AlikePhase cid (p.clock bus) (q.clock bus') := by
  have hinput (f : CanBusInput → CanChannelId → Bool)
      (hf : ∀ b, f (b.only cid) cid = f b cid) : f bus cid = f bus' cid := by
    rw [← hf bus, hbus, hf bus']
  have harrived := hinput CanBusInput.isArrived fun b => by simp [CanBusInput.only]
  have hselect := hinput CanBusInput.selectBuffer fun b => by simp [CanBusInput.only]
  have hdone := hinput CanBusInput.isDone fun b => by simp [CanBusInput.only]
  have hnotify := hinput CanBusInput.notifyTxdone fun b => by simp [CanBusInput.only]
  unfold ControllerPhase.clock
  rw [h.mode]
  split
  · exact h
  · refine ⟨h.mode, ?_⟩
    show (p.channel cid).clock bus cid = (q.channel cid).clock bus' cid
    unfold ChannelPhase.clock
    rw [h.channel, harrived, hselect, hdone, hnotify]

/-! ## Devices that look the same from one channel -/

/-- The controller, one channel and their control registers agree, and so do
the remembered mode bits of both. -/
structure Alike (cid : CanChannelId) (x y : CanDevice × OwnBits) : Prop where
  phases : ∃ p q, Represents p x.1.modeGlobal ∧ Represents q y.1.modeGlobal ∧ AlikePhase cid p q
  cmctr : SameRegister (canRegRSCANnCmCTR cid) x.1 y.1
  gctr : SameRegister canRegRSCANnGCTR x.1 y.1
  oldGslpr : x.1.oldGslpr = y.1.oldGslpr
  oldGmdc : x.1.oldGmdc = y.1.oldGmdc
  own : x.2 = y.2

section Alike

variable {cid : CanChannelId} {x y : CanDevice × OwnBits}

theorem Alike.symm (h : Alike cid x y) : Alike cid y x := by
  obtain ⟨p, q, hp, hq, hpq⟩ := h.phases
  exact ⟨⟨q, p, hq, hp, hpq.symm⟩, h.cmctr.symm, h.gctr.symm, h.oldGslpr.symm, h.oldGmdc.symm,
    h.own.symm⟩

/-- Equal phases have equal records. -/
theorem AlikePhase.records {p q : ControllerPhase} {gmode gmode' : CanModeGlobal}
    (h : AlikePhase cid p q) (hp : Represents p gmode) (hq : Represents q gmode') :
    gmode.channel cid = gmode'.channel cid ∧ gmode.ctrl.stop = gmode'.ctrl.stop ∧
      gmode.ctrl.selectMode = gmode'.ctrl.selectMode := by
  refine ⟨?_, ?_, ?_⟩
  · rw [hp.channel, hq.channel, h.channel]
  · rw [hp.stop, hq.stop, h.mode]
  · rw [hp.selectMode, hq.selectMode, h.mode]

/-- A write to the control register of another channel. -/
theorem Alike.hidden_put (h : Alike cid x y) {size : AccessSize} {address : Nat}
    {data : BitVec 32} (hctr : IsCmctr address) (hother : ¬ WritesCmctr cid address) :
    Alike cid (watchedStep cid (.put size address data) x) y := by
  obtain ⟨index, hindex⟩ := isCmctr_iff.mp hctr
  have hne : cid ≠ index := fun hc => hother (hc ▸ hindex)
  have hval : cid.val ≠ index.val := fun hc => hne (Fin.ext hc)
  obtain ⟨p, q, hp, hq, hpq⟩ := h.phases
  -- the bytes of the store and the word of the hook lie in the other channel
  have hmemory {i : Nat} (hi : i < canRegRSCANnCmCTR index ∨ canRegRSCANnCmCTR index + 7 ≤ i) :
      (x.1.put size address data).memory i = x.1.memory i := by
    have hbytes : size.bytes ≤ 4 := by cases size <;> decide
    unfold canRegGetAlignedAddr at hindex
    rw [CanDevice.put, CanDevice.memory_hook_outside (by unfold canRegGetAlignedAddr; omega)]
    exact storeBytes_outside (by omega)
  have hgctr : canRegGetAlignedAddr address ≠ canRegRSCANnGCTR := by
    have hlt : index.val < 6 := index.isLt
    rw [hindex, canRegRSCANnCmCTR, canRegRSCANnGCTR]
    omega
  have hsent : x.1.sentEvents size address data =
      x.1.cmctrEvents index
        ((x.1.stored size address data).register (canRegGetAlignedAddr address)) := by
    rw [CanDevice.sentEvents, if_pos hctr, canRegGroupIndex_cmctr hindex]
  refine ⟨⟨_, q, CanDevice.represents_put hp size address data, hq, ?_⟩, ?_, ?_, ?_, ?_, ?_⟩
  · rw [hsent]
    exact hpq.events_other hne _
  · intro i hi hi'
    have hout : i < canRegRSCANnCmCTR index ∨ canRegRSCANnCmCTR index + 7 ≤ i := by
      unfold canRegRSCANnCmCTR at *
      omega
    exact (hmemory hout).trans (h.cmctr i hi hi')
  · intro i hi hi'
    have hout : i < canRegRSCANnCmCTR index ∨ canRegRSCANnCmCTR index + 7 ≤ i := by
      have hlt : index.val < 6 := index.isLt
      unfold canRegRSCANnCmCTR canRegRSCANnGCTR at *
      omega
    exact (hmemory hout).trans (h.gctr i hi hi')
  · exact (CanDevice.oldGctr_hook hgctr .write _).1.trans h.oldGslpr
  · exact (CanDevice.oldGctr_hook hgctr .write _).2.trans h.oldGmdc
  · exact (if_neg hother).trans h.own

/-- The events of a write that both devices get. -/
theorem Alike.sentEvents (h : Alike cid x y) {size : AccessSize} {address : Nat}
    {data : BitVec 32} (hseen : ¬ (IsCmctr address ∧ ¬ WritesCmctr cid address))
    (hx : CmctrUndisturbed cid (.put size address data) x)
    (hy : CmctrUndisturbed cid (.put size address data) y) :
    x.1.sentEvents size address data = y.1.sentEvents size address data := by
  unfold CanDevice.sentEvents
  by_cases hctr : IsCmctr address
  · have hown : WritesCmctr cid address := not_not.mp fun hc => hseen ⟨hctr, hc⟩
    have hword : x.1.writtenCmctr cid size address data = y.1.writtenCmctr cid size address data :=
      (h.cmctr.stored size address data).register
    obtain ⟨hslpr, hmdc⟩ := hx hown
    obtain ⟨hslpr', hmdc'⟩ := hy hown
    rw [if_pos hctr, if_pos hctr, canRegGroupIndex_cmctr hown, hown]
    show x.1.cmctrEvents cid (x.1.writtenCmctr cid size address data) =
      y.1.cmctrEvents cid (y.1.writtenCmctr cid size address data)
    -- both compare as the channel's own memory does
    rw [← h.own, ← hword] at hslpr' hmdc'
    unfold CanDevice.cmctrEvents modeBitEvents
    rw [← hword]
    simp only [ne_eq, hslpr, hslpr', hmdc, hmdc']
  · rw [if_neg hctr, if_neg hctr]
    by_cases hgctr : canRegGetAlignedAddr address = canRegRSCANnGCTR
    · have hword := (h.gctr.stored size address data).register
      rw [if_pos hgctr, if_pos hgctr, hgctr, hword]
      unfold CanDevice.gctrEvents
      rw [h.oldGslpr, h.oldGmdc]
    · rw [if_neg hgctr, if_neg hgctr]

/-- A write that both devices get. -/
theorem Alike.put (h : Alike cid x y) {size : AccessSize} {address : Nat} {data : BitVec 32}
    (hseen : ¬ (IsCmctr address ∧ ¬ WritesCmctr cid address))
    (hx : CmctrUndisturbed cid (.put size address data) x)
    (hy : CmctrUndisturbed cid (.put size address data) y) :
    Alike cid (watchedStep cid (.put size address data) x)
      (watchedStep cid (.put size address data) y) := by
  obtain ⟨p, q, hp, hq, hpq⟩ := h.phases
  have hp' := CanDevice.represents_put hp size address data
  have hq' := CanDevice.represents_put hq size address data
  rw [← h.sentEvents hseen hx hy] at hq'
  have hpq' := hpq.events (x.1.sentEvents size address data)
  obtain ⟨hchannel, hstop, hselect⟩ := hpq'.records hp' hq'
  obtain ⟨hgslpr, hgmdc⟩ := CanDevice.sameOldGctr_hook (h.gctr.stored size address data)
    h.oldGslpr h.oldGmdc .write address
  refine ⟨⟨_, _, hp', hq', hpq'⟩, ?_, ?_, hgslpr, hgmdc, ?_⟩
  · exact CanDevice.sameRegister_hook_cmctr (h.cmctr.stored size address data) .write address
      hchannel
  · exact CanDevice.sameRegister_hook_gctr (h.gctr.stored size address data) .write address
      hstop hselect
  · show (if WritesCmctr cid address then _ else x.2) = if WritesCmctr cid address then _ else y.2
    have hword : x.1.writtenCmctr cid size address data = y.1.writtenCmctr cid size address data :=
      (h.cmctr.stored size address data).register
    rw [hword, h.own]

/-- A load. -/
theorem Alike.get (h : Alike cid x y) (size : AccessSize) (address : Nat) :
    Alike cid (watchedStep cid (.get size address) x) (watchedStep cid (.get size address) y) := by
  obtain ⟨p, q, hp, hq, hpq⟩ := h.phases
  have hp' : Represents p (x.1.get address).modeGlobal := by
    rw [CanDevice.modeGlobal_get]
    exact hp
  have hq' : Represents q (y.1.get address).modeGlobal := by
    rw [CanDevice.modeGlobal_get]
    exact hq
  obtain ⟨hchannel, hstop, hselect⟩ := hpq.records hp' hq'
  obtain ⟨hgslpr, hgmdc⟩ := CanDevice.sameOldGctr_hook h.gctr h.oldGslpr h.oldGmdc .read address
  exact ⟨⟨p, q, hp', hq', hpq⟩,
    CanDevice.sameRegister_hook_cmctr h.cmctr .read address hchannel,
    CanDevice.sameRegister_hook_gctr h.gctr .read address hstop hselect, hgslpr, hgmdc, h.own⟩

/-- A clock of the bus. -/
theorem Alike.clock (h : Alike cid x y) {bus bus' : CanBusInput}
    (hbus : bus.only cid = bus'.only cid) :
    Alike cid (watchedStep cid (.clock bus) x) (watchedStep cid (.clock bus') y) := by
  obtain ⟨p, q, hp, hq, hpq⟩ := h.phases
  exact ⟨⟨_, _, represents_clock hp bus, represents_clock hq bus', hpq.clock hbus⟩, h.cmctr,
    h.gctr, h.oldGslpr, h.oldGmdc, h.own⟩

/-- The registers of a channel in devices that look the same. -/
theorem Alike.channelView (h : Alike cid x y) : channelView cid x.1 = channelView cid y.1 := by
  obtain ⟨p, q, hp, hq, hpq⟩ := h.phases
  have hchannel : x.1.modeGlobal.channel cid = y.1.modeGlobal.channel cid :=
    (hpq.records hp hq).1
  have hcmctr : SameRegister (canRegRSCANnCmCTR cid) (x.1.get (canRegRSCANnCmCTR cid))
      (y.1.get (canRegRSCANnCmCTR cid)) := (h.get .word (canRegRSCANnCmCTR cid)).cmctr
  unfold Athrill.channelView
  rw [hchannel, hcmctr.register, (CanDevice.sameRegister_get_cmsts hchannel).register]

end Alike

/-! ## Runs -/

/-- The access behind a view of it. -/
theorem channelAccess_eq_some {cid : CanChannelId} {access seen : CanAccess}
    (h : channelAccess cid access = some seen) :
    match seen with
    | .put size address data =>
      access = .put size address data ∧ ¬ (IsCmctr address ∧ ¬ WritesCmctr cid address)
    | .get size address => access = .get size address
    | .clock bus => ∃ bus', access = .clock bus' ∧ bus'.only cid = bus := by
  cases access with
  | put size address data =>
    by_cases hc : IsCmctr address ∧ ¬ WritesCmctr cid address
    · exact absurd ((if_pos hc).symm.trans h) (by simp)
    · have heq : some (CanAccess.put size address data) = some seen := (if_neg hc).symm.trans h
      injection heq with heq
      subst heq
      exact ⟨rfl, hc⟩
  | get size address =>
    injection h with heq
    subst heq
    exact rfl
  | clock bus =>
    injection h with heq
    subst heq
    exact ⟨bus, rfl, rfl⟩

/-- Steps of the two runs keep the devices alike. -/
theorem unwinding_alike (cid : CanChannelId) :
    TransitionSystem.Unwinding (watchedStep cid) (CmctrUndisturbed cid) (channelAccess cid)
      (Alike cid) where
  symm _ _ h := h.symm
  hidden access x y hview h := by
    cases access with
    | put size address data =>
      by_cases hc : IsCmctr address ∧ ¬ WritesCmctr cid address
      · exact h.hidden_put hc.1 hc.2
      · exact absurd ((if_neg hc).symm.trans hview) (by simp)
    | get size address => exact absurd hview (by simp [channelAccess])
    | clock bus => exact absurd hview (by simp [channelAccess])
  visible access access' seen x y hview hview' hx hy h := by
    have hseen := channelAccess_eq_some hview
    have hseen' := channelAccess_eq_some hview'
    cases seen with
    | put size address data =>
      obtain ⟨rfl, hput⟩ := hseen
      obtain ⟨rfl, -⟩ := hseen'
      exact h.put hput hx hy
    | get size address =>
      have haccess : access = .get size address := hseen
      have haccess' : access' = .get size address := hseen'
      subst haccess haccess'
      exact h.get size address
    | clock bus =>
      obtain ⟨bus₁, rfl, hbus₁⟩ := hseen
      obtain ⟨bus₂, rfl, hbus₂⟩ := hseen'
      exact h.clock (hbus₁.trans hbus₂.symm)

/-- The device of a watched run. -/
theorem watchedRun_fst (cid : CanChannelId) (accesses : List CanAccess)
    (s : CanDevice × OwnBits) :
    (accesses.foldl (fun s access => watchedStep cid access s) s).1 = s.1.run accesses := by
  induction accesses generalizing s with
  | nil => rfl
  | cons access accesses ih => exact ih (watchedStep cid access s)

/-- A write to the control register of one channel leaves the records of the
others as they are. -/
theorem channel_put_other {d : CanDevice} {p : ControllerPhase}
    (hp : Represents p d.modeGlobal) {cid index : CanChannelId} (hne : cid ≠ index)
    (size : AccessSize) {address : Nat} (h : WritesCmctr index address) (data : BitVec 32) :
    (d.put size address data).modeGlobal.channel cid = d.modeGlobal.channel cid := by
  have hsent : d.sentEvents size address data =
      d.cmctrEvents index
        ((d.stored size address data).register (canRegGetAlignedAddr address)) := by
    rw [CanDevice.sentEvents, if_pos (isCmctr_iff.mpr ⟨index, h⟩), canRegGroupIndex_cmctr h]
  have hput := CanDevice.represents_put hp size address data
  rw [hsent] at hput
  have hsame : AlikePhase cid p p := ⟨rfl, rfl⟩
  exact ((hsame.events_other hne _).records hput hp).1

/-- Two runs from the initialisation with the same accesses, up to those that
belong to the other channels, show the same mode and registers of a channel as
long as its own writes meet the condition; and in every run a write to the
control register of another channel does not move this one. -/
theorem channel_independent {d : CanDevice} (hd : d.Initial) (cid : CanChannelId) :
    (∀ accesses accesses' : List CanAccess,
      accesses.filterMap (channelAccess cid) = accesses'.filterMap (channelAccess cid) →
      TransitionSystem.Meets (watchedStep cid) (CmctrUndisturbed cid) accesses (d, .initial) →
      TransitionSystem.Meets (watchedStep cid) (CmctrUndisturbed cid) accesses' (d, .initial) →
      channelView cid (d.run accesses) = channelView cid (d.run accesses')) ∧
    ∀ (accesses : List CanAccess) (size : AccessSize) (address : Nat) (data : BitVec 32)
      (index : CanChannelId), WritesCmctr index address → cid ≠ index →
      ((d.run accesses).put size address data).modeGlobal.channel cid =
        (d.run accesses).modeGlobal.channel cid := by
  obtain ⟨⟨gmode, hgmode⟩, -⟩ := id hd
  have hp : Represents .initial d.modeGlobal := hgmode ▸ represents_canReset gmode
  constructor
  · intro accesses accesses' hview hmeets hmeets'
    have hrefl : Alike cid (d, .initial) (d, .initial) :=
      ⟨⟨_, _, hp, hp, rfl, rfl⟩, fun _ _ _ => rfl, fun _ _ _ => rfl, rfl, rfl, rfl⟩
    have halike := (unwinding_alike cid).run accesses accesses' hrefl hmeets hmeets' hview
    have hshown := halike.channelView
    rw [watchedRun_fst, watchedRun_fst] at hshown
    exact hshown
  · intro accesses size address data index hindex hne
    have hinit : canDevice.Reachable d := .init hd
    obtain ⟨p, hp⟩ := represents_device_invariant.of_reachable (reachable_run hinit accesses)
    exact channel_put_other hp hne size hindex data

/-- Channel 1 is told its mode bits again, then channel 0 leaves its stop mode. -/
theorem channel_independent_reset :
    channelView 0 (resetCan.run [.put .word 0x14 5, .put .word 0x04 1]) =
      channelView 0 (resetCan.run [.put .word 0x04 1]) := by
  refine (channel_independent resetCan_initial 0).1 _ _ rfl ⟨?_, ?_, trivial⟩ ⟨?_, trivial⟩ <;>
    (unfold CmctrUndisturbed; decide +kernel)

/-- Channel 0 starts to communicate at its first write, except when channel 1
was told to do so before. -/
theorem not_channel_independent :
    ¬ ∀ (d : CanDevice), d.Initial → ∀ (cid : CanChannelId) (accesses accesses' : List CanAccess),
      accesses.filterMap (channelAccess cid) = accesses'.filterMap (channelAccess cid) →
      channelView cid (d.run accesses) = channelView cid (d.run accesses') := by
  intro h
  have hview := h resetCan resetCan_initial 0 [.put .word 0x14 0, .put .word 0x04 0]
    [.put .word 0x04 0] rfl
  revert hview
  decide +kernel

end Athrill
