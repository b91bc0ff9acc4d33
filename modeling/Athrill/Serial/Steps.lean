import Athrill.Lib.Journal
import Athrill.Serial.Device
import Mathlib.Tactic.SplitIfs

/-!
# The steps of the serial interface

What a clock and a store do to the device, as relations with one case for each
way through the code.

* `ReceiveStep`, `serialReceive_run`: the receiver.
* `SendStep`, `serialSend_run`: the transmitter.
* `PutStep`, `serialPutData8_step`: a byte store.
* `RegisterStep`, `serialStep_cases`: any event, as one of few effects.
-/

namespace Athrill

open ByteMemory SerialM

variable {H E : Type}

/-! ## Places -/

/-- The number of a channel as the code has it. -/
def channelNo (ch : Fin udnChannelNum) : BitVec 8 := BitVec.ofNat 8 ch.val

theorem rlin3xRegister_inj {a b : BitVec 32} {ch : BitVec 8} :
    rlin3xRegister a ch = rlin3xRegister b ch ↔ a = b := by
  unfold rlin3xRegister
  constructor
  · intro h
    have hsub := congrArg (fun x => x - (rlin3xBase + udxchOffset * ch.zeroExtend 32)) h
    rwa [BitVec.add_comm, BitVec.add_sub_cancel, BitVec.add_comm, BitVec.add_sub_cancel] at hsub
  · rintro rfl
    rfl

theorem toNat_register {offset : BitVec 32} (hoffset : offset.toNat < 0x40) {ch : BitVec 8}
    (hch : ch.toNat < 6) :
    (rlin3xRegister offset ch - rlin3xBase).toNat = 0x40 * ch.toNat + offset.toNat := by
  unfold rlin3xRegister rlin3xBase udxchOffset
  have hsub : (0xffce2000 : BitVec 32) + 0x40 * ch.zeroExtend 32 + offset - 0xffce2000 =
      0x40 * ch.zeroExtend 32 + offset := by
    rw [BitVec.add_assoc, BitVec.add_comm]
    exact BitVec.add_sub_cancel _ _
  have hspace : (0x40 : BitVec 32).toNat = 0x40 := rfl
  rw [hsub, BitVec.toNat_add, BitVec.toNat_mul, BitVec.toNat_setWidth, hspace]
  omega

theorem getChannel_register {offset : BitVec 32} {ch : BitVec 8} (hoffset : offset.toNat < 0x40)
    (hch : ch.toNat < 6) : rlinGetChannel (rlin3xRegister offset ch) = ch := by
  have hoff := toNat_register hoffset hch
  apply BitVec.eq_of_toNat_eq
  unfold rlinGetChannel
  have hspace : udxchOffset.toNat = 0x40 := rfl
  rw [BitVec.truncate_eq_setWidth, BitVec.toNat_setWidth, BitVec.toNat_udiv, hoff, hspace]
  omega

theorem register_ne {a b : BitVec 32} (h : a ≠ b) (ch : BitVec 8) :
    rlin3xRegister a ch ≠ rlin3xRegister b ch :=
  fun heq => h (rlin3xRegister_inj.mp heq)

theorem toNat_channelNo (ch : Fin udnChannelNum) : (channelNo ch).toNat = ch.val := by
  have hlt : ch.val < 4 := ch.isLt
  unfold channelNo
  rw [BitVec.toNat_ofNat]
  omega

namespace Serial

variable (s : Serial H) (ch : Fin udnChannelNum) (serial : SerialDevice H)

@[simp] theorem device_setDevice_self : (s.setDevice ch serial).device ch = serial :=
  Function.update_self ..

@[simp] theorem data_setDevice : (s.setDevice ch serial).data = s.data := rfl

@[simp] theorem host_setDevice : (s.setDevice ch serial).host = s.host := rfl

theorem device_setDevice_of_ne {ch' : Fin udnChannelNum} (h : ch' ≠ ch) :
    (s.setDevice ch serial).device ch' = s.device ch' :=
  Function.update_of_ne h ..

@[simp] theorem setDevice_setDevice (serial' : SerialDevice H) :
    (s.setDevice ch serial).setDevice ch serial' = s.setDevice ch serial' := by
  unfold setDevice
  simp only [Function.update_idem]

@[simp] theorem setDevice_self : s.setDevice ch (s.device ch) = s := by
  unfold setDevice
  rw [Function.update_eq_self]

end Serial

/-! ## Runs of the parts -/

@[simp] theorem run_getDevice (ch : Fin udnChannelNum) (s : Serial H) :
    (getDevice ch).run s = (.ok (s.device ch), s) := rfl

@[simp] theorem run_modifyDevice (ch : Fin udnChannelNum) (f : SerialDevice H → SerialDevice H)
    (s : Serial H) :
    (modifyDevice ch f).run s = (.ok (), s.setDevice ch (f (s.device ch))) := rfl

@[simp] theorem run_modifyHost (f : H → H) (s : Serial H) :
    (modifyHost f).run s = (.ok (), { s with host := f s.host }) := rfl

theorem run_channel {no : BitVec 8} (h : no.toNat < udnChannelNum) (s : Serial H) :
    (channel no).run s = (.ok ⟨no.toNat, h⟩, s) := by
  unfold channel
  rw [dif_pos h]
  rfl

theorem run_channelNo (ch : Fin udnChannelNum) (s : Serial H) :
    (channel (channelNo ch)).run s = (.ok ch, s) := by
  rw [run_channel (by rw [toNat_channelNo]; exact ch.isLt)]
  simp only [toNat_channelNo]

theorem run_putBytes {addr : BitVec 32} {size : Nat}
    (h : (addr - rlin3xBase).toNat + size ≤ serialRegionSize) (value : Nat) (s : Serial H) :
    (putBytes addr size value).run s =
      (.ok (), { s with data := store s.data (addr - rlin3xBase) size value }) := by
  unfold putBytes
  rw [Routine.run_lift]
  dsimp only
  rw [if_pos h]

/-! ## The receiver -/

/-- A channel that takes a byte. -/
def SerialDevice.taking (times : SerialTimes) (serial : SerialDevice H) : SerialDevice H :=
  { serial with isReceiving := true, receivedCounter := times.receive }

/-- The place of the receive data register in the region. -/
def receiveOffset (ch : Fin udnChannelNum) : BitVec 32 := rlin3xLurdrl (channelNo ch) - rlin3xBase

/-- What a clock does in `serial_receive`. -/
inductive ReceiveStep (times : SerialTimes) (ch : Fin udnChannelNum) (s : Serial H) :
    List SerialCall → Serial H → Prop
  /-- Nothing is registered, or reception is not enabled. -/
  | off (h : (s.device ch).ops = none ∨ (s.device ch).isReadEnable = false) :
    ReceiveStep times ch s [] s
  /-- No byte is there. -/
  | empty {ops : DeviceExSerialOp H} (hops : (s.device ch).ops = some ops)
      (henable : (s.device ch).isReadEnable = true) (hidle : (s.device ch).isReceiving = false)
      (hnone : (ops.getchar (channelNo ch) s.host).1 = none) :
    ReceiveStep times ch s [] { s with host := (ops.getchar (channelNo ch) s.host).2 }
  /-- A byte goes into the data register. -/
  | take {ops : DeviceExSerialOp H} {byte : BitVec 8} (hops : (s.device ch).ops = some ops)
      (henable : (s.device ch).isReadEnable = true) (hidle : (s.device ch).isReceiving = false)
      (hbyte : (ops.getchar (channelNo ch) s.host).1 = some byte) :
    ReceiveStep times ch s [.getchar ch byte]
      ({ s with
          data := store s.data (receiveOffset ch) 1 byte.toNat
          host := (ops.getchar (channelNo ch) s.host).2 }.setDevice ch
        ((s.device ch).taking times))
  /-- The transfer goes on. -/
  | wait (hops : (s.device ch).ops ≠ none) (henable : (s.device ch).isReadEnable = true)
      (hbusy : (s.device ch).isReceiving = true) (hcount : 0 < (s.device ch).receivedCounter) :
    ReceiveStep times ch s []
      (s.setDevice ch { s.device ch with receivedCounter := (s.device ch).receivedCounter - 1 })
  /-- The transfer ends. -/
  | done (hops : (s.device ch).ops ≠ none) (henable : (s.device ch).isReadEnable = true)
      (hbusy : (s.device ch).isReceiving = true) (hcount : (s.device ch).receivedCounter = 0) :
    ReceiveStep times ch s [.raiseInt (serialRlin3xGetRxIntno ch)]
      (s.setDevice ch { s.device ch with isReceiving := false })

/-- The store of a received byte is one to a register without further effect. -/
theorem serialPutData8_lurdrl (ch : Fin udnChannelNum) (byte : BitVec 8) (s : Serial H) :
    (serialPutData8 (rlin3xLurdrl (BitVec.ofNat 8 ch.val) &&& serialRegionMask) byte).run s =
      (.ok [], { s with data := store s.data (receiveOffset ch) 1 byte.toNat }) := by
  have hmask : rlin3xLurdrl (BitVec.ofNat 8 ch.val) &&& serialRegionMask =
      rlin3xLurdrl (channelNo ch) := BitVec.and_allOnes
  have hno : (channelNo ch).toNat < 6 := by
    have hlt : ch.val < 4 := ch.isLt
    rw [toNat_channelNo]
    omega
  have hchannel : rlinGetChannel (rlin3xLurdrl (channelNo ch)) = channelNo ch :=
    getChannel_register (by decide) hno
  have hplace : (rlin3xLurdrl (channelNo ch) - rlin3xBase).toNat + 1 ≤ serialRegionSize := by
    have hoff : (rlin3xLurdrl (channelNo ch) - rlin3xBase).toNat = _ :=
      toNat_register (by decide) hno
    rw [hoff]
    show 0x40 * (channelNo ch).toNat + 0x26 + 1 ≤ 0x180
    omega
  have hlutdrl : rlin3xLurdrl (channelNo ch) ≠ rlin3xLutdrl (channelNo ch) :=
    register_ne (by decide) _
  have hlcuc : rlin3xLurdrl (channelNo ch) ≠ rlin3xLcuc (channelNo ch) :=
    register_ne (by decide) _
  have hluoer : rlin3xLurdrl (channelNo ch) ≠ rlin3xLuoer (channelNo ch) :=
    register_ne (by decide) _
  have hluor1 : rlin3xLurdrl (channelNo ch) ≠ rlin3xLuor1 (channelNo ch) :=
    register_ne (by decide) _
  unfold serialPutData8
  rw [hmask, Routine.run_bind, run_putBytes hplace, Routine.andThen_ok]
  dsimp only
  rw [hchannel, if_neg hlutdrl, if_neg hlcuc, if_neg hluoer, if_neg hluor1]
  rfl

theorem serialReceive_run (times : SerialTimes) (ch : Fin udnChannelNum) (s : Serial H) :
    ∃ calls s', (serialReceive times ch).run s = (.ok calls, s') ∧
      ReceiveStep times ch s calls s' := by
  unfold serialReceive
  simp only [Routine.run_bind, run_getDevice, Routine.andThen_ok]
  cases hops : (s.device ch).ops with
  | none => exact ⟨[], s, rfl, .off (.inl hops)⟩
  | some ops =>
    have hsome : (s.device ch).ops ≠ none := by simp [hops]
    dsimp only
    cases henable : (s.device ch).isReadEnable with
    | false => exact ⟨[], s, rfl, .off (.inr henable)⟩
    | true =>
      rw [if_neg nofun]
      cases hbusy : (s.device ch).isReceiving with
      | false =>
        rw [if_pos rfl, Routine.run_bind, Routine.run_gets, Routine.andThen_ok, Routine.run_bind,
          run_modifyHost, Routine.andThen_ok]
        cases hchar : (ops.getchar (BitVec.ofNat 8 ch.val) s.host).1 with
        | none => exact ⟨[], _, rfl, .empty hops henable hbusy hchar⟩
        | some byte =>
          refine ⟨[.getchar ch byte], _, ?_, .take hops henable hbusy hchar⟩
          dsimp only
          rw [Routine.run_bind, run_modifyDevice, Routine.andThen_ok, Routine.run_bind,
            serialPutData8_lurdrl, Routine.andThen_ok, Routine.run_bind, run_modifyDevice,
            Routine.andThen_ok, Routine.run_pure]
          unfold Serial.setDevice
          simp only [Function.update_self, Function.update_idem]
          rfl
      | true =>
        rw [if_neg nofun]
        by_cases hcount : (s.device ch).receivedCounter > 0
        · rw [if_pos hcount]
          exact ⟨[], _, rfl, .wait hsome henable hbusy hcount⟩
        · rw [if_neg hcount]
          exact ⟨_, _, rfl, .done hsome henable hbusy (by omega)⟩

/-! ## The transmitter -/

/-- What a clock does in `serial_send`. -/
inductive SendStep (times : SerialTimes) (ch : Fin udnChannelNum) (s : Serial H) :
    List SerialCall → Serial H → Prop
  /-- Transmission is not enabled, or nothing is to be sent. -/
  | off (h : (s.device ch).isSendEnable = false ∨
      (s.device ch).isSendData = false ∧ (s.device ch).isSending = false) :
    SendStep times ch s [] s
  /-- A transmission starts. -/
  | start {ops : DeviceExSerialOp H} (hops : (s.device ch).ops = some ops)
      (henable : (s.device ch).isSendEnable = true)
      (hsend : (s.device ch).isSendData = true ∨ (s.device ch).isSending = true)
      (hcount : (s.device ch).sendCounter = 0) :
    SendStep times ch s
      (if (s.device ch).isSendStartIntr = true then [.raiseInt (serialRlin3xGetTxIntno ch)] else [])
      ({ s with host := ops.flushed (channelNo ch) s.host }.setDevice ch
        { s.device ch with isSending := true, isSendData := false, sendCounter := 1 })
  /-- A transmission ends, and the next one follows it when a byte is there. -/
  | finish (henable : (s.device ch).isSendEnable = true)
      (hsend : (s.device ch).isSendData = true ∨ (s.device ch).isSending = true)
      (hcount : 0 < (s.device ch).sendCounter) (hend : times.send ≤ (s.device ch).sendCounter) :
    SendStep times ch s
      (if (s.device ch).isSendStartIntr = true then [] else [.raiseInt (serialRlin3xGetTxIntno ch)])
      (s.setDevice ch
        { s.device ch with
          isSending := (s.device ch).isSendStartIntr && (s.device ch).isSendData
          sendCounter := 0 })
  /-- A transmission goes on. -/
  | wait (henable : (s.device ch).isSendEnable = true)
      (hsend : (s.device ch).isSendData = true ∨ (s.device ch).isSending = true)
      (hcount : 0 < (s.device ch).sendCounter) (hlt : (s.device ch).sendCounter < times.send) :
    SendStep times ch s []
      (s.setDevice ch
        { s.device ch with isSending := true, sendCounter := (s.device ch).sendCounter + 1 })

/-- The transmitter needs the operations only where it starts. -/
theorem serialSend_run (times : SerialTimes) (ch : Fin udnChannelNum) (s : Serial H)
    (hops : (s.device ch).ops ≠ none) :
    ∃ calls s', (serialSend times ch).run s = (.ok calls, s') ∧ SendStep times ch s calls s' := by
  unfold serialSend
  rw [Routine.run_bind, run_getDevice, Routine.andThen_ok]
  cases henable : (s.device ch).isSendEnable with
  | false =>
    rw [if_pos rfl]
    exact ⟨[], s, rfl, .off (.inl henable)⟩
  | true =>
    rw [if_neg nofun, Routine.run_bind, run_modifyDevice, Routine.andThen_ok, Routine.run_bind,
      run_getDevice, Routine.andThen_ok]
    simp only [Serial.device_setDevice_self]
    by_cases hsend : (s.device ch).isSendData = true ∨ (s.device ch).isSending = true
    · have hsending : (if (s.device ch).isSendData = true then true
          else (s.device ch).isSending) = true := by
        cases hdata : (s.device ch).isSendData with
        | true => rfl
        | false => simpa [hdata] using hsend
      simp only [hsending, if_true]
      unfold serialSending
      dsimp only
      by_cases hcount : (s.device ch).sendCounter = 0
      · rw [if_pos hcount]
        cases hsome : (s.device ch).ops with
        | none => exact absurd hsome hops
        | some ops =>
          refine ⟨_, _, ?_, .start hsome henable hsend hcount⟩
          simp only [Routine.run_bind, run_modifyHost, run_modifyDevice, Routine.andThen_ok]
          cases hstart : (s.device ch).isSendStartIntr with
          | true => simp [hcount, hsome, Serial.setDevice, channelNo]
          | false => simp [hcount, hsome, Serial.setDevice, channelNo]
      · rw [if_neg hcount]
        by_cases hend : (s.device ch).sendCounter ≥ times.send
        · rw [if_pos hend]
          refine ⟨_, _, ?_, .finish henable hsend (by omega) hend⟩
          cases hstart : (s.device ch).isSendStartIntr with
          | true =>
            rw [if_neg nofun, Routine.run_bind, run_modifyDevice, Routine.andThen_ok]
            cases hdata : (s.device ch).isSendData with
            | true => simp [hdata, hstart]
            | false => simp [hdata, hstart]
          | false =>
            rw [if_pos rfl, Routine.run_bind, run_modifyDevice, Routine.andThen_ok]
            simp [hstart]
        · rw [if_neg hend, Routine.run_bind, run_modifyDevice, Routine.andThen_ok]
          refine ⟨_, _, ?_, .wait henable hsend (by omega) (by omega)⟩
          simp
    · have hdata : (s.device ch).isSendData = false := by simpa using fun h => hsend (.inl h)
      have hidle : (s.device ch).isSending = false := by simpa using fun h => hsend (.inr h)
      refine ⟨[], _, ?_, .off (.inr ⟨hdata, hidle⟩)⟩
      have hsame : (if (s.device ch).isSendData = true then true
          else (s.device ch).isSending) = (s.device ch).isSending := by
        rw [hdata]
        rfl
      simp only [hsame]
      rw [if_neg (by rw [hidle]; nofun)]
      show (Except.ok [], s.setDevice ch (s.device ch)) = _
      rw [Serial.setDevice_self]

/-! ## Byte stores -/

/-- The bytes from an address on are in the region. -/
def InSerialRegion (addr : BitVec 32) (size : Nat) : Prop :=
  (addr - rlin3xBase).toNat + size ≤ serialRegionSize

instance (addr : BitVec 32) (size : Nat) : Decidable (InSerialRegion addr size) :=
  inferInstanceAs (Decidable (_ ≤ _))

/-- The region after a store. -/
def Serial.stored (addr : BitVec 32) (size value : Nat) (s : Serial H) : Serial H :=
  { s with data := store s.data (addr - rlin3xBase) size value }

namespace Serial

variable (addr : BitVec 32) (size value : Nat) (s : Serial H)

@[simp] theorem device_stored : (s.stored addr size value).device = s.device := rfl

@[simp] theorem host_stored : (s.stored addr size value).host = s.host := rfl

theorem setDevice_stored (ch : Fin udnChannelNum) (serial : SerialDevice H) :
    (s.setDevice ch serial).stored addr size value = (s.stored addr size value).setDevice ch serial :=
  rfl

end Serial

theorem run_putBytes_eq {addr : BitVec 32} {size : Nat} (h : InSerialRegion addr size) (value : Nat)
    (s : Serial H) : (putBytes addr size value).run s = (.ok (), s.stored addr size value) :=
  run_putBytes h value s

theorem putBytes_eq_ok {addr : BitVec 32} {size value : Nat} {s s' : Serial H} {u : Unit}
    (h : (putBytes addr size value).run s = (.ok u, s')) :
    InSerialRegion addr size ∧ s' = s.stored addr size value := by
  unfold putBytes at h
  rw [Routine.run_lift] at h
  dsimp only at h
  split_ifs at h with hin
  · exact ⟨hin, (congrArg Prod.snd h).symm⟩
  · exact absurd (congrArg Prod.fst h) nofun

/-- A channel that goes into reset mode. -/
def SerialDevice.silenced (serial : SerialDevice H) : SerialDevice H :=
  { serial with
    isResetMode := true
    isSending := false
    isReceiving := false
    isReadEnable := false
    isSendEnable := false
    receivedCounter := 0
    sendCounter := 0 }

/-- What a byte store does in a state whose region has the byte already. -/
inductive PutStep (addr : BitVec 32) (data : BitVec 8) (s : Serial H) :
    List SerialCall → Serial H → Prop
  /-- A byte to send. -/
  | transmit {ch : Fin udnChannelNum} {ops : DeviceExSerialOp H}
      (haddr : addr = rlin3xLutdrl (channelNo ch)) (hops : (s.device ch).ops = some ops) :
    PutStep addr data s [.putchar ch data]
      ({ s with host := ops.putchar (channelNo ch) data s.host }.setDevice ch
        { s.device ch with sendData := data, isSendData := true })
  /-- The channel leaves reset mode. -/
  | operate {ch : Fin udnChannelNum} (haddr : addr = rlin3xLcuc (channelNo ch)) (hdata : data ≠ 0) :
    PutStep addr data s []
      ((s.stored (rlin3xLmst (channelNo ch)) 1 data.toNat).setDevice ch
        { s.device ch with isResetMode := false })
  /-- The channel goes into reset mode. -/
  | silence {ch : Fin udnChannelNum} (haddr : addr = rlin3xLcuc (channelNo ch)) (hdata : data = 0) :
    PutStep addr data s []
      ((((s.stored (rlin3xLmst (channelNo ch)) 1 data.toNat).stored
          (rlin3xLst (channelNo ch)) 1 0).stored (rlin3xLuoer (channelNo ch)) 1 0).setDevice ch
        (s.device ch).silenced)
  /-- The transfers are enabled or disabled. -/
  | enable {ch : Fin udnChannelNum} (haddr : addr = rlin3xLuoer (channelNo ch))
      (hmode : (s.device ch).isResetMode = false) :
    PutStep addr data s []
      (s.setDevice ch
        { s.device ch with isReadEnable := data.getLsbD 1, isSendEnable := data.getLsbD 0 })
  /-- In reset mode they are not. -/
  | locked {ch : Fin udnChannelNum} (haddr : addr = rlin3xLuoer (channelNo ch))
      (hmode : (s.device ch).isResetMode = true) :
    PutStep addr data s [] s
  | option {ch : Fin udnChannelNum} (haddr : addr = rlin3xLuor1 (channelNo ch)) :
    PutStep addr data s []
      (s.setDevice ch { s.device ch with isSendStartIntr := !data.getLsbD 0 })
  /-- Any other place. -/
  | plain (hlutdrl : addr ≠ rlin3xLutdrl (rlinGetChannel addr))
      (hlcuc : addr ≠ rlin3xLcuc (rlinGetChannel addr)) :
    PutStep addr data s [] s

theorem channel_eq_ok {no : BitVec 8} {ch : Fin udnChannelNum} {s s' : Serial H}
    (h : (channel no).run s = (.ok ch, s')) : no = channelNo ch ∧ s' = s := by
  unfold channel at h
  split_ifs at h with hlt
  · rw [Routine.run_pure, Prod.mk.injEq, Except.ok.injEq] at h
    obtain ⟨rfl, rfl⟩ := h
    refine ⟨BitVec.eq_of_toNat_eq ?_, rfl⟩
    rw [toNat_channelNo]
  · exact absurd (congrArg Prod.fst h) nofun

/-- A register of one of the four channels is in the region. -/
theorem inSerialRegion_register {offset : BitVec 32} (hoffset : offset.toNat < 0x40)
    (ch : Fin udnChannelNum) : InSerialRegion (rlin3xRegister offset (channelNo ch)) 1 := by
  have hlt : ch.val < 4 := ch.isLt
  have hno := toNat_channelNo ch
  have hch : (channelNo ch).toNat < 6 := by omega
  have hoff := toNat_register hoffset hch
  unfold InSerialRegion
  rw [hoff]
  show 0x40 * (channelNo ch).toNat + offset.toNat + 1 ≤ 0x180
  omega

theorem run_serialChangeModeReset (ch : Fin udnChannelNum) (s : Serial H) :
    (serialChangeModeReset ch).run s =
      (.ok (), ((s.stored (rlin3xLst (channelNo ch)) 1 0).stored
          (rlin3xLuoer (channelNo ch)) 1 0).setDevice ch
        { s.device ch with
          isSending := false
          isReceiving := false
          isReadEnable := false
          isSendEnable := false
          receivedCounter := 0
          sendCounter := 0 }) := by
  have hlst : InSerialRegion (rlin3xLst (channelNo ch)) 1 :=
    inSerialRegion_register (by decide) ch
  have hluoer : InSerialRegion (rlin3xLuoer (channelNo ch)) 1 :=
    inSerialRegion_register (by decide) ch
  unfold serialChangeModeReset
  rw [Routine.run_bind]
  show Routine.andThen _ ((putBytes (rlin3xLst (channelNo ch)) 1 0).run s) = _
  rw [run_putBytes_eq hlst, Routine.andThen_ok, Routine.run_bind, run_modifyDevice,
    Routine.andThen_ok, Routine.run_bind]
  show Routine.andThen _ ((putBytes (rlin3xLuoer (channelNo ch)) 1 0).run _) = _
  rw [run_putBytes_eq hluoer, Routine.andThen_ok, run_modifyDevice]
  simp only [Serial.setDevice_stored, Serial.device_setDevice_self, Serial.setDevice_setDevice,
    Serial.device_stored]

theorem putStep_of_lutdrl {no data : BitVec 8} {s s' : Serial H} {calls : List SerialCall}
    (hrun : (putLutdrl no data).run s = (.ok calls, s')) :
    PutStep (rlin3xLutdrl no) data s calls s' := by
  obtain ⟨ch, t, hch, h⟩ := Routine.bind_eq_ok hrun
  obtain ⟨rfl, rfl⟩ := channel_eq_ok hch
  rw [Routine.run_bind, run_modifyDevice, Routine.andThen_ok, Routine.run_bind, run_getDevice,
    Routine.andThen_ok] at h
  simp only [Serial.device_setDevice_self] at h
  cases hops : (t.device ch).ops with
  | none =>
    rw [hops] at h
    exact absurd (congrArg Prod.fst h) nofun
  | some ops =>
    rw [hops] at h
    dsimp only at h
    rw [Routine.run_bind, run_modifyHost, Routine.andThen_ok, Routine.run_pure, Prod.mk.injEq,
      Except.ok.injEq] at h
    obtain ⟨rfl, rfl⟩ := h
    rw [← hops]
    exact .transmit rfl hops

theorem putStep_of_lcuc {no data : BitVec 8} {s s' : Serial H} {calls : List SerialCall}
    (h : (putLcuc no data).run s = (.ok calls, s')) :
    PutStep (rlin3xLcuc no) data s calls s' := by
  obtain ⟨u, t, ht, h⟩ := Routine.bind_eq_ok h
  obtain ⟨-, rfl⟩ := putBytes_eq_ok ht
  obtain ⟨ch, t', hch, h⟩ := Routine.bind_eq_ok h
  obtain ⟨rfl, rfl⟩ := channel_eq_ok hch
  rw [Routine.run_bind, run_modifyDevice, Routine.andThen_ok, Routine.run_bind, run_getDevice,
    Routine.andThen_ok] at h
  simp only [Serial.device_setDevice_self, decide_eq_true_eq] at h
  by_cases hdata : data = 0
  · rw [if_pos hdata, Routine.run_bind, run_serialChangeModeReset, Routine.andThen_ok,
      Routine.run_pure, Prod.mk.injEq, Except.ok.injEq] at h
    obtain ⟨rfl, rfl⟩ := h
    simp only [Serial.setDevice_stored, Serial.device_setDevice_self, Serial.setDevice_setDevice,
      Serial.device_stored, decide_eq_true hdata]
    exact .silence rfl hdata
  · rw [if_neg hdata, Routine.run_pure, Prod.mk.injEq, Except.ok.injEq] at h
    obtain ⟨rfl, rfl⟩ := h
    rw [decide_eq_false hdata]
    exact .operate rfl hdata

theorem putStep_of_luoer {no data : BitVec 8} {s s' : Serial H} {calls : List SerialCall}
    (hrun : (putLuoer no data).run s = (.ok calls, s')) :
    PutStep (rlin3xLuoer no) data s calls s' := by
  obtain ⟨ch, t, hch, h⟩ := Routine.bind_eq_ok hrun
  obtain ⟨rfl, rfl⟩ := channel_eq_ok hch
  rw [Routine.run_bind, run_getDevice, Routine.andThen_ok] at h
  cases hmode : (t.device ch).isResetMode with
  | false =>
    rw [if_pos hmode, Routine.run_bind, run_modifyDevice, Routine.andThen_ok, Routine.run_pure,
      Prod.mk.injEq, Except.ok.injEq] at h
    obtain ⟨rfl, rfl⟩ := h
    exact .enable rfl hmode
  | true =>
    rw [if_neg (by rw [hmode]; nofun), Routine.run_pure, Prod.mk.injEq, Except.ok.injEq] at h
    obtain ⟨rfl, rfl⟩ := h
    exact .locked rfl hmode

theorem putStep_of_luor1 {no data : BitVec 8} {s s' : Serial H} {calls : List SerialCall}
    (hrun : (putLuor1 no data).run s = (.ok calls, s')) :
    PutStep (rlin3xLuor1 no) data s calls s' := by
  obtain ⟨ch, t, hch, h⟩ := Routine.bind_eq_ok hrun
  obtain ⟨rfl, rfl⟩ := channel_eq_ok hch
  rw [Routine.run_bind, run_modifyDevice, Routine.andThen_ok, Routine.run_pure, Prod.mk.injEq,
    Except.ok.injEq] at h
  obtain ⟨rfl, rfl⟩ := h
  exact .option rfl

/-- A byte store that goes through. -/
theorem serialPutData8_step {addr : BitVec 32} {data : BitVec 8} {s s' : Serial H}
    {calls : List SerialCall} (h : (serialPutData8 addr data).run s = (.ok calls, s')) :
    InSerialRegion addr 1 ∧ PutStep addr data (s.stored addr 1 data.toNat) calls s' := by
  obtain ⟨u, t, ht, h⟩ := Routine.bind_eq_ok h
  obtain ⟨hin, rfl⟩ := putBytes_eq_ok ht
  refine ⟨hin, ?_⟩
  by_cases hlutdrl : addr = rlin3xLutdrl (rlinGetChannel addr)
  · rw [if_pos hlutdrl] at h
    have hstep := putStep_of_lutdrl h
    rwa [← hlutdrl] at hstep
  rw [if_neg hlutdrl] at h
  by_cases hlcuc : addr = rlin3xLcuc (rlinGetChannel addr)
  · rw [if_pos hlcuc] at h
    have hstep := putStep_of_lcuc h
    rwa [← hlcuc] at hstep
  rw [if_neg hlcuc] at h
  by_cases hluoer : addr = rlin3xLuoer (rlinGetChannel addr)
  · rw [if_pos hluoer] at h
    have hstep := putStep_of_luoer h
    rwa [← hluoer] at hstep
  rw [if_neg hluoer] at h
  by_cases hluor1 : addr = rlin3xLuor1 (rlinGetChannel addr)
  · rw [if_pos hluor1] at h
    have hstep := putStep_of_luor1 h
    rwa [← hluor1] at hstep
  rw [if_neg hluor1, Routine.run_pure, Prod.mk.injEq, Except.ok.injEq] at h
  obtain ⟨rfl, rfl⟩ := h
  exact .plain hlutdrl hlcuc

end Athrill
