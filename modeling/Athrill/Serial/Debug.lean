import Athrill.Lib.Ring
import Mathlib.Data.Fintype.Basic

/-!
# The debugger's side of the serial lines

`dbg_target_serial.c`: the debugger puts the bytes of its serial command into
one ring for each line, and the emulated device takes them out.  What the
device sends is printed at once.

* `DbgSerialFifo`: the ring of a line.
* `DbgSerial`: the rings and what was printed.
* `dbgSerialIn`, `dbgSerialGetchar`, `dbgSerialPutchar`: the operations.
* `DbgSerial.Queues`: the rings hold queues of at most 1024 bytes.
-/

namespace Athrill

open Ring

/-- `DBG_SERIAL_CHANNEL_NUM`. -/
abbrev dbgSerialChannelNum : Nat := 4

/-- `DBG_SERIAL_BUFFER_SIZE`. -/
def dbgSerialBufferSize : Nat := 1024

/-- `DbgSerialFifoType`. -/
structure DbgSerialFifo where
  control : Control
  buffer : Nat → BitVec 8

/-- `dbg_serial_fifo`, with the bytes printed so far. -/
structure DbgSerial where
  fifo : Fin dbgSerialChannelNum → DbgSerialFifo
  stdout : List (BitVec 8)
  stderr : List (BitVec 8)

/-- The results of `dbg_serial_in`. -/
inductive DbgSerialReturn where
  | ok | limit | invalid
  deriving DecidableEq, Repr

/-- The state at the start of the process. -/
def DbgSerial.start : DbgSerial where
  fifo _ := { control := .clear, buffer := fun _ => 0 }
  stdout := []
  stderr := []

/-- `dbg_serial_in`. -/
def dbgSerialIn (channel data : BitVec 8) (host : DbgSerial) : DbgSerialReturn × DbgSerial :=
  if h : channel.toNat < dbgSerialChannelNum then
    let fifo := host.fifo ⟨channel.toNat, h⟩
    if fifo.control.count ≥ dbgSerialBufferSize then (.limit, host)
    else
      let fifo :=
        { buffer := Function.update fifo.buffer fifo.control.woff data
          control := fifo.control.put dbgSerialBufferSize }
      (.ok, { host with fifo := Function.update host.fifo ⟨channel.toNat, h⟩ fifo })
  else (.invalid, host)

/-- `dbg_serial_getchar`. -/
def dbgSerialGetchar (channel : BitVec 8) (host : DbgSerial) : Option (BitVec 8) × DbgSerial :=
  if h : channel.toNat < dbgSerialChannelNum then
    let fifo := host.fifo ⟨channel.toNat, h⟩
    if fifo.control.count = 0 then (none, host)
    else
      (some (fifo.buffer fifo.control.roff),
        { host with
          fifo :=
            Function.update host.fifo ⟨channel.toNat, h⟩
              { fifo with control := fifo.control.take dbgSerialBufferSize } })
  else (none, host)

/-- `dbg_serial_putchar`; it always returns `TRUE`. -/
def dbgSerialPutchar (channel data : BitVec 8) (host : DbgSerial) : DbgSerial :=
  if channel = 0 then { host with stdout := host.stdout ++ [data] }
  else { host with stderr := host.stderr ++ [data] }

/-! ## The rings as queues -/

namespace DbgSerial

/-- The bytes that wait on a line, the oldest first. -/
def waiting (host : DbgSerial) (ch : Fin dbgSerialChannelNum) : List (BitVec 8) :=
  contents dbgSerialBufferSize (host.fifo ch).control (host.fifo ch).buffer

/-- The rings are in order. -/
def Queues (host : DbgSerial) : Prop :=
  ∀ ch, Formed dbgSerialBufferSize (host.fifo ch).control

theorem queues_start : start.Queues := fun _ => formed_clear (by decide)

variable {host : DbgSerial} {ch : Fin dbgSerialChannelNum} {channel data : BitVec 8}

theorem length_waiting (host : DbgSerial) (ch : Fin dbgSerialChannelNum) :
    (host.waiting ch).length = (host.fifo ch).control.count :=
  length_contents ..

theorem Queues.length_le (h : host.Queues) (ch : Fin dbgSerialChannelNum) :
    (host.waiting ch).length ≤ dbgSerialBufferSize := by
  rw [length_waiting]
  exact (h ch).count_le

/-- A byte for a line is refused when 1024 are waiting, and else comes last. -/
theorem dbgSerialIn_cases (h : host.Queues) (ch : Fin dbgSerialChannelNum)
    (data : BitVec 8) (hch : channel.toNat = ch.val) :
    ((host.waiting ch).length = dbgSerialBufferSize ∧
        dbgSerialIn channel data host = (.limit, host)) ∨
      ((host.waiting ch).length < dbgSerialBufferSize ∧
        (dbgSerialIn channel data host).1 = .ok ∧
        (dbgSerialIn channel data host).2.Queues ∧
        (dbgSerialIn channel data host).2.waiting ch = host.waiting ch ++ [data] ∧
        ∀ ch', ch' ≠ ch → (dbgSerialIn channel data host).2.waiting ch' = host.waiting ch') := by
  have hlt : channel.toNat < dbgSerialChannelNum := by
    rw [hch]
    exact ch.isLt
  have heq : (⟨channel.toNat, hlt⟩ : Fin dbgSerialChannelNum) = ch := Fin.ext hch
  have hle := (h ch).count_le
  rw [length_waiting]
  unfold dbgSerialIn
  rw [dif_pos hlt, heq]
  by_cases hfull : (host.fifo ch).control.count ≥ dbgSerialBufferSize
  · left
    refine ⟨by omega, ?_⟩
    dsimp only
    rw [if_pos hfull]
  · right
    have hroom : (host.fifo ch).control.count < dbgSerialBufferSize := by omega
    dsimp only
    rw [if_neg hfull]
    refine ⟨hroom, rfl, fun ch' => ?_, ?_, fun ch' hne => ?_⟩
    · by_cases hch' : ch' = ch
      · subst hch'
        simpa only [Function.update_self] using (h ch').put hroom
      · simpa only [Function.update_of_ne hch'] using h ch'
    · unfold waiting
      simp only [Function.update_self]
      exact contents_put (h ch) hroom data _
    · unfold waiting
      simp only [Function.update_of_ne hne]

/-- Another channel's byte leaves a line alone. -/
theorem dbgSerialIn_of_ne (hch : channel.toNat ≠ ch.val) :
    (dbgSerialIn channel data host).2.waiting ch = host.waiting ch := by
  unfold dbgSerialIn
  split_ifs with hlt
  · dsimp only
    split_ifs
    · rfl
    · have hne : ch ≠ ⟨channel.toNat, hlt⟩ := fun heq => hch (by rw [heq])
      unfold waiting
      simp only [Function.update_of_ne hne]
  · rfl

theorem Queues.dbgSerialIn (h : host.Queues) (channel data : BitVec 8) :
    (dbgSerialIn channel data host).2.Queues := by
  by_cases hlt : channel.toNat < dbgSerialChannelNum
  · obtain ⟨-, heq⟩ | ⟨-, -, hqueues, -⟩ :=
      dbgSerialIn_cases h ⟨channel.toNat, hlt⟩ data rfl
    · rw [heq]
      exact h
    · exact hqueues
  · unfold Athrill.dbgSerialIn
    rw [dif_neg hlt]
    exact h

/-- The oldest byte of a line is taken. -/
theorem dbgSerialGetchar_cases (h : host.Queues) (channel : BitVec 8)
    (ch : Fin dbgSerialChannelNum) (hch : channel.toNat = ch.val) :
    (host.waiting ch = [] ∧ dbgSerialGetchar channel host = (none, host)) ∨
      ∃ byte, (dbgSerialGetchar channel host).1 = some byte ∧
        host.waiting ch = byte :: (dbgSerialGetchar channel host).2.waiting ch ∧
        (dbgSerialGetchar channel host).2.Queues := by
  have hlt : channel.toNat < dbgSerialChannelNum := by
    rw [hch]
    exact ch.isLt
  have heq : (⟨channel.toNat, hlt⟩ : Fin dbgSerialChannelNum) = ch := Fin.ext hch
  unfold dbgSerialGetchar
  rw [dif_pos hlt, heq]
  by_cases hzero : (host.fifo ch).control.count = 0
  · left
    refine ⟨List.length_eq_zero_iff.mp (by rw [length_waiting, hzero]), ?_⟩
    dsimp only
    rw [if_pos hzero]
  · right
    have hcount : 0 < (host.fifo ch).control.count := by omega
    dsimp only
    rw [if_neg hzero]
    refine ⟨_, rfl, ?_, fun ch' => ?_⟩
    · unfold waiting
      simp only [Function.update_self]
      exact contents_take (h ch) hcount _
    · by_cases hch' : ch' = ch
      · subst hch'
        simpa only [Function.update_self] using (h ch').take hcount
      · simpa only [Function.update_of_ne hch'] using h ch'

theorem stdout_dbgSerialGetchar : (dbgSerialGetchar channel host).2.stdout = host.stdout := by
  unfold dbgSerialGetchar
  split_ifs
  · dsimp only
    split_ifs <;> rfl
  · rfl

theorem stderr_dbgSerialGetchar : (dbgSerialGetchar channel host).2.stderr = host.stderr := by
  unfold dbgSerialGetchar
  split_ifs
  · dsimp only
    split_ifs <;> rfl
  · rfl

theorem stdout_dbgSerialIn (channel data : BitVec 8) (host : DbgSerial) :
    (Athrill.dbgSerialIn channel data host).2.stdout = host.stdout := by
  unfold Athrill.dbgSerialIn
  split_ifs
  · dsimp only
    split_ifs <;> rfl
  · rfl

theorem stderr_dbgSerialIn (channel data : BitVec 8) (host : DbgSerial) :
    (Athrill.dbgSerialIn channel data host).2.stderr = host.stderr := by
  unfold Athrill.dbgSerialIn
  split_ifs
  · dsimp only
    split_ifs <;> rfl
  · rfl

theorem fifo_dbgSerialPutchar : (dbgSerialPutchar channel data host).fifo = host.fifo := by
  unfold dbgSerialPutchar
  split_ifs <;> rfl

end DbgSerial

end Athrill
