import Mathlib.Data.Nat.ModEq
import Mathlib.Data.List.Range
import Mathlib.Logic.Function.Basic

/-!
# Ring buffers

An array used as a queue through a count and two offsets.  The offsets go back
to zero at the capacity, so the stored elements are those from the read offset
on, around the end of the array.

* `Control`: the count and the offsets, with `put` and `take`.
* `contents`: the queue that a ring holds.
* `Formed`: the count is at most the capacity, and the write offset is where
  the elements end.
* `contents_put`, `contents_take`: a ring is a queue.
* `Holds`: a ring as a bounded queue.
* `Flagged`: a ring with its flags, `Flagged.IsQueue` their meaning.
* `Within`: bounds that hold whatever the capacity was at each step.
-/

namespace Ring

variable {α : Type}

/-- The number of elements, and the offsets of the next read and write. -/
structure Control where
  count : Nat
  roff : Nat
  woff : Nat
  deriving DecidableEq, Repr

/-- The offset after `off`. -/
def next (cap off : Nat) : Nat := if off + 1 ≥ cap then 0 else off + 1

namespace Control

/-- An empty ring. -/
def clear : Control := { count := 0, roff := 0, woff := 0 }

/-- An element was stored at `woff`. -/
def put (cap : Nat) (c : Control) : Control :=
  { c with count := c.count + 1, woff := next cap c.woff }

/-- The element at `roff` is removed. -/
def take (cap : Nat) (c : Control) : Control :=
  { c with count := c.count - 1, roff := next cap c.roff }

end Control

/-- The stored elements, the oldest first. -/
def contents (cap : Nat) (c : Control) (buffer : Nat → α) : List α :=
  (List.range c.count).map fun i => buffer ((c.roff + i) % cap)

/-- A ring of a fixed capacity. -/
structure Formed (cap : Nat) (c : Control) : Prop where
  count_le : c.count ≤ cap
  roff_lt : c.roff < cap
  woff_eq : c.woff = (c.roff + c.count) % cap

theorem next_eq_mod {cap off : Nat} (h : off < cap) : next cap off = (off + 1) % cap := by
  unfold next
  split_ifs with hwrap
  · have heq : off + 1 = cap := by omega
    rw [heq, Nat.mod_self]
  · exact (Nat.mod_eq_of_lt (by omega)).symm

@[simp] theorem length_contents (cap : Nat) (c : Control) (buffer : Nat → α) :
    (contents cap c buffer).length = c.count := by
  simp [contents]

@[simp] theorem contents_clear (cap : Nat) (buffer : Nat → α) :
    contents cap Control.clear buffer = [] := by
  rfl

theorem formed_clear {cap : Nat} (h : 0 < cap) : Formed cap Control.clear where
  count_le := Nat.zero_le _
  roff_lt := h
  woff_eq := (Nat.zero_mod cap).symm

namespace Formed

variable {cap : Nat} {c : Control}

theorem woff_lt (h : Formed cap c) : c.woff < cap := by
  rw [h.woff_eq]
  exact Nat.mod_lt _ (Nat.lt_of_le_of_lt (Nat.zero_le _) h.roff_lt)

theorem put (h : Formed cap c) (hroom : c.count < cap) : Formed cap (c.put cap) where
  count_le := hroom
  roff_lt := h.roff_lt
  woff_eq := by
    show next cap c.woff = (c.roff + (c.count + 1)) % cap
    rw [next_eq_mod h.woff_lt, h.woff_eq, Nat.mod_add_mod, Nat.add_assoc]

theorem take (h : Formed cap c) (hcount : 0 < c.count) : Formed cap (c.take cap) where
  count_le := by
    show c.count - 1 ≤ cap
    have hle := h.count_le
    omega
  roff_lt := by
    show next cap c.roff < cap
    rw [next_eq_mod h.roff_lt]
    exact Nat.mod_lt _ (Nat.lt_of_le_of_lt (Nat.zero_le _) h.roff_lt)
  woff_eq := by
    show c.woff = (next cap c.roff + (c.count - 1)) % cap
    have hsum : c.roff + 1 + (c.count - 1) = c.roff + c.count := by omega
    rw [next_eq_mod h.roff_lt, Nat.mod_add_mod, hsum, h.woff_eq]

/-- The slot of a new element holds none of the stored ones. -/
theorem woff_ne (h : Formed cap c) (hroom : c.count < cap) {i : Nat} (hi : i < c.count) :
    (c.roff + i) % cap ≠ c.woff := by
  rw [h.woff_eq]
  intro heq
  have hdvd : cap ∣ c.roff + c.count - (c.roff + i) :=
    (Nat.modEq_iff_dvd' (by omega)).mp heq
  have hzero := Nat.eq_zero_of_dvd_of_lt hdvd (by omega)
  omega

end Formed

/-- A new element comes last. -/
theorem contents_put {cap : Nat} {c : Control} (h : Formed cap c) (hroom : c.count < cap) (a : α)
    (buffer : Nat → α) :
    contents cap (c.put cap) (Function.update buffer c.woff a) = contents cap c buffer ++ [a] := by
  have hlast : Function.update buffer c.woff a ((c.roff + c.count) % cap) = a := by
    rw [← h.woff_eq, Function.update_self]
  show (List.range (c.count + 1)).map _ = _
  rw [List.range_succ, List.map_append, List.map_cons, List.map_nil]
  show _ ++ [Function.update buffer c.woff a ((c.roff + c.count) % cap)] = _
  rw [hlast]
  congr 1
  refine List.map_congr_left fun i hi => ?_
  exact Function.update_of_ne (h.woff_ne hroom (List.mem_range.mp hi)) _ _

/-- The element at the read offset comes first. -/
theorem contents_take {cap : Nat} {c : Control} (h : Formed cap c) (hcount : 0 < c.count)
    (buffer : Nat → α) :
    contents cap c buffer = buffer c.roff :: contents cap (c.take cap) buffer := by
  obtain ⟨n, hn⟩ : ∃ n, c.count = n + 1 := ⟨c.count - 1, by omega⟩
  show (List.range c.count).map _ =
    _ :: (List.range (c.count - 1)).map fun i => buffer ((next cap c.roff + i) % cap)
  rw [hn, List.range_succ_eq_map, List.map_cons, List.map_map, Nat.add_sub_cancel, Nat.add_zero,
    Nat.mod_eq_of_lt h.roff_lt, next_eq_mod h.roff_lt]
  congr 1
  refine List.map_congr_left fun i _ => ?_
  show buffer ((c.roff + (i + 1)) % cap) = buffer (((c.roff + 1) % cap + i) % cap)
  rw [Nat.mod_add_mod, Nat.add_assoc, Nat.add_comm 1 i]

/-! ## A ring as a bounded queue -/

/-- The ring holds the elements of the queue. -/
structure Holds (cap : Nat) (c : Control) (buffer : Nat → α) (queue : List α) : Prop where
  formed : Formed cap c
  contents_eq : contents cap c buffer = queue

/-- A put into a bounded queue; a full one refuses the element. -/
def offer (cap : Nat) (a : α) (queue : List α) : List α :=
  if queue.length < cap then queue ++ [a] else queue

namespace Holds

variable {cap : Nat} {c : Control} {buffer : Nat → α} {queue : List α}

theorem count_eq (h : Holds cap c buffer queue) : c.count = queue.length := by
  rw [← h.contents_eq, length_contents]

theorem clear (hcap : 0 < cap) (buffer : Nat → α) : Holds cap Control.clear buffer [] :=
  ⟨formed_clear hcap, contents_clear cap buffer⟩

theorem put (h : Holds cap c buffer queue) (hroom : c.count < cap) (a : α) :
    Holds cap (c.put cap) (Function.update buffer c.woff a) (offer cap a queue) := by
  refine ⟨h.formed.put hroom, ?_⟩
  have hlength : queue.length < cap := by
    rw [← h.count_eq]
    exact hroom
  rw [contents_put h.formed hroom, h.contents_eq, offer, if_pos hlength]

theorem offer_full (h : Holds cap c buffer queue) (hfull : cap ≤ c.count) (a : α) :
    offer cap a queue = queue := by
  have hlength : ¬ queue.length < cap := by
    rw [← h.count_eq]
    omega
  exact if_neg hlength

theorem take (h : Holds cap c buffer queue) (hcount : 0 < c.count) :
    Holds cap (c.take cap) buffer queue.tail := by
  refine ⟨h.formed.take hcount, ?_⟩
  rw [← h.contents_eq, contents_take h.formed hcount]
  rfl

theorem eq_nil (h : Holds cap c buffer queue) (hcount : c.count = 0) : queue = [] := by
  rw [h.count_eq] at hcount
  exact List.length_eq_zero_iff.mp hcount

end Holds

/-! ## Flags -/

/-- A ring with a flag for a full and one for an empty queue. -/
structure Flagged (α : Type) where
  control : Control
  buffer : Nat → α
  full : Bool
  empty : Bool

namespace Flagged

/-- A put, refused when the queue is full. -/
def put (cap : Nat) (a : α) (ring : Flagged α) : Flagged α :=
  if ring.control.count ≥ cap then ring
  else
    { control := ring.control.put cap
      buffer := Function.update ring.buffer ring.control.woff a
      full := if (ring.control.put cap).count ≥ cap then true else ring.full
      empty := false }

/-- A removal that leaves the empty flag alone. -/
def get (cap : Nat) (ring : Flagged α) : Flagged α :=
  if ring.control.count = 0 then ring
  else
    { ring with
      control := ring.control.take cap
      full := if (ring.control.take cap).count < cap then false else ring.full }

/-- The empty flag of an empty queue. -/
def notify (ring : Flagged α) : Flagged α :=
  { ring with empty := if ring.control.count = 0 then true else ring.empty }

/-- A removal. -/
def take (cap : Nat) (ring : Flagged α) : Flagged α :=
  if ring.control.count = 0 then ring else (ring.get cap).notify

/-- The ring holds the queue, the full flag is right, and the empty flag is
only set when the queue is empty. -/
structure IsQueue (cap : Nat) (ring : Flagged α) (queue : List α) : Prop where
  holds : Holds cap ring.control ring.buffer queue
  full_iff : ring.full = true ↔ ring.control.count = cap
  of_empty : ring.empty = true → ring.control.count = 0

/-- The empty flag is set whenever the queue is empty. -/
def EmptySet (ring : Flagged α) : Prop := ring.control.count = 0 → ring.empty = true

variable {cap : Nat} {ring : Flagged α} {queue : List α}

namespace IsQueue

theorem count_le (h : IsQueue cap ring queue) : ring.control.count ≤ cap :=
  h.holds.formed.count_le

theorem cleared (hcap : 0 < cap) (hcontrol : ring.control = Control.clear)
    (hfull : ring.full = false) : IsQueue cap ring [] where
  holds := by
    rw [hcontrol]
    exact Holds.clear hcap ring.buffer
  full_iff := by
    have hne : (0 : Nat) ≠ cap := by omega
    simpa [hfull, hcontrol, Control.clear] using hne
  of_empty _ := by rw [hcontrol]; rfl

theorem put (h : IsQueue cap ring queue) (a : α) :
    IsQueue cap (ring.put cap a) (offer cap a queue) := by
  unfold Flagged.put
  split_ifs with hcount hlast
  · rw [h.holds.offer_full hcount]
    exact h
  · have hroom : ring.control.count < cap := by omega
    have hcap : ring.control.count + 1 = cap := by
      have hge : ring.control.count + 1 ≥ cap := hlast
      omega
    exact ⟨h.holds.put hroom a, iff_of_true rfl hcap, nofun⟩
  · have hroom : ring.control.count < cap := by omega
    have hnot : ring.full ≠ true := by
      rw [Ne, h.full_iff]
      omega
    refine ⟨h.holds.put hroom a, iff_of_false hnot ?_, nofun⟩
    have hlt : ¬ ring.control.count + 1 ≥ cap := hlast
    show ring.control.count + 1 ≠ cap
    omega

theorem get (h : IsQueue cap ring queue) : IsQueue cap (ring.get cap) queue.tail := by
  unfold Flagged.get
  have hle := h.count_le
  split_ifs with hcount hlt
  · have hnil := h.holds.eq_nil hcount
    subst hnil
    exact h
  · have hpos : 0 < ring.control.count := by omega
    refine ⟨h.holds.take hpos, ?_, fun hempty => ?_⟩
    · have hne : ring.control.count - 1 ≠ cap := by omega
      exact iff_of_false nofun hne
    · have hzero := h.of_empty hempty
      omega
  · have hge : ¬ ring.control.count - 1 < cap := hlt
    omega

theorem notify (h : IsQueue cap ring queue) : IsQueue cap ring.notify queue where
  holds := h.holds
  full_iff := h.full_iff
  of_empty hempty := by
    have hflag : (if ring.control.count = 0 then true else ring.empty) = true := hempty
    split_ifs at hflag with hcount
    · exact hcount
    · exact h.of_empty hflag

theorem take (h : IsQueue cap ring queue) : IsQueue cap (ring.take cap) queue.tail := by
  unfold Flagged.take
  split_ifs with hcount
  · have hnil := h.holds.eq_nil hcount
    subst hnil
    exact h
  · exact h.get.notify

end IsQueue

namespace EmptySet

theorem put (h : EmptySet ring) (a : α) : EmptySet (ring.put cap a) := by
  unfold Flagged.put
  split_ifs
  · exact h
  · exact nofun
  · exact nofun

theorem notify (ring : Flagged α) : EmptySet ring.notify :=
  fun hcount => if_pos hcount

theorem take (h : EmptySet ring) : EmptySet (ring.take cap) := by
  unfold Flagged.take
  split_ifs
  · exact h
  · exact notify _

end EmptySet

end Flagged

/-! ## Any capacities -/

/-- Bounds that do not depend on the capacity. -/
structure Within (size : Nat) (c : Control) : Prop where
  count_le : c.count ≤ size
  roff_lt : c.roff < size
  woff_lt : c.woff < size

theorem next_lt {size cap off : Nat} (hcap : cap ≤ size) (h : off < size) :
    next cap off < size := by
  unfold next
  split_ifs
  · omega
  · omega

namespace Within

variable {size cap : Nat} {c : Control}

theorem clear (h : 0 < size) : Within size Control.clear :=
  ⟨Nat.zero_le _, h, h⟩

theorem put (h : Within size c) (hcap : cap ≤ size) (hroom : c.count < cap) :
    Within size (c.put cap) where
  count_le := Nat.le_trans hroom hcap
  roff_lt := h.roff_lt
  woff_lt := next_lt hcap h.woff_lt

theorem take (h : Within size c) (hcap : cap ≤ size) : Within size (c.take cap) where
  count_le := Nat.le_trans (Nat.sub_le _ _) h.count_le
  roff_lt := next_lt hcap h.roff_lt
  woff_lt := h.woff_lt

end Within

end Ring
