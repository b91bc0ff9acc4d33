import Mathlib.Data.Nat.Basic
import Mathlib.Data.Nat.Bitwise
import Mathlib.Tactic.Ring
import Mathlib.Tactic.SplitIfs

/-!
# Ticks of a divided clock

A device with a clock divider does its work at the multiples of the divider.
Between them its clock may be advanced by several steps at once, if nothing
that matters happens on the way.

* `next_dvd`, `next_le`, `exists_between_iff`: the next multiple.
* `exists_period_iff`: every `c + 1`-th multiple.
* `supplyEach`: a device that gets every clock of an interval.
* `supplyEach_quiet`, `skip_exact`: an interval without an event may be
  skipped.
-/

namespace Ticks

/-! ## The next multiple -/

section Multiples

variable {d : Nat}

theorem next_dvd (hd : 0 < d) (c : Nat) : d ∣ c + (d - c % d) := by
  have hmod : c % d < d := Nat.mod_lt c hd
  have hsum : c + (d - c % d) = d * (c / d) + d := by
    have hdiv := Nat.div_add_mod c d
    omega
  rw [hsum]
  exact Nat.dvd_add (Nat.dvd_mul_right d _) (Nat.dvd_refl d)

/-- No multiple lies before the next one. -/
theorem next_le (hd : 0 < d) {c m : Nat} (hm : d ∣ m) (hlt : c < m) :
    c + (d - c % d) ≤ m := by
  obtain ⟨q, rfl⟩ := hm
  have hdiv := Nat.div_add_mod c d
  have hmod : c % d < d := Nat.mod_lt c hd
  have hq : c / d < q := by
    rw [Nat.div_lt_iff_lt_mul hd, Nat.mul_comm]
    exact hlt
  have hle : d * (c / d + 1) ≤ d * q := Nat.mul_le_mul_left d hq
  rw [Nat.mul_add, Nat.mul_one] at hle
  omega

/-- A step of `k` passes a multiple exactly if it goes beyond the next one. -/
theorem exists_between_iff (hd : 0 < d) {c k : Nat} :
    (∃ m, d ∣ m ∧ c < m ∧ m < c + k) ↔ d - c % d < k := by
  have hmod : c % d < d := Nat.mod_lt c hd
  constructor
  · rintro ⟨m, hm, hlt, hlt'⟩
    have hle := next_le hd hm hlt
    omega
  · intro h
    exact ⟨c + (d - c % d), next_dvd hd c, by omega, by omega⟩

end Multiples

/-! ## A period of several multiples -/

section Period

variable {d c : Nat}

/-- The counter goes round. -/
theorem succ_mod_period (q c : Nat) :
    (q + 1) % (c + 1) = if q % (c + 1) = c then 0 else q % (c + 1) + 1 := by
  have hlt : q % (c + 1) < c + 1 := Nat.mod_lt q (Nat.succ_pos c)
  rw [Nat.add_mod_eq_ite]
  rcases Nat.eq_zero_or_pos c with rfl | hc
  · simp [Nat.mod_one]
  · rw [Nat.mod_eq_of_lt (show 1 < c + 1 by omega)]
    split_ifs <;> omega

/-- The multiples at which the counter is at its end. -/
theorem exists_period_iff (hd : 0 < d) {a : Nat} :
    (∃ n, a = c * d + n * ((c + 1) * d)) ↔ d ∣ a ∧ a / d % (c + 1) = c := by
  constructor
  · rintro ⟨n, rfl⟩
    have hmul : c * d + n * ((c + 1) * d) = (c + n * (c + 1)) * d := by ring
    rw [hmul]
    refine ⟨Nat.dvd_mul_left d _, ?_⟩
    rw [Nat.mul_div_cancel _ hd, Nat.add_mul_mod_self_right]
    exact Nat.mod_eq_of_lt (Nat.lt_succ_self c)
  · rintro ⟨⟨q, rfl⟩, hmod⟩
    rw [Nat.mul_div_cancel_left _ hd] at hmod
    refine ⟨q / (c + 1), ?_⟩
    have hq := Nat.div_add_mod q (c + 1)
    rw [hmod] at hq
    calc d * q = d * ((c + 1) * (q / (c + 1)) + c) := by rw [hq]
      _ = c * d + q / (c + 1) * ((c + 1) * d) := by ring

end Period

/-! ## Skipping -/

section Skip

variable {σ ο ν : Type} (supply : Nat → σ → σ × List ο)

/-- The device at one clock, its outputs with the clock. -/
def supplyOnce (clock : Nat) (s : σ) : σ × List (Nat × ο) :=
  ((supply clock s).1, (supply clock s).2.map fun output => (clock, output))

/-- The device at every clock after `t`, up to `t + k`. -/
def supplyEach (t : Nat) : Nat → σ → σ × List (Nat × ο)
  | 0, s => (s, [])
  | k + 1, s =>
    let before := supplyEach t k s
    let last := supplyOnce supply (t + k + 1) before.1
    (last.1, before.2 ++ last.2)

variable {supply} {view : σ → ν} {t k : Nat} {s : σ}

theorem mem_supplyOnce {clock : Nat} {output : Nat × ο}
    (h : output ∈ (supplyOnce supply clock s).2) : output.1 = clock := by
  obtain ⟨_, -, rfl⟩ := List.mem_map.mp h
  rfl

/-- The outputs of an interval carry its clocks. -/
theorem mem_supplyEach {output : Nat × ο} (h : output ∈ (supplyEach supply t k s).2) :
    t < output.1 ∧ output.1 ≤ t + k := by
  induction k with
  | zero => exact absurd h List.not_mem_nil
  | succ k ih =>
    rcases List.mem_append.mp h with hbefore | hlast
    · have hrange := ih hbefore
      omega
    · have hclock := mem_supplyOnce hlast
      omega

/-- Clocks that change nothing in view and put nothing out. -/
theorem supplyEach_quiet
    (hquiet : ∀ clock, t < clock → clock ≤ t + k → ∀ s', view s' = view s →
      view (supply clock s').1 = view s ∧ (supply clock s').2 = []) :
    view (supplyEach supply t k s).1 = view s ∧ (supplyEach supply t k s).2 = [] := by
  induction k with
  | zero => exact ⟨rfl, rfl⟩
  | succ k ih =>
    obtain ⟨hview, hout⟩ := ih fun clock hlt hle => hquiet clock hlt (by omega)
    obtain ⟨hview', hout'⟩ := hquiet (t + k + 1) (by omega) (by omega) _ hview
    refine ⟨hview', ?_⟩
    show (supplyEach supply t k s).2 ++ (supplyOnce supply (t + k + 1) _).2 = []
    unfold supplyOnce
    rw [hout, hout']
    rfl

/-- If nothing happens before the last clock, the clocks before it may be
skipped. -/
theorem skip_exact
    (hcongr : ∀ clock s s', view s = view s' →
      view (supply clock s).1 = view (supply clock s').1 ∧
        (supply clock s).2 = (supply clock s').2)
    (hquiet : ∀ clock, t < clock → clock ≤ t + k → ∀ s', view s' = view s →
      view (supply clock s').1 = view s ∧ (supply clock s').2 = []) :
    view (supplyEach supply t (k + 1) s).1 = view (supplyOnce supply (t + (k + 1)) s).1 ∧
      (supplyEach supply t (k + 1) s).2 = (supplyOnce supply (t + (k + 1)) s).2 := by
  obtain ⟨hview, hout⟩ := supplyEach_quiet hquiet
  obtain ⟨hview', hout'⟩ := hcongr (t + k + 1) _ _ hview
  refine ⟨hview', ?_⟩
  show (supplyEach supply t k s).2 ++ (supplyOnce supply (t + k + 1) _).2 = _
  unfold supplyOnce
  rw [hout, hout', List.nil_append]
  rfl

end Skip

end Ticks
