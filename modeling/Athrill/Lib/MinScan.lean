import Mathlib.Order.Defs.LinearOrder
import Mathlib.Order.Lattice

/-!
# Keeping the best so far

A scan of a list that keeps the first element with the smallest key, starting
from a bound: an element replaces the best one so far only when its key is
strictly smaller.

* `scan`: the scan, from a bound and a best element so far.
* `IsFirstMin.split`: the first minimum and another element.
* `scan_cases`: the scan keeps what it started from and no element is smaller,
  or it gives the first of the elements with the smallest key.
-/

namespace MinScan

variable {α κ : Type} [LinearOrder κ]

/-- One element of the scan. -/
def step (key : α → κ) (acc : κ × Option α) (a : α) : κ × Option α :=
  if key a < acc.1 then (key a, some a) else acc

/-- The scan of a list. -/
def scan (key : α → κ) (acc : κ × Option α) (l : List α) : κ × Option α :=
  l.foldl (step key) acc

/-- `a` is in the list, its key is minimal and smaller than that of every
element before it. -/
def IsFirstMin (key : α → κ) (l : List α) (a : α) : Prop :=
  ∃ before after, l = before ++ a :: after ∧
    (∀ b ∈ before, key a < key b) ∧ ∀ b ∈ after, key a ≤ key b

theorem IsFirstMin.mem {key : α → κ} {l : List α} {a : α} (h : IsFirstMin key l a) : a ∈ l := by
  obtain ⟨before, after, rfl, _, _⟩ := h
  exact List.mem_append_right before List.mem_cons_self

theorem IsFirstMin.le {key : α → κ} {l : List α} {a : α} (h : IsFirstMin key l a) :
    ∀ b ∈ l, key a ≤ key b := by
  obtain ⟨before, after, rfl, hbefore, hafter⟩ := h
  intro b hb
  rcases List.mem_append.mp hb with hb | hb
  · exact le_of_lt (hbefore b hb)
  · rcases List.mem_cons.mp hb with rfl | hb
    · exact le_refl _
    · exact hafter b hb

/-- Where the first minimum stands to another element of the list. -/
theorem IsFirstMin.split {key : α → κ} {l before after : List α} {a b : α}
    (h : IsFirstMin key l a) (heq : l = before ++ b :: after) :
    a = b ∨ a ∈ before ∧ key a ≤ key b ∨ a ∈ after ∧ key a < key b := by
  have hle : key a ≤ key b := h.le b (by rw [heq]; simp)
  obtain ⟨front, rest, rfl, hfront, _⟩ := h
  rcases List.append_eq_append_iff.mp heq with ⟨mid, hmid, hrest⟩ | ⟨mid, hmid, hrest⟩
  · cases mid with
    | nil => exact Or.inl (List.cons.inj hrest).1
    | cons c mid =>
      have hc : a = c := (List.cons.inj hrest).1
      exact Or.inr (Or.inl ⟨by rw [hmid, hc]; simp, hle⟩)
  · cases mid with
    | nil => exact Or.inl (List.cons.inj hrest).1.symm
    | cons c mid =>
      obtain ⟨hc, hafter⟩ := List.cons.inj hrest
      have hb : b ∈ front := by rw [hmid, hc]; simp
      exact Or.inr (Or.inr ⟨by rw [hafter]; simp, hfront b hb⟩)

/-- What a scan gives. -/
theorem scan_cases (key : α → κ) (acc : κ × Option α) (l : List α) :
    (scan key acc l = acc ∧ ∀ b ∈ l, acc.1 ≤ key b) ∨
      ∃ a, scan key acc l = (key a, some a) ∧ key a < acc.1 ∧ IsFirstMin key l a := by
  induction l generalizing acc with
  | nil => exact Or.inl ⟨rfl, fun b hb => absurd hb List.not_mem_nil⟩
  | cons x l ih =>
    have hscan : scan key acc (x :: l) = scan key (step key acc x) l := rfl
    rw [hscan]
    by_cases hx : key x < acc.1
    · have hstep : step key acc x = (key x, some x) := if_pos hx
      rw [hstep]
      rcases ih (key x, some x) with ⟨hkeep, hle⟩ | ⟨a, hgive, hlt, before, after, rfl, hb, ha⟩
      · exact Or.inr ⟨x, hkeep, hx, [], l, rfl, fun b hb => absurd hb List.not_mem_nil, hle⟩
      · refine Or.inr ⟨a, hgive, lt_trans hlt hx, x :: before, after, rfl, ?_, ha⟩
        intro b hmem
        rcases List.mem_cons.mp hmem with rfl | hmem
        · exact hlt
        · exact hb b hmem
    · have hstep : step key acc x = acc := if_neg hx
      have hxle : acc.1 ≤ key x := le_of_not_gt hx
      rw [hstep]
      rcases ih acc with ⟨hkeep, hle⟩ | ⟨a, hgive, hlt, before, after, rfl, hb, ha⟩
      · refine Or.inl ⟨hkeep, fun b hmem => ?_⟩
        rcases List.mem_cons.mp hmem with rfl | hmem
        · exact hxle
        · exact hle b hmem
      · refine Or.inr ⟨a, hgive, hlt, x :: before, after, rfl, ?_, ha⟩
        intro b hmem
        rcases List.mem_cons.mp hmem with rfl | hmem
        · exact lt_of_lt_of_le hlt hxle
        · exact hb b hmem

end MinScan
