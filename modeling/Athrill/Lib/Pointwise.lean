import Mathlib.Data.List.FinRange
import Mathlib.Logic.Function.Basic

/-!
# Loops over a family

A loop that visits each index of an array once and changes the element there is
the same change at every index.

* `foldl_update_of_nodup`, `foldl_update_finRange`: the loop as a function.
* `foldlM_invariant`: the invariant of a loop that can stop.
* `foldlM_visited`: the same with the indices that the loop has visited.
* `foldlM_eq_foldl`: a loop whose invariant keeps it from stopping.
-/

namespace Pointwise

variable {ι α β : Type} [DecidableEq ι]

/-- A loop over distinct indices changes the elements at them. -/
theorem foldl_update_of_nodup (f : ι → α → α) {indices : List ι} (h : indices.Nodup)
    (array : ι → α) (i : ι) :
    indices.foldl (fun array i => Function.update array i (f i (array i))) array i =
      if i ∈ indices then f i (array i) else array i := by
  induction indices generalizing array with
  | nil => simp
  | cons j rest ih =>
    obtain ⟨hj, hrest⟩ := List.nodup_cons.mp h
    rw [List.foldl_cons, ih hrest]
    by_cases hi : i = j
    · subst hi
      simp [hj]
    · simp [hi]

/-- A loop over all indices. -/
theorem foldl_update_finRange {n : Nat} (f : Fin n → α → α) (array : Fin n → α) :
    (List.finRange n).foldl (fun array i => Function.update array i (f i (array i))) array =
      fun i => f i (array i) := by
  funext i
  rw [foldl_update_of_nodup f (List.nodup_finRange n), if_pos (List.mem_finRange i)]

/-- What every pass preserves holds after a loop that does not stop. -/
theorem foldlM_invariant {I : β → Prop} {f : β → α → Option β}
    (hstep : ∀ b a b', I b → f b a = some b' → I b') (as : List α) {b b' : β} (hb : I b)
    (h : as.foldlM f b = some b') : I b' := by
  induction as generalizing b with
  | nil =>
    have heq : b = b' := by simpa using h
    exact heq ▸ hb
  | cons a as ih =>
    rw [List.foldlM_cons] at h
    obtain ⟨mid, hmid, hrest⟩ := Option.bind_eq_some_iff.mp h
    exact ih (hstep b a mid hb hmid) hrest

/-- An invariant that knows the indices visited so far. -/
theorem foldlM_visited {I : List α → β → Prop} {f : β → α → Option β}
    (hstep : ∀ visited b a b', a ∉ visited → I visited b → f b a = some b' →
      I (visited ++ [a]) b')
    (as visited : List α) (hnodup : (visited ++ as).Nodup) {b b' : β} (hb : I visited b)
    (h : as.foldlM f b = some b') : I (visited ++ as) b' := by
  induction as generalizing visited b with
  | nil =>
    have heq : b = b' := by simpa using h
    rw [List.append_nil]
    exact heq ▸ hb
  | cons a as ih =>
    rw [List.foldlM_cons] at h
    obtain ⟨mid, hmid, hrest⟩ := Option.bind_eq_some_iff.mp h
    have hfresh : a ∉ visited := fun hmem =>
      (List.nodup_append.mp hnodup).2.2 a hmem a List.mem_cons_self rfl
    rw [List.append_cons] at hnodup ⊢
    exact ih (visited ++ [a]) hnodup (hstep visited b a mid hfresh hb hmid) hrest

/-- A loop whose passes do not stop while an invariant holds is a plain loop. -/
theorem foldlM_eq_foldl {I : β → Prop} {f : β → α → Option β} {g : β → α → β} (as : List α)
    (hstep : ∀ b, ∀ a ∈ as, I b → f b a = some (g b a) ∧ I (g b a)) {b : β} (hb : I b) :
    as.foldlM f b = some (as.foldl g b) ∧ I (as.foldl g b) := by
  induction as generalizing b with
  | nil => exact ⟨rfl, hb⟩
  | cons a as ih =>
    obtain ⟨hf, hI⟩ := hstep b a List.mem_cons_self hb
    obtain ⟨hrest, hlast⟩ := ih (fun b c hc => hstep b c (List.mem_cons_of_mem a hc)) hI
    refine ⟨?_, hlast⟩
    rw [List.foldlM_cons, hf]
    exact hrest

end Pointwise
