import Mathlib.Data.List.Basic

/-!
# Removal from queues of several levels

The first element that passes a test leaves a queue, or the first in a row of
queues.  Next to it stands the removal of all elements of a kind.  The two agree
when the element that leaves is of the kind and the only one.

* `FirstOnly`: the elements that pass the test begin with one of the kind and
  have no other.
* `eraseP_eq_filter_iff`, `countP_eraseP`: one queue.
* `dropFirst`, `dropFirst_eq_filter_iff`, `dropFirst_find?`: a row of queues.
-/

namespace Levels

variable {α ι : Type} {p q : α → Bool}

/-- If any elements of the list pass the test `p`, the first of them is of the
kind `q` and the others are not. -/
def FirstOnly (p q : α → Bool) (l : List α) : Prop :=
  ∀ a rest, l.filter p = a :: rest → q a = true ∧ ∀ b ∈ rest, q b = false

theorem firstOnly_of_forall_not {l : List α} (h : ∀ a ∈ l, p a = false) : FirstOnly p q l := by
  intro a rest hfilter
  have hmem : a ∈ l.filter p := by
    rw [hfilter]
    exact List.mem_cons_self
  obtain ⟨hin, hpass⟩ := List.mem_filter.mp hmem
  rw [h a hin] at hpass
  cases hpass

theorem firstOnly_cons_of_pos {a : α} {l : List α} (ha : p a = true) :
    FirstOnly p q (a :: l) ↔ q a = true ∧ ∀ b ∈ l.filter p, q b = false := by
  unfold FirstOnly
  rw [List.filter_cons_of_pos ha]
  constructor
  · intro h
    exact h a _ rfl
  · intro h a' rest heq
    obtain ⟨rfl, rfl⟩ := List.cons.inj heq
    exact h

theorem firstOnly_cons_of_neg {a : α} {l : List α} (ha : p a = false) :
    FirstOnly p q (a :: l) ↔ FirstOnly p q l := by
  unfold FirstOnly
  rw [List.filter_cons_of_neg (Bool.eq_false_iff.mp ha)]

/-- Elements of a kind pass the test, so the kind is looked for among those that
pass. -/
theorem forall_filter_iff (hq : ∀ a, q a = true → p a = true) {l : List α} :
    (∀ b ∈ l.filter p, q b = false) ↔ ∀ b ∈ l, q b = false := by
  constructor
  · intro h b hb
    by_contra hne
    have hqb : q b = true := (Bool.not_eq_false _).mp hne
    exact hne (h b (List.mem_filter.mpr ⟨hb, hq b hqb⟩))
  · intro h b hb
    exact h b (List.mem_filter.mp hb).1

/-- A list without elements of the kind. -/
theorem filter_not_eq_self {l : List α} : (l.filter fun a => !q a) = l ↔ ∀ a ∈ l, q a = false := by
  rw [List.filter_eq_self]
  simp only [Bool.not_eq_true']

/-- Removing the first element that passes the test, against removing all of a
kind that passes it. -/
theorem eraseP_eq_filter_iff (hq : ∀ a, q a = true → p a = true) {l : List α} :
    (l.eraseP p) = (l.filter fun a => !q a) ↔ FirstOnly p q l := by
  induction l with
  | nil => exact ⟨fun _ => firstOnly_of_forall_not fun _ h => absurd h List.not_mem_nil, fun _ => rfl⟩
  | cons a l ih =>
    by_cases ha : p a = true
    · rw [List.eraseP_cons_of_pos ha, firstOnly_cons_of_pos ha, forall_filter_iff hq]
      by_cases hqa : q a = true
      · rw [List.filter_cons_of_neg (by simp [hqa]), eq_comm, filter_not_eq_self]
        exact ⟨fun h => ⟨hqa, h⟩, And.right⟩
      · rw [List.filter_cons_of_pos (by simpa using hqa)]
        constructor
        · intro h
          -- the right side has no element of the kind and is too long
          have hnone : ∀ b ∈ l, q b = false := by
            intro b hb
            rw [h] at hb
            rcases List.mem_cons.mp hb with rfl | hb'
            · exact Bool.eq_false_iff.mpr hqa
            · simpa using (List.mem_filter.mp hb').2
          have hlength := congrArg List.length h
          rw [filter_not_eq_self.mpr hnone, List.length_cons] at hlength
          omega
        · intro h
          exact absurd h.1 hqa
    · have ha' : p a = false := Bool.eq_false_iff.mpr ha
      have hqa : q a = false := Bool.eq_false_iff.mpr fun h => ha (hq a h)
      rw [List.eraseP_cons_of_neg ha, firstOnly_cons_of_neg ha',
        List.filter_cons_of_pos (by simp [hqa]), List.cons.injEq, ih]
      exact ⟨And.right, fun h => ⟨rfl, h⟩⟩

/-- The elements of a kind after the first one that passes a test has left. -/
theorem countP_eraseP (p q : α → Bool) (l : List α) :
    (l.eraseP p).countP q + (if (l.find? p).any q then 1 else 0) = l.countP q := by
  induction l with
  | nil => rfl
  | cons a l ih =>
    by_cases ha : p a = true
    · rw [List.eraseP_cons_of_pos ha, List.find?_cons_of_pos ha, List.countP_cons]
      rfl
    · rw [List.eraseP_cons_of_neg ha, List.find?_cons_of_neg ha, List.countP_cons,
        List.countP_cons]
      omega

/-- Elements before the first one that passes the test. -/
theorem firstOnly_append_of_forall_not {l l' : List α} (h : ∀ a ∈ l, p a = false) :
    FirstOnly p q (l ++ l') ↔ FirstOnly p q l' := by
  have hnil : l.filter p = [] := List.filter_eq_nil_iff.mpr fun a ha => by simp [h a ha]
  unfold FirstOnly
  rw [List.filter_append, hnil, List.nil_append]

/-- Elements after it. -/
theorem firstOnly_append_of_mem {l l' : List α} {a : α} (ha : a ∈ l) (hpass : p a = true) :
    FirstOnly p q (l ++ l') ↔ FirstOnly p q l ∧ ∀ b ∈ l'.filter p, q b = false := by
  have hne : l.filter p ≠ [] := List.ne_nil_of_mem (List.mem_filter.mpr ⟨ha, hpass⟩)
  unfold FirstOnly
  rw [List.filter_append]
  obtain ⟨first, rest, hfilter⟩ := List.exists_cons_of_ne_nil hne
  rw [hfilter, List.cons_append]
  constructor
  · intro h
    obtain ⟨hfirst, hrest⟩ := h first _ rfl
    refine ⟨fun first' rest' heq => ?_, fun b hb => hrest b (List.mem_append_right _ hb)⟩
    obtain ⟨rfl, rfl⟩ := List.cons.inj heq
    exact ⟨hfirst, fun b hb => hrest b (List.mem_append_left _ hb)⟩
  · rintro ⟨h, hlater⟩ first' rest' heq
    obtain ⟨rfl, rfl⟩ := List.cons.inj heq
    obtain ⟨hfirst, hrest⟩ := h _ _ rfl
    refine ⟨hfirst, fun b hb => ?_⟩
    rcases List.mem_append.mp hb with hb | hb
    · exact hrest b hb
    · exact hlater b hb

/-! ## A row of queues -/

section Row

variable [DecidableEq ι]

/-- The first element that passes the test, in the order of the levels, leaves
its queue. -/
def dropFirst (levels : List ι) (queue : ι → List α) (p : α → Bool) : ι → List α :=
  match levels.find? fun level => (queue level).any p with
  | some level => Function.update queue level ((queue level).eraseP p)
  | none => queue

variable (levels : List ι) (queue : ι → List α) (p : α → Bool)

/-- The levels up to the one that loses an element, and those after it. -/
theorem dropFirst_cases :
    (dropFirst levels queue p = queue ∧ ∀ level ∈ levels, ∀ a ∈ queue level, p a = false) ∨
      ∃ before level after, levels = before ++ level :: after ∧
        (∀ level' ∈ before, ∀ a ∈ queue level', p a = false) ∧
        (∃ a ∈ queue level, p a = true) ∧
        dropFirst levels queue p = Function.update queue level ((queue level).eraseP p) := by
  unfold dropFirst
  cases hfind : levels.find? fun level => (queue level).any p with
  | none =>
    refine Or.inl ⟨rfl, fun level hlevel a ha => ?_⟩
    have hnone := List.find?_eq_none.mp hfind level hlevel
    rw [List.any_eq_true, not_exists] at hnone
    exact Bool.eq_false_iff.mpr fun hpass => hnone a ⟨ha, hpass⟩
  | some level =>
    obtain ⟨hany, before, after, hsplit, hbefore⟩ := List.find?_eq_some_iff_append.mp hfind
    refine Or.inr ⟨before, level, after, hsplit, fun level' hlevel a ha => ?_,
      List.any_eq_true.mp hany, rfl⟩
    have hnone := hbefore level' hlevel
    rw [Bool.not_eq_true', List.any_eq_false] at hnone
    exact Bool.eq_false_iff.mpr (hnone a ha)

/-- The element that leaves is the first one of the whole row. -/
theorem dropFirst_find? :
    (dropFirst levels queue p = queue ∧ (levels.flatMap queue).find? p = none) ∨
      ∃ level, dropFirst levels queue p =
          Function.update queue level ((queue level).eraseP p) ∧
        (levels.flatMap queue).find? p = (queue level).find? p := by
  rcases dropFirst_cases levels queue p with
    ⟨heq, hnone⟩ | ⟨before, level, after, rfl, hbefore, ⟨a, ha, hpass⟩, heq⟩
  · refine Or.inl ⟨heq, List.find?_eq_none.mpr fun b hb => ?_⟩
    obtain ⟨level, hlevel, hmem⟩ := List.mem_flatMap.mp hb
    exact Bool.eq_false_iff.mp (hnone level hlevel b hmem)
  · refine Or.inr ⟨level, heq, ?_⟩
    have hskip : (before.flatMap queue).find? p = none := List.find?_eq_none.mpr fun b hb => by
      obtain ⟨level', hlevel', hmem⟩ := List.mem_flatMap.mp hb
      exact Bool.eq_false_iff.mp (hbefore level' hlevel' b hmem)
    have hsome : ((queue level).find? p).isSome = true := List.find?_isSome.mpr ⟨a, ha, hpass⟩
    obtain ⟨b, hb⟩ := Option.isSome_iff_exists.mp hsome
    rw [List.flatMap_append, List.flatMap_cons, List.find?_append, hskip, Option.none_or,
      List.find?_append, hb, Option.some_or]

/-- Removing the first element that passes the test from a row of queues, against
removing all of a kind from each. -/
theorem dropFirst_eq_filter_iff {levels : List ι} (queue : ι → List α) {p : α → Bool}
    (hq : ∀ a, q a = true → p a = true) 
    (hnodup : levels.Nodup) (hall : ∀ level, level ∈ levels) :
    (dropFirst levels queue p = fun level => (queue level).filter fun a => !q a) ↔
      FirstOnly p q (levels.flatMap queue) := by
  rcases dropFirst_cases levels queue p with
    ⟨heq, hnone⟩ | ⟨before, level, after, rfl, hbefore, ⟨a, ha, hpass⟩, heq⟩
  · have hfirst : FirstOnly p q (levels.flatMap queue) := firstOnly_of_forall_not fun b hb => by
      obtain ⟨level, hlevel, hmem⟩ := List.mem_flatMap.mp hb
      exact hnone level hlevel b hmem
    refine ⟨fun _ => hfirst, fun _ => ?_⟩
    rw [heq]
    funext level
    refine (filter_not_eq_self.mpr fun b hb => Bool.eq_false_iff.mpr fun hqb => ?_).symm
    exact absurd ((hnone level (hall level) b hb).symm.trans (hq b hqb)) Bool.false_ne_true
  · have hflat : (before ++ level :: after).flatMap queue =
        before.flatMap queue ++ (queue level ++ after.flatMap queue) := by
      rw [List.flatMap_append, List.flatMap_cons]
    have hnone : ∀ b ∈ before.flatMap queue, p b = false := fun b hb => by
      obtain ⟨level', hlevel', hmem⟩ := List.mem_flatMap.mp hb
      exact hbefore level' hlevel' b hmem
    rw [hflat, firstOnly_append_of_forall_not hnone, firstOnly_append_of_mem ha hpass,
      forall_filter_iff hq, ← eraseP_eq_filter_iff hq, heq]
    constructor
    · intro h
      refine ⟨?_, fun b hb => ?_⟩
      · have hlevel := congrFun h level
        rw [Function.update_self] at hlevel
        exact hlevel
      · obtain ⟨level', hlevel', hmem⟩ := List.mem_flatMap.mp hb
        have hne : level' ≠ level := by
          rintro rfl
          exact (List.nodup_cons.mp (List.nodup_append.mp hnodup).2.1).1 hlevel'
        have hkept := congrFun h level'
        rw [Function.update_of_ne hne] at hkept
        exact filter_not_eq_self.mp hkept.symm b hmem
    · rintro ⟨herase, hlater⟩
      funext level'
      by_cases hlevel : level' = level
      · subst hlevel
        rw [Function.update_self]
        exact herase
      · rw [Function.update_of_ne hlevel]
        refine (filter_not_eq_self.mpr fun b hb => ?_).symm
        rcases List.mem_append.mp (hall level') with hin | hin
        · exact Bool.eq_false_iff.mpr fun hqb =>
            absurd ((hbefore level' hin b hb).symm.trans (hq b hqb)) Bool.false_ne_true
        · have hafter : level' ∈ after := List.mem_of_ne_of_mem hlevel hin
          exact hlater b (List.mem_flatMap.mpr ⟨level', hafter, hb⟩)

end Row

end Levels
