/-
# The first place of an element and of a pattern

An element or a pattern is searched in a list from its front. Where it is found does not depend on
what comes behind; where a pattern is not found, it can begin only behind an element that is not in
it.
-/

import Mathlib.Data.List.Basic

namespace ClusterChat

variable {α : Type*} [DecidableEq α] {pattern front : List α}

section Element

variable {x : α} {list : List α}

theorem findIdx?_of_notMem (free : x ∉ list) : list.findIdx? (· = x) = none := by
  rw [List.findIdx?_eq_none_iff]
  intro other listed
  simpa using fun same : other = x => free (same ▸ listed)

theorem findIdx?_behind (free : x ∉ front) (back : List α) :
    (front ++ x :: back).findIdx? (· = x) = some front.length := by
  rw [List.findIdx?_append, findIdx?_of_notMem free]
  simp [List.findIdx?_cons]

/-- The list is split at the place that is found. -/
theorem findIdx?_split {pos : ℕ} (found : list.findIdx? (· = x) = some pos) :
    ∃ front back, list = front ++ x :: back ∧ front.length = pos ∧ x ∉ front := by
  obtain ⟨inside, here, before⟩ := List.findIdx?_eq_some_iff_getElem.mp found
  refine ⟨list.take pos, list.drop (pos + 1), ?_, List.length_take_of_le (Nat.le_of_lt inside), ?_⟩
  · rw [← of_decide_eq_true here, List.getElem_cons_drop inside, List.take_append_drop]
  · intro listed
    obtain ⟨index, small, same⟩ := List.mem_take_iff_getElem.mp listed
    exact before index (by omega) (decide_eq_true same)

end Element

/-- The position of the first occurrence of a pattern that is not empty. -/
def findSub (pattern : List α) : List α → Option ℕ
  | [] => none
  | c :: rest => if pattern <+: c :: rest then some 0 else (findSub pattern rest).map (· + 1)

/-- **It is where the first occurrence begins.** -/
theorem findSub_eq_some_iff (nonempty : pattern ≠ []) {list : List α} {pos : ℕ} :
    findSub pattern list = some pos ↔
      (∃ before after, list = before ++ (pattern ++ after) ∧ before.length = pos) ∧
        ∀ before after, list = before ++ (pattern ++ after) → pos ≤ before.length := by
  induction list generalizing pos with
  | nil =>
    refine iff_of_false (fun found => by cases found) ?_
    rintro ⟨⟨before, after, whole, -⟩, -⟩
    have inside := (List.append_eq_nil_iff.mp whole.symm).2
    exact nonempty (List.append_eq_nil_iff.mp inside).1
  | cons c rest ih =>
    rw [findSub]
    by_cases here : pattern <+: c :: rest
    · rw [if_pos here, Option.some.injEq]
      obtain ⟨after, whole⟩ := here
      constructor
      · rintro rfl
        exact ⟨⟨[], after, whole.symm, rfl⟩, fun _ _ _ => Nat.zero_le _⟩
      · rintro ⟨-, first⟩
        exact (Nat.le_zero.mp (first [] after whole.symm)).symm
    · -- what begins in the list begins behind its first element
      have later {before after : List α} (whole : c :: rest = before ++ (pattern ++ after)) :
          ∃ inner, before = c :: inner ∧ rest = inner ++ (pattern ++ after) := by
        cases before with
        | nil => exact absurd ⟨after, whole.symm⟩ here
        | cons first inner =>
          obtain ⟨rfl, tail⟩ := List.cons.inj whole
          exact ⟨inner, rfl, tail⟩
      rw [if_neg here, Option.map_eq_some_iff]
      constructor
      · rintro ⟨pos, found, rfl⟩
        obtain ⟨⟨before, after, rfl, rfl⟩, first⟩ := ih.mp found
        refine ⟨⟨c :: before, after, rfl, rfl⟩, fun other after' whole => ?_⟩
        obtain ⟨inner, rfl, tail⟩ := later whole
        exact Nat.succ_le_succ (first inner after' tail)
      · rintro ⟨⟨before, after, whole, rfl⟩, first⟩
        obtain ⟨inner, rfl, tail⟩ := later whole
        refine ⟨inner.length, ih.mpr ⟨⟨inner, after, tail, rfl⟩, ?_⟩, rfl⟩
        intro other after' whole'
        have bound := first (c :: other) after' (congrArg (c :: ·) whole')
        exact Nat.le_of_succ_le_succ bound

theorem findSub_eq_none_iff (nonempty : pattern ≠ []) {list : List α} :
    findSub pattern list = none ↔ ¬pattern <:+: list := by
  rw [← not_iff_not, not_not, ← ne_eq, Option.ne_none_iff_exists']
  constructor
  · rintro ⟨pos, found⟩
    obtain ⟨⟨before, after, rfl, -⟩, -⟩ := (findSub_eq_some_iff nonempty).mp found
    exact ⟨before, after, List.append_assoc ..⟩
  · rintro ⟨before, after, whole⟩
    rw [List.append_assoc] at whole
    subst whole
    induction before with
    | nil =>
      obtain ⟨first, more, rfl⟩ := List.exists_cons_of_ne_nil nonempty
      exact ⟨0, if_pos (List.prefix_append ..)⟩
    | cons c before ih =>
      obtain ⟨pos, found⟩ := ih
      rw [List.cons_append, findSub]
      by_cases here : pattern <+: c :: (before ++ (pattern ++ after))
      · exact ⟨0, if_pos here⟩
      · rw [if_neg here, found]
        exact ⟨pos + 1, rfl⟩

end ClusterChat
