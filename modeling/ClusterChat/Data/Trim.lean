/-
# Trimming

What satisfies a predicate is taken off both ends of a list. Around something that neither
begins nor ends so, it is all that is taken off.
-/

import Mathlib.Data.List.DropRight

namespace ClusterChat

variable {α : Type*} {p : α → Bool} {front core back : List α}

/-- The list without what satisfies `p` at both ends. -/
def trim (p : α → Bool) (list : List α) : List α := (list.dropWhile p).rdropWhile p

/-- Neither end of the list satisfies `p`. -/
structure Trimmed (p : α → Bool) (core : List α) : Prop where
  head : ∀ first ∈ core.head?, ¬p first
  last : ∀ final ∈ core.getLast?, ¬p final

/-- Behind a last element that stays, the rest is trimmed by itself. -/
theorem rdropWhile_append_of_last (last : ∀ final ∈ front.getLast?, ¬p final) (back : List α) :
    (front ++ back).rdropWhile p = front ++ back.rdropWhile p := by
  induction back using List.reverseRecOn with
  | nil =>
    rw [List.append_nil, List.rdropWhile_nil, List.append_nil]
    apply List.rdropWhile_eq_self_iff.mpr
    intro some
    exact last _ (List.getLast?_eq_getLast_of_ne_nil some)
  | append_singleton back final ih =>
    rw [← List.append_assoc]
    by_cases blank : p final
    · rw [List.rdropWhile_concat_pos p _ final blank,
        List.rdropWhile_concat_pos p _ final blank, ih]
    · rw [List.rdropWhile_concat_neg p _ final blank, List.rdropWhile_concat_neg p _ final blank,
        List.append_assoc]

/-- Only what satisfies the predicate is taken off. -/
theorem trim_parts (p : α → Bool) (list : List α) :
    ∃ front back, list = front ++ (trim p list ++ back) ∧ (∀ x ∈ front, p x) ∧ ∀ x ∈ back, p x := by
  refine ⟨list.takeWhile p, (list.dropWhile p).rtakeWhile p, ?_,
    fun x listed => List.mem_takeWhile_imp listed, fun x listed => List.mem_rtakeWhile_imp listed⟩
  rw [trim, List.rdropWhile_append_rtakeWhile, List.takeWhile_append_dropWhile]

/-- What is left is trimmed. -/
theorem trimmed_trim (p : α → Bool) (list : List α) : Trimmed p (trim p list) where
  head first listed := by
    have inside : trim p list <+: list.dropWhile p := List.rdropWhile_prefix p _
    obtain ⟨more, whole⟩ := inside
    have same : (list.dropWhile p).head? = some first := by
      rw [← whole]
      exact List.mem_head?_append_of_mem_head? listed
    have not := List.head?_dropWhile_not p list
    rw [same] at not
    simpa using not
  last final listed := by
    have some : trim p list ≠ [] := fun none => by
      rw [none] at listed
      cases listed
    have final_eq : (trim p list).getLast some = final := by
      rw [List.getLast?_eq_some_getLast some] at listed
      exact Option.some.inj listed
    rw [← final_eq]
    exact List.rdropWhile_last_not p _ some

namespace Trimmed

theorem dropWhile_append (trimmed : Trimmed p core) (nonempty : core ≠ []) (back : List α) :
    (core ++ back).dropWhile p = core ++ back := by
  cases core with
  | nil => exact absurd rfl nonempty
  | cons first rest => exact List.dropWhile_cons_of_neg (trimmed.head first rfl)

/-- What is behind the core is trimmed at its end only. -/
theorem trim_append (trimmed : Trimmed p core) (nonempty : core ≠ []) (all : ∀ x ∈ front, p x)
    (back : List α) : trim p (front ++ (core ++ back)) = core ++ back.rdropWhile p := by
  rw [trim, List.dropWhile_append_of_pos all, trimmed.dropWhile_append nonempty,
    rdropWhile_append_of_last trimmed.last]

/-- What surrounds the core is taken off. -/
theorem trim_eq (trimmed : Trimmed p core) (before : ∀ x ∈ front, p x) (after : ∀ x ∈ back, p x) :
    trim p (front ++ (core ++ back)) = core := by
  by_cases nonempty : core = []
  · subst nonempty
    rw [trim, List.dropWhile_append_of_pos before, List.nil_append]
    apply List.rdropWhile_eq_nil_iff.mpr
    exact fun x listed => after x ((List.dropWhile_sublist p).subset listed)
  · rw [trimmed.trim_append nonempty before, List.rdropWhile_eq_nil_iff.mpr after, List.append_nil]

/-- It does not matter whether the end has been trimmed before. -/
theorem trim_rdropWhile (trimmed : Trimmed p core) (before : ∀ x ∈ front, p x)
    (after : ∀ x ∈ back, p x) : trim p ((front ++ (core ++ back)).rdropWhile p) = core := by
  by_cases nonempty : core = []
  · subst nonempty
    have all : ∀ x ∈ front ++ ([] ++ back), p x := by
      intro x listed
      exact (List.mem_append.mp listed).elim (before x) (after x)
    rw [List.rdropWhile_eq_nil_iff.mpr all]
    rfl
  · have last : ∀ final ∈ (front ++ core).getLast?, ¬p final := by
      rw [List.getLast?_append_of_ne_nil front nonempty]
      exact trimmed.last
    rw [← List.append_assoc, rdropWhile_append_of_last last, List.rdropWhile_eq_nil_iff.mpr after,
      List.append_nil]
    have surrounded : trim p (front ++ (core ++ [])) = core :=
      trimmed.trim_eq before (List.forall_mem_nil _)
    rwa [List.append_nil] at surrounded

end Trimmed

end ClusterChat
