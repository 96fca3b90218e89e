/-
# Tallies

Items are accounted for by weight. A tally over a list follows the changes that a
step makes to the list: an item appended, one taken off the front, one replaced.
-/

import Mathlib.Algebra.BigOperators.Group.List.Basic
import Mathlib.Algebra.GroupWithZero.Nat

namespace ClusterChat

variable {α : Type*} {β : Type*}

/-- The weights of the items of a list together. -/
def tally (weight : α → ℕ) (items : List α) : ℕ := (items.map weight).sum

@[simp] theorem tally_nil (weight : α → ℕ) : tally weight [] = 0 := rfl

@[simp] theorem tally_cons (weight : α → ℕ) (item : α) (rest : List α) :
    tally weight (item :: rest) = weight item + tally weight rest := by
  simp [tally]

@[simp] theorem tally_append (weight : α → ℕ) (first second : List α) :
    tally weight (first ++ second) = tally weight first + tally weight second := by
  simp [tally]

theorem tally_singleton (weight : α → ℕ) (item : α) : tally weight [item] = weight item := by
  simp

theorem tally_flatMap (weight : β → ℕ) (parts : α → List β) (items : List α) :
    tally weight (items.flatMap parts) = tally (fun item => tally weight (parts item)) items := by
  induction items with
  | nil => rfl
  | cons item rest ih => rw [List.flatMap_cons, tally_append, tally_cons, ih]

theorem tally_map (weight : β → ℕ) (image : α → β) (items : List α) :
    tally weight (items.map image) = tally (fun item => weight (image item)) items := by
  simp [tally, Function.comp_def]

/-- An item put in place of another changes a tally by the two alone. -/
theorem tally_set_add (weight : α → ℕ) {items : List α} {index : ℕ} {old : α}
    (found : items[index]? = some old) (new : α) :
    tally weight (items.set index new) + weight old = tally weight items + weight new := by
  induction items generalizing index with
  | nil => cases found
  | cons head rest ih =>
    cases index with
    | zero =>
      obtain rfl := Option.some.inj found
      rw [List.set_cons_zero, tally_cons, tally_cons]
      omega
    | succ index =>
      have tail := ih found
      rw [List.set_cons_succ, tally_cons, tally_cons]
      omega

/-- An item taken out of a list takes its own weight along. -/
theorem tally_eraseIdx_add (weight : α → ℕ) {items : List α} {index : ℕ} {old : α}
    (found : items[index]? = some old) :
    tally weight (items.eraseIdx index) + weight old = tally weight items := by
  induction items generalizing index with
  | nil => cases found
  | cons head rest ih =>
    cases index with
    | zero =>
      obtain rfl := Option.some.inj found
      rw [List.eraseIdx_cons_zero, tally_cons, Nat.add_comm]
    | succ index =>
      have tail := ih found
      rw [List.eraseIdx_cons_succ, tally_cons, tally_cons]
      omega

theorem le_tally_of_mem (weight : α → ℕ) {items : List α} {item : α} (member : item ∈ items) :
    weight item ≤ tally weight items := by
  obtain ⟨first, second, rfl⟩ := List.append_of_mem member
  rw [tally_append, tally_cons]
  omega

/-- A tally of exceptions is zero where there are none. -/
theorem forall_iff_tally {holds : α → Prop} [DecidablePred holds] {items : List α} :
    (∀ item ∈ items, holds item) ↔ tally (fun item => if holds item then 0 else 1) items = 0 := by
  induction items with
  | nil => simp
  | cons item rest ih =>
    rw [List.forall_mem_cons, ih, tally_cons, Nat.add_eq_zero_iff]
    by_cases held : holds item
    · simp [held]
    · simp [held]

/-- What holds of all items that there were and of those that came holds of all that there are,
where by every weight nothing else has come. -/
theorem forall_of_tally (holds : α → Prop) {before came after : List α}
    (books : ∀ weight : α → ℕ, tally weight after ≤ tally weight before + tally weight came)
    (old : ∀ item ∈ before, holds item) (new : ∀ item ∈ came, holds item) :
    ∀ item ∈ after, holds item := by
  classical
  have none := books fun item => if holds item then 0 else 1
  rw [forall_iff_tally.mp old, forall_iff_tally.mp new] at none
  exact forall_iff_tally.mpr (Nat.le_zero.mp none)

end ClusterChat
