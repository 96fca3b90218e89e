/-
# Cutting a stream at a delimiter

A stream over any alphabet falls into the pieces that a delimiter closes and
the open rest after the last one. The cut is determined by the stream alone: it
is the only way to write the stream as delimiter-free pieces, each closed by the
delimiter, followed by a delimiter-free rest. A receiver that keeps the open
rest and cuts it again together with the next chunk sees the same pieces, in
the same order, however the stream was divided into chunks.
-/

import Mathlib.Data.List.Basic

namespace ClusterChat

variable {α : Type*}

/-- Put one more element in front of a cut stream. -/
def lead (x : α) : List (List α) × List α → List (List α) × List α
  | ([], rest) => ([], x :: rest)
  | (piece :: more, rest) => ((x :: piece) :: more, rest)

/-- Pieces closed by the delimiter and put in a row. -/
def close (d : α) (pieces : List (List α)) : List α :=
  (pieces.map fun piece => piece ++ [d]).flatten

@[simp] theorem close_nil (d : α) : close d [] = [] := rfl

@[simp] theorem close_cons (d : α) (piece : List α) (pieces : List (List α)) :
    close d (piece :: pieces) = piece ++ d :: close d pieces := by
  simp [close]

theorem close_lead (d x : α) (parts : List (List α) × List α) :
    close d (lead x parts).1 ++ (lead x parts).2 = x :: (close d parts.1 ++ parts.2) := by
  rcases parts with ⟨_ | ⟨piece, more⟩, rest⟩ <;> simp [lead]

/-- No piece and no rest has the delimiter inside. -/
def Free (d : α) (parts : List (List α) × List α) : Prop :=
  (∀ piece ∈ parts.1, d ∉ piece) ∧ d ∉ parts.2

theorem Free.lead {d x : α} {parts : List (List α) × List α} (free : Free d parts)
    (other : d ≠ x) : Free d (lead x parts) := by
  rcases parts with ⟨_ | ⟨piece, more⟩, rest⟩
  · exact ⟨by simp [ClusterChat.lead], by simpa [ClusterChat.lead, other] using free.2⟩
  · simpa [Free, ClusterChat.lead, other] using free

variable [DecidableEq α] {d : α}

/-- The pieces that `d` closes, and the open rest. -/
def cut (d : α) : List α → List (List α) × List α
  | [] => ([], [])
  | x :: xs => if x = d then ([] :: (cut d xs).1, (cut d xs).2) else lead x (cut d xs)

@[simp] theorem cut_nil : cut d [] = ([], []) := rfl

theorem cut_delimiter (xs : List α) :
    cut d (d :: xs) = ([] :: (cut d xs).1, (cut d xs).2) :=
  if_pos rfl

theorem cut_other {x : α} (other : x ≠ d) (xs : List α) : cut d (x :: xs) = lead x (cut d xs) :=
  if_neg other

/-- A stream without the delimiter is all rest. -/
theorem cut_of_notMem {xs : List α} (free : d ∉ xs) : cut d xs = ([], xs) := by
  induction xs with
  | nil => rfl
  | cons x xs ih =>
    rw [List.mem_cons, not_or] at free
    rw [cut_other (Ne.symm free.1), ih free.2, lead]

/-- A delimiter-free piece and its delimiter come off the front of the cut. -/
theorem cut_piece {piece : List α} (free : d ∉ piece) (xs : List α) :
    cut d (piece ++ d :: xs) = (piece :: (cut d xs).1, (cut d xs).2) := by
  induction piece with
  | nil => exact cut_delimiter xs
  | cons x piece ih =>
    rw [List.mem_cons, not_or] at free
    rw [List.cons_append, cut_other (Ne.symm free.1), ih free.2, lead]

/-- **The cut is unique.** Delimiter-free pieces closed by the delimiter, with
a rest behind them, are what the cut finds first. -/
theorem cut_close {pieces : List (List α)} (free : ∀ piece ∈ pieces, d ∉ piece)
    (rest : List α) :
    cut d (close d pieces ++ rest) = (pieces ++ (cut d rest).1, (cut d rest).2) := by
  induction pieces with
  | nil => rfl
  | cons piece pieces ih =>
    rw [List.forall_mem_cons] at free
    rw [close_cons, List.append_assoc, List.cons_append, cut_piece free.1, ih free.2,
      List.cons_append]

/-- The cut puts nothing in and leaves nothing out. -/
theorem close_cut (xs : List α) : close d (cut d xs).1 ++ (cut d xs).2 = xs := by
  induction xs with
  | nil => rfl
  | cons x xs ih =>
    by_cases here : x = d
    · rw [here, cut_delimiter, close_cons, List.nil_append, List.cons_append, ih]
    · rw [cut_other here, close_lead, ih]

/-- The pieces found are free of the delimiter, and so is the rest. -/
theorem free_cut (xs : List α) : Free d (cut d xs) := by
  induction xs with
  | nil => simp [Free]
  | cons x xs ih =>
    by_cases here : x = d
    · rw [here, cut_delimiter]
      exact ⟨by simpa using ih.1, ih.2⟩
    · rw [cut_other here]
      exact ih.lead (Ne.symm here)

/-- **Cutting a stream in two.** The pieces of a longer stream are those of its
first part, then those of the rest it left open together with the second part. -/
theorem cut_append (xs ys : List α) :
    cut d (xs ++ ys) =
      ((cut d xs).1 ++ (cut d ((cut d xs).2 ++ ys)).1, (cut d ((cut d xs).2 ++ ys)).2) := by
  conv_lhs => rw [← close_cut (d := d) xs, List.append_assoc]
  exact cut_close (free_cut xs).1 _

/-- A receiver that keeps the open rest between chunks: the pieces each chunk
closes, and the rest at the end. -/
def cutChunks (d : α) : List α → List (List α) → List (List α) × List α
  | rest, [] => ([], rest)
  | rest, chunk :: chunks =>
    let parts := cut d (rest ++ chunk)
    let later := cutChunks d parts.2 chunks
    (parts.1 ++ later.1, later.2)

/-- The division into chunks does not matter. -/
theorem cutChunks_eq_cut (chunks : List (List α)) {rest : List α} (free : d ∉ rest) :
    cutChunks d rest chunks = cut d (rest ++ chunks.flatten) := by
  induction chunks generalizing rest with
  | nil => simp [cutChunks, cut_of_notMem free]
  | cons chunk chunks ih =>
    rw [cutChunks, ih (free_cut (rest ++ chunk)).2, List.flatten_cons, ← List.append_assoc,
      cut_append (rest ++ chunk)]

end ClusterChat
