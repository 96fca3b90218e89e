/-
# String literals of SQL

How a database reads a quoted string with its default settings. A doubled apostrophe
stands for one, a backslash takes the next byte along, and any other apostrophe ends the
literal. What is written between the quotes is therefore what is read only where neither
of the two bytes occurs.
-/

import Mathlib.Data.List.Basic
import ClusterChat.Data.Bytes

namespace ClusterChat.SqlLiteral

/-- The byte that opens and closes a literal. -/
abbrev apostrophe : UInt8 := 39

/-- The byte that escapes the next one. -/
abbrev backslash : UInt8 := 92

/-- What a backslash and the byte after it stand for. -/
def escaped (c : UInt8) : Bytes :=
  if c = 48 then [0]
  else if c = 98 then [8]
  else if c = 110 then [10]
  else if c = 114 then [13]
  else if c = 116 then [9]
  else if c = 90 then [26]
  -- the wildcards of a pattern keep their backslash
  else if c = 37 ∨ c = 95 then [backslash, c]
  else [c]

/-- Read on from inside a literal: its value, and what follows its end. -/
def readLiteral : Bytes → Option (Bytes × Bytes)
  | [] => none
  | [c] => if c = apostrophe then some ([], []) else none
  | c :: next :: rest =>
    if c = apostrophe then
      if next = apostrophe then
        (readLiteral rest).map fun read => (apostrophe :: read.1, read.2)
      else some ([], next :: rest)
    else if c = backslash then (readLiteral rest).map fun read => (escaped next ++ read.1, read.2)
    else (readLiteral (next :: rest)).map fun read => (c :: read.1, read.2)

/-- Nothing follows the literal, if it ends at all. -/
def Unfinished (text : Bytes) : Prop :=
  readLiteral text = none ∨ ∃ value, readLiteral text = some (value, [])

section Equations

variable {c next : UInt8} {rest : Bytes}

theorem readLiteral_doubled (rest : Bytes) :
    readLiteral (apostrophe :: apostrophe :: rest) =
      (readLiteral rest).map fun read => (apostrophe :: read.1, read.2) := by
  rw [readLiteral, if_pos rfl, if_pos rfl]

theorem readLiteral_ends (other : next ≠ apostrophe) :
    readLiteral (apostrophe :: next :: rest) = some ([], next :: rest) := by
  rw [readLiteral, if_pos rfl, if_neg other]

theorem readLiteral_escape (next : UInt8) (rest : Bytes) :
    readLiteral (backslash :: next :: rest) =
      (readLiteral rest).map fun read => (escaped next ++ read.1, read.2) := by
  rw [readLiteral, if_neg (by decide), if_pos rfl]

theorem readLiteral_other (noApostrophe : c ≠ apostrophe) (noBackslash : c ≠ backslash)
    (rest : Bytes) : readLiteral (c :: rest) =
      (readLiteral rest).map fun read => (c :: read.1, read.2) := by
  cases rest with
  | nil => simp [readLiteral, noApostrophe]
  | cons next rest => rw [readLiteral, if_neg noApostrophe, if_neg noBackslash]

end Equations

/-- **Text without the two bytes is read as it is**, up to the apostrophe after it. -/
theorem readLiteral_plain {text : Bytes} (noApostrophe : apostrophe ∉ text)
    (noBackslash : backslash ∉ text) {next : UInt8} (other : next ≠ apostrophe) (rest : Bytes) :
    readLiteral (text ++ apostrophe :: next :: rest) = some (text, next :: rest) := by
  induction text with
  | nil => exact readLiteral_ends other
  | cons c text ih =>
    rw [List.mem_cons, not_or] at noApostrophe noBackslash
    rw [List.cons_append, readLiteral_other (Ne.symm noApostrophe.1) (Ne.symm noBackslash.1),
      ih noApostrophe.2 noBackslash.2]
    rfl

/-! ### Statements cut short -/

theorem Unfinished.map {text : Bytes} {whole : Bytes} {front : Bytes → Bytes}
    (unfinished : Unfinished text)
    (reads : readLiteral whole = (readLiteral text).map fun read => (front read.1, read.2)) :
    Unfinished whole := by
  rcases unfinished with none | ⟨value, ends⟩
  · rw [none] at reads
    exact .inl reads
  · rw [ends] at reads
    exact .inr ⟨front value, reads⟩

/-- Text that ends no literal ends none with one more apostrophe and cut anywhere, or ends
it with nothing left. -/
theorem unfinished_take {text : Bytes} (runsOn : readLiteral text = none) (count : ℕ) :
    Unfinished ((text ++ [apostrophe]).take count) := by
  fun_induction readLiteral text generalizing count with
  | case1 =>
    cases count with
    | zero => exact .inl rfl
    | succ count => exact .inr ⟨[], by simp [readLiteral]⟩
  | case2 => cases runsOn
  | case3 c other =>
    match count with
    | 0 => exact .inl rfl
    | 1 => exact .inl (by simp [readLiteral, other])
    | count + 2 =>
      -- nothing is cut: a backslash escapes the apostrophe, any other byte leaves it alone
      by_cases escapes : c = backslash
      · subst escapes
        exact .inl (by simp [readLiteral])
      · exact .inr ⟨[c], by simp [readLiteral_other other escapes, readLiteral]⟩
  | case4 rest ih =>
    match count with
    | 0 => exact .inl rfl
    | 1 => exact .inr ⟨[], rfl⟩
    | count + 2 =>
      have more := ih (Option.map_eq_none_iff.mp runsOn) count
      exact more.map (readLiteral_doubled _)
  | case5 => cases runsOn
  | case6 next rest noApostrophe ih =>
    match count with
    | 0 => exact .inl rfl
    | 1 => exact .inl rfl
    | count + 2 =>
      have more := ih (Option.map_eq_none_iff.mp runsOn) count
      exact more.map (readLiteral_escape next _)
  | case7 c next rest noApostrophe noBackslash ih =>
    cases count with
    | zero => exact .inl rfl
    | succ count =>
      have more := ih (Option.map_eq_none_iff.mp runsOn) count
      exact more.map (readLiteral_other noApostrophe noBackslash _)

/-! ### Values that are not the text -/

/-- Text in which each backslash has a byte to escape, and loses itself by that. -/
inductive Escapes : Bytes → Prop
  | nil : Escapes []
  | plain {c : UInt8} {rest : Bytes} (other : c ≠ backslash) (escapes : Escapes rest) :
      Escapes (c :: rest)
  | pair {c : UInt8} {rest : Bytes} (shrinks : (escaped c).length = 1) (escapes : Escapes rest) :
      Escapes (backslash :: c :: rest)

theorem Escapes.append {front back : Bytes} (first : Escapes front) (second : Escapes back) :
    Escapes (front ++ back) := by
  induction first with
  | nil => exact second
  | plain other _ ih => exact .plain other ih
  | pair shrinks _ ih => exact .pair shrinks ih

theorem escapes_of_notMem {text : Bytes} (noBackslash : backslash ∉ text) : Escapes text := by
  induction text with
  | nil => exact .nil
  | cons c text ih =>
    rw [List.mem_cons, not_or] at noBackslash
    exact .plain (Ne.symm noBackslash.1) (ih noBackslash.2)

/-- **A literal that its own apostrophe ends has the text for its value only where the
text has none of the two bytes**: else the value is shorter. -/
theorem readLiteral_escapes {text : Bytes} (escapes : Escapes text)
    (runsOn : readLiteral text = none) {next : UInt8} (other : next ≠ apostrophe) (rest : Bytes) :
    ∃ value, readLiteral (text ++ apostrophe :: next :: rest) = some (value, next :: rest) ∧
      value.length ≤ text.length ∧
      (value.length = text.length → apostrophe ∉ text ∧ backslash ∉ text) := by
  fun_induction readLiteral text with
  | case1 => exact ⟨[], readLiteral_ends other, Nat.le_refl _, fun _ => ⟨nofun, nofun⟩⟩
  | case2 => cases runsOn
  | case3 c noApostrophe =>
    cases escapes with
    | plain noBackslash =>
      refine ⟨[c], ?_, Nat.le_refl _, fun _ => ⟨?_, ?_⟩⟩
      · rw [List.singleton_append, readLiteral_other noApostrophe noBackslash,
          readLiteral_ends other]
        rfl
      · exact fun listed => noApostrophe (List.mem_singleton.mp listed).symm
      · exact fun listed => noBackslash (List.mem_singleton.mp listed).symm
  | case4 more ih =>
    cases escapes with
    | plain _ escapes =>
      cases escapes with
      | plain _ escapes =>
        obtain ⟨value, read, shorter, -⟩ := ih escapes (Option.map_eq_none_iff.mp runsOn)
        refine ⟨apostrophe :: value, ?_, ?_, ?_⟩
        · rw [List.cons_append, List.cons_append, readLiteral_doubled, read]
          rfl
        · simp only [List.length_cons]
          omega
        · simp only [List.length_cons]
          omega
  | case5 => cases runsOn
  | case6 c more noApostrophe ih =>
    cases escapes with
    | plain noBackslash => exact absurd rfl noBackslash
    | pair shrinks escapes =>
      obtain ⟨value, read, shorter, -⟩ := ih escapes (Option.map_eq_none_iff.mp runsOn)
      refine ⟨escaped c ++ value, ?_, ?_, ?_⟩
      · rw [List.cons_append, List.cons_append, readLiteral_escape, read]
        rfl
      · simp only [List.length_append, List.length_cons, shrinks]
        omega
      · simp only [List.length_append, List.length_cons, shrinks]
        omega
  | case7 c following more noApostrophe noBackslash ih =>
    cases escapes with
    | pair => exact absurd rfl noBackslash
    | plain _ escapes =>
      obtain ⟨value, read, shorter, verbatim⟩ := ih escapes (Option.map_eq_none_iff.mp runsOn)
      refine ⟨c :: value, ?_, Nat.succ_le_succ shorter, fun same => ?_⟩
      · rw [List.cons_append, readLiteral_other noApostrophe noBackslash, read]
        rfl
      · obtain ⟨free, free'⟩ := verbatim (Nat.succ.inj same)
        rw [List.mem_cons, List.mem_cons (a := backslash)]
        exact ⟨not_or.mpr ⟨Ne.symm noApostrophe, free⟩, not_or.mpr ⟨Ne.symm noBackslash, free'⟩⟩

end ClusterChat.SqlLiteral
