/-
# Rows of string literals

A row of values is written as literals with commas between them. A text that is pasted into a
literal comes back as it was only where it has no apostrophe and every backslash of it stands
before a wildcard: no other text is the value of any literal that it begins, whatever follows.
-/

import ClusterChat.Storage.SqlLiteral
import Mathlib.Data.List.Induction

namespace ClusterChat.SqlLiteral

variable {c next : UInt8} {text rest value after : Bytes}

/-- The text is read as it is: it has no apostrophe, and its backslashes are in front of
wildcards, which keep them. -/
def Faithful : Bytes → Prop
  | [] => True
  | c :: rest =>
    c ≠ apostrophe ∧ (c = backslash → rest.head? = some 37 ∨ rest.head? = some 95) ∧ Faithful rest

instance decidableFaithful : (text : Bytes) → Decidable (Faithful text)
  | [] => .isTrue trivial
  | c :: rest =>
    have := decidableFaithful rest
    inferInstanceAs (Decidable (c ≠ apostrophe ∧
      (c = backslash → rest.head? = some 37 ∨ rest.head? = some 95) ∧ Faithful rest))

theorem escaped_wildcard (wildcard : c = 37 ∨ c = 95) : escaped c = [backslash, c] := by
  rcases wildcard with rfl | rfl <;> rfl

/-- What a backslash makes of any other byte is one byte, which is a backslash or an
apostrophe only where that byte is. -/
theorem escaped_other (plain : ¬(c = 37 ∨ c = 95)) :
    ∃ e, escaped c = [e] ∧ (e = apostrophe ∨ e = backslash → e = c) := by
  have control {e : UInt8} (noApostrophe : e ≠ apostrophe) (noBackslash : e ≠ backslash) :
      e = apostrophe ∨ e = backslash → e = c :=
    fun special => (special.elim noApostrophe noBackslash).elim
  unfold escaped
  split
  · exact ⟨0, rfl, control (by decide) (by decide)⟩
  · split
    · exact ⟨8, rfl, control (by decide) (by decide)⟩
    · split
      · exact ⟨10, rfl, control (by decide) (by decide)⟩
      · split
        · exact ⟨13, rfl, control (by decide) (by decide)⟩
        · split
          · exact ⟨9, rfl, control (by decide) (by decide)⟩
          · split
            · exact ⟨26, rfl, control (by decide) (by decide)⟩
            · exact ⟨c, rfl, fun _ => rfl⟩

/-- **A faithful text is read as it is**, up to the apostrophe after it. -/
theorem readLiteral_faithful (faithful : Faithful text) (other : next ≠ apostrophe)
    (rest : Bytes) : readLiteral (text ++ apostrophe :: next :: rest) =
      some (text, next :: rest) := by
  fun_induction readLiteral text with
  | case1 => exact readLiteral_ends other
  | case2 => exact (faithful.1 rfl).elim
  | case3 c noApostrophe =>
    have noBackslash : c ≠ backslash := by
      rintro rfl
      rcases faithful.2.1 rfl with none | none <;> cases none
    rw [List.singleton_append, readLiteral_other noApostrophe noBackslash, readLiteral_ends other]
    rfl
  | case4 more ih => exact (faithful.1 rfl).elim
  | case5 => exact (faithful.1 rfl).elim
  | case6 c more noApostrophe ih =>
    have wildcard := (faithful.2.1 rfl).imp Option.some.inj Option.some.inj
    rw [List.cons_append, List.cons_append, readLiteral_escape, ih faithful.2.2.2.2,
      escaped_wildcard wildcard]
    rfl
  | case7 c following more noApostrophe noBackslash ih =>
    rw [List.cons_append, readLiteral_other noApostrophe noBackslash, ih faithful.2.2]
    rfl

/-! ### No other text comes back -/

theorem read_doubled (read : readLiteral (apostrophe :: apostrophe :: rest) = some (value, after)) :
    ∃ more, readLiteral rest = some (more, after) ∧ value = apostrophe :: more := by
  rw [readLiteral_doubled] at read
  obtain ⟨⟨more, _⟩, goesOn, same⟩ := Option.map_eq_some_iff.mp read
  obtain ⟨rfl, rfl⟩ := Prod.mk.inj same
  exact ⟨more, goesOn, rfl⟩

theorem read_escape (read : readLiteral (backslash :: c :: rest) = some (value, after)) :
    ∃ more, readLiteral rest = some (more, after) ∧ value = escaped c ++ more := by
  rw [readLiteral_escape] at read
  obtain ⟨⟨more, _⟩, goesOn, same⟩ := Option.map_eq_some_iff.mp read
  obtain ⟨rfl, rfl⟩ := Prod.mk.inj same
  exact ⟨more, goesOn, rfl⟩

/-- A value begins with the byte that the literal begins with, if that is an ordinary one. -/
theorem read_other (noApostrophe : c ≠ apostrophe) (noBackslash : c ≠ backslash)
    (read : readLiteral (c :: rest) = some (value, after)) :
    ∃ more, readLiteral rest = some (more, after) ∧ value = c :: more := by
  rw [readLiteral_other noApostrophe noBackslash] at read
  obtain ⟨⟨more, _⟩, goesOn, same⟩ := Option.map_eq_some_iff.mp read
  obtain ⟨rfl, rfl⟩ := Prod.mk.inj same
  exact ⟨more, goesOn, rfl⟩

/-- A byte that opens an escape, or an apostrophe. -/
abbrev Special (c : UInt8) : Prop := c = apostrophe ∨ c = backslash

/-- What comes first of bytes that are all special is special. -/
theorem special_head {lead : Bytes} {b : UInt8} {more : Bytes} (special : ∀ b ∈ lead, Special b)
    (then_ : Special c) (same : b :: more = lead ++ c :: rest) : Special b := by
  cases lead with
  | nil => exact (List.cons.inj same).1 ▸ then_
  | cons first ahead => exact (List.cons.inj same).1 ▸ special first (List.mem_cons_self ..)

/-- A value that runs ahead of the text never meets it again. What is ahead are apostrophes
and backslashes only, each pair of bytes that is read adds two to them and takes one away, and
the byte after the text is neither. -/
theorem no_lead {lead tail : Bytes} (special : ∀ b ∈ lead, Special b) (leads : lead ≠ [])
    (plain : ¬Special next)
    (read : readLiteral (text ++ apostrophe :: next :: rest) = some (lead ++ text ++ tail, after)) :
    False := by
  have other : next ≠ apostrophe := fun same => plain (.inl same)
  have noBackslash : next ≠ backslash := fun same => plain (.inr same)
  induction text using List.twoStepInduction generalizing lead with
  | nil =>
    rw [List.nil_append, readLiteral_ends other, List.append_nil] at read
    have none := (Prod.mk.inj (Option.some.inj read)).1
    exact leads (List.append_eq_nil_iff.mp none.symm).1
  | singleton c =>
    obtain ⟨first, ahead, rfl⟩ := List.exists_cons_of_ne_nil leads
    have firstSpecial := special first (List.mem_cons_self ..)
    have aheadSpecial (b : UInt8) (listed : b ∈ ahead) := special b (List.mem_cons_of_mem _ listed)
    rw [List.append_assoc, List.cons_append, List.cons_append, List.nil_append,
      List.singleton_append] at read
    -- the apostrophe after the text is taken for a part of it, and an ordinary byte follows
    have swallows {v : Bytes} (read : readLiteral (next :: rest) = some (v, after))
        (isSpecial : Special c) (same : v = ahead ++ c :: tail) : False := by
      obtain ⟨more, -, rfl⟩ := read_other other noBackslash read
      exact plain (special_head aheadSpecial isSpecial same)
    by_cases quoted : c = apostrophe
    · subst quoted
      obtain ⟨v, goesOn, same⟩ := read_doubled read
      exact swallows goesOn (.inl rfl) (List.cons.inj same).2.symm
    · by_cases escapes : c = backslash
      · subst escapes
        obtain ⟨v, goesOn, same⟩ := read_escape read
        exact swallows goesOn (.inr rfl) (List.cons.inj same).2.symm
      · obtain ⟨more, -, same⟩ := read_other quoted escapes read
        rw [(List.cons.inj same).1] at firstSpecial
        exact firstSpecial.elim quoted escapes
  | cons_cons c c' text ih _ =>
    obtain ⟨first, ahead, rfl⟩ := List.exists_cons_of_ne_nil leads
    have firstSpecial := special first (List.mem_cons_self ..)
    have aheadSpecial (b : UInt8) (listed : b ∈ ahead) := special b (List.mem_cons_of_mem _ listed)
    rw [List.append_assoc, List.cons_append, List.cons_append, List.cons_append, List.cons_append,
      List.cons_append] at read
    -- two bytes of the text were read for one of the value
    have goesOn {v : Bytes}
        (read : readLiteral (text ++ apostrophe :: next :: rest) = some (v, after))
        (isSpecial : Special c) (isSpecial' : Special c')
        (same : v = ahead ++ c :: c' :: (text ++ tail)) : False := by
      have longer : v = (ahead ++ [c, c']) ++ text ++ tail := by
        rw [same]
        simp only [List.append_assoc, List.cons_append, List.nil_append]
      rw [longer] at read
      refine ih (fun b listed => ?_) ?_ read
      swap
      · exact List.append_ne_nil_of_right_ne_nil _ (List.cons_ne_nil _ _)
      rcases List.mem_append.mp listed with old | new
      · exact aheadSpecial b old
      · rcases List.mem_pair.mp new with rfl | rfl
        · exact isSpecial
        · exact isSpecial'
    by_cases quoted : c = apostrophe
    · subst quoted
      by_cases doubled : c' = apostrophe
      · subst doubled
        obtain ⟨v, inside, same⟩ := read_doubled read
        exact goesOn inside (.inl rfl) (.inl rfl) (List.cons.inj same).2.symm
      · rw [readLiteral_ends doubled] at read
        cases (Prod.mk.inj (Option.some.inj read)).1
    · by_cases escapes : c = backslash
      · subst escapes
        obtain ⟨v, inside, same⟩ := read_escape read
        by_cases wildcard : c' = 37 ∨ c' = 95
        · -- a wildcard would come where there are special bytes only
          rw [escaped_wildcard wildcard] at same
          have isSpecial := special_head aheadSpecial (.inr rfl) (List.cons.inj same).2.symm
          rcases wildcard with rfl | rfl
          · exact absurd isSpecial (by decide)
          · exact absurd isSpecial (by decide)
        · obtain ⟨e, stands, itself⟩ := escaped_other wildcard
          rw [stands] at same
          obtain ⟨rfl, later⟩ := List.cons.inj same
          exact goesOn inside (.inr rfl) (itself firstSpecial ▸ firstSpecial) later.symm
      · obtain ⟨more, -, same⟩ := read_other quoted escapes read
        rw [(List.cons.inj same).1] at firstSpecial
        exact firstSpecial.elim quoted escapes

/-- **What comes back as it was is faithful**, and its literal ends with the apostrophe after
it. The value may only go on with a byte that is not the one after this apostrophe. -/
theorem faithful_of_read {tail : Bytes} (plain : ¬Special next) (stops : tail.head? ≠ some next)
    (read : readLiteral (text ++ apostrophe :: next :: rest) = some (text ++ tail, after)) :
    Faithful text ∧ tail = [] ∧ after = next :: rest := by
  have other : next ≠ apostrophe := fun same => plain (.inl same)
  have noBackslash : next ≠ backslash := fun same => plain (.inr same)
  induction text using List.twoStepInduction with
  | nil =>
    rw [List.nil_append, readLiteral_ends other] at read
    obtain ⟨none, rfl⟩ := Prod.mk.inj (Option.some.inj read)
    exact ⟨trivial, none.symm, rfl⟩
  | singleton c =>
    rw [List.cons_append, List.nil_append, List.cons_append] at read
    by_cases quoted : c = apostrophe
    · -- the text swallows the apostrophe, and the value goes on with the byte after it
      subst quoted
      obtain ⟨v, inside, same⟩ := read_doubled read
      obtain ⟨more, -, rfl⟩ := read_other other noBackslash inside
      have goesOn : tail = next :: more := (List.cons.inj same).2
      rw [goesOn] at stops
      exact absurd rfl stops
    · by_cases escapes : c = backslash
      · subst escapes
        obtain ⟨v, inside, same⟩ := read_escape read
        exact absurd (List.cons.inj same).1 (by decide)
      · obtain ⟨v, inside, same⟩ := read_other quoted escapes read
        rw [readLiteral_ends other] at inside
        obtain ⟨rfl, rfl⟩ := Prod.mk.inj (Option.some.inj inside)
        exact ⟨⟨quoted, fun same => (escapes same).elim, trivial⟩, (List.cons.inj same).2, rfl⟩
  | cons_cons c c' text ih ih' =>
    rw [List.cons_append, List.cons_append, List.cons_append, List.cons_append] at read
    have noLead {v : Bytes} (special : Special c') (same : c' :: (text ++ tail) = v)
        (inside : readLiteral (text ++ apostrophe :: next :: rest) = some (v, after)) : False := by
      rw [← same] at inside
      exact no_lead (List.forall_mem_singleton.mpr special) (List.cons_ne_nil c' []) plain inside
    by_cases quoted : c = apostrophe
    · subst quoted
      -- two apostrophes read as one, so the literal would be shorter than its text
      by_cases doubled : c' = apostrophe
      · subst doubled
        obtain ⟨v, inside, same⟩ := read_doubled read
        exact (noLead (.inl rfl) (List.cons.inj same).2 inside).elim
      · rw [readLiteral_ends doubled] at read
        cases (Prod.mk.inj (Option.some.inj read)).1
    · by_cases escapes : c = backslash
      · subst escapes
        obtain ⟨v, inside, same⟩ := read_escape read
        -- escaped % and _ keep their backslash, and are the only ones that do
        by_cases wildcard : c' = 37 ∨ c' = 95
        · rw [escaped_wildcard wildcard] at same
          have later : text ++ tail = v := (List.cons.inj (List.cons.inj same).2).2
          rw [← later] at inside
          obtain ⟨faithful, rest_⟩ := ih inside
          refine ⟨⟨quoted, fun _ => ?_, ?_, ?_, faithful⟩, rest_⟩
          · exact wildcard.imp (congrArg some) (congrArg some)
          · rintro rfl
            exact absurd wildcard (by decide)
          · rintro rfl
            exact absurd wildcard (by decide)
        · obtain ⟨e, stands, itself⟩ := escaped_other wildcard
          rw [stands] at same
          obtain ⟨first, later⟩ := List.cons.inj same
          subst first
          exact (noLead (.inr (itself (.inr rfl)).symm) later inside).elim
      · obtain ⟨v, inside, same⟩ := read_other quoted escapes read
        rw [← (List.cons.inj same).2] at inside
        obtain ⟨faithful, rest_⟩ := ih' c' inside
        exact ⟨⟨quoted, fun same => (escapes same).elim, faithful⟩, rest_⟩

/-! ### Rows -/

/-- What stands between two literals. -/
def separator : Bytes := [44, 32, apostrophe]

/-- The values of a literal and of `count` more, each set off by the separator, and what
follows the last one. -/
def readRow : ℕ → Bytes → Option (List Bytes × Bytes)
  | 0, text => (readLiteral text).map fun read => ([read.1], read.2)
  | count + 1, text =>
    (readLiteral text).bind fun read =>
      if read.2.take 3 = separator then
        (readRow count (read.2.drop 3)).map fun more => (read.1 :: more.1, more.2)
      else none

theorem readRow_one (read : readLiteral text = some (value, after)) :
    readRow 0 text = some ([value], after) := by
  rw [readRow, read]
  rfl

theorem readRow_more {count : ℕ} {values : List Bytes}
    (read : readLiteral text = some (value, separator ++ rest))
    (more : readRow count rest = some (values, after)) :
    readRow (count + 1) text = some (value :: values, after) := by
  have front : (separator ++ rest).take 3 = separator := rfl
  have back : (separator ++ rest).drop 3 = rest := rfl
  rw [readRow, read, Option.bind_some, if_pos front, back, more]
  rfl

/-- What a row was read from. -/
theorem readRow_succ {count : ℕ} {values : List Bytes}
    (row : readRow (count + 1) text = some (values, after)) :
    ∃ value rest more, readLiteral text = some (value, separator ++ rest) ∧
      readRow count rest = some (more, after) ∧ values = value :: more := by
  rw [readRow] at row
  obtain ⟨⟨value, left⟩, read, row⟩ := Option.bind_eq_some_iff.mp row
  split at row
  · rename_i front
    obtain ⟨⟨more, _⟩, others, same⟩ := Option.map_eq_some_iff.mp row
    obtain ⟨rfl, rfl⟩ := Prod.mk.inj same
    refine ⟨value, left.drop 3, more, ?_, others, rfl⟩
    rw [← front, List.take_append_drop]
    exact read
  · cases row

theorem readRow_zero {values : List Bytes} (row : readRow 0 text = some (values, after)) :
    ∃ value, readLiteral text = some (value, after) ∧ values = [value] := by
  rw [readRow] at row
  obtain ⟨⟨value, left⟩, read, same⟩ := Option.map_eq_some_iff.mp row
  obtain ⟨rfl, rfl⟩ := Prod.mk.inj same
  exact ⟨value, read, rfl⟩

/-! ### Text that goes on -/

/-- What follows the end of a literal does not change it. -/
theorem readLiteral_append (read : readLiteral text = some (value, after)) (ends : after ≠ [])
    (more : Bytes) : readLiteral (text ++ more) = some (value, after ++ more) := by
  fun_induction readLiteral text generalizing value with
  | case1 => cases read
  | case2 =>
    obtain ⟨-, rfl⟩ := Prod.mk.inj (Option.some.inj read)
    exact absurd rfl ends
  | case3 => cases read
  | case4 rest ih =>
    obtain ⟨⟨v, a⟩, inside, same⟩ := Option.map_eq_some_iff.mp read
    obtain ⟨rfl, rfl⟩ := Prod.mk.inj same
    rw [List.cons_append, List.cons_append, readLiteral_doubled, ih inside]
    rfl
  | case5 next rest other =>
    obtain ⟨rfl, rfl⟩ := Prod.mk.inj (Option.some.inj read)
    exact readLiteral_ends other
  | case6 next rest _ ih =>
    obtain ⟨⟨v, a⟩, inside, same⟩ := Option.map_eq_some_iff.mp read
    obtain ⟨rfl, rfl⟩ := Prod.mk.inj same
    rw [List.cons_append, List.cons_append, readLiteral_escape, ih inside]
    rfl
  | case7 c next rest noApostrophe noBackslash ih =>
    obtain ⟨⟨v, a⟩, inside, same⟩ := Option.map_eq_some_iff.mp read
    obtain ⟨rfl, rfl⟩ := Prod.mk.inj same
    rw [List.cons_append, readLiteral_other noApostrophe noBackslash, ih inside]
    rfl

/-- Nor does it change the row. -/
theorem readRow_append {count : ℕ} {values : List Bytes}
    (row : readRow count text = some (values, after)) (ends : after ≠ []) (more : Bytes) :
    readRow count (text ++ more) = some (values, after ++ more) := by
  induction count generalizing text values with
  | zero =>
    obtain ⟨value, read, rfl⟩ := readRow_zero row
    exact readRow_one (readLiteral_append read ends more)
  | succ count ih =>
    obtain ⟨value, rest, others, read, later, rfl⟩ := readRow_succ row
    have goesOn := readLiteral_append read (List.cons_ne_nil _ _) more
    rw [List.append_assoc] at goesOn
    exact readRow_more goesOn (ih later)

end ClusterChat.SqlLiteral
