/-
# Numbers as text

The control plane writes numbers in decimal and reads them with `atoi`. What it reads is what
was written, and the text of a number that is not negative has no other characters than
digits.
-/

import ClusterChat.Data.JsonText

namespace ClusterChat

theorem atoiDigits_eq (value : ℕ) (text : CString) :
    atoiDigits value text = (JsonText.readDigits value text.bytes).1 := by
  induction text generalizing value with
  | nil => rfl
  | cons c rest ih =>
    have same : JsonText.isDigit c.val = true ↔ 48 ≤ c.val.toNat ∧ c.val.toNat ≤ 57 := by
      simp [JsonText.isDigit, UInt8.le_iff_toNat_le]
    rw [CString.bytes, List.map_cons, atoiDigits, JsonText.readDigits]
    by_cases digit : 48 ≤ c.val.toNat ∧ c.val.toNat ≤ 57
    · rw [if_pos digit, if_pos (same.mpr digit)]
      exact ih _
    · rw [if_neg digit, if_neg fun is => digit (same.mp is)]

theorem atoiDigits_digits (n : ℕ) : atoiDigits 0 (cString (Nat.toDigits 10 n)) = n := by
  have read := JsonText.readDigits_digits n JsonText.noDigit_nil
  rw [List.append_nil] at read
  rw [atoiDigits_eq, JsonText.bytes_digits, read]

/-- **A number survives its text.** -/
theorem atoi_printInt (n : Int) : atoi (printInt n) = n := by
  cases n with
  | ofNat n =>
    obtain ⟨byte, more, form, digit⟩ := JsonText.digits_eq_cons n
    rw [← JsonText.bytes_digits] at form
    obtain ⟨c, rest, text, rfl, -⟩ := List.map_eq_cons_iff.mp form
    have value := atoiDigits_digits n
    rw [text] at value
    rw [JsonText.isDigit, Bool.and_eq_true, decide_eq_true_eq, decide_eq_true_eq] at digit
    -- a digit is no blank and no sign
    have noBlank : decide (c.val = 32 ∨ (9 ≤ c.val ∧ c.val ≤ 13)) = false := by
      apply decide_eq_false
      rintro (blank | ⟨-, blank⟩)
      · rw [blank] at digit
        exact absurd digit.1 (by decide)
      · exact absurd (UInt8.le_trans digit.1 blank) (by decide)
    have noMinus : c.val ≠ 45 := fun minus => absurd (minus ▸ digit.1) (by decide)
    have noPlus : c.val ≠ 43 := fun plus => absurd (plus ▸ digit.1) (by decide)
    rw [printInt, text, atoi,
      List.dropWhile_cons_of_neg (by rw [noBlank]; exact Bool.false_ne_true)]
    dsimp only
    rw [if_neg noMinus, if_neg noPlus, value]
    rfl
  | negSucc n =>
    have shape : printInt (.negSucc n) =
        ⟨45, by decide⟩ :: cString (Nat.toDigits 10 (n + 1)) := rfl
    rw [shape, atoi, List.dropWhile_cons_of_neg (by decide)]
    dsimp only
    rw [if_pos rfl, atoiDigits_digits]
    rfl

theorem printInt_injective : Function.Injective printInt :=
  Function.LeftInverse.injective atoi_printInt

/-- The number of an id is short: ten digits and a sign. -/
theorem printInt_length (userid : UserId) : (printInt userid.toInt).bytes.length ≤ 11 := by
  have above := userid.toInt_lt
  have below := userid.le_toInt
  have ten {n : ℕ} (small : n < 10 ^ 10) : (Nat.toDigits 10 n).length ≤ 10 :=
    (Nat.length_toDigits_le_iff (by decide) (by decide)).mpr small
  have kept (chars : List Char) : (cString chars).length ≤ chars.length :=
    List.length_filterMap_le _ chars
  rw [CString.bytes, List.length_map]
  cases shape : userid.toInt with
  | ofNat n =>
    rw [shape, Int.ofNat_eq_natCast] at above
    have digits := ten (n := n) (by omega)
    exact (kept _).trans (digits.trans (by decide))
  | negSucc n =>
    rw [shape] at below
    have digits := ten (n := n + 1) (by omega)
    exact (kept _).trans (Nat.succ_le_succ digits)

/-- The text of a natural number is made of digits. -/
theorem isDigit_of_mem_printInt {n : ℕ} {c : CChar} (listed : c ∈ printInt n) :
    JsonText.isDigit c.val = true := by
  have listed : c ∈ cString (Nat.toDigits 10 n) := listed
  have byte : c.val ∈ JsonText.digits n := by
    rw [← JsonText.bytes_digits]
    exact List.mem_map_of_mem listed
  obtain ⟨char, digit, same⟩ := List.mem_map.mp byte
  rw [← same]
  exact (JsonText.isDigit_toUInt8 (JsonText.isDigit_of_mem_toDigits digit)).1

end ClusterChat
