/-
# Bytes, words and text without NUL

Strings of the program are byte strings. Words of four bytes go on the wire
with the most significant byte first. The control plane handles text that comes
from C strings and goes through C strings, so its characters are the bytes other
than NUL, and its numbers are written and read in decimal.
-/

import Mathlib.Data.List.Basic
import Mathlib.Data.List.TakeWhile
import Mathlib.Data.Nat.Digits.Defs

namespace ClusterChat

/-- A byte string. -/
abbrev Bytes := List UInt8

/-- The terminator of a C string, and of a JSON message on a stream. -/
def nul : UInt8 := 0

/-- A 32-bit user id. -/
abbrev UserId := Int32

/-! ### Words on the wire -/

/-- The four bytes that `appendUint32` appends. -/
def uint32Bytes (value : UInt32) : Bytes :=
  [(value >>> 24 &&& 0xFF).toUInt8, (value >>> 16 &&& 0xFF).toUInt8,
    (value >>> 8 &&& 0xFF).toUInt8, (value &&& 0xFF).toUInt8]

def appendUint32 (out : Bytes) (value : UInt32) : Bytes := out ++ uint32Bytes value

/-- The word in the first four bytes of `data`; `none` past the end of the
data, where the C++ would read outside the buffer. -/
def readUint32 : Bytes → Option UInt32
  | b0 :: b1 :: b2 :: b3 :: _ =>
    some (b0.toUInt32 <<< 24 ||| b1.toUInt32 <<< 16 ||| b2.toUInt32 <<< 8 ||| b3.toUInt32)
  | _ => none

@[simp] theorem uint32Bytes_length (value : UInt32) : (uint32Bytes value).length = 4 := rfl

/-- A byte taken out of a number and put back in its place keeps its bits. -/
private theorem testBit_replaced (value k i : ℕ) (bounded : i < 32) :
    (((value >>> k &&& 255) % 2 ^ 8) <<< k % 2 ^ 32).testBit i =
      (decide (k ≤ i ∧ i < k + 8) && value.testBit i) := by
  have mask : value >>> k &&& 255 = value >>> k % 2 ^ 8 := Nat.and_two_pow_sub_one_eq_mod _ 8
  rw [mask, Nat.mod_mod, Nat.testBit_mod_two_pow, Nat.testBit_shiftLeft, Nat.testBit_mod_two_pow,
    Nat.testBit_shiftRight]
  by_cases above : k ≤ i
  · rw [Nat.add_sub_cancel' above]
    simp [bounded, above, show i - k < 8 ↔ i < k + 8 by omega]
  · simp [above]

/-- Reading undoes writing, whatever follows the word. -/
theorem readUint32_uint32Bytes (value : UInt32) (rest : Bytes) :
    readUint32 (uint32Bytes value ++ rest) = some value := by
  simp only [uint32Bytes, List.cons_append, List.nil_append, readUint32, Option.some.injEq]
  apply UInt32.toNat_inj.mp
  apply Nat.eq_of_testBit_eq
  intro i
  by_cases bounded : i < 32
  · have low := testBit_replaced value.toNat 0 i bounded
    rw [Nat.shiftRight_zero, Nat.shiftLeft_zero, Nat.mod_eq_of_lt (b := 2 ^ 32) (by omega)] at low
    simp only [UInt32.toNat_or, UInt32.toNat_shiftLeft, UInt8.toNat_toUInt32, UInt32.toNat_toUInt8,
      UInt32.toNat_and, UInt32.toNat_shiftRight, UInt32.reduceToNat, Nat.reduceMod, Nat.testBit_or,
      testBit_replaced _ _ i bounded, low]
    -- each bit is set by exactly one of the four bytes
    cases value.toNat.testBit i <;> grind
  · have wide : 2 ^ 32 ≤ 2 ^ i := Nat.pow_le_pow_right (by decide) (Nat.not_lt.mp bounded)
    rw [Nat.testBit_lt_two_pow (UInt32.toNat_lt _ |>.trans_le wide),
      Nat.testBit_lt_two_pow (UInt32.toNat_lt _ |>.trans_le wide)]

/-- A word is read from its four bytes alone. -/
theorem readUint32_append {bytes : Bytes} {value : UInt32} (read : readUint32 bytes = some value)
    (rest : Bytes) : readUint32 (bytes ++ rest) = some value := by
  match bytes with
  | [] | [_] | [_, _] | [_, _, _] => cases read
  | b0 :: b1 :: b2 :: b3 :: more => exact read

theorem readUint32_isSome {bytes : Bytes} (enough : 4 ≤ bytes.length) :
    ∃ value, readUint32 bytes = some value := by
  match bytes with
  | [] | [_] | [_, _] | [_, _, _] => simp at enough
  | b0 :: b1 :: b2 :: b3 :: more => exact ⟨_, rfl⟩

/-! ### Bytes pending on a connection -/

/-- The context slot of a connection: unset, a string, or something else. -/
inductive ConnContext
  | empty
  | string (pending : Bytes)
  | other
  deriving DecidableEq

/-- The pending bytes that `onMessage` finds, or puts there first. -/
def ConnContext.pending : ConnContext → Bytes
  | string pending => pending
  | empty => []
  | other => []

/-! ### Text without NUL -/

/-- A character of a C string: any byte but the terminator. -/
abbrev CChar := {byte : UInt8 // byte ≠ nul}

/-- The text of a C string. -/
abbrev CString := List CChar

/-- The bytes of a C string, without its terminator. -/
def CString.bytes (text : CString) : Bytes := text.map Subtype.val

/-- The characters of a literal; NUL has none. -/
def cString (literal : List Char) : CString :=
  literal.filterMap fun c => if h : c.toNat.toUInt8 ≠ nul then some ⟨c.toNat.toUInt8, h⟩ else none

/-- `to_string` of an integer. -/
def printInt : Int → CString
  | .ofNat n => cString (Nat.toDigits 10 n)
  | .negSucc n => cString ('-' :: Nat.toDigits 10 (n + 1))

/-- The digits at the front of a text, as a number. -/
def atoiDigits : Nat → CString → Nat
  | value, [] => value
  | value, c :: rest =>
    if 48 ≤ c.val.toNat ∧ c.val.toNat ≤ 57 then
      atoiDigits (10 * value + (c.val.toNat - 48)) rest
    else value

/-- `atoi` and `atoll`: blanks, an optional sign, then digits up to the first
other character. -/
def atoi (text : CString) : Int :=
  match text.dropWhile fun c => c.val = 32 ∨ (9 ≤ c.val ∧ c.val ≤ 13) with
  | [] => 0
  | c :: rest =>
    if c.val = 45 then -(atoiDigits 0 rest)
    else if c.val = 43 then atoiDigits 0 rest
    else atoiDigits 0 (c :: rest)

example : atoi (printInt (-6100)) = -6100 := by decide

/-! ### Byte strings as C strings -/

/-- `c_str()`, as C reads it: up to the first NUL. -/
def cStr (text : Bytes) : Bytes := text.takeWhile (· ≠ nul)

theorem cStr_of_notMem {text : Bytes} (noNul : nul ∉ text) : cStr text = text := by
  apply List.takeWhile_eq_self_iff.mpr
  intro c listed
  simpa using fun same : c = nul => noNul (same ▸ listed)

theorem nul_notMem_cStr (text : Bytes) : nul ∉ cStr text := by
  intro listed
  have listed : nul ∈ text.takeWhile fun c => decide (c ≠ nul) := listed
  have kept := List.mem_takeWhile_imp listed
  exact of_decide_eq_true kept rfl

/-- A byte string as the program gets it through a `char*`. -/
def column (text : Bytes) : CString :=
  (cStr text).filterMap fun c => if h : c ≠ nul then some ⟨c, h⟩ else none

theorem column_bytes (text : Bytes) : (column text).bytes = cStr text := by
  have whole (bytes : Bytes) (kept : ∀ c ∈ bytes, c ≠ nul) :
      CString.bytes (bytes.filterMap fun c => if h : c ≠ nul then some ⟨c, h⟩ else none) =
        bytes := by
    induction bytes with
    | nil => rfl
    | cons c rest ih =>
      have first := kept c (List.mem_cons_self ..)
      have later := ih fun c' listed => kept c' (List.mem_cons_of_mem _ listed)
      rw [List.filterMap_cons, dif_pos first]
      exact congrArg (c :: ·) later
  refine whole _ fun c listed same => ?_
  exact nul_notMem_cStr text (same ▸ listed)

end ClusterChat
