/-
# The grammar of JSON text

What is valid JSON text, as a relation on bytes: values, strings with their escapes,
numbers, arrays and objects, with blanks wherever the grammar allows them. Strings may
hold any bytes but quotes, backslashes and control characters; whether they are valid
UTF-8 makes no difference here.
-/

import ClusterChat.Data.Bytes

namespace ClusterChat.JsonGrammar

/-- The byte of an ASCII character. -/
abbrev byte (c : Char) : UInt8 := c.toUInt8

/-- The bytes of an ASCII word. -/
abbrev letters (word : String) : Bytes := word.toList.map byte

/-- The blanks that may stand between the parts of a text. -/
def IsBlanks (text : Bytes) : Prop := ∀ c ∈ text, c ∈ letters " \t\n\r"

/-- At least one digit. -/
def IsDigits (text : Bytes) : Prop := text ≠ [] ∧ ∀ c ∈ text, c ∈ letters "0123456789"

/-- A number: a sign, digits without leading zeros, a fraction and an exponent. -/
structure IsNumber (text : Bytes) : Prop where
  parts : ∃ sign whole fraction exponent, text = sign ++ whole ++ fraction ++ exponent ∧
    (sign = [] ∨ sign = letters "-") ∧
    IsDigits whole ∧ (whole.head? = some (byte '0') → whole.length = 1) ∧
    (fraction = [] ∨ ∃ digits, fraction = byte '.' :: digits ∧ IsDigits digits) ∧
    (exponent = [] ∨ ∃ letter plus digits, exponent = letter :: (plus ++ digits) ∧
      letter ∈ letters "eE" ∧ (plus = [] ∨ plus = letters "+" ∨ plus = letters "-") ∧
      IsDigits digits)

/-- The bytes that a number is made of. -/
abbrev numberBytes : Bytes := letters "0123456789+-.eE"

theorem IsNumber.bytes {text : Bytes} (number : IsNumber text) : ∀ c ∈ text, c ∈ numberBytes := by
  obtain ⟨sign, whole, fraction, exponent, rfl, signed, digits, -, fractional, exponential⟩ :=
    number.parts
  have digit {part : Bytes} (all : IsDigits part) : ∀ c ∈ part, c ∈ numberBytes := by
    intro c listed
    exact List.mem_append_left (letters "+-.eE") (all.2 c listed)
  have minus : ∀ c ∈ letters "-", c ∈ numberBytes := List.forall_mem_singleton.mpr (by decide)
  have plus : ∀ c ∈ letters "+", c ∈ numberBytes := List.forall_mem_singleton.mpr (by decide)
  have front : ∀ c ∈ sign, c ∈ numberBytes := by
    rcases signed with rfl | rfl
    · exact List.forall_mem_nil _
    · exact minus
  have middle : ∀ c ∈ fraction, c ∈ numberBytes := by
    rcases fractional with rfl | ⟨digits, rfl, all⟩
    · exact List.forall_mem_nil _
    · exact List.forall_mem_cons.mpr ⟨by decide, digit all⟩
  have back : ∀ c ∈ exponent, c ∈ numberBytes := by
    rcases exponential with rfl | ⟨letter, sign, digits, rfl, known, signed, all⟩
    · exact List.forall_mem_nil _
    · refine List.forall_mem_cons.mpr ⟨?_, List.forall_mem_append.mpr ⟨?_, digit all⟩⟩
      · exact List.mem_append_right (letters "0123456789+-.") known
      · rcases signed with rfl | rfl | rfl
        · exact List.forall_mem_nil _
        · exact plus
        · exact minus
  intro c listed
  rw [List.mem_append, List.mem_append, List.mem_append] at listed
  rcases listed with ((first | second) | third) | fourth
  · exact front c first
  · exact digit digits c second
  · exact middle c third
  · exact back c fourth

/-- The inside of a string. -/
inductive IsChars : Bytes → Prop
  | nil : IsChars []
  | plain {c : UInt8} {rest : Bytes} (printable : 32 ≤ c) (noQuote : c ≠ byte '"')
      (noBackslash : c ≠ byte '\\') (chars : IsChars rest) : IsChars (c :: rest)
  | escape {letter : UInt8} {rest : Bytes} (known : letter ∈ letters "\"\\/bfnrt")
      (chars : IsChars rest) : IsChars (byte '\\' :: letter :: rest)
  | unicode {digits rest : Bytes} (four : digits.length = 4)
      (hex : ∀ digit ∈ digits, digit ∈ letters "0123456789abcdefABCDEF") (chars : IsChars rest) :
      IsChars (byte '\\' :: byte 'u' :: (digits ++ rest))

/-- A string with its quotes. -/
def IsString (text : Bytes) : Prop :=
  ∃ chars, text = byte '"' :: (chars ++ [byte '"']) ∧ IsChars chars

/-- The recursive parts of the grammar. An element is a value with the blanks around it. -/
inductive Part
  | value
  | element
  | elements
  | member
  | members

/-- The texts of a part. -/
inductive IsPart : Part → Bytes → Prop
  | word {text : Bytes}
      (known : text = letters "null" ∨ text = letters "true" ∨ text = letters "false") :
      IsPart .value text
  | number {text : Bytes} (digits : IsNumber text) : IsPart .value text
  | string {text : Bytes} (quoted : IsString text) : IsPart .value text
  | emptyArray {blanks : Bytes} (blank : IsBlanks blanks) :
      IsPart .value (byte '[' :: (blanks ++ [byte ']']))
  | array {inside : Bytes} (elements : IsPart .elements inside) :
      IsPart .value (byte '[' :: (inside ++ [byte ']']))
  | emptyObject {blanks : Bytes} (blank : IsBlanks blanks) :
      IsPart .value (byte '{' :: (blanks ++ [byte '}']))
  | object {inside : Bytes} (members : IsPart .members inside) :
      IsPart .value (byte '{' :: (inside ++ [byte '}']))
  | element {before text after : Bytes} (front : IsBlanks before) (value : IsPart .value text)
      (back : IsBlanks after) : IsPart .element (before ++ text ++ after)
  | lastElement {text : Bytes} (element : IsPart .element text) : IsPart .elements text
  | moreElements {text rest : Bytes} (element : IsPart .element text)
      (elements : IsPart .elements rest) : IsPart .elements (text ++ byte ',' :: rest)
  | member {before name after text : Bytes} (front : IsBlanks before) (quoted : IsString name)
      (back : IsBlanks after) (element : IsPart .element text) :
      IsPart .member (before ++ name ++ after ++ byte ':' :: text)
  | lastMember {text : Bytes} (member : IsPart .member text) : IsPart .members text
  | moreMembers {text rest : Bytes} (member : IsPart .member text)
      (members : IsPart .members rest) : IsPart .members (text ++ byte ',' :: rest)

/-- The text of an object, without blanks around it. -/
def IsObject (text : Bytes) : Prop :=
  ∃ inside, text = byte '{' :: (inside ++ [byte '}']) ∧
    (IsBlanks inside ∨ IsPart .members inside)

end ClusterChat.JsonGrammar
