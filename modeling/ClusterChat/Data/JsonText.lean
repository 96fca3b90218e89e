/-
# A JSON writer and reader

The library is a parameter of the development; this module shows that what is
assumed of it can be met. Values are written as compact text in the order of
their members, with quotes, backslashes and control characters escaped, and read
back by a recursive-descent reader. Doubles are the one departure from real JSON
text: they are written by their bits, since no result depends on how a double
looks.
-/

import ClusterChat.Data.Json

namespace ClusterChat.JsonText

/-- The byte of an ASCII character. -/
abbrev ch (c : Char) : UInt8 := c.toUInt8

/-- What holds of the 256 bytes one by one holds of every byte. -/
theorem forall_byte (holds : UInt8 → Prop) (each : ∀ n < 256, holds (.ofNat n)) (byte : UInt8) :
    holds byte := by
  have one := each byte.toNat byte.toNat_lt
  rwa [UInt8.ofNat_toNat] at one

/-! ### Numbers -/

/-- The decimal digits of a number, most significant first. -/
def digits (n : ℕ) : Bytes := (Nat.toDigits 10 n).map Char.toUInt8

def isDigit (byte : UInt8) : Bool := 48 ≤ byte && byte ≤ 57

/-- Read digits onto a value, up to the first other byte. -/
def readDigits : ℕ → Bytes → ℕ × Bytes
  | value, [] => (value, [])
  | value, byte :: rest =>
    if isDigit byte then readDigits (10 * value + (byte.toNat - 48)) rest else (value, byte :: rest)

/-- The next byte, if there is one, is no digit. -/
def NoDigit (rest : Bytes) : Prop := ∀ byte ∈ rest.head?, isDigit byte = false

theorem noDigit_nil : NoDigit [] := by
  intro byte first
  cases first

theorem readDigits_noDigit (value : ℕ) {rest : Bytes} (stop : NoDigit rest) :
    readDigits value rest = (value, rest) := by
  cases rest with
  | nil => rfl
  | cons byte rest =>
    have stopped := stop byte rfl
    simp [readDigits, stopped]

/-- A digit character and its byte. -/
theorem isDigit_toUInt8 {c : Char} (digit : c.isDigit = true) :
    isDigit c.toUInt8 = true ∧ c.toUInt8.toNat = c.toNat := by
  have bounds : 48 ≤ c.toNat ∧ c.toNat ≤ 57 := by
    simpa [Char.isDigit, UInt32.le_iff_toNat_le] using digit
  have same : c.toUInt8.toNat = c.toNat := by
    rw [Char.toUInt8, UInt32.toNat_toUInt8]
    exact Nat.mod_eq_of_lt (lt_of_le_of_lt bounds.2 (by decide))
  refine ⟨?_, same⟩
  simp only [isDigit, Bool.and_eq_true, decide_eq_true_eq, UInt8.le_iff_toNat_le, same]
  exact bounds

theorem readDigits_append (chars : List Char) (all : ∀ c ∈ chars, c.isDigit = true)
    (value : ℕ) {rest : Bytes} (stop : NoDigit rest) :
    readDigits value (chars.map Char.toUInt8 ++ rest) =
      (Nat.ofDigitChars 10 chars value, rest) := by
  induction chars generalizing value with
  | nil => exact readDigits_noDigit value stop
  | cons c chars ih =>
    rw [List.forall_mem_cons] at all
    obtain ⟨digit, same⟩ := isDigit_toUInt8 all.1
    rw [List.map_cons, List.cons_append, readDigits, if_pos digit, ih all.2, same]
    rfl

theorem isDigit_of_mem_toDigits {n : ℕ} {c : Char} (listed : c ∈ Nat.toDigits 10 n) :
    c.isDigit = true :=
  Nat.isDigit_of_mem_toDigits (by decide) (by decide) listed

/-- The digits of a number read back to it. -/
theorem readDigits_digits (n : ℕ) {rest : Bytes} (stop : NoDigit rest) :
    readDigits 0 (digits n ++ rest) = (n, rest) := by
  rw [digits, readDigits_append _ (fun _ => isDigit_of_mem_toDigits) 0 stop,
    Nat.ofDigitChars_ten_toDigits]

/-- The text of a number starts with a digit. -/
theorem digits_eq_cons (n : ℕ) : ∃ byte rest, digits n = byte :: rest ∧ isDigit byte = true := by
  cases shape : Nat.toDigits 10 n with
  | nil => exact absurd shape Nat.toDigits_ne_nil
  | cons c chars =>
    refine ⟨c.toUInt8, chars.map Char.toUInt8, by rw [digits, shape, List.map_cons], ?_⟩
    exact (isDigit_toUInt8 (isDigit_of_mem_toDigits (n := n) (by simp [shape]))).1

/-- The text of a number holds its digits. -/
theorem bytes_digits (n : ℕ) : (cString (Nat.toDigits 10 n)).bytes = digits n := by
  have each : ∀ chars : List Char, (∀ c ∈ chars, c.isDigit = true) →
      (cString chars).bytes = chars.map Char.toUInt8 := by
    intro chars all
    induction chars with
    | nil => rfl
    | cons c chars ih =>
      rw [List.forall_mem_cons] at all
      have digit := (isDigit_toUInt8 all.1).1
      have same : c.toNat.toUInt8 = c.toUInt8 := rfl
      have noNul : c.toNat.toUInt8 ≠ nul := by
        rw [same]
        intro zero
        rw [zero] at digit
        cases digit
      simp only [cString, List.filterMap_cons, dif_pos noNul, CString.bytes, List.map_cons]
      exact congrArg₂ List.cons same (ih all.2)
  exact each _ fun _ => isDigit_of_mem_toDigits

/-- A run of digits, or a minus sign before one, as an integer; an exponent
marks the bits of a double. -/
def readNumber (input : Bytes) : Option (Json × Bytes) :=
  match input with
  | [] => none
  | byte :: rest =>
    if byte = ch '-' then
      some (.int (-(readDigits 0 rest).1), (readDigits 0 rest).2)
    else if isDigit byte then
      match readDigits 0 input with
      | (value, mark :: bits) =>
        if mark = ch 'e' then
          if finite : UInt64.ofNat (readDigits 0 bits).1 >>> 52 &&& 0x7FF ≠ 0x7FF then
            some (.float ⟨.ofNat (readDigits 0 bits).1, finite⟩, (readDigits 0 bits).2)
          else none
        else some (.int value, mark :: bits)
      | (value, []) => some (.int value, [])
    else none

/-! ### Strings -/

/-- The letter of a two-character escape. -/
def shortEscape (byte : UInt8) : Option UInt8 :=
  [(ch '"', ch '"'), (ch '\\', ch '\\'), (8, ch 'b'), (9, ch 't'), (10, ch 'n'), (12, ch 'f'),
    (13, ch 'r')].lookup byte

def shortUnescape (letter : UInt8) : Option UInt8 :=
  [(ch '"', ch '"'), (ch '\\', ch '\\'), (ch 'b', 8), (ch 't', 9), (ch 'n', 10), (ch 'f', 12),
    (ch 'r', 13)].lookup letter

def hexDigit (n : UInt8) : UInt8 := if n < 10 then 48 + n else 87 + n

def unhex (digit : UInt8) : UInt8 := if digit < 58 then digit - 48 else digit - 87

/-- A byte of a string as it is written between the quotes. -/
def escape (byte : UInt8) : Bytes :=
  match shortEscape byte with
  | some letter => [ch '\\', letter]
  | none =>
    if byte < 32 then
      [ch '\\', ch 'u', ch '0', ch '0', hexDigit (byte >>> 4), hexDigit (byte &&& 15)]
    else [byte]

/-- Put a byte in front of a string that was read. -/
def ontoRead (byte : UInt8) (read : Bytes × Bytes) : Bytes × Bytes := (byte :: read.1, read.2)

/-- Read the inside of a string up to its closing quote. -/
def readChars : Bytes → Option (Bytes × Bytes)
  | [] => none
  | c :: rest =>
    if c = ch '"' then some ([], rest)
    else if c = ch '\\' then
      match rest with
      | [] => none
      | letter :: rest =>
        if letter = ch 'u' then
          match rest with
          | _ :: _ :: high :: low :: rest =>
            (readChars rest).map (ontoRead (unhex high <<< 4 ||| unhex low))
          | _ => none
        else
          match shortUnescape letter with
          | none => none
          | some byte => (readChars rest).map (ontoRead byte)
    else (readChars rest).map (ontoRead c)

theorem readChars_short {letter byte : UInt8} (plain : letter ≠ ch 'u')
    (back : shortUnescape letter = some byte) (rest : Bytes) :
    readChars (ch '\\' :: letter :: rest) = (readChars rest).map (ontoRead byte) := by
  rw [readChars.eq_def]
  simp only [if_neg (show ch '\\' ≠ ch '"' by decide), if_neg plain, back, if_true]

theorem readChars_unicode (zero zero' high low : UInt8) (rest : Bytes) :
    readChars (ch '\\' :: ch 'u' :: zero :: zero' :: high :: low :: rest) =
      (readChars rest).map (ontoRead (unhex high <<< 4 ||| unhex low)) := by
  rw [readChars.eq_def]
  simp only [if_neg (show ch '\\' ≠ ch '"' by decide), if_true]

theorem readChars_plain {byte : UInt8} (noQuote : byte ≠ ch '"') (noBackslash : byte ≠ ch '\\')
    (rest : Bytes) : readChars (byte :: rest) = (readChars rest).map (ontoRead byte) := by
  rw [readChars.eq_def]
  simp only [if_neg noQuote, if_neg noBackslash]

/-- A row of the table of escapes, as a test. -/
def escapeRow (byte : UInt8) : Bool :=
  match shortEscape byte with
  | some letter => letter ≠ ch 'u' && shortUnescape letter = some byte
  | none =>
    byte ≠ ch '"' && byte ≠ ch '\\' &&
      (!(byte < 32) ||
        unhex (hexDigit (byte >>> 4)) <<< 4 ||| unhex (hexDigit (byte &&& 15)) = byte)

theorem escapeRow_eq_true (byte : UInt8) : escapeRow byte = true :=
  forall_byte (fun byte => escapeRow byte = true) (by decide +kernel) byte

/-- Each byte reads back from the way it is written. -/
theorem readChars_escape (byte : UInt8) (rest : Bytes) :
    readChars (escape byte ++ rest) = (readChars rest).map (ontoRead byte) := by
  have row := escapeRow_eq_true byte
  unfold escapeRow at row
  unfold escape
  cases short : shortEscape byte with
  | some letter =>
    simp only [short, Bool.and_eq_true, decide_eq_true_eq] at row
    exact readChars_short row.1 row.2 rest
  | none =>
    simp only [short, Bool.and_eq_true, Bool.or_eq_true, Bool.not_eq_true', decide_eq_true_eq,
      decide_eq_false_iff_not] at row
    obtain ⟨⟨noQuote, noBackslash⟩, back⟩ := row
    by_cases control : byte < 32
    · have same := back.resolve_left (not_not.mpr control)
      rw [if_pos control]
      simp only [List.cons_append, List.nil_append]
      rw [readChars_unicode, same]
    · rw [if_neg control]
      exact readChars_plain noQuote noBackslash rest

/-- The inside of a string, and its closing quote. -/
def quoted (bytes : Bytes) : Bytes := bytes.flatMap escape ++ [ch '"']

theorem readChars_quoted (bytes rest : Bytes) :
    readChars (quoted bytes ++ rest) = some (bytes, rest) := by
  induction bytes with
  | nil =>
    rw [readChars.eq_def]
    simp [quoted]
  | cons byte bytes ih =>
    rw [quoted, List.flatMap_cons, List.append_assoc, List.append_assoc, readChars_escape,
      ← List.append_assoc]
    exact congrArg (Option.map _) ih

/-- The bytes of a key, and the key they spell. -/
def keyBytes (key : String) : Bytes := key.toByteArray.data.toList

def readKey (bytes : Bytes) : Option String := String.fromUTF8? ⟨bytes.toArray⟩

theorem readKey_keyBytes (key : String) : readKey (keyBytes key) = some key := by
  have same : (⟨(keyBytes key).toArray⟩ : ByteArray) = key.toByteArray := by
    simp [keyBytes]
  rw [readKey, same, String.fromUTF8?, dif_pos key.isValidUTF8]
  rfl

/-! ### Values -/

/-- The bytes of an ASCII word. -/
def word (chars : String) : Bytes := chars.toList.map ch

mutual

/-- A value as text. -/
def text : Json → Bytes
  | .null => word "null"
  | .bool true => word "true"
  | .bool false => word "false"
  | .int (.ofNat n) => digits n
  | .int (.negSucc n) => ch '-' :: digits (n + 1)
  | .float value => ch '1' :: ch 'e' :: digits value.val.toNat
  | .str value => ch '"' :: quoted value
  | .arr [] => [ch '[', ch ']']
  | .arr (item :: items) => ch '[' :: (text item ++ textItems items)
  | .obj [] => [ch '{', ch '}']
  | .obj ((key, value) :: members) =>
    ch '{' :: ch '"' :: (quoted (keyBytes key) ++ ch ':' :: (text value ++ textMembers members))

/-- The items of an array after the first. -/
def textItems : List Json → Bytes
  | [] => [ch ']']
  | item :: items => ch ',' :: (text item ++ textItems items)

/-- The members of an object after the first. -/
def textMembers : List (String × Json) → Bytes
  | [] => [ch '}']
  | (key, value) :: members =>
    ch ',' :: ch '"' :: (quoted (keyBytes key) ++ ch ':' :: (text value ++ textMembers members))

end

/-- Read a word that stands for a value. -/
def readWord (chars : String) (value : Json) (input : Bytes) : Option (Json × Bytes) :=
  if (word chars).isPrefixOf input then some (value, input.drop (word chars).length) else none

/-- Read a key and its colon, behind the opening quote. -/
def readName (input : Bytes) : Option (String × Bytes) :=
  match readChars input with
  | some (name, colon :: rest) =>
    if colon = ch ':' then (readKey name).map fun key => (key, rest) else none
  | _ => none

mutual

/-- Read one value; the fuel bounds the length of its text. -/
def readValue : ℕ → Bytes → Option (Json × Bytes)
  | fuel + 1, byte :: rest =>
    if byte = ch 'n' then readWord "null" .null (byte :: rest)
    else if byte = ch 't' then readWord "true" (.bool true) (byte :: rest)
    else if byte = ch 'f' then readWord "false" (.bool false) (byte :: rest)
    else if byte = ch '"' then (readChars rest).map fun read => (.str read.1, read.2)
    else if byte = ch '[' then
      if rest.head? = some (ch ']') then some (.arr [], rest.tail)
      else
        (readValue fuel rest).bind fun (item, rest) =>
          (readItems fuel rest).map fun (items, rest) => (.arr (item :: items), rest)
    else if byte = ch '{' then
      if rest.head? = some (ch '}') then some (.obj [], rest.tail)
      else
        (readMember fuel rest).bind fun (member, rest) =>
          (readMembers fuel rest).map fun (members, rest) => (.obj (member :: members), rest)
    else readNumber (byte :: rest)
  | _, _ => none

def readItems : ℕ → Bytes → Option (List Json × Bytes)
  | fuel + 1, byte :: rest =>
    if byte = ch ']' then some ([], rest)
    else if byte = ch ',' then
      (readValue fuel rest).bind fun (item, rest) =>
        (readItems fuel rest).map fun (items, rest) => (item :: items, rest)
    else none
  | _, _ => none

def readMember : ℕ → Bytes → Option ((String × Json) × Bytes)
  | fuel + 1, byte :: rest =>
    if byte = ch '"' then
      (readName rest).bind fun (key, rest) =>
        (readValue fuel rest).map fun (value, rest) => ((key, value), rest)
    else none
  | _, _ => none

def readMembers : ℕ → Bytes → Option (List (String × Json) × Bytes)
  | fuel + 1, byte :: rest =>
    if byte = ch '}' then some ([], rest)
    else if byte = ch ',' then
      (readMember fuel rest).bind fun (member, rest) =>
        (readMembers fuel rest).map fun (members, rest) => (member :: members, rest)
    else none
  | _, _ => none

end

/-! ### Reading back -/

/-- A number ends where neither a digit nor an exponent follows. -/
def Stops (rest : Bytes) : Prop := ∀ byte ∈ rest.head?, isDigit byte = false ∧ byte ≠ ch 'e'

theorem Stops.noDigit {rest : Bytes} (stop : Stops rest) : NoDigit rest :=
  fun byte first => (stop byte first).1

theorem stops_nil : Stops [] := fun _ first => by cases first

theorem stops_textItems (items : List Json) (rest : Bytes) : Stops (textItems items ++ rest) := by
  cases items <;> simp [textItems, Stops, isDigit] <;> decide

theorem stops_textMembers (members : List (String × Json)) (rest : Bytes) :
    Stops (textMembers members ++ rest) := by
  rcases members with _ | ⟨⟨key, value⟩, members⟩ <;> simp [textMembers, Stops, isDigit] <;> decide

/-- A value reads back from its text, whatever stops it. -/
def ReadsBack (js : Json) : Prop :=
  ∀ {fuel : ℕ} {rest : Bytes}, (text js).length ≤ fuel → Stops rest →
    readValue fuel (text js ++ rest) = some (js, rest)

/-- Numbers are read where a digit or a minus sign stands. -/
theorem readValue_number {fuel : ℕ} {byte : UInt8} (first : byte = ch '-' ∨ isDigit byte = true)
    (rest : Bytes) : readValue (fuel + 1) (byte :: rest) = readNumber (byte :: rest) := by
  have others : byte ≠ ch 'n' ∧ byte ≠ ch 't' ∧ byte ≠ ch 'f' ∧ byte ≠ ch '"' ∧ byte ≠ ch '[' ∧
      byte ≠ ch '{' := by
    refine ⟨?_, ?_, ?_, ?_, ?_, ?_⟩ <;> rintro rfl <;> revert first <;> decide
  rw [readValue]
  simp only [others, if_false]

theorem readNumber_digits (n : ℕ) {rest : Bytes} (stop : Stops rest) :
    readNumber (digits n ++ rest) = some (.int n, rest) := by
  obtain ⟨byte, more, form, digit⟩ := digits_eq_cons n
  have read := readDigits_digits n stop.noDigit
  have noMinus : byte ≠ ch '-' := by
    rintro rfl
    exact absurd digit (by decide)
  rw [form, List.cons_append] at read ⊢
  simp only [readNumber, if_neg noMinus, if_pos digit, read]
  cases rest with
  | nil => rfl
  | cons mark rest => simp only [if_neg (stop mark rfl).2]

theorem readNumber_float (value : Double) {rest : Bytes} (stop : Stops rest) :
    readNumber (ch '1' :: ch 'e' :: (digits value.val.toNat ++ rest)) =
      some (.float value, rest) := by
  have one : readDigits 0 (ch '1' :: ch 'e' :: (digits value.val.toNat ++ rest)) =
      (1, ch 'e' :: (digits value.val.toNat ++ rest)) := rfl
  simp only [readNumber, if_neg (show ch '1' ≠ ch '-' by decide),
    if_pos (show isDigit (ch '1') = true by decide), one, if_true,
    readDigits_digits _ stop.noDigit, UInt64.ofNat_toNat]
  rw [dif_pos value.property]

/-- The text of a value is not empty, and does not start like the end of an array. -/
theorem text_eq_cons (js : Json) : ∃ byte rest, text js = byte :: rest ∧ byte ≠ ch ']' := by
  cases js with
  | int value =>
    cases value with
    | ofNat n =>
      obtain ⟨byte, rest, form, digit⟩ := digits_eq_cons n
      refine ⟨byte, rest, by rw [text, form], ?_⟩
      rintro rfl
      exact absurd digit (by decide)
    | negSucc n => exact ⟨_, _, by rw [text], by decide⟩
  | null => exact ⟨_, _, by rw [text]; rfl, by decide⟩
  | bool value => cases value <;> exact ⟨_, _, by rw [text]; rfl, by decide⟩
  | float value => exact ⟨_, _, by rw [text], by decide⟩
  | str value => exact ⟨_, _, by rw [text], by decide⟩
  | arr items => cases items <;> exact ⟨_, _, by rw [text], by decide⟩
  | obj members =>
    rcases members with _ | ⟨⟨key, value⟩, members⟩ <;> exact ⟨_, _, by rw [text], by decide⟩

theorem readItems_textItems {items : List Json} (each : ∀ item ∈ items, ReadsBack item)
    {fuel : ℕ} {rest : Bytes} (enough : (textItems items).length ≤ fuel) :
    readItems fuel (textItems items ++ rest) = some (items, rest) := by
  induction items generalizing fuel with
  | nil =>
    obtain ⟨fuel, rfl⟩ : ∃ less, fuel = less + 1 :=
      ⟨fuel - 1, by simp [textItems] at enough; omega⟩
    simp [textItems, readItems]
  | cons item items ih =>
    rw [List.forall_mem_cons] at each
    simp only [textItems, List.length_cons, List.length_append] at enough
    obtain ⟨fuel, rfl⟩ : ∃ less, fuel = less + 1 := ⟨fuel - 1, by omega⟩
    simp only [textItems, List.cons_append, List.append_assoc, readItems]
    rw [each.1 (by omega) (stops_textItems items rest)]
    simp only [Option.bind_some, ih each.2 (show (textItems items).length ≤ fuel by omega)]
    rfl

theorem readName_quoted (key : String) (rest : Bytes) :
    readName (quoted (keyBytes key) ++ ch ':' :: rest) = some (key, rest) := by
  rw [readName, readChars_quoted]
  simp [readKey_keyBytes]

theorem readMember_text {key : String} {value : Json} (back : ReadsBack value) {fuel : ℕ}
    {rest : Bytes} (enough : (text value).length < fuel) (stop : Stops rest) :
    readMember fuel (ch '"' :: (quoted (keyBytes key) ++ ch ':' :: (text value ++ rest))) =
      some ((key, value), rest) := by
  obtain ⟨fuel, rfl⟩ : ∃ less, fuel = less + 1 := ⟨fuel - 1, by omega⟩
  rw [readMember, if_pos rfl, readName_quoted]
  simp only [Option.bind_some, back (show (text value).length ≤ fuel by omega) stop]
  rfl

theorem readMembers_textMembers {members : List (String × Json)}
    (each : ∀ member ∈ members, ReadsBack member.2) {fuel : ℕ} {rest : Bytes}
    (enough : (textMembers members).length ≤ fuel) :
    readMembers fuel (textMembers members ++ rest) = some (members, rest) := by
  induction members generalizing fuel with
  | nil =>
    obtain ⟨fuel, rfl⟩ : ∃ less, fuel = less + 1 :=
      ⟨fuel - 1, by simp [textMembers] at enough; omega⟩
    simp [textMembers, readMembers]
  | cons member members ih =>
    obtain ⟨key, value⟩ := member
    rw [List.forall_mem_cons] at each
    simp only [textMembers, List.length_cons, List.length_append] at enough
    obtain ⟨fuel, rfl⟩ : ∃ less, fuel = less + 1 := ⟨fuel - 1, by omega⟩
    simp only [textMembers, List.cons_append, List.append_assoc, readMembers]
    rw [if_neg (by decide), if_pos trivial,
      readMember_text each.1 (show (text value).length < fuel by omega)
        (stops_textMembers members rest)]
    simp only [Option.bind_some, ih each.2 (show (textMembers members).length ≤ fuel by omega)]
    rfl

theorem readWord_word (chars : String) (value : Json) (rest : Bytes) :
    readWord chars value (word chars ++ rest) = some (value, rest) := by
  have front : (word chars).isPrefixOf (word chars ++ rest) = true := by simp
  rw [readWord, if_pos front, List.drop_left]

theorem readsBack_arr {items : List Json} (each : ∀ item ∈ items, ReadsBack item) :
    ReadsBack (.arr items) := by
  intro fuel rest enough stop
  cases items with
  | nil =>
    obtain ⟨fuel, rfl⟩ : ∃ less, fuel = less + 1 := ⟨fuel - 1, by simp [text] at enough; omega⟩
    rfl
  | cons item items =>
    rw [List.forall_mem_cons] at each
    simp only [text, List.length_cons, List.length_append] at enough
    obtain ⟨fuel, rfl⟩ : ∃ less, fuel = less + 1 := ⟨fuel - 1, by omega⟩
    obtain ⟨byte, more, form, other⟩ := text_eq_cons item
    have first : (text item ++ (textItems items ++ rest)).head? ≠ some (ch ']') := by
      rw [form]
      simpa using other
    simp only [text, List.cons_append, List.append_assoc, readValue]
    simp only [if_neg first, each.1 (show (text item).length ≤ fuel by omega)
      (stops_textItems items rest), Option.bind_some,
      readItems_textItems each.2 (show (textItems items).length ≤ fuel by omega)]
    rfl

theorem readsBack_obj {members : List (String × Json)}
    (each : ∀ member ∈ members, ReadsBack member.2) : ReadsBack (.obj members) := by
  intro fuel rest enough stop
  rcases members with _ | ⟨⟨key, value⟩, members⟩
  · obtain ⟨fuel, rfl⟩ : ∃ less, fuel = less + 1 := ⟨fuel - 1, by simp [text] at enough; omega⟩
    rfl
  · rw [List.forall_mem_cons] at each
    simp only [text, List.length_cons, List.length_append] at enough
    obtain ⟨fuel, rfl⟩ : ∃ less, fuel = less + 1 := ⟨fuel - 1, by omega⟩
    simp only [text, List.cons_append, List.append_assoc, readValue]
    rw [readMember_text each.1 (show (text value).length < fuel by omega)
      (stops_textMembers members rest)]
    simp only [Option.bind_some,
      readMembers_textMembers each.2 (show (textMembers members).length ≤ fuel by omega)]
    rfl

/-- **Every value reads back from its text.** -/
theorem readsBack {js : Json} (wellFormed : js.WellFormed) : ReadsBack js := by
  induction wellFormed with
  | arr each ih => exact readsBack_arr ih
  | obj ordered each ih => exact readsBack_obj ih
  | null =>
    intro fuel rest enough stop
    obtain ⟨fuel, rfl⟩ : ∃ less, fuel = less + 1 :=
      ⟨fuel - 1, by simp [text, word] at enough; omega⟩
    exact readWord_word "null" .null rest
  | bool value =>
    intro fuel rest enough stop
    obtain ⟨fuel, rfl⟩ : ∃ less, fuel = less + 1 :=
      ⟨fuel - 1, by cases value <;> simp [text, word] at enough <;> omega⟩
    cases value with
    | false => exact readWord_word "false" (.bool false) rest
    | true => exact readWord_word "true" (.bool true) rest
  | str valid =>
    intro fuel rest enough stop
    obtain ⟨fuel, rfl⟩ : ∃ less, fuel = less + 1 := ⟨fuel - 1, by simp [text] at enough; omega⟩
    rw [text, List.cons_append, readValue, if_neg (by decide), if_neg (by decide),
      if_neg (by decide), if_pos rfl, readChars_quoted]
    rfl
  | float value =>
    intro fuel rest enough stop
    obtain ⟨fuel, rfl⟩ : ∃ less, fuel = less + 1 := ⟨fuel - 1, by simp [text] at enough; omega⟩
    rw [text, List.cons_append, List.cons_append, readValue_number (.inr (by decide)),
      readNumber_float value stop]
  | @int value low high =>
    intro fuel rest enough stop
    cases value with
    | ofNat n =>
      obtain ⟨byte, more, form, digit⟩ := digits_eq_cons n
      rw [text] at enough ⊢
      obtain ⟨fuel, rfl⟩ : ∃ less, fuel = less + 1 := ⟨fuel - 1, by simp [form] at enough; omega⟩
      have read := readNumber_digits n stop
      rw [form, List.cons_append] at read ⊢
      rw [readValue_number (.inr digit), read]
      rfl
    | negSucc n =>
      rw [text] at enough ⊢
      obtain ⟨fuel, rfl⟩ : ∃ less, fuel = less + 1 := ⟨fuel - 1, by simp at enough; omega⟩
      rw [List.cons_append, readValue_number (.inl rfl), readNumber, if_pos rfl,
        readDigits_digits _ stop.noDigit]
      rfl

/-! ### The text has no NUL -/

theorem nul_notMem_digits (n : ℕ) : nul ∉ digits n := by
  intro listed
  obtain ⟨c, member, same⟩ := List.mem_map.mp listed
  have digit := (isDigit_toUInt8 (isDigit_of_mem_toDigits member)).1
  rw [same] at digit
  exact absurd digit (by decide)

theorem nul_notMem_escape (byte : UInt8) : nul ∉ escape byte :=
  forall_byte (fun byte => nul ∉ escape byte) (by decide +kernel) byte

theorem nul_notMem_quoted (bytes : Bytes) : nul ∉ quoted bytes := by
  simp [quoted, nul_notMem_escape]
  decide

theorem nul_notMem_textItems {items : List Json} (each : ∀ item ∈ items, nul ∉ text item) :
    nul ∉ textItems items := by
  induction items with
  | nil => decide
  | cons item items ih =>
    rw [List.forall_mem_cons] at each
    simp only [textItems, List.mem_cons, List.mem_append, not_or]
    exact ⟨by decide, each.1, ih each.2⟩

theorem nul_notMem_textMembers {members : List (String × Json)}
    (each : ∀ member ∈ members, nul ∉ text member.2) : nul ∉ textMembers members := by
  induction members with
  | nil => decide
  | cons member members ih =>
    rw [List.forall_mem_cons] at each
    simp only [textMembers, List.mem_cons, List.mem_append, not_or]
    exact ⟨by decide, by decide, nul_notMem_quoted _, by decide, each.1, ih each.2⟩

theorem nul_notMem_text {js : Json} (wellFormed : js.WellFormed) : nul ∉ text js := by
  induction wellFormed with
  | null => decide
  | bool value => cases value <;> decide
  | @int value low high =>
    cases value with
    | ofNat n => exact nul_notMem_digits n
    | negSucc n =>
      simp only [text, List.mem_cons, not_or]
      exact ⟨by decide, nul_notMem_digits _⟩
  | float value =>
    simp only [text, List.mem_cons, not_or]
    exact ⟨by decide, by decide, nul_notMem_digits _⟩
  | str valid =>
    simp only [text, List.mem_cons, not_or]
    exact ⟨by decide, nul_notMem_quoted _⟩
  | @arr items each ih =>
    cases items with
    | nil => decide
    | cons item items =>
      rw [List.forall_mem_cons] at ih
      simp only [text, List.mem_cons, List.mem_append, not_or]
      exact ⟨by decide, ih.1, nul_notMem_textItems ih.2⟩
  | @obj members ordered each ih =>
    rcases members with _ | ⟨⟨key, value⟩, members⟩
    · decide
    · rw [List.forall_mem_cons] at ih
      simp only [text, List.mem_cons, List.mem_append, not_or]
      exact ⟨by decide, by decide, nul_notMem_quoted _, by decide, ih.1,
        nul_notMem_textMembers ih.2⟩

/-- The whole text must be one value. -/
def parse (input : Bytes) : Except JsonException Json :=
  match readValue input.length input with
  | some (js, []) => .ok js
  | _ => .error .parseError

theorem parse_text {js : Json} (wellFormed : js.WellFormed) : parse (text js) = .ok js := by
  have back := readsBack wellFormed (le_refl (text js).length) stops_nil
  rw [List.append_nil] at back
  rw [parse, back]

/-- **The assumptions on the JSON library can be met.** -/
def library : JsonLibrary where
  parse := parse
  dump js := .ok (text js)
  dump_ok wellFormed := ⟨_, rfl, nul_notMem_text wellFormed, parse_text wellFormed⟩
  dump_object := by
    intro members text dumped
    obtain rfl := Except.ok.inj dumped
    rcases members with _ | ⟨⟨key, value⟩, members⟩ <;> rfl

end ClusterChat.JsonText
