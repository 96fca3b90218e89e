/-
# The text of stored messages

A message for an absent user is pasted into an SQL statement, through a buffer of 1024
bytes, and read back by another statement. The database is a parameter: what is relied on
is how it reads a string literal and that it runs one statement a call.
-/

import ClusterChat.Data.JsonGrammar
import ClusterChat.Storage.Models
import ClusterChat.Storage.SqlLiteral

namespace ClusterChat

open JsonGrammar Models Models.OfflineMsgModel SqlLiteral

/-- The ids of the table `user`, and the rows of `offlinemessage` in any order. -/
structure OfflineTable where
  users : List UserId
  rows : List (UserId × Bytes)

section Server

variable {δ : Type}

/-- **What is relied on** of the database: a statement whose literal is followed by the closing
bracket alone inserts a row with the value of the literal, one that stops before is refused, and a
query returns the rows of the user. The character set of a connection, which `MySQL::connect` sets,
is taken to leave the bytes alone. -/
structure MySqlMessages (server : SqlServer δ) where
  table : δ → OfflineTable
  insert_message : ∀ (conn : ℕ) {database : δ} {userid : UserId} {text value : Bytes},
    userid ∈ (table database).users → readLiteral text = some (value, letters ")") →
      value.length ≤ 1024 →
        table (server.update conn (insertFront userid ++ text) database).2 =
          { table database with rows := (table database).rows ++ [(userid, value)] }
  cut_message : ∀ (conn : ℕ) {database : δ} {userid : UserId} {text : Bytes}, Unfinished text →
    table (server.update conn (insertFront userid ++ text) database).2 = table database
  select_messages : ∀ (conn : ℕ) (database : δ) (userid : UserId),
    ∃ rows, server.query conn (selectText userid) database = some rows ∧
      (rows.map fun row => row 0).Perm
        (((table database).rows.filter fun row => row.1 = userid).map fun row => column row.2)

end Server

namespace OfflineMsgModel

section Keeps

variable {δ : Type} (server : SqlServer δ)

/-- What `query` returns for a user. -/
def stored (userid : UserId) (pool : DatabasePool δ) : Option (List Bytes) :=
  (runs server (Models.OfflineMsgModel.query userid) pool).map fun result =>
    result.1.map CString.bytes

/-- A message that `insert` has stored for a user is returned as it is with the user's others, and
the messages of other users stay as they are. -/
def Keeps (userid : UserId) (msg : Bytes) (pool : DatabasePool δ) : Prop :=
  ∃ after, runs server (Models.OfflineMsgModel.insert userid msg) pool = some ((), after) ∧
    ∀ other, ∃ before now, stored server other pool = some before ∧
      stored server other after = some now ∧
        now.Perm (before ++ if other = userid then [msg] else [])

end Keeps

/-- The statement fits into the buffer, and the database reads the message as it is. -/
def Verbatim (userid : UserId) (msg : Bytes) : Prop :=
  (insertText userid msg).length < 1024 ∧ apostrophe ∉ msg ∧ backslash ∉ msg

instance (userid : UserId) (msg : Bytes) : Decidable (Verbatim userid msg) :=
  inferInstanceAs (Decidable (_ ∧ _))

/-- An apostrophe of the message ends the literal, and what follows is read as SQL. -/
def EndsLiteral (msg : Bytes) : Prop := readLiteral msg ≠ none

/-! ### JSON text in a literal -/

/-- JSON text has no NUL, and its backslashes escape the byte after them in SQL too. -/
structure Pasted (text : Bytes) : Prop where
  noNul : nul ∉ text
  escapes : Escapes text

theorem Pasted.append {front back : Bytes} (first : Pasted front) (second : Pasted back) :
    Pasted (front ++ back) := by
  refine ⟨fun listed => ?_, first.escapes.append second.escapes⟩
  rcases List.mem_append.mp listed with old | new
  · exact first.noNul old
  · exact second.noNul new

/-- Bytes among some that are neither NUL nor a backslash. -/
theorem pasted_of_subset {text known : Bytes} (listed : ∀ c ∈ text, c ∈ known)
    (noNul : nul ∉ known) (noBackslash : backslash ∉ known) : Pasted text :=
  ⟨fun here => noNul (listed nul here),
    escapes_of_notMem fun here => noBackslash (listed backslash here)⟩

theorem Pasted.cons {c : UInt8} {rest : Bytes} (other : c ≠ nul ∧ c ≠ backslash)
    (pasted : Pasted rest) : Pasted (c :: rest) :=
  ⟨List.not_mem_cons_of_ne_of_not_mem other.1.symm pasted.noNul, .plain other.2 pasted.escapes⟩

theorem Pasted.pair {c : UInt8} {rest : Bytes} (other : c ≠ nul) (shrinks : (escaped c).length = 1)
    (pasted : Pasted rest) : Pasted (backslash :: c :: rest) := by
  refine ⟨?_, .pair shrinks pasted.escapes⟩
  exact List.not_mem_cons_of_ne_of_not_mem (by decide)
    (List.not_mem_cons_of_ne_of_not_mem other.symm pasted.noNul)

theorem pasted_nil : Pasted [] := ⟨List.not_mem_nil, .nil⟩

theorem pasted_chars {text : Bytes} (chars : IsChars text) : Pasted text := by
  induction chars with
  | nil => exact pasted_nil
  | @plain c rest printable _ noBackslash _ ih =>
    refine ih.cons ⟨?_, noBackslash⟩
    rintro rfl
    exact absurd printable (by decide)
  | @escape letter rest known _ ih =>
    have each : ((letters "\"\\/bfnrt").all fun c =>
        decide (c ≠ nul ∧ (escaped c).length = 1)) = true := by decide
    obtain ⟨noNul, shrinks⟩ := of_decide_eq_true (List.all_eq_true.mp each letter known)
    exact ih.pair noNul shrinks
  | @unicode digits rest _ hex _ ih =>
    have four : Pasted digits := pasted_of_subset hex (by decide) (by decide)
    exact (four.append ih).pair (by decide) (by decide)

theorem pasted_string {text : Bytes} (string : IsString text) : Pasted text := by
  obtain ⟨chars, rfl, valid⟩ := string
  have quote : Pasted [byte '"'] := pasted_nil.cons (by decide)
  exact ((pasted_chars valid).append quote).cons (by decide)

theorem pasted_blanks {text : Bytes} (blanks : IsBlanks text) : Pasted text :=
  pasted_of_subset blanks (by decide) (by decide)

/-- What the grammar allows may be pasted. -/
theorem pasted_part {part : Part} {text : Bytes} (derived : IsPart part text) : Pasted text := by
  have closing {inside : Bytes} (pasted : Pasted inside) {first last : UInt8}
      (opens : first ≠ nul ∧ first ≠ backslash) (ends : last ≠ nul ∧ last ≠ backslash) :
      Pasted (first :: (inside ++ [last])) :=
    (pasted.append (pasted_nil.cons ends)).cons opens
  induction derived with
  | word known =>
    rcases known with rfl | rfl | rfl <;> exact ⟨by decide, escapes_of_notMem (by decide)⟩
  | number digits => exact pasted_of_subset digits.bytes (by decide) (by decide)
  | string quoted => exact pasted_string quoted
  | emptyArray blank => exact closing (pasted_blanks blank) (by decide) (by decide)
  | array _ ih => exact closing ih (by decide) (by decide)
  | emptyObject blank => exact closing (pasted_blanks blank) (by decide) (by decide)
  | object _ ih => exact closing ih (by decide) (by decide)
  | element front _ back ih => exact ((pasted_blanks front).append ih).append (pasted_blanks back)
  | lastElement _ ih => exact ih
  | moreElements _ _ first second => exact first.append (second.cons (by decide))
  | member front quoted back _ ih =>
    have name := ((pasted_blanks front).append (pasted_string quoted)).append (pasted_blanks back)
    exact name.append (ih.cons (by decide))
  | lastMember _ ih => exact ih
  | moreMembers _ _ first second => exact first.append (second.cons (by decide))

theorem pasted_object {text : Bytes} (object : IsObject text) : Pasted text := by
  obtain ⟨inside, rfl, blanks | members⟩ := object
  · exact pasted_part (.emptyObject blanks)
  · exact pasted_part (.object members)

/-! ### What is stored -/

theorem insertText_of_notMem {userid : UserId} {msg : Bytes} (noNul : nul ∉ msg) :
    insertText userid msg = insertFront userid ++ (msg ++ letters "')") := by
  rw [insertText, cStr_of_notMem noNul]

section Server

variable {δ : Type} {server : SqlServer δ} {pool : DatabasePool δ} {userid : UserId} {msg : Bytes}

/-- The messages of a user, cut at their first NUL. -/
def messages (table : OfflineTable) (userid : UserId) : List Bytes :=
  (table.rows.filter fun row => row.1 = userid).map fun row => cStr row.2

theorem messages_inserted (table : OfflineTable) (userid other : UserId) (value : Bytes) :
    messages { table with rows := table.rows ++ [(userid, value)] } other =
      messages table other ++ if other = userid then [cStr value] else [] := by
  rw [messages, List.filter_append, List.map_append]
  by_cases same : other = userid
  · subst same
    rw [if_pos rfl]
    simp [messages]
  · have skipped : ([(userid, value)].filter fun row => row.1 = other) = [] := by
      simp [Ne.symm same]
    rw [if_neg same, skipped]
    rfl

/-- The buffer holds the statement that reads a user's messages. -/
theorem selectText_fits (userid : UserId) : (selectText userid).length ≤ 1023 := by
  have front : selectFrom.length = 50 := by decide +kernel
  have number := decimal_length userid
  rw [selectText, List.length_append]
  omega

/-- The query returns the messages of the user, in some order. -/
theorem stored_perm (mysql : MySqlMessages server) (idle : pool.queue ≠ []) (userid : UserId) :
    ∃ texts, stored server userid pool = some texts ∧
      texts.Perm (messages (mysql.table pool.database) userid) := by
  obtain ⟨conn, rest, queue⟩ := List.exists_cons_of_ne_nil idle
  obtain ⟨rows, answered, perm⟩ := mysql.select_messages conn pool.database userid
  have ran : runs server (Models.OfflineMsgModel.query userid) pool = _ :=
    runs_query queue (selectText userid) fun rows => rows.map fun row => row 0
  rw [snprintf_of_fits (selectText_fits userid), answered] at ran
  refine ⟨_, congrArg (Option.map _) ran, (perm.map CString.bytes).trans (.of_eq ?_)⟩
  rw [List.map_map]
  exact List.map_congr_left fun row _ => column_bytes row.2

/-- What is promised, on the tables. -/
theorem keeps_iff (mysql : MySqlMessages server) {conn : ℕ} {rest : List ℕ}
    (queue : pool.queue = conn :: rest) :
    Keeps server userid msg pool ↔ ∀ other,
      (messages (mysql.table (server.update conn (snprintf 1024 (insertText userid msg))
          pool.database).2) other).Perm
        (messages (mysql.table pool.database) other ++ if other = userid then [msg] else []) := by
  have ran : runs server (Models.OfflineMsgModel.insert userid msg) pool = _ :=
    runs_runUpdate queue (insertText userid msg)
  have idle : pool.queue ≠ [] := queue ▸ List.cons_ne_nil conn rest
  have idle' (database : δ) :
      (DatabasePool.mk pool.connections (rest ++ [conn]) database).queue ≠ [] :=
    List.append_ne_nil_of_right_ne_nil rest (List.cons_ne_nil conn [])
  constructor
  · rintro ⟨after, ran', keeps⟩ other
    obtain ⟨-, rfl⟩ := Prod.mk.inj (Option.some.inj (ran.symm.trans ran'))
    obtain ⟨before, now, known, found, same⟩ := keeps other
    obtain ⟨texts, known', perm⟩ := stored_perm mysql idle other
    obtain ⟨texts', found', perm'⟩ := stored_perm mysql (idle' _) other
    obtain rfl := Option.some.inj (known.symm.trans known')
    obtain rfl := Option.some.inj (found.symm.trans found')
    exact perm'.symm.trans (same.trans (perm.append_right _))
  · intro kept
    refine ⟨_, ran, fun other => ?_⟩
    obtain ⟨before, known, perm⟩ := stored_perm mysql idle other
    obtain ⟨now, found, perm'⟩ := stored_perm mysql (idle' _) other
    exact ⟨before, now, known, found, perm'.trans ((kept other).trans (perm.symm.append_right _))⟩

/-- The front of the statement is cut by no buffer. -/
theorem insertFront_length (userid : UserId) : (insertFront userid).length ≤ 48 := by
  have first : insertInto.length = 34 := by decide +kernel
  have last : (letters ", '").length = 3 := by decide +kernel
  have number := decimal_length userid
  rw [insertFront, List.length_append, List.length_append]
  omega

/-- A statement that does not fit is refused, unless the message ends the literal. -/
theorem insert_of_cut (mysql : MySqlMessages server) (noNul : nul ∉ msg)
    (cut : ¬(insertText userid msg).length < 1024) (runsOn : ¬EndsLiteral msg) (conn : ℕ)
    (database : δ) :
    mysql.table (server.update conn (snprintf 1024 (insertText userid msg)) database).2 =
      mysql.table database := by
  have front := insertFront_length userid
  rw [insertText_of_notMem noNul, List.length_append, List.length_append] at cut
  have two : (letters "')").length = 2 := by decide
  let count := 1023 - (insertFront userid).length
  have inside : count ≤ (msg ++ [apostrophe]).length := by
    rw [List.length_append, List.length_singleton]
    omega
  have sent : snprintf 1024 (insertText userid msg) =
      insertFront userid ++ (msg ++ [apostrophe]).take count := by
    have split : msg ++ letters "')" = (msg ++ [apostrophe]) ++ letters ")" := by
      rw [List.append_assoc]
      rfl
    rw [snprintf, insertText_of_notMem noNul, split, List.take_append, List.take_append,
      List.take_of_length_le (Nat.le_trans front (by decide))]
    have rest : 1024 - 1 - (insertFront userid).length - (msg ++ [apostrophe]).length = 0 :=
      Nat.sub_eq_zero_of_le inside
    rw [rest, List.take_zero, List.append_nil]
  rw [sent]
  exact mysql.cut_message conn (unfinished_take (not_not.mp runsOn) count)

/-- A list does not gain an item by standing still. -/
theorem not_perm_append_singleton {α : Type} (items : List α) (item : α) :
    ¬items.Perm (items ++ [item]) := by
  intro same
  have lengths := same.length_eq
  rw [List.length_append, List.length_singleton] at lengths
  omega

/-- **A stored message is returned as it was** exactly where the statement fits into the
buffer and the message has neither apostrophe nor backslash. The exception is a message
that ends the literal itself: then the rest of it is run as SQL. -/
theorem insert_keeps_iff {δ : Type} {server : SqlServer δ} (mysql : MySqlMessages server)
    {pool : DatabasePool δ} (idle : pool.queue ≠ []) {userid : UserId}
    (known : userid ∈ (mysql.table pool.database).users) {msg : Bytes} (object : IsObject msg) :
    (Verbatim userid msg → Keeps server userid msg pool) ∧
      (¬EndsLiteral msg → (Keeps server userid msg pool ↔ Verbatim userid msg)) := by
  obtain ⟨conn, rest, queue⟩ := List.exists_cons_of_ne_nil idle
  have pasted := pasted_object object
  have inserted {value : Bytes} (fits : (insertText userid msg).length < 1024)
      (read : readLiteral (msg ++ letters "')") = some (value, letters ")"))
      (shorter : value.length ≤ msg.length) :
      mysql.table (server.update conn (snprintf 1024 (insertText userid msg)) pool.database).2 =
        { mysql.table pool.database with
          rows := (mysql.table pool.database).rows ++ [(userid, value)] } := by
    rw [snprintf_of_fits (Nat.le_of_lt_succ fits), insertText_of_notMem pasted.noNul]
    apply mysql.insert_message conn known read
    rw [insertText_of_notMem pasted.noNul, List.length_append, List.length_append] at fits
    omega
  have enough : Verbatim userid msg → Keeps server userid msg pool := by
    rintro ⟨fits, noApostrophe, noBackslash⟩
    have read : readLiteral (msg ++ letters "')") = some (msg, letters ")") :=
      readLiteral_plain noApostrophe noBackslash (by decide) []
    rw [keeps_iff mysql queue, inserted fits read (Nat.le_refl _)]
    intro other
    rw [messages_inserted, cStr_of_notMem pasted.noNul]
  refine ⟨enough, fun runsOn => ⟨fun keeps => ?_, enough⟩⟩
  have returned := (keeps_iff mysql queue).mp keeps userid
  rw [if_pos rfl] at returned
  by_cases fits : (insertText userid msg).length < 1024
  · have closes : byte ')' ≠ apostrophe := by decide
    obtain ⟨value, read, shorter, verbatim⟩ :=
      readLiteral_escapes pasted.escapes (not_not.mp runsOn) closes []
    refine ⟨fits, verbatim ?_⟩
    -- the new element is the value of the literal, and no shorter than the message
    rw [inserted fits read shorter, messages_inserted, if_pos rfl,
      List.perm_append_left_iff] at returned
    have same : cStr value = msg := List.singleton_perm_singleton.mp returned
    have whole : (cStr value).length = value.length := by
      have cut := (List.takeWhile_prefix (fun c => decide (c ≠ nul)) (l := value)).length_le
      have cut : (cStr value).length ≤ value.length := cut
      rw [same] at cut ⊢
      omega
    have kept : cStr value = value :=
      (List.takeWhile_prefix fun c => decide (c ≠ nul)).eq_of_length whole
    rw [← kept, same]
  · rw [insert_of_cut mysql pasted.noNul fits runsOn] at returned
    exact absurd returned (not_perm_append_singleton _ msg)

end Server

/-! ### A database that does what is assumed -/

/-- The number at the front of a text, and what follows it. -/
def readInteger : Bytes → Int × Bytes
  | [] => (0, [])
  | c :: rest =>
    if c = byte '-' then (-(JsonText.readDigits 0 rest).1, (JsonText.readDigits 0 rest).2)
    else ((JsonText.readDigits 0 (c :: rest)).1, (JsonText.readDigits 0 (c :: rest)).2)

/-- Insert the value of a literal that the closing bracket follows. -/
def insertRow (userid : UserId) (table : OfflineTable) : Option (Bytes × Bytes) → OfflineTable
  | none => table
  | some (value, closing) =>
    if closing = letters ")" ∧ userid ∈ table.users ∧ value.length ≤ 1024 then
      { table with rows := table.rows ++ [(userid, value)] }
    else table

/-- Run an `insert into offlinemessage`, and refuse anything else. -/
def runUpdate (sql : Bytes) (table : OfflineTable) : OfflineTable :=
  let id := readInteger (sql.drop insertInto.length)
  if sql.take insertInto.length = insertInto ∧ id.2.take 3 = letters ", '" then
    insertRow (Int32.ofInt id.1) table (readLiteral (id.2.drop 3))
  else table

/-- Run a `select message from offlinemessage`. -/
def runQuery (sql : Bytes) (table : OfflineTable) : List Bytes :=
  let id := readInteger (sql.drop selectFrom.length)
  if sql.take selectFrom.length = selectFrom ∧ id.2 = [] then
    (table.rows.filter fun row => row.1 = Int32.ofInt id.1).map Prod.snd
  else []

/-- The number of an id is read back, up to the byte after it. -/
theorem readInteger_printInt (n : Int) {rest : Bytes} (stop : JsonText.NoDigit rest) :
    readInteger ((printInt n).bytes ++ rest) = (n, rest) := by
  cases n with
  | ofNat n =>
    have read := JsonText.readDigits_digits n stop
    obtain ⟨c, more, form, digit⟩ := JsonText.digits_eq_cons n
    have noMinus : c ≠ byte '-' := by
      rintro rfl
      cases digit
    rw [printInt, JsonText.bytes_digits]
    rw [form] at read ⊢
    rw [List.cons_append] at read ⊢
    rw [readInteger, if_neg noMinus, read]
    rfl
  | negSucc n =>
    have read := JsonText.readDigits_digits (n + 1) stop
    have shape : (printInt (.negSucc n)).bytes = byte '-' :: JsonText.digits (n + 1) :=
      congrArg (byte '-' :: ·) (JsonText.bytes_digits (n + 1))
    rw [shape, List.cons_append, readInteger, if_pos rfl, read]
    rfl

theorem runUpdate_front (userid : UserId) (text : Bytes) (table : OfflineTable) :
    runUpdate (insertFront userid ++ text) table = insertRow userid table (readLiteral text) := by
  have stop : JsonText.NoDigit (letters ", '" ++ text) := by
    intro c first
    obtain rfl := Option.some.inj first
    rfl
  have read := readInteger_printInt userid.toInt stop
  have shape : insertFront userid ++ text =
      insertInto ++ ((printInt userid.toInt).bytes ++ (letters ", '" ++ text)) := by
    simp only [insertFront, decimal, List.append_assoc]
  rw [runUpdate, shape, List.take_left, List.drop_left, read]
  exact (if_pos ⟨rfl, rfl⟩).trans (by rw [Int32.ofInt_toInt]; rfl)

/-- It runs the statements of the program, and refuses others. -/
def plainServer : SqlServer OfflineTable where
  update := fun _ sql table => (true, runUpdate sql table)
  query := fun _ sql table => some ((runQuery sql table).map fun text _ => column text)
  insertId := fun _ _ => 0

def plainMessages : MySqlMessages plainServer where
  table := id
  insert_message := by
    intro conn table userid text value known read fits
    change runUpdate (insertFront userid ++ text) table = _
    rw [runUpdate_front, read]
    exact if_pos ⟨rfl, known, fits⟩
  cut_message := by
    intro conn table userid text unfinished
    change runUpdate (insertFront userid ++ text) table = table
    rw [runUpdate_front]
    rcases unfinished with none | ⟨value, ends⟩
    · rw [none]
      rfl
    · rw [ends]
      rw [insertRow, if_neg]
      rintro ⟨closing, -⟩
      cases closing
  select_messages := by
    intro conn table userid
    have read := readInteger_printInt userid.toInt JsonText.noDigit_nil
    rw [List.append_nil] at read
    have ran : runQuery (selectText userid) table =
        (table.rows.filter fun row => row.1 = userid).map Prod.snd := by
      rw [runQuery, selectText, List.take_left, List.drop_left, decimal, read]
      exact (if_pos ⟨rfl, rfl⟩).trans (by rw [Int32.ofInt_toInt])
    refine ⟨_, rfl, .of_eq ?_⟩
    rw [ran, List.map_map, List.map_map]
    rfl

/-- Two users and a message for one of them, behind one connection. -/
def twoRecipients : DatabasePool OfflineTable :=
  .create 1 (fun _ => true) ⟨[7, 8], [(8, letters "before")]⟩

/-- A message with text in it. -/
def chatText (text : Bytes) : Bytes :=
  byte '{' :: (letters "\"msg\"" ++ byte ':' :: byte '"' :: (text ++ [byte '"']) ++ [byte '}'])

theorem isObject_chatText {text : Bytes} (chars : IsChars text) : IsObject (chatText text) := by
  have name : IsString (letters "\"msg\"") :=
    ⟨letters "msg", rfl, .plain (by decide) (by decide) (by decide)
      (.plain (by decide) (by decide) (by decide)
        (.plain (by decide) (by decide) (by decide) .nil))⟩
  have value : IsString (byte '"' :: (text ++ [byte '"'])) := ⟨text, rfl, chars⟩
  have blanks : IsBlanks [] := List.forall_mem_nil _
  have element := IsPart.element blanks (.string value) blanks
  have member := IsPart.member blanks name blanks element
  rw [List.nil_append, List.append_nil, List.nil_append, List.append_nil] at member
  exact ⟨_, rfl, .inr (.lastMember member)⟩

theorem insert_keeps_iff_plain :
    IsObject (chatText (letters "hi")) ∧
      Keeps plainServer 7 (chatText (letters "hi")) twoRecipients := by
  have object : IsObject (chatText (letters "hi")) :=
    isObject_chatText (.plain (by decide) (by decide) (by decide)
      (.plain (by decide) (by decide) (by decide) .nil))
  have verbatim : Verbatim 7 (chatText (letters "hi")) := by decide +kernel
  exact ⟨object, (insert_keeps_iff plainMessages (by decide) (by decide) object).1 verbatim⟩

/-- A quoted word: the backslashes of its JSON text are gone when it is read back. -/
theorem quoted_word_changes :
    IsObject (chatText (letters "\\\"hi\\\"")) ∧
      ¬Keeps plainServer 7 (chatText (letters "\\\"hi\\\"")) twoRecipients := by
  have object : IsObject (chatText (letters "\\\"hi\\\"")) :=
    isObject_chatText (.escape (by decide) (.plain (by decide) (by decide) (by decide)
      (.plain (by decide) (by decide) (by decide) (.escape (by decide) .nil))))
  refine ⟨object, fun keeps => ?_⟩
  have changed :
      messages (runUpdate (snprintf 1024 (insertText 7 (chatText (letters "\\\"hi\\\""))))
      twoRecipients.database) 7 = [chatText (letters "\"hi\"")] := by decide +kernel
  have before : messages twoRecipients.database 7 = [] := by decide +kernel
  have queue : twoRecipients.queue = [0] := rfl
  have returned := (keeps_iff plainMessages queue).mp keeps 7
  rw [if_pos rfl] at returned
  have same := List.singleton_perm_singleton.mp (changed ▸ before ▸ returned)
  exact absurd same (by decide +kernel)

end OfflineMsgModel

end ClusterChat
