/-
# The stream of a server to its client

A server writes JSON objects to a client one behind the other, with no delimiter. The
client's `readTaskHandler` skips blanks and NULs, counts braces outside of strings to
find where an object ends, and hands its text to the parser; what is incomplete stays
in the buffer for the next `recv`.
-/

import ClusterChat.Data.JsonGrammar
import ClusterChat.Streams.Decoder
import ClusterChat.Wire.ClientStream

namespace ClusterChat

open JsonGrammar

/-! ### The client -/

/-- The variables of the loop in `findJsonEnd`. -/
structure BraceScan where
  depth : Int
  inStr : Bool
  esc : Bool

namespace BraceScan

/-- The brace that closes the object. -/
def closes (scan : BraceScan) (c : UInt8) : Bool :=
  !scan.esc && !scan.inStr && c = byte '}' && scan.depth - 1 = 0

/-- One turn of the loop. -/
def step (scan : BraceScan) (c : UInt8) : BraceScan :=
  if scan.esc then { scan with esc := false }
  else if scan.inStr then
    if c = byte '\\' then { scan with esc := true }
    else if c = byte '"' then { scan with inStr := false }
    else scan
  else if c = byte '"' then { scan with inStr := true }
  else if c = byte '{' then { scan with depth := scan.depth + 1 }
  else if c = byte '}' then { scan with depth := scan.depth - 1 }
  else scan

/-- The loop over the bytes from a position on. -/
def run : Bytes → ℕ → BraceScan → Option ℕ
  | [], _, _ => none
  | c :: rest, i, scan => if scan.closes c then some (i + 1) else run rest (i + 1) (scan.step c)

end BraceScan

/-- `findJsonEnd`. -/
def findJsonEnd (buf : Bytes) (start : ℕ) : Option ℕ :=
  BraceScan.run (buf.drop start) start ⟨0, false, false⟩

/-- What is skipped in front of an object. -/
def isBlank (c : UInt8) : Bool := c = nul || c = 32 || c = 10 || c = 13 || c = 9

/-- The position behind the blanks. -/
def skipBlanks (recvBuf : Bytes) (pos : ℕ) : ℕ :=
  pos + ((recvBuf.drop pos).takeWhile isBlank).length

theorem BraceScan.run_bounds {bytes : Bytes} {i stop : ℕ} {scan : BraceScan}
    (found : run bytes i scan = some stop) : i < stop ∧ stop ≤ i + bytes.length := by
  induction bytes generalizing i scan with
  | nil => cases found
  | cons c rest ih =>
    rw [run] at found
    rw [List.length_cons]
    by_cases closed : scan.closes c = true
    · rw [if_pos closed] at found
      obtain rfl := Option.some.inj found
      omega
    · rw [if_neg closed] at found
      have later := ih found
      omega

/-- The loop over the objects in the buffer: the texts handed to the parser, and the
position it stops at. -/
def extract (recvBuf : Bytes) (pos : ℕ) : List Bytes × ℕ :=
  if pos < recvBuf.length then
    if recvBuf.length ≤ skipBlanks recvBuf pos then ([], skipBlanks recvBuf pos)
    else
      match _found : findJsonEnd recvBuf (skipBlanks recvBuf pos) with
      | none => ([], skipBlanks recvBuf pos)
      | some stop =>
        let later := extract recvBuf stop
        (segment recvBuf (skipBlanks recvBuf pos) stop :: later.1, later.2)
  else ([], pos)
termination_by recvBuf.length - pos
decreasing_by
  have bounds := (BraceScan.run_bounds _found).1
  rw [skipBlanks] at bounds
  omega

/-- A client's receive buffer, and the texts it has handed to the parser. -/
structure ServerSession where
  recvBuf : Bytes
  texts : List Bytes

/-- What `readTaskHandler` does with the bytes of one `recv`. -/
def readTask (session : ServerSession) (chunk : Bytes) : ServerSession :=
  let recvBuf := session.recvBuf ++ chunk
  let (texts, pos) := extract recvBuf 0
  ⟨if 0 < pos then recvBuf.drop pos else recvBuf, session.texts ++ texts⟩

/-- `readTaskHandler` before the first `recv`. -/
def readTaskStart : ServerSession := ⟨[], []⟩

/-! ### Scanning a text -/

namespace BraceScan

/-- The scan passes over some bytes, from one state to another. -/
def Passes (before : BraceScan) (bytes : Bytes) (after : BraceScan) : Prop :=
  ∀ i rest, run (bytes ++ rest) i before = run rest (i + bytes.length) after

theorem Passes.nil (scan : BraceScan) : scan.Passes [] scan := fun _ _ => rfl

theorem Passes.append {first second third : BraceScan} {front back : Bytes}
    (one : first.Passes front second) (other : second.Passes back third) :
    first.Passes (front ++ back) third := by
  intro i rest
  rw [List.append_assoc, one, other, List.length_append, Nat.add_assoc]

theorem Passes.cons {scan after : BraceScan} {c : UInt8} {bytes : Bytes}
    (opened : scan.closes c = false) (rest : (scan.step c).Passes bytes after) :
    scan.Passes (c :: bytes) after := by
  intro i later
  rw [List.cons_append, run, if_neg (Bool.eq_false_iff.mp opened), rest, List.length_cons,
    Nat.add_assoc, Nat.add_comm 1]

/-- What is found stays found when more arrives. -/
theorem run_append_of_some {bytes : Bytes} {i stop : ℕ} {scan : BraceScan}
    (found : run bytes i scan = some stop) (rest : Bytes) :
    run (bytes ++ rest) i scan = some stop := by
  induction bytes generalizing i scan with
  | nil => cases found
  | cons c bytes ih =>
    rw [run] at found
    rw [List.cons_append, run]
    by_cases closed : scan.closes c = true
    · rw [if_pos closed] at found ⊢
      exact found
    · rw [if_neg closed] at found ⊢
      exact ih found

/-- The depth stays within the number of bytes scanned, so an `int` holds it in any buffer of
less than 2 GiB. -/
theorem foldl_step_depth (bytes : Bytes) (scan : BraceScan) :
    (bytes.foldl step scan).depth ≤ scan.depth + bytes.length ∧
      scan.depth ≤ (bytes.foldl step scan).depth + bytes.length := by
  induction bytes generalizing scan with
  | nil => simp
  | cons c rest ih =>
    have one : (scan.step c).depth ≤ scan.depth + 1 ∧ scan.depth ≤ (scan.step c).depth + 1 := by
      unfold step
      split_ifs <;> grind
    have others := ih (scan.step c)
    rw [List.foldl_cons, List.length_cons]
    omega

/-- Between tokens, at a depth. -/
def outside (depth : Int) : BraceScan := ⟨depth, false, false⟩

/-- Inside a string, at a depth. -/
def inside (depth : Int) : BraceScan := ⟨depth, true, false⟩

variable {depth : Int}

/-- Bytes that mean nothing to the scan outside of strings. -/
def Plain (bytes : Bytes) : Prop := ∀ c ∈ bytes, c ≠ byte '"' ∧ c ≠ byte '{' ∧ c ≠ byte '}'

instance (bytes : Bytes) : Decidable (Plain bytes) := List.decidableBAll _ bytes

theorem passes_plain {bytes : Bytes} (plain : Plain bytes) :
    (outside depth).Passes bytes (outside depth) := by
  induction bytes with
  | nil => exact .nil _
  | cons c bytes ih =>
    obtain ⟨noQuote, noOpen, noClose⟩ := plain c List.mem_cons_self
    have stays : (outside depth).step c = outside depth := by
      simp [step, outside, noQuote, noOpen, noClose]
    apply Passes.cons
    · simp [closes, outside, noClose]
    · rw [stays]
      exact ih fun other listed => plain other (List.mem_cons_of_mem c listed)

theorem plain_of_subset {bytes : Bytes} {known : Bytes} (all : Plain known)
    (listed : ∀ c ∈ bytes, c ∈ known) : Plain bytes := fun c member => all c (listed c member)

theorem plain_blanks {blanks : Bytes} (blank : IsBlanks blanks) : Plain blanks :=
  plain_of_subset (by decide) blank

theorem plain_number {text : Bytes} (number : IsNumber text) : Plain text :=
  plain_of_subset (by decide) number.bytes

/-- Inside a string nothing but its closing quote matters. -/
theorem passes_chars {chars : Bytes} (valid : IsChars chars) :
    (inside depth).Passes chars (inside depth) := by
  have quiet (c : UInt8) : (inside depth).closes c = false := by simp [closes, inside]
  have escaped (c : UInt8) : (⟨depth, true, true⟩ : BraceScan).closes c = false := by
    simp [closes]
  have enter : (inside depth).step (byte '\\') = ⟨depth, true, true⟩ := by
    simp [step, inside]
  have leave (c : UInt8) : (⟨depth, true, true⟩ : BraceScan).step c = inside depth := by
    simp [step, inside]
  have stay {c : UInt8} (noQuote : c ≠ byte '"') (noBackslash : c ≠ byte '\\') :
      (inside depth).step c = inside depth := by
    simp [step, inside, noQuote, noBackslash]
  induction valid with
  | nil => exact .nil _
  | plain printable noQuote noBackslash chars ih =>
    refine .cons (quiet _) ?_
    rw [stay noQuote noBackslash]
    exact ih
  | escape known chars ih =>
    refine .cons (quiet _) ?_
    rw [enter]
    refine .cons (escaped _) ?_
    rw [leave]
    exact ih
  | unicode four hex chars ih =>
    refine .cons (quiet _) ?_
    rw [enter]
    refine .cons (escaped _) ?_
    rw [leave]
    refine .append ?_ ih
    -- the digits are bytes like others
    rename_i digits _
    clear four ih chars
    induction digits with
    | nil => exact .nil _
    | cons digit digits ih =>
      rw [List.forall_mem_cons] at hex
      have all : ((letters "0123456789abcdefABCDEF").all fun c =>
          decide (c ≠ byte '"' ∧ c ≠ byte '\\')) = true := by decide
      have plain := of_decide_eq_true (List.all_eq_true.mp all digit hex.1)
      refine .cons (quiet _) ?_
      rw [stay plain.1 plain.2]
      exact ih hex.2

theorem passes_string {text : Bytes} (string : IsString text) :
    (outside depth).Passes text (outside depth) := by
  obtain ⟨chars, rfl, valid⟩ := string
  have opens : (outside depth).step (byte '"') = inside depth := rfl
  have ends : (inside depth).step (byte '"') = outside depth := rfl
  refine .cons rfl ?_
  rw [opens]
  refine .append (passes_chars valid) (.cons rfl ?_)
  rw [ends]
  exact .nil _

/-- Braces around what is passed over a level deeper. -/
theorem passes_braces (deep : 1 ≤ depth) {bytes : Bytes}
    (passes : (outside (depth + 1)).Passes bytes (outside (depth + 1))) :
    (outside depth).Passes (byte '{' :: (bytes ++ [byte '}'])) (outside depth) := by
  have opens : (outside depth).step (byte '{') = outside (depth + 1) := rfl
  have ends : (outside (depth + 1)).step (byte '}') = outside depth := by
    have back : depth + 1 - 1 = depth := by omega
    exact congrArg outside back
  have stays : (outside (depth + 1)).closes (byte '}') = false := by
    have open' : ¬depth + 1 - 1 = 0 := by omega
    exact decide_eq_false open'
  refine .cons rfl ?_
  rw [opens]
  refine .append passes (.cons stays ?_)
  rw [ends]
  exact .nil _

/-- Brackets mean nothing to the scan. -/
theorem passes_brackets {bytes : Bytes} (passes : (outside depth).Passes bytes (outside depth)) :
    (outside depth).Passes (byte '[' :: (bytes ++ [byte ']'])) (outside depth) := by
  have front : (outside depth).Passes [byte '['] (outside depth) :=
    passes_plain (by decide)
  have back : (outside depth).Passes [byte ']'] (outside depth) := passes_plain (by decide)
  exact front.append (passes.append back)

/-- **Whatever the grammar allows inside an object is passed over**, at any depth inside
of braces. -/
theorem passes_part {part : Part} {text : Bytes} (derived : IsPart part text) (deep : 1 ≤ depth) :
    (outside depth).Passes text (outside depth) := by
  have separator {c : UInt8} (plain : c ≠ byte '"' ∧ c ≠ byte '{' ∧ c ≠ byte '}') (depth : Int) :
      (outside depth).Passes [c] (outside depth) :=
    passes_plain (List.forall_mem_singleton.mpr plain)
  induction derived generalizing depth with
  | word known =>
    apply passes_plain
    rcases known with rfl | rfl | rfl <;> decide
  | number digits => exact passes_plain (plain_number digits)
  | string quoted => exact passes_string quoted
  | emptyArray blank => exact passes_brackets (passes_plain (plain_blanks blank))
  | array elements ih => exact passes_brackets (ih deep)
  | emptyObject blank => exact passes_braces deep (passes_plain (plain_blanks blank))
  | object members ih => exact passes_braces deep (ih (by omega))
  | element front value back ih =>
    exact ((passes_plain (plain_blanks front)).append (ih deep)).append
      (passes_plain (plain_blanks back))
  | lastElement element ih => exact ih deep
  | moreElements element elements ih ih' =>
    exact (ih deep).append ((separator (by decide) depth).append (ih' deep))
  | member front quoted back element ih =>
    refine (((passes_plain (plain_blanks front)).append (passes_string quoted)).append
      (passes_plain (plain_blanks back))).append ?_
    exact (separator (by decide) depth).append (ih deep)
  | lastMember member ih => exact ih deep
  | moreMembers member members ih ih' =>
    exact (ih deep).append ((separator (by decide) depth).append (ih' deep))

/-- **The end of an object is found** as soon as its text is complete. -/
theorem run_object {text : Bytes} (object : IsObject text) (rest : Bytes) :
    run (text ++ rest) 0 (outside 0) = some text.length := by
  obtain ⟨bytes, rfl, content⟩ := object
  have opens : (outside 0).step (byte '{') = outside 1 := rfl
  have opened : (outside 0).closes (byte '{') = false := rfl
  have closed : (outside 1).closes (byte '}') = true := rfl
  have passes : (outside 1).Passes bytes (outside 1) := by
    rcases content with blank | members
    · exact passes_plain (plain_blanks blank)
    · exact passes_part members le_rfl
  rw [List.cons_append, List.append_assoc, run, if_neg (Bool.eq_false_iff.mp opened), opens,
    passes, List.singleton_append, run, if_pos closed, List.length_cons, List.length_append,
    List.length_singleton, Nat.zero_add, Nat.add_comm 1]

/-- Short of its end nothing is found in the text of an object. -/
theorem run_object_partial {text part : Bytes} (object : IsObject text) (incomplete : part <+: text)
    (proper : part ≠ text) : run part 0 (outside 0) = none := by
  cases found : run part 0 (outside 0) with
  | none => rfl
  | some stop =>
    obtain ⟨more, rfl⟩ := incomplete
    have bounds := (run_bounds found).2
    have early := run_append_of_some found (more ++ [])
    have late := run_object object []
    rw [List.append_assoc] at late
    have same : stop = (part ++ more).length := Option.some.inj (early.symm.trans late)
    have nothing : more = [] := by
      apply List.length_eq_zero_iff.mp
      rw [List.length_append] at same
      omega
    exact absurd (by rw [nothing, List.append_nil]) proper

end BraceScan

/-! ### The client as a decoder -/

/-- Take a blank off the buffer, or an object. -/
def takeObject : Bytes → Option (List Bytes × Bytes)
  | [] => none
  | c :: rest =>
    if isBlank c then some ([], rest)
    else (findJsonEnd (c :: rest) 0).map fun stop =>
      ([(c :: rest).take stop], (c :: rest).drop stop)

theorem takeObject_shrinks {buffer rest : Bytes} {texts : List Bytes}
    (taken : takeObject buffer = some (texts, rest)) : rest.length < buffer.length := by
  cases buffer with
  | nil => cases taken
  | cons c more =>
    rw [takeObject] at taken
    by_cases blank : isBlank c = true
    · rw [if_pos blank] at taken
      obtain ⟨-, rfl⟩ := Prod.mk.inj (Option.some.inj taken)
      rw [List.length_cons]
      omega
    · rw [if_neg blank] at taken
      obtain ⟨stop, found, taken⟩ := Option.map_eq_some_iff.mp taken
      obtain ⟨-, rfl⟩ := Prod.mk.inj taken
      have bounds := (BraceScan.run_bounds found).1
      rw [List.length_drop, List.length_cons]
      omega

/-- The client's loop as a decoder. -/
def objectDecoder : Decoder UInt8 Bytes := ⟨takeObject, takeObject_shrinks⟩

/-- The loop only looks at what is left of the buffer. -/
theorem BraceScan.run_add (bytes : Bytes) (offset i : ℕ) (scan : BraceScan) :
    run bytes (offset + i) scan = (run bytes i scan).map (offset + ·) := by
  induction bytes generalizing i scan with
  | nil => rfl
  | cons c rest ih =>
    rw [run, run]
    by_cases closed : scan.closes c = true
    · rw [if_pos closed, if_pos closed]
      rfl
    · rw [if_neg closed, if_neg closed]
      exact ih (i + 1) (scan.step c)

theorem findJsonEnd_eq (recvBuf : Bytes) (pos : ℕ) :
    findJsonEnd recvBuf pos = (findJsonEnd (recvBuf.drop pos) 0).map (pos + ·) :=
  BraceScan.run_add (recvBuf.drop pos) pos 0 ⟨0, false, false⟩

/-- Blanks are taken without a text. -/
theorem drain_blanks (bytes : Bytes) :
    objectDecoder.drain bytes = objectDecoder.drain (bytes.dropWhile isBlank) := by
  induction bytes with
  | nil => rfl
  | cons c rest ih =>
    by_cases blank : isBlank c = true
    · have takes : objectDecoder.take (c :: rest) = some ([], rest) := if_pos blank
      rw [Decoder.drain_take takes, List.dropWhile_cons, if_pos blank, ← ih, List.nil_append]
    · rw [List.dropWhile_cons, if_neg blank]

theorem drop_skipBlanks (recvBuf : Bytes) (pos : ℕ) :
    recvBuf.drop (skipBlanks recvBuf pos) = (recvBuf.drop pos).dropWhile isBlank := by
  rw [skipBlanks, ← List.drop_drop]
  have parts := List.takeWhile_append_dropWhile (p := isBlank) (l := recvBuf.drop pos)
  have rest := congrArg (List.drop ((recvBuf.drop pos).takeWhile isBlank).length) parts
  rw [List.drop_left] at rest
  exact rest.symm

/-- Behind the blanks the decoder looks for the end of an object. -/
theorem take_skipBlanks {recvBuf : Bytes} {pos : ℕ}
    (more : skipBlanks recvBuf pos < recvBuf.length) :
    objectDecoder.take (recvBuf.drop (skipBlanks recvBuf pos)) =
      (findJsonEnd recvBuf (skipBlanks recvBuf pos)).map fun stop =>
        ([segment recvBuf (skipBlanks recvBuf pos) stop], recvBuf.drop stop) := by
  rw [findJsonEnd_eq, Option.map_map]
  cases rest : recvBuf.drop (skipBlanks recvBuf pos) with
  | nil =>
    rw [List.drop_eq_nil_iff] at rest
    omega
  | cons c more =>
    have visible : ¬isBlank c = true := by
      have first := List.head?_dropWhile_not isBlank (recvBuf.drop pos)
      rw [← drop_skipBlanks, rest] at first
      exact Bool.eq_false_iff.mp first
    have takes : objectDecoder.take (c :: more) = (findJsonEnd (c :: more) 0).map fun stop =>
        ([(c :: more).take stop], (c :: more).drop stop) := if_neg visible
    rw [takes]
    apply congrFun
    apply congrArg
    funext stop
    rw [Function.comp_apply, segment, rest, Nat.add_sub_cancel_left, ← List.drop_drop, rest]

/-- **The loop is the decoder**: it hands over the same texts and stops in front of the
same bytes. -/
theorem extract_eq_drain (recvBuf : Bytes) (pos : ℕ) :
    objectDecoder.drain (recvBuf.drop pos) =
      ((extract recvBuf pos).1, recvBuf.drop (extract recvBuf pos).2) := by
  fun_induction extract recvBuf pos with
  | case1 pos more ended =>
    have nothing : recvBuf.drop (skipBlanks recvBuf pos) = [] := List.drop_eq_nil_iff.mpr ended
    rw [drain_blanks, ← drop_skipBlanks, nothing]
    exact Decoder.drain_wait Decoder.take_nil
  | case2 pos more ended missed =>
    have waits := take_skipBlanks (Nat.not_le.mp ended)
    rw [missed] at waits
    rw [drain_blanks, ← drop_skipBlanks]
    exact Decoder.drain_wait waits
  | case3 pos more ended stop found later ih =>
    have takes := take_skipBlanks (Nat.not_le.mp ended)
    rw [found] at takes
    rw [drain_blanks, ← drop_skipBlanks, Decoder.drain_take takes, ih]
    rfl
  | case4 pos ended =>
    have nothing : recvBuf.drop pos = [] := List.drop_eq_nil_iff.mpr (Nat.not_lt.mp ended)
    rw [nothing]
    exact Decoder.drain_wait Decoder.take_nil

/-- What the client does with a chunk is a feed of the decoder. -/
theorem readTask_eq_feed (session : ServerSession) (chunk : Bytes) :
    ((readTask session chunk).texts, (readTask session chunk).recvBuf) =
      objectDecoder.feed (session.texts, session.recvBuf) chunk := by
  have drained := extract_eq_drain (session.recvBuf ++ chunk) 0
  rw [List.drop_zero] at drained
  rw [Decoder.feed, drained]
  apply Prod.ext
  · rfl
  · by_cases moved : 0 < (extract (session.recvBuf ++ chunk) 0).2
    · exact if_pos moved
    · have still : (extract (session.recvBuf ++ chunk) 0).2 = 0 := by omega
      simp only [readTask, still, lt_irrefl, if_false, List.drop_zero]

theorem readTask_foldl (chunks : List Bytes) (session : ServerSession) :
    ((chunks.foldl readTask session).texts, (chunks.foldl readTask session).recvBuf) =
      chunks.foldl objectDecoder.feed (session.texts, session.recvBuf) := by
  induction chunks generalizing session with
  | nil => rfl
  | cons chunk chunks ih => rw [List.foldl_cons, List.foldl_cons, ih, readTask_eq_feed]

/-! ### A stream of objects -/

/-- What a server's stream is made of: blanks, and texts of objects. -/
inductive StreamItem
  | blank (c : UInt8) (skipped : isBlank c = true)
  | object (text : Bytes) (object : IsObject text)

namespace StreamItem

def bytes : StreamItem → Bytes
  | blank c _ => [c]
  | object text _ => text

/-- What is handed to the parser for an item. -/
def texts : StreamItem → List Bytes
  | blank _ _ => []
  | object text _ => [text]

/-- In front of an object there is no blank left. -/
theorem take_visible {c : UInt8} {rest : Bytes} (visible : isBlank c = false) :
    takeObject (c :: rest) =
      (findJsonEnd (c :: rest) 0).map fun stop =>
        ([(c :: rest).take stop], (c :: rest).drop stop) :=
  if_neg (Bool.eq_false_iff.mp visible)

theorem take_object {text : Bytes} (object : IsObject text) (rest : Bytes) :
    takeObject (text ++ rest) = some ([text], rest) := by
  have found : findJsonEnd (text ++ rest) 0 = some text.length := BraceScan.run_object object rest
  have takes : takeObject (text ++ rest) = (findJsonEnd (text ++ rest) 0).map fun stop =>
      ([(text ++ rest).take stop], (text ++ rest).drop stop) := by
    obtain ⟨inside, rfl, -⟩ := object
    exact take_visible rfl
  rw [takes, found, Option.map_some, List.take_left, List.drop_left]

theorem take_object_partial {text part : Bytes} (object : IsObject text)
    (incomplete : part <+: text) (proper : part ≠ text) : takeObject part = none := by
  have missed : findJsonEnd part 0 = none :=
    BraceScan.run_object_partial object incomplete proper
  cases part with
  | nil => rfl
  | cons c more =>
    obtain ⟨later, rfl⟩ := incomplete
    obtain ⟨inside, whole, -⟩ := object
    obtain ⟨rfl, -⟩ := List.cons.inj whole
    rw [take_visible rfl, missed, Option.map_none]

/-- Blanks and objects as codes for the client. -/
def code : Decoder.Code objectDecoder StreamItem where
  encode := bytes
  events := texts
  take_encode item rest := by
    cases item with
    | blank c skipped => exact if_pos skipped
    | object text object => exact take_object object rest
  take_partial {item part} incomplete proper := by
    cases item with
    | blank c skipped =>
      have shorter : part <+: [] := (List.prefix_concat_iff.mp incomplete).resolve_left proper
      rw [List.prefix_nil.mp shorter]
      rfl
    | object text object => exact take_object_partial object incomplete proper

end StreamItem

/-- **The client recovers the objects.** Whatever objects and blanks a server writes, with
an incomplete object behind them, and however the bytes are cut, the parser gets the
texts of the objects, in order, and never anything else on the way; the incomplete one
stays in the buffer. -/
theorem readTask_stream (items : List StreamItem) {text part : Bytes} (object : IsObject text)
    (incomplete : part <+: text) (proper : part ≠ text) {chunks : List Bytes}
    (cutting : chunks.flatten = (items.map StreamItem.bytes).flatten ++ part) :
    let final := chunks.foldl readTask readTaskStart
    final.texts = items.flatMap StreamItem.texts ∧ final.recvBuf = part ∧
      ∀ early later, chunks = early ++ later →
        (early.foldl readTask readTaskStart).texts <+: items.flatMap StreamItem.texts := by
  intro final
  let start : List Bytes × Bytes := ([], [])
  have waits : objectDecoder.take start.2 = none := rfl
  obtain ⟨later, whole, fed⟩ := StreamItem.code.feed_foldl_append waits cutting
  have stays : ∀ {shorter}, shorter <+: part → objectDecoder.take shorter = none := by
    intro shorter inside
    apply StreamItem.take_object_partial object (inside.trans incomplete)
    rintro rfl
    exact proper (incomplete.eq_of_length (le_antisymm incomplete.length_le inside.length_le))
  have ends : (final.texts, final.recvBuf) = (StreamItem.code.meaning items, part) := by
    let rest : List Bytes × Bytes := ([] ++ StreamItem.code.meaning items, [])
    have whole' : rest.2 ++ later.flatten = part := whole
    rw [readTask_foldl chunks readTaskStart]
    exact fed.trans (Decoder.feed_waits stays whole')
  have texts : final.texts = items.flatMap StreamItem.texts :=
    (congrArg Prod.fst ends).trans List.flatMap_def.symm
  refine ⟨texts, congrArg Prod.snd ends, ?_⟩
  rintro early rest rfl
  rw [← texts]
  have grown := objectDecoder.feed_foldl_earlier rest
    ((early.foldl readTask readTaskStart).texts, (early.foldl readTask readTaskStart).recvBuf)
  rw [← readTask_foldl, ← List.foldl_append] at grown
  exact grown

/-- An object with braces, quotes and a backslash in its strings. -/
theorem isObject_quotes : IsObject (letters "\x7b\"\x7d\":\"\\\"\x7b\"\x7d") := by
  have name : IsString (letters "\"\x7d\"") :=
    ⟨letters "\x7d", rfl, .plain (by decide) (by decide) (by decide) .nil⟩
  have value : IsString (letters "\"\\\"\x7b\"") :=
    ⟨letters "\\\"\x7b", rfl, .escape (by decide) (.plain (by decide) (by decide) (by decide) .nil)⟩
  have blanks : IsBlanks [] := List.forall_mem_nil _
  have element : IsPart .element (letters "\"\\\"\x7b\"") := .element blanks (.string value) blanks
  have member : IsPart .member (letters "\"\x7d\":\"\\\"\x7b\"") :=
      .member blanks name blanks element
  exact ⟨letters "\"\x7d\":\"\\\"\x7b\"", rfl, .inr (.lastMember member)⟩

/-- Two objects with a NUL and a blank between them, and the start of another, byte by
byte. -/
theorem readTask_stream_bytewise :
    let object := letters "\x7b\"\x7d\":\"\\\"\x7b\"\x7d"
    let stream := object ++ [0, 32] ++ object ++ letters "\x7b\"\x7d\":"
    let final := (stream.map fun c => [c]).foldl readTask readTaskStart
    final.texts = [object, object] ∧ final.recvBuf = letters "\x7b\"\x7d\":" := by
  intro object stream final
  have cutting : (stream.map fun c => [c]).flatten =
      (([.object object isObject_quotes, .blank 0 rfl, .blank 32 rfl,
        .object object isObject_quotes] : List StreamItem).map StreamItem.bytes).flatten ++
          letters "\x7b\"\x7d\":" := by decide
  obtain ⟨texts, recvBuf, -⟩ :=
    readTask_stream _ isObject_quotes ⟨letters "\"\\\"\x7b\"\x7d", rfl⟩ (by decide) cutting
  exact ⟨texts, recvBuf⟩

end ClusterChat
