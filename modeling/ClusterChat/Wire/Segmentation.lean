/-
# Bad input on the inter-node stream

A buffer that starts like a frame but has another magic, or announces a body too
short for its recipient, is discarded as a whole: with everything that has arrived
behind it so far. What is lost then depends on how the stream was cut. In front of
such a header, and without one, the cutting does not matter, whatever the text between
the delimiters is.
-/

import ClusterChat.Wire.ClusterStream

namespace ClusterChat

/-- A header that makes the receiver discard its buffer: an unknown magic, or a body
that is too short. -/
def malformedHeader (pending : Bytes) : Bool :=
  pending.head? = some 79 && 4 ≤ pending.length &&
    (pending.take 4 ≠ kOneChatFrameMagic ||
      (12 ≤ pending.length && (readUint32 (pending.drop 4)).any fun bodyLen => bodyLen < 4))

/-- The calls in front of the first malformed header of a stream, and what follows
them. -/
def readUntilMalformed (lib : JsonLibrary) (stream : Bytes) : List ClusterCall × Bytes :=
  ((clusterDecoder lib).upTo malformedHeader).drain stream

variable {lib : JsonLibrary}

/-! ### Headers -/

theorem exists_header {pending : Bytes} (enough : 12 ≤ pending.length)
    (magic : pending.take 4 = kOneChatFrameMagic) :
    ∃ header more bodyLen toUser, pending = header ++ more ∧ IsHeader header bodyLen toUser := by
  have twelve : (pending.take 12).length = 12 := List.length_take_of_le enough
  obtain ⟨bodyLen, len⟩ : ∃ bodyLen, readUint32 ((pending.take 12).drop 4) = some bodyLen := by
    apply readUint32_isSome
    rw [List.length_drop, twelve]
    decide
  obtain ⟨toUser, user⟩ : ∃ toUser, readUint32 ((pending.take 12).drop 8) = some toUser := by
    apply readUint32_isSome
    rw [List.length_drop, twelve]
  refine ⟨pending.take 12, pending.drop 12, bodyLen, toUser, ?_, twelve, ?_, len, user⟩
  · exact (List.take_append_drop 12 pending).symm
  · rw [List.take_take]
    exact magic

/-- A complete header is malformed just if its body is too short. -/
theorem malformedHeader_header {header : Bytes} {bodyLen toUser : UInt32}
    (isHeader : IsHeader header bodyLen toUser) (more : Bytes) :
    malformedHeader (header ++ more) = decide (bodyLen < 4) := by
  have twelve := isHeader.length
  have magic : (header ++ more).take 4 = kOneChatFrameMagic := by
    rw [List.take_append_of_le_length (by omega)]
    exact isHeader.magic
  have letter : (header ++ more).head? = some 79 := by
    have first := congrArg List.head? magic
    rwa [List.head?_take, if_neg (by decide)] at first
  have read : readUint32 ((header ++ more).drop 4) = some bodyLen := by
    rw [List.drop_append_of_le_length (by omega)]
    exact readUint32_append isHeader.bodyLen more
  have enough : 12 ≤ (header ++ more).length := by
    rw [List.length_append]
    omega
  have four : 4 ≤ (header ++ more).length := by omega
  simp only [malformedHeader, letter, magic, read, enough, four, ne_eq, not_true_eq_false,
    decide_true, decide_false, Bool.and_true, Bool.true_and, Bool.false_or, Option.any_some]

/-- A malformed header: the first letter of the magic, and then another magic or a body
that is too short. -/
theorem malformedHeader_eq_true {pending : Bytes} :
    malformedHeader pending = true ↔
      pending.head? = some 79 ∧ 4 ≤ pending.length ∧
        (pending.take 4 ≠ kOneChatFrameMagic ∨
          12 ≤ pending.length ∧ ∃ bodyLen, readUint32 (pending.drop 4) = some bodyLen ∧
            bodyLen < 4) := by
  simp only [malformedHeader, Bool.and_eq_true, Bool.or_eq_true, decide_eq_true_eq,
    Option.any_eq_true, and_assoc]

/-- What the receiver does with a malformed header: it discards the buffer. -/
theorem takeMessage_malformed {pending : Bytes} (malformed : malformedHeader pending = true) :
    takeMessage lib pending = some ([], []) := by
  obtain ⟨letter, four, bad⟩ := malformedHeader_eq_true.mp malformed
  cases pending with
  | nil => cases letter
  | cons first more =>
    rw [takeMessage, if_pos (Option.some.inj letter), takeFrame, if_neg (Nat.not_lt.mpr four)]
    by_cases magic : (first :: more).take 4 = kOneChatFrameMagic
    · obtain ⟨twelve, bodyLen, read, short⟩ := bad.resolve_left (not_not.mpr magic)
      rw [if_pos magic, if_neg (Nat.not_lt.mpr twelve), read, Option.bind_some, if_pos short]
    · rw [if_neg magic]

/-- More bytes do not mend a malformed header. -/
theorem malformedHeader_grows {part pending : Bytes} (incomplete : part <+: pending)
    (malformed : malformedHeader part = true) : malformedHeader pending = true := by
  obtain ⟨more, rfl⟩ := incomplete
  obtain ⟨letter, four, bad⟩ := malformedHeader_eq_true.mp malformed
  refine malformedHeader_eq_true.mpr ⟨?_, ?_, ?_⟩
  · rw [List.head?_append, letter, Option.some_or]
  · rw [List.length_append]
    omega
  · rw [List.take_append_of_le_length four, List.drop_append_of_le_length four]
    refine bad.imp (fun other => other) ?_
    rintro ⟨twelve, bodyLen, read, short⟩
    refine ⟨?_, bodyLen, readUint32_append read more, short⟩
    rw [List.length_append]
    omega

/-! ### What is taken is a frame -/

/-- JSON text waits for its NUL. -/
theorem takeMessage_open {part : Bytes} (text : part.head? ≠ some 79) (free : nul ∉ part) :
    takeMessage lib part = none := by
  cases part with
  | nil => rfl
  | cons first more =>
    have other : first ≠ 79 := fun same => text (congrArg some same)
    rw [takeMessage, if_neg other, takeText, findIdx?_of_notMem free]
    rfl

/-- What is done with a complete text, whatever follows it. -/
theorem takeMessage_closed {text : Bytes} (letter : (text ++ [nul]).head? ≠ some 79)
    (free : nul ∉ text) :
    ∃ calls, ∀ rest, takeMessage lib (text ++ [nul] ++ rest) = some (calls, rest) := by
  -- the calls are those of the text, found by computing them
  apply Exists.intro
  intro rest
  have found : (text ++ [nul] ++ rest).findIdx? (· = nul) = some text.length := by
    rw [List.append_assoc]
    exact findIdx?_behind free rest
  have front : (text ++ [nul] ++ rest).take text.length = text := by
    rw [List.append_assoc, List.take_left]
  have back : (text ++ [nul] ++ rest).drop (text.length + 1) = rest := by
    rw [← List.length_singleton (a := nul), ← List.length_append, List.drop_left]
  have start : takeMessage lib (text ++ [nul] ++ rest) = takeText lib (text ++ [nul] ++ rest) := by
    cases text with
    | nil => rfl
    | cons first more =>
      have other : first ≠ 79 := fun same => letter (congrArg some same)
      rw [List.cons_append, List.cons_append, takeMessage, if_neg other]
  rw [start, takeText, found, Option.bind_eq_bind, Option.bind_some, front, back]
  rfl

/-- A frame that is taken. -/
theorem takeFrame_framed {first : UInt8} {more rest : Bytes} {calls : List ClusterCall}
    (letter : first = 79) (passed : ¬malformedHeader (first :: more) = true)
    (taken : takeMessage lib (first :: more) = some (calls, rest)) :
    ∃ frame, first :: more = frame ++ rest ∧ (clusterDecoder lib).IsFrame frame calls := by
  have frame : takeFrame (first :: more) = some (calls, rest) := by
    rwa [takeMessage, if_pos letter] at taken
  by_cases few : (first :: more).length < 4
  · rw [takeFrame, if_pos few] at frame
    cases frame
  · have magic : (first :: more).take 4 = kOneChatFrameMagic := by
      by_contra other
      exact passed (malformedHeader_eq_true.mpr
        ⟨congrArg some letter, Nat.not_lt.mp few, .inl other⟩)
    by_cases short : (first :: more).length < 12
    · rw [takeFrame, if_neg few, if_pos magic, if_pos short] at frame
      cases frame
    · obtain ⟨header, payload, bodyLen, toUser, whole, isHeader⟩ :=
        exists_header (Nat.not_lt.mp short) magic
      rw [whole, malformedHeader_header isHeader, decide_eq_true_eq] at passed
      rw [whole, takeFrame_header isHeader passed] at frame
      by_cases waits : payload.length < bodyLen.toNat - 4
      · rw [if_pos waits] at frame
        cases frame
      · rw [if_neg waits] at frame
        obtain ⟨rfl, rfl⟩ := Prod.mk.inj (Option.some.inj frame)
        have length : (payload.take (bodyLen.toNat - 4)).length = bodyLen.toNat - 4 :=
          List.length_take_of_le (Nat.not_lt.mp waits)
        refine ⟨header ++ payload.take (bodyLen.toNat - 4), ?_, ?_, ?_⟩
        · rw [whole, List.append_assoc, List.take_append_drop]
        · intro rest
          rw [List.append_assoc]
          refine (takeMessage_header lib isHeader _).trans ?_
          rw [takeFrame_header isHeader passed, List.take_left' length, List.drop_left' length,
            if_neg]
          rw [List.length_append]
          omega
        · exact fun incomplete proper =>
            takeMessage_frame_partial isHeader passed length.symm incomplete proper

/-- A text that is taken. -/
theorem takeText_framed {first : UInt8} {more rest : Bytes} {calls : List ClusterCall}
    (letter : first ≠ 79) (taken : takeMessage lib (first :: more) = some (calls, rest)) :
    ∃ frame, first :: more = frame ++ rest ∧ (clusterDecoder lib).IsFrame frame calls := by
  have text : (first :: more).head? ≠ some 79 := fun same => letter (Option.some.inj same)
  have closed : nul ∈ first :: more := by
    by_contra free
    have waits : takeMessage lib (first :: more) = none := takeMessage_open text free
    cases waits.symm.trans taken
  obtain ⟨inside, after, parts, free⟩ := List.eq_append_cons_of_mem closed
  have whole : first :: more = inside ++ [nul] ++ after := by
    rw [parts, List.append_assoc, List.singleton_append]
  have text' : (inside ++ [nul]).head? ≠ some 79 := by
    rw [whole, List.head?_append_of_ne_nil _ (by simp)] at text
    exact text
  obtain ⟨calls', takes⟩ : ∃ calls, ∀ rest,
      takeMessage lib (inside ++ [nul] ++ rest) = some (calls, rest) :=
    takeMessage_closed text' free
  rw [whole, takes after] at taken
  obtain ⟨rfl, rfl⟩ := Prod.mk.inj (Option.some.inj taken)
  refine ⟨inside ++ [nul], whole, takes, ?_⟩
  intro part incomplete proper
  have inner : part <+: inside := (List.prefix_concat_iff.mp incomplete).resolve_left proper
  apply takeMessage_open
  · intro same
    obtain ⟨later, rfl⟩ := inner
    cases part with
    | nil => cases same
    | cons byte part => exact text' same
  · exact fun listed => free (inner.subset listed)

/-- The bytes that the receiver takes at a time are a frame or a closed text, unless
their header is malformed. -/
theorem takeMessage_framed {buffer rest : Bytes} {calls : List ClusterCall}
    (passed : ¬malformedHeader buffer = true)
    (taken : (clusterDecoder lib).take buffer = some (calls, rest)) :
    ∃ frame, buffer = frame ++ rest ∧ (clusterDecoder lib).IsFrame frame calls := by
  have taken' : takeMessage lib buffer = some (calls, rest) := taken
  cases buffer with
  | nil => cases taken'
  | cons first more =>
    by_cases letter : first = 79
    · exact takeFrame_framed letter passed taken'
    · exact takeText_framed letter taken'

/-! ### Two cuttings of one stream -/

/-- The calls on a connection, by its chunks. -/
theorem clusterOnMessage_fed (lib : JsonLibrary) (chunks : List Bytes) :
    ((chunks.foldl (clusterOnMessage lib) clusterOnConnected).calls,
        (chunks.foldl (clusterOnMessage lib) clusterOnConnected).context.pending) =
      chunks.foldl (clusterDecoder lib).feed ([], []) := by
  obtain ⟨calls, pending⟩ := clusterOnMessage_foldl lib chunks clusterOnConnected
  exact Prod.ext calls pending

/-- **Segmentation on any input.** However the bytes on an inter-node connection are
cut, the calls in front of the first malformed header are made first. Where the stream
has none, the calls and the bytes left pending are the same for every cutting. -/
theorem clusterOnMessage_cuttings (lib : JsonLibrary) {first second : List Bytes}
    (same : first.flatten = second.flatten) :
    let one := first.foldl (clusterOnMessage lib) clusterOnConnected
    let other := second.foldl (clusterOnMessage lib) clusterOnConnected
    let read := readUntilMalformed lib first.flatten
    read.1 <+: one.calls ∧ read.1 <+: other.calls ∧
      (malformedHeader read.2 = false →
        one.calls = other.calls ∧ one.context.pending = other.context.pending) := by
  intro one other read
  have common (chunks : List Bytes) (whole : chunks.flatten = first.flatten) :
      read.1 <+: (chunks.foldl (clusterOnMessage lib) clusterOnConnected).calls := by
    obtain ⟨later, -, fed⟩ := Decoder.feed_upTo takeMessage_framed chunks
    have calls : (chunks.foldl (clusterOnMessage lib) clusterOnConnected).calls = _ :=
      congrArg Prod.fst ((clusterOnMessage_fed lib chunks).trans fed)
    rw [calls, whole]
    exact (clusterDecoder lib).feed_foldl_earlier later (read.1, [])
  have complete (chunks : List Bytes) (whole : chunks.flatten = first.flatten)
      (sound : malformedHeader read.2 = false) :
      chunks.foldl (clusterDecoder lib).feed ([], []) = read := by
    have passed : ¬malformedHeader
        (((clusterDecoder lib).upTo malformedHeader).drain chunks.flatten).2 = true := by
      rw [whole]
      exact Bool.eq_false_iff.mp sound
    rw [Decoder.feed_of_passed takeMessage_framed malformedHeader_grows chunks passed, whole]
    rfl
  refine ⟨common first rfl, common second same.symm, fun sound => ?_⟩
  have both : (one.calls, one.context.pending) = (other.calls, other.context.pending) :=
    ((clusterOnMessage_fed lib first).trans (complete first rfl sound)).trans
      ((clusterOnMessage_fed lib second).trans (complete second same.symm sound)).symm
  exact ⟨congrArg Prod.fst both, congrArg Prod.snd both⟩

/-- A text that is no JSON, a message and an incomplete header, in two cuttings. -/
theorem clusterOnMessage_cuttings_text :
    let stream : Bytes := [33, 0] ++ oneChatFrame 7 [97] ++ [79, 78]
    let one := [stream].foldl (clusterOnMessage JsonText.library) clusterOnConnected
    let other := (stream.map fun byte => [byte]).foldl (clusterOnMessage JsonText.library)
      clusterOnConnected
    one.calls = other.calls ∧ one.context.pending = other.context.pending := by
  intro stream
  have same : [stream].flatten = (stream.map fun byte => [byte]).flatten := by decide
  exact (clusterOnMessage_cuttings JsonText.library same).2.2 (by decide +kernel)

/-- An unknown magic and a message behind it: together they are discarded, and apart
the message is received. -/
theorem malformedHeader_loses_message :
    ∃ first second : List Bytes, first.flatten = second.flatten ∧
      (first.foldl (clusterOnMessage JsonText.library) clusterOnConnected).calls = [] ∧
      (second.foldl (clusterOnMessage JsonText.library) clusterOnConnected).calls ≠ [] := by
  let message : Bytes := oneChatFrame 7 [97]
  have together : ([[79, 88, 88, 88] ++ message].foldl (clusterOnMessage JsonText.library)
      clusterOnConnected).calls.isEmpty = true := by decide +kernel
  have apart : ([[79, 88, 88, 88], message].foldl (clusterOnMessage JsonText.library)
      clusterOnConnected).calls.isEmpty = false := by decide +kernel
  have same : [[79, 88, 88, 88] ++ message].flatten = [[79, 88, 88, 88], message].flatten := rfl
  exact ⟨_, _, same, List.isEmpty_iff.mp together, List.isEmpty_eq_false_iff.mp apart⟩

end ClusterChat
