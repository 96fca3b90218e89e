/-
# Hostile bytes on the inter-node stream

The receiver computes with lengths that its peer has written. Here every access to the buffer is
checked against its size, and every operation on a size against wrapping around, so that a wrong
constant would show as a fault. There is none for any bytes, the loop ends, and what it leaves
behind is the front of something that has not come completely.
-/

import ClusterChat.Wire.Segmentation

namespace ClusterChat

/-- What may go wrong with a buffer and with sizes. -/
inductive BufferFault
  | readOutside
  | cutOutside
  | wrapped

/-! ### Checked operations -/

/-- `data()[pos]`, within the buffer. -/
def byteAt (pending : Bytes) (pos : ℕ) : Except BufferFault UInt8 :=
  match pending[pos]? with
  | some byte => .ok byte
  | none => .error .readOutside

/-- `readUint32(data() + pos)`, byte by byte. -/
def readUint32At (pending : Bytes) (pos : ℕ) : Except BufferFault UInt32 := do
  let b0 ← byteAt pending pos
  let b1 ← byteAt pending (pos + 1)
  let b2 ← byteAt pending (pos + 2)
  let b3 ← byteAt pending (pos + 3)
  return b0.toUInt32 <<< 24 ||| b1.toUInt32 <<< 16 ||| b2.toUInt32 <<< 8 ||| b3.toUInt32

/-- The bytes that `substr`, `compare` and the range of the parser look at. -/
def slice (pending : Bytes) (pos len : ℕ) : Except BufferFault Bytes :=
  if pos + len ≤ pending.length then .ok ((pending.drop pos).take len) else .error .readOutside

/-- `erase(0, len)`. -/
def eraseFront (pending : Bytes) (len : ℕ) : Except BufferFault Bytes :=
  if len ≤ pending.length then .ok (pending.drop len) else .error .cutOutside

/-- Addition of sizes. -/
def addSize (a b : UInt64) : Except BufferFault UInt64 :=
  if a.toNat + b.toNat < 2 ^ 64 then .ok (a + b) else .error .wrapped

/-- Subtraction of sizes. -/
def subSize (a b : UInt64) : Except BufferFault UInt64 :=
  if b ≤ a then .ok (a - b) else .error .wrapped

/-! ### The loop with checked operations -/

/-- `takeFrame`, checked. -/
def checkedFrame (pending : Bytes) : Except BufferFault (Option (List ClusterCall × Bytes)) := do
  if pending.length < 4 then return none
  let magic ← slice pending 0 4
  if magic = kOneChatFrameMagic then
    if pending.length < 4 + 8 then return none
    let bodyLen ← readUint32At pending 4
    if bodyLen < 4 then return some ([], [])
    let whole ← addSize (4 + 8) bodyLen.toUInt64
    let frameLen ← subSize whole 4
    if pending.length < frameLen.toNat then return none
    let toUser ← readUint32At pending (4 + 4)
    let payloadLen ← subSize bodyLen.toUInt64 4
    let payload ← slice pending (4 + 8) payloadLen.toNat
    let rest ← eraseFront pending frameLen.toNat
    return some ([.handleClusterOneChatFrame toUser.toInt32 payload], rest)
  return some ([], [])

/-- The call for the text in front of a NUL, none for an empty text or a bad one. -/
def checkedParse (lib : JsonLibrary) (pending : Bytes) (stop : ℕ) :
    Except BufferFault (List ClusterCall) :=
  if 0 < stop then do
    let text ← slice pending 0 stop
    match lib.parse text with
    | .ok js => return [.handleClusterMessage js]
    | .error _ => return []
  else return []

/-- `takeText`, checked. -/
def checkedText (lib : JsonLibrary) (pending : Bytes) :
    Except BufferFault (Option (List ClusterCall × Bytes)) :=
  match pending.findIdx? (· = nul) with
  | none => .ok none
  | some stop => do
    let calls ← checkedParse lib pending stop
    let rest ← eraseFront pending (stop + 1)
    return some (calls, rest)

/-- One turn of the loop, checked. -/
def checkedTurn (lib : JsonLibrary) (pending : Bytes) :
    Except BufferFault (Option (List ClusterCall × Bytes)) :=
  if pending = [] then .ok none
  else do
    let first ← byteAt pending 0
    if first = 79 then checkedFrame pending else checkedText lib pending

/-- The loop of `ClusterServer::onMessage`, checked; none where the turns do not suffice. -/
def checkedLoop (lib : JsonLibrary) : ℕ → Bytes →
    Except BufferFault (Option (List ClusterCall × Bytes))
  | 0, _ => .ok none
  | turns + 1, pending => do
    match ← checkedTurn lib pending with
    | none => return some ([], pending)
    | some (calls, rest) =>
      let result ← checkedLoop lib turns rest
      return result.map fun later => (calls ++ later.1, later.2)

/-! ### No fault -/

variable {lib : JsonLibrary} {pending : Bytes}

theorem byteAt_drop {pos k : ℕ} {byte : UInt8} (there : (pending.drop pos)[k]? = some byte) :
    byteAt pending (pos + k) = .ok byte := by
  rw [List.getElem?_drop] at there
  rw [byteAt, there]

/-- Where the word can be read, its bytes are in the buffer. -/
theorem readUint32At_eq {pos : ℕ} {value : UInt32}
    (read : readUint32 (pending.drop pos) = some value) : readUint32At pending pos = .ok value := by
  generalize there : pending.drop pos = data at read
  match data with
  | [] | [_] | [_, _] | [_, _, _] => cases read
  | b0 :: b1 :: b2 :: b3 :: more =>
    have first : byteAt pending (pos + 0) = .ok b0 := byteAt_drop (by rw [there]; rfl)
    have second : byteAt pending (pos + 1) = .ok b1 := byteAt_drop (by rw [there]; rfl)
    have third : byteAt pending (pos + 2) = .ok b2 := byteAt_drop (by rw [there]; rfl)
    have fourth : byteAt pending (pos + 3) = .ok b3 := byteAt_drop (by rw [there]; rfl)
    rw [Nat.add_zero] at first
    rw [readUint32At, first, second, third, fourth]
    exact congrArg Except.ok (Option.some.inj read)

theorem slice_eq {pos len : ℕ} (inside : pos + len ≤ pending.length) :
    slice pending pos len = .ok ((pending.drop pos).take len) := if_pos inside

theorem eraseFront_eq {len : ℕ} (inside : len ≤ pending.length) :
    eraseFront pending len = .ok (pending.drop len) := if_pos inside

/-- Adding the constants to a length of 32 bits does not wrap around. -/
theorem addSize_bodyLen (bodyLen : UInt32) :
    addSize (4 + 8) bodyLen.toUInt64 = .ok (4 + 8 + bodyLen.toUInt64) := by
  have small := bodyLen.toNat_lt
  apply if_pos
  rw [UInt32.toNat_toUInt64]
  change 12 + bodyLen.toNat < 2 ^ 64
  omega

/-- The constants contain what is taken away. -/
theorem subSize_frameLen (bodyLen : UInt32) :
    subSize (4 + 8 + bodyLen.toUInt64) 4 = .ok (4 + 8 + bodyLen.toUInt64 - 4) := by
  have small := bodyLen.toNat_lt
  apply if_pos
  rw [UInt64.le_iff_toNat_le, UInt64.toNat_add, UInt32.toNat_toUInt64]
  change 4 ≤ (12 + bodyLen.toNat) % 2 ^ 64
  omega

theorem subSize_bodyLen {bodyLen : UInt32} (long : ¬bodyLen < 4) :
    subSize bodyLen.toUInt64 4 = .ok (bodyLen.toUInt64 - 4) := by
  apply if_pos
  rw [UInt64.le_iff_toNat_le, UInt32.toNat_toUInt64]
  exact Nat.not_lt.mp fun short => long (UInt32.lt_iff_toNat_lt.mpr short)

theorem checkedFrame_eq (pending : Bytes) : checkedFrame pending = .ok (takeFrame pending) := by
  rw [checkedFrame, takeFrame]
  by_cases few : pending.length < 4
  · rw [if_pos few, if_pos few]
    rfl
  rw [if_neg few, if_neg few, slice_eq (by omega)]
  by_cases magic : pending.take 4 = kOneChatFrameMagic
  swap
  · rw [if_neg magic]
    exact if_neg magic
  rw [if_pos magic]
  refine (if_pos magic).trans ?_
  by_cases header : pending.length < 4 + 8
  · rw [if_pos header, if_pos header]
    rfl
  -- the two words are in the header
  have firstWord : 4 ≤ (pending.drop 4).length := by
    rw [List.length_drop]
    omega
  have secondWord : 4 ≤ (pending.drop (4 + 4)).length := by
    rw [List.length_drop]
    omega
  obtain ⟨bodyLen, len⟩ := readUint32_isSome firstWord
  obtain ⟨toUser, user⟩ := readUint32_isSome secondWord
  rw [if_neg header, if_neg header, readUint32At_eq len, len, Option.bind_some]
  by_cases short : bodyLen < 4
  · rw [if_pos short]
    exact if_pos short
  rw [if_neg short]
  refine (if_neg short).trans ?_
  rw [addSize_bodyLen]
  change (do let frameLen ← subSize (4 + 8 + bodyLen.toUInt64) 4; _) = _
  rw [subSize_frameLen]
  by_cases wait : pending.length < (4 + 8 + bodyLen.toUInt64 - 4).toNat
  · exact (if_pos wait).trans (congrArg Except.ok (if_pos wait).symm)
  · -- the payload ends where the frame does, within the buffer
    refine (if_neg wait).trans ?_
    rw [frameLen_toNat] at wait
    have payload : 4 + 8 + (bodyLen.toUInt64 - 4).toNat ≤ pending.length := by
      have enough : 4 ≤ bodyLen.toNat := by
        apply Nat.not_lt.mp
        exact fun few => short (UInt32.lt_iff_toNat_lt.mpr few)
      rw [payloadLen_toNat short]
      omega
    have frame : (4 + 8 + bodyLen.toUInt64 - 4).toNat ≤ pending.length := by
      rw [frameLen_toNat]
      omega
    rw [readUint32At_eq user, subSize_bodyLen short]
    change (do let payload ← slice pending (4 + 8) (bodyLen.toUInt64 - 4).toNat; _) = _
    rw [slice_eq payload, eraseFront_eq frame]
    change _ = Except.ok (if _ then _ else _)
    rw [if_neg (Nat.not_lt.mpr frame), user]
    rfl

theorem checkedText_eq (lib : JsonLibrary) (pending : Bytes) :
    checkedText lib pending = .ok (takeText lib pending) := by
  rw [checkedText, takeText]
  cases found : pending.findIdx? (· = nul) with
  | none => rfl
  | some stop =>
    obtain ⟨inside, -, -⟩ := List.findIdx?_eq_some_iff_getElem.mp found
    have text : 0 + stop ≤ pending.length := by omega
    change (checkedParse lib pending stop >>= fun calls =>
      eraseFront pending (stop + 1) >>= fun rest => pure (some (calls, rest))) = _
    rw [eraseFront_eq inside, checkedParse]
    by_cases nonempty : 0 < stop
    · rw [if_pos nonempty, slice_eq text, List.drop_zero, Option.bind_eq_bind, Option.bind_some,
        if_pos nonempty]
      change ((match lib.parse (pending.take stop) with
        | .ok js => pure [ClusterCall.handleClusterMessage js]
        | .error _ => pure []) >>= _) = _
      cases lib.parse (pending.take stop) <;> rfl
    · rw [if_neg nonempty, Option.bind_eq_bind, Option.bind_some, if_neg nonempty]
      rfl

theorem checkedTurn_eq (lib : JsonLibrary) (pending : Bytes) :
    checkedTurn lib pending = .ok (takeMessage lib pending) := by
  cases pending with
  | nil => rfl
  | cons first more =>
    rw [takeMessage, checkedTurn, if_neg (List.cons_ne_nil first more)]
    change
      (if first = 79 then checkedFrame (first :: more) else checkedText lib (first :: more)) = _
    by_cases frame : first = 79
    · rw [if_pos frame, if_pos frame, checkedFrame_eq]
    · rw [if_neg frame, if_neg frame, checkedText_eq]

/-- The loop ends within as many turns as there are bytes, and one more. -/
theorem checkedLoop_eq (lib : JsonLibrary) {turns : ℕ} (pending : Bytes)
    (enough : pending.length < turns) :
    checkedLoop lib turns pending = .ok (some ((clusterDecoder lib).drain pending)) := by
  induction turns generalizing pending with
  | zero => exact absurd enough (Nat.not_lt_zero _)
  | succ turns ih =>
    rw [checkedLoop, checkedTurn_eq]
    cases taken : takeMessage lib pending with
    | none =>
      rw [Decoder.drain_wait taken]
      rfl
    | some result =>
      obtain ⟨calls, rest⟩ := result
      have fewer := takeMessage_shrinks taken
      rw [Decoder.drain_take taken]
      have left := ih rest (by omega)
      change (checkedLoop lib turns rest >>= _) = _
      rw [left]
      rfl

/-! ### What is left -/

/-- Nothing that is complete, and nothing that can never be completed, is at the front. -/
structure BufferSettled (rest : Bytes) : Prop where
  noFrame : ¬∃ header bodyLen toUser more, IsHeader header bodyLen toUser ∧ ¬bodyLen < 4 ∧
    bodyLen.toNat - 4 ≤ more.length ∧ rest = header ++ more
  noShortBody : ¬∃ header bodyLen toUser more, IsHeader header bodyLen toUser ∧ bodyLen < 4 ∧
    rest = header ++ more
  noOtherMagic : ¬∃ magic more, magic.length = 4 ∧ magic.head? = some 79 ∧
    magic ≠ kOneChatFrameMagic ∧ rest = magic ++ more
  noText : ¬∃ text more, (text ++ [nul]).head? ≠ some 79 ∧ nul ∉ text ∧
    rest = text ++ [nul] ++ more

theorem bufferSettled_of_waits {rest : Bytes} (waits : takeMessage lib rest = none) :
    BufferSettled rest where
  noFrame := by
    rintro ⟨header, bodyLen, toUser, more, isHeader, long, whole, rfl⟩
    rw [takeMessage_header lib isHeader, takeFrame_header isHeader long,
      if_neg (Nat.not_lt.mpr whole)] at waits
    cases waits
  noShortBody := by
    rintro ⟨header, bodyLen, toUser, more, isHeader, short, rfl⟩
    have malformed : malformedHeader (header ++ more) = true := by
      rw [malformedHeader_header isHeader]
      exact decide_eq_true short
    rw [takeMessage_malformed malformed] at waits
    cases waits
  noOtherMagic := by
    rintro ⟨magic, more, four, letter, other, rfl⟩
    have malformed : malformedHeader (magic ++ more) = true := by
      apply malformedHeader_eq_true.mpr
      refine ⟨?_, ?_, Or.inl ?_⟩
      · rw [List.head?_append, letter, Option.some_or]
      · rw [List.length_append, four]
        exact Nat.le_add_right 4 _
      · rwa [← four, List.take_left]
    rw [takeMessage_malformed malformed] at waits
    cases waits
  noText := by
    rintro ⟨text, more, letter, free, rfl⟩
    obtain ⟨calls, taken⟩ := takeMessage_closed letter free
    rw [taken more] at waits
    cases waits

/-- The length of a frame is the one meant, for every length of a body. -/
theorem frameLen_checked (bodyLen : UInt32) :
    ∃ whole frameLen, addSize (4 + 8) bodyLen.toUInt64 = .ok whole ∧
      subSize whole 4 = .ok frameLen ∧ frameLen.toNat = 4 + 8 + bodyLen.toNat - 4 := by
  refine ⟨_, _, addSize_bodyLen bodyLen, subSize_frameLen bodyLen, ?_⟩
  rw [frameLen_toNat]
  omega

/-- **Hostile bytes do no harm.** Whatever is pending and whatever comes, the loop of
`ClusterServer::onMessage` ends without a fault; it has done what the unchecked one does, and
what it leaves in the buffer is settled. The length of a frame is computed exactly for every
length of its body. -/
theorem onMessage_harmless (lib : JsonLibrary) (session : ClusterSession) (buffer : Bytes) :
    (∃ calls rest,
      checkedLoop lib ((session.context.pending ++ buffer).length + 1)
        (session.context.pending ++ buffer) = .ok (some (calls, rest)) ∧
      clusterOnMessage lib session buffer = ⟨.string rest, session.calls ++ calls⟩ ∧
      BufferSettled rest) ∧
      ∀ bodyLen : UInt32, ∃ whole frameLen, addSize (4 + 8) bodyLen.toUInt64 = .ok whole ∧
        subSize whole 4 = .ok frameLen ∧ frameLen.toNat = 4 + 8 + bodyLen.toNat - 4 := by
  have ends := checkedLoop_eq lib (session.context.pending ++ buffer) (Nat.lt_succ_self _)
  have waits : (clusterDecoder lib).take ((clusterDecoder lib).drain
      (session.context.pending ++ buffer)).2 = none := Decoder.take_drain _
  exact ⟨⟨_, _, ends, rfl, bufferSettled_of_waits waits⟩, frameLen_checked⟩

end ClusterChat
