/-
# The inter-node stream

Nodes exchange one-to-one messages in a light frame, `ONC1` followed by the
length of the body, the recipient and the client's message, and everything else
as JSON text closed by NUL. The sender composes both; `ClusterServer::onMessage`
tells them apart by the first byte and takes them off the bytes pending on the
connection.

The layout is written down twice in the source, once on each side. The receiver
is a decoder on a growing buffer and every message the sender can compose is a
code for it, so that a stream of messages comes out as it went in, however TCP
cuts it.
-/

import ClusterChat.Data.JsonText
import ClusterChat.Data.Search
import ClusterChat.Streams.Decoder

namespace ClusterChat

/-- `ONC1`. -/
def kOneChatFrameMagic : Bytes := [79, 78, 67, 49]

/-! ### The sender -/

/-- The frame that `ClusterRouter::sendOneChat` composes. -/
def oneChatFrame (toUser : UserId) (payload : Bytes) : Bytes :=
  appendUint32 (appendUint32 kOneChatFrameMagic (.ofNat (4 + payload.length))) toUser.toUInt32 ++
    payload

/-- The object that `ClusterRouter::sendGroupChat` composes. -/
def groupChatJson (fromNode toNode : Bytes) (toUsers : List UserId) (payload traceId : Bytes) :
    Json :=
  Json.null
    |>.set "msgId" (.int EnMsgType.nodeRouteGroupChatMsg.msgId.toInt)
    |>.set "fromNode" (.str fromNode)
    |>.set "toNode" (.str toNode)
    |>.set "toUsers" (.ofIntVector toUsers)
    |>.set "payload" (.str payload)
    |>.set "traceId" (.str traceId)

/-! ### The receiver -/

/-- The calls that `ClusterServer::onMessage` makes on the service. -/
inductive ClusterCall
  | handleClusterOneChatFrame (toUser : UserId) (payload : Bytes)
  | handleClusterMessage (js : Json)

/-- What a node asks another one to do. -/
inductive ClusterRequest
  | oneChat (toUser : UserId) (payload : Bytes)
  | groupChat (toUsers : List UserId) (payload : Bytes)

/-- What `handleClusterOneChat` reads before it goes on as for a frame. -/
def readClusterOneChat (js : Json) : Except JsonException ClusterRequest := do
  let toUser ← js.field "toUser" >>= Json.getInt
  let payload ← js.field "payload" >>= Json.getString
  return .oneChat toUser payload

/-- What `handleClusterGroupChat` reads before it delivers. -/
def readClusterGroupChat (js : Json) : Except JsonException ClusterRequest := do
  let toUsers ← js.field "toUsers" >>= Json.getIntVector
  let payload ← js.field "payload" >>= Json.getString
  return .groupChat toUsers payload

/-- The request in a JSON message; none in one of an unknown kind, which is
only logged. -/
def readClusterMessage (js : Json) : Except JsonException (Option ClusterRequest) := do
  let msgId ← js.field "msgId" >>= Json.getInt
  if msgId = EnMsgType.nodeRouteOneChatMsg.msgId then return some (← readClusterOneChat js)
  if msgId = EnMsgType.nodeRouteGroupChatMsg.msgId then return some (← readClusterGroupChat js)
  return none

/-- The request that a call carries out, or the exception it throws. -/
def ClusterCall.request : ClusterCall → Except JsonException (Option ClusterRequest)
  | handleClusterOneChatFrame toUser payload => .ok (some (.oneChat toUser payload))
  | handleClusterMessage js => readClusterMessage js

/-- The branch of the loop for a buffer that starts like a frame. A buffer that
is cleared is empty when the loop looks at it again. -/
def takeFrame (pending : Bytes) : Option (List ClusterCall × Bytes) :=
  if pending.length < 4 then none
  else if pending.take 4 = kOneChatFrameMagic then
    if pending.length < 4 + 8 then none
    else
      (readUint32 (pending.drop 4)).bind fun bodyLen =>
        if bodyLen < 4 then some ([], [])
        else
          let frameLen : UInt64 := 4 + 8 + bodyLen.toUInt64 - 4
          if pending.length < frameLen.toNat then none
          else
            (readUint32 (pending.drop (4 + 4))).bind fun toUser =>
              let payload := (pending.drop (4 + 8)).take (bodyLen.toUInt64 - 4).toNat
              some ([.handleClusterOneChatFrame toUser.toInt32 payload],
                pending.drop frameLen.toNat)
  else some ([], [])

/-- The branch of the loop for JSON text. An exception of the parser is logged
and the text is erased all the same. -/
def takeText (lib : JsonLibrary) (pending : Bytes) : Option (List ClusterCall × Bytes) := do
  let stop ← pending.findIdx? (· = nul)
  let calls :=
    if 0 < stop then
      match lib.parse (pending.take stop) with
      | .ok js => [.handleClusterMessage js]
      | .error _ => []
    else []
  return (calls, pending.drop (stop + 1))

/-- One turn of the loop in `ClusterServer::onMessage`. -/
def takeMessage (lib : JsonLibrary) (pending : Bytes) : Option (List ClusterCall × Bytes) :=
  match pending with
  | [] => none
  | first :: _ =>
    if first = 79 then takeFrame pending else takeText lib pending

/-- The length of a frame is computed without overflow. -/
theorem frameLen_toNat (bodyLen : UInt32) :
    (4 + 8 + bodyLen.toUInt64 - 4).toNat = bodyLen.toNat + 8 := by
  have small := bodyLen.toNat_lt
  have wide : (4 + 8 + bodyLen.toUInt64 : UInt64).toNat = 12 + bodyLen.toNat := by
    rw [UInt64.toNat_add, UInt32.toNat_toUInt64]
    exact Nat.mod_eq_of_lt (by simp; omega)
  rw [UInt64.toNat_sub_of_le _ _ (by rw [UInt64.le_iff_toNat_le, wide]; simp; omega), wide]
  simp
  omega

theorem takeFrame_shrinks {pending rest : Bytes} {calls : List ClusterCall}
    (taken : takeFrame pending = some (calls, rest)) : rest.length < pending.length := by
  unfold takeFrame at taken
  by_cases short : pending.length < 4
  · rw [if_pos short] at taken
    cases taken
  rw [if_neg short] at taken
  by_cases magic : pending.take 4 = kOneChatFrameMagic
  · rw [if_pos magic] at taken
    by_cases header : pending.length < 4 + 8
    · rw [if_pos header] at taken
      cases taken
    rw [if_neg header] at taken
    obtain ⟨bodyLen, -, taken⟩ := Option.bind_eq_some_iff.mp taken
    by_cases small : bodyLen < 4
    · rw [if_pos small] at taken
      cases taken
      simp only [List.length_nil]
      omega
    · simp only [if_neg small, frameLen_toNat] at taken
      by_cases more : pending.length < bodyLen.toNat + 8
      · rw [if_pos more] at taken
        cases taken
      · rw [if_neg more] at taken
        obtain ⟨toUser, -, taken⟩ := Option.bind_eq_some_iff.mp taken
        cases taken
        rw [List.length_drop]
        omega
  · rw [if_neg magic] at taken
    cases taken
    simp only [List.length_nil]
    omega

theorem takeText_shrinks {lib : JsonLibrary} {pending rest : Bytes} {calls : List ClusterCall}
    (taken : takeText lib pending = some (calls, rest)) : rest.length < pending.length := by
  obtain ⟨stop, found, result⟩ := Option.bind_eq_some_iff.mp taken
  obtain ⟨inside, -, -⟩ := List.findIdx?_eq_some_iff_getElem.mp found
  cases result
  rw [List.length_drop]
  omega

theorem takeMessage_shrinks {lib : JsonLibrary} {pending rest : Bytes} {calls : List ClusterCall}
    (taken : takeMessage lib pending = some (calls, rest)) : rest.length < pending.length := by
  cases pending with
  | nil => cases taken
  | cons first more =>
    rw [takeMessage] at taken
    by_cases frame : first = 79
    · rw [if_pos frame] at taken
      exact takeFrame_shrinks taken
    · rw [if_neg frame] at taken
      exact takeText_shrinks taken

/-- The receiver's loop as a decoder. -/
def clusterDecoder (lib : JsonLibrary) : Decoder UInt8 ClusterCall :=
  ⟨takeMessage lib, takeMessage_shrinks⟩

/-- An inter-node connection, with the calls made for it so far. -/
structure ClusterSession where
  context : ConnContext
  calls : List ClusterCall

/-- `ClusterServer::onMessage`. -/
def clusterOnMessage (lib : JsonLibrary) (session : ClusterSession) (buffer : Bytes) :
    ClusterSession :=
  let (calls, pending) := (clusterDecoder lib).drain (session.context.pending ++ buffer)
  ⟨.string pending, session.calls ++ calls⟩

/-- `ClusterServer::onConnection` on a connection that came up. -/
def clusterOnConnected : ClusterSession := ⟨.string [], []⟩

/-! ### What a frame decodes to -/

/-- The front of a frame, up to the payload. -/
def frameHeader (bodyLen toUser : UInt32) : Bytes :=
  kOneChatFrameMagic ++ (uint32Bytes bodyLen ++ uint32Bytes toUser)

@[simp] theorem frameHeader_length (bodyLen toUser : UInt32) :
    (frameHeader bodyLen toUser).length = 12 := rfl

theorem oneChatFrame_eq (toUser : UserId) (payload : Bytes) :
    oneChatFrame toUser payload =
      frameHeader (.ofNat (4 + payload.length)) toUser.toUInt32 ++ payload := by
  simp [oneChatFrame, appendUint32, frameHeader]

theorem payloadLen_toNat {bodyLen : UInt32} (long : ¬bodyLen < 4) :
    (bodyLen.toUInt64 - 4).toNat = bodyLen.toNat - 4 := by
  have enough : 4 ≤ bodyLen.toNat := by simpa [UInt32.lt_iff_toNat_lt] using long
  rw [UInt64.toNat_sub_of_le _ _ (by rw [UInt64.le_iff_toNat_le]; simpa using enough)]
  simp

/-- A complete header: the magic and the two words behind it. -/
structure IsHeader (header : Bytes) (bodyLen toUser : UInt32) : Prop where
  length : header.length = 12
  magic : header.take 4 = kOneChatFrameMagic
  bodyLen : readUint32 (header.drop 4) = some bodyLen
  toUser : readUint32 (header.drop 8) = some toUser

theorem frameHeader_isHeader (bodyLen toUser : UInt32) :
    IsHeader (frameHeader bodyLen toUser) bodyLen toUser where
  length := rfl
  magic := rfl
  bodyLen := readUint32_uint32Bytes bodyLen (uint32Bytes toUser)
  toUser := by
    have read := readUint32_uint32Bytes toUser []
    rwa [List.append_nil] at read

section Header

variable {header : Bytes} {bodyLen toUser : UInt32}

/-- Behind a complete header the decoder waits for the payload or takes it. -/
theorem takeFrame_header (isHeader : IsHeader header bodyLen toUser) (long : ¬bodyLen < 4)
    (more : Bytes) :
    takeFrame (header ++ more) =
      if more.length < bodyLen.toNat - 4 then none
      else some ([.handleClusterOneChatFrame toUser.toInt32 (more.take (bodyLen.toNat - 4))],
        more.drop (bodyLen.toNat - 4)) := by
  have enough : 4 ≤ bodyLen.toNat := by simpa [UInt32.lt_iff_toNat_lt] using long
  have twelve := isHeader.length
  have length : (header ++ more).length = 12 + more.length := by
    rw [List.length_append, twelve]
  have magic : (header ++ more).take 4 = kOneChatFrameMagic := by
    rw [List.take_append_of_le_length (by omega)]
    exact isHeader.magic
  have atLen : readUint32 ((header ++ more).drop 4) = some bodyLen := by
    rw [List.drop_append_of_le_length (by omega)]
    exact readUint32_append isHeader.bodyLen more
  have atUser : readUint32 ((header ++ more).drop (4 + 4)) = some toUser := by
    rw [List.drop_append_of_le_length (by omega)]
    exact readUint32_append isHeader.toUser more
  have atPayload : (header ++ more).drop (4 + 8) = more := by
    rw [show 4 + 8 = header.length from twelve.symm, List.drop_left]
  have atRest : (header ++ more).drop (bodyLen.toNat + 8) = more.drop (bodyLen.toNat - 4) := by
    rw [show bodyLen.toNat + 8 = (4 + 8) + (bodyLen.toNat - 4) by omega,
      ← List.drop_drop, atPayload]
  rw [takeFrame, if_neg (by omega), if_pos magic, if_neg (by omega), atLen, Option.bind_some,
    if_neg long]
  simp only [frameLen_toNat, atRest, atUser, atPayload, Option.bind_some, payloadLen_toNat long,
    length]
  by_cases wait : more.length < bodyLen.toNat - 4
  · rw [if_pos wait, if_pos (by omega)]
  · rw [if_neg wait, if_neg (by omega)]

end Header

/-! ### Messages and their codes -/

/-- A message that one node sends another: as `sendOneChat` composes it, as
`sendGroupChat` does, or an object of the older one-to-one form. What is put
into JSON must be valid text, or it could not be dumped. -/
inductive InterNodeMessage
  | oneChat (toUser : UserId) (payload : Bytes) (short : payload.length < 2 ^ 32 - 4)
  | groupChat (fromNode toNode : Bytes) (toUsers : List UserId) (payload traceId : Bytes)
      (nodes : ValidUtf8 fromNode ∧ ValidUtf8 toNode) (trace : ValidUtf8 traceId)
      (valid : ValidUtf8 payload)
  | legacyOneChat (members : List (String × Json)) (toUser : UserId) (payload : Bytes)
      (wellFormed : (Json.obj members).WellFormed)
      (kind : members.lookup "msgId" = some (.int EnMsgType.nodeRouteOneChatMsg.msgId.toInt))
      (recipient : members.lookup "toUser" = some (.int toUser.toInt))
      (content : members.lookup "payload" = some (.str payload))

/-- A value as it goes on the wire; nothing goes when dumping throws. -/
def jsonText (lib : JsonLibrary) (js : Json) : Bytes :=
  match lib.dump js with
  | .ok text => text ++ [nul]
  | .error _ => []

namespace InterNodeMessage

/-- The bytes of a message. -/
def encode (lib : JsonLibrary) : InterNodeMessage → Bytes
  | oneChat toUser payload _ => oneChatFrame toUser payload
  | groupChat fromNode toNode toUsers payload traceId _ _ _ =>
    jsonText lib (groupChatJson fromNode toNode toUsers payload traceId)
  | legacyOneChat members _ _ _ _ _ _ => jsonText lib (.obj members)

/-- The call that a message is to cause. -/
def call : InterNodeMessage → ClusterCall
  | oneChat toUser payload _ => .handleClusterOneChatFrame toUser payload
  | groupChat fromNode toNode toUsers payload traceId _ _ _ =>
    .handleClusterMessage (groupChatJson fromNode toNode toUsers payload traceId)
  | legacyOneChat members _ _ _ _ _ _ => .handleClusterMessage (.obj members)

/-- The request that a message stands for. -/
def request : InterNodeMessage → ClusterRequest
  | oneChat toUser payload _ => .oneChat toUser payload
  | groupChat _ _ toUsers payload _ _ _ _ => .groupChat toUsers payload
  | legacyOneChat _ toUser payload _ _ _ _ => .oneChat toUser payload

end InterNodeMessage

/-- What goes on the wire for an object that can be dumped. -/
theorem jsonText_obj (lib : JsonLibrary) {members : List (String × Json)}
    (wellFormed : (Json.obj members).WellFormed) :
    ∃ text, jsonText lib (.obj members) = text ++ [nul] ∧ nul ∉ text ∧
      lib.parse text = .ok (.obj members) ∧ text.head? = some '{'.toUInt8 := by
  obtain ⟨text, dumped, free, parsed⟩ := lib.dump_ok wellFormed
  exact ⟨text, by rw [jsonText, dumped], free, parsed, lib.dump_object dumped⟩

theorem takeMessage_text {lib : JsonLibrary} {text : Bytes} {js : Json} (free : nul ∉ text)
    (parsed : lib.parse text = .ok js) (brace : text.head? = some '{'.toUInt8) (rest : Bytes) :
    takeMessage lib (text ++ [nul] ++ rest) = some ([.handleClusterMessage js], rest) := by
  obtain ⟨more, rfl⟩ : ∃ more, text = '{'.toUInt8 :: more := by
    cases text with
    | nil => cases brace
    | cons first more => exact ⟨more, by rw [Option.some.inj brace]⟩
  generalize whole : '{'.toUInt8 :: more = text at free parsed
  have found : (text ++ [nul] ++ rest).findIdx? (· = nul) = some text.length := by
    rw [List.append_assoc]
    exact findIdx?_behind free rest
  have start : takeMessage lib (text ++ [nul] ++ rest) = takeText lib (text ++ [nul] ++ rest) := by
    rw [← whole]
    rfl
  have front : (text ++ [nul] ++ rest).take text.length = text := by
    rw [List.append_assoc, List.take_left]
  have back : (text ++ [nul] ++ rest).drop (text.length + 1) = rest := by
    rw [← List.length_singleton (a := nul), ← List.length_append, List.drop_left]
  rw [start, takeText, found, Option.bind_eq_bind, Option.bind_some, front, back,
    if_pos (by simp [← whole]), parsed]
  rfl

theorem takeMessage_text_partial {lib : JsonLibrary} {text part : Bytes} (free : nul ∉ text)
    (brace : text.head? = some '{'.toUInt8) (incomplete : part <+: text ++ [nul])
    (proper : part ≠ text ++ [nul]) : takeMessage lib part = none := by
  have inside : part <+: text := by
    rcases List.prefix_concat_iff.mp incomplete with whole | inside
    · exact absurd whole proper
    · exact inside
  have missed : part.findIdx? (· = nul) = none :=
    findIdx?_of_notMem fun listed => free (inside.subset listed)
  cases part with
  | nil => rfl
  | cons first more =>
    have same : first = '{'.toUInt8 := by
      obtain ⟨later, rfl⟩ := inside
      exact Option.some.inj brace
    rw [takeMessage, if_neg (by rw [same]; decide), takeText, missed]
    rfl

section Header

variable {header : Bytes} {bodyLen toUser : UInt32}

/-- A buffer that starts with the magic is read as a frame. -/
theorem takeMessage_header (lib : JsonLibrary) (isHeader : IsHeader header bodyLen toUser)
    (more : Bytes) : takeMessage lib (header ++ more) = takeFrame (header ++ more) := by
  have magic := isHeader.magic
  cases header with
  | nil => cases magic
  | cons first rest =>
    have letter : first = 79 := Option.some.inj (congrArg List.head? magic)
    rw [List.cons_append, takeMessage, if_pos letter]

/-- Short of a complete header the decoder waits. -/
theorem takeMessage_header_partial {lib : JsonLibrary} {payload part : Bytes}
    (isHeader : IsHeader header bodyLen toUser) (incomplete : part <+: header ++ payload)
    (short : part.length < 12) : takeMessage lib part = none := by
  have inside : part <+: header := by
    rw [← isHeader.length] at short
    exact List.prefix_of_prefix_length_le incomplete (List.prefix_append _ _) (le_of_lt short)
  cases part with
  | nil => rfl
  | cons first more =>
    obtain ⟨later, rfl⟩ := inside
    have letter : first = 79 := Option.some.inj (congrArg List.head? isHeader.magic)
    rw [takeMessage, if_pos letter, takeFrame]
    by_cases few : (first :: more).length < 4
    · rw [if_pos few]
    · have same : (first :: more).take 4 = kOneChatFrameMagic := by
        have magic := isHeader.magic
        rwa [List.take_append_of_le_length (Nat.not_lt.mp few)] at magic
      rw [if_neg few, if_pos same, if_pos short]

theorem takeMessage_frame_partial {lib : JsonLibrary} {payload part : Bytes}
    (isHeader : IsHeader header bodyLen toUser) (long : ¬bodyLen < 4)
    (fits : bodyLen.toNat - 4 = payload.length) (incomplete : part <+: header ++ payload)
    (proper : part ≠ header ++ payload) : takeMessage lib part = none := by
  by_cases short : part.length < 12
  · exact takeMessage_header_partial isHeader incomplete short
  · have enough : header.length ≤ part.length := by
      rw [isHeader.length]
      exact Nat.not_lt.mp short
    obtain ⟨more, rfl⟩ := List.prefix_of_prefix_length_le (List.prefix_append _ _) incomplete enough
    rw [List.prefix_append_right_inj] at incomplete
    have less : more.length < payload.length := by
      refine lt_of_le_of_ne incomplete.length_le fun same => proper ?_
      rw [incomplete.eq_of_length same]
    rw [takeMessage_header lib isHeader, takeFrame_header isHeader long, if_pos (by omega)]

end Header

theorem groupChatJson_wellFormed {fromNode toNode payload traceId : Bytes} (toUsers : List UserId)
    (nodes : ValidUtf8 fromNode ∧ ValidUtf8 toNode) (trace : ValidUtf8 traceId)
    (valid : ValidUtf8 payload) :
    (groupChatJson fromNode toNode toUsers payload traceId).WellFormed := by
  -- member by member, the last one put in first
  refine .set ?_ _ (.str trace)
  refine .set ?_ _ (.str valid)
  refine .set ?_ _ (.intVector toUsers)
  refine .set ?_ _ (.str nodes.2)
  refine .set ?_ _ (.str nodes.1)
  exact .set (show (Json.obj Json.null.members).WellFormed from .empty) _ (.int32 _)

theorem readClusterMessage_groupChatJson (fromNode toNode : Bytes) (toUsers : List UserId)
    (payload traceId : Bytes) :
    readClusterMessage (groupChatJson fromNode toNode toUsers payload traceId) =
      .ok (some (.groupChat toUsers payload)) := by
  have kind : ((groupChatJson fromNode toNode toUsers payload traceId).field "msgId" >>=
      Json.getInt) = .ok EnMsgType.nodeRouteGroupChatMsg.msgId := by
    simp [groupChatJson, Json.set, Json.lookup_insertMember]
    rfl
  have recipients : ((groupChatJson fromNode toNode toUsers payload traceId).field "toUsers" >>=
      Json.getIntVector) = .ok toUsers := by
    simp [groupChatJson, Json.set, Json.lookup_insertMember]
    exact Json.getIntVector_ofIntVector toUsers
  have content : ((groupChatJson fromNode toNode toUsers payload traceId).field "payload" >>=
      Json.getString) = .ok payload := by
    simp [groupChatJson, Json.set, Json.lookup_insertMember]
    rfl
  rw [readClusterMessage, kind]
  simp only [readClusterGroupChat, recipients, content]
  rfl

theorem readClusterMessage_legacy {members : List (String × Json)} {toUser : UserId}
    {payload : Bytes}
    (kind : members.lookup "msgId" = some (.int EnMsgType.nodeRouteOneChatMsg.msgId.toInt))
    (recipient : members.lookup "toUser" = some (.int toUser.toInt))
    (content : members.lookup "payload" = some (.str payload)) :
    readClusterMessage (.obj members) = .ok (some (.oneChat toUser payload)) := by
  have msgId : ((Json.obj members).field "msgId" >>= Json.getInt) =
      .ok EnMsgType.nodeRouteOneChatMsg.msgId := by
    rw [Json.field_obj, kind]
    rfl
  have user : ((Json.obj members).field "toUser" >>= Json.getInt) = .ok toUser := by
    rw [Json.field_obj, recipient]
    exact Json.getInt_int toUser
  have text : ((Json.obj members).field "payload" >>= Json.getString) = .ok payload := by
    rw [Json.field_obj, content]
    rfl
  rw [readClusterMessage, msgId]
  simp only [readClusterOneChat, user, text]
  rfl

/-! ### The receiver undoes the sender -/

namespace InterNodeMessage

/-- The call for a message asks for what the message stands for. -/
theorem call_request (message : InterNodeMessage) :
    message.call.request = .ok (some message.request) := by
  cases message with
  | oneChat toUser payload short => rfl
  | groupChat fromNode toNode toUsers payload traceId =>
    exact readClusterMessage_groupChatJson fromNode toNode toUsers payload traceId
  | legacyOneChat members toUser payload wellFormed kind recipient content =>
    exact readClusterMessage_legacy kind recipient content

/-- How a message is taken: as JSON text or as a frame. -/
theorem encode_cases (lib : JsonLibrary) (message : InterNodeMessage) :
    (∃ text js, message.encode lib = text ++ [nul] ∧ nul ∉ text ∧ lib.parse text = .ok js ∧
        text.head? = some '{'.toUInt8 ∧ message.call = .handleClusterMessage js) ∨
    (∃ bodyLen toUser payload, message.encode lib = frameHeader bodyLen toUser ++ payload ∧
        ¬bodyLen < 4 ∧ bodyLen.toNat - 4 = payload.length ∧
        message.call = .handleClusterOneChatFrame toUser.toInt32 payload) := by
  cases message with
  | oneChat toUser payload short =>
    have length : (UInt32.ofNat (4 + payload.length)).toNat = 4 + payload.length :=
      UInt32.toNat_ofNat_of_lt (by simp [UInt32.size]; omega)
    refine .inr ⟨_, _, payload, oneChatFrame_eq toUser payload, ?_, by omega, ?_⟩
    · rw [UInt32.lt_iff_toNat_lt, length]
      simp
    · rw [Int32.toInt32_toUInt32]
      rfl
  | groupChat fromNode toNode toUsers payload traceId nodes trace valid =>
    obtain ⟨text, encoded, free, parsed, brace⟩ :=
      jsonText_obj lib (groupChatJson_wellFormed toUsers nodes trace valid)
    exact .inl ⟨text, _, encoded, free, parsed, brace, rfl⟩
  | legacyOneChat members toUser payload wellFormed kind recipient content =>
    obtain ⟨text, encoded, free, parsed, brace⟩ := jsonText_obj lib wellFormed
    exact .inl ⟨text, _, encoded, free, parsed, brace, rfl⟩

/-- The messages as codes for the receiver. -/
def code (lib : JsonLibrary) : Decoder.Code (clusterDecoder lib) InterNodeMessage where
  encode := encode lib
  events message := [message.call]
  take_encode message rest := by
    rcases message.encode_cases lib with ⟨text, js, encoded, free, parsed, brace, call⟩ |
      ⟨bodyLen, toUser, payload, encoded, long, fits, call⟩
    · rw [encoded, call]
      exact takeMessage_text free parsed brace rest
    · rw [encoded, call, List.append_assoc]
      have isHeader := frameHeader_isHeader bodyLen toUser
      refine (takeMessage_header lib isHeader _).trans ?_
      rw [takeFrame_header isHeader long, if_neg (by simp [fits]), fits, List.take_left,
        List.drop_left]
  take_partial {message part} incomplete proper := by
    rcases message.encode_cases lib with ⟨text, js, encoded, free, parsed, brace, call⟩ |
      ⟨bodyLen, toUser, payload, encoded, long, fits, call⟩
    · rw [encoded] at incomplete proper
      exact takeMessage_text_partial free brace incomplete proper
    · rw [encoded] at incomplete proper
      have isHeader := frameHeader_isHeader bodyLen toUser
      exact takeMessage_frame_partial isHeader long fits incomplete proper

end InterNodeMessage

/-- The calls on one connection are the feeds of the decoder. -/
theorem clusterOnMessage_foldl (lib : JsonLibrary) (chunks : List Bytes)
    (session : ClusterSession) :
    let fed := chunks.foldl (clusterDecoder lib).feed (session.calls, session.context.pending)
    (chunks.foldl (clusterOnMessage lib) session).calls = fed.1 ∧
      (chunks.foldl (clusterOnMessage lib) session).context.pending = fed.2 := by
  induction chunks generalizing session with
  | nil => exact ⟨rfl, rfl⟩
  | cons chunk chunks ih => exact ih (clusterOnMessage lib session chunk)

/-- **Inter-node decode undoes encode.** Whatever messages a node sends on one
connection, and however their bytes are cut, the receiver makes one call for each,
in order; each call asks for what its message stands for, the same for both forms
of a one-to-one message, and nothing is left pending. -/
theorem clusterOnMessage_stream (lib : JsonLibrary) (messages : List InterNodeMessage)
    (chunks : List Bytes)
    (cutting : chunks.flatten = (messages.map fun message => message.encode lib).flatten) :
    let final := chunks.foldl (clusterOnMessage lib) clusterOnConnected
    final.calls = messages.map InterNodeMessage.call ∧
      final.calls.map ClusterCall.request =
        messages.map (fun message => .ok (some message.request)) ∧
      final.context.pending = [] := by
  intro final
  obtain ⟨calls, pending⟩ := clusterOnMessage_foldl lib chunks clusterOnConnected
  have fed : chunks.foldl (clusterDecoder lib).feed ([], []) =
      ((InterNodeMessage.code lib).meaning messages, []) :=
    (InterNodeMessage.code lib).feed_stream cutting
  have means : (InterNodeMessage.code lib).meaning messages =
      messages.map InterNodeMessage.call := by
    rw [List.map_eq_flatMap, List.flatMap_def]
    rfl
  have made : final.calls = messages.map InterNodeMessage.call := by
    rw [← means]
    exact calls.trans (congrArg Prod.fst fed)
  refine ⟨made, ?_, pending.trans (congrArg Prod.snd fed)⟩
  rw [made, List.map_map]
  exact List.map_congr_left fun message _ => message.call_request

/-- Three messages of the three kinds, each byte in a chunk of its own: a
negative recipient, a payload with a NUL and the magic in it, a group of two. -/
theorem clusterOnMessage_stream_bytewise :
    let messages : List InterNodeMessage :=
      [.oneChat (-7) [0, 79, 78, 67, 49] (by decide),
        .groupChat [65] [66] [1, -2] [104, 105] [65] ⟨⟨['A'], rfl⟩, ⟨['B'], rfl⟩⟩ ⟨['A'], rfl⟩
          ⟨['h', 'i'], rfl⟩,
        .legacyOneChat [("msgId", .int 100), ("payload", .str [104]), ("toUser", .int 3)] 3 [104]
          (.obj (by decide) (by
            simp only [List.forall_mem_cons, List.not_mem_nil, false_implies,
              implies_true, and_true]
            exact ⟨.int (by decide) (by decide), .str ⟨['h'], rfl⟩, .int (by decide) (by decide)⟩))
          rfl rfl rfl]
    let stream := (messages.map fun message => message.encode JsonText.library).flatten
    let final := (stream.map fun byte => [byte]).foldl (clusterOnMessage JsonText.library)
      clusterOnConnected
    final.calls = messages.map InterNodeMessage.call ∧
      final.calls.map ClusterCall.request =
        messages.map (fun message => .ok (some message.request)) ∧
      final.context.pending = [] := by
  intro messages stream
  exact clusterOnMessage_stream JsonText.library messages (stream.map fun byte => [byte])
    (by simp [stream, ← List.flatMap_def])

end ClusterChat
