/-
# Malformed messages

Every handler reads all the members that it needs before it does anything. So a message that
lacks one of them, or has one of a wrong type, ends its handler at once, and nothing is changed;
only `oneChat` counts the message before it reads it.
-/

import ClusterChat.Data.JsonText
import ClusterChat.Service.JsonHandlers

namespace ClusterChat

/-- What a member is converted to. -/
inductive FieldKind
  | int
  | string
  | ints

/-- The values that convert to an `int`: any number, and a boolean. -/
def Json.IsNumeric : Json → Prop
  | int _ => True
  | float _ => True
  | bool _ => True
  | _ => False

/-- The values that a conversion takes. -/
def FieldKind.accepts : FieldKind → Json → Prop
  | int, value => value.IsNumeric
  | string, .str _ => True
  | ints, .arr items => ∀ item ∈ items, item.IsNumeric
  | _, _ => False

/-- The value is an object with such a member. -/
def Json.Carries (js : Json) (field : String × FieldKind) : Prop :=
  ∃ members value, js = .obj members ∧ members.lookup field.1 = some value ∧ field.2.accepts value

/-- The members that the handler of a client's message reads. -/
def clientFields (msgId : Int32) : List (String × FieldKind) :=
  if msgId = EnMsgType.loginMsg.msgId then [("id", .int), ("password", .string)]
  else if msgId = EnMsgType.logoutMsg.msgId then [("id", .int)]
  else if msgId = EnMsgType.regMsg.msgId then [("name", .string), ("password", .string)]
  else if msgId = EnMsgType.oneChatMsg.msgId then [("to", .int), ("id", .int)]
  else if msgId = EnMsgType.addFriendMsg.msgId then [("id", .int), ("friendId", .int)]
  else if msgId = EnMsgType.createGroupMsg.msgId then
    [("id", .int), ("groupname", .string), ("groupdesc", .string)]
  else if msgId = EnMsgType.addGroupMsg.msgId then [("id", .int), ("groupid", .int)]
  else if msgId = EnMsgType.groupChatMsg.msgId then [("id", .int), ("groupid", .int)]
  else []

/-- The members that the handler of another node's message reads. -/
def clusterFields (msgId : Int32) : List (String × FieldKind) :=
  if msgId = EnMsgType.nodeRouteOneChatMsg.msgId then [("toUser", .int), ("payload", .string)]
  else if msgId = EnMsgType.nodeRouteGroupChatMsg.msgId then
    [("toUsers", .ints), ("payload", .string)]
  else []

/-- The kind of the message, or a member that its handler reads, is missing or of a type that
its conversion rejects. -/
def Malformed (fields : Int32 → List (String × FieldKind)) (js : Json) : Prop :=
  ¬js.Carries ("msgId", .int) ∨ ∃ msgId, (js.field "msgId" >>= Json.getInt) = .ok msgId ∧
    ∃ field ∈ fields msgId, ¬js.Carries field

/-! ### Reads that fail -/

section Reads

variable {js : Json} {key : String} {kind : FieldKind}

theorem getInt_rejects {value : Json} (rejected : ¬FieldKind.int.accepts value) :
    ∃ thrown, value.getInt = .error thrown := by
  cases value with
  | int | float | bool => exact absurd trivial rejected
  | null | str | arr | obj => exact ⟨_, rfl⟩

theorem getString_rejects {value : Json} (rejected : ¬FieldKind.string.accepts value) :
    ∃ thrown, value.getString = .error thrown := by
  cases value with
  | str => exact absurd trivial rejected
  | null | int | float | bool | arr | obj => exact ⟨_, rfl⟩

theorem getIntVector_rejects {value : Json} (rejected : ¬FieldKind.ints.accepts value) :
    ∃ thrown, value.getIntVector = .error thrown := by
  cases value with
  | null | int | float | bool | str | obj => exact ⟨_, rfl⟩
  | arr items =>
    rw [Json.getIntVector]
    -- The conversion stops at the first item that is no number.
    induction items with
    | nil =>
      have accepted : FieldKind.ints.accepts (.arr []) := fun _ listed =>
        absurd listed List.not_mem_nil
      exact absurd accepted rejected
    | cons item items ih =>
      rw [List.mapM_cons]
      cases read : item.getInt with
      | error thrown => exact ⟨thrown, rfl⟩
      | ok value =>
        have later : ¬FieldKind.ints.accepts (.arr items) := by
          intro accepted
          apply rejected
          refine List.forall_mem_cons.mpr ⟨?_, accepted⟩
          by_contra here
          obtain ⟨thrown, failed⟩ := getInt_rejects here
          rw [read] at failed
          cases failed
        obtain ⟨thrown, failed⟩ := ih later
        exact ⟨thrown, by rw [failed]; rfl⟩

/-- What a message does not carry cannot be read from it. -/
theorem read_fails {α : Type} {convert : Json → Except JsonException α}
    (rejects : ∀ {value : Json}, ¬kind.accepts value → ∃ thrown, convert value = .error thrown)
    (lacks : ¬js.Carries (key, kind)) : ∃ thrown, (js.field key >>= convert) = .error thrown := by
  have null : ∃ thrown, convert .null = .error thrown := by
    apply rejects
    cases kind <;> exact id
  cases js with
  | null => exact null
  | bool | int | float | str | arr => exact ⟨_, rfl⟩
  | obj members =>
    rw [Json.field_obj]
    cases found : members.lookup key with
    | none => exact null
    | some value => exact rejects fun accepted => lacks ⟨members, value, rfl, found, accepted⟩

end Reads

/-! ### Programs that fail -/

namespace Throwing

variable {α β : Type} {program : Throwing α}

/-- The program ends with an exception before it makes any call. -/
def Fails (program : Throwing α) : Prop := ∃ thrown, program.run = .ret (.error thrown)

variable {js : Json} {key : String}

/-- A program that starts by reading a member fails, unless the message carries the member and
what comes after the read does not fail. -/
theorem read_then_fails {kind : FieldKind} {convert : Json → Except JsonException α}
    (rejects : ∀ {value : Json}, ¬kind.accepts value → ∃ thrown, convert value = .error thrown)
    {cont : α → Throwing β} (rest : js.Carries (key, kind) → ∀ value, Throwing.Fails (cont value)) :
    Throwing.Fails (settle (js.field key >>= convert) >>= cont) := by
  by_cases carries : js.Carries (key, kind)
  · cases js.field key >>= convert with
    | error thrown => exact ⟨thrown, rfl⟩
    | ok value => exact rest carries value
  · obtain ⟨thrown, failed⟩ := read_fails rejects carries
    rw [failed]
    exact ⟨thrown, rfl⟩

theorem readInt_fails {cont : Int32 → Throwing β}
    (rest : js.Carries (key, .int) → ∀ value, Throwing.Fails (cont value)) :
    Throwing.Fails (readInt js key >>= cont) :=
  read_then_fails getInt_rejects rest

theorem readString_fails {cont : Bytes → Throwing β}
    (rest : js.Carries (key, .string) → ∀ value, Throwing.Fails (cont value)) :
    Throwing.Fails (readString js key >>= cont) :=
  read_then_fails getString_rejects rest

theorem readInts_fails {cont : List Int32 → Throwing β}
    (rest : js.Carries (key, .ints) → ∀ value, Throwing.Fails (cont value)) :
    Throwing.Fails (readInts js key >>= cont) :=
  read_then_fails getIntVector_rejects rest

/-- The program ends with an exception; before that it at most counts a message. -/
def FailsCounted (program : Throwing α) : Prop :=
  program.Fails ∨
    ∃ thrown, program.run = .call (.request .countOneChat) fun _ => .ret (.error thrown)

theorem Fails.counted (fails : program.Fails) :
    Throwing.FailsCounted (request .countOneChat >>= fun _ => program) := by
  obtain ⟨thrown, ran⟩ := fails
  refine .inr ⟨thrown, congrArg (Calls.call _) (funext fun _ => ?_)⟩
  exact ran

end Throwing

/-! ### Handlers -/

namespace JsonHandlers

open Throwing

variable {lib : JsonLibrary} {server : Server} {conn : Connection} {number : ℕ} {js : Json}

section Fails

/-- All the members that are listed. -/
theorem carries_two {first second : String × FieldKind} (has : js.Carries first)
    (hasToo : js.Carries second) : ∀ field ∈ [first, second], js.Carries field :=
  List.forall_mem_cons.mpr ⟨has, List.forall_mem_singleton.mpr hasToo⟩

theorem login_fails
    (lacks : ¬∀ field ∈ [("id", FieldKind.int), ("password", .string)], js.Carries field) :
    (login server conn js).Fails := by
  apply readInt_fails
  intro hasId _
  apply readString_fails
  intro hasPassword _
  exact absurd (carries_two hasId hasPassword) lacks

theorem reg_fails
    (lacks : ¬∀ field ∈ [("name", FieldKind.string), ("password", .string)], js.Carries field) :
    (reg conn js).Fails := by
  apply readString_fails
  intro hasName _
  apply readString_fails
  intro hasPassword _
  exact absurd (carries_two hasName hasPassword) lacks

theorem logout_fails (lacks : ¬∀ field ∈ [("id", FieldKind.int)], js.Carries field) :
    (logout server js).Fails := by
  apply readInt_fails
  intro hasId _
  exact absurd (List.forall_mem_singleton.mpr hasId) lacks

/-- The message is counted before anything is read from it. -/
theorem oneChat_fails
    (lacks : ¬∀ field ∈ [("to", FieldKind.int), ("id", .int)], js.Carries field) :
    (oneChat lib server number js).FailsCounted := by
  apply Fails.counted
  apply readInt_fails
  intro hasTo _
  apply readInt_fails
  intro hasId _
  exact absurd (carries_two hasTo hasId) lacks

theorem addFriend_fails
    (lacks : ¬∀ field ∈ [("id", FieldKind.int), ("friendId", .int)], js.Carries field) :
    (addFriend js).Fails := by
  apply readInt_fails
  intro hasId _
  apply readInt_fails
  intro hasFriend _
  exact absurd (carries_two hasId hasFriend) lacks

theorem createGroup_fails
    (lacks : ¬∀ field ∈ [("id", FieldKind.int), ("groupname", .string), ("groupdesc", .string)],
      js.Carries field) :
    (createGroup js).Fails := by
  apply readInt_fails
  intro hasId _
  apply readString_fails
  intro hasName _
  apply readString_fails
  intro hasDesc _
  exact absurd (List.forall_mem_cons.mpr ⟨hasId, carries_two hasName hasDesc⟩) lacks

theorem addGroup_fails
    (lacks : ¬∀ field ∈ [("id", FieldKind.int), ("groupid", .int)], js.Carries field) :
    (addGroup js).Fails := by
  apply readInt_fails
  intro hasId _
  apply readInt_fails
  intro hasGroup _
  exact absurd (carries_two hasId hasGroup) lacks

theorem groupChat_fails
    (lacks : ¬∀ field ∈ [("id", FieldKind.int), ("groupid", .int)], js.Carries field) :
    (groupChat lib server number js).Fails := by
  apply readInt_fails
  intro hasId _
  apply readInt_fails
  intro hasGroup _
  exact absurd (carries_two hasId hasGroup) lacks

/-- Whatever its kind, a message without a member that its handler reads is refused. -/
theorem getHandler_fails {msgId : Int32}
    (lacks : ¬∀ field ∈ clientFields msgId, js.Carries field) :
    (getHandler lib server conn number msgId js).FailsCounted := by
  unfold getHandler
  unfold clientFields at lacks
  split_ifs at lacks ⊢
  · exact .inl (login_fails lacks)
  · exact .inl (logout_fails lacks)
  · exact .inl (reg_fails lacks)
  · exact oneChat_fails lacks
  · exact .inl (addFriend_fails lacks)
  · exact .inl (createGroup_fails lacks)
  · exact .inl (addGroup_fails lacks)
  · exact .inl (groupChat_fails lacks)
  · exact absurd (fun _ listed => absurd listed List.not_mem_nil) lacks

theorem dispatchClient_fails (malformed : Malformed clientFields js) :
    (dispatchClient lib server conn number js).FailsCounted := by
  rcases malformed with noId | ⟨msgId, read, field, listed, lacks⟩
  · exact .inl (readInt_fails fun hasId => absurd hasId noId)
  · rw [dispatchClient, readInt, read, settle_ok_bind]
    exact getHandler_fails fun carries => lacks (carries field listed)

theorem handleClusterOneChat_fails
    (lacks : ¬∀ field ∈ [("toUser", FieldKind.int), ("payload", .string)], js.Carries field) :
    (handleClusterOneChat server number js).Fails := by
  apply readInt_fails
  intro hasToUser _
  apply readString_fails
  intro hasPayload _
  exact absurd (carries_two hasToUser hasPayload) lacks

theorem handleClusterGroupChat_fails
    (lacks : ¬∀ field ∈ [("toUsers", FieldKind.ints), ("payload", .string)], js.Carries field) :
    (handleClusterGroupChat server number js).Fails := by
  apply readInts_fails
  intro hasToUsers _
  apply readString_fails
  intro hasPayload _
  exact absurd (carries_two hasToUsers hasPayload) lacks

theorem handleClusterMessage_fails (malformed : Malformed clusterFields js) :
    (handleClusterMessage server number js).Fails := by
  rcases malformed with noId | ⟨msgId, read, field, listed, lacks⟩
  · exact readInt_fails fun hasId => absurd hasId noId
  · have lacks : ¬∀ field ∈ clusterFields msgId, js.Carries field :=
      fun carries => lacks (carries field listed)
    rw [handleClusterMessage, readInt, read, settle_ok_bind]
    unfold clusterFields at lacks
    split_ifs at lacks ⊢
    · exact handleClusterOneChat_fails lacks
    · exact handleClusterGroupChat_fails lacks
    · exact absurd (fun _ listed => absurd listed List.not_mem_nil) lacks

end Fails

/-! ### Messages as a whole -/

section Segment

variable {models : TableModels} {job : Job} {state : HandlerState} {text : Bytes}
  {handle : Json → Throwing Unit}

theorem onSegment_fails (parsed : lib.parse text = .ok js) (fails : (handle js).Fails) :
    ∃ thrown, (onSegment lib handle text).eval (HandlerState.exec models number job) state =
      some (some thrown, state) := by
  obtain ⟨thrown, ran⟩ := fails
  refine ⟨thrown, ?_⟩
  rw [onSegment, parsed]
  simp only [ran, Calls.ret_bind, Calls.pure_eq, Calls.eval_ret]

theorem onSegment_failsCounted (parsed : lib.parse text = .ok js)
    (fails : (handle js).FailsCounted) :
    ∃ thrown counted,
      (onSegment lib handle text).eval (HandlerState.exec models number job) state =
        some (some thrown, { state with oneChatSource := counted }) := by
  rcases fails with fails | ⟨thrown, ran⟩
  · obtain ⟨thrown, unchanged⟩ := onSegment_fails parsed fails
    exact ⟨thrown, state.oneChatSource, unchanged⟩
  · refine ⟨thrown, state.oneChatSource + 1, ?_⟩
    rw [onSegment, parsed]
    simp only [ran, Calls.call_bind, Calls.ret_bind, Calls.pure_eq, Calls.eval_call, Calls.eval_ret]
    rfl

end Segment

end JsonHandlers

open JsonHandlers in
/-- **Malformed messages change nothing.** A message of a client, or of another node, whose kind
or a member that its handler reads is missing or of a wrong type ends with an exception that
the loop catches, and leaves everything as it was; only the counter of one-to-one messages may
have moved for a client's. -/
theorem malformed_changesNothing (lib : JsonLibrary) (server : Server) (conn : Connection)
    (number : ℕ) (job : Job) (models : TableModels) (state : HandlerState) {text : Bytes}
    {js : Json} (parsed : lib.parse text = .ok js) :
    (Malformed clientFields js → ∃ thrown counted,
      (onSegment lib (dispatchClient lib server conn number) text).eval
          (HandlerState.exec models number job) state =
        some (some thrown, { state with oneChatSource := counted })) ∧
    (Malformed clusterFields js → ∃ thrown,
      (onSegment lib (handleClusterMessage server number) text).eval
          (HandlerState.exec models number job) state =
        some (some thrown, state)) :=
  ⟨fun malformed => onSegment_failsCounted parsed (dispatchClient_fails malformed),
    fun malformed => onSegment_fails parsed (handleClusterMessage_fails malformed)⟩

/-- A login without a password, and a message from another node without a payload. -/
theorem malformed_changesNothing_missing :
    let login := Json.obj [("id", .int 7), ("msgId", .int 1)]
    let routed := Json.obj [("msgId", .int 100), ("toUser", .int 7)]
    let state : HandlerState := ⟨.start 0 (twoServers 8) twoUsers, [], 0⟩
    let server := state.cluster.server 0
    let job : Job := ⟨0, 0, .heartbeat⟩
    let models : TableModels :=
      ⟨fun _ _ tables => (none, tables), fun _ _ tables => tables,
        fun _ _ tables => (none, tables), fun _ _ _ tables => tables⟩
    (∃ thrown counted,
      (JsonHandlers.onSegment JsonText.library
          (JsonHandlers.dispatchClient JsonText.library server ⟨0, 0⟩ 0)
          (JsonText.text login)).eval (HandlerState.exec models 0 job) state =
        some (some thrown, { state with oneChatSource := counted })) ∧
      ∃ thrown, (JsonHandlers.onSegment JsonText.library
        (JsonHandlers.handleClusterMessage server 0)
          (JsonText.text routed)).eval (HandlerState.exec models 0 job) state =
        some (some thrown, state) := by
  intro login routed state server job models
  have loginFormed : login.WellFormed := .obj (by decide) (by
    simp only [List.forall_mem_cons, List.not_mem_nil, false_implies, implies_true, and_true]
    exact ⟨.int (by decide) (by decide), .int (by decide) (by decide)⟩)
  have routedFormed : routed.WellFormed := .obj (by decide) (by
    simp only [List.forall_mem_cons, List.not_mem_nil, false_implies, implies_true, and_true]
    exact ⟨.int (by decide) (by decide), .int (by decide) (by decide)⟩)
  have noPassword : ¬login.Carries ("password", .string) := by
    rintro ⟨members, value, same, found, -⟩
    obtain rfl := Json.obj.inj same
    cases found
  have noPayload : ¬routed.Carries ("payload", .string) := by
    rintro ⟨members, value, same, found, -⟩
    obtain rfl := Json.obj.inj same
    cases found
  refine ⟨(malformed_changesNothing JsonText.library server ⟨0, 0⟩ 0 job models state
      (JsonText.parse_text loginFormed)).1 (.inr ⟨1, rfl, _, ?_, noPassword⟩),
    (malformed_changesNothing JsonText.library server ⟨0, 0⟩ 0 job models state
      (JsonText.parse_text routedFormed)).2 (.inr ⟨100, rfl, _, ?_, noPayload⟩)⟩
  · exact List.mem_cons_of_mem _ List.mem_cons_self
  · exact List.mem_cons_of_mem _ List.mem_cons_self

end ClusterChat
