/-
# The semaphore of the client

The main thread waits for the semaphore after it has sent a login or a registration. The reading
thread posts it behind its handler and within the same `try`, so that it is posted just if the
handler comes to its end; and a login ends by printing the messages that have been stored, with
members that no server asks for.
-/

import ClusterChat.Client.ReadTask
import ClusterChat.Service.JsonHandlers

namespace ClusterChat

open ClientAction JsonGrammar

/-! ### Stored messages -/

/-- A stored message that the client can print: an object of some kind with a time, a name and
a text. -/
def Displayable (lib : JsonLibrary) (str : Bytes) : Prop :=
  ∃ members, lib.parse str = .ok (.obj members) ∧
    (∃ kind msgId, members.lookup "msgId" = some kind ∧ kind.getInt = .ok msgId) ∧
    ∀ key ∈ ["time", "name", "msg"], ∃ value, members.lookup key = some (.str value)

section Displayable

variable {lib : JsonLibrary} {members : List (String × Json)}

theorem readString_eq_ok {key : String} {value : Bytes} :
    ((Json.obj members).field key >>= Json.getString) = .ok value ↔
      members.lookup key = some (.str value) := by
  rw [Json.field_obj, ok_bind]
  cases members.lookup key with
  | none => exact iff_of_false (fun same => by cases same) (fun same => by cases same)
  | some found =>
    cases found with
    | str text => simp
    | _ => exact iff_of_false (fun same => by cases same) (fun same => by cases same)

theorem readInt_eq_ok {key : String} {value : Int32} :
    ((Json.obj members).field key >>= Json.getInt) = .ok value ↔
      ∃ found, members.lookup key = some found ∧ found.getInt = .ok value := by
  rw [Json.field_obj, ok_bind]
  cases members.lookup key with
  | none => exact iff_of_false (fun same => by cases same) (by rintro ⟨_, ⟨⟩, _⟩)
  | some found => simp

/-- The line of a message is printed where its three strings are there. -/
theorem showChat_ok_iff (faithful : lib.Faithful) {text : Bytes}
    (parsed : lib.parse text = .ok (.obj members)) :
    (∃ line, showChat lib (.obj members) = .ok line) ↔
      ∀ key ∈ ["time", "name", "msg"], ∃ value, members.lookup key = some (.str value) := by
  obtain ⟨id, dumped⟩ := faithful.dump_member parsed "id"
  have printed : ((Json.obj members).field "id" >>= lib.dump) = .ok id := dumped
  rw [List.forall_mem_cons, List.forall_mem_cons, List.forall_mem_singleton]
  constructor
  · rintro ⟨line, shown⟩
    rw [showChat] at shown
    obtain ⟨time, readTime, shown⟩ := bind_eq_ok.mp shown
    rw [printed, ok_bind] at shown
    obtain ⟨name, readName, shown⟩ := bind_eq_ok.mp shown
    obtain ⟨msg, readMsg, -⟩ := bind_eq_ok.mp shown
    exact ⟨⟨time, readString_eq_ok.mp readTime⟩, ⟨name, readString_eq_ok.mp readName⟩, msg,
      readString_eq_ok.mp readMsg⟩
  · rintro ⟨⟨time, hasTime⟩, ⟨name, hasName⟩, msg, hasMsg⟩
    rw [showChat, readString_eq_ok.mpr hasTime, ok_bind, printed, ok_bind,
      readString_eq_ok.mpr hasName, ok_bind, readString_eq_ok.mpr hasMsg]
    exact ⟨_, rfl⟩

theorem showGroupChat_ok_iff (faithful : lib.Faithful) {text : Bytes}
    (parsed : lib.parse text = .ok (.obj members)) :
    (∃ line, showGroupChat lib (.obj members) = .ok line) ↔
      ∃ line, showChat lib (.obj members) = .ok line := by
  obtain ⟨groupid, dumped⟩ := faithful.dump_member parsed "groupid"
  have printed : ((Json.obj members).field "groupid" >>= lib.dump) = .ok groupid := dumped
  rw [showGroupChat, printed, ok_bind]
  constructor
  · rintro ⟨line, shown⟩
    obtain ⟨inner, shown, -⟩ := bind_eq_ok.mp shown
    exact ⟨inner, shown⟩
  · rintro ⟨inner, shown⟩
    rw [shown]
    exact ⟨_, rfl⟩

theorem showOffline_ok_iff (faithful : lib.Faithful) (str : Bytes) :
    (∃ line, showOffline lib str = .ok line) ↔ Displayable lib str := by
  constructor
  · rintro ⟨line, shown⟩
    rw [showOffline] at shown
    obtain ⟨js, parsed, shown⟩ := bind_eq_ok.mp shown
    obtain ⟨msgId, kind, shown⟩ := bind_eq_ok.mp shown
    -- only an object has a kind
    cases js with
    | obj members =>
      refine ⟨members, parsed, ?_, ?_⟩
      · obtain ⟨found, listed, converted⟩ := readInt_eq_ok.mp kind
        exact ⟨found, msgId, listed, converted⟩
      · apply (showChat_ok_iff faithful parsed).mp
        by_cases one : EnMsgType.oneChatMsg.msgId = msgId
        · rw [if_pos one] at shown
          exact ⟨line, shown⟩
        · rw [if_neg one] at shown
          exact (showGroupChat_ok_iff faithful parsed).mp ⟨line, shown⟩
    | _ => cases kind
  · rintro ⟨members, parsed, ⟨found, msgId, listed, converted⟩, strings⟩
    have printed := (showChat_ok_iff faithful parsed).mpr strings
    rw [showOffline, parsed, ok_bind, readInt_eq_ok.mpr ⟨found, listed, converted⟩, ok_bind]
    split
    · exact printed
    · exact (showGroupChat_ok_iff faithful parsed).mpr printed

end Displayable

/-! ### Answers and posts -/

/-- The stored messages in an answer. -/
def Acknowledgement.offlineMsg : Acknowledgement → List Bytes
  | login (.accepted _ offlineMsg _ _) => offlineMsg
  | _ => []

section Posts

variable {lib : JsonLibrary} {client after : ClientState} {text : Bytes}

/-- The semaphore is posted behind an action that ends. -/
theorem posts_behind {action : ClientAction Unit} {result : Except JsonException Unit}
    (ends : action.on client = (result, after)) :
    ((action >>= fun _ => semPost).on client).2.posts = after.posts + 1 ↔ result = .ok () := by
  cases result with
  | error error =>
    rw [on_bind_error ends]
    exact iff_of_false (Nat.ne_of_lt (Nat.lt_succ_self _)) (fun same => by cases same)
  | ok value =>
    rw [on_bind_ok ends]
    exact iff_of_true rfl rfl

/-- The handler of an answer to a login. -/
theorem handleText_login {js : Json} (parsed : lib.parse text = .ok js)
    (kind : js.field "msgId" = .ok (.int EnMsgType.loginMsgAck.msgId.toInt)) :
    (handleText lib text).on client =
      (doLoginResponse lib js >>= fun _ => semPost).on client := by
  rw [handleText]
  refine (on_bind_ok ((on_settle _).trans (by rw [parsed]))).trans ?_
  refine (on_bind_ok ((on_settle _).trans (by rw [kind, ok_bind, Json.getInt_int]))).trans ?_
  rfl

theorem handleText_reg {js : Json} (parsed : lib.parse text = .ok js)
    (kind : js.field "msgId" = .ok (.int EnMsgType.regMsgAck.msgId.toInt)) :
    (handleText lib text).on client = (doRegResponse lib js >>= fun _ => semPost).on client := by
  rw [handleText]
  refine (on_bind_ok ((on_settle _).trans (by rw [parsed]))).trans ?_
  refine (on_bind_ok ((on_settle _).trans (by rw [kind, ok_bind, Json.getInt_int]))).trans ?_
  rfl

/-- The object of a refusal. -/
def refusedJson (errno : Int32) (errmsg : Bytes) : Json :=
  (ackJson .loginMsgAck errno.toInt).set "errmsg" (.str errmsg)

/-- A refusal is printed to its end. -/
theorem doLoginResponse_refused (faithful : lib.Faithful) {errno : Int32} (refused : errno ≠ 0)
    {errmsg : Bytes} (parsed : lib.parse text = .ok (refusedJson errno errmsg)) :
    (doLoginResponse lib (refusedJson errno errmsg)).on client =
      (.ok (), { client with isLoginSuccess := false }) := by
  obtain ⟨out, dumped⟩ := faithful.dump_member parsed "errmsg"
  have printed : ((refusedJson errno errmsg).field "errmsg" >>= lib.dump) = .ok out := dumped
  have code : (refusedJson errno errmsg).field "errno" = .ok (.int errno.toInt) := by
    simp [refusedJson, ackJson, Json.lookup_set]
  rw [doLoginResponse]
  refine (on_bind_ok ((on_settle _).trans (by rw [code, ok_bind, Json.getInt_int]))).trans ?_
  rw [if_pos refused]
  exact on_bind_ok ((on_settle _).trans (by rw [printed]))

theorem doRegResponse_ends (faithful : lib.Faithful) {id : Option UserId}
    (parsed : lib.parse text = .ok (regJson id)) :
    (doRegResponse lib (regJson id)).on client = (.ok (), client) := by
  cases id with
  | none =>
    have code : (regJson none).field "errno" = .ok (.int (1 : Int32).toInt) := by
      simp [regJson, ackJson]
    rw [doRegResponse]
    refine (on_bind_ok ((on_settle _).trans (by rw [code, ok_bind, Json.getInt_int]))).trans ?_
    rfl
  | some id =>
    obtain ⟨out, dumped⟩ := faithful.dump_member parsed "id"
    have printed : ((regJson (some id)).field "id" >>= lib.dump) = .ok out := dumped
    have code : (regJson (some id)).field "errno" = .ok (.int (0 : Int32).toInt) := by
      simp [regJson, ackJson, Json.lookup_set]
    rw [doRegResponse]
    refine (on_bind_ok ((on_settle _).trans (by rw [code, ok_bind, Json.getInt_int]))).trans ?_
    rw [if_pos rfl]
    exact on_bind_ok ((on_settle _).trans (by rw [printed]))

/-- An answer that has no stored messages posts. -/
theorem posts_refused (faithful : lib.Faithful) {errno : Int32} (refused : errno ≠ 0)
    {errmsg : Bytes} (dumped : lib.dump (refusedJson errno errmsg) = .ok text) :
    ((handleText lib text).on client).2.posts = client.posts + 1 := by
  have parsed := faithful.dump_parses dumped
  have kind : (refusedJson errno errmsg).field "msgId" =
      .ok (.int EnMsgType.loginMsgAck.msgId.toInt) := by
    simp [refusedJson, ackJson, Json.lookup_set]
  rw [handleText_login parsed kind]
  exact (posts_behind (doLoginResponse_refused faithful refused parsed)).mpr rfl

theorem posts_reg (faithful : lib.Faithful) {id : Option UserId}
    (dumped : lib.dump (regJson id) = .ok text) :
    ((handleText lib text).on client).2.posts = client.posts + 1 := by
  have parsed := faithful.dump_parses dumped
  have kind : (regJson id).field "msgId" = .ok (.int EnMsgType.regMsgAck.msgId.toInt) := by
    cases id <;> simp [regJson, ackJson, Json.lookup_set]
  rw [handleText_reg parsed kind]
  exact (posts_behind (doRegResponse_ends faithful parsed)).mpr rfl

theorem posts_accepted (faithful : lib.Faithful) {user : User} {offlineMsg : List Bytes}
    {friends : List User} {groups : List Group}
    (encoded : (Acknowledgement.login (.accepted user offlineMsg friends groups)).text lib =
      .ok text) :
    ((handleText lib text).on client).2.posts = client.posts + 1 ↔
      ∀ str ∈ offlineMsg, Displayable lib str := by
  obtain ⟨vec, groupV, dumpedFriends, dumpedGroups, parsed⟩ := parse_accepted faithful encoded
  obtain ⟨result, ends, whole⟩ := doLoginResponse_accepted user offlineMsg vec groupV faithful
    dumpedFriends dumpedGroups client
  have kind : (acceptedJson user offlineMsg vec groupV).field "msgId" =
      .ok (.int EnMsgType.loginMsgAck.msgId.toInt) := by
    apply (acceptedJson_isRecord user offlineMsg vec groupV).field
    rw [lookup_acceptedJson]
    simp
  rw [handleText_login parsed kind]
  refine (posts_behind ends).trans (whole.trans ?_)
  exact forall₂_congr fun str _ => showOffline_ok_iff faithful str

/-- **An answer releases the client**, which is one post of the semaphore, just if every stored
message in it can be printed. -/
theorem posts_iff (faithful : lib.Faithful) {ack : Acknowledgement}
    (encoded : ack.text lib = .ok text) (client : ClientState) :
    ((handleText lib text).on client).2.posts = client.posts + 1 ↔
      ∀ str ∈ ack.offlineMsg, Displayable lib str := by
  have none : ∀ str ∈ ([] : List Bytes), Displayable lib str := List.forall_mem_nil _
  cases ack with
  | reg id => exact iff_of_true (posts_reg faithful encoded) none
  | login response =>
    cases response with
    | accepted user offlineMsg friends groups => exact posts_accepted faithful encoded
    | invalid =>
      have other : (1 : Int32) ≠ 0 := by decide
      exact iff_of_true (posts_refused faithful other encoded) none
    | inUse =>
      have other : (2 : Int32) ≠ 0 := by decide
      exact iff_of_true (posts_refused faithful other encoded) none
    | registerFailed =>
      have other : (3 : Int32) ≠ 0 := by decide
      exact iff_of_true (posts_refused faithful other encoded) none

end Posts

/-! ### A message without a time -/

/-- A one-to-one message with all that is printed. -/
def fullMessage : Json :=
  Json.null
    |>.set "id" (.int 8)
    |>.set "msgId" (.int 6)
    |>.set "to" (.int 7)
    |>.set "name" (.str (letters "bob"))
    |>.set "msg" (.str (letters "hi"))
    |>.set "time" (.str (letters "now"))

/-- What `oneChat` asks for, and nothing else. -/
def bareMessage : Json :=
  Json.null
    |>.set "id" (.int 8)
    |>.set "msgId" (.int 6)
    |>.set "to" (.int 7)

def fullText : Bytes :=
  letters ("\x7b\"id\":8,\"msg\":\"hi\",\"msgId\":6,\"name\":\"bob\",\"time\":\"now\"," ++
    "\"to\":7\x7d")

def bareText : Bytes := letters "\x7b\"id\":8,\"msgId\":6,\"to\":7\x7d"

theorem bareMessage_proper : bareMessage.Proper :=
  ((Json.proper_set_null "id" (.int (by decide) (by decide))).set "msgId"
    (.int (by decide) (by decide))).set "to" (.int (by decide) (by decide))

theorem fullMessage_proper : fullMessage.Proper :=
  ((bareMessage_proper.set "name" (.str ⟨['b', 'o', 'b'], by decide⟩)).set "msg"
    (.str ⟨['h', 'i'], by decide⟩)).set "time" (.str ⟨['n', 'o', 'w'], by decide⟩)

theorem fullMessage_dumped : strictLibrary.dump fullMessage = .ok fullText :=
  JsonText.library.strictDump_eq_ok.mpr ⟨fullMessage_proper.wellFormed, by decide⟩

theorem bareMessage_dumped : strictLibrary.dump bareMessage = .ok bareText :=
  JsonText.library.strictDump_eq_ok.mpr ⟨bareMessage_proper.wellFormed, by decide⟩

/-- An answer with one stored message can be sent. -/
theorem stored_sent {stored : Bytes} (valid : ValidUtf8 stored) :
    ∃ text, (Acknowledgement.login (.accepted ann [stored] [] [])).text strictLibrary =
      .ok text :=
  accepted_sent strictLibrary ann_valid List.mapM_nil List.mapM_nil
    (List.forall_mem_singleton.mpr valid) (List.forall_mem_nil _) (List.forall_mem_nil _)

/-- The full message is printed, and the client goes on. -/
theorem posts_iff_full :
    ∃ text, (Acknowledgement.login (.accepted ann [fullText] [] [])).text strictLibrary =
        .ok text ∧
      ((handleText strictLibrary text).on .start).2.posts = ClientState.start.posts + 1 := by
  have valid : ValidUtf8 fullText :=
    ⟨("\x7b\"id\":8,\"msg\":\"hi\",\"msgId\":6,\"name\":\"bob\",\"time\":\"now\"," ++
      "\"to\":7\x7d").toList, by decide⟩
  obtain ⟨text, encoded⟩ := stored_sent valid
  refine ⟨text, encoded, (posts_iff strictLibrary_faithful encoded .start).mpr ?_⟩
  refine List.forall_mem_singleton.mpr ?_
  refine ⟨fullMessage.members, strictLibrary_faithful.dump_parses fullMessage_dumped, ?_, ?_⟩
  · exact ⟨.int 6, 6, by simp [fullMessage, Json.lookup_set], rfl⟩
  · simp [fullMessage, Json.lookup_set]

/-- The bare message has no time to be printed. -/
theorem bareMessage_not_displayable : ¬Displayable strictLibrary bareText := by
  rintro ⟨members, parsed, -, strings⟩
  have same := parsed.symm.trans (strictLibrary_faithful.dump_parses bareMessage_dumped)
  obtain ⟨value, time⟩ := strings "time" List.mem_cons_self
  obtain rfl : members = bareMessage.members := Json.obj.inj (Except.ok.inj same)
  cases time

/-- **A client that waits for ever.** A server takes the bare message and stores it; the login of
its recipient is answered, and the answer does not post. -/
theorem bareMessage_blocks :
    let server : Server := ⟨.empty, 4⟩
    JsonHandlers.oneChat strictLibrary server 0 bareMessage =
        (Throwing.request .countOneChat >>= fun _ =>
          Throwing.onServer (ChatService.oneChat server ⟨⟨0, bareText⟩, 7⟩)) ∧
      ∃ text, (Acknowledgement.login (.accepted ann [bareText] [] [])).text strictLibrary =
          .ok text ∧
        ((handleText strictLibrary text).on .start).2.posts ≠ ClientState.start.posts + 1 := by
  have valid : ValidUtf8 bareText :=
    ⟨"\x7b\"id\":8,\"msgId\":6,\"to\":7\x7d".toList, by decide⟩
  obtain ⟨text, encoded⟩ := stored_sent valid
  refine ⟨?_, text, encoded, ?_⟩
  · have recipient : (bareMessage.field "to" >>= Json.getInt) = .ok 7 := rfl
    have sender : (bareMessage.field "id" >>= Json.getInt) = .ok 8 := rfl
    rw [JsonHandlers.oneChat, Throwing.readInt, Throwing.readInt, recipient, sender,
      bareMessage_dumped]
    rfl
  · intro posted
    have all := (posts_accepted strictLibrary_faithful encoded).mp posted
    exact bareMessage_not_displayable (all bareText (List.mem_singleton_self _))

end ClusterChat
