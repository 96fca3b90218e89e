/-
# Handlers of JSON messages

A message of a client, or of another node, is a JSON value. A handler reads the members that
it needs, and what it reads may be missing or of a wrong type; then an exception ends it, and
the loop over the messages catches it. What the handler has done before stays done.
-/

import ClusterChat.Data.Json
import ClusterChat.Service.Cluster

namespace ClusterChat

/-- The operations on users, friends and groups, the answer to a registration, and the counter of
one-to-one messages. -/
inductive RequestCall : Type → Type
  | insertUser (name pwd : Bytes) : RequestCall (Option UserId)
  | insertFriend (userId friendId : UserId) : RequestCall Unit
  | createGroup (name desc : Bytes) : RequestCall (Option Int32)
  | addGroup (userid : UserId) (groupid : Int32) (role : CString) : RequestCall Unit
  | sendRegAck (conn : Connection) (id : Option UserId) : RequestCall Unit
  | countOneChat : RequestCall Unit

/-- What the handlers of JSON messages do. -/
inductive HandlerCall (β : Type)
  | server (call : ServerCall β)
  | request (call : RequestCall β)

/-- A program that a JSON exception may end. -/
abbrev Throwing := ExceptT JsonException (Calls HandlerCall)

namespace Throwing

/-- What is computed without any call. -/
def settle {α : Type} (result : Except JsonException α) : Throwing α := .mk (.ret result)

def request {α : Type} (call : RequestCall α) : Throwing α :=
  ExceptT.lift (Calls.perform (.request call))

def onServer {α : Type} (program : Calls ServerCall α) : Throwing α :=
  ExceptT.lift (program.lift fun call => .server call)

/-- `js[key].get<int>()`. -/
def readInt (js : Json) (key : String) : Throwing Int32 := settle (js.field key >>= Json.getInt)

/-- `string value = js[key]`. -/
def readString (js : Json) (key : String) : Throwing Bytes :=
  settle (js.field key >>= Json.getString)

/-- `js[key].get<vector<int>>()`. -/
def readInts (js : Json) (key : String) : Throwing (List Int32) :=
  settle (js.field key >>= Json.getIntVector)

@[simp] theorem settle_ok_bind {α β : Type} (value : α) (cont : α → Throwing β) :
    (settle (.ok value) >>= cont) = cont value := rfl

end Throwing

open Throwing

namespace JsonHandlers

variable (lib : JsonLibrary) (server : Server) (conn : Connection) (number : ℕ)

/-- `login`. -/
def login (js : Json) : Throwing Unit := do
  let id ← readInt js "id"
  let pwd ← readString js "password"
  onServer (ChatService.login server id pwd conn)

/-- `reg`. -/
def reg (js : Json) : Throwing Unit := do
  let name ← readString js "name"
  let pwd ← readString js "password"
  let id ← request (.insertUser name pwd)
  request (.sendRegAck conn id)

/-- `logout`. -/
def logout (js : Json) : Throwing Unit := do
  let userid ← readInt js "id"
  onServer (ChatService.logout server userid)

/-- `oneChat`. -/
def oneChat (js : Json) : Throwing Unit := do
  request .countOneChat
  let toId ← readInt js "to"
  let _ ← readInt js "id"
  let msg ← settle (lib.dump js)
  onServer (ChatService.oneChat server ⟨⟨number, msg⟩, toId⟩)

/-- `addFriend`. -/
def addFriend (js : Json) : Throwing Unit := do
  let userId ← readInt js "id"
  let friendId ← readInt js "friendId"
  request (.insertFriend userId friendId)

def creator : CString := cString ['c', 'r', 'e', 'a', 't', 'o', 'r']

def normal : CString := cString ['n', 'o', 'r', 'm', 'a', 'l']

/-- `createGroup`. -/
def createGroup (js : Json) : Throwing Unit := do
  let userid ← readInt js "id"
  let name ← readString js "groupname"
  let desc ← readString js "groupdesc"
  match ← request (.createGroup name desc) with
  | some groupid => request (.addGroup userid groupid creator)
  | none => return ()

/-- `addGroup`. -/
def addGroup (js : Json) : Throwing Unit := do
  let userid ← readInt js "id"
  let groupid ← readInt js "groupid"
  request (.addGroup userid groupid normal)

/-- `groupChat`. The message is dumped when the members are known, if there are any. -/
def groupChat (js : Json) : Throwing Unit := do
  let userid ← readInt js "id"
  let groupid ← readInt js "groupid"
  match lib.dump js with
  | .ok msg => onServer (ChatService.groupChat server ⟨number, msg⟩ userid groupid)
  | .error thrown =>
    let userIdVec ← onServer (database (.queryGroupUsers userid groupid))
    if userIdVec ≠ [] then throw thrown

/-- `getHandler`: a message of another kind is only logged. -/
def getHandler (msgId : Int32) : Json → Throwing Unit :=
  if msgId = EnMsgType.loginMsg.msgId then login server conn
  else if msgId = EnMsgType.logoutMsg.msgId then logout server
  else if msgId = EnMsgType.regMsg.msgId then reg conn
  else if msgId = EnMsgType.oneChatMsg.msgId then oneChat lib server number
  else if msgId = EnMsgType.addFriendMsg.msgId then addFriend
  else if msgId = EnMsgType.createGroupMsg.msgId then createGroup
  else if msgId = EnMsgType.addGroupMsg.msgId then addGroup
  else if msgId = EnMsgType.groupChatMsg.msgId then groupChat lib server number
  else fun _ => return ()

/-- What `ChatServer::onMessage` does with a message that was parsed. -/
def dispatchClient (js : Json) : Throwing Unit := do
  let msgId ← readInt js "msgId"
  getHandler lib server conn number msgId js

/-- `handleClusterOneChat`. -/
def handleClusterOneChat (js : Json) : Throwing Unit := do
  let toUser ← readInt js "toUser"
  let payload ← readString js "payload"
  onServer (ChatService.handleClusterOneChatFrame server ⟨⟨number, payload⟩, toUser⟩)

/-- `handleClusterGroupChat`. -/
def handleClusterGroupChat (js : Json) : Throwing Unit := do
  let toUsers ← readInts js "toUsers"
  let payload ← readString js "payload"
  onServer (ChatService.handleClusterGroupChat server ⟨number, payload⟩ toUsers)

/-- `handleClusterMessage`. -/
def handleClusterMessage (js : Json) : Throwing Unit := do
  let msgId ← readInt js "msgId"
  if msgId = EnMsgType.nodeRouteOneChatMsg.msgId then handleClusterOneChat server number js
  else if msgId = EnMsgType.nodeRouteGroupChatMsg.msgId then handleClusterGroupChat server number js
  else return ()

/-- The loops of `onMessage` parse a message and handle it; an exception, of the parser or of
the handler, is caught and logged. -/
def onSegment (handle : Json → Throwing Unit) (text : Bytes) :
    Calls HandlerCall (Option JsonException) :=
  match lib.parse text with
  | .error thrown => return some thrown
  | .ok js => do
    match ← (handle js).run with
    | .ok () => return none
    | .error thrown => return some thrown

end JsonHandlers

/-! ### The state that the handlers work on -/

/-- The cluster, the answers to registrations, and how many messages `oneChat` has counted. -/
structure HandlerState where
  cluster : Cluster
  regAcks : List (Connection × Option UserId)
  oneChatSource : ℕ

/-- What the models make of the tables is left open here. -/
structure TableModels where
  insertUser : Bytes → Bytes → Database → Option UserId × Database
  insertFriend : UserId → UserId → Database → Database
  createGroup : Bytes → Bytes → Database → Option Int32 × Database
  addGroup : UserId → Int32 → CString → Database → Database

namespace HandlerState

/-- Put a database in place of the old one. -/
def withDatabase (state : HandlerState) (database : Database) : HandlerState :=
  { state with cluster := { state.cluster with database := database } }

/-- The effect of a call besides those of the server. -/
def execRequest (models : TableModels) (state : HandlerState) :
    {β : Type} → RequestCall β → β × HandlerState
  | _, .insertUser name pwd =>
    let (id, database) := models.insertUser name pwd state.cluster.database
    (id, state.withDatabase database)
  | _, .insertFriend userId friendId =>
    ((), state.withDatabase (models.insertFriend userId friendId state.cluster.database))
  | _, .createGroup name desc =>
    let (id, database) := models.createGroup name desc state.cluster.database
    (id, state.withDatabase database)
  | _, .addGroup userid groupid role =>
    ((), state.withDatabase (models.addGroup userid groupid role state.cluster.database))
  | _, .sendRegAck conn id => ((), { state with regAcks := state.regAcks ++ [(conn, id)] })
  | _, .countOneChat => ((), { state with oneChatSource := state.oneChatSource + 1 })

/-- The effect of a call. -/
def exec (models : TableModels) (number : ℕ) (job : Job) :
    {β : Type} → HandlerCall β → HandlerState → Option (β × HandlerState)
  | _, .server call, state =>
    (Cluster.exec number job call state.cluster).map fun (answer, cluster) =>
      (answer, { state with cluster := cluster })
  | _, .request call, state => some (state.execRequest models call)

end HandlerState

/-! ### Well-formed requests -/

namespace JsonHandlers

open Throwing

/-- The message asks for this. -/
def Asks (lib : JsonLibrary) (js : Json) : ClientRequest → Prop
  | .login id pwd =>
    (js.field "msgId" >>= Json.getInt) = .ok EnMsgType.loginMsg.msgId ∧
      (js.field "id" >>= Json.getInt) = .ok id ∧
      (js.field "password" >>= Json.getString) = .ok pwd
  | .logout userId =>
    (js.field "msgId" >>= Json.getInt) = .ok EnMsgType.logoutMsg.msgId ∧
      (js.field "id" >>= Json.getInt) = .ok userId
  | .oneChat toId text =>
    (js.field "msgId" >>= Json.getInt) = .ok EnMsgType.oneChatMsg.msgId ∧
      (js.field "to" >>= Json.getInt) = .ok toId ∧
      (∃ fromId, (js.field "id" >>= Json.getInt) = .ok fromId) ∧ lib.dump js = .ok text
  | .groupChat userId groupId text =>
    (js.field "msgId" >>= Json.getInt) = .ok EnMsgType.groupChatMsg.msgId ∧
      (js.field "id" >>= Json.getInt) = .ok userId ∧
      (js.field "groupid" >>= Json.getInt) = .ok groupId ∧ lib.dump js = .ok text

/-- What a handler does when all its reads succeed. -/
def served (program : Calls ServerCall Unit) : Calls HandlerCall (Except JsonException Unit) :=
  program.lift (fun call => HandlerCall.server call) >>= fun _ => .ret (.ok ())

/-- **A well-formed request is handled as the cluster handles it**, but that a one-to-one message
is counted before. -/
theorem dispatchClient_asks {lib : JsonLibrary} {cluster : Cluster} {n number : ℕ}
    {conn : Connection} {js : Json} {request : ClientRequest} (asks : Asks lib js request) :
    (dispatchClient lib (cluster.server n) conn number js).run =
        served (cluster.program n (Cluster.handlerOf number conn request)) ∨
      (dispatchClient lib (cluster.server n) conn number js).run =
        .call (.request .countOneChat) fun _ =>
          served (cluster.program n (Cluster.handlerOf number conn request)) := by
  cases request with
  | login id pwd =>
    obtain ⟨kind, readId, readPassword⟩ := asks
    left
    have handled : dispatchClient lib (cluster.server n) conn number js =
        onServer (ChatService.login (cluster.server n) id pwd conn) := by
      rw [dispatchClient, readInt, kind, settle_ok_bind]
      change login (cluster.server n) conn js = _
      simp only [login, readInt, readId, readString, readPassword, settle_ok_bind]
    rw [handled]
    rfl
  | logout userId =>
    obtain ⟨kind, readId⟩ := asks
    left
    rw [dispatchClient, readInt, kind, settle_ok_bind]
    change (logout (cluster.server n) js).run = _
    rw [logout, readInt, readId]
    rfl
  | oneChat toId text =>
    obtain ⟨kind, readTo, ⟨fromId, readId⟩, dumped⟩ := asks
    right
    rw [dispatchClient, readInt, kind, settle_ok_bind]
    change (oneChat lib (cluster.server n) number js).run = _
    rw [oneChat, readInt, readTo, readInt, readId, dumped]
    rfl
  | groupChat userId groupId text =>
    obtain ⟨kind, readId, readGroup, dumped⟩ := asks
    left
    have handled : dispatchClient lib (cluster.server n) conn number js =
        onServer (ChatService.groupChat (cluster.server n) ⟨number, text⟩ userId groupId) := by
      rw [dispatchClient, readInt, kind, settle_ok_bind]
      change groupChat lib (cluster.server n) number js = _
      simp only [groupChat, readInt, readId, readGroup, settle_ok_bind, dumped]
    rw [handled]
    rfl

end JsonHandlers

end ClusterChat
