/-
# What the client makes of an answer

The reading thread of the client hands each object of the stream to its handler, and catches what
the handler throws. After an answer to a login or a registration it posts the semaphore that the
main thread waits for, but within the same `try`; and a login replaces only those lists of the
client that the answer has.
-/

import ClusterChat.Client.Acknowledgement
import ClusterChat.Wire.ServerStream

namespace ClusterChat

open JsonGrammar

/-! ### The state of a client -/

/-- `User`, as a client has it. -/
structure ClientUser where
  id : Int32 := -1
  name : Bytes := []
  password : Bytes := []
  state : Bytes := letters "offline"
  deriving DecidableEq

/-- `GroupUser`. -/
structure ClientGroupUser extends ClientUser where
  role : Bytes := []
  deriving DecidableEq

/-- `Group`. -/
structure ClientGroup where
  id : Int32
  name : Bytes
  desc : Bytes
  users : List ClientGroupUser
  deriving DecidableEq

/-- The globals of the client, with the posts of `rwSem` so far. -/
structure ClientState where
  currentUser : ClientUser
  friendList : List ClientUser
  groupList : List ClientGroup
  isLoginSuccess : Bool
  posts : ℕ
  deriving DecidableEq

/-- What the reading thread does, up to an exception. -/
abbrev ClientAction := ExceptT JsonException (StateM ClientState)

namespace ClientAction

/-- The outcome of an action and the client afterwards: what was done before an exception
stays. -/
def on {α : Type} (action : ClientAction α) (client : ClientState) :
    Except JsonException α × ClientState :=
  action.run.run client

/-- What is computed without the globals. -/
def settle {α : Type} (result : Except JsonException α) : ClientAction α := .mk (pure result)

def change (update : ClientState → ClientState) : ClientAction Unit := modify update

variable {α β : Type} {client after : ClientState}

@[simp] theorem on_pure (value : α) : (pure value : ClientAction α).on client =
    (.ok value, client) :=
  rfl

@[simp] theorem on_settle (result : Except JsonException α) :
    (settle result).on client = (result, client) := rfl

@[simp] theorem on_change (update : ClientState → ClientState) :
    (change update).on client = (.ok (), update client) := rfl

theorem on_bind_ok {action : ClientAction α} {cont : α → ClientAction β} {value : α}
    (ends : action.on client = (.ok value, after)) :
    (action >>= cont).on client = (cont value).on after := by
  have unfolded : (action >>= cont).on client =
      ExceptT.bindCont cont (action.on client).1 (action.on client).2 := rfl
  rw [unfolded, ends]
  rfl

theorem on_bind_error {action : ClientAction α} {cont : α → ClientAction β}
    {error : JsonException} (ends : action.on client = (.error error, after)) :
    (action >>= cont).on client = (.error error, after) := by
  have unfolded : (action >>= cont).on client =
      ExceptT.bindCont cont (action.on client).1 (action.on client).2 := rfl
  rw [unfolded, ends]
  rfl

end ClientAction

open ClientAction

/-! ### Reading an answer -/

section Handlers

variable (lib : JsonLibrary)

/-- An entry of the friend list. -/
def readFriend (str : Bytes) : Except JsonException ClientUser := do
  let js ← lib.parse str
  let id ← js.field "id" >>= Json.getInt
  let name ← js.field "name" >>= Json.getString
  let state ← js.field "state" >>= Json.getString
  return { id, name, state }

/-- A member of a group. -/
def readGroupUser (usr : Bytes) : Except JsonException ClientGroupUser := do
  let usrJs ← lib.parse usr
  let id ← usrJs.field "id" >>= Json.getInt
  let name ← usrJs.field "name" >>= Json.getString
  let state ← usrJs.field "state" >>= Json.getString
  let role ← usrJs.field "role" >>= Json.getString
  return { id, name, state, role }

/-- An entry of the group list. -/
def readGroup (str : Bytes) : Except JsonException ClientGroup := do
  let js ← lib.parse str
  let id ← js.field "id" >>= Json.getInt
  let name ← js.field "groupname" >>= Json.getString
  let desc ← js.field "groupdesc" >>= Json.getString
  let vec2 ← js.field "users" >>= Json.getStringVector
  let users ← vec2.mapM (readGroupUser lib)
  return { id, name, desc, users }

/-- The line that is printed for a message, from its time on. -/
def showChat (js : Json) : Except JsonException Bytes := do
  let time ← js.field "time" >>= Json.getString
  let id ← js.field "id" >>= lib.dump
  let name ← js.field "name" >>= Json.getString
  let msg ← js.field "msg" >>= Json.getString
  return time ++ letters " [" ++ id ++ letters "] " ++ name ++ letters " said: " ++ msg

/-- The line for a message in a group. -/
def showGroupChat (js : Json) : Except JsonException Bytes := do
  let groupid ← js.field "groupid" >>= lib.dump
  let line ← showChat lib js
  return letters "Group[" ++ groupid ++ letters "] message: " ++ line

/-- The line for a stored message. -/
def showOffline (str : Bytes) : Except JsonException Bytes := do
  let js ← lib.parse str
  let msgId ← js.field "msgId" >>= Json.getInt
  if EnMsgType.oneChatMsg.msgId = msgId then showChat lib js else showGroupChat lib js

/-- The part of `doLoginResponse` for a list: it is cleared and filled if the answer has it. -/
def takeList {α : Type} (respJs : Json) (key : String) (read : Bytes → Except JsonException α)
    (clear : ClientState → ClientState) (push : α → ClientState → ClientState) :
    ClientAction Unit := do
  if respJs.contains key then
    change clear
    let vec ← settle (respJs.field key >>= Json.getStringVector)
    forM vec fun str => do
      let entry ← settle (read str)
      change (push entry)

def takeFriends (respJs : Json) : ClientAction Unit :=
  takeList respJs "friends" (readFriend lib) (fun client => { client with friendList := [] })
    fun user client => { client with friendList := client.friendList ++ [user] }

def takeGroups (respJs : Json) : ClientAction Unit :=
  takeList respJs "groups" (readGroup lib) (fun client => { client with groupList := [] })
    fun group client => { client with groupList := client.groupList ++ [group] }

/-- The part of `doLoginResponse` for the stored messages. -/
def showOfflineMsg (respJs : Json) : ClientAction Unit := do
  if respJs.contains "offlinemsg" then
    let vec ← settle (respJs.field "offlinemsg" >>= Json.getStringVector)
    forM vec fun str => do
      let _ ← settle (showOffline lib str)

/-- `doLoginResponse`. -/
def doLoginResponse (respJs : Json) : ClientAction Unit := do
  let errno ← settle (respJs.field "errno" >>= Json.getInt)
  if errno ≠ 0 then
    let _ ← settle (respJs.field "errmsg" >>= lib.dump)
    change fun client => { client with isLoginSuccess := false }
  else
    change fun client => { client with isLoginSuccess := true }
    let id ← settle (respJs.field "id" >>= Json.getInt)
    change fun client => { client with currentUser := { client.currentUser with id } }
    let name ← settle (respJs.field "name" >>= Json.getString)
    change fun client => { client with currentUser := { client.currentUser with name } }
    takeFriends lib respJs
    takeGroups lib respJs
    showOfflineMsg lib respJs

/-- `doRegResponse`. -/
def doRegResponse (respJs : Json) : ClientAction Unit := do
  let errno ← settle (respJs.field "errno" >>= Json.getInt)
  if errno = 0 then
    let _ ← settle (respJs.field "id" >>= lib.dump)

/-- `sem_post(&rwSem)`. -/
def semPost : ClientAction Unit := change fun client => { client with posts := client.posts + 1 }

/-- The body of the `try` in `readTaskHandler`. -/
def handleText (text : Bytes) : ClientAction Unit := do
  let js ← settle (lib.parse text)
  let msgType ← settle (js.field "msgId" >>= Json.getInt)
  if EnMsgType.oneChatMsg.msgId = msgType then
    let _ ← settle (showChat lib js)
  else if EnMsgType.groupChatMsg.msgId = msgType then
    let _ ← settle (showGroupChat lib js)
  else if EnMsgType.loginMsgAck.msgId = msgType then
    doLoginResponse lib js
    semPost
  else if EnMsgType.regMsgAck.msgId = msgType then
    doRegResponse lib js
    semPost

end Handlers

/-! ### Entries are read back -/

/-- A friend as the server wrote it. -/
def ClientUser.of (user : User) : ClientUser where
  id := user.id
  name := user.name.bytes
  state := user.state.bytes

def ClientGroupUser.of (user : GroupUser) : ClientGroupUser where
  id := user.id
  name := user.name.bytes
  state := user.state.bytes
  role := user.role.bytes

def ClientGroup.of (group : Group) : ClientGroup where
  id := group.id
  name := group.name.bytes
  desc := group.desc.bytes
  users := group.users.map ClientGroupUser.of

theorem mapM_cons_ok {ε α β : Type} {f : α → Except ε β} {item : α} {items : List α}
    {results : List β} (mapped : (item :: items).mapM f = .ok results) :
    ∃ result rest, f item = .ok result ∧ items.mapM f = .ok rest ∧ results = result :: rest := by
  rw [List.mapM_cons] at mapped
  cases first : f item with
  | error error =>
    rw [first] at mapped
    cases mapped
  | ok result =>
    cases later : items.mapM f with
    | error error =>
      rw [first, later] at mapped
      cases mapped
    | ok rest =>
      rw [first, later] at mapped
      cases mapped
      exact ⟨result, rest, rfl, rfl, rfl⟩

/-- What is dumped one by one is read one by one. -/
theorem mapM_reads {α β : Type} {dump : α → Except JsonException Bytes}
    {read : Bytes → Except JsonException β} {make : α → β}
    (reads : ∀ {item : α} {text : Bytes}, dump item = .ok text → read text = .ok (make item))
    {items : List α} {texts : List Bytes} (dumped : items.mapM dump = .ok texts) :
    texts.mapM read = .ok (items.map make) := by
  induction items generalizing texts with
  | nil =>
    cases dumped
    rfl
  | cons item items ih =>
    obtain ⟨text, more, first, rest, rfl⟩ := mapM_cons_ok dumped
    rw [List.mapM_cons, reads first, ih rest]
    rfl

theorem ok_bind {ε α β : Type} (value : α) (cont : α → Except ε β) :
    ((.ok value : Except ε α) >>= cont) = cont value := rfl

theorem bind_eq_ok {ε α β : Type} {first : Except ε α} {cont : α → Except ε β} {value : β} :
    first >>= cont = .ok value ↔ ∃ inner, first = .ok inner ∧ cont inner = .ok value := by
  cases first with
  | error error => exact iff_of_false (fun same => by cases same) (by rintro ⟨_, ⟨⟩, _⟩)
  | ok inner => simp [ok_bind]

section Faithful

variable {lib : JsonLibrary} (faithful : lib.Faithful)

include faithful

theorem readFriend_dumped {user : User} {str : Bytes}
    (dumped : lib.dump (userJson user) = .ok str) :
    readFriend lib str = .ok (.of user) := by
  have id : (userJson user).field "id" = .ok (.int user.id.toInt) := by
    simp [userJson, Json.lookup_set]
  have name : (userJson user).field "name" = .ok (.str user.name.bytes) := by
    simp [userJson, Json.lookup_set]
  have state : (userJson user).field "state" = .ok (.str user.state.bytes) := by
    simp [userJson]
  simp only [readFriend, faithful.dump_parses dumped, ok_bind, id, name, state, Json.getInt_int,
    Json.getString_str]
  rfl

theorem readGroupUser_dumped {user : GroupUser} {usr : Bytes}
    (dumped : lib.dump (groupUserJson user) = .ok usr) :
    readGroupUser lib usr = .ok (.of user) := by
  have id : (groupUserJson user).field "id" = .ok (.int user.id.toInt) := by
    simp [groupUserJson, Json.lookup_set]
  have name : (groupUserJson user).field "name" = .ok (.str user.name.bytes) := by
    simp [groupUserJson, Json.lookup_set]
  have state : (groupUserJson user).field "state" = .ok (.str user.state.bytes) := by
    simp [groupUserJson, Json.lookup_set]
  have role : (groupUserJson user).field "role" = .ok (.str user.role.bytes) := by
    simp [groupUserJson]
  simp only [readGroupUser, faithful.dump_parses dumped, ok_bind, id, name, state, role,
    Json.getInt_int, Json.getString_str]
  rfl

/-- A group comes back with its members. -/
theorem readGroup_dumped {group : Group} {str : Bytes} (dumped : dumpGroup lib group = .ok str) :
    readGroup lib str = .ok (.of group) := by
  rw [dumpGroup] at dumped
  cases inner : group.users.mapM fun user => lib.dump (groupUserJson user) with
  | error error =>
    rw [inner] at dumped
    cases dumped
  | ok users =>
    rw [inner, ok_bind] at dumped
    have members : users.mapM (readGroupUser lib) = .ok (group.users.map ClientGroupUser.of) :=
      mapM_reads (readGroupUser_dumped faithful) inner
    have id : (groupJson group users).field "id" = .ok (.int group.id.toInt) := by
      simp [groupJson, Json.lookup_set]
    have name : (groupJson group users).field "groupname" = .ok (.str group.name.bytes) := by
      simp [groupJson, Json.lookup_set]
    have desc : (groupJson group users).field "groupdesc" = .ok (.str group.desc.bytes) := by
      simp [groupJson, Json.lookup_set]
    have list : (groupJson group users).field "users" = .ok (.ofStringVector users) := by
      simp [groupJson]
    simp only [readGroup, faithful.dump_parses dumped, ok_bind, id, name, desc, list,
      Json.getInt_int, Json.getString_str, Json.getStringVector_ofStringVector, members]
    rfl

end Faithful

/-! ### The loops over the lists -/

section Loops

variable {α : Type} {read : Bytes → Except JsonException α} {client : ClientState}

/-- Where every entry can be read, all are added. -/
theorem on_forM_push {vec : List Bytes} {values : List α} (all : vec.mapM read = .ok values)
    (push : α → ClientState → ClientState) :
    (forM vec fun str => settle (read str) >>= fun value => change (push value)).on client =
      (.ok (), values.foldl (fun client value => push value client) client) := by
  induction vec generalizing values client with
  | nil =>
    cases all
    rfl
  | cons str vec ih =>
    obtain ⟨value, rest, first, later, rfl⟩ := mapM_cons_ok all
    rw [List.forM_cons, List.foldl_cons, ← ih later]
    apply on_bind_ok
    rw [first]
    rfl

theorem foldl_friendList (values : List ClientUser) (client : ClientState) :
    values.foldl (fun client user => { client with friendList := client.friendList ++ [user] })
      client = { client with friendList := client.friendList ++ values } := by
  induction values generalizing client with
  | nil => rw [List.foldl_nil, List.append_nil]
  | cons value values ih => rw [List.foldl_cons, ih, List.append_assoc, List.singleton_append]

theorem foldl_groupList (values : List ClientGroup) (client : ClientState) :
    values.foldl (fun client group => { client with groupList := client.groupList ++ [group] })
      client = { client with groupList := client.groupList ++ values } := by
  induction values generalizing client with
  | nil => rw [List.foldl_nil, List.append_nil]
  | cons value values ih => rw [List.foldl_cons, ih, List.append_assoc, List.singleton_append]

/-- Printing changes nothing, and goes on to the end where every entry can be printed. -/
theorem on_forM_settle (read : Bytes → Except JsonException α) (vec : List Bytes)
    (client : ClientState) :
    ∃ result, (forM vec fun str => settle (read str) >>= fun _ => pure ()).on client =
        (result, client) ∧
      (result = .ok () ↔ ∀ str ∈ vec, ∃ value, read str = .ok value) := by
  induction vec with
  | nil => exact ⟨.ok (), rfl, iff_of_true rfl (List.forall_mem_nil _)⟩
  | cons str vec ih =>
    obtain ⟨result, ends, whole⟩ := ih
    cases first : read str with
    | error error =>
      refine ⟨.error error, ?_, iff_of_false (fun same => by cases same) fun all => ?_⟩
      · rw [List.forM_cons]
        apply on_bind_error
        rw [first]
        rfl
      · obtain ⟨value, found⟩ := all str List.mem_cons_self
        cases first.symm.trans found
    | ok value =>
      refine ⟨result, ?_, ?_⟩
      · rw [List.forM_cons, ← ends]
        apply on_bind_ok
        rw [first]
        rfl
      · rw [whole, List.forall_mem_cons, and_iff_right ⟨value, first⟩]

/-- A list that is there takes the place of the old one. -/
theorem on_takeList {respJs : Json} (record : respJs.IsRecord) {key : String} {vec : List Bytes}
    (found : respJs.members.lookup key = if vec = [] then none else some (.ofStringVector vec))
    {values : List α} (all : vec.mapM read = .ok values) (clear : ClientState → ClientState)
    (push : α → ClientState → ClientState) (client : ClientState) :
    (takeList respJs key read clear push).on client =
      (.ok (), if vec = [] then client
        else values.foldl (fun client value => push value client) (clear client)) := by
  by_cases empty : vec = []
  · have absent : respJs.contains key = false := by
      rw [Json.contains, found, if_pos empty]
      rfl
    rw [takeList, absent, if_pos empty]
    rfl
  · rw [if_neg empty] at found
    have present : respJs.contains key = true := by
      rw [Json.contains, found]
      rfl
    have converted : (respJs.field key >>= Json.getStringVector) = .ok vec := by
      rw [record.field found, ok_bind, Json.getStringVector_ofStringVector]
    rw [takeList, present, if_pos rfl, if_neg empty, ← on_forM_push all push]
    refine (on_bind_ok (on_change clear)).trans ?_
    apply on_bind_ok
    rw [on_settle, converted]

end Loops

/-! ### After a login -/

/-- What a login leaves of the client: a list that the answer does not have stays. -/
def afterLogin (client : ClientState) (user : User) (friends : List User) (groups : List Group) :
    ClientState where
  currentUser := { client.currentUser with id := user.id, name := user.name.bytes }
  friendList := if friends = [] then client.friendList else friends.map ClientUser.of
  groupList := if groups = [] then client.groupList else groups.map ClientGroup.of
  isLoginSuccess := true
  posts := client.posts

theorem mapM_eq_nil_iff {ε α β : Type} {f : α → Except ε β} {items : List α} {results : List β}
    (mapped : items.mapM f = .ok results) : results = [] ↔ items = [] := by
  cases items with
  | nil => exact iff_of_true (Except.ok.inj mapped).symm rfl
  | cons item items =>
    obtain ⟨result, rest, -, -, rfl⟩ := mapM_cons_ok mapped
    exact iff_of_false (List.cons_ne_nil _ _) (List.cons_ne_nil _ _)

section Accepted

variable {lib : JsonLibrary} (user : User) (offlineMsg vec groupV : List Bytes)

theorem lookup_acceptedJson (key : String) :
    (acceptedJson user offlineMsg vec groupV).members.lookup key =
      if key = "groups" ∧ groupV ≠ [] then some (.ofStringVector groupV)
      else if key = "friends" ∧ vec ≠ [] then some (.ofStringVector vec)
      else if key = "offlinemsg" ∧ offlineMsg ≠ [] then some (.ofStringVector offlineMsg)
      else if key = "name" then some (.str user.name.bytes)
      else if key = "id" then some (.int user.id.toInt)
      else if key = "errno" then some (.int 0)
      else if key = "msgId" then some (.int EnMsgType.loginMsgAck.msgId.toInt)
      else none := by
  simp only [acceptedJson, ackJson, Json.lookup_setList, Json.lookup_set]
  rfl

theorem acceptedJson_isRecord : (acceptedJson user offlineMsg vec groupV).IsRecord :=
  (((Json.isRecord_set _ _ _).setList _ _).setList _ _).setList _ _

theorem takeFriends_accepted (faithful : lib.Faithful) {friends : List User}
    (dumped : (friends.mapM fun user => lib.dump (userJson user)) = .ok vec)
    (client : ClientState) :
    (takeFriends lib (acceptedJson user offlineMsg vec groupV)).on client =
      (.ok (), { client with
        friendList := if friends = [] then client.friendList else friends.map ClientUser.of }) := by
  have found : (acceptedJson user offlineMsg vec groupV).members.lookup "friends" =
      if vec = [] then none else some (.ofStringVector vec) := by
    rw [lookup_acceptedJson]
    by_cases empty : vec = [] <;> simp [empty]
  have all := mapM_reads (readFriend_dumped faithful) dumped
  have isRecord := acceptedJson_isRecord user offlineMsg vec groupV
  refine (on_takeList isRecord found all _ _ client).trans ?_
  rw [foldl_friendList, if_congr (mapM_eq_nil_iff dumped) rfl rfl]
  split <;> rfl

theorem takeGroups_accepted (faithful : lib.Faithful) {groups : List Group}
    (dumped : groups.mapM (dumpGroup lib) = .ok groupV) (client : ClientState) :
    (takeGroups lib (acceptedJson user offlineMsg vec groupV)).on client =
      (.ok (), { client with
        groupList := if groups = [] then client.groupList else groups.map ClientGroup.of }) := by
  have found : (acceptedJson user offlineMsg vec groupV).members.lookup "groups" =
      if groupV = [] then none else some (.ofStringVector groupV) := by
    rw [lookup_acceptedJson]
    by_cases empty : groupV = [] <;> simp [empty]
  have all := mapM_reads (readGroup_dumped faithful) dumped
  have isRecord := acceptedJson_isRecord user offlineMsg vec groupV
  refine (on_takeList isRecord found all _ _ client).trans ?_
  rw [foldl_groupList, if_congr (mapM_eq_nil_iff dumped) rfl rfl]
  split <;> rfl

theorem showOfflineMsg_accepted (client : ClientState) :
    ∃ result, (showOfflineMsg lib (acceptedJson user offlineMsg vec groupV)).on client =
        (result, client) ∧
      (result = .ok () ↔ ∀ str ∈ offlineMsg, ∃ line, showOffline lib str = .ok line) := by
  have found : (acceptedJson user offlineMsg vec groupV).members.lookup "offlinemsg" =
      if offlineMsg = [] then none else some (.ofStringVector offlineMsg) := by
    rw [lookup_acceptedJson]
    by_cases empty : offlineMsg = [] <;> simp [empty]
  by_cases empty : offlineMsg = []
  · subst empty
    have absent : (acceptedJson user [] vec groupV).contains "offlinemsg" = false := by
      rw [Json.contains, found]
      rfl
    refine ⟨.ok (), ?_, iff_of_true rfl (List.forall_mem_nil _)⟩
    rw [showOfflineMsg, absent]
    rfl
  · rw [if_neg empty] at found
    have present : (acceptedJson user offlineMsg vec groupV).contains "offlinemsg" = true := by
      rw [Json.contains, found]
      rfl
    obtain ⟨result, ends, whole⟩ := on_forM_settle (showOffline lib) offlineMsg client
    refine ⟨result, ?_, whole⟩
    rw [showOfflineMsg, present, if_pos rfl, ← ends]
    apply on_bind_ok
    rw [on_settle, (acceptedJson_isRecord user offlineMsg vec groupV).field found, ok_bind,
      Json.getStringVector_ofStringVector]

/-- **What a login does to the client.** It takes what the answer has, and it goes to its end where
every stored message can be shown. -/
theorem doLoginResponse_accepted (faithful : lib.Faithful) {friends : List User}
    {groups : List Group}
    (dumpedFriends : (friends.mapM fun user => lib.dump (userJson user)) = .ok vec)
    (dumpedGroups : groups.mapM (dumpGroup lib) = .ok groupV) (client : ClientState) :
    ∃ result, (doLoginResponse lib (acceptedJson user offlineMsg vec groupV)).on client =
        (result, afterLogin client user friends groups) ∧
      (result = .ok () ↔ ∀ str ∈ offlineMsg, ∃ line, showOffline lib str = .ok line) := by
  have record := acceptedJson_isRecord user offlineMsg vec groupV
  have errno : (acceptedJson user offlineMsg vec groupV).field "errno" = .ok (.int 0) := by
    apply record.field
    rw [lookup_acceptedJson]
    rfl
  have id : (acceptedJson user offlineMsg vec groupV).field "id" = .ok (.int user.id.toInt) := by
    apply record.field
    rw [lookup_acceptedJson]
    simp
  have name : (acceptedJson user offlineMsg vec groupV).field "name" =
      .ok (.str user.name.bytes) := by
    apply record.field
    rw [lookup_acceptedJson]
    simp
  obtain ⟨result, ends, whole⟩ := showOfflineMsg_accepted user offlineMsg vec groupV
    (afterLogin client user friends groups)
  refine ⟨result, ?_, whole⟩
  rw [doLoginResponse]
  refine (on_bind_ok ((on_settle _).trans (by rw [errno]; rfl))).trans ?_
  rw [if_neg (by decide)]
  refine (on_bind_ok (on_change _)).trans ?_
  refine (on_bind_ok ((on_settle _).trans (by rw [id, ok_bind, Json.getInt_int]))).trans ?_
  refine (on_bind_ok (on_change _)).trans ?_
  refine (on_bind_ok ((on_settle _).trans (by rw [name]; rfl))).trans ?_
  refine (on_bind_ok (on_change _)).trans ?_
  refine (on_bind_ok
    (takeFriends_accepted user offlineMsg vec groupV faithful dumpedFriends _)).trans ?_
  refine (on_bind_ok
    (takeGroups_accepted user offlineMsg vec groupV faithful dumpedGroups _)).trans ?_
  exact ends

end Accepted

/-! ### The client's view -/

/-- What an acceptance parses to. -/
theorem parse_accepted {lib : JsonLibrary} (faithful : lib.Faithful) {user : User}
    {offlineMsg : List Bytes} {friends : List User} {groups : List Group} {text : Bytes}
    (encoded : (Acknowledgement.login (.accepted user offlineMsg friends groups)).text lib =
      .ok text) :
    ∃ vec groupV, (friends.mapM fun user => lib.dump (userJson user)) = .ok vec ∧
      groups.mapM (dumpGroup lib) = .ok groupV ∧
      lib.parse text = .ok (acceptedJson user offlineMsg vec groupV) := by
  obtain ⟨js, built, dumped⟩ := bind_eq_ok.mp encoded
  obtain ⟨vec, dumpedFriends, inner⟩ := bind_eq_ok.mp built
  obtain ⟨groupV, dumpedGroups, last⟩ := bind_eq_ok.mp inner
  cases last
  exact ⟨vec, groupV, dumpedFriends, dumpedGroups, faithful.dump_parses dumped⟩

/-- The client shows the user, the friends and the groups that the server encoded. -/
structure Shows (client : ClientState) (user : User) (friends : List User) (groups : List Group) :
    Prop where
  id : client.currentUser.id = user.id
  name : client.currentUser.name = user.name.bytes
  friendList : client.friendList = friends.map ClientUser.of
  groupList : client.groupList = groups.map ClientGroup.of

theorem afterLogin_shows_iff (client : ClientState) (user : User) (friends : List User)
    (groups : List Group) :
    Shows (afterLogin client user friends groups) user friends groups ↔
      (friends = [] → client.friendList = []) ∧ (groups = [] → client.groupList = []) := by
  constructor
  · rintro ⟨-, -, friendList, groupList⟩
    constructor
    · rintro rfl
      exact friendList
    · rintro rfl
      exact groupList
  · rintro ⟨noFriend, noGroup⟩
    refine ⟨rfl, rfl, ?_, ?_⟩
    · by_cases empty : friends = []
      · rw [afterLogin, if_pos empty, noFriend empty, empty, List.map_nil]
      · exact if_neg empty
    · by_cases empty : groups = []
      · rw [afterLogin, if_pos empty, noGroup empty, empty, List.map_nil]
      · exact if_neg empty

/-- **After a login the client shows the server's answer** just if the lists that are empty there
have been empty here. -/
theorem doLoginResponse_shows_iff {lib : JsonLibrary} (faithful : lib.Faithful) {user : User}
    {offlineMsg : List Bytes} {friends : List User} {groups : List Group} {text : Bytes}
    (encoded : (Acknowledgement.login (.accepted user offlineMsg friends groups)).text lib =
      .ok text) (client : ClientState) :
    ∃ respJs, lib.parse text = .ok respJs ∧
      (Shows ((doLoginResponse lib respJs).on client).2 user friends groups ↔
        (friends = [] → client.friendList = []) ∧ (groups = [] → client.groupList = [])) := by
  obtain ⟨vec, groupV, dumpedFriends, dumpedGroups, parsed⟩ := parse_accepted faithful encoded
  obtain ⟨result, ends, -⟩ := doLoginResponse_accepted user offlineMsg vec groupV faithful
    dumpedFriends dumpedGroups client
  refine ⟨_, parsed, ?_⟩
  rw [ends]
  exact afterLogin_shows_iff client user friends groups

/-- The state in which a client starts. -/
def ClientState.start : ClientState := ⟨{}, [], [], false, 0⟩

/-- Two users of one client, and a friend. -/
def ann : User := ⟨7, cString ['a', 'n', 'n'], [], online⟩

def bob : User := ⟨8, cString ['b', 'o', 'b'], [], online⟩

/-- The library of the module of texts, refusing what is not well-formed. -/
noncomputable abbrev strictLibrary : JsonLibrary := JsonText.library.strict

theorem strictLibrary_faithful : strictLibrary.Faithful := JsonText.library.strict_faithful

/-- What a server writes for the friend. -/
def bobText : Bytes := letters "\x7b\"id\":8,\"name\":\"bob\",\"state\":\"online\"\x7d"

theorem bob_dumped :
    ([bob].mapM fun user => strictLibrary.dump (userJson user)) = .ok [bobText] := by
  have name : ValidUtf8 bob.name.bytes := ⟨['b', 'o', 'b'], by decide⟩
  have state : ValidUtf8 bob.state.bytes := ⟨['o', 'n', 'l', 'i', 'n', 'e'], by decide⟩
  have plain : JsonText.library.dump (userJson bob) = .ok bobText := by decide
  have dumped : strictLibrary.dump (userJson bob) = .ok bobText :=
    JsonText.library.strictDump_eq_ok.mpr ⟨(userJson_proper name state).wellFormed, plain⟩
  rw [List.mapM_cons, dumped]
  rfl

theorem bobText_valid : ValidUtf8 bobText :=
  ⟨"\x7b\"id\":8,\"name\":\"bob\",\"state\":\"online\"\x7d".toList, by decide⟩

theorem ann_valid : ValidUtf8 ann.name.bytes := ⟨['a', 'n', 'n'], by decide⟩

/-- The friend of the first user is shown in the place of an older one. -/
theorem doLoginResponse_shows_iff_bob :
    ∃ text respJs, (Acknowledgement.login (.accepted ann [] [bob] [])).text strictLibrary =
        .ok text ∧
      strictLibrary.parse text = .ok respJs ∧
      Shows ((doLoginResponse strictLibrary respJs).on
        ⟨.of bob, [.of ann], [], false, 0⟩).2 ann [bob] [] := by
  obtain ⟨text, encoded⟩ := accepted_sent strictLibrary ann_valid bob_dumped
    (List.mapM_nil : List.mapM (dumpGroup strictLibrary) [] = _)
    (List.forall_mem_nil _) (List.forall_mem_singleton.mpr bobText_valid) (List.forall_mem_nil _)
  obtain ⟨respJs, parsed, shows⟩ := doLoginResponse_shows_iff strictLibrary_faithful encoded
    ⟨.of bob, [.of ann], [], false, 0⟩
  have replaced : [bob] = [] → [ClientUser.of ann] = [] := fun none => absurd none (by decide)
  exact ⟨text, respJs, encoded, parsed, shows.mpr ⟨replaced, fun _ => rfl⟩⟩

/-- **A friend who is none.** A user logs in with a friend and out again; the next user of the same
client has no friends, and is shown the first one's. -/
theorem staleFriend_shown :
    ∃ text other respJs otherJs,
      (Acknowledgement.login (.accepted ann [] [bob] [])).text strictLibrary = .ok text ∧
      (Acknowledgement.login (.accepted bob [] [] [])).text strictLibrary = .ok other ∧
      strictLibrary.parse text = .ok respJs ∧ strictLibrary.parse other = .ok otherJs ∧
      ¬Shows ((doLoginResponse strictLibrary otherJs).on
        ((doLoginResponse strictLibrary respJs).on .start).2).2 bob [] [] := by
  have bobName : ValidUtf8 bob.name.bytes := ⟨['b', 'o', 'b'], by decide⟩
  have noGroups : List.mapM (dumpGroup strictLibrary) [] = .ok [] := List.mapM_nil
  have noFriends : (List.mapM (fun user => strictLibrary.dump (userJson user)) []) = .ok [] :=
    List.mapM_nil
  obtain ⟨text, encoded⟩ := accepted_sent strictLibrary ann_valid bob_dumped noGroups
    (List.forall_mem_nil _) (List.forall_mem_singleton.mpr bobText_valid) (List.forall_mem_nil _)
  obtain ⟨other, encoded'⟩ := accepted_sent strictLibrary bobName noFriends noGroups
    (List.forall_mem_nil _) (List.forall_mem_nil _) (List.forall_mem_nil _)
  obtain ⟨vec, groupV, friends, groups, parsed⟩ := parse_accepted strictLibrary_faithful encoded
  obtain ⟨vec', groupV', friends', groups', parsed'⟩ :=
    parse_accepted strictLibrary_faithful encoded'
  obtain ⟨result, first, -⟩ := doLoginResponse_accepted ann [] vec groupV strictLibrary_faithful
    friends groups .start
  obtain ⟨result', second, -⟩ := doLoginResponse_accepted bob [] vec' groupV'
    strictLibrary_faithful friends' groups' (afterLogin .start ann [bob] [])
  refine ⟨text, other, _, _, encoded, encoded', parsed, parsed', ?_⟩
  rw [first, second]
  intro shows
  cases ((afterLogin_shows_iff _ bob [] []).mp shows).1 rfl

end ClusterChat
