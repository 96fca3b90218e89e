/-
# The handlers

`ChatService` looks a recipient up in the table of local connections first. A
recipient that is not there, or whose delivery queue is full, is looked up in the
registry: on another node the message goes to that node's channel, and otherwise
it is stored for the recipient. A route that leads to the node itself is taken to
be stale and is dropped.
-/

import ClusterChat.Service.ClusterRouter

namespace ClusterChat

/-- What a handler reads of its own server: the node and the number of shards. -/
structure Server where
  selfNode : NodeMeta
  shardCount : ℕ

/-- Go through items in an order that a hash map may have: `order` tells at each
turn which of the items left comes next. -/
def arrange {α : Type} : List ℕ → List α → List α
  | _, [] => []
  | [], item :: rest => item :: rest
  | choice :: order, item :: rest =>
    let index := choice % (rest.length + 1)
    (item :: rest)[index]?.toList ++ arrange order ((item :: rest).eraseIdx index)

namespace ChatService

/-- `isSelfNode`. -/
def isSelfNode (server : Server) (nodeId : CString) : Bool := server.selfNode.nodeId = nodeId

def unbindUser (server : Server) (userId : UserId) : Calls ServerCall Unit := do
  let _ ← registry (NodeRegistry.unbindUser server.selfNode userId)

/-! ### Local connections -/

/-- `pickConnBucket`. -/
def pickConnBucket (userId : UserId) : ℕ :=
  ((if 0 ≤ userId then userId else -userId).toInt % 2 ^ 64).toNat % 64

/-- The loop of `removeLocalConnectionByConn`, over the buckets that are left. -/
def removeFromBuckets (conn : Connection) : List ℕ → Calls ServerCall UserId
  | [] => return -1
  | bucket :: rest => do
    match ← service (.removeFromBucket bucket conn) with
    | some userId => return userId
    | none => removeFromBuckets conn rest

/-- `removeLocalConnectionByConn`. -/
def removeLocalConnectionByConn (conn : Connection) : Calls ServerCall UserId :=
  removeFromBuckets conn (List.range 64)

/-- `deliverToLocalUser`, with `enqueueLocalDelivery`. -/
def deliverToLocalUser (copy : Copy) : Calls ServerCall Bool := do
  match ← service (.getLocalConnection copy.recipient) with
  | none => return false
  | some conn =>
    let dispatcher ← service (.getOrCreateLocalDispatcher conn.loop)
    onDispatcher dispatcher (enqueueLocalDelivery ⟨conn, copy⟩)

/-! ### Sessions -/

/-- The end of a successful `login`, after the user is bound. -/
def acceptLogin (user : User) (conn : Connection) : Calls ServerCall Unit := do
  database (.updateState user.id online)
  let offlineMsg ← database (.queryOffline user.id)
  if offlineMsg ≠ [] then database (.removeOffline user.id)
  let friends ← database (.queryFriends user.id)
  let groups ← database (.queryGroups user.id)
  service (.send conn (.loginAck (.accepted user offlineMsg friends groups)))

/-- `login`. -/
def login (server : Server) (id : UserId) (pwd : Bytes) (conn : Connection) :
    Calls ServerCall Unit := do
  let user ← database (.queryUser id)
  let session ← registry (NodeRegistry.queryUserNode id)
  if user.id = id ∧ user.password.bytes = pwd then
    match session with
    | some _ => service (.send conn (.loginAck .inUse))
    | none =>
      if user.state = online then database (.updateState user.id offline)
      service (.addLocalConnection id conn)
      match ← registry (NodeRegistry.bindUser server.selfNode id) with
      | false =>
        service (.removeLocalConnection id)
        service (.send conn (.loginAck .registerFailed))
      | true => acceptLogin user conn
  else service (.send conn (.loginAck .invalid))

/-- `logout`. -/
def logout (server : Server) (userId : UserId) : Calls ServerCall Unit := do
  service (.removeLocalConnection userId)
  unbindUser server userId
  database (.updateState userId offline)

/-- `clientCloseException`. -/
def clientCloseException (server : Server) (conn : Connection) : Calls ServerCall Unit := do
  let userId ← removeLocalConnectionByConn conn
  if userId ≠ -1 then
    unbindUser server userId
    database (.updateState userId offline)

/-! ### Messages of clients -/

/-- `oneChat`. -/
def oneChat (server : Server) (copy : Copy) : Calls ServerCall Unit := do
  match ← deliverToLocalUser copy with
  | true => return ()
  | false =>
    match ← registry (NodeRegistry.resolveUserNode copy.recipient) with
    | none => database (.insertOffline copy)
    | some (nodeId, nodeMeta) =>
      if isSelfNode server nodeId then
        unbindUser server copy.recipient
        database (.insertOffline copy)
      else
        ClusterRouter.prewarmNode server.shardCount nodeMeta
        match ← ClusterRouter.sendOneChat server.shardCount nodeMeta copy with
        | true => return ()
        | false => database (.insertOffline copy)

/-- The members of a group that `groupChat` finds connected, and the others. -/
def lookupMembers : List UserId → Calls ServerCall (List (UserId × Connection) × List UserId)
  | [] => return ([], [])
  | id :: rest => do
    let localConn ← service (.getLocalConnection id)
    let (localConns, unresolvedIds) ← lookupMembers rest
    match localConn with
    | some conn => return ((id, conn) :: localConns, unresolvedIds)
    | none => return (localConns, id :: unresolvedIds)

/-- `remoteNodeUsers[nodeId].push_back(id)`. -/
def addToBucket (nodeId : CString) (id : UserId) :
    List (CString × List UserId) → List (CString × List UserId)
  | [] => [(nodeId, [id])]
  | bucket :: rest =>
    if bucket.1 = nodeId then (nodeId, bucket.2 ++ [id]) :: rest
    else bucket :: addToBucket nodeId id rest

/-- The members that `groupChat` finds on other nodes, in buckets, and those it
finds nowhere. -/
def resolveMembers (server : Server) : List UserId → List (CString × List UserId) → List UserId →
    Calls ServerCall (List (CString × List UserId) × List UserId)
  | [], remoteNodeUsers, offlineIds => return (remoteNodeUsers, offlineIds)
  | id :: rest, remoteNodeUsers, offlineIds => do
    match ← registry (NodeRegistry.resolveUserNode id) with
    | none => resolveMembers server rest remoteNodeUsers (offlineIds ++ [id])
    | some (nodeId, _) =>
      if isSelfNode server nodeId then
        unbindUser server id
        resolveMembers server rest remoteNodeUsers (offlineIds ++ [id])
      else resolveMembers server rest (addToBucket nodeId id remoteNodeUsers) offlineIds

/-- Send a message to the connections that were found. -/
def sendToConnections (message : Message) : List (UserId × Connection) → Calls ServerCall Unit
  | [] => return ()
  | (id, conn) :: rest => do
    service (.send conn (.chat ⟨message, id⟩))
    sendToConnections message rest

/-- Send the buckets to their nodes; the members of those that were not sent join
the others. -/
def sendBuckets (server : Server) (message : Message) : List (CString × List UserId) →
    List UserId → Calls ServerCall (List UserId)
  | [], offlineIds => return offlineIds
  | (nodeId, toUsers) :: rest, offlineIds => do
    match ← registry (NodeRegistry.queryNode nodeId) with
    | none => sendBuckets server message rest (offlineIds ++ toUsers)
    | some nodeMeta =>
      ClusterRouter.prewarmNode server.shardCount nodeMeta
      match ← ClusterRouter.sendGroupChat server.shardCount nodeMeta toUsers message with
      | true => sendBuckets server message rest offlineIds
      | false => sendBuckets server message rest (offlineIds ++ toUsers)

/-- Store a message for each of the users. -/
def insertAll (message : Message) : List UserId → Calls ServerCall Unit
  | [] => return ()
  | id :: rest => do
    database (.insertOffline ⟨message, id⟩)
    insertAll message rest

/-- `groupChat`. -/
def groupChat (server : Server) (message : Message) (userId : UserId) (groupId : Int32) :
    Calls ServerCall Unit := do
  let userIdVec ← database (.queryGroupUsers userId groupId)
  if userIdVec ≠ [] then
    let (localConns, unresolvedIds) ← lookupMembers userIdVec
    let (remoteNodeUsers, offlineIds) ← resolveMembers server unresolvedIds [] []
    sendToConnections message localConns
    let order ← service .iterationOrder
    let offlineIds ← sendBuckets server message (arrange order remoteNodeUsers) offlineIds
    insertAll message offlineIds

/-! ### Messages of other nodes -/

/-- What the handlers do about the route of a user they did not reach. -/
def dropStaleRoute (server : Server) (userId : UserId) : Calls ServerCall Unit := do
  match ← registry (NodeRegistry.queryUserNode userId) with
  | none => unbindUser server userId
  | some nodeId => if isSelfNode server nodeId then unbindUser server userId

/-- `handleClusterOneChatFrame`. -/
def handleClusterOneChatFrame (server : Server) (copy : Copy) : Calls ServerCall Unit := do
  match ← deliverToLocalUser copy with
  | true => return ()
  | false =>
    dropStaleRoute server copy.recipient
    database (.insertOffline copy)

/-- `handleClusterGroupChat`. -/
def handleClusterGroupChat (server : Server) (message : Message) :
    List UserId → Calls ServerCall Unit
  | [] => return ()
  | userId :: rest => do
    handleClusterOneChatFrame server ⟨message, userId⟩
    handleClusterGroupChat server message rest

/-- The handler of a frame. -/
def handleClusterFrame (server : Server) (frame : Frame) : Calls ServerCall Unit :=
  match frame.request with
  | .oneChat toUser payload => handleClusterOneChatFrame server ⟨⟨frame.number, payload⟩, toUser⟩
  | .groupChat toUsers payload => handleClusterGroupChat server ⟨frame.number, payload⟩ toUsers

/-! ### The node itself -/

/-- The loop of `initNode` over the known nodes. -/
def prewarmOthers (server : Server) : List NodeMeta → Calls ServerCall Unit
  | [] => return ()
  | nodeMeta :: rest => do
    if !isSelfNode server nodeMeta.nodeId then
      ClusterRouter.prewarmNode server.shardCount nodeMeta
    prewarmOthers server rest

/-- `initNode`, from the registration on. -/
def initNode (server : Server) (heartbeatTimeoutMs : Int) : Calls ServerCall Unit := do
  match ← registry (NodeRegistry.register server.selfNode heartbeatTimeoutMs) with
  | false => return ()
  | true => prewarmOthers server (← registry NodeRegistry.listNodes)

/-- The loop of `reset` over the users of the node. -/
def markOffline : List UserId → Calls ServerCall Unit
  | [] => return ()
  | userId :: rest => do
    database (.updateState userId offline)
    markOffline rest

/-- `reset`. -/
def reset (server : Server) : Calls ServerCall Unit := do
  let selfUsers ← registry (NodeRegistry.redis (Redis.getNodeUsers server.selfNode.nodeId))
  registry (NodeRegistry.cleanupSelf server.selfNode)
  ClusterRouter.closeAll
  markOffline selfUsers

end ChatService

end ClusterChat
