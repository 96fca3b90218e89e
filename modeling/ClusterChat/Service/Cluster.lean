/-
# The cluster

Any number of nodes with their clients, one Redis and one database. Handlers run
on the loops of their nodes, call by call, in any order; the loops deliver what is
queued, the channels connect, send and break, clients come and go, and time
passes. What the models of other tables do to the database is left open.

Beside its state the cluster keeps a record: what was passed to `send` on a
connection that was up and on one that was not, what was stored for absent users,
and which routes the message handlers dropped.
-/

import ClusterChat.Service.ChatService
import Mathlib.Data.List.AList

namespace ClusterChat

/-- The handlers of a server. -/
inductive Handler
  | initNode
  | heartbeat
  | login (id : UserId) (pwd : Bytes) (conn : Connection)
  | logout (userId : UserId)
  | clientCloseException (conn : Connection)
  | oneChat (copy : Copy)
  | groupChat (message : Message) (userId : UserId) (groupId : Int32)
  | clusterFrame (frame : Frame)
  | closeAll
  | reset

/-- The handlers of chat messages, of clients and of other nodes. -/
def Handler.isMessagePath : Handler → Bool
  | oneChat _ => true
  | groupChat _ _ _ => true
  | clusterFrame _ => true
  | _ => false

/-- A handler at work: on which node, and on which of its loops. -/
structure Job where
  node : ℕ
  loop : ℕ
  handler : Handler

/-! ### The state -/

/-- An entry of the connection table, and the thread that made it. -/
structure LocalEntry where
  conn : Connection
  writer : ℕ
  deriving DecidableEq

/-- The connection table of a node. -/
abbrev LocalTable := AList fun _ : UserId => LocalEntry

/-- A client's connection, by the side of the server. -/
structure Client where
  node : ℕ
  loop : ℕ
  connected : Bool
  deriving DecidableEq

/-- The delivery queue of a loop. -/
structure NodeDispatcher where
  node : ℕ
  loop : ℕ
  queue : DeliveryLoop LocalDeliveryTask

/-- A channel of a node, to the node it was made for. -/
structure NodeChannel where
  node : ℕ
  nodeMeta : NodeMeta
  queue : ChannelLoop Frame

/-- The state of one server. -/
structure ServerNode where
  registry : RegistryNode
  heartbeatTimeoutMs : Int
  shardCount : ℕ
  localQueueLimit : ℕ
  channelQueueLimit : ℕ
  userConnMap : LocalTable
  warmedNodeInstances : CString → Option CString
  connMap : List (CString × ℕ)

/-- A group with the ids and roles of its members, each member once. -/
structure GroupRow where
  id : Int32
  name : CString
  desc : CString
  members : List (UserId × CString)
  unique : (members.map Prod.fst).Nodup

/-- The tables of the database, with the columns as the models return them. -/
structure Database where
  users : UserId → Option User
  friends : UserId → List UserId
  groups : List GroupRow
  offlineMessages : UserId → List Copy

/-- The cluster, and its record. -/
structure Cluster where
  store : RedisStore
  clockMs : Int
  nodes : ℕ → ServerNode
  clients : List Client
  dispatchers : List NodeDispatcher
  channels : List NodeChannel
  database : Database
  iterationOrder : List ℕ
  messages : ℕ
  sent : List (Connection × Outgoing)
  dropped : List (Connection × Outgoing)
  stored : List Copy
  droppedRoutes : List (ℕ × UserId × Bool)

namespace Database

/-- `UserModel::query`. -/
def user (database : Database) (id : UserId) : User := (database.users id).getD .default

/-- `UserModel::updateState`. -/
def updateState (database : Database) (id : UserId) (state : CString) : Database :=
  { database with
    users := Function.update database.users id
      ((database.users id).map fun user => { user with state := state }) }

/-- What a join with the user table shows of a user. -/
def shown (database : Database) (id : UserId) : List User :=
  (database.users id).toList.map fun user => { user with password := [] }

/-- A group as `queryGroups` returns it. -/
def groupOf (database : Database) (group : GroupRow) : Group where
  id := group.id
  name := group.name
  desc := group.desc
  users := group.members.flatMap fun member =>
    (database.shown member.1).map fun user => { user with role := member.2 }

/-- `GroupModel::queryGroupUsers`. -/
def groupUsers (database : Database) (userId : UserId) (groupId : Int32) : List UserId :=
  match database.groups.find? fun group => group.id = groupId with
  | none => []
  | some group => (group.members.map Prod.fst).filter (· ≠ userId)

/-- What an operation stores for an absent user. -/
def stores : {β : Type} → DatabaseCall β → List Copy
  | _, .insertOffline copy => [copy]
  | _, _ => []

/-- The effect of an operation. -/
def exec (database : Database) : {β : Type} → DatabaseCall β → β × Database
  | _, .queryUser id => (database.user id, database)
  | _, .updateState id state => ((), database.updateState id state)
  | _, .insertOffline copy =>
    ((), { database with
      offlineMessages := Function.update database.offlineMessages copy.recipient
        (database.offlineMessages copy.recipient ++ [copy]) })
  | _, .queryOffline userId =>
    ((database.offlineMessages userId).map fun copy => copy.message.text, database)
  | _, .removeOffline userId =>
    ((), { database with
      offlineMessages := Function.update database.offlineMessages userId [] })
  | _, .queryFriends userId => ((database.friends userId).flatMap database.shown, database)
  | _, .queryGroups userId =>
    ((database.groups.filter fun group => userId ∈ group.members.map Prod.fst).map
      database.groupOf, database)
  | _, .queryGroupUsers userId groupId => (database.groupUsers userId groupId, database)

end Database

namespace Cluster

/-- Redis as the registry of a node sees it, and that registry. -/
def view (cluster : Cluster) (n : ℕ) : RegistryState :=
  ⟨cluster.store, cluster.clockMs, (cluster.nodes n).registry⟩

/-- The cluster after one node has changed. -/
def withNode (cluster : Cluster) (n : ℕ) (node : ServerNode) : Cluster :=
  { cluster with nodes := Function.update cluster.nodes n node }

/-- The cluster after a call of a node's registry. -/
def putRegistry (cluster : Cluster) (n : ℕ) (state : RegistryState) : Cluster :=
  { cluster.withNode n { cluster.nodes n with registry := state.node } with store := state.store }

/-- `conn->connected()`. -/
def isConnected (cluster : Cluster) (conn : Connection) : Bool :=
  match cluster.clients[conn.id]? with
  | none => false
  | some client => client.connected

/-- `conn->send(..)`: dropped on a connection that is down. -/
def send (cluster : Cluster) (conn : Connection) (outgoing : Outgoing) : Cluster :=
  if cluster.isConnected conn then { cluster with sent := cluster.sent ++ [(conn, outgoing)] }
  else { cluster with dropped := cluster.dropped ++ [(conn, outgoing)] }

/-- The entry of a user's connection on a node. -/
def localEntry (cluster : Cluster) (n : ℕ) (userId : UserId) : Option LocalEntry :=
  (cluster.nodes n).userConnMap.lookup userId

/-- The route that a call of a message handler drops, and whether the user was
connected to the node after all. -/
def routeDrop (cluster : Cluster) (job : Job) :
    {β : Type} → RegistryCall β → List (ℕ × UserId × Bool)
  | _, .node (.eraseCachedUserNode .unbindUser userId) =>
    if job.handler.isMessagePath then
      [(job.node, userId, (cluster.localEntry job.node userId).isSome)]
    else []
  | _, _ => []

/-- The effect of a call on the service's own data. -/
def execService (cluster : Cluster) (number : ℕ) (job : Job) :
    {β : Type} → ServiceCall β → β × Cluster
  | _, .addLocalConnection userId conn =>
    let node := cluster.nodes job.node
    ((), cluster.withNode job.node
      { node with userConnMap := node.userConnMap.insert userId ⟨conn, number⟩ })
  | _, .removeLocalConnection userId =>
    let node := cluster.nodes job.node
    ((), cluster.withNode job.node { node with userConnMap := node.userConnMap.erase userId })
  | _, .removeFromBucket bucket conn =>
    let node := cluster.nodes job.node
    let entries := arrange cluster.iterationOrder node.userConnMap.entries
    match entries.find? fun entry =>
        ChatService.pickConnBucket entry.1 = bucket ∧ entry.2.conn = conn with
    | none => (none, cluster)
    | some entry =>
      (some entry.1, cluster.withNode job.node
        { node with userConnMap := node.userConnMap.erase entry.1 })
  | _, .getLocalConnection userId =>
    ((cluster.localEntry job.node userId).map LocalEntry.conn, cluster)
  | _, .getOrCreateLocalDispatcher loop =>
    match cluster.dispatchers.findIdx? fun dispatcher =>
        dispatcher.node = job.node ∧ dispatcher.loop = loop with
    | some dispatcher => (dispatcher, cluster)
    | none =>
      (cluster.dispatchers.length,
        { cluster with dispatchers := cluster.dispatchers ++
          [⟨job.node, loop, .create (cluster.nodes job.node).localQueueLimit⟩] })
  | _, .send conn outgoing => ((), cluster.send conn outgoing)
  | _, .iterationOrder => (cluster.iterationOrder, cluster)

/-- The effect of a call on the router's own data. -/
def execRouter (cluster : Cluster) (job : Job) : {β : Type} → RouterCall β → β × Cluster
  | _, .warm nodeId instanceId =>
    let node := cluster.nodes job.node
    if node.warmedNodeInstances nodeId = some instanceId then (false, cluster)
    else
      (true, cluster.withNode job.node
        { node with
          warmedNodeInstances :=
            Function.update node.warmedNodeInstances nodeId (some instanceId) })
  | _, .findChannel channelKey interIp interPort =>
    let node := cluster.nodes job.node
    match node.connMap.lookup channelKey with
    | none => (.absent, cluster)
    | some channel =>
      match cluster.channels[channel]? with
      | none => (.absent, cluster)
      | some known =>
        if known.nodeMeta.interIp = interIp ∧ known.nodeMeta.interPort = interPort then
          (.current channel, cluster)
        else
          (.stale channel, cluster.withNode job.node
            { node with connMap := node.connMap.filter fun entry => entry.1 ≠ channelKey })
  | _, .createChannel nodeMeta =>
    (cluster.channels.length,
      { cluster with channels := cluster.channels ++
        [⟨job.node, nodeMeta, .create (cluster.nodes job.node).channelQueueLimit⟩] })
  | _, .publishChannel channelKey channel =>
    let node := cluster.nodes job.node
    match node.connMap.lookup channelKey with
    | some other => (some other, cluster)
    | none =>
      (none, cluster.withNode job.node
        { node with connMap := (channelKey, channel) :: node.connMap })
  | _, .takeChannels =>
    let node := cluster.nodes job.node
    (node.connMap.map Prod.snd, cluster.withNode job.node { node with connMap := [] })

/-- Put a delivery queue in place of an old one. -/
def withDispatcher (cluster : Cluster) (index : ℕ) (dispatcher : NodeDispatcher) : Cluster :=
  { cluster with dispatchers := cluster.dispatchers.set index dispatcher }

/-- Put a channel in place of an old one. -/
def withChannel (cluster : Cluster) (index : ℕ) (channel : NodeChannel) : Cluster :=
  { cluster with channels := cluster.channels.set index channel }

/-- The effect of a thread's call. Handlers do not run on the loops of channels. -/
def exec (number : ℕ) (job : Job) : {β : Type} → ServerCall β → Cluster → Option (β × Cluster)
  | _, .registry call, cluster =>
    (RegistryState.exec number call (cluster.view job.node)).map fun (answer, state) =>
      (answer, { cluster.putRegistry job.node state with
        droppedRoutes := cluster.droppedRoutes ++ cluster.routeDrop job call })
  | _, .service call, cluster => some (cluster.execService number job call)
  | _, .dispatch index call, cluster =>
    match cluster.dispatchers[index]? with
    | none => none
    | some dispatcher =>
      (dispatcher.queue.exec number (job.node = dispatcher.node ∧ job.loop = dispatcher.loop)
        call).map fun (answer, queue) =>
          (answer, cluster.withDispatcher index { dispatcher with queue := queue })
  | _, .router call, cluster => some (cluster.execRouter job call)
  | _, .channel index call, cluster =>
    match cluster.channels[index]? with
    | none => none
    | some channel =>
      (channel.queue.exec false call).map fun (answer, queue) =>
        (answer, cluster.withChannel index { channel with queue := queue })
  | _, .database call, cluster =>
    let (answer, database) := cluster.database.exec call
    some (answer, { cluster with
      database := database
      stored := cluster.stored ++ Database.stores call })

/-! ### What happens besides the calls of handlers -/

/-- What a handler reads of its own server. -/
def server (cluster : Cluster) (n : ℕ) : Server :=
  ⟨(cluster.nodes n).registry.selfNode, (cluster.nodes n).shardCount⟩

/-- The program of a handler on a node. -/
def program (cluster : Cluster) (n : ℕ) : Handler → Calls ServerCall Unit
  | .initNode => ChatService.initNode (cluster.server n) (cluster.nodes n).heartbeatTimeoutMs
  | .heartbeat => do
    let _ ← registry (NodeRegistry.heartbeat (cluster.server n).selfNode
      (cluster.nodes n).heartbeatTimeoutMs)
  | .login id pwd conn => ChatService.login (cluster.server n) id pwd conn
  | .logout userId => ChatService.logout (cluster.server n) userId
  | .clientCloseException conn => ChatService.clientCloseException (cluster.server n) conn
  | .oneChat copy => ChatService.oneChat (cluster.server n) copy
  | .groupChat message userId groupId =>
    ChatService.groupChat (cluster.server n) message userId groupId
  | .clusterFrame frame => ChatService.handleClusterFrame (cluster.server n) frame
  | .closeAll => ClusterRouter.closeAll
  | .reset => ChatService.reset (cluster.server n)

/-- A handler about to run on a loop of a node. -/
def job (cluster : Cluster) (n loop : ℕ) (handler : Handler) : Job × Calls ServerCall Unit :=
  (⟨n, loop, handler⟩, cluster.program n handler)

end Cluster

/-- What a client asks for. -/
inductive ClientRequest
  | login (id : UserId) (pwd : Bytes)
  | logout (userId : UserId)
  | oneChat (toId : UserId) (text : Bytes)
  | groupChat (userId : UserId) (groupId : Int32) (text : Bytes)

/-- What happens on a channel besides the calls of handlers. -/
inductive ChannelMove
  | runFunctor
  | proceed
  | establish
  | close
  | flush
  | socket (mood : Socket)

def ChannelLoop.move {μ : Type} (loop : ChannelLoop μ) : ChannelMove → Option (ChannelLoop μ)
  | .runFunctor => loop.runFunctor
  | .proceed => loop.proceed
  | .establish => loop.establish
  | .close => loop.close
  | .flush => loop.flush
  | .socket mood => some { loop with socket := mood }

/-- What happens besides the calls of handlers. -/
inductive ClusterEvent
  | initNode (n loop : ℕ)
  | heartbeat (n loop : ℕ)
  | closeAll (n loop : ℕ)
  | reset (n loop : ℕ)
  | connect (n loop : ℕ)
  | disconnect (client : ℕ)
  | request (client : ℕ) (request : ClientRequest)
  | receive (channel n loop : ℕ)
  | move (channel : ℕ) (move : ChannelMove)
  | runQueued (dispatcher : ℕ)
  | drainStep (dispatcher index : ℕ)
  | tables (users : UserId → Option User) (friends : UserId → List UserId) (groups : List GroupRow)
  | iterate (order : List ℕ)
  | wait (n ms : ℕ)
  | waitRedis (ms : ℕ)

namespace Cluster

/-- The handler of a client's request, with the number of its message. -/
def handlerOf (number : ℕ) (conn : Connection) : ClientRequest → Handler
  | .login id pwd => .login id pwd conn
  | .logout userId => .logout userId
  | .oneChat toId text => .oneChat ⟨⟨number, text⟩, toId⟩
  | .groupChat userId groupId text => .groupChat ⟨number, text⟩ userId groupId

/-- A client's connection goes down. -/
def disconnect (cluster : Cluster) (id : ℕ) (client : Client) : Cluster :=
  { cluster with clients := cluster.clients.set id { client with connected := false } }

/-- A frame arrives at the node at the other end of a channel. -/
def receive (cluster : Cluster) (index n : ℕ) : Option (Frame × Cluster) :=
  (cluster.channels[index]?).bind fun channel =>
    let selfNode := (cluster.nodes n).registry.selfNode
    if channel.nodeMeta.interIp = selfNode.interIp ∧
        channel.nodeMeta.interPort = selfNode.interPort then
      channel.queue.receive.map fun (frame, queue) =>
        (frame, cluster.withChannel index { channel with queue := queue })
    else none

/-- A drain takes its next step; the task it comes to is sent. -/
def drainStep (cluster : Cluster) (index drain : ℕ) : Option Cluster :=
  (cluster.dispatchers[index]?).bind fun dispatcher =>
    (dispatcher.queue.drainStep drain).map fun queue =>
      let drained := cluster.withDispatcher index { dispatcher with queue := queue }
      match dispatcher.queue.nextSend drain with
      | none => drained
      | some task => drained.send task.conn (.chat task.copy)

/-- Time passes on a node. -/
def wait (cluster : Cluster) (n ms : ℕ) : Cluster :=
  let node := cluster.nodes n
  cluster.withNode n { node with
    registry := { node.registry with
      nowMs := node.registry.nowMs + ms
      systemMs := node.registry.systemMs + ms } }

end Cluster

/-- The cluster at work. -/
def clusterSystem : ThreadSystem Cluster ServerCall Job Unit ClusterEvent where
  exec := Cluster.exec
  environment
    | .initNode n loop, cluster => some (cluster, [cluster.job n loop .initNode])
    | .heartbeat n loop, cluster => some (cluster, [cluster.job n loop .heartbeat])
    | .closeAll n loop, cluster => some (cluster, [cluster.job n loop .closeAll])
    | .reset n loop, cluster => some (cluster, [cluster.job n loop .reset])
    | .connect n loop, cluster =>
      some ({ cluster with clients := cluster.clients ++ [⟨n, loop, true⟩] }, [])
    | .disconnect id, cluster =>
      match cluster.clients[id]? with
      | none => none
      | some client =>
        if client.connected then
          some (cluster.disconnect id client,
            [cluster.job client.node client.loop (.clientCloseException ⟨id, client.loop⟩)])
        else none
    | .request id request, cluster =>
      match cluster.clients[id]? with
      | none => none
      | some client =>
        some ({ cluster with messages := cluster.messages + 1 },
          [cluster.job client.node client.loop
            (Cluster.handlerOf cluster.messages ⟨id, client.loop⟩ request)])
    | .receive index n loop, cluster =>
      (cluster.receive index n).map fun (frame, received) =>
        (received, [cluster.job n loop (.clusterFrame frame)])
    | .move index move, cluster =>
      (cluster.channels[index]?).bind fun channel =>
        (channel.queue.move move).map fun queue =>
          (cluster.withChannel index { channel with queue := queue }, [])
    | .runQueued index, cluster =>
      (cluster.dispatchers[index]?).bind fun dispatcher =>
        dispatcher.queue.runQueued.map fun queue =>
          (cluster.withDispatcher index { dispatcher with queue := queue }, [])
    | .drainStep index drain, cluster => (cluster.drainStep index drain).map (·, [])
    | .tables users friends groups, cluster =>
      some ({ cluster with
        database := { cluster.database with
          users := users, friends := friends, groups := groups } }, [])
    | .iterate order, cluster => some ({ cluster with iterationOrder := order }, [])
    | .wait n ms, cluster => some (cluster.wait n ms, [])
    | .waitRedis ms, cluster => some ({ cluster with clockMs := cluster.clockMs + ms }, [])

/-- What a server is started with. -/
structure ServerConfig where
  node : NodeConfig
  shardCount : ℕ
  localQueueLimit : ℕ
  channelQueueLimit : ℕ

/-- A server that has done nothing yet. -/
def ServerNode.create (config : ServerConfig) : ServerNode where
  registry := .create config.node
  heartbeatTimeoutMs := config.node.heartbeatTimeoutMs
  shardCount := config.shardCount
  localQueueLimit := config.localQueueLimit
  channelQueueLimit := config.channelQueueLimit
  userConnMap := ∅
  warmedNodeInstances := fun _ => none
  connMap := []

/-- A cluster about to start. -/
def Cluster.start (clockMs : Int) (configs : ℕ → ServerConfig) (database : Database) :
    Cluster where
  store := .empty
  clockMs := clockMs
  nodes n := .create (configs n)
  clients := []
  dispatchers := []
  channels := []
  database := database
  iterationOrder := []
  messages := 0
  sent := []
  dropped := []
  stored := []
  droppedRoutes := []

/-- The cluster and its threads. -/
abbrev ClusterPool := Pool Cluster ServerCall Job Unit

/-- A cluster about to start, without threads. -/
def startPool (clockMs : Int) (configs : ℕ → ServerConfig) (database : Database) : ClusterPool :=
  ⟨.start clockMs configs database, []⟩

/-- The pools that a cluster comes to in some run. -/
def ClusterReach (clockMs : Int) (configs : ℕ → ServerConfig) (database : Database)
    (pool : ClusterPool) : Prop :=
  clusterSystem.machine.Reach Machine.anyStep (startPool clockMs configs database) pool

theorem ClusterReach.of_run {clockMs : Int} {configs : ℕ → ServerConfig} {database : Database}
    {labels : List (Turn ClusterEvent)} {pool : ClusterPool}
    (ran : clusterSystem.machine.run (startPool clockMs configs database) labels = some pool) :
    ClusterReach clockMs configs database pool :=
  Machine.Reach.of_run .refl (fun _ _ => trivial) ran

/-! ### A small cluster -/

/-- Two servers on one host. -/
def twoServers (localQueueLimit n : ℕ) : ServerConfig where
  node := twoNodes n
  shardCount := 1
  localQueueLimit := localQueueLimit
  channelQueueLimit := 8

/-- The password of the users in the database below. -/
def password : CString := cString ['p', 'w']

/-- A database with two users, nobody's friends and no groups. -/
def twoUsers : Database where
  users id := if id = 7 ∨ id = 8 then some ⟨id, [], password, offline⟩ else none
  friends _ := []
  groups := []
  offlineMessages _ := []

end ClusterChat
