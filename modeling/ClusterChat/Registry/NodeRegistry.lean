/-
# The registry of a node

Each node keeps two caches of what Redis holds: which node and instance a user is
bound to, and what a node's addresses and instance are. Entries expire on their
own clocks. `queryUserNode` judges a session by comparing the instance it names
with the instance of the node: a session that names another instance is taken for
the leftover of a crash, and deleted.

The methods of `NodeRegistry` are programs over Redis and the caches of their
node. They run against one node and Redis, call by call or as a whole.
-/

import ClusterChat.Registry.Redis

namespace ClusterChat

/-- `UserRouteCacheEntry`. -/
structure UserRouteCacheEntry where
  nodeId : CString
  instanceId : CString
  expireAtMs : Int

/-- `NodeMetaCacheEntry`. -/
structure NodeMetaCacheEntry where
  nodeMeta : NodeMeta
  expireAtMs : Int

/-- The state of one `NodeRegistry`: its node, its caches, its clocks, and the
thread that holds the mutex of its Redis client. -/
structure RegistryNode where
  selfNode : NodeMeta
  heartbeatTimeoutMs : Int
  routeCacheTtlMs : Int
  userRouteCache : UserId → Option UserRouteCacheEntry
  nodeMetaCache : CString → Option NodeMetaCacheEntry
  nowMs : Int
  systemMs : Int
  commandHolder : Option ℕ

/-- What a method does on its own node: reads and writes of the caches under
`cacheMutex_`, and the system clock. A deletion carries the method that asked for
it. -/
inductive NodeCall : Type → Type
  | getCachedUserNode (userId : UserId) : NodeCall (Option (CString × CString))
  | cacheUserNode (userId : UserId) (nodeId instanceId : CString) : NodeCall Unit
  | eraseCachedUserNode (caller : Unbinder) (userId : UserId) : NodeCall Unit
  | getCachedNode (nodeId : CString) : NodeCall (Option NodeMeta)
  | cacheNode (nodeMeta : NodeMeta) : NodeCall Unit
  | eraseCachedNode (nodeId : CString) : NodeCall Unit
  | clearCaches : NodeCall Unit
  | systemMs : NodeCall Int

/-- What the methods of `NodeRegistry` do. -/
inductive RegistryCall (β : Type)
  | redis (call : RedisCall β)
  | node (call : NodeCall β)

/-! ### The methods -/

namespace NodeRegistry

/-- Call a method of the Redis client. -/
def redis {α : Type} (program : Calls RedisCall α) : Calls RegistryCall α :=
  program.lift fun call => .redis call

/-- Read or write the node's own state. -/
def node {β : Type} (call : NodeCall β) : Calls RegistryCall β := Calls.perform (.node call)

@[simp] theorem node_bind {α β : Type} (call : NodeCall β) (cont : β → Calls RegistryCall α) :
    (node call >>= cont) = .call (.node call) cont := rfl

/-- How long cache entries live, as `NodeRegistry::init` sets it. -/
def routeCacheTtl (heartbeatIntervalMs : Int) : Int :=
  if heartbeatIntervalMs ≤ 0 then 1000
  else if heartbeatIntervalMs > 1000 then 1000
  else heartbeatIntervalMs

/-- What `NodeRegistry::init` does once its fields are set, and `heartbeatLoop`
after each sleep. -/
def register (selfNode : NodeMeta) (heartbeatTimeoutMs : Int) : Calls RegistryCall Bool := do
  node (.cacheNode selfNode)
  redis (Redis.registerNode selfNode (heartbeatTimeoutMs.tdiv 1000 + 2))

/-- One round of `NodeRegistry::heartbeatLoop`. -/
def heartbeat (selfNode : NodeMeta) (heartbeatTimeoutMs : Int) : Calls RegistryCall Bool := do
  let heartbeatMs ← node .systemMs
  register { selfNode with heartbeatMs := heartbeatMs } heartbeatTimeoutMs

/-- `NodeRegistry::bindUser`. -/
def bindUser (selfNode : NodeMeta) (userId : UserId) : Calls RegistryCall Bool := do
  match ← redis (Redis.bindUserNode userId selfNode.nodeId selfNode.instanceId) with
  | false => return false
  | true =>
    node (.cacheUserNode userId selfNode.nodeId selfNode.instanceId)
    return true

/-- `NodeRegistry::unbindUser`. -/
def unbindUser (selfNode : NodeMeta) (userId : UserId) : Calls RegistryCall Bool := do
  node (.eraseCachedUserNode .unbindUser userId)
  redis (Redis.unbindUserNode .unbindUser userId selfNode.nodeId)

/-- `NodeRegistry::queryNode`; the node it fills in where it returns true. -/
def queryNode (nodeId : CString) : Calls RegistryCall (Option NodeMeta) := do
  match ← node (.getCachedNode nodeId) with
  | some nodeMeta => return some nodeMeta
  | none =>
    match ← redis (Redis.getNode nodeId) with
    | none =>
      node (.eraseCachedNode nodeId)
      return none
    | some nodeMeta =>
      node (.cacheNode nodeMeta)
      return some nodeMeta

/-- Whether a session of this instance is taken for one of a live node. -/
def sessionAlive (instanceId : CString) (nodeMeta : Option NodeMeta) : Bool :=
  match nodeMeta with
  | none => false
  | some nodeMeta => instanceId ≠ [] && nodeMeta.instanceId = instanceId

/-- The verdict of `queryUserNode` on a route: a dead one is unbound. -/
def judge (userId : UserId) (nodeId instanceId : CString) :
    Calls RegistryCall (Option CString) := do
  let seen ← queryNode nodeId
  match sessionAlive instanceId seen with
  | true => return some nodeId
  | false =>
    let _ ← redis (Redis.unbindUserNode (.queryUserNode nodeId instanceId seen) userId nodeId)
    node (.eraseCachedUserNode (.queryUserNode nodeId instanceId seen) userId)
    return none

/-- `NodeRegistry::queryUserNode`; the id it fills in where it returns true. -/
def queryUserNode (userId : UserId) : Calls RegistryCall (Option CString) := do
  match ← node (.getCachedUserNode userId) with
  | some (nodeId, instanceId) => judge userId nodeId instanceId
  | none =>
    match ← redis (Redis.getUserSession userId) with
    | none => return none
    | some (nodeId, instanceId) =>
      node (.cacheUserNode userId nodeId instanceId)
      judge userId nodeId instanceId

/-- The two cache lookups with which `resolveUserNode` starts: a route and its
node, where both are cached and agree. -/
def resolveCached (userId : UserId) : Calls RegistryCall (Option (CString × NodeMeta)) := do
  match ← node (.getCachedUserNode userId) with
  | none => return none
  | some (nodeId, instanceId) =>
    let nodeMeta ← node (.getCachedNode nodeId)
    return nodeMeta.bind fun nodeMeta =>
      if sessionAlive instanceId (some nodeMeta) then some (nodeId, nodeMeta) else none

/-- `NodeRegistry::resolveUserNode`; what it fills in where it returns true. -/
def resolveUserNode (userId : UserId) : Calls RegistryCall (Option (CString × NodeMeta)) := do
  match ← resolveCached userId with
  | some found => return some found
  | none =>
    match ← queryUserNode userId with
    | none => return none
    | some nodeId => return (← queryNode nodeId).map (nodeId, ·)

/-- The loop of `listNodes` over the ids it got from Redis. -/
def listFrom : List CString → Calls RegistryCall (List NodeMeta)
  | [] => return []
  | nodeId :: rest => do
    match ← queryNode nodeId with
    | none =>
      node (.eraseCachedNode nodeId)
      listFrom rest
    | some nodeMeta => return nodeMeta :: (← listFrom rest)

/-- `NodeRegistry::listNodes`. -/
def listNodes : Calls RegistryCall (List NodeMeta) := do
  listFrom (← redis Redis.getNodeIds)

/-- The loop of `cleanupSelf` over the users it got from Redis. -/
def unbindUsers (nodeId : CString) : List UserId → Calls RegistryCall Unit
  | [] => return ()
  | userId :: rest => do
    let _ ← redis (Redis.unbindUserNode .cleanupSelf userId nodeId)
    unbindUsers nodeId rest

/-- `NodeRegistry::cleanupSelf`. -/
def cleanupSelf (selfNode : NodeMeta) : Calls RegistryCall Unit := do
  unbindUsers selfNode.nodeId (← redis (Redis.getNodeUsers selfNode.nodeId))
  let _ ← redis (Redis.unregisterNode selfNode.nodeId)
  node .clearCaches

end NodeRegistry

/-! ### One node and Redis -/

/-- What `ChatService::initNode` says of its node. -/
def initNode (clientIp : CString) (clientPort : UInt16) (interIp : CString) (interPort : UInt16)
    (heartbeatMs : Int) : NodeMeta :=
  let nodeId := interIp ++ cString [':'] ++ printInt interPort.toNat
  { nodeId := nodeId
    instanceId := nodeId ++ cString ['#'] ++ printInt heartbeatMs
    clientIp := clientIp
    clientPort := clientPort
    interIp := interIp
    interPort := interPort
    heartbeatMs := heartbeatMs }

/-- What `ChatService::initNode` is given and reads from the environment, and the
clocks it finds. -/
structure NodeConfig where
  clientIp : CString
  clientPort : UInt16
  interIp : CString
  interPort : UInt16
  heartbeatIntervalMs : Int
  heartbeatTimeoutMs : Int
  nowMs : Int
  systemMs : Int

def NodeConfig.selfNode (config : NodeConfig) : NodeMeta :=
  initNode config.clientIp config.clientPort config.interIp config.interPort config.systemMs

/-- Two nodes on one host. -/
def twoNodes (n : ℕ) : NodeConfig where
  clientIp := cString ['h']
  clientPort := .ofNat (6000 + n)
  interIp := cString ['h']
  interPort := .ofNat (6100 + n)
  heartbeatIntervalMs := 3000
  heartbeatTimeoutMs := 10000
  nowMs := 0
  systemMs := 1000

namespace RegistryNode

/-- A registry as the constructor and the first lines of `init` leave it. -/
def create (config : NodeConfig) : RegistryNode where
  selfNode := config.selfNode
  heartbeatTimeoutMs := config.heartbeatTimeoutMs
  routeCacheTtlMs := NodeRegistry.routeCacheTtl config.heartbeatIntervalMs
  userRouteCache := fun _ => none
  nodeMetaCache := fun _ => none
  nowMs := config.nowMs
  systemMs := config.systemMs
  commandHolder := none

/-- The cached route of a user, unless it has expired. -/
def route (node : RegistryNode) (userId : UserId) : Option (CString × CString) :=
  match node.userRouteCache userId with
  | none => none
  | some entry =>
    if entry.expireAtMs < node.nowMs then none else some (entry.nodeId, entry.instanceId)

/-- The cached node of an id, unless it has expired. -/
def cachedNode (node : RegistryNode) (nodeId : CString) : Option NodeMeta :=
  match node.nodeMetaCache nodeId with
  | none => none
  | some entry => if entry.expireAtMs < node.nowMs then none else some entry.nodeMeta

def eraseRoute (node : RegistryNode) (userId : UserId) : RegistryNode :=
  { node with userRouteCache := Function.update node.userRouteCache userId none }

def eraseNode (node : RegistryNode) (nodeId : CString) : RegistryNode :=
  { node with nodeMetaCache := Function.update node.nodeMetaCache nodeId none }

/-- The effect of a method's call on its node. An expired entry goes when it is
looked up. -/
def exec (node : RegistryNode) : {β : Type} → NodeCall β → β × RegistryNode
  | _, .getCachedUserNode userId =>
    match node.route userId with
    | none => (none, node.eraseRoute userId)
    | some route => (some route, node)
  | _, .cacheUserNode userId nodeId instanceId =>
    ((), { node with
      userRouteCache := Function.update node.userRouteCache userId
        (some ⟨nodeId, instanceId, node.nowMs + node.routeCacheTtlMs⟩) })
  | _, .eraseCachedUserNode _ userId => ((), node.eraseRoute userId)
  | _, .getCachedNode nodeId =>
    match node.cachedNode nodeId with
    | none => (none, node.eraseNode nodeId)
    | some nodeMeta => (some nodeMeta, node)
  | _, .cacheNode nodeMeta =>
    ((), { node with
      nodeMetaCache := Function.update node.nodeMetaCache nodeMeta.nodeId
        (some ⟨nodeMeta, node.nowMs + node.routeCacheTtlMs⟩) })
  | _, .eraseCachedNode nodeId => ((), node.eraseNode nodeId)
  | _, .clearCaches =>
    ((), { node with userRouteCache := fun _ => none, nodeMetaCache := fun _ => none })
  | _, .systemMs => (node.systemMs, node)

end RegistryNode

/-- Redis with its clock, and one node. -/
structure RegistryState where
  store : RedisStore
  clockMs : Int
  node : RegistryNode

namespace RegistryState

/-- The node registered under an id. -/
def registered (state : RegistryState) (nodeId : CString) : Option NodeMeta :=
  (state.store.liveNode state.clockMs nodeId).bind fun record => readNode record.fields

/-- The effect of a thread's call. The mutex of the Redis client makes it wait
while another thread is inside. -/
def exec (number : ℕ) : {β : Type} → RegistryCall β → RegistryState → Option (β × RegistryState)
  | _, .redis (.client .lock), state =>
    match state.node.commandHolder with
    | none => some ((), { state with node := { state.node with commandHolder := some number } })
    | some _ => none
  | _, .redis (.client .unlock), state =>
    some ((), { state with node := { state.node with commandHolder := none } })
  | _, .redis (.client .time), state => some (state.node.systemMs / 1000, state)
  | _, .redis (.command command), state =>
    let (answer, store) := state.store.exec state.clockMs command
    some (answer, { state with store := store })
  | _, .node call, state =>
    let (answer, node) := state.node.exec call
    some (answer, { state with node := node })

end RegistryState

/-! ### Any number of nodes -/

/-- Redis with its clock, and the nodes. -/
structure RegistryWorld where
  store : RedisStore
  clockMs : Int
  nodes : ℕ → RegistryNode

namespace RegistryWorld

/-- Redis as one node sees it, and the node. -/
def view (world : RegistryWorld) (n : ℕ) : RegistryState :=
  ⟨world.store, world.clockMs, world.nodes n⟩

/-- The world after one node has moved. -/
def put (world : RegistryWorld) (n : ℕ) (state : RegistryState) : RegistryWorld :=
  ⟨state.store, state.clockMs, Function.update world.nodes n state.node⟩

/-- Redis is empty and the nodes are about to start. -/
def start (clockMs : Int) (configs : ℕ → NodeConfig) : RegistryWorld :=
  ⟨.empty, clockMs, fun n => .create (configs n)⟩

/-- Time passes on a node. -/
def wait (world : RegistryWorld) (n ms : ℕ) : RegistryWorld :=
  let node := world.nodes n
  { world with
    nodes := Function.update world.nodes n
      { node with nowMs := node.nowMs + ms, systemMs := node.systemMs + ms } }

/-- Time passes for Redis. -/
def waitRedis (world : RegistryWorld) (ms : ℕ) : RegistryWorld :=
  { world with clockMs := world.clockMs + ms }

end RegistryWorld

/-- A call of the registry. -/
inductive RegistryMethod
  | bindUser (userId : UserId)
  | unbindUser (userId : UserId)
  | queryUserNode (userId : UserId)
  | resolveUserNode (userId : UserId)
  | queryNode (nodeId : CString)
  | listNodes
  | register
  | heartbeat
  | cleanupSelf

/-- The program of a call on a node; what it answers is left aside. -/
def RegistryMethod.program (node : RegistryNode) : RegistryMethod → Calls RegistryCall Unit
  | bindUser userId => do
    let _ ← NodeRegistry.bindUser node.selfNode userId
  | unbindUser userId => do
    let _ ← NodeRegistry.unbindUser node.selfNode userId
  | queryUserNode userId => do
    let _ ← NodeRegistry.queryUserNode userId
  | resolveUserNode userId => do
    let _ ← NodeRegistry.resolveUserNode userId
  | queryNode nodeId => do
    let _ ← NodeRegistry.queryNode nodeId
  | listNodes => do
    let _ ← NodeRegistry.listNodes
  | register => do
    let _ ← NodeRegistry.register node.selfNode node.heartbeatTimeoutMs
  | heartbeat => do
    let _ ← NodeRegistry.heartbeat node.selfNode node.heartbeatTimeoutMs
  | cleanupSelf => NodeRegistry.cleanupSelf node.selfNode

end ClusterChat
