/-
# The router

`ClusterRouter` keeps one channel for each node and shard. A message goes to the
channel of its recipient's shard, which is made when it is first needed and made
anew when the node has another endpoint. Warming a node makes all its channels
and starts connecting them.
-/

import ClusterChat.Service.Interface

namespace ClusterChat

namespace ClusterRouter

/-- `pickShard`. -/
def pickShard (shardCount : ℕ) (userId : UserId) : ℕ :=
  if shardCount = 0 then 0
  else ((if 0 ≤ userId then userId else -userId).toInt % 2 ^ 64).toNat % shardCount

/-- `makeChannelKey`. -/
def makeChannelKey (nodeId : CString) (shardIndex : ℕ) : CString :=
  nodeId ++ cString ['#'] ++ printInt shardIndex

/-- `getOrCreateChannel`. The channel that lost the race is stopped after the lock
that the source stops it under: nobody else has it. -/
def getOrCreateChannel (nodeMeta : NodeMeta) (shardIndex : ℕ) : Calls ServerCall ℕ := do
  let channelKey := makeChannelKey nodeMeta.nodeId shardIndex
  match ← router (.findChannel channelKey nodeMeta.interIp nodeMeta.interPort) with
  | .current channel => return channel
  | .stale staleChannel =>
    onChannel staleChannel stopChannel
    publish channelKey
  | .absent => publish channelKey
where
  publish (channelKey : CString) : Calls ServerCall ℕ := do
    let channel ← router (.createChannel nodeMeta)
    match ← router (.publishChannel channelKey channel) with
    | none => return channel
    | some other =>
      onChannel channel stopChannel
      return other

/-- `sendInternalMessage`. -/
def sendInternalMessage (nodeMeta : NodeMeta) (shardIndex : ℕ) (frame : Frame) :
    Calls ServerCall Bool := do
  let channel ← getOrCreateChannel nodeMeta shardIndex
  onChannel channel (enqueueOrSend frame)

/-- `sendOneChat`. -/
def sendOneChat (shardCount : ℕ) (nodeMeta : NodeMeta) (copy : Copy) : Calls ServerCall Bool :=
  if nodeMeta.valid then
    sendInternalMessage nodeMeta (pickShard shardCount copy.recipient)
      ⟨copy.message.number, .oneChat copy.recipient copy.message.text⟩
  else return false

/-- `sendGroupChat`. -/
def sendGroupChat (shardCount : ℕ) (nodeMeta : NodeMeta) (toUsers : List UserId)
    (message : Message) : Calls ServerCall Bool :=
  if nodeMeta.valid then
    let shardIndex :=
      match toUsers with
      | [] => 0
      | front :: _ => pickShard shardCount front
    sendInternalMessage nodeMeta shardIndex ⟨message.number, .groupChat toUsers message.text⟩
  else return false

/-- The loop of `prewarmNode`, over the shards that are left. -/
def prewarmShards (nodeMeta : NodeMeta) : List ℕ → Calls ServerCall Unit
  | [] => return ()
  | shardIndex :: rest => do
    let channel ← getOrCreateChannel nodeMeta shardIndex
    onChannel channel prewarmChannel
    prewarmShards nodeMeta rest

/-- `prewarmNode`. -/
def prewarmNode (shardCount : ℕ) (nodeMeta : NodeMeta) : Calls ServerCall Unit :=
  if nodeMeta.valid then do
    match ← router (.warm nodeMeta.nodeId nodeMeta.instanceId) with
    | false => return ()
    | true => prewarmShards nodeMeta (List.range shardCount)
  else return ()

/-- The loop of `closeAll`. -/
def stopChannels : List ℕ → Calls ServerCall Unit
  | [] => return ()
  | channel :: rest => do
    onChannel channel stopChannel
    stopChannels rest

/-- `closeAll`. -/
def closeAll : Calls ServerCall Unit := do
  stopChannels (← router .takeChannels)

end ClusterRouter

end ClusterChat
