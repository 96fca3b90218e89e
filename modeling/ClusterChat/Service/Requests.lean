/-
# What the handlers ask for

Whatever it is answered, a handler of messages neither connects nor disconnects a
user, and writes no user's state: besides plain calls it unbinds users whose routes
it takes to be stale. Logins, logouts and closed connections do the rest.
-/

import ClusterChat.Registry.Requests
import ClusterChat.Service.Cluster

namespace ClusterChat

namespace ServerCall

/-- What concerns nobody's session: lookups and registrations, messages, channels,
and reading the database. -/
def Plain : ⦃β : Type⦄ → ServerCall β → Prop
  | _, .registry call => call.OfLookup ∨ ∃ selfNode, call.OfRegister selfNode
  | _, .service (.addLocalConnection _ _) => False
  | _, .service (.removeLocalConnection _) => False
  | _, .service (.removeFromBucket _ _) => False
  | _, .service (.send _ (.loginAck _)) => False
  | _, .service _ => True
  | _, .dispatch _ _ => True
  | _, .router _ => True
  | _, .channel _ _ => True
  | _, .database (.updateState _ _) => False
  | _, .database (.queryOffline _) => False
  | _, .database (.removeOffline _) => False
  | _, .database _ => True

/-- What the router does: its own data, and channels. -/
def OfRouter : ⦃β : Type⦄ → ServerCall β → Prop
  | _, .router _ => True
  | _, .channel _ _ => True
  | _, _ => False

/-- What unbinding a user asks for. -/
def Unbinds (userId : UserId) : ⦃β : Type⦄ → ServerCall β → Prop
  | _, .registry call => call.OfUnbind userId
  | _, _ => False

/-- What the handlers of messages ask for. -/
def OfMessage ⦃β : Type⦄ (call : ServerCall β) : Prop :=
  call.Plain ∨ ∃ userId, call.Unbinds userId

/-- What logging out, closing a connection and shutting down ask for. -/
def OfDeparture : ⦃β : Type⦄ → ServerCall β → Prop
  | _, .registry call => (∃ userId, call.OfUnbind userId) ∨ call.OfCleanup
  | _, .service (.removeLocalConnection _) => True
  | _, .service (.removeFromBucket _ _) => True
  | _, .router _ => True
  | _, .channel _ _ => True
  | _, .database (.updateState _ state) => state = offline
  | _, _ => False

/-- What the handlers other than `login` ask for. -/
def OfOthers ⦃β : Type⦄ (call : ServerCall β) : Prop := call.OfMessage ∨ call.OfDeparture

theorem OfRouter.plain ⦃β : Type⦄ (call : ServerCall β) (asked : call.OfRouter) : call.Plain := by
  cases call with
  | router call => trivial
  | channel index call => trivial
  | _ => exact asked.elim

theorem Plain.ofMessage ⦃β : Type⦄ (call : ServerCall β) (plain : call.Plain) : call.OfMessage :=
  .inl plain

end ServerCall

open ServerCall NodeRegistry

/-! ### Parts of handlers -/

theorem lookup_only {α : Type} {program : Calls RegistryCall α}
    (only : program.Only RegistryCall.OfLookup) : (registry program).Only Plain :=
  Calls.Only.lift (only.mono fun _ _ => .inl)

theorem registration_only {α : Type} {program : Calls RegistryCall α} {selfNode : NodeMeta}
    (only : program.Only (RegistryCall.OfRegister selfNode)) : (registry program).Only Plain :=
  Calls.Only.lift (only.mono fun _ _ asked => .inr ⟨selfNode, asked⟩)

theorem onChannel_ofRouter {α : Type} (channel : ℕ) (program : Calls (ChannelCall Frame) α) :
    (onChannel channel program).Only OfRouter :=
  Calls.Only.lift (Calls.only_of_forall (fun _ _ => trivial) program)

theorem onDispatcher_only {α : Type} (dispatcher : ℕ)
    (program : Calls (DispatchCall LocalDeliveryTask) α) :
    (onDispatcher dispatcher program).Only Plain :=
  Calls.Only.lift (Calls.only_of_forall (fun _ _ => trivial) program)

namespace ClusterRouter

theorem getOrCreateChannel_ofRouter (nodeMeta : NodeMeta) (shardIndex : ℕ) :
    (getOrCreateChannel nodeMeta shardIndex).Only OfRouter := by
  have published (channelKey : CString) :
      (getOrCreateChannel.publish nodeMeta channelKey).Only OfRouter := by
    refine ⟨trivial, fun channel => ⟨trivial, fun found => ?_⟩⟩
    cases found with
    | none => trivial
    | some other => exact (onChannel_ofRouter channel stopChannel).bind fun _ => trivial
  refine ⟨trivial, fun found => ?_⟩
  cases found with
  | current channel => trivial
  | stale channel => exact (onChannel_ofRouter channel stopChannel).bind fun _ => published _
  | absent => exact published _

theorem sendInternalMessage_ofRouter (nodeMeta : NodeMeta) (shardIndex : ℕ) (frame : Frame) :
    (sendInternalMessage nodeMeta shardIndex frame).Only OfRouter :=
  (getOrCreateChannel_ofRouter nodeMeta shardIndex).bind fun channel => onChannel_ofRouter channel _

theorem sendOneChat_ofRouter (shardCount : ℕ) (nodeMeta : NodeMeta) (copy : Copy) :
    (sendOneChat shardCount nodeMeta copy).Only OfRouter := by
  rw [sendOneChat]
  split
  · exact sendInternalMessage_ofRouter nodeMeta _ _
  · trivial

theorem sendGroupChat_ofRouter (shardCount : ℕ) (nodeMeta : NodeMeta) (toUsers : List UserId)
    (message : Message) : (sendGroupChat shardCount nodeMeta toUsers message).Only OfRouter := by
  unfold sendGroupChat
  split
  · exact sendInternalMessage_ofRouter nodeMeta _ _
  · trivial

theorem prewarmNode_ofRouter (shardCount : ℕ) (nodeMeta : NodeMeta) :
    (prewarmNode shardCount nodeMeta).Only OfRouter := by
  have shards : ∀ indices, (prewarmShards nodeMeta indices).Only OfRouter := by
    intro indices
    induction indices with
    | nil => trivial
    | cons shardIndex rest ih =>
      refine (getOrCreateChannel_ofRouter nodeMeta shardIndex).bind fun channel => ?_
      exact (onChannel_ofRouter channel prewarmChannel).bind fun _ => ih
  rw [prewarmNode]
  split
  · refine ⟨trivial, fun warmed => ?_⟩
    cases warmed with
    | false => trivial
    | true => exact shards _
  · trivial

theorem closeAll_ofRouter : closeAll.Only OfRouter := by
  refine ⟨trivial, fun channels => ?_⟩
  induction channels with
  | nil => trivial
  | cons channel rest ih => exact (onChannel_ofRouter channel stopChannel).bind fun _ => ih

theorem sendOneChat_only (shardCount : ℕ) (nodeMeta : NodeMeta) (copy : Copy) :
    (sendOneChat shardCount nodeMeta copy).Only Plain :=
  (sendOneChat_ofRouter shardCount nodeMeta copy).mono OfRouter.plain

theorem sendGroupChat_only (shardCount : ℕ) (nodeMeta : NodeMeta) (toUsers : List UserId)
    (message : Message) : (sendGroupChat shardCount nodeMeta toUsers message).Only Plain :=
  (sendGroupChat_ofRouter shardCount nodeMeta toUsers message).mono OfRouter.plain

theorem prewarmNode_only (shardCount : ℕ) (nodeMeta : NodeMeta) :
    (prewarmNode shardCount nodeMeta).Only Plain :=
  (prewarmNode_ofRouter shardCount nodeMeta).mono OfRouter.plain

theorem closeAll_only : closeAll.Only Plain := closeAll_ofRouter.mono OfRouter.plain

end ClusterRouter

namespace ChatService

theorem unbindUser_only (server : Server) (userId : UserId) :
    (unbindUser server userId).Only (Unbinds userId) := by
  have asked : (registry (NodeRegistry.unbindUser server.selfNode userId)).Only
      (Unbinds userId) :=
    Calls.Only.lift (ClusterChat.unbindUser_only server.selfNode userId)
  exact asked.bind fun _ => trivial

theorem unbindUser_ofMessage (server : Server) (userId : UserId) :
    (unbindUser server userId).Only OfMessage :=
  (unbindUser_only server userId).mono fun _ _ asked => .inr ⟨userId, asked⟩

theorem deliverToLocalUser_only (copy : Copy) : (deliverToLocalUser copy).Only Plain := by
  refine ⟨trivial, fun found => ?_⟩
  cases found with
  | none => trivial
  | some conn => exact ⟨trivial, fun dispatcher => onDispatcher_only dispatcher _⟩

/-! ### The handlers of messages -/

theorem oneChat_only (server : Server) (copy : Copy) : (oneChat server copy).Only OfMessage := by
  refine ((deliverToLocalUser_only copy).mono Plain.ofMessage).bind fun delivered => ?_
  cases delivered with
  | true => trivial
  | false =>
    have resolved := lookup_only (resolveUserNode_only copy.recipient)
    refine (resolved.mono Plain.ofMessage).bind fun found => ?_
    match found with
    | none => exact ⟨.inl trivial, fun _ => trivial⟩
    | some (nodeId, nodeMeta) =>
      dsimp only
      split
      · refine (unbindUser_ofMessage server copy.recipient).bind fun _ => ?_
        exact ⟨.inl trivial, fun _ => trivial⟩
      · have warmed := ClusterRouter.prewarmNode_only server.shardCount nodeMeta
        have sent := ClusterRouter.sendOneChat_only server.shardCount nodeMeta copy
        refine (warmed.mono Plain.ofMessage).bind fun _ => ?_
        refine (sent.mono Plain.ofMessage).bind fun accepted => ?_
        cases accepted with
        | true => trivial
        | false => exact ⟨.inl trivial, fun _ => trivial⟩

theorem lookupMembers_only (members : List UserId) : (lookupMembers members).Only Plain := by
  induction members with
  | nil => trivial
  | cons id rest ih =>
    refine ⟨trivial, fun found => ih.bind fun _ => ?_⟩
    cases found <;> trivial

theorem resolveMembers_only (server : Server) (members : List UserId)
    (buckets : List (CString × List UserId)) (offlineIds : List UserId) :
    (resolveMembers server members buckets offlineIds).Only OfMessage := by
  induction members generalizing buckets offlineIds with
  | nil => trivial
  | cons id rest ih =>
    have resolved := lookup_only (resolveUserNode_only id)
    refine (resolved.mono Plain.ofMessage).bind fun found => ?_
    match found with
    | none => exact ih _ _
    | some (nodeId, nodeMeta) =>
      dsimp only
      split
      · exact (unbindUser_ofMessage server id).bind fun _ => ih _ _
      · exact ih _ _

theorem sendToConnections_only (message : Message) (localConns : List (UserId × Connection)) :
    (sendToConnections message localConns).Only Plain := by
  induction localConns with
  | nil => trivial
  | cons localConn rest ih => exact ⟨trivial, fun _ => ih⟩

theorem sendBuckets_only (server : Server) (message : Message)
    (buckets : List (CString × List UserId)) (offlineIds : List UserId) :
    (sendBuckets server message buckets offlineIds).Only Plain := by
  induction buckets generalizing offlineIds with
  | nil => trivial
  | cons bucket rest ih =>
    refine (lookup_only (queryNode_only bucket.1)).bind fun found => ?_
    cases found with
    | none => exact ih _
    | some nodeMeta =>
      refine (ClusterRouter.prewarmNode_only server.shardCount nodeMeta).bind fun _ => ?_
      have sent := ClusterRouter.sendGroupChat_only server.shardCount nodeMeta bucket.2 message
      refine sent.bind fun accepted => ?_
      cases accepted <;> exact ih _

theorem insertAll_only (message : Message) (ids : List UserId) :
    (insertAll message ids).Only Plain := by
  induction ids with
  | nil => trivial
  | cons id rest ih => exact ⟨trivial, fun _ => ih⟩

theorem groupChat_only (server : Server) (message : Message) (userId : UserId)
    (groupId : Int32) : (groupChat server message userId groupId).Only OfMessage := by
  rw [groupChat, database_bind]
  refine ⟨.inl trivial, fun members => ?_⟩
  dsimp only
  by_cases empty : members = []
  · rw [if_neg fun listed => listed empty]
    trivial
  · rw [if_pos empty]
    refine ((lookupMembers_only members).mono Plain.ofMessage).bind fun (localConns, others) => ?_
    refine (resolveMembers_only server others [] []).bind fun (buckets, offlineIds) => ?_
    refine ((sendToConnections_only message localConns).mono Plain.ofMessage).bind fun _ => ?_
    refine ⟨.inl trivial, fun order => ?_⟩
    refine ((sendBuckets_only server message _ offlineIds).mono Plain.ofMessage).bind fun _ => ?_
    exact (insertAll_only message _).mono Plain.ofMessage

theorem dropStaleRoute_only (server : Server) (userId : UserId) :
    (dropStaleRoute server userId).Only OfMessage := by
  have queried := lookup_only (queryUserNode_only userId)
  refine (queried.mono Plain.ofMessage).bind fun found => ?_
  cases found with
  | none => exact unbindUser_ofMessage server userId
  | some nodeId =>
    dsimp only
    split
    · exact unbindUser_ofMessage server userId
    · trivial

theorem handleClusterOneChatFrame_only (server : Server) (copy : Copy) :
    (handleClusterOneChatFrame server copy).Only OfMessage := by
  refine ((deliverToLocalUser_only copy).mono Plain.ofMessage).bind fun delivered => ?_
  cases delivered with
  | true => trivial
  | false =>
    refine (dropStaleRoute_only server copy.recipient).bind fun _ => ?_
    exact ⟨.inl trivial, fun _ => trivial⟩

theorem handleClusterFrame_only (server : Server) (frame : Frame) :
    (handleClusterFrame server frame).Only OfMessage := by
  have group : ∀ message ids, (handleClusterGroupChat server message ids).Only OfMessage := by
    intro message ids
    induction ids with
    | nil => trivial
    | cons userId rest ih => exact (handleClusterOneChatFrame_only server _).bind fun _ => ih
  rw [handleClusterFrame]
  split
  · exact handleClusterOneChatFrame_only server _
  · exact group _ _

/-! ### The handlers of the node itself -/

theorem initNode_only (server : Server) (timeoutMs : Int) :
    (initNode server timeoutMs).Only Plain := by
  refine (registration_only (register_only server.selfNode timeoutMs)).bind fun registered => ?_
  cases registered with
  | false => trivial
  | true =>
    refine (lookup_only listNodes_only).bind fun nodes => ?_
    induction nodes with
    | nil => trivial
    | cons nodeMeta rest ih =>
      rw [prewarmOthers]
      split
      · exact (ClusterRouter.prewarmNode_only server.shardCount nodeMeta).bind fun _ => ih
      · exact ih

/-! ### Departures -/

theorem unbindUser_ofDeparture (server : Server) (userId : UserId) :
    (unbindUser server userId).Only OfDeparture := by
  apply (unbindUser_only server userId).mono
  intro β call asked
  cases call with
  | registry call => exact .inl ⟨userId, asked⟩
  | _ => exact asked.elim

theorem logout_only (server : Server) (userId : UserId) :
    (logout server userId).Only OfDeparture := by
  refine ⟨trivial, fun _ => ?_⟩
  exact (unbindUser_ofDeparture server userId).bind fun _ => ⟨rfl, fun _ => trivial⟩

theorem removeLocalConnectionByConn_only (conn : Connection) :
    (removeLocalConnectionByConn conn).Only OfDeparture := by
  have search : ∀ buckets, (removeFromBuckets conn buckets).Only OfDeparture := by
    intro buckets
    induction buckets with
    | nil => trivial
    | cons bucket rest ih =>
      refine ⟨trivial, fun found => ?_⟩
      cases found with
      | some userId => trivial
      | none => exact ih
  exact search _

theorem clientCloseException_only (server : Server) (conn : Connection) :
    (clientCloseException server conn).Only OfDeparture := by
  refine (removeLocalConnectionByConn_only conn).bind fun userId => ?_
  by_cases nobody : userId = -1
  · rw [if_neg fun differ => differ nobody]
    trivial
  · rw [if_pos nobody]
    exact (unbindUser_ofDeparture server userId).bind fun _ => ⟨rfl, fun _ => trivial⟩

theorem closeAll_ofDeparture : ClusterRouter.closeAll.Only OfDeparture := by
  apply ClusterRouter.closeAll_ofRouter.mono
  intro β call asked
  cases call with
  | router call => trivial
  | channel index call => trivial
  | _ => exact asked.elim

theorem reset_only (server : Server) : (reset server).Only OfDeparture := by
  have users : (registry (redis (Redis.getNodeUsers server.selfNode.nodeId))).Only OfDeparture :=
    Calls.Only.lift (getNodeUsers_only (fun _ _ => .inr trivial) (.inr trivial))
  have cleaned : (registry (cleanupSelf server.selfNode)).Only OfDeparture :=
    Calls.Only.lift ((cleanupSelf_only server.selfNode).mono fun _ _ => .inr)
  refine users.bind fun selfUsers => cleaned.bind fun _ => closeAll_ofDeparture.bind fun _ => ?_
  induction selfUsers with
  | nil => trivial
  | cons userId rest ih => exact ⟨rfl, fun _ => ih⟩

end ChatService

/-- What a handler asks for; of a login nothing is said here. -/
def Handler.Asks : Handler → ⦃β : Type⦄ → ServerCall β → Prop
  | initNode, _, call => call.Plain
  | heartbeat, _, call => call.Plain
  | login _ _ _, _, _ => True
  | logout _, _, call => call.OfDeparture
  | clientCloseException _, _, call => call.OfDeparture
  | oneChat _, _, call => call.OfMessage
  | groupChat _ _ _, _, call => call.OfMessage
  | clusterFrame _, _, call => call.OfMessage
  | closeAll, _, call => call.Plain
  | reset, _, call => call.OfDeparture

theorem program_only (cluster : Cluster) (n : ℕ) (handler : Handler) :
    (cluster.program n handler).Only handler.Asks := by
  cases handler with
  | initNode => exact ChatService.initNode_only _ _
  | heartbeat => exact (registration_only (heartbeat_only _ _)).bind fun _ => trivial
  | login id pwd conn => exact Calls.only_of_forall (fun _ _ => trivial) _
  | logout userId => exact ChatService.logout_only _ userId
  | clientCloseException conn => exact ChatService.clientCloseException_only _ conn
  | oneChat copy => exact ChatService.oneChat_only _ copy
  | groupChat message userId groupId => exact ChatService.groupChat_only _ message userId groupId
  | clusterFrame frame => exact ChatService.handleClusterFrame_only _ frame
  | closeAll => exact ClusterRouter.closeAll_only
  | reset => exact ChatService.reset_only _

/-- What a handler other than `login` asks for. -/
theorem Handler.Asks.ofOthers {handler : Handler}
    (other : ∀ id pwd conn, handler ≠ login id pwd conn)
    ⦃β : Type⦄ (call : ServerCall β) (asked : handler.Asks call) : call.OfOthers := by
  cases handler with
  | initNode => exact .inl (.inl asked)
  | heartbeat => exact .inl (.inl asked)
  | login id pwd conn => exact absurd rfl (other id pwd conn)
  | logout userId => exact .inr asked
  | clientCloseException conn => exact .inr asked
  | oneChat copy => exact .inl asked
  | groupChat message userId groupId => exact .inl asked
  | clusterFrame frame => exact .inl asked
  | closeAll => exact .inl (.inl asked)
  | reset => exact .inr asked

end ClusterChat
