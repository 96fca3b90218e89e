/-
# What the methods of the registry ask for

Whatever it is answered, a method asks only for certain things: a lookup deletes a
session on a verdict and writes nothing else but its own set and caches, binding
and unbinding concern one user, and registering writes all the fields of one node.
-/

import ClusterChat.Registry.NodeRegistry

namespace ClusterChat

namespace RegistryCall

/-- What a lookup asks for. -/
def OfLookup : ⦃β : Type⦄ → RegistryCall β → Prop
  | _, .node (.eraseCachedUserNode .unbindUser _) => False
  | _, .node (.eraseCachedUserNode .cleanupSelf _) => False
  | _, .node .clearCaches => False
  | _, .node _ => True
  | _, .redis (.client _) => True
  | _, .redis (.command (.getSession _)) => True
  | _, .redis (.command (.getNode _)) => True
  | _, .redis (.command .nodes) => True
  | _, .redis (.command (.delSession (.queryUserNode _ instanceId seen) _)) =>
    NodeRegistry.sessionAlive instanceId seen = false
  | _, .redis (.command (.remNodeUser _ _)) => True
  | _, .redis (.command _) => False

/-- What a lookup of one user's route asks for. -/
def OfRoute (userId : UserId) : ⦃β : Type⦄ → RegistryCall β → Prop
  | _, .node (.getCachedUserNode asked) => asked = userId
  | _, call => call.OfLookup

/-- What binding a user asks for. -/
def OfBind (userId : UserId) : ⦃β : Type⦄ → RegistryCall β → Prop
  | _, .redis (.client _) => True
  | _, .redis (.command (.setSession bound _)) => bound = userId
  | _, .redis (.command (.addNodeUser _ bound)) => bound = userId
  | _, .node (.cacheUserNode bound _ _) => bound = userId
  | _, _ => False

/-- What unbinding a user asks for. -/
def OfUnbind (userId : UserId) : ⦃β : Type⦄ → RegistryCall β → Prop
  | _, .redis (.client _) => True
  | _, .redis (.command (.delSession .unbindUser unbound)) => unbound = userId
  | _, .redis (.command (.remNodeUser _ unbound)) => unbound = userId
  | _, .node (.eraseCachedUserNode .unbindUser unbound) => unbound = userId
  | _, _ => False

/-- What registering a node asks for. -/
def OfRegister (selfNode : NodeMeta) : ⦃β : Type⦄ → RegistryCall β → Prop
  | _, .redis (.client _) => True
  | _, .redis (.command (.setNode _ fields)) =>
    ∃ (node : NodeMeta) (heartbeatMs : Int), fields = node.fields heartbeatMs ∧
      node.instanceId = selfNode.instanceId
  | _, .redis (.command (.expireNode _ _)) => True
  | _, .redis (.command (.addNode _)) => True
  | _, .node (.cacheNode _) => True
  | _, .node .systemMs => True
  | _, _ => False

/-- What the end of a node asks for. -/
def OfCleanup : ⦃β : Type⦄ → RegistryCall β → Prop
  | _, .redis (.client _) => True
  | _, .redis (.command (.nodeUsers _)) => True
  | _, .redis (.command (.delSession .cleanupSelf _)) => True
  | _, .redis (.command (.remNodeUser _ _)) => True
  | _, .redis (.command (.delNode _)) => True
  | _, .redis (.command (.delNodeUsers _)) => True
  | _, .redis (.command (.remNode _)) => True
  | _, .node .clearCaches => True
  | _, _ => False

end RegistryCall

open NodeRegistry RegistryCall

/-! ### The Redis client -/

section Client

variable {guard : ⦃β : Type⦄ → RegistryCall β → Prop}
  (client : ∀ ⦃β : Type⦄ (call : ClientCall β), guard (.redis (.client call)))

include client

/-- The mutex of the client is not restricted. -/
theorem locked_only {α : Type} {body : Calls RedisCall α}
    (only : body.Only fun _ call => guard (.redis call)) :
    (redis (Redis.locked body)).Only guard := by
  refine Calls.Only.lift ⟨client .lock, fun _ => ?_⟩
  exact only.bind fun value => ⟨client .unlock, fun _ => trivial⟩

theorem unbindUserNode_only {caller : Unbinder} {userId : UserId} {nodeId : CString}
    (deletes : guard (.redis (.command (.delSession caller userId))))
    (removes : guard (.redis (.command (.remNodeUser nodeId userId)))) :
    (redis (Redis.unbindUserNode caller userId nodeId)).Only guard := by
  refine locked_only client ⟨deletes, fun reply => ?_⟩
  cases reply with
  | none => trivial
  | some _ =>
    by_cases named : nodeId = []
    · subst named
      trivial
    · simp only [Calls.pure_eq, ne_eq, named, not_false_eq_true, if_true]
      refine ⟨removes, fun reply => ?_⟩
      cases reply <;> trivial

theorem getNode_only {nodeId : CString} (reads : guard (.redis (.command (.getNode nodeId)))) :
    (redis (Redis.getNode nodeId)).Only guard := by
  refine locked_only client ⟨reads, fun reply => ?_⟩
  cases reply <;> trivial

theorem getNodeIds_only (reads : guard (.redis (.command .nodes))) :
    (redis Redis.getNodeIds).Only guard := by
  refine locked_only client ⟨reads, fun reply => ?_⟩
  cases reply <;> trivial

theorem getNodeUsers_only {nodeId : CString}
    (reads : guard (.redis (.command (.nodeUsers nodeId)))) :
    (redis (Redis.getNodeUsers nodeId)).Only guard := by
  refine locked_only client ⟨reads, fun reply => ?_⟩
  cases reply <;> trivial

theorem getUserSession_only {userId : UserId}
    (reads : guard (.redis (.command (.getSession userId)))) :
    (redis (Redis.getUserSession userId)).Only guard := by
  refine locked_only client ⟨reads, fun reply => ?_⟩
  match reply with
  | none => trivial
  | some none => trivial
  | some (some _) => trivial

end Client

theorem bindUserNode_only (userId : UserId) (nodeId instanceId : CString) :
    (redis (Redis.bindUserNode userId nodeId instanceId)).Only (OfBind userId) := by
  refine locked_only (fun _ _ => trivial) ⟨rfl, fun reply => ?_⟩
  match reply with
  | none => trivial
  | some false => trivial
  | some true =>
    refine ⟨rfl, fun reply => ?_⟩
    cases reply <;> trivial

theorem writeNode_only (nodeMeta : NodeMeta) (ttlSeconds heartbeatMs : Int) :
    (Redis.writeNode nodeMeta ttlSeconds heartbeatMs).Only
      fun _ call => OfRegister nodeMeta (.redis call) := by
  refine ⟨⟨nodeMeta, heartbeatMs, rfl, rfl⟩, fun reply => ?_⟩
  cases reply with
  | none => trivial
  | some _ =>
    refine ⟨trivial, fun reply => ?_⟩
    cases reply with
    | none => trivial
    | some _ =>
      refine ⟨trivial, fun reply => ?_⟩
      cases reply <;> trivial

theorem registerNode_only (nodeMeta : NodeMeta) (ttlSeconds : Int) :
    (redis (Redis.registerNode nodeMeta ttlSeconds)).Only (OfRegister nodeMeta) := by
  refine locked_only (fun _ _ => trivial) ?_
  by_cases unset : nodeMeta.heartbeatMs ≤ 0
  · rw [if_pos unset]
    exact ⟨trivial, fun seconds => writeNode_only nodeMeta ttlSeconds _⟩
  · rw [if_neg unset]
    exact writeNode_only nodeMeta ttlSeconds _

theorem unregisterNode_only (nodeId : CString) :
    (redis (Redis.unregisterNode nodeId)).Only OfCleanup := by
  refine locked_only (fun _ _ => trivial) ⟨trivial, fun reply => ?_⟩
  cases reply with
  | none => trivial
  | some _ =>
    refine ⟨trivial, fun reply => ?_⟩
    cases reply with
    | none => trivial
    | some _ =>
      refine ⟨trivial, fun reply => ?_⟩
      cases reply <;> trivial

/-! ### The methods -/

theorem RegistryCall.OfRoute.ofLookup {userId : UserId} ⦃β : Type⦄ (call : RegistryCall β)
    (asked : call.OfRoute userId) : call.OfLookup := by
  cases call with
  | redis call => exact asked
  | node call =>
    cases call with
    | getCachedUserNode other => trivial
    | _ => exact asked

/-- Looking up a node asks for nobody's route. -/
theorem queryNode_route (userId : UserId) (nodeId : CString) :
    (queryNode nodeId).Only (OfRoute userId) := by
  rw [queryNode, node_bind]
  refine ⟨trivial, fun cached => ?_⟩
  cases cached with
  | some nodeMeta => trivial
  | none =>
    refine (getNode_only (fun _ _ => trivial) trivial).bind fun registered => ?_
    cases registered with
    | none => exact ⟨trivial, fun _ => trivial⟩
    | some nodeMeta => exact ⟨trivial, fun _ => trivial⟩

theorem judge_route (userId : UserId) (nodeId instanceId : CString) :
    (judge userId nodeId instanceId).Only (OfRoute userId) := by
  refine (queryNode_route userId nodeId).bind fun seen => ?_
  cases verdict : sessionAlive instanceId seen with
  | true => trivial
  | false =>
    have dead : OfRoute userId (.redis (.command (.delSession
      (.queryUserNode nodeId instanceId seen) userId))) := verdict
    have removes : OfRoute userId (.redis (.command (.remNodeUser nodeId userId))) := trivial
    refine (unbindUserNode_only (fun _ _ => trivial) dead removes).bind fun _ => ?_
    exact ⟨trivial, fun _ => trivial⟩

theorem queryUserNode_route (userId : UserId) : (queryUserNode userId).Only (OfRoute userId) := by
  refine ⟨rfl, fun cached => ?_⟩
  cases cached with
  | some route => exact judge_route userId route.1 route.2
  | none =>
    refine (getUserSession_only (fun _ _ => trivial) trivial).bind fun stored => ?_
    cases stored with
    | none => trivial
    | some route => exact ⟨trivial, fun _ => judge_route userId route.1 route.2⟩

theorem resolveUserNode_route (userId : UserId) :
    (resolveUserNode userId).Only (OfRoute userId) := by
  have cached : (resolveCached userId).Only (OfRoute userId) := by
    refine ⟨rfl, fun route => ?_⟩
    cases route with
    | none => trivial
    | some route => exact ⟨trivial, fun _ => trivial⟩
  refine cached.bind fun found => ?_
  cases found with
  | some found => trivial
  | none =>
    refine (queryUserNode_route userId).bind fun nodeId => ?_
    cases nodeId with
    | none => trivial
    | some nodeId => exact (queryNode_route userId nodeId).bind fun _ => trivial

theorem queryNode_only (nodeId : CString) : (queryNode nodeId).Only OfLookup :=
  (queryNode_route 0 nodeId).mono OfRoute.ofLookup

theorem queryUserNode_only (userId : UserId) : (queryUserNode userId).Only OfLookup :=
  (queryUserNode_route userId).mono OfRoute.ofLookup

theorem resolveUserNode_only (userId : UserId) : (resolveUserNode userId).Only OfLookup :=
  (resolveUserNode_route userId).mono OfRoute.ofLookup

theorem listNodes_only : listNodes.Only OfLookup := by
  refine (getNodeIds_only (fun _ _ => trivial) trivial).bind fun nodeIds => ?_
  induction nodeIds with
  | nil => trivial
  | cons nodeId rest ih =>
    refine (queryNode_only nodeId).bind fun found => ?_
    cases found with
    | none => exact ⟨trivial, fun _ => ih⟩
    | some nodeMeta => exact ih.bind fun _ => trivial

theorem bindUser_only (selfNode : NodeMeta) (userId : UserId) :
    (bindUser selfNode userId).Only (OfBind userId) := by
  refine (bindUserNode_only userId _ _).bind fun bound => ?_
  cases bound with
  | false => trivial
  | true => exact ⟨rfl, fun _ => trivial⟩

theorem unbindUser_only (selfNode : NodeMeta) (userId : UserId) :
    (unbindUser selfNode userId).Only (OfUnbind userId) :=
  ⟨rfl, fun _ => unbindUserNode_only (fun _ _ => trivial) rfl rfl⟩

theorem register_only (selfNode : NodeMeta) (timeoutMs : Int) :
    (register selfNode timeoutMs).Only (OfRegister selfNode) :=
  ⟨trivial, fun _ => registerNode_only selfNode _⟩

theorem heartbeat_only (selfNode : NodeMeta) (timeoutMs : Int) :
    (heartbeat selfNode timeoutMs).Only (OfRegister selfNode) :=
  ⟨trivial, fun heartbeatMs =>
    register_only { selfNode with heartbeatMs := heartbeatMs } timeoutMs⟩

theorem cleanupSelf_only (selfNode : NodeMeta) : (cleanupSelf selfNode).Only OfCleanup := by
  refine (getNodeUsers_only (fun _ _ => trivial) trivial).bind fun users => ?_
  have unbinds : (unbindUsers selfNode.nodeId users).Only OfCleanup := by
    induction users with
    | nil => trivial
    | cons userId rest ih =>
      exact (unbindUserNode_only (fun _ _ => trivial) trivial trivial).bind fun _ => ih
  refine unbinds.bind fun _ => ?_
  exact (unregisterNode_only _).bind fun _ => ⟨trivial, fun _ => trivial⟩

end ClusterChat
