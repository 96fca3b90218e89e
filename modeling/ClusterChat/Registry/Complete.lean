/-
# What complete calls of the registry do

A method that runs to its end with no other step in between, on a node whose
Redis client is free, has a plain effect on the sessions: binding is a write
unless the user has a session, unbinding drops the session and removes the user
from the set of one node, and a lookup unbinds a route that it judges dead.
-/

import ClusterChat.Registry.NodeRegistry

namespace ClusterChat

open NodeRegistry

namespace RedisStore

/-- What `bindUserNode` makes of the store. -/
def bound (store : RedisStore) (userId : UserId) (nodeId instanceId : CString) : RedisStore :=
  match store.session userId with
  | some _ => store
  | none =>
    { store with
      session := Function.update store.session userId (some (sessionValue nodeId instanceId))
      nodeUsers :=
        Function.update store.nodeUsers nodeId (setAdd userId (store.nodeUsers nodeId)) }

/-- What `unbindUserNode` makes of the store. -/
def unbound (store : RedisStore) (userId : UserId) (nodeId : CString) : RedisStore :=
  let session := Function.update store.session userId none
  if nodeId = [] then { store with session := session }
  else
    { store with
      session := session
      nodeUsers :=
        Function.update store.nodeUsers nodeId (setRemove userId (store.nodeUsers nodeId)) }

/-- What the loop of `cleanupSelf` makes of the store. -/
def unboundAll (store : RedisStore) (nodeId : CString) (users : List UserId) : RedisStore :=
  users.foldl (fun store userId => store.unbound userId nodeId) store

/-- What `getUserSession` reads. -/
def sessionRoute (store : RedisStore) (userId : UserId) : Option (CString × CString) :=
  (store.session userId).bind fun value =>
    if (splitSession value).1 ≠ [] then some (splitSession value) else none

/-- What `unregisterNode` makes of the store. -/
def unregistered (store : RedisStore) (nodeId : CString) : RedisStore :=
  { store with
    node := Function.update store.node nodeId none
    nodeUsers := Function.update store.nodeUsers nodeId []
    nodes := setRemove nodeId store.nodes }

end RedisStore

namespace RegistryState

/-- No thread is inside the Redis client of the node. -/
def Free (state : RegistryState) : Prop := state.node.commandHolder = none

/-- What `queryNode` answers: the cached node, or else the registered one. -/
def lookup (state : RegistryState) (nodeId : CString) : Option NodeMeta :=
  match state.node.cachedNode nodeId with
  | some nodeMeta => some nodeMeta
  | none => state.registered nodeId

/-- Only the caches of the node differ, and its Redis client is free. -/
structure SameStore (state after : RegistryState) : Prop where
  store : after.store = state.store
  clockMs : after.clockMs = state.clockMs
  free : after.Free

/-- The sessions and the users of the nodes are the same, and the Redis client is
free. -/
structure SameSessions (state after : RegistryState) : Prop where
  session : after.store.session = state.store.session
  nodeUsers : after.store.nodeUsers = state.store.nodeUsers
  free : after.Free

variable {state : RegistryState} {number : ℕ}

/-! ### The Redis client -/

section Client

-- what every method of the client and every command comes down to
attribute [local simp] redis Redis.locked Redis.send exec RedisStore.exec

theorem bindUserNode_eval (free : state.Free) (userId : UserId) (nodeId instanceId : CString) :
    (redis (Redis.bindUserNode userId nodeId instanceId)).eval (exec number) state =
      some (decide (state.store.session userId = none),
        { state with store := state.store.bound userId nodeId instanceId }) := by
  obtain ⟨store, clockMs, ⟨_, _, _, _, _, _, _, holder⟩⟩ := state
  obtain rfl : holder = none := free
  simp only [redis, Redis.bindUserNode, Redis.locked, Redis.send, Calls.perform_bind,
    Calls.call_bind, Calls.lift_call, Calls.eval_call, exec, Option.bind_some, RedisStore.exec]
  cases found : store.session userId with
  | none => simp [RedisStore.bound, found]
  | some value => simp [RedisStore.bound, found]

theorem unbindUserNode_eval (free : state.Free) (caller : Unbinder) (userId : UserId)
    (nodeId : CString) :
    (redis (Redis.unbindUserNode caller userId nodeId)).eval (exec number) state =
      some (true, { state with store := state.store.unbound userId nodeId }) := by
  obtain ⟨store, clockMs, ⟨_, _, _, _, _, _, _, holder⟩⟩ := state
  obtain rfl : holder = none := free
  by_cases named : nodeId = []
  · simp [Redis.unbindUserNode, named, RedisStore.unbound]
  · simp [Redis.unbindUserNode, named, RedisStore.unbound]

theorem getUserSession_eval (free : state.Free) (userId : UserId) :
    (redis (Redis.getUserSession userId)).eval (exec number) state =
      some (state.store.sessionRoute userId, state) := by
  obtain ⟨store, clockMs, ⟨_, _, _, _, _, _, _, holder⟩⟩ := state
  obtain rfl : holder = none := free
  cases found : store.session userId with
  | none =>
    simp [Redis.getUserSession, found, RedisStore.sessionRoute]
  | some value =>
    simp [Redis.getUserSession, found, RedisStore.sessionRoute]

theorem getNode_eval (free : state.Free) (nodeId : CString) :
    (redis (Redis.getNode nodeId)).eval (exec number) state =
      some (state.registered nodeId, state) := by
  obtain ⟨store, clockMs, ⟨_, _, _, _, _, _, _, holder⟩⟩ := state
  obtain rfl : holder = none := free
  cases found : store.liveNode clockMs nodeId with
  | none =>
    simp [Redis.getNode, registered, found, readNode]
  | some record =>
    simp [Redis.getNode, registered, found]

theorem getNodeIds_eval (free : state.Free) :
    (redis Redis.getNodeIds).eval (exec number) state = some (state.store.nodes, state) := by
  obtain ⟨store, clockMs, ⟨_, _, _, _, _, _, _, holder⟩⟩ := state
  obtain rfl : holder = none := free
  simp [Redis.getNodeIds]

theorem getNodeUsers_eval (free : state.Free) (nodeId : CString) :
    (redis (Redis.getNodeUsers nodeId)).eval (exec number) state =
      some (state.store.nodeUsers nodeId, state) := by
  obtain ⟨store, clockMs, ⟨_, _, _, _, _, _, _, holder⟩⟩ := state
  obtain rfl : holder = none := free
  simp [Redis.getNodeUsers]

theorem unregisterNode_eval (free : state.Free) (nodeId : CString) :
    (redis (Redis.unregisterNode nodeId)).eval (exec number) state =
      some (true, { state with store := state.store.unregistered nodeId }) := by
  obtain ⟨store, clockMs, ⟨_, _, _, _, _, _, _, holder⟩⟩ := state
  obtain rfl : holder = none := free
  simp [Redis.unregisterNode, RedisStore.unregistered]

theorem expireNode_sessions (store : RedisStore) (clockMs : Int) (nodeId : CString)
    (seconds : Int) :
    (store.expireNode clockMs nodeId seconds).session = store.session ∧
      (store.expireNode clockMs nodeId seconds).nodeUsers = store.nodeUsers := by
  unfold RedisStore.expireNode
  split <;> exact ⟨rfl, rfl⟩

theorem registerNode_ends (free : state.Free) (nodeMeta : NodeMeta) (ttlSeconds : Int) :
    (redis (Redis.registerNode nodeMeta ttlSeconds)).Ends (exec number)
      (fun ok after => ok = true ∧ state.SameSessions after) state := by
  obtain ⟨store, clockMs, ⟨_, _, _, _, _, _, _, holder⟩⟩ := state
  obtain rfl : holder = none := free
  have kept := fun heartbeatMs => expireNode_sessions
    (store.setNode clockMs nodeMeta.nodeId (nodeMeta.fields heartbeatMs)) clockMs nodeMeta.nodeId
    ttlSeconds
  by_cases unset : nodeMeta.heartbeatMs ≤ 0
  · simp [Redis.registerNode, Redis.writeNode, unset, Calls.ends_call]
    exact ⟨(kept _).1, (kept _).2, rfl⟩
  · simp [Redis.registerNode, Redis.writeNode, unset, Calls.ends_call]
    exact ⟨(kept _).1, (kept _).2, rfl⟩

end Client

/-! ### The methods -/

theorem register_ends (free : state.Free) (nodeMeta : NodeMeta) (timeoutMs : Int) :
    (register nodeMeta timeoutMs).Ends (exec number)
      (fun ok after => ok = true ∧ state.SameSessions after) state := by
  refine Calls.ends_call.mpr ⟨(), _, rfl, ?_⟩
  refine (registerNode_ends ?_ nodeMeta _).mono ?_
  · exact free
  · rintro ok after ⟨accepted, same⟩
    exact ⟨accepted, same.session, same.nodeUsers, same.free⟩

/-- The same Redis with another state of the node. -/
def withNode (state : RegistryState) (node : RegistryNode) : RegistryState :=
  { state with node := node }

theorem heartbeat_ends (free : state.Free) (nodeMeta : NodeMeta) (timeoutMs : Int) :
    (heartbeat nodeMeta timeoutMs).Ends (exec number)
      (fun ok after => ok = true ∧ state.SameSessions after) state := by
  rw [heartbeat, node_bind]
  exact Calls.ends_call.mpr ⟨state.node.systemMs, state, rfl, register_ends free _ timeoutMs⟩

theorem lookup_of_missed {nodeId : CString} (missed : state.node.cachedNode nodeId = none) :
    state.lookup nodeId = state.registered nodeId := by
  rw [lookup, missed]

/-- A node that was read from Redis is found again, in the cache or in Redis. -/
theorem lookup_cacheNode {nodeId : CString} {nodeMeta : NodeMeta}
    (missed : state.node.cachedNode nodeId = none)
    (found : state.registered nodeId = some nodeMeta) :
    (state.withNode (state.node.exec (.cacheNode nodeMeta)).2).lookup nodeId = some nodeMeta := by
  have same : (state.withNode (state.node.exec (.cacheNode nodeMeta)).2).registered nodeId =
      some nodeMeta := found
  by_cases here : nodeId = nodeMeta.nodeId
  · by_cases expired : state.node.nowMs + state.node.routeCacheTtlMs < state.node.nowMs
    · rw [lookup_of_missed, same]
      simp only [withNode, RegistryNode.exec, RegistryNode.cachedNode, here, Function.update_self]
      exact if_pos expired
    · have cached :
        (state.withNode (state.node.exec (.cacheNode nodeMeta)).2).node.cachedNode nodeId =
          some nodeMeta := by
        simp only [withNode, RegistryNode.exec, RegistryNode.cachedNode, here, Function.update_self]
        exact if_neg expired
      rw [lookup, cached]
  · rw [lookup_of_missed, same]
    simp only [withNode, RegistryNode.exec, RegistryNode.cachedNode, Function.update_of_ne here]
    exact missed

/-- What `queryNode` answers it would answer again. -/
theorem queryNode_lookup (free : state.Free) (nodeId : CString) :
    (queryNode nodeId).Ends (exec number)
      (fun answer after => answer = state.lookup nodeId ∧ state.SameStore after ∧
        after.lookup nodeId = state.lookup nodeId) state := by
  rw [queryNode, node_bind]
  cases cached : state.node.cachedNode nodeId with
  | some nodeMeta =>
    refine Calls.ends_call.mpr ⟨some nodeMeta, state, ?_, ?_⟩
    · simp [exec, RegistryNode.exec, cached]
    · refine Calls.ends_ret.mpr ⟨?_, ⟨rfl, rfl, free⟩, rfl⟩
      simp [lookup, cached]
  | none =>
    have missed : (state.withNode (state.node.eraseNode nodeId)).Free := free
    have gone : (state.withNode (state.node.eraseNode nodeId)).node.cachedNode nodeId = none := by
      simp [withNode, RegistryNode.eraseNode, RegistryNode.cachedNode]
    refine Calls.ends_call.mpr ⟨none, state.withNode (state.node.eraseNode nodeId), ?_, ?_⟩
    · simp [exec, RegistryNode.exec, cached, withNode]
    · refine .after (getNode_eval missed nodeId) ?_
      have same : (state.withNode (state.node.eraseNode nodeId)).registered nodeId =
        state.registered nodeId := rfl
      rw [lookup_of_missed cached, same]
      cases found : state.registered nodeId with
      | none =>
        refine Calls.ends_call.mpr ⟨(), _, rfl, Calls.ends_ret.mpr ⟨rfl, ⟨rfl, rfl, free⟩, ?_⟩⟩
        rw [lookup_of_missed]
        · exact found
        · simp [withNode, RegistryNode.eraseNode, RegistryNode.cachedNode]
      | some nodeMeta =>
        refine Calls.ends_call.mpr ⟨(), _, rfl, Calls.ends_ret.mpr ⟨rfl, ⟨rfl, rfl, free⟩, ?_⟩⟩
        exact lookup_cacheNode gone (same.trans found)

theorem queryNode_ends (free : state.Free) (nodeId : CString) :
    (queryNode nodeId).Ends (exec number)
      (fun answer after => answer = state.lookup nodeId ∧ state.SameStore after) state :=
  (queryNode_lookup free nodeId).mono fun _ _ ends => ⟨ends.1, ends.2.1⟩

/-- What a lookup makes of the store where it judges a route. -/
def judged (state : RegistryState) (userId : UserId) (route : CString × CString) : RedisStore :=
  if sessionAlive route.2 (state.lookup route.1) then state.store
  else state.store.unbound userId route.1

theorem judge_ends (free : state.Free) (userId : UserId) (nodeId instanceId : CString) :
    (judge userId nodeId instanceId).Ends (exec number)
      (fun answer after =>
        answer = (if sessionAlive instanceId (state.lookup nodeId) then some nodeId else none) ∧
          after.store = state.judged userId (nodeId, instanceId) ∧
          after.clockMs = state.clockMs ∧ after.Free) state := by
  rw [judge]
  refine (queryNode_ends free nodeId).andThen ?_
  rintro answer middle ⟨rfl, same⟩
  cases verdict : sessionAlive instanceId (state.lookup nodeId) with
  | true =>
    refine Calls.ends_ret.mpr ⟨rfl, ?_, same.clockMs, same.free⟩
    simp [judged, verdict, same.store]
  | false =>
    refine .after (unbindUserNode_eval same.free _ userId nodeId) ?_
    refine Calls.ends_call.mpr ⟨(), _, rfl, Calls.ends_ret.mpr ⟨rfl, ?_, same.clockMs, same.free⟩⟩
    simp [judged, verdict, same.store]

/-- The route that `queryUserNode` judges: the cached one, or else the stored one. -/
def heldRoute (state : RegistryState) (userId : UserId) : Option (CString × CString) :=
  match state.node.route userId with
  | some route => some route
  | none => state.store.sessionRoute userId

/-- What `queryUserNode` makes of the store. -/
def queried (state : RegistryState) (userId : UserId) : RedisStore :=
  match state.heldRoute userId with
  | none => state.store
  | some route => state.judged userId route

theorem queryUserNode_ends (free : state.Free) (userId : UserId) :
    (queryUserNode userId).Ends (exec number)
      (fun _ after => after.store = state.queried userId ∧ after.clockMs = state.clockMs ∧
        after.Free) state := by
  rw [queryUserNode, node_bind]
  cases cached : state.node.route userId with
  | some route =>
    refine Calls.ends_call.mpr ⟨some route, state, ?_, ?_⟩
    · simp [exec, RegistryNode.exec, cached]
    · refine (judge_ends free userId route.1 route.2).mono ?_
      rintro answer after ⟨-, store, clock, free'⟩
      refine ⟨?_, clock, free'⟩
      rw [store, queried, heldRoute, cached]
  | none =>
    have missed : (state.withNode (state.node.eraseRoute userId)).Free := free
    refine Calls.ends_call.mpr ⟨none, state.withNode (state.node.eraseRoute userId), ?_, ?_⟩
    · simp [exec, RegistryNode.exec, cached, withNode]
    · refine .after (getUserSession_eval missed userId) ?_
      have held : state.heldRoute userId = state.store.sessionRoute userId := by
        simp [heldRoute, cached]
      rw [queried, held, show (state.withNode (state.node.eraseRoute userId)).store =
        state.store from rfl]
      cases state.store.sessionRoute userId with
      | none => exact Calls.ends_ret.mpr ⟨rfl, rfl, free⟩
      | some route =>
        refine Calls.ends_call.mpr ⟨(), _, rfl, ?_⟩
        refine (judge_ends ?_ userId route.1 route.2).mono ?_
        · exact free
        · rintro answer after ⟨-, store, clock, free'⟩
          exact ⟨store, clock, free'⟩

/-- Nothing that a lookup can see differs, and the Redis client is free. -/
structure SameLookups (state after : RegistryState) : Prop extends SameStore state after where
  route : after.node.route = state.node.route
  cachedNode : after.node.cachedNode = state.node.cachedNode

/-- Dropping an expired route changes no lookup. -/
theorem route_eraseRoute {node : RegistryNode} {userId : UserId}
    (expired : node.route userId = none) :
    (node.eraseRoute userId).route = node.route := by
  funext other
  by_cases same : other = userId
  · subst same
    rw [expired]
    simp [RegistryNode.route, RegistryNode.eraseRoute]
  · rw [RegistryNode.route, RegistryNode.route, RegistryNode.eraseRoute]
    dsimp only
    rw [Function.update_of_ne same]

/-- Dropping an expired node changes no lookup. -/
theorem cachedNode_eraseNode {node : RegistryNode} {nodeId : CString}
    (expired : node.cachedNode nodeId = none) :
    (node.eraseNode nodeId).cachedNode = node.cachedNode := by
  funext other
  by_cases same : other = nodeId
  · subst same
    rw [expired]
    simp [RegistryNode.cachedNode, RegistryNode.eraseNode]
  · rw [RegistryNode.cachedNode, RegistryNode.cachedNode, RegistryNode.eraseNode]
    dsimp only
    rw [Function.update_of_ne same]

theorem SameLookups.registered {after : RegistryState} (same : state.SameLookups after) :
    after.registered = state.registered := by
  funext nodeId
  rw [RegistryState.registered, RegistryState.registered, same.store, same.clockMs]

theorem SameLookups.lookup {after : RegistryState} (same : state.SameLookups after) :
    after.lookup = state.lookup := by
  funext nodeId
  rw [RegistryState.lookup, RegistryState.lookup, same.cachedNode, same.registered]

theorem SameLookups.queried {after : RegistryState} (same : state.SameLookups after)
    (userId : UserId) : after.queried userId = state.queried userId := by
  simp only [RegistryState.queried, heldRoute, judged, same.route, same.lookup, same.store]

/-- Where the two cache lookups answer, the route held is alive. -/
theorem resolveCached_ends (free : state.Free) (userId : UserId) :
    (resolveCached userId).Ends (exec number)
      (fun answer after => state.SameLookups after ∧
        (answer ≠ none → state.queried userId = state.store)) state := by
  rw [resolveCached, node_bind]
  cases cached : state.node.route userId with
  | none =>
    refine Calls.ends_call.mpr ⟨none, state.withNode (state.node.eraseRoute userId), ?_, ?_⟩
    · simp [exec, RegistryNode.exec, cached, withNode]
    · exact Calls.ends_ret.mpr
        ⟨⟨⟨rfl, rfl, free⟩, route_eraseRoute cached, rfl⟩, fun answered => absurd rfl answered⟩
  | some route =>
    refine Calls.ends_call.mpr ⟨some route, state, ?_, ?_⟩
    · simp [exec, RegistryNode.exec, cached]
    dsimp only
    rw [node_bind]
    cases known : state.node.cachedNode route.1 with
    | none =>
      refine Calls.ends_call.mpr ⟨none, state.withNode (state.node.eraseNode route.1), ?_, ?_⟩
      · simp [exec, RegistryNode.exec, known, withNode]
      · exact Calls.ends_ret.mpr
          ⟨⟨⟨rfl, rfl, free⟩, rfl, cachedNode_eraseNode known⟩, fun answered => absurd rfl answered⟩
    | some nodeMeta =>
      refine Calls.ends_call.mpr ⟨some nodeMeta, state, ?_, ?_⟩
      · simp [exec, RegistryNode.exec, known]
      · refine Calls.ends_ret.mpr ⟨⟨⟨rfl, rfl, free⟩, rfl, rfl⟩, fun answered => ?_⟩
        have alive : sessionAlive route.2 (some nodeMeta) = true := by
          by_contra dead
          exact answered (by simp [dead])
        have asked : state.lookup route.1 = some nodeMeta := by simp [lookup, known]
        rw [queried, heldRoute, cached]
        simp only [judged, asked, alive, if_true]

theorem resolveUserNode_ends (free : state.Free) (userId : UserId) :
    (resolveUserNode userId).Ends (exec number)
      (fun _ after => after.store = state.queried userId ∧ after.clockMs = state.clockMs ∧
        after.Free) state := by
  rw [resolveUserNode]
  refine (resolveCached_ends free userId).andThen ?_
  rintro answer middle ⟨same, alive⟩
  cases answer with
  | some found =>
    refine Calls.ends_ret.mpr ⟨?_, same.clockMs, same.free⟩
    rw [same.store, alive (Option.some_ne_none found)]
  | none =>
    refine (queryUserNode_ends same.free userId).andThen ?_
    rintro answer after ⟨store, clock, free'⟩
    rw [same.queried] at store
    rw [same.clockMs] at clock
    cases answer with
    | none => exact Calls.ends_ret.mpr ⟨store, clock, free'⟩
    | some nodeId =>
      refine (queryNode_ends free' nodeId).andThen ?_
      rintro answer last ⟨-, kept⟩
      exact Calls.ends_ret.mpr
        ⟨kept.store.trans store, kept.clockMs.trans clock, kept.free⟩

theorem bindUser_ends (free : state.Free) (selfNode : NodeMeta) (userId : UserId) :
    (bindUser selfNode userId).Ends (exec number)
      (fun answer after => answer = decide (state.store.session userId = none) ∧
        after.store = state.store.bound userId selfNode.nodeId selfNode.instanceId ∧
        after.clockMs = state.clockMs ∧ after.Free) state := by
  rw [bindUser]
  refine .after (bindUserNode_eval free userId selfNode.nodeId selfNode.instanceId) ?_
  cases decide (state.store.session userId = none) with
  | false => exact Calls.ends_ret.mpr ⟨rfl, rfl, rfl, free⟩
  | true => exact Calls.ends_call.mpr ⟨(), _, rfl, Calls.ends_ret.mpr ⟨rfl, rfl, rfl, free⟩⟩

theorem unbindUser_ends (free : state.Free) (selfNode : NodeMeta) (userId : UserId) :
    (unbindUser selfNode userId).Ends (exec number)
      (fun _ after => after.store = state.store.unbound userId selfNode.nodeId ∧
        after.clockMs = state.clockMs ∧ after.Free) state := by
  rw [unbindUser, node_bind]
  refine Calls.ends_call.mpr ⟨(), state.withNode (state.node.eraseRoute userId), rfl, ?_⟩
  have kept : (state.withNode (state.node.eraseRoute userId)).Free := free
  exact ⟨_, _, unbindUserNode_eval kept .unbindUser userId selfNode.nodeId, rfl, rfl, free⟩

theorem unbindUsers_ends (nodeId : CString) (users : List UserId) (free : state.Free) :
    (unbindUsers nodeId users).Ends (exec number)
      (fun _ after => after.store = state.store.unboundAll nodeId users ∧
        after.clockMs = state.clockMs ∧ after.Free) state := by
  induction users generalizing state with
  | nil => exact Calls.ends_ret.mpr ⟨rfl, rfl, free⟩
  | cons userId rest ih =>
    rw [unbindUsers]
    refine .after (unbindUserNode_eval free .cleanupSelf userId nodeId) ?_
    exact ih free

theorem cleanupSelf_ends (free : state.Free) (selfNode : NodeMeta) :
    (cleanupSelf selfNode).Ends (exec number)
      (fun _ after => after.store =
          (state.store.unboundAll selfNode.nodeId
            (state.store.nodeUsers selfNode.nodeId)).unregistered selfNode.nodeId ∧
        after.clockMs = state.clockMs ∧ after.Free) state := by
  rw [cleanupSelf]
  refine .after (getNodeUsers_eval free selfNode.nodeId) ?_
  refine (unbindUsers_ends selfNode.nodeId _ free).andThen ?_
  rintro - middle ⟨store, clock, free'⟩
  refine .after (unregisterNode_eval free' selfNode.nodeId) ?_
  exact ⟨(), _, rfl, congrArg (·.unregistered selfNode.nodeId) store, clock, free'⟩

theorem listFrom_ends (nodeIds : List CString) (free : state.Free) :
    (listFrom nodeIds).Ends (exec number) (fun _ after => state.SameStore after) state := by
  induction nodeIds generalizing state with
  | nil => exact Calls.ends_ret.mpr ⟨rfl, rfl, free⟩
  | cons nodeId rest ih =>
    rw [listFrom]
    refine (queryNode_ends free nodeId).andThen ?_
    rintro answer middle ⟨-, same⟩
    have tail : ∀ after, middle.SameStore after → state.SameStore after := fun after kept =>
      ⟨kept.store.trans same.store, kept.clockMs.trans same.clockMs, kept.free⟩
    cases answer with
    | none =>
      refine Calls.ends_call.mpr ⟨(), middle.withNode (middle.node.eraseNode nodeId), rfl, ?_⟩
      have kept : (middle.withNode (middle.node.eraseNode nodeId)).Free := same.free
      exact (ih kept).mono fun _ after last => tail after ⟨last.store, last.clockMs, last.free⟩
    | some nodeMeta =>
      refine (ih same.free).andThen ?_
      intro _ after last
      exact Calls.ends_ret.mpr (tail after last)

theorem listNodes_ends (free : state.Free) :
    listNodes.Ends (exec number) (fun _ after => state.SameStore after) state := by
  rw [listNodes]
  exact .after (getNodeIds_eval free) (listFrom_ends _ free)

end RegistryState

end ClusterChat
