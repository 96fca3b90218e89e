/-
# What a node publishes

A node writes its addresses into a hash, field by field and with its numbers as text, and
its name and instance into the session of a user, joined by a bar. Another node reads the
two back and compares them. What it resolves the user to is what the first node published,
and the two parts agree, so that it leaves the session where it is.
-/

import ClusterChat.Registry.Resolve
import ClusterChat.Registry.Freshness
import ClusterChat.Data.NumberText

namespace ClusterChat

open NodeRegistry

/-! ### The hash of a node -/

/-- A port survives its text. -/
theorem readPort_printInt (port : UInt16) : readPort (printInt port.toNat) = port := by
  have small : ((port.toNat : Int) % 2 ^ 16).toNat = port.toNat := by
    have bound := port.toNat_lt
    omega
  rw [readPort, atoi_printInt, small, UInt16.ofNat_toNat]

/-- The fields that `registerNode` writes describe the node. -/
theorem nodeOf_written (node : NodeMeta) (heartbeatMs : Int) :
    nodeOf (node.fields heartbeatMs) = { node with heartbeatMs := heartbeatMs } := by
  simp only [nodeOf, NodeMeta.fields, List.foldl_cons, List.foldl_nil, NodeMeta.put,
    readPort_printInt, atoi_printInt]

namespace RedisStore

/-- What `registerNode` makes of the store. -/
def withRegistered (store : RedisStore) (clockMs : Int) (node : NodeMeta)
    (ttlSeconds heartbeatMs : Int) : RedisStore :=
  let written :=
    (store.setNode clockMs node.nodeId (node.fields heartbeatMs)).expireNode clockMs node.nodeId
      ttlSeconds
  { written with nodes := setAdd node.nodeId written.nodes }

variable {store : RedisStore} {clockMs : Int}

/-- `registerNode` leaves a hash of its own fields, which expires when the old one would. -/
theorem liveNode_setNode (store : RedisStore) (clockMs : Int) (node : NodeMeta)
    (heartbeatMs : Int) :
    (store.setNode clockMs node.nodeId (node.fields heartbeatMs)).liveNode clockMs node.nodeId =
      some ⟨node.fields heartbeatMs,
        (store.liveNode clockMs node.nodeId).bind NodeRecord.expireAtMs⟩ := by
  cases live : store.liveNode clockMs node.nodeId with
  | none =>
    rw [RedisStore.setNode, live, RedisStore.liveNode]
    dsimp only
    rw [Function.update_self]
    rfl
  | some old =>
    have unexpired := (Option.filter_eq_some_iff.mp live).2
    rw [RedisStore.setNode, live, RedisStore.liveNode]
    dsimp only
    rw [Function.update_self, fields_covered, List.append_nil]
    exact if_pos unexpired

/-- `EXPIRE` leaves a hash that is there until its time is over. -/
theorem liveNode_expireNode {nodeId : CString} {record : NodeRecord} {seconds laterMs : Int}
    (live : store.liveNode clockMs nodeId = some record) (later : clockMs ≤ laterMs)
    (unexpired : laterMs < clockMs + 1000 * seconds) :
    (store.expireNode clockMs nodeId seconds).liveNode laterMs nodeId =
      some { record with expireAtMs := some (clockMs + 1000 * seconds) } := by
  have lasting : ¬seconds ≤ 0 := by omega
  rw [RedisStore.expireNode, live, RedisStore.liveNode]
  dsimp only
  rw [if_neg lasting, Function.update_self]
  exact if_pos (decide_eq_true unexpired.le)

/-- **A registered node is found** as long as its hash has not expired. -/
theorem readNode_withRegistered {node : NodeMeta} {ttlSeconds heartbeatMs laterMs : Int}
    (valid : node.valid) (later : clockMs ≤ laterMs)
    (unexpired : laterMs < clockMs + 1000 * ttlSeconds) :
    ((store.withRegistered clockMs node ttlSeconds heartbeatMs).liveNode laterMs node.nodeId).bind
      (fun record => readNode record.fields) = some { node with heartbeatMs := heartbeatMs } := by
  have found : (store.withRegistered clockMs node ttlSeconds heartbeatMs).liveNode laterMs
      node.nodeId = some ⟨node.fields heartbeatMs, some (clockMs + 1000 * ttlSeconds)⟩ :=
    liveNode_expireNode (liveNode_setNode store clockMs node heartbeatMs) later unexpired
  have whole : node.fields heartbeatMs ≠ [] := List.cons_ne_nil _ _
  rw [found, Option.bind_some, readNode]
  dsimp only
  rw [nodeOf_written, if_pos ⟨whole, valid⟩]

/-- Registering a node leaves the sessions alone. -/
theorem withRegistered_session (store : RedisStore) (clockMs : Int) (node : NodeMeta)
    (ttlSeconds heartbeatMs : Int) :
    (store.withRegistered clockMs node ttlSeconds heartbeatMs).session = store.session :=
  (RegistryState.expireNode_sessions (store.setNode clockMs node.nodeId (node.fields heartbeatMs))
    clockMs node.nodeId ttlSeconds).1

/-- A stored session is read back as the two parts that were joined. -/
theorem sessionRoute_sessionValue {userId : UserId} {nodeId instanceId : CString}
    (stored : store.session userId = some (sessionValue nodeId instanceId)) (named : nodeId ≠ [])
    (plain : bar ∉ instanceId) : store.sessionRoute userId = some (nodeId, instanceId) := by
  have split : splitSession (sessionValue nodeId instanceId) = (nodeId, instanceId) :=
    splitSession_append nodeId instanceId plain
  rw [sessionRoute, stored, Option.bind_some, split, if_pos named]

end RedisStore

/-! ### Publishing and resolving -/

/-- What a node does up to its first user: `NodeRegistry::init`, and `bindUser`. -/
def NodeRegistry.publish (selfNode : NodeMeta) (heartbeatTimeoutMs : Int) (userId : UserId) :
    Calls RegistryCall Bool := do
  match ← register selfNode heartbeatTimeoutMs with
  | false => return false
  | true => bindUser selfNode userId

/-- A node that can publish itself: its registration is valid and names an instance, without
a bar, and the time of its last heartbeat. -/
structure NodeMeta.Publishable (node : NodeMeta) : Prop where
  valid : node.valid
  instanceId : node.instanceId ≠ []
  plain : bar ∉ node.instanceId
  heartbeatMs : 0 < node.heartbeatMs

namespace RegistryState

variable {state : RegistryState} {number : ℕ}

theorem registerNode_eval (free : state.Free) {nodeMeta : NodeMeta} (set : 0 < nodeMeta.heartbeatMs)
    (ttlSeconds : Int) :
    (redis (Redis.registerNode nodeMeta ttlSeconds)).eval (exec number) state =
      some (true, { state with
        store :=
          state.store.withRegistered state.clockMs nodeMeta ttlSeconds nodeMeta.heartbeatMs }) := by
  obtain ⟨store, clockMs, ⟨_, _, _, _, _, _, _, holder⟩⟩ := state
  obtain rfl : holder = none := free
  have unset : ¬nodeMeta.heartbeatMs ≤ 0 := Int.not_le.mpr set
  simp [redis, Redis.registerNode, Redis.writeNode, Redis.locked, Redis.send, unset, exec,
    RedisStore.exec, RedisStore.withRegistered]

/-- A node that publishes itself and a user succeeds unless the user has a session. -/
theorem publish_ends (free : state.Free) {selfNode : NodeMeta} (set : 0 < selfNode.heartbeatMs)
    (heartbeatTimeoutMs : Int) (userId : UserId) :
    (publish selfNode heartbeatTimeoutMs userId).Ends (exec number)
      (fun answer after => answer = decide (state.store.session userId = none) ∧
        after.store = (state.store.withRegistered state.clockMs selfNode
          (heartbeatTimeoutMs.tdiv 1000 + 2) selfNode.heartbeatMs).bound userId selfNode.nodeId
            selfNode.instanceId ∧
        after.clockMs = state.clockMs) state := by
  rw [publish]
  have idle : (state.withNode (state.node.exec (.cacheNode selfNode)).2).Free := free
  have ran : (register selfNode heartbeatTimeoutMs).eval (exec number) state = _ :=
    registerNode_eval idle set (heartbeatTimeoutMs.tdiv 1000 + 2)
  refine .after ran ?_
  refine (bindUser_ends ?_ selfNode userId).mono ?_
  · exact free
  rintro answer after ⟨rfl, store, clockMs, -⟩
  refine ⟨?_, store, clockMs⟩
  rw [← RedisStore.withRegistered_session state.store state.clockMs selfNode]
  rfl

/-- Only a node whose Redis client is free publishes anything. -/
theorem free_of_publish {selfNode : NodeMeta} {heartbeatTimeoutMs : Int} {userId : UserId}
    {result : Bool × RegistryState}
    (ran : (publish selfNode heartbeatTimeoutMs userId).eval (exec number) state = some result) :
    state.Free := by
  cases held : state.node.commandHolder with
  | none => exact held
  | some holder =>
    have stuck : (publish selfNode heartbeatTimeoutMs userId).eval (exec number) state = none := by
      simp [publish, register, redis, Redis.registerNode, Redis.locked, exec,
        RegistryNode.exec, held]
    rw [stuck] at ran
    cases ran

/-- A user whose session leads to a live instance of a node is resolved to it, and keeps the
session. -/
theorem resolveUserNode_alive (free : state.Free) {userId : UserId} {nodeId instanceId : CString}
    {nodeMeta : NodeMeta} (unknown : state.node.route userId = none)
    (missed : state.node.cachedNode nodeId = none)
    (session : state.store.sessionRoute userId = some (nodeId, instanceId))
    (registered : state.registered nodeId = some nodeMeta)
    (alive : sessionAlive instanceId (some nodeMeta) = true) :
    (resolveUserNode userId).Ends (exec number)
      (fun answer after => answer = some (nodeId, nodeMeta) ∧ after.store = state.store) state := by
  -- the first look evicts what has expired, so that the second finds nothing either
  have still : (state.withNode (state.node.eraseRoute userId)).node.route userId = none :=
    (congrFun (route_eraseRoute unknown) userId).trans unknown
  have judged : ∀ asked : RegistryState, asked.store = state.store → asked.clockMs = state.clockMs →
      asked.Free → asked.node.cachedNode nodeId = none →
      (judge userId nodeId instanceId).Ends (exec number)
        (fun answer after => answer = some nodeId ∧ after.store = state.store ∧
          after.lookup nodeId = some nodeMeta ∧ after.Free) asked := by
    intro asked store clockMs free missed
    have same : asked.registered nodeId = some nodeMeta := by
      rw [RegistryState.registered, store, clockMs]
      exact registered
    rw [judge]
    refine (queryNode_lookup free nodeId).andThen ?_
    rintro answer after ⟨rfl, kept, again⟩
    rw [lookup_of_missed missed, same] at again ⊢
    rw [alive]
    exact Calls.ends_ret.mpr ⟨rfl, kept.store.trans store, again, kept.free⟩
  rw [resolveUserNode, resolveCached, node_bind, Calls.call_bind]
  refine Calls.ends_call.mpr ⟨none, _, exec_route_miss unknown, ?_⟩
  dsimp only
  rw [queryUserNode, node_bind, Calls.pure_eq, Calls.ret_bind, Calls.call_bind]
  refine Calls.ends_call.mpr ⟨none, _, exec_route_miss still, ?_⟩
  dsimp only
  rw [Calls.bind_assoc]
  refine .after (getUserSession_eval ?_ userId) ?_
  · exact free
  rw [show ((state.withNode (state.node.eraseRoute userId)).withNode
    ((state.withNode (state.node.eraseRoute userId)).node.eraseRoute userId)).store.sessionRoute
      userId = some (nodeId, instanceId) from session]
  refine Calls.ends_call.mpr ⟨(), _, rfl, ?_⟩
  refine (judged _ ?_ ?_ ?_ ?_).andThen ?_
  · rfl
  · rfl
  · exact free
  · exact missed
  rintro answer middle ⟨rfl, store, found, free⟩
  refine (queryNode_ends free nodeId).andThen ?_
  rintro answer after ⟨rfl, kept⟩
  rw [found]
  exact Calls.ends_ret.mpr ⟨rfl, kept.store.trans store⟩

/-- **What a node publishes is what others resolve.** After a node has registered itself and
bound a user, any node that knows neither of them resolves the user to it, with every field
as it was published, and the session stays. -/
theorem resolveUserNode_published {published : RegistryState} {selfNode : NodeMeta}
    {heartbeatTimeoutMs : Int} {userId : UserId} (publishable : selfNode.Publishable)
    (ran : (publish selfNode heartbeatTimeoutMs userId).eval (exec number) state =
      some (true, published))
    {resolver : RegistryState} (store : resolver.store = published.store)
    (later : published.clockMs ≤ resolver.clockMs)
    (unexpired : resolver.clockMs < published.clockMs + 1000 * (heartbeatTimeoutMs.tdiv 1000 + 2))
    (free : resolver.Free) (unknown : resolver.node.route userId = none)
    (missed : resolver.node.cachedNode selfNode.nodeId = none) (thread : ℕ) :
    (resolveUserNode userId).Ends (exec thread)
      (fun answer after => answer = some (selfNode.nodeId, selfNode) ∧
        after.store = published.store ∧
        after.store.session userId = some (sessionValue selfNode.nodeId selfNode.instanceId))
      resolver := by
  have named : selfNode.nodeId ≠ [] := by
    have valid := publishable.valid
    rw [NodeMeta.valid, Bool.and_eq_true, Bool.and_eq_true, decide_eq_true_eq] at valid
    exact valid.1.1
  obtain ⟨unbound, left, clockMs⟩ :=
    (publish_ends (free_of_publish ran) publishable.heartbeatMs heartbeatTimeoutMs
      userId).of_eval ran
  have bound := of_decide_eq_true unbound.symm
  rw [← RedisStore.withRegistered_session state.store state.clockMs selfNode
    (heartbeatTimeoutMs.tdiv 1000 + 2) selfNode.heartbeatMs] at bound
  rw [RedisStore.bound, bound] at left
  have session : published.store.session userId =
      some (sessionValue selfNode.nodeId selfNode.instanceId) := by
    rw [left]
    exact Function.update_self ..
  have registered : resolver.registered selfNode.nodeId = some selfNode := by
    rw [clockMs] at later unexpired
    rw [RegistryState.registered, store, left]
    exact RedisStore.readNode_withRegistered publishable.valid later unexpired
  have alive : sessionAlive selfNode.instanceId (some selfNode) = true := by
    rw [sessionAlive, decide_eq_true publishable.instanceId, decide_eq_true rfl]
    rfl
  have route : resolver.store.sessionRoute userId =
    some (selfNode.nodeId, selfNode.instanceId) := by
    rw [store]
    exact RedisStore.sessionRoute_sessionValue session named publishable.plain
  refine (resolveUserNode_alive free unknown missed route registered alive).mono ?_
  rintro answer after ⟨rfl, same⟩
  refine ⟨rfl, same.trans store, ?_⟩
  rw [same, store, session]

/-- One node resolves a user of the other almost twelve seconds later. -/
theorem resolveUserNode_published_twoNodes :
    ∃ published,
      (publish (twoNodes 0).selfNode 10000 7).eval (exec 0)
        ⟨.empty, 0, .create (twoNodes 0)⟩ = some (true, published) ∧
      (resolveUserNode 7).Ends (exec 1)
        (fun answer after =>
          answer = some ((twoNodes 0).selfNode.nodeId, (twoNodes 0).selfNode) ∧
          after.store = published.store ∧ after.store.session 7 =
            some (sessionValue (twoNodes 0).selfNode.nodeId (twoNodes 0).selfNode.instanceId))
        ⟨published.store, 11999, .create (twoNodes 1)⟩ := by
  have publishable : (twoNodes 0).selfNode.Publishable :=
    ⟨by decide, by decide, by decide, by decide⟩
  have free : RegistryState.Free ⟨.empty, 0, .create (twoNodes 0)⟩ := rfl
  obtain ⟨answer, published, ran, unbound, -, clockMs⟩ :
      (publish (twoNodes 0).selfNode 10000 7).Ends (exec 0) _ _ :=
    publish_ends free publishable.heartbeatMs 10000 7
  obtain rfl : answer = true := unbound
  have later : published.clockMs ≤ 11999 := by
    rw [clockMs]
    decide
  have unexpired : (11999 : Int) < published.clockMs + 1000 * ((10000 : Int).tdiv 1000 + 2) := by
    rw [clockMs]
    decide
  have store : RegistryState.store ⟨published.store, 11999, .create (twoNodes 1)⟩ =
      published.store := rfl
  exact ⟨published, ran,
    resolveUserNode_published publishable ran store later unexpired rfl rfl rfl 1⟩

end RegistryState

end ClusterChat
