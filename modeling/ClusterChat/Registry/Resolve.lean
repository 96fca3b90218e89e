/-
# Resolving a user to a node

The lookups of the registry fill in strings that their callers pass by reference, and may
leave something in them where they fail. With these strings `resolveUserNode` answers and
does what the two plain lookups in sequence answer and do: its look into the caches
evicts what they would evict, and where it answers they would find the same.
-/

import ClusterChat.Registry.Complete

namespace ClusterChat

/-- `Redis::getUserSession` on the string `nodeId` and a fresh `instanceId`. -/
def Redis.getUserSessionInto (userId : UserId) (nodeId : CString) :
    Calls RedisCall (Bool × CString × CString) := locked do
  let some (some value) ← send (.getSession userId) | return (false, nodeId, [])
  return (decide ((splitSession value).1 ≠ []), splitSession value)

namespace NodeRegistry

/-- `judge` on the string `nodeId`, which holds the route's. -/
def judgeInto (userId : UserId) (nodeId instanceId : CString) :
    Calls RegistryCall (Bool × CString) := do
  let seen ← queryNode nodeId
  match sessionAlive instanceId seen with
  | true => return (true, nodeId)
  | false =>
    let _ ← redis (Redis.unbindUserNode (.queryUserNode nodeId instanceId seen) userId nodeId)
    node (.eraseCachedUserNode (.queryUserNode nodeId instanceId seen) userId)
    return (false, [])

/-- `NodeRegistry::queryUserNode` on the string `nodeId`. -/
def queryUserNodeInto (userId : UserId) (nodeId : CString) :
    Calls RegistryCall (Bool × CString) := do
  match ← node (.getCachedUserNode userId) with
  | some (nodeId, instanceId) => judgeInto userId nodeId instanceId
  | none =>
    match ← redis (Redis.getUserSessionInto userId nodeId) with
    | (false, nodeId, _) => return (false, nodeId)
    | (true, nodeId, instanceId) =>
      node (.cacheUserNode userId nodeId instanceId)
      judgeInto userId nodeId instanceId

/-- `queryUserNode` on the string `nodeId`, and then `queryNode` on it if that succeeded. -/
def queryBoth (userId : UserId) (nodeId : CString) :
    Calls RegistryCall (Bool × CString × Option NodeMeta) := do
  match ← queryUserNodeInto userId nodeId with
  | (false, nodeId) => return (false, nodeId, none)
  | (true, nodeId) =>
    let nodeMeta ← queryNode nodeId
    return (nodeMeta.isSome, nodeId, nodeMeta)

/-- `NodeRegistry::resolveUserNode` on the string `nodeId`; the node it fills in where it
returns true. -/
def resolveUserNodeInto (userId : UserId) (nodeId : CString) :
    Calls RegistryCall (Bool × CString × Option NodeMeta) := do
  match ← node (.getCachedUserNode userId) with
  | none => queryBoth userId nodeId
  | some (nodeId, instanceId) =>
    match ← node (.getCachedNode nodeId) with
    | none => queryBoth userId nodeId
    | some nodeMeta =>
      if sessionAlive instanceId (some nodeMeta) then return (true, nodeId, some nodeMeta)
      else queryBoth userId nodeId

/-! ### The strings and the answers

Where a lookup succeeds its string holds the id it found, and where it fails nobody
reads the string. -/

/-- The answer of a lookup: its string, where it succeeded. -/
def answered {α : Type} (result : Bool × α) : Option α := if result.1 then some result.2 else none

theorem judgeInto_answered (userId : UserId) (nodeId instanceId : CString) :
    (do return answered (← judgeInto userId nodeId instanceId)) =
      judge userId nodeId instanceId := by
  rw [judgeInto, judge, Calls.bind_assoc]
  refine congrArg _ (funext fun seen => ?_)
  cases sessionAlive instanceId seen with
  | true => rfl
  | false =>
    rw [Calls.bind_assoc]
    rfl

theorem getUserSessionInto_answered (userId : UserId) (nodeId : CString) :
    (do return answered (← Redis.getUserSessionInto userId nodeId)) =
      Redis.getUserSession userId := by
  simp only [Redis.getUserSessionInto, Redis.getUserSession, Redis.locked, Redis.send,
    Calls.perform_bind, Calls.call_bind]
  refine congrArg _ (funext fun _ => congrArg _ (funext fun reply => ?_))
  rcases reply with _ | _ | value
  · rfl
  · rfl
  · refine congrArg (Calls.call (RedisCall.client .unlock)) (funext fun _ => ?_)
    by_cases named : (splitSession value).1 = []
    · simp only [answered, named, ne_eq, not_true_eq_false, decide_false, if_false, Calls.pure_eq]
      rfl
    · simp only [answered, named, ne_eq, not_false_eq_true, decide_true, if_true, Calls.pure_eq]
      rfl

/-- **The string of `queryUserNode` holds its answer.** -/
theorem queryUserNodeInto_answered (userId : UserId) (nodeId : CString) :
    (do return answered (← queryUserNodeInto userId nodeId)) = queryUserNode userId := by
  rw [queryUserNodeInto, queryUserNode, Calls.bind_assoc]
  refine congrArg _ (funext fun cached => ?_)
  cases cached with
  | some route => exact judgeInto_answered userId route.1 route.2
  | none =>
    have session : redis (Redis.getUserSession userId) =
        (do return answered (← redis (Redis.getUserSessionInto userId nodeId))) := by
      rw [← getUserSessionInto_answered userId nodeId, redis, Calls.lift_bind]
      rfl
    dsimp only
    rw [session, Calls.bind_assoc, Calls.bind_assoc]
    refine congrArg _ (funext fun result => ?_)
    rcases result with ⟨_ | _, nodeId, instanceId⟩
    · rfl
    · have judged := judgeInto_answered userId nodeId instanceId
      exact congrArg _ (funext fun _ => judged)

/-- What `queryBoth` found is what the two lookups find. -/
theorem queryBoth_found (userId : UserId) (nodeId : CString) :
    (do
      let result ← queryBoth userId nodeId
      return result.2.2.map (result.2.1, ·)) =
      queryUserNode userId >>= fun found =>
        found.elim (return none) fun nodeId => do return (← queryNode nodeId).map (nodeId, ·) := by
  rw [← queryUserNodeInto_answered userId nodeId, queryBoth, Calls.bind_assoc, Calls.bind_assoc]
  refine congrArg _ (funext fun result => ?_)
  rcases result with ⟨_ | _, nodeId⟩
  · rfl
  · have found : (do
        let nodeMeta ← queryNode nodeId
        return (nodeMeta.isSome, nodeId, nodeMeta)) >>=
          (fun result : Bool × CString × Option NodeMeta =>
            (return result.2.2.map (result.2.1, ·) : Calls RegistryCall _)) =
          do return (← queryNode nodeId).map (nodeId, ·) := by
      rw [Calls.bind_assoc]
      rfl
    exact found

/-- **The strings of `resolveUserNode` hold its answer.** -/
theorem resolveUserNodeInto_found (userId : UserId) (nodeId : CString) :
    (do
      let result ← resolveUserNodeInto userId nodeId
      return result.2.2.map (result.2.1, ·)) = resolveUserNode userId := by
  have both := fun nodeId => queryBoth_found userId nodeId
  rw [resolveUserNodeInto, resolveUserNode, resolveCached, Calls.bind_assoc, Calls.bind_assoc]
  refine congrArg _ (funext fun cached => ?_)
  cases cached with
  | none =>
    refine (both nodeId).trans (congrArg _ (funext fun found => ?_))
    cases found <;> rfl
  | some route =>
    dsimp only
    rw [Calls.bind_assoc, Calls.bind_assoc]
    refine congrArg _ (funext fun known => ?_)
    cases known with
    | none =>
      refine (both route.1).trans (congrArg _ (funext fun found => ?_))
      cases found <;> rfl
    | some nodeMeta =>
      by_cases alive : sessionAlive route.2 (some nodeMeta) = true
      · simp only [Option.bind_some, if_pos alive]
        rfl
      · simp only [Option.bind_some, if_neg alive]
        refine (both route.1).trans (congrArg _ (funext fun found => ?_))
        cases found <;> rfl

/-! ### Two ways to resolve a user -/

variable {state : RegistryState} {number : ℕ}

theorem exec_route_hit {userId : UserId} {route : CString × CString}
    (cached : state.node.route userId = some route) :
    RegistryState.exec number (.node (.getCachedUserNode userId)) state =
      some (some route, state) := by
  simp [RegistryState.exec, RegistryNode.exec, cached]

theorem exec_route_miss {userId : UserId} (missed : state.node.route userId = none) :
    RegistryState.exec number (.node (.getCachedUserNode userId)) state =
      some (none, state.withNode (state.node.eraseRoute userId)) := by
  simp [RegistryState.exec, RegistryNode.exec, missed, RegistryState.withNode]

theorem exec_node_hit {nodeId : CString} {nodeMeta : NodeMeta}
    (cached : state.node.cachedNode nodeId = some nodeMeta) :
    RegistryState.exec number (.node (.getCachedNode nodeId)) state =
      some (some nodeMeta, state) := by
  simp [RegistryState.exec, RegistryNode.exec, cached]

theorem exec_node_miss {nodeId : CString} (missed : state.node.cachedNode nodeId = none) :
    RegistryState.exec number (.node (.getCachedNode nodeId)) state =
      some (none, state.withNode (state.node.eraseNode nodeId)) := by
  simp [RegistryState.exec, RegistryNode.exec, missed, RegistryState.withNode]

/-- A look for a route that is not there may have been made before. -/
theorem exec_route_again {userId : UserId} (missed : state.node.route userId = none) :
    RegistryState.exec number (.node (.getCachedUserNode userId))
        (state.withNode (state.node.eraseRoute userId)) =
      RegistryState.exec number (.node (.getCachedUserNode userId)) state := by
  have again : (state.withNode (state.node.eraseRoute userId)).node.route userId = none :=
    (congrFun (RegistryState.route_eraseRoute missed) userId).trans missed
  rw [exec_route_miss missed, exec_route_miss again]
  simp [RegistryState.withNode, RegistryNode.eraseRoute]

/-- A look for a node that is not there may have been made before. -/
theorem exec_node_again {nodeId : CString} (missed : state.node.cachedNode nodeId = none) :
    RegistryState.exec number (.node (.getCachedNode nodeId))
        (state.withNode (state.node.eraseNode nodeId)) =
      RegistryState.exec number (.node (.getCachedNode nodeId)) state := by
  have again : (state.withNode (state.node.eraseNode nodeId)).node.cachedNode nodeId = none :=
    (congrFun (RegistryState.cachedNode_eraseNode missed) nodeId).trans missed
  rw [exec_node_miss missed, exec_node_miss again]
  simp [RegistryState.withNode, RegistryNode.eraseNode]

/-- An expired route may have been evicted before. -/
theorem queryBoth_evictedRoute {userId : UserId} (nodeId : CString)
    (missed : state.node.route userId = none) :
    (queryBoth userId nodeId).eval (RegistryState.exec number)
        (state.withNode (state.node.eraseRoute userId)) =
      (queryBoth userId nodeId).eval (RegistryState.exec number) state := by
  rw [queryBoth, queryUserNodeInto, node_bind, Calls.call_bind, Calls.eval_call, Calls.eval_call,
    exec_route_again missed]

/-- What the string held is lost once a route is found in the cache. -/
theorem queryBoth_string {userId : UserId} {route : CString × CString} (nodeId other : CString)
    (cached : state.node.route userId = some route) :
    (queryBoth userId nodeId).eval (RegistryState.exec number) state =
      (queryBoth userId other).eval (RegistryState.exec number) state := by
  rw [queryBoth, queryBoth, queryUserNodeInto, queryUserNodeInto, node_bind, node_bind,
    Calls.call_bind, Calls.call_bind, Calls.eval_call, Calls.eval_call, exec_route_hit cached]
  rfl

/-- An expired node may have been evicted before the route to it is judged. -/
theorem queryBoth_evictedNode {userId : UserId} {route : CString × CString} (nodeId : CString)
    (cached : state.node.route userId = some route)
    (missed : state.node.cachedNode route.1 = none) :
    (queryBoth userId nodeId).eval (RegistryState.exec number)
        (state.withNode (state.node.eraseNode route.1)) =
      (queryBoth userId nodeId).eval (RegistryState.exec number) state := by
  have kept : (state.withNode (state.node.eraseNode route.1)).node.route userId = some route :=
    cached
  rw [queryBoth, queryUserNodeInto, node_bind, Calls.call_bind, Calls.eval_call, Calls.eval_call,
    exec_route_hit cached, exec_route_hit kept, Option.bind_some, Option.bind_some]
  dsimp only
  rw [judgeInto, queryNode, node_bind, Calls.call_bind, Calls.call_bind, Calls.eval_call,
    Calls.eval_call, exec_node_again missed]

/-- **The cached fast path agrees with the plain one.** On any caches and any Redis, and
whatever the string holds, `resolveUserNode` has the same result, the same string and the
same node as `queryUserNode` followed by `queryNode`, and leaves the same state. -/
theorem resolveUserNode_eq_queryBoth (number : ℕ) (state : RegistryState) (userId : UserId)
    (nodeId : CString) :
    (resolveUserNodeInto userId nodeId).eval (RegistryState.exec number) state =
      (queryBoth userId nodeId).eval (RegistryState.exec number) state := by
  rw [resolveUserNodeInto, node_bind, Calls.eval_call]
  cases cached : state.node.route userId with
  | none =>
    rw [exec_route_miss cached]
    exact queryBoth_evictedRoute nodeId cached
  | some route =>
    rw [exec_route_hit cached, Option.bind_some]
    dsimp only
    rw [node_bind, Calls.eval_call]
    cases known : state.node.cachedNode route.1 with
    | none =>
      rw [exec_node_miss known]
      exact (queryBoth_evictedNode route.1 cached known).trans
        (queryBoth_string route.1 nodeId cached)
    | some nodeMeta =>
      rw [exec_node_hit known, Option.bind_some]
      dsimp only
      by_cases alive : sessionAlive route.2 (some nodeMeta) = true
      · -- both lookups of the plain path hit the caches as well
        rw [if_pos alive, queryBoth, queryUserNodeInto, node_bind, Calls.call_bind, Calls.eval_call,
          exec_route_hit cached, Option.bind_some]
        dsimp only
        rw [judgeInto, queryNode, node_bind, Calls.call_bind, Calls.call_bind, Calls.eval_call,
          exec_node_hit known, Option.bind_some]
        dsimp only [Calls.pure_eq]
        rw [Calls.ret_bind, alive]
        dsimp only [Calls.pure_eq]
        rw [Calls.ret_bind]
        dsimp only
        rw [queryNode, node_bind, Calls.call_bind, Calls.eval_call, exec_node_hit known]
        rfl
      · rw [if_neg alive]
        exact queryBoth_string route.1 nodeId cached

end NodeRegistry

end ClusterChat
