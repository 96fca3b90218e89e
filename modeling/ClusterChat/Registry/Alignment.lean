/-
# Sessions and the users of nodes

A session names its node, and the set of a node's users names its sessions the
other way round; `cleanupSelf` deletes what the set names. The two stay in step
as long as whoever unbinds a user passes the node that the session names. The
registry does not see to it: `unbindUserNode` deletes the session whatever it
names, and takes the user out of the set of the node it is given. `unbindUser`
gives the caller's own node, which is another one where a client logs out a user
of another node, and a lookup gives the node of a cached route, which may have
been replaced.
-/

import ClusterChat.Concurrency.Machine
import ClusterChat.Registry.Complete

namespace ClusterChat

namespace RedisStore

/-- The node part of a user's session. -/
def owner (store : RedisStore) (userId : UserId) : Option CString :=
  (store.session userId).map fun value => (splitSession value).1

/-- **In step.** A user is in the set of a node just if it has a session whose
node part is that node. -/
def InStep (store : RedisStore) : Prop :=
  ∀ userId nodeId, userId ∈ store.nodeUsers nodeId ↔ store.owner userId = some nodeId

/-- Unbinding the user from this node takes it out of the right set: it has no
session, or its session names this node. -/
def RightNode (store : RedisStore) (userId : UserId) (nodeId : CString) : Prop :=
  ∀ owner ∈ store.owner userId, owner = nodeId ∧ nodeId ≠ []

instance (store : RedisStore) (userId : UserId) (nodeId : CString) :
    Decidable (store.RightNode userId nodeId) :=
  inferInstanceAs (Decidable (∀ owner ∈ store.owner userId, owner = nodeId ∧ nodeId ≠ []))

variable {store after : RedisStore} {userId : UserId} {nodeId : CString}

theorem inStep_empty : RedisStore.empty.InStep := by
  intro userId nodeId
  simp [RedisStore.empty, owner]

/-- Only the sessions and the sets matter. -/
theorem InStep.of_same (session : after.session = store.session)
    (nodeUsers : after.nodeUsers = store.nodeUsers) : after.InStep ↔ store.InStep := by
  simp only [InStep, owner, session, nodeUsers]

/-! ### One operation -/

theorem owner_bound (free : store.session userId = none) (nodeId instanceId : CString)
    (other : UserId) :
    (store.bound userId nodeId instanceId).owner other =
      if other = userId then some (splitSession (sessionValue nodeId instanceId)).1
      else store.owner other := by
  rw [bound, free]
  by_cases same : other = userId
  · subst same
    simp [owner]
  · simp [owner, same]

theorem mem_nodeUsers_bound (free : store.session userId = none) (nodeId instanceId : CString)
    (other : UserId) (node : CString) :
    other ∈ (store.bound userId nodeId instanceId).nodeUsers node ↔
      other = userId ∧ node = nodeId ∨ other ∈ store.nodeUsers node := by
  rw [bound, free]
  by_cases same : node = nodeId
  · subst same
    simp
  · simp [same]

/-- Binding keeps the store in step, unless an instance id with a bar of its own
makes the session name another node. -/
theorem InStep.bound_iff (inStep : store.InStep) (userId : UserId) (nodeId instanceId : CString) :
    (store.bound userId nodeId instanceId).InStep ↔
      (store.session userId ≠ none ∨ bar ∉ instanceId) := by
  cases found : store.session userId with
  | some value => simpa [bound, found] using inStep
  | none =>
    have absent : ∀ node, userId ∉ store.nodeUsers node := by
      intro node member
      have held := (inStep userId node).mp member
      simp [owner, found] at held
    rw [← splitSession_sessionValue nodeId instanceId]
    constructor
    · intro after
      have named := (after userId nodeId).mp ((mem_nodeUsers_bound found ..).mpr (.inl ⟨rfl, rfl⟩))
      rw [owner_bound found, if_pos rfl, Option.some.injEq] at named
      exact .inr named
    · intro named other node
      replace named := named.resolve_left (absurd rfl)
      rw [mem_nodeUsers_bound found, owner_bound found]
      by_cases same : other = userId
      · subst same
        rw [if_pos rfl, named, Option.some.injEq]
        exact ⟨fun either => (either.resolve_right (absent node)).2.symm,
          fun here => .inl ⟨rfl, here.symm⟩⟩
      · rw [if_neg same, ← inStep other node]
        exact ⟨fun either => either.resolve_left fun here => same here.1, .inr⟩

theorem owner_unbound (userId : UserId) (nodeId : CString) (other : UserId) :
    (store.unbound userId nodeId).owner other =
      if other = userId then none else store.owner other := by
  unfold unbound
  by_cases same : other = userId
  · subst same
    by_cases named : nodeId = [] <;> simp [owner, named]
  · by_cases named : nodeId = [] <;> simp [owner, named, same]

theorem mem_nodeUsers_unbound (userId : UserId) (nodeId : CString) (other : UserId)
    (node : CString) :
    other ∈ (store.unbound userId nodeId).nodeUsers node ↔
      other ∈ store.nodeUsers node ∧ ¬(other = userId ∧ node = nodeId ∧ nodeId ≠ []) := by
  unfold unbound
  by_cases named : nodeId = []
  · simp [named]
  · by_cases same : node = nodeId
    · subst same
      simp [named]
    · simp [named, same]

/-- Unbinding keeps the store in step just if it is given the right node. -/
theorem InStep.unbound_iff (inStep : store.InStep) (userId : UserId) (nodeId : CString) :
    (store.unbound userId nodeId).InStep ↔ store.RightNode userId nodeId := by
  constructor
  · intro after owner held
    -- the user would be left in the set of the node its session named
    have member := (inStep userId owner).mpr held
    have gone : userId ∉ (store.unbound userId nodeId).nodeUsers owner := by
      rw [after userId owner, owner_unbound, if_pos rfl]
      exact (Option.some_ne_none owner).symm
    rw [mem_nodeUsers_unbound] at gone
    by_contra wrong
    exact gone ⟨member, fun here => wrong ⟨here.2.1, here.2.2⟩⟩
  · intro right other node
    rw [mem_nodeUsers_unbound, owner_unbound]
    by_cases same : other = userId
    · subst same
      rw [if_pos rfl]
      refine ⟨?_, fun none => absurd none (Option.some_ne_none node).symm⟩
      rintro ⟨member, elsewhere⟩
      have named := right node ((inStep other node).mp member)
      exact absurd ⟨rfl, named.1, named.2⟩ elsewhere
    · rw [if_neg same, ← inStep other node]
      exact ⟨fun here => here.1, fun here => ⟨here, fun fits => same fits.1⟩⟩

theorem session_unboundAll (nodeId : CString) (users : List UserId) (other : UserId) :
    (store.unboundAll nodeId users).session other =
      if other ∈ users then none else store.session other := by
  induction users generalizing store with
  | nil => simp [unboundAll]
  | cons userId rest ih =>
    have tail : (store.unboundAll nodeId (userId :: rest)).session other =
        if other ∈ rest then none else (store.unbound userId nodeId).session other := ih
    rw [tail]
    have head : (store.unbound userId nodeId).session other =
        if other = userId then none else store.session other := by
      unfold unbound
      by_cases named : nodeId = [] <;> simp [named, Function.update_apply]
    rw [head]
    by_cases same : other = userId <;> simp [same]

theorem nodeUsers_unboundAll {node : CString} (other : node ≠ nodeId) (users : List UserId) :
    (store.unboundAll nodeId users).nodeUsers node = store.nodeUsers node := by
  induction users generalizing store with
  | nil => rfl
  | cons userId rest ih =>
    have tail : (store.unboundAll nodeId (userId :: rest)).nodeUsers node =
        (store.unbound userId nodeId).nodeUsers node := ih
    rw [tail, unbound]
    by_cases named : nodeId = [] <;> simp [named, other]

/-- The store that `cleanupSelf` leaves. -/
def cleaned (store : RedisStore) (nodeId : CString) : RedisStore :=
  (store.unboundAll nodeId (store.nodeUsers nodeId)).unregistered nodeId

/-- From a store in step, `cleanupSelf` deletes the sessions of its node and no
other. -/
theorem InStep.session_cleaned (inStep : store.InStep) (nodeId : CString) (userId : UserId) :
    (store.cleaned nodeId).session userId =
      if store.owner userId = some nodeId then none else store.session userId := by
  refine (session_unboundAll nodeId _ userId).trans ?_
  by_cases member : userId ∈ store.nodeUsers nodeId
  · rw [if_pos member, if_pos ((inStep userId nodeId).mp member)]
  · rw [if_neg member, if_neg fun held => member ((inStep userId nodeId).mpr held)]

theorem InStep.cleaned (inStep : store.InStep) (nodeId : CString) :
    (store.cleaned nodeId).InStep := by
  intro userId node
  have held : (store.cleaned nodeId).owner userId =
      if store.owner userId = some nodeId then none else store.owner userId := by
    rw [owner, inStep.session_cleaned nodeId userId]
    by_cases here : store.owner userId = some nodeId
    · rw [if_pos here, if_pos here, Option.map_none]
    · rw [if_neg here, if_neg here, owner]
  rw [held]
  by_cases same : node = nodeId
  · subst same
    rw [show (store.cleaned node).nodeUsers node = [] by
      simp [RedisStore.cleaned, unregistered]]
    by_cases here : store.owner userId = some node <;> simp [here]
  · rw [show (store.cleaned nodeId).nodeUsers node = store.nodeUsers node by
      simp [RedisStore.cleaned, unregistered, same, nodeUsers_unboundAll same], inStep userId node]
    by_cases here : store.owner userId = some nodeId
    · rw [if_pos here, here]
      simp [Ne.symm same]
    · rw [if_neg here]

end RedisStore

/-! ### Any calls on any nodes -/

/-- One step between calls: a call of the registry on a node, from its beginning
to its end, or the passing of time. -/
inductive AlignmentStep
  | call (n : ℕ) (method : RegistryMethod)
  | wait (n ms : ℕ)
  | waitRedis (ms : ℕ)

/-- Complete calls on any nodes, in any order. -/
def alignmentMachine : Machine RegistryWorld AlignmentStep where
  step
    | world, .call n method =>
      ((method.program (world.nodes n)).eval (RegistryState.exec 0) (world.view n)).map
        fun result => world.put n result.2
    | world, .wait n ms => some (world.wait n ms)
    | world, .waitRedis ms => some (world.waitRedis ms)

namespace RegistryWorld

/-- A lookup on this node that deletes a route it finds dead deletes it from the
set of the node that the session names. -/
def JudgesRight (world : RegistryWorld) (n : ℕ) (userId : UserId) : Prop :=
  ∀ route ∈ (world.nodes n).route userId,
    NodeRegistry.sessionAlive route.2 ((world.view n).lookup route.1) = false →
      world.store.RightNode userId route.1

instance (world : RegistryWorld) (n : ℕ) (userId : UserId) :
    Decidable (world.JudgesRight n userId) :=
  inferInstanceAs (Decidable (∀ route ∈ (world.nodes n).route userId,
    NodeRegistry.sessionAlive route.2 ((world.view n).lookup route.1) = false →
      world.store.RightNode userId route.1))

/-- The condition on a step under which sets and sessions stay in step. -/
def StaysInStep (world : RegistryWorld) : AlignmentStep → Prop
  | .call n (.bindUser userId) =>
    world.store.session userId ≠ none ∨ bar ∉ (world.nodes n).selfNode.instanceId
  | .call n (.unbindUser userId) =>
    world.store.RightNode userId (world.nodes n).selfNode.nodeId
  | .call n (.queryUserNode userId) => world.JudgesRight n userId
  | .call n (.resolveUserNode userId) => world.JudgesRight n userId
  | _ => True

instance (world : RegistryWorld) : (step : AlignmentStep) → Decidable (world.StaysInStep step)
  | .call n (.bindUser userId) =>
    inferInstanceAs (Decidable (world.store.session userId ≠ none ∨
      bar ∉ (world.nodes n).selfNode.instanceId))
  | .call n (.unbindUser userId) =>
    inferInstanceAs (Decidable (world.store.RightNode userId (world.nodes n).selfNode.nodeId))
  | .call n (.queryUserNode userId) => inferInstanceAs (Decidable (world.JudgesRight n userId))
  | .call n (.resolveUserNode userId) => inferInstanceAs (Decidable (world.JudgesRight n userId))
  | .call _ (.queryNode _) => .isTrue trivial
  | .call _ .listNodes => .isTrue trivial
  | .call _ .register => .isTrue trivial
  | .call _ .heartbeat => .isTrue trivial
  | .call _ .cleanupSelf => .isTrue trivial
  | .wait _ _ => .isTrue trivial
  | .waitRedis _ => .isTrue trivial

/-- No thread is inside a Redis client: the world is between calls. -/
def Idle (world : RegistryWorld) : Prop := ∀ n, (world.nodes n).commandHolder = none

variable {world next : RegistryWorld}

theorem Idle.put (idle : world.Idle) {n : ℕ} {state : RegistryState} (free : state.Free) :
    (world.put n state).Idle := by
  intro other
  rw [RegistryWorld.put]
  dsimp only
  by_cases same : other = n
  · subst same
    rw [Function.update_self]
    exact free
  · rw [Function.update_of_ne same]
    exact idle other

/-- What a lookup makes of the store keeps it in step just if the route it judges
by is right. -/
theorem inStep_queried_iff (inStep : world.store.InStep) (n : ℕ) (userId : UserId) :
    ((world.view n).queried userId).InStep ↔ world.JudgesRight n userId := by
  have judged : ∀ route : CString × CString,
      ((world.view n).judged userId route).InStep ↔
        (NodeRegistry.sessionAlive route.2 ((world.view n).lookup route.1) = false →
          world.store.RightNode userId route.1) := by
    intro route
    rw [RegistryState.judged]
    cases NodeRegistry.sessionAlive route.2 ((world.view n).lookup route.1) with
    | true => simpa [view] using inStep
    | false => simpa [view] using inStep.unbound_iff userId route.1
  unfold RegistryState.queried RegistryState.heldRoute JudgesRight
  cases cached : (world.nodes n).route userId with
  | some route => simpa [view, cached] using judged route
  | none =>
    -- a route read from Redis names the node of the session
    simp only [view, cached]
    cases stored : world.store.sessionRoute userId with
    | none => simpa using inStep
    | some route =>
      refine ⟨fun _ _ none => absurd none (Option.not_mem_none _), fun _ => ?_⟩
      refine (judged route).mpr fun _ owner held => ?_
      obtain ⟨value, found, named⟩ := Option.bind_eq_some_iff.mp stored
      by_cases empty : (splitSession value).1 = []
      · simp [empty] at named
      · rw [if_pos empty, Option.some.injEq] at named
        have held' : (splitSession value).1 = owner := by
          rw [RedisStore.owner, found] at held
          exact Option.some.inj held
        rw [← named, ← held']
        exact ⟨rfl, empty⟩

/-- **One complete call** leaves the Redis client free, and keeps the store in
step just if it meets the condition. -/
theorem method_inStep (idle : world.Idle) (inStep : world.store.InStep) (n : ℕ) :
    ∀ method : RegistryMethod, (method.program (world.nodes n)).Ends (RegistryState.exec 0)
      (fun _ after => after.Free ∧
        (after.store.InStep ↔ world.StaysInStep (.call n method))) (world.view n) := by
  have free : (world.view n).Free := idle n
  have same : ∀ {after : RegistryState}, (world.view n).SameSessions after → after.Free ∧
      (after.store.InStep ↔ True) := by
    intro after same
    rw [RedisStore.InStep.of_same same.session same.nodeUsers]
    exact ⟨same.free, iff_true_intro inStep⟩
  have sameStore : ∀ {after : RegistryState}, (world.view n).SameStore after → after.Free ∧
      (after.store.InStep ↔ True) := by
    intro after same
    rw [same.store]
    exact ⟨same.free, iff_true_intro inStep⟩
  intro method
  cases method with
  | bindUser userId =>
    refine (RegistryState.bindUser_ends free _ userId).andThen ?_
    rintro answer after ⟨-, store, -, free'⟩
    exact Calls.ends_ret.mpr ⟨free', store ▸ inStep.bound_iff userId _ _⟩
  | unbindUser userId =>
    refine (RegistryState.unbindUser_ends free _ userId).andThen ?_
    rintro answer after ⟨store, -, free'⟩
    exact Calls.ends_ret.mpr ⟨free', store ▸ inStep.unbound_iff userId _⟩
  | queryUserNode userId =>
    refine (RegistryState.queryUserNode_ends free userId).andThen ?_
    rintro answer after ⟨store, -, free'⟩
    exact Calls.ends_ret.mpr ⟨free', store ▸ inStep_queried_iff inStep n userId⟩
  | resolveUserNode userId =>
    refine (RegistryState.resolveUserNode_ends free userId).andThen ?_
    rintro answer after ⟨store, -, free'⟩
    exact Calls.ends_ret.mpr ⟨free', store ▸ inStep_queried_iff inStep n userId⟩
  | queryNode nodeId =>
    refine (RegistryState.queryNode_ends free nodeId).andThen ?_
    rintro answer after ⟨-, kept⟩
    exact Calls.ends_ret.mpr (sameStore kept)
  | listNodes =>
    refine (RegistryState.listNodes_ends free).andThen ?_
    intro answer after kept
    exact Calls.ends_ret.mpr (sameStore kept)
  | register =>
    refine (RegistryState.register_ends free _ _).andThen ?_
    rintro answer after ⟨-, kept⟩
    exact Calls.ends_ret.mpr (same kept)
  | heartbeat =>
    refine (RegistryState.heartbeat_ends free _ _).andThen ?_
    rintro answer after ⟨-, kept⟩
    exact Calls.ends_ret.mpr (same kept)
  | cleanupSelf =>
    refine (RegistryState.cleanupSelf_ends free _).mono ?_
    rintro answer after ⟨store, -, free'⟩
    refine ⟨free', iff_of_true ?_ trivial⟩
    rw [store]
    exact inStep.cleaned _

/-- **One step** keeps the store in step just if it meets the condition. -/
theorem step_inStep (idle : world.Idle) (inStep : world.store.InStep) {step : AlignmentStep}
    (moved : alignmentMachine.step world step = some next) :
    next.Idle ∧ (next.store.InStep ↔ world.StaysInStep step) := by
  cases step with
  | call n method =>
    obtain ⟨⟨answer, after⟩, ran, rfl⟩ := Option.map_eq_some_iff.mp moved
    obtain ⟨free, effect⟩ := (method_inStep idle inStep n method).of_eval ran
    exact ⟨idle.put free, effect⟩
  | wait n ms =>
    obtain rfl := Option.some.inj moved
    refine ⟨?_, iff_of_true inStep trivial⟩
    exact idle.put (show (⟨world.store, world.clockMs, { world.nodes n with
      nowMs := (world.nodes n).nowMs + ms
      systemMs := (world.nodes n).systemMs + ms }⟩ : RegistryState).Free from idle n)
  | waitRedis ms =>
    obtain rfl := Option.some.inj moved
    exact ⟨idle, iff_of_true inStep trivial⟩

/-- In every state reached through steps that meet the condition the world is idle
and the store in step. -/
theorem reach_inStep {clockMs : Int} {configs : ℕ → NodeConfig}
    (reached : alignmentMachine.Reach StaysInStep (start clockMs configs) world) :
    world.Idle ∧ world.store.InStep := by
  refine reached.invariant (fun world => world.Idle ∧ world.store.InStep) ?_ ?_
  · exact ⟨fun n => rfl, RedisStore.inStep_empty⟩
  · rintro world next step ⟨idle, inStep⟩ admitted moved
    obtain ⟨idle', effect⟩ := step_inStep idle inStep moved
    exact ⟨idle', effect.mpr admitted⟩

end RegistryWorld

/-- **Sessions and users of nodes stay in step** under complete calls on any nodes,
as long as each call meets the condition, and the first call that does not brings
them out of step. From a state in step, `cleanupSelf` deletes the sessions of its
node and no other. -/
theorem sessions_inStep (clockMs : Int) (configs : ℕ → NodeConfig) {world : RegistryWorld}
    (reached : alignmentMachine.Reach RegistryWorld.StaysInStep (.start clockMs configs) world) :
    (∀ userId nodeId, userId ∈ world.store.nodeUsers nodeId ↔
        world.store.owner userId = some nodeId) ∧
      (∀ n next, alignmentMachine.step world (.call n .cleanupSelf) = some next →
        ∀ userId, next.store.session userId =
          if world.store.owner userId = some (world.nodes n).selfNode.nodeId then none
          else world.store.session userId) ∧
      ∀ step next, alignmentMachine.step world step = some next →
        (next.store.InStep ↔ world.StaysInStep step) := by
  obtain ⟨idle, inStep⟩ := RegistryWorld.reach_inStep reached
  refine ⟨inStep, ?_, fun step next moved => (RegistryWorld.step_inStep idle inStep moved).2⟩
  intro n next moved userId
  obtain ⟨⟨answer, after⟩, ran, rfl⟩ := Option.map_eq_some_iff.mp moved
  have free : (world.view n).Free := idle n
  have effect := (RegistryState.cleanupSelf_ends free _).of_eval ran
  have cleaned : (world.put n after).store =
      world.store.cleaned (world.nodes n).selfNode.nodeId := effect.1
  rw [cleaned]
  exact inStep.session_cleaned _ userId

/-- A user logs in on one node, and is looked up and logged out there. -/
def orderlyCalls : List AlignmentStep :=
  [.call 0 .register, .call 1 .register, .call 0 (.queryUserNode 7), .call 0 (.bindUser 7),
    .call 1 (.resolveUserNode 7), .wait 1 2000, .call 0 (.unbindUser 7)]

theorem sessions_inStep_orderly :
    ∃ world, alignmentMachine.runWithin RegistryWorld.StaysInStep (.start 0 twoNodes)
        orderlyCalls = some world ∧
      ∀ userId nodeId, userId ∈ world.store.nodeUsers nodeId ↔
        world.store.owner userId = some nodeId := by
  have ran : (alignmentMachine.runWithin RegistryWorld.StaysInStep (.start 0 twoNodes)
      orderlyCalls).isSome = true := by decide +kernel
  obtain ⟨world, ran⟩ := Option.isSome_iff_exists.mp ran
  exact ⟨world, ran, (sessions_inStep 0 twoNodes (.of_runWithin .refl ran)).1⟩

/-- A user logs in on one node; a client of the other node logs it out. -/
def crossLogout : List AlignmentStep :=
  [.call 0 .register, .call 1 .register, .call 0 (.queryUserNode 7), .call 0 (.bindUser 7),
    .call 1 (.unbindUser 7)]

/-- The user then logs in on that other node, and the first node shuts down. -/
def loginThenShutdown : List AlignmentStep :=
  [.call 1 (.queryUserNode 7), .call 1 (.bindUser 7), .call 0 .cleanupSelf]

/-- After the logout the first node's set holds a user without a session; later that
node's shutdown deletes the session on the other node. -/
theorem crossLogout_out_of_step :
    (∃ world, alignmentMachine.run (.start 0 twoNodes) crossLogout = some world ∧
      ¬∀ userId nodeId, userId ∈ world.store.nodeUsers nodeId ↔
        world.store.owner userId = some nodeId) ∧
    (alignmentMachine.run (.start 0 twoNodes) (crossLogout ++ loginThenShutdown.take 2)).map
        (·.store.owner 7) = some (some (twoNodes 1).selfNode.nodeId) ∧
      (alignmentMachine.run (.start 0 twoNodes) (crossLogout ++ loginThenShutdown)).map
        (·.store.session 7) = some none := by
  refine ⟨?_, by decide +kernel, by decide +kernel⟩
  have ran : ((alignmentMachine.run (.start 0 twoNodes) crossLogout).any fun world =>
      decide (7 ∈ world.store.nodeUsers (twoNodes 0).selfNode.nodeId ∧
        world.store.owner 7 = none)) = true := by decide +kernel
  obtain ⟨world, ran, found⟩ := (Option.any_eq_true _ _).mp ran
  obtain ⟨member, gone⟩ := of_decide_eq_true found
  refine ⟨world, ran, fun inStep => ?_⟩
  have held := (inStep 7 _).mp member
  exact Option.some_ne_none _ (held.symm.trans gone)

end ClusterChat
