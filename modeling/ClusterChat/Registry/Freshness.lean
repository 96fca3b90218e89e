/-
# Lookups and live sessions

`queryUserNode` and `resolveUserNode` delete a session they judge dead. The verdict
compares a route with a node, each from a cache or from Redis, and the deletion is
by user alone. Here calls of the registry run on any nodes at the same time, and a
node may be restarted: its new process has empty caches, its old calls stop where
they are, and its id stays the same while its instance id is made anew.

A lookup deletes no live session as long as, at the deletion, Redis still holds
what the verdict rests on. An entry that was overtaken in a cache breaks this.
-/

import ClusterChat.Concurrency.Pool
import ClusterChat.Registry.Requests

namespace ClusterChat

/-- A process of a node: the first, or the one after so many restarts. -/
structure Process where
  n : ℕ
  life : ℕ

/-- Redis and the nodes, how often each node was restarted, and a record of the
sessions that lookups deleted: whose, and whether it was live. -/
structure RegistryRun where
  world : RegistryWorld
  lives : ℕ → ℕ
  deleted : List (UserId × Bool)

/-- What a lookup's deletion rests on: the route it judged, and the node it saw. -/
structure Grounds where
  userId : UserId
  nodeId : CString
  instanceId : CString
  seen : Option NodeMeta

/-- The grounds of a command, where it is the deletion of a lookup. -/
def lookupGrounds : {β : Type} → RegistryCall β → Option Grounds
  | _, .redis (.command (.delSession (.queryUserNode nodeId instanceId seen) userId)) =>
    some ⟨userId, nodeId, instanceId, seen⟩
  | _, _ => none

/-- The same for the next call of a program. -/
def nextGrounds {ρ : Type} : Calls RegistryCall ρ → Option Grounds
  | .ret _ => none
  | .call request _ => lookupGrounds request

namespace RegistryWorld

/-- The instance registered under `chat:node:<id>`. -/
def registeredInstance (world : RegistryWorld) (nodeId : CString) : Option CString :=
  (world.store.liveNode world.clockMs nodeId).map fun record => (nodeOf record.fields).instanceId

/-- The user's session names the instance that is registered under the id it
names. -/
def liveSession (world : RegistryWorld) (userId : UserId) : Bool :=
  match world.store.session userId with
  | none => false
  | some value => world.registeredInstance (splitSession value).1 = some (splitSession value).2

/-- The session that a lookup's command deletes, and whether it is live. -/
def lookupDeletion (world : RegistryWorld) {β : Type} (request : RegistryCall β) :
    List (UserId × Bool) :=
  match lookupGrounds request with
  | none => []
  | some grounds =>
    if world.store.session grounds.userId = none then []
    else [(grounds.userId, world.liveSession grounds.userId)]

/-- Redis still holds what a deletion rests on: the session that was judged, if
any, and the instance that was seen under the id it names. -/
def GroundsHold (world : RegistryWorld) (grounds : Grounds) : Prop :=
  ∀ value ∈ world.store.session grounds.userId,
    splitSession value = (grounds.nodeId, grounds.instanceId) ∧
      world.registeredInstance grounds.nodeId = grounds.seen.map NodeMeta.instanceId

instance (world : RegistryWorld) (grounds : Grounds) : Decidable (world.GroundsHold grounds) :=
  inferInstanceAs (Decidable (∀ value ∈ world.store.session grounds.userId,
    splitSession value = (grounds.nodeId, grounds.instanceId) ∧
      world.registeredInstance grounds.nodeId = grounds.seen.map NodeMeta.instanceId))

end RegistryWorld

/-- What happens besides the calls of threads: a method of a node's registry is
called, a node is restarted, time passes. -/
inductive RegistryEvent
  | call (n : ℕ) (method : RegistryMethod)
  | restart (n : ℕ) (config : NodeConfig)
  | wait (n ms : ℕ)
  | waitRedis (ms : ℕ)

namespace RegistryRun

/-- A call by a process that is still running. -/
def exec (number : ℕ) (process : Process) {β : Type} (request : RegistryCall β)
    (run : RegistryRun) : Option (β × RegistryRun) :=
  if run.lives process.n = process.life then
    (RegistryState.exec number request (run.world.view process.n)).map fun (answer, state) =>
      (answer, { run with
        world := run.world.put process.n state
        deleted := run.deleted ++ run.world.lookupDeletion request })
  else none

/-- A node comes up again under the same id. -/
def restart (run : RegistryRun) (n : ℕ) (config : NodeConfig) : Option RegistryRun :=
  if config.selfNode.nodeId = (run.world.nodes n).selfNode.nodeId then
    some { run with
      world := { run.world with
        nodes := Function.update run.world.nodes n (.create config) }
      lives := Function.update run.lives n (run.lives n + 1) }
  else none

/-- Redis is empty and the nodes are about to start for the first time. -/
def start (clockMs : Int) (configs : ℕ → NodeConfig) : RegistryRun :=
  ⟨.start clockMs configs, fun _ => 0, []⟩

end RegistryRun

/-- Calls of the registry on any nodes, call by call, with restarts. -/
def freshnessSystem : ThreadSystem RegistryRun RegistryCall Process Unit RegistryEvent where
  exec number process _ request run := run.exec number process request
  environment
    | .call n method, run => some (run, [(⟨n, run.lives n⟩, method.program (run.world.nodes n))])
    | .restart n config, run =>
      (run.restart n config).map fun run =>
        (run, [(⟨n, run.lives n⟩, RegistryMethod.register.program (run.world.nodes n))])
    | .wait n ms, run => some ({ run with world := run.world.wait n ms }, [])
    | .waitRedis ms, run => some ({ run with world := run.world.waitRedis ms }, [])

/-- The condition on a turn: where a lookup is about to delete a session, Redis
still holds what the verdict rests on. -/
def GroundsFresh (pool : Pool RegistryRun RegistryCall Process Unit) :
    Turn RegistryEvent → Prop
  | .thread number =>
    ∀ thread ∈ pool.threads[number]?, ∀ grounds ∈ nextGrounds thread.rest,
      pool.state.world.GroundsHold grounds
  | .environment _ => True

instance (pool : Pool RegistryRun RegistryCall Process Unit) :
    (turn : Turn RegistryEvent) → Decidable (GroundsFresh pool turn)
  | .thread number =>
    inferInstanceAs (Decidable (∀ thread ∈ pool.threads[number]?,
      ∀ grounds ∈ nextGrounds thread.rest, pool.state.world.GroundsHold grounds))
  | .environment _ => .isTrue trivial

/-! ### What the programs ask for -/

section Contract

/-- Lookups delete on a verdict, and a node registers all its fields with an
instance id. -/
def registryGuard : ⦃β : Type⦄ → RegistryCall β → Prop
  | _, .redis (.command (.delSession (.queryUserNode _ instanceId seen) _)) =>
    NodeRegistry.sessionAlive instanceId seen = false
  | _, .redis (.command (.setNode _ fields)) =>
    ∃ (node : NodeMeta) (heartbeatMs : Int), fields = node.fields heartbeatMs ∧ node.instanceId ≠ []
  | _, _ => True

open NodeRegistry

theorem lookup_permitted ⦃β : Type⦄ (call : RegistryCall β) (asked : call.OfLookup) :
    registryGuard call := by
  cases call with
  | node call => trivial
  | redis call =>
    cases call with
    | client call => trivial
    | command command =>
      cases command with
      | delSession caller userId => cases caller <;> first | exact asked | trivial
      | setNode nodeId fields => exact asked.elim
      | _ => trivial

theorem bind_permitted {userId : UserId} ⦃β : Type⦄ (call : RegistryCall β)
    (asked : call.OfBind userId) : registryGuard call := by
  cases call with
  | node call => trivial
  | redis call =>
    cases call with
    | client call => trivial
    | command command =>
      cases command with
      | delSession caller userId => exact asked.elim
      | setNode nodeId fields => exact asked.elim
      | _ => trivial

theorem unbind_permitted {userId : UserId} ⦃β : Type⦄ (call : RegistryCall β)
    (asked : call.OfUnbind userId) : registryGuard call := by
  cases call with
  | node call => trivial
  | redis call =>
    cases call with
    | client call => trivial
    | command command =>
      cases command with
      | delSession caller userId => cases caller <;> first | exact asked.elim | trivial
      | setNode nodeId fields => exact asked.elim
      | _ => trivial

theorem register_permitted {selfNode : NodeMeta} (named : selfNode.instanceId ≠ []) ⦃β : Type⦄
    (call : RegistryCall β) (asked : call.OfRegister selfNode) : registryGuard call := by
  cases call with
  | node call => trivial
  | redis call =>
    cases call with
    | client call => trivial
    | command command =>
      cases command with
      | delSession caller userId => exact asked.elim
      | setNode nodeId fields =>
        obtain ⟨node, heartbeatMs, same, sameInstance⟩ := asked
        exact ⟨node, heartbeatMs, same, sameInstance ▸ named⟩
      | _ => trivial

theorem cleanup_permitted ⦃β : Type⦄ (call : RegistryCall β) (asked : call.OfCleanup) :
    registryGuard call := by
  cases call with
  | node call => trivial
  | redis call =>
    cases call with
    | client call => trivial
    | command command =>
      cases command with
      | delSession caller userId => cases caller <;> first | exact asked.elim | trivial
      | setNode nodeId fields => exact asked.elim
      | _ => trivial

/-- Every method of a node with an instance id keeps to the contract. -/
theorem method_only (node : RegistryNode) (named : node.selfNode.instanceId ≠ []) :
    ∀ method : RegistryMethod, (method.program node).Only registryGuard := by
  intro method
  cases method with
  | bindUser userId => exact ((bindUser_only _ userId).mono bind_permitted).bind fun _ => trivial
  | unbindUser userId =>
    exact ((unbindUser_only _ userId).mono unbind_permitted).bind fun _ => trivial
  | queryUserNode userId =>
    exact ((queryUserNode_only userId).mono lookup_permitted).bind fun _ => trivial
  | resolveUserNode userId =>
    exact ((resolveUserNode_only userId).mono lookup_permitted).bind fun _ => trivial
  | queryNode nodeId => exact ((queryNode_only nodeId).mono lookup_permitted).bind fun _ => trivial
  | listNodes => exact (listNodes_only.mono lookup_permitted).bind fun _ => trivial
  | register =>
    exact ((register_only _ _).mono (register_permitted named)).bind fun _ => trivial
  | heartbeat =>
    exact ((heartbeat_only _ _).mono (register_permitted named)).bind fun _ => trivial
  | cleanupSelf => exact (cleanupSelf_only _).mono cleanup_permitted

end Contract

/-! ### The invariant -/

/-- Every hash of a node has an instance id. -/
def RedisStore.Named (store : RedisStore) : Prop :=
  ∀ nodeId record, store.node nodeId = some record → (nodeOf record.fields).instanceId ≠ []

section Named

variable {store : RedisStore} {clockMs : Int}

/-- `registerNode` writes every field of the hash. -/
theorem fields_covered (node : NodeMeta) (heartbeatMs : Int) (old : List (NodeField × CString)) :
    (old.filter fun field => decide (field.1 ∉ (node.fields heartbeatMs).map Prod.fst)) = [] := by
  apply List.filter_eq_nil_iff.mpr
  rintro ⟨name, value⟩ -
  cases name <;> simp [NodeMeta.fields]

/-- A hash written by `registerNode` names the instance, whatever it held before. -/
theorem nodeOf_fields (node : NodeMeta) (heartbeatMs : Int) (old : List (NodeField × CString)) :
    (nodeOf (node.fields heartbeatMs ++ old.filter fun field =>
      field.1 ∉ (node.fields heartbeatMs).map Prod.fst)).instanceId = node.instanceId := by
  rw [fields_covered, List.append_nil]
  rfl

theorem RedisStore.Named.update (named : store.Named) {nodeId : CString}
    {record : Option NodeRecord}
    (kept : ∀ new, record = some new → (nodeOf new.fields).instanceId ≠ []) :
    RedisStore.Named { store with node := Function.update store.node nodeId record } := by
  intro other found
  dsimp only
  by_cases same : other = nodeId
  · subst same
    rw [Function.update_self]
    exact kept found
  · rw [Function.update_of_ne same]
    exact named other found

theorem liveNode_eq_some {nodeId : CString} {record : NodeRecord}
    (live : store.liveNode clockMs nodeId = some record) : store.node nodeId = some record :=
  (Option.filter_eq_some_iff.mp live).1

theorem RedisStore.Named.setNode (named : store.Named) (nodeId : CString) (node : NodeMeta)
    (heartbeatMs : Int) (instanceId : node.instanceId ≠ []) :
    (store.setNode clockMs nodeId (node.fields heartbeatMs)).Named := by
  refine named.update ?_
  rintro new found
  obtain rfl := Option.some.inj found
  cases store.liveNode clockMs nodeId with
  | none => exact instanceId
  | some old =>
    dsimp only
    rw [nodeOf_fields]
    exact instanceId

theorem RedisStore.Named.expireNode (named : store.Named) (nodeId : CString) (seconds : Int) :
    (store.expireNode clockMs nodeId seconds).Named := by
  unfold RedisStore.expireNode
  cases live : store.liveNode clockMs nodeId with
  | none => exact named
  | some record =>
    refine named.update fun new found => ?_
    by_cases past : seconds ≤ 0
    · rw [if_pos past] at found
      cases found
    · rw [if_neg past] at found
      obtain rfl := Option.some.inj found
      exact named nodeId record (liveNode_eq_some live)

/-- Every command the programs send keeps the hashes named. -/
theorem RedisStore.Named.exec (named : store.Named) {β : Type} (command : RedisCommand β)
    (guard : registryGuard (.redis (.command command))) :
    (store.exec clockMs command).2.Named := by
  cases command with
  | setNode nodeId fields =>
    obtain ⟨node, heartbeatMs, rfl, instanceId⟩ := guard
    exact named.setNode nodeId node heartbeatMs instanceId
  | expireNode nodeId seconds => exact named.expireNode nodeId seconds
  | delNode nodeId => exact named.update fun new found => nomatch found
  | setSession userId value =>
    rw [RedisStore.exec]
    split <;> exact named
  | _ => exact named

end Named

section Freshness

/-- A node keeps its identity in its own calls. -/
theorem selfNode_exec (node : RegistryNode) {β : Type} (call : NodeCall β) :
    (node.exec call).2.selfNode = node.selfNode := by
  cases call with
  | getCachedUserNode userId =>
    rw [RegistryNode.exec]
    split <;> rfl
  | getCachedNode nodeId =>
    rw [RegistryNode.exec]
    split <;> rfl
  | _ => rfl

/-- What a thread's call does to the identity of its node and to the hashes. -/
theorem exec_named {number : ℕ} {state after : RegistryState} {β : Type} {request : RegistryCall β}
    {answer : β} (named : state.store.Named) (guard : registryGuard request)
    (ran : RegistryState.exec number request state = some (answer, after)) :
    after.node.selfNode = state.node.selfNode ∧ after.store.Named := by
  cases request with
  | node call =>
    obtain ⟨rfl, rfl⟩ := Prod.mk.inj (Option.some.inj ran)
    exact ⟨selfNode_exec state.node call, named⟩
  | redis call =>
    cases call with
    | command command =>
      obtain ⟨rfl, rfl⟩ := Prod.mk.inj (Option.some.inj ran)
      exact ⟨rfl, named.exec command guard⟩
    | client call =>
      cases call with
      | lock =>
        rw [RegistryState.exec] at ran
        split at ran
        · obtain ⟨rfl, rfl⟩ := Prod.mk.inj (Option.some.inj ran)
          exact ⟨rfl, named⟩
        · cases ran
      | unlock =>
        obtain ⟨rfl, rfl⟩ := Prod.mk.inj (Option.some.inj ran)
        exact ⟨rfl, named⟩
      | time =>
        obtain ⟨rfl, rfl⟩ := Prod.mk.inj (Option.some.inj ran)
        exact ⟨rfl, named⟩

/-- Where the instance that a verdict of death rests on is the registered one, the
judged instance is not. -/
theorem seen_ne_some {world : RegistryWorld} (named : world.store.Named)
    {nodeId instanceId : CString} {seen : Option NodeMeta}
    (dead : NodeRegistry.sessionAlive instanceId seen = false)
    (registered : world.registeredInstance nodeId = seen.map NodeMeta.instanceId) :
    seen.map NodeMeta.instanceId ≠ some instanceId := by
  intro same
  cases seen with
  | none => cases same
  | some nodeMeta =>
    have equal : nodeMeta.instanceId = instanceId := Option.some.inj same
    have empty : instanceId = [] := by
      by_contra inhabited
      have alive : NodeRegistry.sessionAlive instanceId (some nodeMeta) = true := by
        simp [NodeRegistry.sessionAlive, equal, inhabited]
      exact Bool.false_ne_true (dead.symm.trans alive)
    -- every registered node has an instance id
    obtain ⟨record, live, read⟩ := Option.map_eq_some_iff.mp registered
    exact named nodeId record (liveNode_eq_some live) (read.trans (equal.trans empty))

/-- A lookup deletes on a verdict of death. -/
theorem guard_grounds {β : Type} {request : RegistryCall β} (guard : registryGuard request)
    {grounds : Grounds} (found : lookupGrounds request = some grounds) :
    NodeRegistry.sessionAlive grounds.instanceId grounds.seen = false := by
  cases request with
  | node call => cases found
  | redis call =>
    cases call with
    | client call => cases found
    | command command =>
      cases command with
      | delSession caller userId =>
        cases caller with
        | unbindUser => cases found
        | cleanupSelf => cases found
        | queryUserNode nodeId instanceId seen =>
          obtain rfl := Option.some.inj found
          exact guard
      | _ => cases found

/-- **A deletion on good grounds.** Where Redis still holds what a lookup's verdict
rests on, the session it deletes is not live. -/
theorem lookupDeletion_spares {world : RegistryWorld} (named : world.store.Named) {β : Type}
    {request : RegistryCall β} (guard : registryGuard request)
    (holds : ∀ grounds ∈ lookupGrounds request, world.GroundsHold grounds) :
    ∀ entry ∈ world.lookupDeletion request, entry.2 = false := by
  intro entry member
  cases found : lookupGrounds request with
  | none => simp [RegistryWorld.lookupDeletion, found] at member
  | some grounds =>
    cases stored : world.store.session grounds.userId with
    | none => simp [RegistryWorld.lookupDeletion, found, stored] at member
    | some value =>
      obtain ⟨split, registered⟩ := holds grounds found value stored
      simp only [RegistryWorld.lookupDeletion, found, stored, reduceCtorEq, if_false,
        List.mem_singleton] at member
      rw [member]
      simp only [RegistryWorld.liveSession, stored, split, registered, decide_eq_false_iff_not]
      exact seen_ne_some named (guard_grounds guard found) registered

/-- One state of the whole: threads ask for what the contract permits, nodes and
hashes have instance ids, and no lookup has deleted a live session. -/
structure Sparing (pool : Pool RegistryRun RegistryCall Process Unit) : Prop where
  only : ∀ thread ∈ pool.threads, thread.rest.Only registryGuard
  nodes : ∀ n, (pool.state.world.nodes n).selfNode.instanceId ≠ []
  hashes : pool.state.world.store.Named
  spared : ∀ entry ∈ pool.state.deleted, entry.2 = false

theorem initNode_instanceId (config : NodeConfig) : config.selfNode.instanceId ≠ [] := by
  intro empty
  have length := congrArg List.length empty
  simp [NodeConfig.selfNode, initNode, cString, nul] at length

/-- A thread's call keeps the run sparing. -/
theorem Sparing.call {pool next : Pool RegistryRun RegistryCall Process Unit}
    (sparing : Sparing pool) {number : ℕ} {thread : Thread RegistryCall Process Unit} {β : Type}
    {request : RegistryCall β} {answer : β} (guard : registryGuard request)
    (holds : ∀ grounds ∈ lookupGrounds request, pool.state.world.GroundsHold grounds)
    (ran : pool.state.exec number thread.tag request = some (answer, next.state))
    (only : ∀ thread ∈ next.threads, thread.rest.Only registryGuard) : Sparing next := by
  rw [RegistryRun.exec] at ran
  split at ran
  · obtain ⟨⟨answer', after⟩, moved, same⟩ := Option.map_eq_some_iff.mp ran
    obtain ⟨rfl, run⟩ := Prod.mk.inj same
    have viewed : (pool.state.world.view thread.tag.n).store.Named := sparing.hashes
    obtain ⟨self, hashes⟩ := exec_named viewed guard moved
    refine ⟨only, ?_, ?_, ?_⟩
    · intro n
      rw [← run]
      by_cases here : n = thread.tag.n
      · subst here
        simp only [RegistryWorld.put, Function.update_self]
        rw [self]
        exact sparing.nodes thread.tag.n
      · simp only [RegistryWorld.put, Function.update_of_ne here]
        exact sparing.nodes n
    · rw [← run]
      exact hashes
    · rw [← run]
      intro entry member
      rcases List.mem_append.mp member with old | new
      · exact sparing.spared entry old
      · exact lookupDeletion_spares sparing.hashes guard holds entry new
  · cases ran

/-- A node put in place of another with an instance id of its own. -/
theorem nodes_update {nodes : ℕ → RegistryNode}
    (named : ∀ n, (nodes n).selfNode.instanceId ≠ []) (n : ℕ) {node : RegistryNode}
    (new : node.selfNode.instanceId ≠ []) (other : ℕ) :
    (Function.update nodes n node other).selfNode.instanceId ≠ [] := by
  by_cases here : other = n
  · subst here
    rw [Function.update_self]
    exact new
  · rw [Function.update_of_ne here]
    exact named other

/-- The environment keeps the run sparing. -/
theorem Sparing.environment {pool next : Pool RegistryRun RegistryCall Process Unit}
    (sparing : Sparing pool) {event : RegistryEvent}
    {jobs : List (Process × Calls RegistryCall Unit)}
    (acted : freshnessSystem.environment event pool.state = some (next.state, jobs))
    (threads : next.threads = pool.threads ++ jobs.map Thread.start) : Sparing next := by
  have started : (∀ job ∈ jobs, job.2.Only registryGuard) →
      ∀ thread ∈ next.threads, thread.rest.Only registryGuard := by
    intro jobs thread member
    rw [threads, List.mem_append, List.mem_map] at member
    rcases member with old | ⟨job, listed, rfl⟩
    · exact sparing.only thread old
    · exact jobs job listed
  cases event with
  | call n method =>
    obtain ⟨state, rfl⟩ := Prod.mk.inj (Option.some.inj acted)
    refine ⟨started ?_, ?_, ?_, ?_⟩
    · intro job listed
      rw [List.mem_singleton.mp listed]
      exact method_only _ (sparing.nodes n) method
    · exact state ▸ sparing.nodes
    · exact state ▸ sparing.hashes
    · exact state ▸ sparing.spared
  | restart n config =>
    obtain ⟨run, restarted, same⟩ := Option.map_eq_some_iff.mp acted
    obtain ⟨rfl, rfl⟩ := Prod.mk.inj same
    rw [RegistryRun.restart] at restarted
    split at restarted
    · have state := Option.some.inj restarted
      have nodes : ∀ other, (next.state.world.nodes other).selfNode.instanceId ≠ [] := by
        rw [← state]
        exact nodes_update sparing.nodes n (initNode_instanceId config)
      refine ⟨started ?_, nodes, ?_, ?_⟩
      · intro job listed
        rw [List.mem_singleton.mp listed]
        exact method_only _ (nodes n) .register
      · exact state ▸ sparing.hashes
      · exact state ▸ sparing.spared
    · cases restarted
  | wait n ms =>
    obtain ⟨state, rfl⟩ := Prod.mk.inj (Option.some.inj acted)
    refine ⟨started (fun job listed => nomatch listed), ?_, ?_, ?_⟩
    · rw [← state]
      exact nodes_update sparing.nodes n (sparing.nodes n)
    · exact state ▸ sparing.hashes
    · exact state ▸ sparing.spared
  | waitRedis ms =>
    obtain ⟨state, rfl⟩ := Prod.mk.inj (Option.some.inj acted)
    refine ⟨started (fun job listed => nomatch listed), ?_, ?_, ?_⟩
    · exact state ▸ sparing.nodes
    · exact state ▸ sparing.hashes
    · exact state ▸ sparing.spared

/-- **One turn** that meets the condition keeps the run sparing. -/
theorem Sparing.turn {pool next : Pool RegistryRun RegistryCall Process Unit}
    (sparing : Sparing pool) {turn : Turn RegistryEvent} (admitted : GroundsFresh pool turn)
    (moved : freshnessSystem.turn pool turn = some next) : Sparing next := by
  rcases ThreadSystem.turn_cases moved with
    ⟨number, thread, β, request, cont, answer, rfl, found, program, ran, threads⟩ |
    ⟨event, jobs, -, acted, threads⟩
  · have holds := admitted thread found
    have only := sparing.only thread (List.mem_of_getElem? found)
    rw [program] at holds only
    refine sparing.call only.1 holds ran ?_
    intro other member
    rw [threads] at member
    rcases List.mem_or_eq_of_mem_set member with old | rfl
    · exact sparing.only other old
    · exact only.2 answer
  · exact sparing.environment acted threads

/-- **Lookups spare live sessions.** In every run in which Redis still holds what a
lookup's verdict rests on whenever one is about to delete a session, no session that
a lookup deleted was live. -/
theorem lookups_spare_live (clockMs : Int) (configs : ℕ → NodeConfig)
    {pool : Pool RegistryRun RegistryCall Process Unit}
    (reached : freshnessSystem.machine.Reach GroundsFresh ⟨.start clockMs configs, []⟩ pool) :
    ∀ entry ∈ pool.state.deleted, entry.2 = false := by
  have sparing : Sparing pool := by
    refine reached.invariant Sparing ?_ fun sparing admitted moved => sparing.turn admitted moved
    refine ⟨?_, fun n => initNode_instanceId (configs n), ?_, ?_⟩
    · intro thread member
      cases member
    · intro nodeId record found
      cases found
    · intro entry member
      cases member
  exact sparing.spared

/-- All turns of one thread after another. -/
def turns (number count : ℕ) : List (Turn RegistryEvent) := List.replicate count (.thread number)

/-- A node binds a user and comes up again; another node takes the session for a
leftover. -/
def leftover : List (Turn RegistryEvent) :=
  .environment (.call 0 .register) :: turns 0 6 ++
    .environment (.call 0 (.bindUser 7)) :: turns 1 5 ++
    .environment (.restart 0 { twoNodes 0 with systemMs := 1500 }) :: turns 2 6 ++
    .environment (.call 1 (.queryUserNode 7)) :: turns 3 13

theorem lookups_spare_live_leftover :
    ∃ pool, freshnessSystem.machine.runWithin GroundsFresh ⟨.start 0 twoNodes, []⟩ leftover =
        some pool ∧ pool.state.deleted = [(7, false)] ∧
      ∀ entry ∈ pool.state.deleted, entry.2 = false := by
  have ran : ((freshnessSystem.machine.runWithin GroundsFresh ⟨.start 0 twoNodes, []⟩
      leftover).any fun pool => decide (pool.state.deleted = [(7, false)])) = true := by
    decide +kernel
  obtain ⟨pool, ran, deleted⟩ := (Option.any_eq_true _ _).mp ran
  exact ⟨pool, ran, of_decide_eq_true deleted,
    lookups_spare_live 0 twoNodes (.of_runWithin .refl ran)⟩

/-- A node looks up another, which then comes up again and binds a user; the first
node still has the old instance in its cache. -/
def overtaken : List (Turn RegistryEvent) :=
  .environment (.call 0 .register) :: turns 0 6 ++
    .environment (.call 1 (.queryNode (twoNodes 0).selfNode.nodeId)) :: turns 1 5 ++
    .environment (.restart 0 { twoNodes 0 with systemMs := 1500 }) :: turns 2 6 ++
    .environment (.call 0 (.bindUser 7)) :: turns 3 5 ++
    .environment (.call 1 (.queryUserNode 7)) :: turns 4 8

/-- The session of the running instance is deleted. -/
theorem overtaken_loses_live :
    ¬∀ pool, freshnessSystem.machine.run ⟨.start 0 twoNodes, []⟩ overtaken = some pool →
      ∀ entry ∈ pool.state.deleted, entry.2 = false := by
  intro spared
  have ran : ((freshnessSystem.machine.run ⟨.start 0 twoNodes, []⟩ overtaken).any fun pool =>
      decide (pool.state.deleted = [(7, true)])) = true := by decide +kernel
  obtain ⟨pool, ran, deleted⟩ := (Option.any_eq_true _ _).mp ran
  have lost : (7, true) ∈ pool.state.deleted := by
    rw [of_decide_eq_true deleted]
    exact List.mem_singleton_self _
  exact Bool.false_ne_true (spared pool ran _ lost).symm

end Freshness

end ClusterChat
