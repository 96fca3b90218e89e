/-
# What one step changes

A call of a handler writes to one place: Redis, the caches of a node, its
connection table, a delivery queue, a channel or the database. What happens besides
the calls of handlers touches neither Redis nor the connection tables, and of the
database only the tables that other models write.
-/

import ClusterChat.Service.Cluster
import Mathlib.Data.List.Perm.Basic

namespace ClusterChat

/-! ### The order of a hash map -/

/-- Whatever the order, every item is gone through once. -/
theorem arrange_perm {α : Type} (order : List ℕ) (items : List α) :
    (arrange order items).Perm items := by
  induction order generalizing items with
  | nil => cases items <;> exact .refl _
  | cons choice order ih =>
    cases items with
    | nil => exact .refl _
    | cons item rest =>
      have bound : choice % (rest.length + 1) < (item :: rest).length :=
        Nat.mod_lt _ (Nat.succ_pos _)
      rw [arrange]
      rw [List.getElem?_eq_getElem bound, Option.toList_some]
      exact ((ih _).cons _).trans (List.getElem_cons_eraseIdx_perm bound)

theorem mem_arrange {α : Type} {order : List ℕ} {items : List α} {item : α} :
    item ∈ arrange order items ↔ item ∈ items :=
  (arrange_perm order items).mem_iff

namespace RegistryState

/-- What a call of the registry makes of Redis. -/
def storeAfter (state : RegistryState) : {β : Type} → RegistryCall β → RedisStore
  | _, .redis (.command command) => (state.store.exec state.clockMs command).2
  | _, _ => state.store

theorem exec_selfNode (node : RegistryNode) {β : Type} (call : NodeCall β) :
    (node.exec call).2.selfNode = node.selfNode := by
  cases call with
  | getCachedUserNode userId =>
    simp only [RegistryNode.exec]
    split <;> rfl
  | getCachedNode nodeId =>
    simp only [RegistryNode.exec]
    split <;> rfl
  | cacheUserNode userId nodeId instanceId => rfl
  | eraseCachedUserNode caller userId => rfl
  | cacheNode nodeMeta => rfl
  | eraseCachedNode nodeId => rfl
  | clearCaches => rfl
  | systemMs => rfl

/-- A call of the registry writes to Redis by its command alone; Redis' clock does
not move, and the node stays the same one. -/
theorem exec_writes {number : ℕ} {β : Type} {call : RegistryCall β} {state after : RegistryState}
    {answer : β} (ran : exec number call state = some (answer, after)) :
    after.store = state.storeAfter call ∧ after.clockMs = state.clockMs ∧
      after.node.selfNode = state.node.selfNode := by
  cases call with
  | redis call =>
    cases call with
    | client call =>
      cases call with
      | lock =>
        simp only [exec] at ran
        split at ran
        · obtain ⟨-, rfl⟩ := Prod.mk.inj (Option.some.inj ran)
          exact ⟨rfl, rfl, rfl⟩
        · cases ran
      | unlock =>
        obtain ⟨-, rfl⟩ := Prod.mk.inj (Option.some.inj ran)
        exact ⟨rfl, rfl, rfl⟩
      | time =>
        obtain ⟨-, rfl⟩ := Prod.mk.inj (Option.some.inj ran)
        exact ⟨rfl, rfl, rfl⟩
    | command command =>
      obtain ⟨-, rfl⟩ := Prod.mk.inj (Option.some.inj ran)
      exact ⟨rfl, rfl, rfl⟩
  | node call =>
    obtain ⟨-, rfl⟩ := Prod.mk.inj (Option.some.inj ran)
    exact ⟨rfl, rfl, exec_selfNode state.node call⟩

end RegistryState

namespace Cluster

/-- What a call makes of Redis. -/
def storeAfter (cluster : Cluster) : {β : Type} → ServerCall β → RedisStore
  | _, .registry (.redis (.command command)) => (cluster.store.exec cluster.clockMs command).2
  | _, _ => cluster.store

/-- What a call makes of the database. -/
def databaseAfter (cluster : Cluster) : {β : Type} → ServerCall β → Database
  | _, .database call => (cluster.database.exec call).2
  | _, _ => cluster.database

/-- What a call makes of the connection tables. -/
def tableAfter (cluster : Cluster) (number : ℕ) (job : Job) :
    {β : Type} → ServerCall β → ℕ → UserId → Option LocalEntry
  | _, .service call => (cluster.execService number job call).2.localEntry
  | _, _ => cluster.localEntry

variable {cluster after : Cluster} {number : ℕ} {job : Job}

/-- Redis, the database, the registries of the nodes and the order of hash maps are
the same. -/
structure SameStores (cluster after : Cluster) : Prop where
  store : after.store = cluster.store
  database : after.database = cluster.database
  registry : ∀ n, (after.nodes n).registry = (cluster.nodes n).registry

theorem SameStores.refl (cluster : Cluster) : cluster.SameStores cluster := ⟨rfl, rfl, fun _ => rfl⟩

/-- A node has changed, but not its registry. -/
theorem SameStores.withNode (n : ℕ) {node : ServerNode}
    (registry : node.registry = (cluster.nodes n).registry) :
    cluster.SameStores (cluster.withNode n node) := by
  refine ⟨rfl, rfl, fun m => ?_⟩
  by_cases same : m = n
  · subst same
    simpa [Cluster.withNode] using registry
  · simp [Cluster.withNode, same]

theorem withNode_localEntry (n : ℕ) {node : ServerNode}
    (table : node.userConnMap = (cluster.nodes n).userConnMap) :
    (cluster.withNode n node).localEntry = cluster.localEntry := by
  funext m userId
  by_cases same : m = n
  · subst same
    simp [localEntry, withNode, table]
  · simp [localEntry, withNode, same]

theorem putRegistry_localEntry (n : ℕ) (state : RegistryState) :
    (cluster.putRegistry n state).localEntry = cluster.localEntry :=
  withNode_localEntry n rfl

theorem execService_same {β : Type} (call : ServiceCall β) :
    cluster.SameStores (cluster.execService number job call).2 := by
  cases call with
  | addLocalConnection userId conn => exact .withNode job.node rfl
  | removeLocalConnection userId => exact .withNode job.node rfl
  | removeFromBucket bucket conn =>
    simp only [execService]
    split
    · exact .refl cluster
    · exact .withNode job.node rfl
  | getLocalConnection userId => exact .refl cluster
  | getOrCreateLocalDispatcher loop =>
    simp only [execService]
    split
    · exact .refl cluster
    · exact ⟨rfl, rfl, fun _ => rfl⟩
  | send conn outgoing =>
    simp only [execService, send]
    split <;> exact ⟨rfl, rfl, fun _ => rfl⟩
  | iterationOrder => exact .refl cluster

theorem execRouter_same {β : Type} (call : RouterCall β) :
    cluster.SameStores (cluster.execRouter job call).2 ∧
      (cluster.execRouter job call).2.localEntry = cluster.localEntry := by
  cases call with
  | warm nodeId instanceId =>
    simp only [execRouter]
    split
    · exact ⟨.refl cluster, rfl⟩
    · exact ⟨.withNode job.node rfl, withNode_localEntry job.node rfl⟩
  | findChannel channelKey interIp interPort =>
    simp only [execRouter]
    split
    · exact ⟨.refl cluster, rfl⟩
    · split
      · exact ⟨.refl cluster, rfl⟩
      · split
        · exact ⟨.refl cluster, rfl⟩
        · exact ⟨.withNode job.node rfl, withNode_localEntry job.node rfl⟩
  | createChannel nodeMeta => exact ⟨⟨rfl, rfl, fun _ => rfl⟩, rfl⟩
  | publishChannel channelKey channel =>
    simp only [execRouter]
    split
    · exact ⟨.refl cluster, rfl⟩
    · exact ⟨.withNode job.node rfl, withNode_localEntry job.node rfl⟩
  | takeChannels => exact ⟨.withNode job.node rfl, withNode_localEntry job.node rfl⟩

/-- **What a call writes.** -/
theorem exec_writes {β : Type} {call : ServerCall β} {answer : β}
    (ran : exec number job call cluster = some (answer, after)) :
    after.store = cluster.storeAfter call ∧ after.database = cluster.databaseAfter call ∧
      after.localEntry = cluster.tableAfter number job call := by
  cases call with
  | registry call =>
    simp only [exec] at ran
    obtain ⟨⟨value, state⟩, acted, ran⟩ := Option.map_eq_some_iff.mp ran
    obtain ⟨-, rfl⟩ := Prod.mk.inj ran
    refine ⟨?_, rfl, putRegistry_localEntry job.node state⟩
    have written := (RegistryState.exec_writes acted).1
    rw [show (cluster.view job.node).storeAfter call = cluster.storeAfter (.registry call) from ?_]
      at written
    · exact written
    · cases call with
      | redis call => cases call <;> rfl
      | node call => rfl
  | service call =>
    obtain ⟨-, rfl⟩ := Prod.mk.inj (Option.some.inj ran)
    exact ⟨(execService_same call).store, (execService_same call).database, rfl⟩
  | dispatch index call =>
    simp only [exec] at ran
    split at ran
    · cases ran
    · obtain ⟨⟨value, queue⟩, -, ran⟩ := Option.map_eq_some_iff.mp ran
      obtain ⟨-, rfl⟩ := Prod.mk.inj ran
      exact ⟨rfl, rfl, rfl⟩
  | router call =>
    obtain ⟨-, rfl⟩ := Prod.mk.inj (Option.some.inj ran)
    have same := (execRouter_same call : cluster.SameStores (cluster.execRouter job call).2 ∧ _)
    exact ⟨same.1.store, same.1.database, same.2⟩
  | channel index call =>
    simp only [exec] at ran
    split at ran
    · cases ran
    · obtain ⟨⟨value, queue⟩, -, ran⟩ := Option.map_eq_some_iff.mp ran
      obtain ⟨-, rfl⟩ := Prod.mk.inj ran
      exact ⟨rfl, rfl, rfl⟩
  | database call =>
    obtain ⟨-, rfl⟩ := Prod.mk.inj (Option.some.inj ran)
    exact ⟨rfl, rfl, rfl⟩

/-! ### One user's entry -/

/-- The user is connected to the node by this connection. -/
def Connected (cluster : Cluster) (n : ℕ) (userId : UserId) (conn : Connection) : Prop :=
  ∃ entry, cluster.localEntry n userId = some entry ∧ entry.conn = conn

instance (n : ℕ) (userId : UserId) (conn : Connection) :
    Decidable (cluster.Connected n userId conn) :=
  inferInstanceAs (Decidable (∃ entry ∈ cluster.localEntry n userId, entry.conn = conn))

/-- The call of a job is about the user's entry in the connection table of a node. -/
def Touches (cluster : Cluster) (n : ℕ) (userId : UserId) (job : Job) :
    {β : Type} → ServerCall β → Prop
  | _, .service (.addLocalConnection added _) => job.node = n ∧ added = userId
  | _, .service (.removeLocalConnection removed) => job.node = n ∧ removed = userId
  | _, .service (.removeFromBucket _ conn) => job.node = n ∧ cluster.Connected n userId conn
  | _, _ => False

instance (n : ℕ) (userId : UserId) (job : Job) :
    {β : Type} → (call : ServerCall β) → Decidable (cluster.Touches n userId job call)
  | _, .service (.addLocalConnection added _) =>
    inferInstanceAs (Decidable (job.node = n ∧ added = userId))
  | _, .service (.removeLocalConnection removed) =>
    inferInstanceAs (Decidable (job.node = n ∧ removed = userId))
  | _, .service (.removeFromBucket _ conn) =>
    inferInstanceAs (Decidable (job.node = n ∧ cluster.Connected n userId conn))
  | _, .service (.getLocalConnection _) => .isFalse id
  | _, .service (.getOrCreateLocalDispatcher _) => .isFalse id
  | _, .service (.send _ _) => .isFalse id
  | _, .service .iterationOrder => .isFalse id
  | _, .registry _ => .isFalse id
  | _, .dispatch _ _ => .isFalse id
  | _, .router _ => .isFalse id
  | _, .channel _ _ => .isFalse id
  | _, .database _ => .isFalse id

theorem withNode_localEntry_of_lookup (n : ℕ) {node : ServerNode} {m : ℕ} {userId : UserId}
    (kept : m = n → node.userConnMap.lookup userId = (cluster.nodes n).userConnMap.lookup userId) :
    (cluster.withNode n node).localEntry m userId = cluster.localEntry m userId := by
  by_cases same : m = n
  · subst same
    simpa [localEntry, withNode] using kept rfl
  · simp [localEntry, withNode, same]

/-- A call that is not about a user's entry leaves it. -/
theorem localEntry_of_untouched {β : Type} {call : ServerCall β} {answer : β}
    (ran : exec number job call cluster = some (answer, after)) {n : ℕ} {userId : UserId}
    (untouched : ¬cluster.Touches n userId job call) :
    after.localEntry n userId = cluster.localEntry n userId := by
  rw [(exec_writes ran).2.2]
  cases call with
  | service call =>
    cases call with
    | addLocalConnection added conn =>
      apply withNode_localEntry_of_lookup
      intro same
      exact AList.lookup_insert_ne fun other => untouched ⟨same.symm, other.symm⟩
    | removeLocalConnection removed =>
      apply withNode_localEntry_of_lookup
      intro same
      exact AList.lookup_erase_ne fun other => untouched ⟨same.symm, other.symm⟩
    | removeFromBucket bucket conn =>
      simp only [tableAfter, execService]
      split
      · rfl
      · rename_i entry found
        apply withNode_localEntry_of_lookup
        intro same
        apply AList.lookup_erase_ne
        rintro rfl
        -- the entry that is found is one of the connection's
        have member := mem_arrange.mp (List.mem_of_find?_eq_some found)
        have fits := List.find?_some found
        have held : cluster.localEntry n entry.1 = some entry.2 := by
          rw [same]
          exact AList.mem_lookup_iff.mpr member
        exact untouched ⟨same.symm, entry.2, held, (of_decide_eq_true fits).2⟩
    | getOrCreateLocalDispatcher loop =>
      simp only [tableAfter, execService]
      split <;> rfl
    | send conn outgoing =>
      simp only [tableAfter, execService, send]
      split <;> rfl
    | _ => rfl
  | _ => rfl

/-- No call gives a node another name. -/
theorem exec_selfNode {β : Type} {call : ServerCall β} {answer : β}
    (ran : exec number job call cluster = some (answer, after)) (n : ℕ) :
    (after.nodes n).registry.selfNode = (cluster.nodes n).registry.selfNode := by
  cases call with
  | registry call =>
    simp only [exec] at ran
    obtain ⟨⟨value, state⟩, acted, ran⟩ := Option.map_eq_some_iff.mp ran
    obtain ⟨-, rfl⟩ := Prod.mk.inj ran
    have kept := (RegistryState.exec_writes acted).2.2
    by_cases same : n = job.node
    · subst same
      simpa [putRegistry, withNode, view] using kept
    · simp [putRegistry, withNode, same]
  | service call =>
    obtain ⟨-, rfl⟩ := Prod.mk.inj (Option.some.inj ran)
    exact congrArg _ ((execService_same call).registry n)
  | dispatch index call =>
    simp only [exec] at ran
    split at ran
    · cases ran
    · obtain ⟨⟨value, queue⟩, -, ran⟩ := Option.map_eq_some_iff.mp ran
      obtain ⟨-, rfl⟩ := Prod.mk.inj ran
      rfl
  | router call =>
    obtain ⟨-, rfl⟩ := Prod.mk.inj (Option.some.inj ran)
    exact congrArg _ ((execRouter_same call).1.registry n)
  | channel index call =>
    simp only [exec] at ran
    split at ran
    · cases ran
    · obtain ⟨⟨value, queue⟩, -, ran⟩ := Option.map_eq_some_iff.mp ran
      obtain ⟨-, rfl⟩ := Prod.mk.inj ran
      rfl
  | database call =>
    obtain ⟨-, rfl⟩ := Prod.mk.inj (Option.some.inj ran)
    rfl

/-! ### The environment -/

/-- What an event makes of the database. -/
def databaseWith (database : Database) : ClusterEvent → Database
  | .tables users friends groups =>
    { database with users := users, friends := friends, groups := groups }
  | _ => database

theorem drainStep_same {index drain : ℕ} (moved : cluster.drainStep index drain = some after) :
    cluster.SameStores after ∧ after.localEntry = cluster.localEntry := by
  simp only [drainStep] at moved
  obtain ⟨dispatcher, -, moved⟩ := Option.bind_eq_some_iff.mp moved
  obtain ⟨queue, -, rfl⟩ := Option.map_eq_some_iff.mp moved
  split
  · exact ⟨⟨rfl, rfl, fun _ => rfl⟩, rfl⟩
  · rw [send]
    split <;> exact ⟨⟨rfl, rfl, fun _ => rfl⟩, rfl⟩

/-- **What an event writes**, and the jobs it starts. -/
theorem environment_writes {event : ClusterEvent} {jobs : List (Job × Calls ServerCall Unit)}
    (acted : clusterSystem.environment event cluster = some (after, jobs)) :
    after.store = cluster.store ∧ after.database = databaseWith cluster.database event ∧
      after.localEntry = cluster.localEntry ∧
      (∀ n, (after.nodes n).registry.selfNode = (cluster.nodes n).registry.selfNode) ∧
      ∀ job ∈ jobs, ∃ n loop handler, job = cluster.job n loop handler := by
  have one : ∀ n loop handler, ∀ job ∈ [cluster.job n loop handler],
      ∃ n loop handler, job = cluster.job n loop handler := by
    intro n loop handler job listed
    exact ⟨n, loop, handler, List.mem_singleton.mp listed⟩
  have started : ∀ n loop handler,
      some (cluster, [cluster.job n loop handler]) = some (after, jobs) →
      after = cluster ∧ ∀ job ∈ jobs, ∃ n loop handler, job = cluster.job n loop handler := by
    intro n loop handler acted
    obtain ⟨rfl, rfl⟩ := Prod.mk.inj (Option.some.inj acted)
    exact ⟨rfl, one n loop handler⟩
  -- the handlers write in their own calls, so an event only hands them over
  cases event with
  | initNode n loop =>
    obtain ⟨rfl, jobs⟩ := started n loop _ acted
    exact ⟨rfl, rfl, rfl, fun _ => rfl, jobs⟩
  | heartbeat n loop =>
    obtain ⟨rfl, jobs⟩ := started n loop _ acted
    exact ⟨rfl, rfl, rfl, fun _ => rfl, jobs⟩
  | closeAll n loop =>
    obtain ⟨rfl, jobs⟩ := started n loop _ acted
    exact ⟨rfl, rfl, rfl, fun _ => rfl, jobs⟩
  | reset n loop =>
    obtain ⟨rfl, jobs⟩ := started n loop _ acted
    exact ⟨rfl, rfl, rfl, fun _ => rfl, jobs⟩
  | connect n loop =>
    obtain ⟨rfl, rfl⟩ := Prod.mk.inj (Option.some.inj acted)
    exact ⟨rfl, rfl, rfl, fun _ => rfl, List.forall_mem_nil _⟩
  | disconnect id =>
    -- a connection closes once, and its close callback runs on its loop
    simp only [clusterSystem] at acted
    split at acted
    · cases acted
    · split at acted
      · obtain ⟨rfl, rfl⟩ := Prod.mk.inj (Option.some.inj acted)
        exact ⟨rfl, rfl, rfl, fun _ => rfl, one _ _ _⟩
      · cases acted
  | request id request =>
    simp only [clusterSystem] at acted
    split at acted
    · cases acted
    · obtain ⟨rfl, rfl⟩ := Prod.mk.inj (Option.some.inj acted)
      exact ⟨rfl, rfl, rfl, fun _ => rfl, one _ _ _⟩
  | receive index n loop =>
    -- a frame leaves the wire of its channel for the handler that takes it
    obtain ⟨⟨frame, received⟩, taken, acted⟩ := Option.map_eq_some_iff.mp acted
    obtain ⟨rfl, rfl⟩ := Prod.mk.inj acted
    obtain ⟨channel, -, taken⟩ := Option.bind_eq_some_iff.mp taken
    dsimp only at taken
    split at taken
    · obtain ⟨⟨frame', queue⟩, -, taken⟩ := Option.map_eq_some_iff.mp taken
      obtain ⟨rfl, rfl⟩ := Prod.mk.inj taken
      exact ⟨rfl, rfl, rfl, fun _ => rfl, one _ _ _⟩
    · cases taken
  | move index move =>
    obtain ⟨channel, -, acted⟩ := Option.bind_eq_some_iff.mp acted
    obtain ⟨queue, -, acted⟩ := Option.map_eq_some_iff.mp acted
    obtain ⟨rfl, rfl⟩ := Prod.mk.inj acted
    exact ⟨rfl, rfl, rfl, fun _ => rfl, List.forall_mem_nil _⟩
  | runQueued index =>
    obtain ⟨dispatcher, -, acted⟩ := Option.bind_eq_some_iff.mp acted
    obtain ⟨queue, -, acted⟩ := Option.map_eq_some_iff.mp acted
    obtain ⟨rfl, rfl⟩ := Prod.mk.inj acted
    exact ⟨rfl, rfl, rfl, fun _ => rfl, List.forall_mem_nil _⟩
  | drainStep index drain =>
    obtain ⟨drained, moved, acted⟩ := Option.map_eq_some_iff.mp acted
    obtain ⟨rfl, rfl⟩ := Prod.mk.inj acted
    -- a drain sends, and clears no entry
    obtain ⟨same, table⟩ := drainStep_same moved
    refine ⟨same.store, same.database, table, ?_, List.forall_mem_nil _⟩
    exact fun n => congrArg _ (same.registry n)
  | tables users friends groups =>
    obtain ⟨rfl, rfl⟩ := Prod.mk.inj (Option.some.inj acted)
    exact ⟨rfl, rfl, rfl, fun _ => rfl, List.forall_mem_nil _⟩
  | iterate order =>
    obtain ⟨rfl, rfl⟩ := Prod.mk.inj (Option.some.inj acted)
    exact ⟨rfl, rfl, rfl, fun _ => rfl, List.forall_mem_nil _⟩
  | wait n ms =>
    obtain ⟨rfl, rfl⟩ := Prod.mk.inj (Option.some.inj acted)
    refine ⟨rfl, rfl, withNode_localEntry n rfl, ?_, List.forall_mem_nil _⟩
    intro m
    by_cases same : m = n
    · subst same
      simp [wait, withNode]
    · simp [wait, withNode, same]
  | waitRedis ms =>
    obtain ⟨rfl, rfl⟩ := Prod.mk.inj (Option.some.inj acted)
    exact ⟨rfl, rfl, rfl, fun _ => rfl, List.forall_mem_nil _⟩

end Cluster

end ClusterChat
