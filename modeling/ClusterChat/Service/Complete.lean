/-
# What complete handlers do

A handler that runs to its end with no other step in between has a plain effect on
the cluster. What it does through the registry is what the registry's methods do to
Redis and to the caches of the node; nothing else of the cluster takes part.
-/

import ClusterChat.Registry.Complete
import ClusterChat.Service.Steps

namespace ClusterChat

open ChatService

theorem pickConnBucket_lt (userId : UserId) : pickConnBucket userId < 64 :=
  Nat.mod_lt _ (by omega)

namespace Cluster

/-- The cluster after calls of a node's registry, with the routes that were dropped
on the way. -/
def afterRegistry (cluster : Cluster) (n : ℕ) (state : RegistryState)
    (drops : List (ℕ × UserId × Bool)) : Cluster :=
  { cluster.putRegistry n state with droppedRoutes := cluster.droppedRoutes ++ drops }

section AfterRegistry

variable (cluster : Cluster) (n : ℕ) (state : RegistryState) (drops : List (ℕ × UserId × Bool))

@[simp] theorem afterRegistry_store : (cluster.afterRegistry n state drops).store = state.store :=
  rfl

@[simp] theorem afterRegistry_database :
    (cluster.afterRegistry n state drops).database = cluster.database := rfl

@[simp] theorem afterRegistry_userConnMap (m : ℕ) :
    ((cluster.afterRegistry n state drops).nodes m).userConnMap =
      (cluster.nodes m).userConnMap := by
  by_cases same : m = n
  · subst same
    simp [afterRegistry, putRegistry, withNode]
  · simp [afterRegistry, putRegistry, withNode, same]

@[simp] theorem afterRegistry_localEntry (m : ℕ) (userId : UserId) :
    (cluster.afterRegistry n state drops).localEntry m userId = cluster.localEntry m userId := by
  rw [localEntry, localEntry, afterRegistry_userConnMap]

theorem afterRegistry_view (still : state.clockMs = cluster.clockMs) :
    (cluster.afterRegistry n state drops).view n = state := by
  simp [afterRegistry, putRegistry, withNode, view, ← still]

theorem afterRegistry_again (state' : RegistryState) (drops' : List (ℕ × UserId × Bool)) :
    (cluster.afterRegistry n state drops).afterRegistry n state' drops' =
      cluster.afterRegistry n state' (drops ++ drops') := by
  simp [afterRegistry, putRegistry, withNode]

theorem afterRegistry_self : cluster.afterRegistry n (cluster.view n) [] = cluster := by
  simp [afterRegistry, putRegistry, withNode, view]

end AfterRegistry

variable {cluster : Cluster} {number : ℕ} {job : Job}

theorem exec_registry {β : Type} {call : RegistryCall β} {answer : β} {state : RegistryState}
    (ran : RegistryState.exec number call (cluster.view job.node) = some (answer, state)) :
    exec number job (.registry call) cluster =
      some (answer, cluster.afterRegistry job.node state (cluster.routeDrop job call)) := by
  simp only [exec, ran, Option.map_some, afterRegistry]

/-- A method of the registry does to Redis and to the node of the handler what it
does by itself. -/
theorem ends_registry {α : Type} {program : Calls RegistryCall α} {post : α → RegistryState → Prop}
    (ends : program.Ends (RegistryState.exec number) post (cluster.view job.node)) :
    (registry program).Ends (exec number job)
      (fun answer after => ∃ state drops, post answer state ∧
        after = cluster.afterRegistry job.node state drops) cluster := by
  induction program generalizing cluster with
  | ret value =>
    refine Calls.ends_ret.mpr ⟨cluster.view job.node, [], Calls.ends_ret.mp ends, ?_⟩
    exact (cluster.afterRegistry_self job.node).symm
  | call request next ih =>
    obtain ⟨answer, state, ran, rest⟩ := Calls.ends_call.mp ends
    refine Calls.ends_call.mpr ⟨answer, _, exec_registry ran, ?_⟩
    have still := (RegistryState.exec_writes ran).2.1
    rw [← cluster.afterRegistry_view job.node state (cluster.routeDrop job request) still] at rest
    refine (ih answer rest).mono ?_
    rintro value after ⟨state', drops, holds, rfl⟩
    exact ⟨state', _, holds, cluster.afterRegistry_again ..⟩

/-! ### Logging out -/

theorem unbindUser_ends (free : (cluster.view job.node).Free) (server : Server) (userId : UserId) :
    (unbindUser server userId).Ends (exec number job)
      (fun _ after => ∃ state drops,
        state.store = cluster.store.unbound userId server.selfNode.nodeId ∧
          after = cluster.afterRegistry job.node state drops) cluster := by
  rw [unbindUser]
  refine (ends_registry (RegistryState.unbindUser_ends free server.selfNode userId)).andThen ?_
  rintro - after ⟨state, drops, ⟨store, -, -⟩, rfl⟩
  exact Calls.ends_ret.mpr ⟨state, drops, store, rfl⟩

/-- A handler waits for the Redis client of its node. -/
theorem unbindUser_waits (busy : ¬(cluster.view job.node).Free) (server : Server)
    (userId : UserId) : (unbindUser server userId).eval (exec number job) cluster = none := by
  have held : ((cluster.nodes job.node).registry.eraseRoute userId).commandHolder ≠ none := busy
  obtain ⟨holder, held⟩ := Option.ne_none_iff_exists'.mp held
  simp [unbindUser, registry, NodeRegistry.unbindUser, NodeRegistry.redis, Redis.unbindUserNode,
    Redis.locked, exec, RegistryState.exec, RegistryNode.exec, putRegistry, withNode, view, held]

theorem unbindUser_free {server : Server} {userId : UserId} {result : Unit × Cluster}
    (ran : (unbindUser server userId).eval (exec number job) cluster = some result) :
    (cluster.view job.node).Free := by
  by_contra busy
  rw [unbindUser_waits busy] at ran
  cases ran

/-- The user has left the node: its entry in the connection table is gone, it is
unbound from the node, and the database has it offline. -/
structure Departed (cluster : Cluster) (n : ℕ) (userId : UserId) (after : Cluster) : Prop where
  store : after.store = cluster.store.unbound userId (cluster.nodes n).registry.selfNode.nodeId
  localEntry : ∀ m other, after.localEntry m other =
    if m = n ∧ other = userId then none else cluster.localEntry m other
  database : after.database = cluster.database.updateState userId offline

/-- The cluster after a node's connection table has lost a user. -/
def dropEntry (cluster : Cluster) (n : ℕ) (userId : UserId) : Cluster :=
  cluster.withNode n
    { cluster.nodes n with userConnMap := (cluster.nodes n).userConnMap.erase userId }

theorem dropEntry_localEntry (n : ℕ) (userId : UserId) (m : ℕ) (other : UserId) :
    (cluster.dropEntry n userId).localEntry m other =
      if m = n ∧ other = userId then none else cluster.localEntry m other := by
  by_cases node : m = n
  · subst node
    by_cases user : other = userId
    · subst user
      simp [dropEntry, withNode, localEntry]
    · simp [dropEntry, withNode, localEntry, user, AList.lookup_erase_ne]
  · simp [dropEntry, withNode, localEntry, node]

@[simp] theorem dropEntry_view_free (n : ℕ) (userId : UserId) :
    ((cluster.dropEntry n userId).view n).Free ↔ (cluster.view n).Free := by
  simp [dropEntry, withNode, view, RegistryState.Free]

/-- What follows the removal of a user's entry, in `logout` and at the close of a
connection. -/
theorem departure_ends (free : (cluster.view job.node).Free) (userId : UserId) :
    (unbindUser (cluster.server job.node) userId >>= fun _ =>
        ClusterChat.database (.updateState userId offline)).Ends (exec number job)
      (fun _ => cluster.Departed job.node userId) (cluster.dropEntry job.node userId) := by
  have free' := (dropEntry_view_free job.node userId).mpr free
  refine (unbindUser_ends free' (cluster.server job.node) userId).andThen ?_
  rintro - after ⟨state, drops, store, rfl⟩
  refine Calls.ends_call.mpr ⟨(), _, rfl, Calls.ends_ret.mpr ⟨store, ?_, rfl⟩⟩
  intro m other
  exact (afterRegistry_localEntry _ job.node state drops m other).trans
    (dropEntry_localEntry job.node userId m other)

theorem logout_ends (free : (cluster.view job.node).Free) (userId : UserId) :
    (logout (cluster.server job.node) userId).Ends (exec number job)
      (fun _ => cluster.Departed job.node userId) cluster := by
  rw [logout, service_bind]
  exact Calls.ends_call.mpr ⟨(), _, rfl, departure_ends free userId⟩

/-- A logout that has run to its end has taken its user off the node. -/
theorem logout_after {userId : UserId} {value : Unit} {after : Cluster}
    (ran : (logout (cluster.server job.node) userId).eval (exec number job) cluster =
      some (value, after)) : cluster.Departed job.node userId after := by
  have whole := ran
  rw [logout, service_bind, Calls.eval_call] at ran
  obtain ⟨result, removed, ran⟩ := Option.bind_eq_some_iff.mp ran
  obtain rfl := Option.some.inj removed
  rw [Calls.eval_bind] at ran
  obtain ⟨unbound, ran, -⟩ := Option.bind_eq_some_iff.mp ran
  have free := (dropEntry_view_free job.node userId).mp (unbindUser_free ran)
  exact (logout_ends free userId).of_eval whole

/-! ### The close of a connection -/

/-- What the search of the buckets for a connection comes to. -/
theorem removeFromBuckets_ends (conn : Connection) (buckets : List ℕ) :
    (removeFromBuckets conn buckets).Ends (exec number job)
      (fun answer after =>
        answer = -1 ∧ after = cluster ∧ (∀ userId, cluster.Connected job.node userId conn →
          pickConnBucket userId ∉ buckets) ∨
        cluster.Connected job.node answer conn ∧ after = cluster.dropEntry job.node answer)
      cluster := by
  induction buckets with
  | nil => exact Calls.ends_ret.mpr (.inl ⟨rfl, rfl, fun _ _ => List.not_mem_nil⟩)
  | cons bucket rest ih =>
    rw [removeFromBuckets, service_bind]
    have held : ∀ userId entry, ⟨userId, entry⟩ ∈
        arrange cluster.iterationOrder (cluster.nodes job.node).userConnMap.entries ↔
          cluster.localEntry job.node userId = some entry := by
      intro userId entry
      rw [mem_arrange]
      exact AList.mem_lookup_iff.symm
    cases found :
      (arrange cluster.iterationOrder (cluster.nodes job.node).userConnMap.entries).find?
        fun entry => pickConnBucket entry.1 = bucket ∧ entry.2.conn = conn with
    | none =>
      refine Calls.ends_call.mpr ⟨none, cluster, ?_, ih.mono ?_⟩
      · simp only [exec, execService, found]
      · rintro answer after (⟨rfl, rfl, absent⟩ | removed)
        · refine .inl ⟨rfl, rfl, ?_⟩
          rintro userId ⟨entry, present, same⟩ member
          rcases List.mem_cons.mp member with here | later
          · have fits := List.find?_eq_none.mp found _ ((held userId entry).mpr present)
            exact fits (decide_eq_true ⟨here, same⟩)
          · exact absent userId ⟨entry, present, same⟩ later
        · exact .inr removed
    | some entry =>
      refine Calls.ends_call.mpr ⟨some entry.1, cluster.dropEntry job.node entry.1, ?_,
        Calls.ends_ret.mpr (.inr ⟨⟨entry.2, ?_, ?_⟩, rfl⟩)⟩
      · simp only [exec, execService, found, dropEntry]
      · exact (held entry.1 entry.2).mp (List.mem_of_find?_eq_some found)
      · have fits := List.find?_some found
        exact (of_decide_eq_true fits).2

/-- Of the users of a connection one is removed, where there is one. -/
theorem removeLocalConnectionByConn_ends (conn : Connection) :
    (removeLocalConnectionByConn conn).Ends (exec number job)
      (fun answer after =>
        answer = -1 ∧ after = cluster ∧ (∀ userId, ¬cluster.Connected job.node userId conn) ∨
        cluster.Connected job.node answer conn ∧ after = cluster.dropEntry job.node answer)
      cluster := by
  refine (removeFromBuckets_ends conn (List.range 64)).mono ?_
  rintro answer after (⟨rfl, rfl, absent⟩ | removed)
  · refine .inl ⟨rfl, rfl, fun userId present => absent userId present ?_⟩
    exact List.mem_range.mpr (pickConnBucket_lt userId)
  · exact .inr removed

/-- What the close of a connection comes to: it finds no user, or removes one. The
user `-1` is not unbound. -/
def Closed (cluster : Cluster) (n : ℕ) (conn : Connection) (after : Cluster) : Prop :=
  after = cluster ∧ (∀ userId, ¬cluster.Connected n userId conn) ∨
    cluster.Connected n (-1) conn ∧ after = cluster.dropEntry n (-1) ∨
    ∃ userId, userId ≠ -1 ∧ cluster.Connected n userId conn ∧ cluster.Departed n userId after

theorem clientCloseException_ends (free : (cluster.view job.node).Free) (conn : Connection) :
    (clientCloseException (cluster.server job.node) conn).Ends (exec number job)
      (fun _ => cluster.Closed job.node conn) cluster := by
  rw [clientCloseException]
  refine (removeLocalConnectionByConn_ends conn).andThen ?_
  rintro userId after (⟨rfl, rfl, absent⟩ | ⟨present, rfl⟩)
  · rw [if_neg fun differ => differ rfl]
    exact Calls.ends_ret.mpr (.inl ⟨rfl, absent⟩)
  · by_cases nobody : userId = -1
    · subst nobody
      rw [if_neg fun differ => differ rfl]
      exact Calls.ends_ret.mpr (.inr (.inl ⟨present, rfl⟩))
    · rw [if_pos nobody]
      refine (departure_ends free userId).mono ?_
      intro _ after departed
      exact .inr (.inr ⟨userId, nobody, present, departed⟩)

theorem clientCloseException_after {conn : Connection} {value : Unit} {after : Cluster}
    (ran : (clientCloseException (cluster.server job.node) conn).eval (exec number job) cluster =
      some (value, after)) : cluster.Closed job.node conn after := by
  have whole := ran
  rw [clientCloseException, Calls.eval_bind] at ran
  obtain ⟨⟨userId, middle⟩, searched, ran⟩ := Option.bind_eq_some_iff.mp ran
  rcases (removeLocalConnectionByConn_ends conn).of_eval searched with
    ⟨rfl, rfl, absent⟩ | ⟨present, rfl⟩
  · rw [if_neg fun differ => differ rfl] at ran
    obtain ⟨-, rfl⟩ := Prod.mk.inj (Option.some.inj ran)
    exact .inl ⟨rfl, absent⟩
  · by_cases nobody : userId = -1
    · subst nobody
      rw [if_neg fun differ => differ rfl] at ran
      obtain ⟨-, rfl⟩ := Prod.mk.inj (Option.some.inj ran)
      exact .inr (.inl ⟨present, rfl⟩)
    · rw [if_pos nobody, Calls.eval_bind] at ran
      obtain ⟨unbound, ran, -⟩ := Option.bind_eq_some_iff.mp ran
      have free := (dropEntry_view_free job.node userId).mp (unbindUser_free ran)
      exact (clientCloseException_ends free conn).of_eval whole

end Cluster

end ClusterChat
