/-
# Logging out and leaving

A connection that closes is looked up in the connection table, and one user of it
is logged out. A logout names the user, and whoever sent it that user is logged out
of the node, of Redis and of the database. So a close is right for a connection of
one user, and a logout by somebody else changes nothing only where there is nothing
left to change.
-/

import ClusterChat.Concurrency.Pool
import ClusterChat.Service.Complete

namespace ClusterChat

open ThreadSystem

section Names

variable {clockMs : Int} {configs : ℕ → ServerConfig} {database : Database} {pool : ClusterPool}

/-- Nodes keep the names they were started with. -/
theorem ClusterReach.selfNode (reached : ClusterReach clockMs configs database pool) (n : ℕ) :
    (pool.state.nodes n).registry.selfNode = (configs n).node.selfNode := by
  refine Machine.Reach.invariant (fun pool : ClusterPool =>
    (pool.state.nodes n).registry.selfNode = (configs n).node.selfNode) rfl ?_ reached
  intro pool next turn before _ moved
  rcases ThreadSystem.turn_cases moved with
    ⟨number, thread, β, request, cont, answer, -, -, -, ran, -⟩ | ⟨event, jobs, -, acted, -⟩
  · exact (Cluster.exec_selfNode ran n).trans before
  · exact ((Cluster.environment_writes acted).2.2.2.1 n).trans before

theorem NodeConfig.nodeId_ne_nil (config : NodeConfig) : config.selfNode.nodeId ≠ [] := by
  have colon : cString [':'] ≠ [] := by decide
  simp [NodeConfig.selfNode, initNode, colon]

end Names

namespace RedisStore

variable {store : RedisStore}

theorem session_unbound (userId : UserId) (nodeId : CString) :
    (store.unbound userId nodeId).session = Function.update store.session userId none := by
  unfold unbound
  split <;> rfl

theorem setRemove_eq_self {α : Type} [DecidableEq α] {member : α} {members : List α} :
    setRemove member members = members ↔ member ∉ members := by
  rw [setRemove, List.filter_eq_self]
  constructor
  · intro kept present
    exact of_decide_eq_true (kept member present) rfl
  · intro absent other present
    exact decide_eq_true fun same => absent (same ▸ present)

theorem nodeUsers_unbound (userId : UserId) {nodeId : CString} (named : nodeId ≠ []) :
    (store.unbound userId nodeId).nodeUsers = store.nodeUsers ↔
      userId ∉ store.nodeUsers nodeId := by
  rw [unbound, if_neg named, Function.update_eq_self_iff]
  exact setRemove_eq_self

end RedisStore

namespace Cluster

variable {cluster after : Cluster} {n : ℕ} {userId : UserId} {number : ℕ} {job : Job}

/-- What belongs to a user's session is as it was. -/
structure SameSession (cluster : Cluster) (userId : UserId) (after : Cluster) : Prop where
  session : after.store.session userId = cluster.store.session userId
  localEntry : ∀ n, after.localEntry n userId = cluster.localEntry n userId
  nodeUsers : after.store.nodeUsers = cluster.store.nodeUsers
  state : (after.database.users userId).map User.state =
    (cluster.database.users userId).map User.state

/-- A node's logout finds nothing of the user to take away. -/
structure Absent (cluster : Cluster) (n : ℕ) (userId : UserId) : Prop where
  session : cluster.store.session userId = none
  localEntry : cluster.localEntry n userId = none
  nodeUsers : userId ∉ cluster.store.nodeUsers (cluster.nodes n).registry.selfNode.nodeId
  state : ∀ user ∈ cluster.database.users userId, user.state = offline

theorem updateState_users (database : Database) (userId : UserId) (state : CString) :
    (database.updateState userId state).users userId =
      (database.users userId).map fun user => { user with state := state } := by
  simp [Database.updateState]

/-- A user who leaves changes nothing just if there was nothing left. -/
theorem Departed.same_iff (departed : cluster.Departed n userId after)
    (named : (cluster.nodes n).registry.selfNode.nodeId ≠ []) :
    cluster.SameSession userId after ↔ cluster.Absent n userId := by
  have users : after.database.users userId =
      (cluster.database.users userId).map fun user => { user with state := offline } := by
    rw [departed.database, updateState_users]
  constructor
  · rintro ⟨session, localEntry, nodeUsers, state⟩
    rw [departed.store, RedisStore.session_unbound, Function.update_self] at session
    rw [departed.store, RedisStore.nodeUsers_unbound userId named] at nodeUsers
    have entry := localEntry n
    rw [departed.localEntry, if_pos ⟨rfl, rfl⟩] at entry
    refine ⟨session.symm, entry.symm, nodeUsers, ?_⟩
    intro user present
    rw [users, Option.mem_def.mp present] at state
    exact (Option.some.inj state).symm
  · rintro ⟨session, localEntry, nodeUsers, state⟩
    refine ⟨?_, ?_, ?_, ?_⟩
    · rw [departed.store, RedisStore.session_unbound, Function.update_self, session]
    · intro m
      rw [departed.localEntry]
      split
      · rename_i here
        rw [here.1, localEntry]
      · rfl
    · rw [departed.store]
      exact (RedisStore.nodeUsers_unbound userId named).mpr nodeUsers
    · rw [users, Option.map_map]
      cases row : cluster.database.users userId with
      | none => rfl
      | some user => exact congrArg some (state user row).symm

/-- Nothing of a connection is left: no user is connected by it, and each user who was
has no session and is offline in the database. -/
structure LeavesNothing (cluster : Cluster) (n : ℕ) (conn : Connection) (after : Cluster) :
    Prop where
  table : ∀ userId, ¬after.Connected n userId conn
  users : ∀ userId, cluster.Connected n userId conn →
    after.store.session userId = none ∧
      ∀ user ∈ after.database.users userId, user.state = offline

/-- The connection has one user at most; if that is the user `-1`, it has no session
and is not online in the database. -/
structure OneUser (cluster : Cluster) (n : ℕ) (conn : Connection) : Prop where
  unique : ∀ first second, cluster.Connected n first conn → cluster.Connected n second conn →
    first = second
  somebody : cluster.Connected n (-1) conn → cluster.store.session (-1) = none ∧
    ∀ user ∈ cluster.database.users (-1), user.state = offline

variable {conn : Connection}

/-- Where one user's entry has gone, the other users of the connection are still
connected. -/
theorem connected_of_ne (table : ∀ m other, after.localEntry m other =
    if m = n ∧ other = userId then none else cluster.localEntry m other) {other : UserId} :
    after.Connected n other conn ↔ other ≠ userId ∧ cluster.Connected n other conn := by
  rw [Connected, Connected, table]
  by_cases same : other = userId
  · simp [same]
  · simp [same]

/-- One entry is removed: nothing is left in the table just if it was the only one. -/
theorem table_cleared_iff (table : ∀ m other, after.localEntry m other =
    if m = n ∧ other = userId then none else cluster.localEntry m other) :
    (∀ other, ¬after.Connected n other conn) ↔
      ∀ other, cluster.Connected n other conn → other = userId := by
  constructor
  · intro cleared other connected
    by_contra differ
    exact cleared other ((connected_of_ne table).mpr ⟨differ, connected⟩)
  · intro only other connected
    obtain ⟨differ, connected⟩ := (connected_of_ne table).mp connected
    exact differ (only other connected)

theorem Departed.cleared (departed : cluster.Departed n userId after) :
    after.store.session userId = none ∧
      ∀ user ∈ after.database.users userId, user.state = offline := by
  constructor
  · rw [departed.store, RedisStore.session_unbound, Function.update_self]
  · intro user present
    rw [departed.database, updateState_users] at present
    obtain ⟨row, -, rfl⟩ := Option.map_eq_some_iff.mp present
    rfl

/-- A close leaves nothing of its connection just if that had one user. -/
theorem Closed.leaves_iff (closed : cluster.Closed n conn after) :
    cluster.LeavesNothing n conn after ↔ cluster.OneUser n conn := by
  rcases closed with ⟨rfl, nobody⟩ | ⟨present, rfl⟩ | ⟨userId, somebody, present, departed⟩
  · refine iff_of_true ⟨nobody, fun userId here => absurd here (nobody userId)⟩ ⟨?_, ?_⟩
    · exact fun first _ here => absurd here (nobody first)
    · exact fun here => absurd here (nobody (-1))
  · have only : (∀ other, ¬(cluster.dropEntry n (-1)).Connected n other conn) ↔
        ∀ other, cluster.Connected n other conn → other = -1 :=
      table_cleared_iff (dropEntry_localEntry n (-1))
    constructor
    · rintro ⟨table, users⟩
      refine ⟨?_, users (-1)⟩
      intro first second here there
      rw [only.mp table first here, only.mp table second there]
    · rintro ⟨unique, quiet⟩
      refine ⟨only.mpr fun other here => unique other (-1) here present, ?_⟩
      intro other here
      obtain rfl := unique other (-1) here present
      exact quiet present
  · have only : (∀ other, ¬after.Connected n other conn) ↔
        ∀ other, cluster.Connected n other conn → other = userId :=
      table_cleared_iff departed.localEntry
    constructor
    · rintro ⟨table, -⟩
      refine ⟨?_, fun here => absurd (only.mp table (-1) here).symm somebody⟩
      intro first second here there
      rw [only.mp table first here, only.mp table second there]
    · rintro ⟨unique, -⟩
      refine ⟨only.mpr fun other here => unique other userId here present, ?_⟩
      intro other here
      obtain rfl := unique other userId here present
      exact departed.cleared

end Cluster

/-! ### In a running cluster -/

variable {clockMs : Int} {configs : ℕ → ServerConfig} {database : Database} {pool : ClusterPool}

/-- **A logout handled in a running cluster** ends once the node's Redis client is
free. Where the node does not hold the user under the connection that asked, it
leaves the user's session alone just if there was nothing of the user left. -/
theorem logout_spares_iff (reached : ClusterReach clockMs configs database pool) {id : ℕ}
    {client : Client} (here : pool.state.clients[id]? = some client) (userId : UserId) :
    ((pool.state.view client.node).Free →
        ∃ next, clusterSystem.Completes pool (.request id (.logout userId)) next) ∧
      ∀ next, clusterSystem.Completes pool (.request id (.logout userId)) next →
        ((¬pool.state.Connected client.node userId ⟨id, client.loop⟩ →
            pool.state.SameSession userId next.state) ↔
          pool.state.Connected client.node userId ⟨id, client.loop⟩ ∨
            pool.state.Absent client.node userId) := by
  -- the message is numbered; nothing else changes before the handler starts
  let asked : Cluster := { pool.state with messages := pool.state.messages + 1 }
  let job : Job := ⟨client.node, client.loop, .logout userId⟩
  have starts : clusterSystem.environment (.request id (.logout userId)) pool.state =
      some (asked, [(job, ChatService.logout (asked.server client.node) userId)]) := by
    simp only [clusterSystem, here, Cluster.handlerOf]
    rfl
  refine ⟨fun free => ?_, fun next completes => ?_⟩
  · have ends : (ChatService.logout (asked.server job.node) userId).Ends
        (Cluster.exec pool.threads.length job) (fun _ => asked.Departed job.node userId) asked :=
      Cluster.logout_ends free userId
    obtain ⟨value, after, ran, -⟩ := ends
    obtain ⟨next, completes, -⟩ := ThreadSystem.completes_of_eval starts ran
    exact ⟨next, completes⟩
  · obtain ⟨value, ran⟩ := completes.eval starts
    have left : asked.Departed job.node userId next.state := Cluster.logout_after ran
    have departed : pool.state.Departed client.node userId next.state :=
      ⟨left.store, left.localEntry, left.database⟩
    have named : (pool.state.nodes client.node).registry.selfNode.nodeId ≠ [] := by
      rw [reached.selfNode]
      exact NodeConfig.nodeId_ne_nil _
    rw [departed.same_iff named]
    exact imp_iff_not_or.trans (or_congr_left not_not)

/-- A client connects to each of the two servers, and the first one logs in. -/
def loginHere : List (Turn ClusterEvent) :=
  [.environment (.connect 0 0), .environment (.connect 1 0)] ++
    handling 0 16 (.request 0 (.login 7 password.bytes))

/-- The other client logs out a user who is not connected anywhere. -/
theorem logout_spares_iff_nobody :
    ∃ pool next, ClusterReach 0 (twoServers 4) twoUsers pool ∧
      clusterSystem.Completes pool (.request 1 (.logout 8)) next ∧
      pool.state.SameSession 8 next.state := by
  have ran : ((clusterSystem.machine.run (startPool 0 (twoServers 4) twoUsers) loginHere).any
      fun pool => decide (pool.threads.length = 1 ∧ pool.state.clients[1]? = some ⟨1, 0, true⟩ ∧
          pool.state.store.session 8 = none ∧ pool.state.localEntry 1 8 = none ∧
          8 ∉ pool.state.store.nodeUsers (pool.state.nodes 1).registry.selfNode.nodeId ∧
          ∀ user ∈ pool.state.database.users 8, user.state = offline) &&
        (clusterSystem.machine.run pool (handling 1 7 (.request 1 (.logout 8)))).any fun next =>
          ((next.threads[1]?).bind fun thread => thread.rest.returned).isSome) = true := by
    decide +kernel
  obtain ⟨pool, ran, found⟩ := (Option.any_eq_true _ _).mp ran
  obtain ⟨here, found⟩ := Bool.and_eq_true_iff.mp found
  obtain ⟨next, handled, ended⟩ := (Option.any_eq_true _ _).mp found
  obtain ⟨number, client, session, entry, nodeUsers, state⟩ := of_decide_eq_true here
  have reached := ClusterReach.of_run ran
  have completes := ThreadSystem.completes_of_run number handled ended
  have stranger : ¬pool.state.Connected 1 8 ⟨1, 0⟩ := by
    rintro ⟨_, held, -⟩
    exact Option.some_ne_none _ (held.symm.trans entry)
  have spares := ((logout_spares_iff reached client 8).2 next completes).mpr
    (.inr ⟨session, entry, nodeUsers, state⟩)
  exact ⟨pool, next, reached, completes, spares stranger⟩

/-- The other client logs out the first one's user. -/
theorem strangersLogout_ends_session :
    ∃ pool next, ClusterReach 0 (twoServers 4) twoUsers pool ∧
      pool.state.clients[1]? = some ⟨1, 0, true⟩ ∧
      clusterSystem.Completes pool (.request 1 (.logout 7)) next ∧
      ¬pool.state.Connected 1 7 ⟨1, 0⟩ ∧ ¬pool.state.SameSession 7 next.state := by
  have ran : ((clusterSystem.machine.run (startPool 0 (twoServers 4) twoUsers) loginHere).any
      fun pool => decide (pool.threads.length = 1 ∧ pool.state.clients[1]? = some ⟨1, 0, true⟩ ∧
          pool.state.localEntry 1 7 = none) &&
        (clusterSystem.machine.run pool (handling 1 7 (.request 1 (.logout 7)))).any fun next =>
          ((next.threads[1]?).bind fun thread => thread.rest.returned).isSome &&
            decide (next.state.store.session 7 ≠ pool.state.store.session 7)) = true := by
    decide +kernel
  obtain ⟨pool, ran, found⟩ := (Option.any_eq_true _ _).mp ran
  obtain ⟨here, found⟩ := Bool.and_eq_true_iff.mp found
  obtain ⟨next, handled, found⟩ := (Option.any_eq_true _ _).mp found
  obtain ⟨ended, differs⟩ := Bool.and_eq_true_iff.mp found
  obtain ⟨number, client, entry⟩ := of_decide_eq_true here
  refine ⟨pool, next, .of_run ran, client, ThreadSystem.completes_of_run number handled ended,
    ?_, fun same => of_decide_eq_true differs same.session⟩
  rintro ⟨_, held, -⟩
  exact Option.some_ne_none _ (held.symm.trans entry)

/-- **A close handled in a running cluster** ends once the node's Redis client is
free, and leaves nothing of its connection just if that had one user. -/
theorem close_clears_iff {id : ℕ} {client : Client}
    (here : pool.state.clients[id]? = some client) (up : client.connected = true) :
    ((pool.state.view client.node).Free →
        ∃ next, clusterSystem.Completes pool (.disconnect id) next) ∧
      ∀ next, clusterSystem.Completes pool (.disconnect id) next →
        (pool.state.LeavesNothing client.node ⟨id, client.loop⟩ next.state ↔
          pool.state.OneUser client.node ⟨id, client.loop⟩) := by
  let gone : Cluster := pool.state.disconnect id client
  let conn : Connection := ⟨id, client.loop⟩
  let job : Job := ⟨client.node, client.loop, .clientCloseException conn⟩
  have starts : clusterSystem.environment (.disconnect id) pool.state =
      some (gone, [(job, ChatService.clientCloseException (gone.server client.node) conn)]) := by
    simp only [clusterSystem, here, up, if_true]
    rfl
  refine ⟨fun free => ?_, fun next completes => ?_⟩
  · have ends : (ChatService.clientCloseException (gone.server job.node) conn).Ends
        (Cluster.exec pool.threads.length job) (fun _ => gone.Closed job.node conn) gone :=
      Cluster.clientCloseException_ends free conn
    obtain ⟨value, after, ran, -⟩ := ends
    obtain ⟨next, completes, -⟩ := ThreadSystem.completes_of_eval starts ran
    exact ⟨next, completes⟩
  · obtain ⟨value, ran⟩ := completes.eval starts
    have closed : gone.Closed job.node conn next.state := Cluster.clientCloseException_after ran
    have effect := closed.leaves_iff
    -- the connection is down by then; its users are the same
    constructor
    · rintro ⟨table, users⟩
      obtain ⟨unique, somebody⟩ := effect.mp ⟨table, users⟩
      exact ⟨unique, somebody⟩
    · rintro ⟨unique, somebody⟩
      obtain ⟨table, users⟩ := effect.mpr ⟨unique, somebody⟩
      exact ⟨table, users⟩

/-- A connection with one user is closed. -/
theorem close_clears_iff_oneUser :
    ∃ pool next, ClusterReach 0 (twoServers 4) twoUsers pool ∧
      clusterSystem.Completes pool (.disconnect 0) next ∧
      pool.state.LeavesNothing 0 ⟨0, 0⟩ next.state := by
  have ran : ((clusterSystem.machine.run (startPool 0 (twoServers 4) twoUsers) loginHere).any
      fun pool => decide (pool.threads.length = 1 ∧ pool.state.clients[0]? = some ⟨0, 0, true⟩ ∧
          (pool.state.nodes 0).userConnMap.keys = [7]) &&
        (clusterSystem.machine.run pool (handling 1 14 (.disconnect 0))).any fun next =>
          ((next.threads[1]?).bind fun thread => thread.rest.returned).isSome) = true := by
    decide +kernel
  obtain ⟨pool, ran, found⟩ := (Option.any_eq_true _ _).mp ran
  obtain ⟨here, found⟩ := Bool.and_eq_true_iff.mp found
  obtain ⟨next, handled, ended⟩ := (Option.any_eq_true _ _).mp found
  obtain ⟨number, client, keys⟩ := of_decide_eq_true here
  have completes := ThreadSystem.completes_of_run number handled ended
  have only : ∀ userId, pool.state.Connected 0 userId ⟨0, 0⟩ → userId = 7 := by
    rintro userId ⟨entry, held, -⟩
    have member := AList.lookup_isSome.mp (Option.isSome_of_eq_some held)
    rw [AList.mem_keys, keys] at member
    exact List.mem_singleton.mp member
  refine ⟨pool, next, .of_run ran, completes, ((close_clears_iff client rfl).2 next completes).mpr
    ⟨fun first second one other => ?_, fun nobody => ?_⟩⟩
  · rw [only first one, only second other]
  · exact absurd (only (-1) nobody) (by decide)

/-- Two users log in by one connection. -/
def loginTwice : List (Turn ClusterEvent) :=
  loginHere ++ handling 1 16 (.request 0 (.login 8 password.bytes))

/-- When that connection is closed one of them stays behind. -/
theorem close_leaves_second_user :
    ∃ pool next, ClusterReach 0 (twoServers 4) twoUsers pool ∧
      pool.state.clients[0]? = some ⟨0, 0, true⟩ ∧
      clusterSystem.Completes pool (.disconnect 0) next ∧
      ¬pool.state.LeavesNothing 0 ⟨0, 0⟩ next.state := by
  have ran : ((clusterSystem.machine.run (startPool 0 (twoServers 4) twoUsers) loginTwice).any
      fun pool => decide (pool.threads.length = 2 ∧ pool.state.clients[0]? = some ⟨0, 0, true⟩) &&
        (clusterSystem.machine.run pool (handling 2 14 (.disconnect 0))).any fun next =>
          ((next.threads[2]?).bind fun thread => thread.rest.returned).isSome &&
            decide (next.state.localEntry 0 8 = some ⟨⟨0, 0⟩, 1⟩)) = true := by
    decide +kernel
  obtain ⟨pool, ran, found⟩ := (Option.any_eq_true _ _).mp ran
  obtain ⟨here, found⟩ := Bool.and_eq_true_iff.mp found
  obtain ⟨next, handled, found⟩ := (Option.any_eq_true _ _).mp found
  obtain ⟨ended, stays⟩ := Bool.and_eq_true_iff.mp found
  obtain ⟨number, client⟩ := of_decide_eq_true here
  refine ⟨pool, next, .of_run ran, client, ThreadSystem.completes_of_run number handled ended, ?_⟩
  intro leaves
  exact leaves.table 8 ⟨_, of_decide_eq_true stays, rfl⟩

end ClusterChat
