/-
# Messages kept for absent users

A login hands over what was stored for its user: it reads the user's rows, deletes
them, and sends what it read. Reading and deleting are two statements. What is
stored in between is deleted unread, and what is stored at any other time is not.
-/

import ClusterChat.Concurrency.Pool
import ClusterChat.Service.Login
import ClusterChat.Service.Steps

namespace ClusterChat

open ChatService ServerCall

/-- Whose rows the next call of a program deletes. -/
def nextRemoval {ρ : Type} : Calls ServerCall ρ → Option UserId
  | .call (.database (.removeOffline userId)) _ => some userId
  | _ => none

/-- For whom the next call of a program stores a row. -/
def nextInsert {ρ : Type} : Calls ServerCall ρ → Option UserId
  | .call (.database (.insertOffline copy)) _ => some copy.recipient
  | _ => none

/-- The condition on a turn: nothing is stored for a user while a login that has read
the user's rows is about to delete them. -/
def InsertsApart (pool : ClusterPool) : Turn ClusterEvent → Prop
  | .thread number =>
    ∀ thread ∈ pool.threads[number]?, ∀ userId ∈ nextInsert thread.rest,
      ∀ other ∈ pool.threads, nextRemoval other.rest ≠ some userId
  | .environment _ => True

/-- The user is the one of the call, and not sought among all users. -/
instance (pool : ClusterPool) (program : Calls ServerCall Unit) :
    Decidable (∀ userId ∈ nextInsert program, ∀ other ∈ pool.threads,
      nextRemoval other.rest ≠ some userId) :=
  Option.decidableForallMem (nextInsert program)

instance (pool : ClusterPool) : (turn : Turn ClusterEvent) → Decidable (InsertsApart pool turn)
  | .thread number => inferInstanceAs (Decidable (∀ thread ∈ pool.threads[number]?,
      ∀ userId ∈ nextInsert thread.rest, ∀ other ∈ pool.threads,
        nextRemoval other.rest ≠ some userId))
  | .environment _ => .isTrue trivial

/-! ### What is deleted was just read -/

/-- A deletion of rows comes right after they were read. -/
def ReadsFirst (log : List (Event ServerCall)) : {β : Type} → ServerCall β → Prop
  | _, .database (.removeOffline userId) =>
    ∃ (answered : List Bytes) (earlier : List (Event ServerCall)),
      log = ⟨.database (.queryOffline userId), answered⟩ :: earlier
  | _, _ => True

theorem readsFirst_of_plain (log : List (Event ServerCall)) ⦃β : Type⦄ (call : ServerCall β)
    (plain : call.Plain) : ReadsFirst log call := by
  cases call with
  | database call =>
    cases call with
    | removeOffline userId => exact plain.elim
    | _ => trivial
  | _ => trivial

theorem readsFirst_of_others (log : List (Event ServerCall)) ⦃β : Type⦄ (call : ServerCall β)
    (asked : call.OfOthers) : ReadsFirst log call := by
  cases call with
  | database call =>
    cases call with
    | removeOffline userId =>
      rcases asked with (plain | ⟨_, unbinds⟩) | departs
      · exact plain.elim
      · exact unbinds.elim
      · exact departs.elim
    | _ => trivial
  | _ => trivial

theorem readsFirst_of_registry (log : List (Event ServerCall)) ⦃β : Type⦄ (call : ServerCall β)
    (asked : ∃ request, call = .registry request) : ReadsFirst log call := by
  obtain ⟨request, rfl⟩ := asked
  trivial

theorem acceptLogin_reads (user : User) (conn : Connection) (log : List (Event ServerCall)) :
    (acceptLogin user conn).Meets ReadsFirst (fun _ _ => True) log := by
  rw [acceptLogin_eq]
  refine ⟨trivial, fun _ => ⟨trivial, fun offlineMsg => ?_⟩⟩
  have rest : ∀ log, (answerLogin user conn offlineMsg).Meets ReadsFirst (fun _ _ => True) log :=
    fun log => ⟨trivial, fun _ => ⟨trivial, fun _ => ⟨trivial, fun _ => trivial⟩⟩⟩
  beta_reduce
  by_cases empty : offlineMsg = []
  · rw [if_neg fun listed => listed empty]
    exact rest _
  · rw [if_pos empty]
    -- the log starts with what was read
    exact ⟨⟨offlineMsg, _, rfl⟩, fun _ => rest _⟩

theorem enterLogin_reads (server : Server) (id : UserId) (conn : Connection) (user : User)
    (log : List (Event ServerCall)) :
    (enterLogin server id conn user).Meets ReadsFirst (fun _ _ => True) log := by
  refine ⟨trivial, fun _ => ?_⟩
  have binds : (registry (NodeRegistry.bindUser server.selfNode id)).Only
      fun _ call => ∃ request, call = .registry request :=
    Calls.Only.lift (Calls.only_of_forall (fun _ request => ⟨request, rfl⟩) _)
  apply binds.meetsThen readsFirst_of_registry
  intro log ok
  cases ok with
  | false => exact ⟨trivial, fun _ => ⟨trivial, fun _ => trivial⟩⟩
  | true => exact acceptLogin_reads user conn log

theorem judgeLogin_reads (server : Server) (id : UserId) (pwd : Bytes) (conn : Connection)
    (user : User) (session : Option CString) (log : List (Event ServerCall)) :
    (judgeLogin server id pwd conn user session).Meets ReadsFirst (fun _ _ => True) log := by
  unfold judgeLogin
  by_cases fits : user.id = id ∧ user.password.bytes = pwd
  · rw [if_pos fits]
    cases session with
    | some nodeId => exact ⟨trivial, fun _ => trivial⟩
    | none =>
      by_cases stale : user.state = online
      · rw [if_pos stale]
        exact ⟨trivial, fun _ => enterLogin_reads server id conn user _⟩
      · rw [if_neg stale]
        exact enterLogin_reads server id conn user log
  · rw [if_neg fits]
    exact ⟨trivial, fun _ => trivial⟩

/-- Every handler deletes only right after it has read. -/
theorem program_reads (cluster : Cluster) (n : ℕ) (handler : Handler) :
    (cluster.program n handler).Meets ReadsFirst (fun _ _ => True) [] := by
  by_cases login : ∃ id pwd conn, handler = .login id pwd conn
  · obtain ⟨id, pwd, conn, rfl⟩ := login
    change (ChatService.login (cluster.server n) id pwd conn).Meets _ _ _
    rw [login_eq]
    refine ⟨trivial, fun user => ?_⟩
    apply (lookup_only (queryUserNode_only id)).meetsThen readsFirst_of_plain
    exact fun log session => judgeLogin_reads _ id pwd conn user session log
  · have other : ∀ id pwd conn, handler ≠ .login id pwd conn :=
      fun id pwd conn same => login ⟨id, pwd, conn, same⟩
    have only := (program_only cluster n handler).mono (Handler.Asks.ofOthers other)
    exact only.meets readsFirst_of_others []

/-! ### The rows of a user -/

namespace Cluster

/-- What is stored for a user, as it is read. -/
def mailbox (cluster : Cluster) (userId : UserId) : List Bytes :=
  (cluster.database.offlineMessages userId).map fun copy => copy.message.text

variable {cluster after : Cluster} {number : ℕ} {job : Job}

/-- A call that stores nothing for a user leaves what was stored, or nothing. -/
theorem mailbox_exec {ρ β : Type} {call : ServerCall β} {answer : β} {program : Calls ServerCall ρ}
    {next : β → Calls ServerCall ρ} (calls : program = .call call next)
    (ran : exec number job call cluster = some (answer, after)) {userId : UserId}
    (apart : nextInsert program ≠ some userId) :
    (after.mailbox userId).Sublist (cluster.mailbox userId) := by
  subst calls
  have written := (exec_writes ran).2.1
  rw [mailbox, mailbox, written]
  apply List.Sublist.map
  cases call with
  | database call =>
    cases call with
    | insertOffline copy =>
      have other : userId ≠ copy.recipient := fun same => apart (congrArg some same.symm)
      simp [databaseAfter, Database.exec, other]
    | removeOffline removed =>
      by_cases same : userId = removed
      · subst same
        simp [databaseAfter, Database.exec]
      · simp [databaseAfter, Database.exec, same]
    | _ => exact .refl _
  | _ => exact .refl _

/-- Reading answers what is stored, and leaves it. -/
theorem mailbox_read {userId : UserId} {answered : List Bytes}
    (ran : exec number job (.database (.queryOffline userId)) cluster = some (answered, after)) :
    answered = cluster.mailbox userId ∧ after.mailbox userId = cluster.mailbox userId := by
  obtain ⟨rfl, rfl⟩ := Prod.mk.inj (Option.some.inj ran)
  exact ⟨rfl, rfl⟩

/-- Deleting leaves nothing stored. -/
theorem mailbox_removed {userId : UserId} {answer : Unit}
    (ran : exec number job (.database (.removeOffline userId)) cluster = some (answer, after)) :
    after.mailbox userId = [] := by
  obtain ⟨-, rfl⟩ := Prod.mk.inj (Option.some.inj ran)
  simp [mailbox]

theorem mailbox_environment {event : ClusterEvent} {jobs : List (Job × Calls ServerCall Unit)}
    (acted : clusterSystem.environment event cluster = some (after, jobs)) :
    after.mailbox = cluster.mailbox := by
  have written := (environment_writes acted).2.1
  funext userId
  rw [mailbox, mailbox, written]
  cases event <;> rfl

end Cluster

/-! ### Every run -/

theorem nextRemoval_eq_some {ρ : Type} {program : Calls ServerCall ρ} {userId : UserId}
    (removes : nextRemoval program = some userId) :
    ∃ cont, program = .call (.database (.removeOffline userId)) cont := by
  unfold nextRemoval at removes
  split at removes
  · rename_i removed cont
    obtain rfl := Option.some.inj removes
    exact ⟨cont, rfl⟩
  · cases removes

/-- Whoever is about to delete a user's rows has just read all of them. -/
def RemovesRead (pool : ClusterPool) : Prop :=
  ∀ thread ∈ pool.threads, ∀ userId, nextRemoval thread.rest = some userId →
    ∃ answered earlier, thread.log = ⟨.database (.queryOffline userId), answered⟩ :: earlier ∧
      (pool.state.mailbox userId).Sublist answered

/-- All threads keep to the contract. -/
def ReadsThroughout (pool : ClusterPool) : Prop :=
  ∀ thread ∈ pool.threads, thread.rest.Meets ReadsFirst (fun _ _ => True) thread.log

theorem ReadsThroughout.log {pool : ClusterPool} (reads : ReadsThroughout pool)
    {thread : Thread ServerCall Job Unit} (member : thread ∈ pool.threads) {userId : UserId}
    (removes : nextRemoval thread.rest = some userId) :
    ∃ answered earlier,
      thread.log = ⟨.database (.queryOffline userId), answered⟩ :: earlier := by
  obtain ⟨cont, program⟩ := nextRemoval_eq_some removes
  have meets := reads thread member
  rw [program] at meets
  exact meets.1

/-- **A turn** that stores nothing for a user whose rows are about to be deleted keeps
them read. -/
theorem RemovesRead.turn {pool next : ClusterPool} {turn : Turn ClusterEvent}
    (before : RemovesRead pool) (reads : ReadsThroughout next) (apart : InsertsApart pool turn)
    (moved : clusterSystem.turn pool turn = some next) : RemovesRead next := by
  rcases ThreadSystem.turn_cases moved with
    ⟨number, thread, β, request, cont, answer, rfl, found, program, ran, threads⟩ |
    ⟨event, jobs, rfl, acted, threads⟩
  · intro other member userId removes
    obtain ⟨answered, earlier, log⟩ := reads.log member removes
    refine ⟨answered, earlier, log, ?_⟩
    rw [threads] at member
    rcases List.mem_or_eq_of_mem_set member with old | rfl
    · -- another thread: what is stored has at most become less
      obtain ⟨answered', earlier', log', stored⟩ := before other old userId removes
      obtain ⟨same, -⟩ := List.cons.inj (log'.symm.trans log)
      cases same
      have apart' : nextInsert thread.rest ≠ some userId := fun inserts =>
        apart thread found userId inserts other old removes
      exact (Cluster.mailbox_exec program ran apart').trans stored
    · -- the thread itself: its last call was the reading
      obtain ⟨same, -⟩ := List.cons.inj log
      cases same
      have answers : Cluster.exec number thread.tag (.database (.queryOffline userId)) pool.state =
          some (answered, next.state) := ran
      obtain ⟨all, kept⟩ := Cluster.mailbox_read answers
      rw [kept, all]
  · intro other member userId removes
    obtain ⟨answered, earlier, log⟩ := reads.log member removes
    rw [threads, List.mem_append, List.mem_map] at member
    rcases member with old | ⟨job, -, rfl⟩
    · rw [Cluster.mailbox_environment acted]
      exact before other old userId removes
    · cases log

theorem ReadsThroughout.turn {pool next : ClusterPool} {turn : Turn ClusterEvent}
    (reads : ReadsThroughout pool) (moved : clusterSystem.turn pool turn = some next) :
    ReadsThroughout next := by
  apply ThreadSystem.turn_forall_threads reads _ _ moved
  · intro thread β request cont answer meets program
    rw [program] at meets
    exact meets.2 answer
  · intro event cluster jobs acted job listed
    obtain ⟨n, loop, handler, rfl⟩ := (Cluster.environment_writes acted).2.2.2.2 job listed
    exact program_reads pool.state n handler

/-- **No stored message is deleted unread**, as long as none is stored for a user
between the reading and the deletion of the user's rows: what a deletion deletes was
in the answer to the reading right before it. -/
theorem removals_read {clockMs : Int} {configs : ℕ → ServerConfig} {database : Database}
    {pool next : ClusterPool}
    (reached : clusterSystem.machine.Reach InsertsApart (startPool clockMs configs database) pool)
    {number : ℕ} {thread : Thread ServerCall Job Unit} {userId : UserId}
    {cont : Unit → Calls ServerCall Unit} (found : pool.threads[number]? = some thread)
    (removes : thread.rest = .call (.database (.removeOffline userId)) cont)
    (moved : clusterSystem.turn pool (.thread number) = some next) :
    next.state.mailbox userId = [] ∧ ∃ answered earlier,
      thread.log = ⟨.database (.queryOffline userId), answered⟩ :: earlier ∧
        (pool.state.mailbox userId).Sublist answered := by
  have removesRead : RemovesRead pool := by
    have both : ReadsThroughout pool ∧ RemovesRead pool := by
      refine reached.invariant (fun pool => ReadsThroughout pool ∧ RemovesRead pool) ?_ ?_
      · exact ⟨List.forall_mem_nil _, List.forall_mem_nil _⟩
      · rintro pool next turn ⟨reads, before⟩ apart moved
        have reads' : ReadsThroughout next := ReadsThroughout.turn reads moved
        exact ⟨reads', before.turn reads' apart moved⟩
    exact both.2
  have member := List.mem_of_getElem? found
  have next' : nextRemoval thread.rest = some userId := by rw [removes, nextRemoval]
  refine ⟨?_, removesRead thread member userId next'⟩
  have turned : clusterSystem.callStep pool number = some next := moved
  rw [ThreadSystem.callStep_call found removes] at turned
  obtain ⟨⟨answer, state⟩, ran, rfl⟩ := Option.map_eq_some_iff.mp turned
  have answers : Cluster.exec number thread.tag (.database (.removeOffline userId)) pool.state =
      some (answer, state) := ran
  exact Cluster.mailbox_removed answers

/-- Two clients connect, on a loop each. The first one writes to an absent user, and has a
second message ready to be stored; the second one logs in as that user and reads. -/
def storeAndRead : List (Turn ClusterEvent) :=
  [.environment (.connect 0 0), .environment (.connect 0 1)] ++
    ThreadSystem.handling 0 7 (.request 0 (.oneChat 7 [97])) ++
    ThreadSystem.handling 1 6 (.request 0 (.oneChat 7 [98])) ++
    ThreadSystem.handling 2 13 (.request 1 (.login 7 password.bytes))

theorem removals_read_stored :
    ∃ pool next thread, clusterSystem.machine.Reach InsertsApart
        (startPool 0 (twoServers 4) twoUsers) pool ∧
      clusterSystem.turn pool (.thread 2) = some next ∧ pool.threads[2]? = some thread ∧
      pool.state.mailbox 7 = [[97]] ∧ next.state.mailbox 7 = [] ∧
      ∃ answered earlier, thread.log = ⟨.database (.queryOffline 7), answered⟩ :: earlier ∧
        (pool.state.mailbox 7).Sublist answered := by
  have ran : ((clusterSystem.machine.runWithin InsertsApart (startPool 0 (twoServers 4) twoUsers)
      storeAndRead).any fun pool => (clusterSystem.turn pool (.thread 2)).isSome &&
        decide ((pool.threads[2]?).bind (fun thread => nextRemoval thread.rest) = some 7 ∧
          pool.state.mailbox 7 = [[97]])) = true := by decide +kernel
  obtain ⟨pool, ran, found⟩ := (Option.any_eq_true _ _).mp ran
  obtain ⟨moved, removing⟩ := Bool.and_eq_true_iff.mp found
  obtain ⟨next, moved⟩ := Option.isSome_iff_exists.mp moved
  obtain ⟨removing, stored⟩ := of_decide_eq_true removing
  obtain ⟨thread, here, removes⟩ := Option.bind_eq_some_iff.mp removing
  obtain ⟨cont, program⟩ := nextRemoval_eq_some removes
  have reached := Machine.Reach.of_runWithin .refl ran
  obtain ⟨emptied, read⟩ := removals_read reached here program moved
  exact ⟨pool, next, thread, reached, moved, here, stored, emptied, read⟩

/-- What the latest call of a log has read. -/
def justRead : List (Event ServerCall) → Option (List Bytes)
  | ⟨.database (.queryOffline _), answered⟩ :: _ => some answered
  | _ => none

/-- The second message is stored before the login deletes: it goes unread. -/
theorem overtaken_deleted_unread :
    ∃ pool next thread cont, ClusterReach 0 (twoServers 4) twoUsers pool ∧
      clusterSystem.turn pool (.thread 2) = some next ∧ pool.threads[2]? = some thread ∧
      thread.rest = .call (.database (.removeOffline 7)) cont ∧
      next.state.mailbox 7 = [] ∧
      ¬∃ answered earlier, thread.log = ⟨.database (.queryOffline 7), answered⟩ :: earlier ∧
        (pool.state.mailbox 7).Sublist answered := by
  have ran : ((clusterSystem.machine.run (startPool 0 (twoServers 4) twoUsers)
      (storeAndRead ++ [.thread 1])).any fun pool =>
        ((clusterSystem.turn pool (.thread 2)).any fun next =>
          decide (next.state.mailbox 7 = [])) &&
        decide ((pool.threads[2]?).bind (fun thread => nextRemoval thread.rest) = some 7 ∧
          (pool.threads[2]?).bind (fun thread => justRead thread.log) = some [[97]] ∧
          pool.state.mailbox 7 = [[97], [98]])) = true := by decide +kernel
  obtain ⟨pool, ran, found⟩ := (Option.any_eq_true _ _).mp ran
  obtain ⟨moved, removing⟩ := Bool.and_eq_true_iff.mp found
  obtain ⟨next, moved, emptied⟩ := (Option.any_eq_true _ _).mp moved
  obtain ⟨removing, read, stored⟩ := of_decide_eq_true removing
  obtain ⟨thread, here, removes⟩ := Option.bind_eq_some_iff.mp removing
  obtain ⟨cont, program⟩ := nextRemoval_eq_some removes
  refine ⟨pool, next, thread, cont, .of_run ran, moved, here, program,
    of_decide_eq_true emptied, ?_⟩
  rintro ⟨answered, earlier, log, listed⟩
  rw [here, Option.bind_some, log] at read
  obtain rfl : answered = [[97]] := Option.some.inj read
  rw [stored] at listed
  exact absurd listed.length_le (by decide)

end ClusterChat
