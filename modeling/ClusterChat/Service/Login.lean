/-
# The phases of a login

A login asks who the user is and where, registers the connection, stores the
session, and then either accepts or takes the registration back. What it may ask for
depends on how far it has come, and its log tells how far that is.
-/

import ClusterChat.Concurrency.Pool
import ClusterChat.Service.Requests
import ClusterChat.Service.Steps

namespace ClusterChat

open ServerCall

namespace ChatService

/-! ### Parts of `login` -/

/-- The end of `acceptLogin`, once the user's messages are known. -/
def answerLogin (user : User) (conn : Connection) (offlineMsg : List Bytes) :
    Calls ServerCall Unit := do
  let friends ← database (.queryFriends user.id)
  let groups ← database (.queryGroups user.id)
  service (.send conn (.loginAck (.accepted user offlineMsg friends groups)))

theorem acceptLogin_eq (user : User) (conn : Connection) :
    acceptLogin user conn = .call (.database (.updateState user.id online)) fun _ =>
      .call (.database (.queryOffline user.id)) fun offlineMsg =>
        if offlineMsg ≠ [] then
          .call (.database (.removeOffline user.id)) fun _ => answerLogin user conn offlineMsg
        else answerLogin user conn offlineMsg := rfl

/-- `login` from the registration of the connection on. -/
def enterLogin (server : Server) (id : UserId) (conn : Connection) (user : User) :
    Calls ServerCall Unit := do
  service (.addLocalConnection id conn)
  match ← registry (NodeRegistry.bindUser server.selfNode id) with
  | false =>
    service (.removeLocalConnection id)
    service (.send conn (.loginAck .registerFailed))
  | true => acceptLogin user conn

/-- `login` once it knows the user and whether there is a session. -/
def judgeLogin (server : Server) (id : UserId) (pwd : Bytes) (conn : Connection) (user : User)
    (session : Option CString) : Calls ServerCall Unit :=
  if user.id = id ∧ user.password.bytes = pwd then
    match session with
    | some _ => service (.send conn (.loginAck .inUse))
    | none =>
      if user.state = online then
        database (.updateState user.id offline) >>= fun _ => enterLogin server id conn user
      else enterLogin server id conn user
  else service (.send conn (.loginAck .invalid))

theorem login_eq (server : Server) (id : UserId) (pwd : Bytes) (conn : Connection) :
    login server id pwd conn = .call (.database (.queryUser id)) fun user =>
      registry (NodeRegistry.queryUserNode id) >>= fun session =>
        judgeLogin server id pwd conn user session := rfl

end ChatService

/-- How far a login has come: it asks, has registered its connection, has stored the
session, has failed to, or has the user online. -/
inductive LoginPhase
  | asking
  | entered
  | bound
  | failed
  | accepted
  deriving DecidableEq

namespace LoginPhase

/-- The phase after an answered call. -/
def advance : LoginPhase → Event ServerCall → LoginPhase
  | asking, ⟨.service (.addLocalConnection _ _), _⟩ => entered
  | entered, ⟨.registry (.redis (.command (.setSession _ _))), some true⟩ => bound
  | entered, ⟨.registry (.redis (.command (.setSession _ _))), _⟩ => failed
  | bound, ⟨.registry (.redis (.command (.addNodeUser _ _))), none⟩ => failed
  | bound, ⟨.database (.updateState _ _), _⟩ => accepted
  | phase, _ => phase

/-- What a login asks for in a phase. -/
def Permits (id : UserId) (conn : Connection) : LoginPhase → ⦃β : Type⦄ → ServerCall β → Prop
  | asking, _, .service (.addLocalConnection userId other) => userId = id ∧ other = conn
  | asking, _, .service (.send other (.loginAck response)) => other = conn ∧ response.errno ≠ 0
  | asking, _, .database (.updateState userId state) => userId = id ∧ state = offline
  | asking, _, call => call.Plain
  | entered, _, .registry (.redis (.client _)) => True
  | entered, _, .registry (.redis (.command (.setSession userId _))) => userId = id
  | entered, _, _ => False
  | bound, _, .registry (.redis (.client _)) => True
  | bound, _, .registry (.redis (.command (.addNodeUser _ userId))) => userId = id
  | bound, _, .registry (.node (.cacheUserNode userId _ _)) => userId = id
  | bound, _, .database (.updateState userId state) => userId = id ∧ state = online
  | bound, _, _ => False
  | failed, _, .registry (.redis (.client _)) => True
  | failed, _, .service (.removeLocalConnection userId) => userId = id
  | failed, _, .service (.send other (.loginAck response)) => other = conn ∧ response.errno ≠ 0
  | failed, _, _ => False
  | accepted, _, .database (.queryOffline userId) => userId = id
  | accepted, _, .database (.removeOffline userId) => userId = id
  | accepted, _, .database (.queryFriends userId) => userId = id
  | accepted, _, .database (.queryGroups userId) => userId = id
  | accepted, _, .service (.send other (.loginAck _)) => other = conn
  | accepted, _, _ => False

/-- A login does not end between registering its connection and the outcome. -/
def Final (phase : LoginPhase) : Prop := phase ≠ entered ∧ phase ≠ bound

/-- The phase that a log has led to. -/
def of (log : List (Event ServerCall)) : LoginPhase :=
  log.foldr (fun event phase => phase.advance event) asking

@[simp] theorem of_nil : of [] = asking := rfl

@[simp] theorem of_cons (event : Event ServerCall) (log : List (Event ServerCall)) :
    of (event :: log) = (of log).advance event := rfl

end LoginPhase

open LoginPhase ChatService

variable {server : Server} {id : UserId} {pwd : Bytes} {conn : Connection}

theorem failed_final : failed.Final := ⟨by decide, by decide⟩

theorem accepted_final : accepted.Final := ⟨by decide, by decide⟩

theorem asking_final : asking.Final := ⟨by decide, by decide⟩

theorem acceptLogin_follows {user : User} (sameId : user.id = id) :
    (acceptLogin user conn).Follows advance (Permits id conn) (fun phase _ => phase.Final)
      bound := by
  subst sameId
  rw [acceptLogin_eq]
  refine ⟨⟨rfl, rfl⟩, fun _ => ⟨rfl, fun offlineMsg => ?_⟩⟩
  have rest : (answerLogin user conn offlineMsg).Follows advance (Permits user.id conn)
      (fun phase _ => phase.Final) accepted :=
    ⟨rfl, fun _ => ⟨rfl, fun _ => ⟨rfl, fun _ => accepted_final⟩⟩⟩
  beta_reduce
  by_cases empty : offlineMsg = []
  · rw [if_neg fun listed => listed empty]
    exact rest
  · rw [if_pos empty]
    exact ⟨rfl, fun _ => rest⟩

/-- Binding leaves the login bound or failed, as it answers. -/
theorem bindUser_follows (selfNode : NodeMeta) :
    (registry (NodeRegistry.bindUser selfNode id)).Follows advance (Permits id conn)
      (fun phase ok => phase = bif ok then bound else failed) entered := by
  refine ⟨trivial, fun _ => ⟨rfl, fun stored => ?_⟩⟩
  match stored with
  | none => exact ⟨trivial, fun _ => rfl⟩
  | some false => exact ⟨trivial, fun _ => rfl⟩
  | some true =>
    refine ⟨rfl, fun added => ?_⟩
    cases added with
    | none => exact ⟨trivial, fun _ => rfl⟩
    | some _ => exact ⟨trivial, fun _ => ⟨rfl, fun _ => rfl⟩⟩

theorem enterLogin_follows {user : User} (sameId : user.id = id) :
    (enterLogin server id conn user).Follows advance (Permits id conn)
      (fun phase _ => phase.Final) asking := by
  refine ⟨⟨rfl, rfl⟩, fun _ => (bindUser_follows server.selfNode).andThen ?_⟩
  rintro phase ok rfl
  cases ok with
  | false => exact ⟨rfl, fun _ => ⟨⟨rfl, by decide⟩, fun _ => failed_final⟩⟩
  | true => exact acceptLogin_follows sameId

theorem judgeLogin_follows (user : User) (session : Option CString) :
    (judgeLogin server id pwd conn user session).Follows advance (Permits id conn)
      (fun phase _ => phase.Final) asking := by
  unfold judgeLogin
  by_cases fits : user.id = id ∧ user.password.bytes = pwd
  · rw [if_pos fits]
    cases session with
    | some nodeId => exact ⟨⟨rfl, by decide⟩, fun _ => asking_final⟩
    | none =>
      by_cases stale : user.state = online
      · rw [if_pos stale]
        exact ⟨⟨fits.1, rfl⟩, fun _ => enterLogin_follows fits.1⟩
      · rw [if_neg stale]
        exact enterLogin_follows fits.1
  · rw [if_neg fits]
    exact ⟨⟨rfl, by decide⟩, fun _ => asking_final⟩

/-- Plain calls are permitted to a login that is still asking, and leave it there. -/
theorem permits_of_plain ⦃β : Type⦄ (call : ServerCall β) (plain : call.Plain) :
    asking.Permits id conn call := by
  cases call with
  | service call =>
    cases call with
    | addLocalConnection userId other => exact plain.elim
    | send other outgoing =>
      cases outgoing with
      | loginAck response => exact plain.elim
      | chat copy => trivial
    | _ => exact plain
  | database call =>
    cases call with
    | updateState userId state => exact plain.elim
    | _ => exact plain
  | _ => exact plain

theorem advance_of_plain ⦃β : Type⦄ (call : ServerCall β) (answer : β) (plain : call.Plain) :
    asking.advance ⟨call, answer⟩ = asking := by
  cases call with
  | service call =>
    cases call with
    | addLocalConnection userId other => exact plain.elim
    | _ => rfl
  | _ => rfl

/-- **The contract of a login.** -/
theorem login_follows (server : Server) (id : UserId) (pwd : Bytes) (conn : Connection) :
    (login server id pwd conn).Follows advance (Permits id conn) (fun phase _ => phase.Final)
      asking := by
  rw [login_eq]
  refine ⟨trivial, fun user => ?_⟩
  have lookup : (registry (NodeRegistry.queryUserNode id)).Follows advance (Permits id conn)
      (fun phase _ => phase = asking) asking :=
    (lookup_only (queryUserNode_only id)).follows permits_of_plain advance_of_plain fun _ => rfl
  apply lookup.andThen
  rintro phase session rfl
  exact judgeLogin_follows user session

/-! ### The contract of all handlers -/

/-- What the thread of a job may ask for, by its log. -/
def Job.Permits (job : Job) (phase : LoginPhase) ⦃β : Type⦄ (call : ServerCall β) : Prop :=
  match job.handler with
  | .login id _ conn => phase.Permits id conn call
  | handler => handler.Asks call

/-- A login ends in a final phase. -/
def Job.Ended (job : Job) (phase : LoginPhase) : Prop :=
  match job.handler with
  | .login _ _ _ => phase.Final
  | _ => True

/-- A thread keeps to the contract of its job, whatever it is answered from here on. -/
def Thread.Keeps (thread : Thread ServerCall Job Unit) : Prop :=
  thread.rest.Follows advance thread.tag.Permits (fun phase _ => thread.tag.Ended phase)
    (.of thread.log)

theorem advance_of_others ⦃β : Type⦄ (call : ServerCall β) (answer : β) (asked : call.OfOthers) :
    asking.advance ⟨call, answer⟩ = asking := by
  cases call with
  | service call =>
    cases call with
    | addLocalConnection userId other =>
      rcases asked with (plain | ⟨_, unbinds⟩) | departs
      · exact plain.elim
      · exact unbinds.elim
      · exact departs.elim
    | _ => rfl
  | _ => rfl

theorem job_permits_of_asks (job : Job) (other : ∀ id pwd conn, job.handler ≠ .login id pwd conn)
    (phase : LoginPhase) ⦃β : Type⦄ (call : ServerCall β) (asked : job.handler.Asks call) :
    job.Permits phase call := by
  unfold Job.Permits
  split
  · rename_i same
    exact absurd same (other _ _ _)
  · exact asked

/-- **Every handler starts within its contract.** -/
theorem start_keeps (cluster : Cluster) (n loop : ℕ) (handler : Handler) :
    (Thread.start (cluster.job n loop handler)).Keeps := by
  by_cases login : ∃ id pwd conn, handler = .login id pwd conn
  · obtain ⟨id, pwd, conn, rfl⟩ := login
    exact login_follows (cluster.server n) id pwd conn
  · have other : ∀ id pwd conn, handler ≠ .login id pwd conn :=
      fun id pwd conn same => login ⟨id, pwd, conn, same⟩
    apply (program_only cluster n handler).follows
    · exact job_permits_of_asks ⟨n, loop, handler⟩ other asking
    · exact fun β call answer asked => advance_of_others call answer (asked.ofOthers other)
    · intro value
      unfold Job.Ended
      split
      · rename_i same
        exact absurd same (other _ _ _)
      · trivial

variable {pool next : ClusterPool}

/-- The contract holds of every thread, whatever the others do. -/
theorem keeps_turn {turn : Turn ClusterEvent} (keeps : ∀ thread ∈ pool.threads, thread.Keeps)
    (moved : clusterSystem.turn pool turn = some next) :
    ∀ thread ∈ next.threads, thread.Keeps := by
  apply ThreadSystem.turn_forall_threads keeps _ _ moved
  · intro thread β request cont answer keeps program
    rw [Thread.Keeps, program] at keeps
    exact keeps.2 answer
  · intro event cluster jobs acted job listed
    obtain ⟨n, loop, handler, rfl⟩ := (Cluster.environment_writes acted).2.2.2.2 job listed
    exact start_keeps pool.state n loop handler

/-- What a thread asks for next is permitted to its job. -/
theorem Thread.Keeps.permits {thread : Thread ServerCall Job Unit} (keeps : thread.Keeps)
    {β : Type} {call : ServerCall β} {cont : β → Calls ServerCall Unit}
    (program : thread.rest = .call call cont) :
    thread.tag.Permits (.of thread.log) call := by
  rw [Thread.Keeps, program] at keeps
  exact keeps.1

end ClusterChat
