/-
# Accounts in use

A login that finds a session answers that the account is in use. What it finds may be the session
in Redis, and then it exists; or it is a route that the node has cached, for a message or for
another login, and a route stays cached after the session is gone.
-/

import ClusterChat.Service.Login

namespace ClusterChat

open ChatService ServerCall

/-! ### What a login says and finds -/

/-- The answer that the account is in use. -/
def ServerCall.SaysInUse : {β : Type} → ServerCall β → Prop
  | _, .service (.send _ (.loginAck response)) => response.errno = 2
  | _, _ => False

instance : {β : Type} → (call : ServerCall β) → Decidable call.SaysInUse
  | _, .service (.send _ (.loginAck response)) =>
    inferInstanceAs (Decidable (response.errno = 2))
  | _, .service (.send _ (.chat _)) => .isFalse id
  | _, .service (.addLocalConnection _ _) => .isFalse id
  | _, .service (.removeLocalConnection _) => .isFalse id
  | _, .service (.removeFromBucket _ _) => .isFalse id
  | _, .service (.getLocalConnection _) => .isFalse id
  | _, .service (.getOrCreateLocalDispatcher _) => .isFalse id
  | _, .service .iterationOrder => .isFalse id
  | _, .registry _ => .isFalse id
  | _, .dispatch _ _ => .isFalse id
  | _, .router _ => .isFalse id
  | _, .channel _ _ => .isFalse id
  | _, .database _ => .isFalse id

/-- A thread has given that answer. -/
def AnsweredInUse (log : List (Event ServerCall)) : Prop :=
  ∃ event ∈ log, event.request.SaysInUse

instance (log : List (Event ServerCall)) : Decidable (AnsweredInUse log) :=
  inferInstanceAs (Decidable (∃ event ∈ log, event.request.SaysInUse))

/-- A route to the user in the node's cache, or a session of the user in Redis. -/
def FindsSession (userId : UserId) : Event ServerCall → Prop
  | ⟨.registry (.node (.getCachedUserNode asked)), some _⟩ => asked = userId
  | ⟨.registry (.redis (.command (.getSession asked))), some (some _)⟩ => asked = userId
  | _ => False

/-- A thread has been answered a session of the user. -/
def Found (userId : UserId) (log : List (Event ServerCall)) : Prop :=
  ∃ event ∈ log, FindsSession userId event

/-- A login says that the account is in use only when it has found a session. -/
def SaysWhenFound (userId : UserId) (log : List (Event ServerCall)) {β : Type}
    (call : ServerCall β) : Prop :=
  call.SaysInUse → Found userId log

section Contract

variable {userId : UserId} {log : List (Event ServerCall)} {α : Type}

theorem Found.cons (found : Found userId log) (event : Event ServerCall) :
    Found userId (event :: log) := by
  obtain ⟨earlier, listed, finds⟩ := found
  exact ⟨earlier, List.mem_cons_of_mem _ listed, finds⟩

theorem Found.of_event {event : Event ServerCall} (finds : FindsSession userId event) :
    Found userId (event :: log) :=
  ⟨event, List.mem_cons_self, finds⟩

/-- Once a session was found, anything may be said. -/
theorem Found.meets (found : Found userId log) (program : Calls ServerCall α) :
    program.Meets (SaysWhenFound userId) (fun log _ => Found userId log) log := by
  induction program generalizing log with
  | ret value => exact found
  | call request next ih => exact ⟨fun _ => found, fun answer => ih answer (found.cons _)⟩

/-- A program that does not say it keeps to the contract. -/
theorem quiet_meets {program : Calls ServerCall α}
    (quiet : program.Only fun _ call => ¬call.SaysInUse) (log : List (Event ServerCall)) :
    program.Meets (SaysWhenFound userId) (fun _ _ => True) log :=
  quiet.meets (fun _ _ _ silent said => absurd said silent) log

theorem registry_quiet (program : Calls RegistryCall α) :
    (registry program).Only fun _ call => ¬call.SaysInUse :=
  (Calls.only_of_forall (fun _ _ => id) program).lift

/-- A session that `queryUserNode` answers was found. -/
theorem queryUserNode_meets :
    (registry (NodeRegistry.queryUserNode userId)).Meets (SaysWhenFound userId)
      (fun log session => session ≠ none → Found userId log) log := by
  refine ⟨fun said => said.elim, fun cached => ?_⟩
  cases cached with
  | some route =>
    have finds : FindsSession userId
        ⟨.registry (.node (.getCachedUserNode userId)), some route⟩ := rfl
    exact ((Found.of_event finds).meets _).mono (fun _ _ _ => id) fun _ _ found _ => found
  | none =>
    -- under the mutex of the client, the session is asked for
    refine ⟨fun said => said.elim, fun _ => ⟨fun said => said.elim, fun reply => ?_⟩⟩
    cases reply with
    | none => exact ⟨fun said => said.elim, fun _ none => absurd rfl none⟩
    | some session =>
      cases session with
      | none => exact ⟨fun said => said.elim, fun _ none => absurd rfl none⟩
      | some value =>
        have finds : FindsSession userId
            ⟨.registry (.redis (.command (.getSession userId))), some (some value)⟩ := rfl
        exact ((Found.of_event finds).meets _).mono (fun _ _ _ => id) fun _ _ found _ => found

variable {server : Server} {pwd : Bytes} {conn : Connection} {user : User}

theorem answerLogin_quiet (offlineMsg : List Bytes) :
    (answerLogin user conn offlineMsg).Only fun _ call => ¬call.SaysInUse :=
  ⟨id, fun _ => ⟨id, fun _ => ⟨(by decide : (0 : ℕ) ≠ 2), fun _ => trivial⟩⟩⟩

theorem acceptLogin_quiet : (acceptLogin user conn).Only fun _ call => ¬call.SaysInUse := by
  rw [acceptLogin_eq]
  refine ⟨id, fun _ => ⟨id, fun offlineMsg => ?_⟩⟩
  beta_reduce
  by_cases empty : offlineMsg ≠ []
  · rw [if_pos empty]
    exact ⟨id, fun _ => answerLogin_quiet offlineMsg⟩
  · rw [if_neg empty]
    exact answerLogin_quiet offlineMsg

theorem enterLogin_quiet :
    (enterLogin server userId conn user).Only fun _ call => ¬call.SaysInUse := by
  refine ⟨id, fun _ => (registry_quiet _).bind fun bound => ?_⟩
  cases bound with
  | false => exact ⟨id, fun _ => ⟨(by decide : (3 : ℕ) ≠ 2), fun _ => trivial⟩⟩
  | true => exact acceptLogin_quiet

theorem judgeLogin_meets {session : Option CString} (log : List (Event ServerCall))
    (found : session ≠ none → Found userId log) :
    (judgeLogin server userId pwd conn user session).Meets (SaysWhenFound userId)
      (fun _ _ => True) log := by
  unfold judgeLogin
  by_cases fits : user.id = userId ∧ user.password.bytes = pwd
  · rw [if_pos fits]
    cases session with
    | some nodeId => exact ⟨fun _ => found (Option.some_ne_none nodeId), fun _ => trivial⟩
    | none =>
      apply quiet_meets
      by_cases stale : user.state = online
      · rw [if_pos stale]
        exact ⟨id, fun _ => enterLogin_quiet⟩
      · rw [if_neg stale]
        exact enterLogin_quiet
  · rw [if_neg fits]
    exact ⟨fun said => absurd said (by decide : (1 : ℕ) ≠ 2), fun _ => trivial⟩

/-- **A login says that the account is in use only when it has found a session.** -/
theorem login_meets (server : Server) (userId : UserId) (pwd : Bytes) (conn : Connection) :
    (login server userId pwd conn).Meets (SaysWhenFound userId) (fun _ _ => True) [] := by
  rw [login_eq]
  refine ⟨fun said => said.elim, fun user => Calls.meets_bind.mpr ?_⟩
  exact queryUserNode_meets.mono (fun _ _ _ => id) fun log session found =>
    judgeLogin_meets log found

end Contract

/-! ### Runs -/

/-- The thread has started and has not come to its end. -/
def AtWork (pool : ClusterPool) (number : ℕ) : Prop :=
  ∃ thread ∈ pool.threads[number]?, thread.rest.returned = none

instance (pool : ClusterPool) (number : ℕ) : Decidable (AtWork pool number) :=
  inferInstanceAs (Decidable (∃ thread ∈ pool.threads[number]?, thread.rest.returned = none))

/-- Who logs in, with which password, and on which connection. -/
def Handler.credentials : Handler → Option (UserId × Bytes × Connection)
  | login id pwd conn => some (id, pwd, conn)
  | _ => none

theorem Handler.credentials_eq_some {handler : Handler} {id : UserId} {pwd : Bytes}
    {conn : Connection} : handler.credentials = some (id, pwd, conn) ↔
      handler = .login id pwd conn := by
  cases handler with
  | login other pwd' conn' =>
    rw [credentials, Option.some.injEq, Prod.mk.injEq, Prod.mk.injEq, Handler.login.injEq]
  | _ => exact iff_of_false (fun same => by cases same) fun same => by cases same

/-- The user whose route the next call of a login looks up in the cache of its node. -/
def nextLookup : Calls ServerCall Unit → Option UserId
  | .call (.registry (.node (.getCachedUserNode userId))) _ => some userId
  | _ => none

/-- Where a node has a route to the user in its cache, the user has a session. -/
def RouteCurrent (cluster : Cluster) (n : ℕ) : Option UserId → Prop
  | none => True
  | some userId => ((cluster.nodes n).registry.route userId).isSome = true →
      (cluster.store.session userId).isSome = true

instance (cluster : Cluster) (n : ℕ) :
    (asked : Option UserId) → Decidable (RouteCurrent cluster n asked)
  | none => .isTrue trivial
  | some userId => inferInstanceAs (Decidable
      (((cluster.nodes n).registry.route userId).isSome = true →
        (cluster.store.session userId).isSome = true))

/-- The condition on a turn: where a login finds a route in the cache of its node, the user has a
session. -/
def RoutesCurrent (pool : ClusterPool) : Turn ClusterEvent → Prop
  | .thread number => ∀ thread ∈ pool.threads[number]?,
      thread.tag.handler.credentials.isSome = true →
        RouteCurrent pool.state thread.tag.node (nextLookup thread.rest)
  | .environment _ => True

instance (pool : ClusterPool) : (turn : Turn ClusterEvent) → Decidable (RoutesCurrent pool turn)
  | .thread number => inferInstanceAs (Decidable (∀ thread ∈ pool.threads[number]?,
      thread.tag.handler.credentials.isSome = true →
        RouteCurrent pool.state thread.tag.node (nextLookup thread.rest)))
  | .environment _ => .isTrue trivial

/-- A login that says that the account is in use has found a session, and will. -/
def Thread.Truthful (thread : Thread ServerCall Job Unit) : Prop :=
  ∀ id pwd conn, thread.tag.handler = .login id pwd conn →
    thread.rest.Meets (SaysWhenFound id) (fun _ _ => True) thread.log ∧
      (AnsweredInUse thread.log → Found id thread.log)

theorem start_truthful (cluster : Cluster) (n loop : ℕ) (handler : Handler) :
    (Thread.start (cluster.job n loop handler)).Truthful := by
  rintro id pwd conn same
  obtain rfl : handler = .login id pwd conn := same
  refine ⟨login_meets (cluster.server n) id pwd conn, ?_⟩
  rintro ⟨event, listed, -⟩
  cases listed

theorem Thread.Truthful.answered {thread : Thread ServerCall Job Unit} (truthful : thread.Truthful)
    {β : Type} {request : ServerCall β} {cont : β → Calls ServerCall Unit}
    (program : thread.rest = .call request cont) (answer : β) :
    (thread.answered request cont answer).Truthful := by
  intro id pwd conn same
  obtain ⟨meets, found⟩ := truthful id pwd conn same
  rw [program] at meets
  refine ⟨meets.2 answer, ?_⟩
  rintro ⟨event, listed, said⟩
  rcases List.mem_cons.mp listed with rfl | earlier
  · exact (meets.1 said).cons _
  · exact (found ⟨event, earlier, said⟩).cons _

theorem truthful_of_reach {allowed : ClusterPool → Turn ClusterEvent → Prop} {cluster : Cluster}
    {pool : ClusterPool} (reached : clusterSystem.machine.Reach allowed ⟨cluster, []⟩ pool) :
    ∀ thread ∈ pool.threads, thread.Truthful := by
  apply reached.invariant (fun pool => ∀ thread ∈ pool.threads, thread.Truthful)
  · exact List.forall_mem_nil _
  · intro pool next turn truthful _ moved
    apply ThreadSystem.turn_forall_threads truthful _ _ moved
    · exact fun thread β request cont answer truthful program => truthful.answered program answer
    · intro event cluster jobs acted job listed
      obtain ⟨n, loop, handler, rfl⟩ := (Cluster.environment_writes acted).2.2.2.2 job listed
      exact start_truthful pool.state n loop handler

variable {clockMs : Int} {configs : ℕ → ServerConfig} {database : Database} {pool : ClusterPool}

/-- A route is found in the cache of the node, and a session in Redis. -/
theorem session_of_finds {number : ℕ} {job : Job} {userId : UserId} {β : Type}
    {request : ServerCall β} {cont : β → Calls ServerCall Unit} {answer : β}
    {cluster after : Cluster} (ran : Cluster.exec number job request cluster = some (answer, after))
    (finds : FindsSession userId ⟨request, answer⟩)
    (current : RouteCurrent cluster job.node (nextLookup (.call request cont))) :
    (cluster.store.session userId).isSome = true := by
  cases request with
  | registry call =>
    obtain ⟨⟨value, state⟩, acted, ran⟩ := Option.map_eq_some_iff.mp ran
    obtain ⟨rfl, -⟩ := Prod.mk.inj ran
    cases call with
    | node call =>
      cases call with
      | getCachedUserNode asked =>
        obtain ⟨rfl, -⟩ := Prod.mk.inj (Option.some.inj acted)
        -- the lookup answers what is cached
        cases cached : (cluster.view job.node).node.route asked with
        | none =>
          rw [cached] at finds
          exact finds.elim
        | some route =>
          rw [cached] at finds
          obtain rfl : asked = userId := finds
          exact current (Option.isSome_of_eq_some cached)
      | _ => exact finds.elim
    | redis call =>
      cases call with
      | client call => exact finds.elim
      | command command =>
        cases command with
        | getSession asked =>
          obtain ⟨rfl, -⟩ := Prod.mk.inj (Option.some.inj acted)
          change FindsSession userId ⟨_, some (cluster.store.session asked)⟩ at finds
          cases stored : cluster.store.session asked with
          | none =>
            rw [stored] at finds
            exact finds.elim
          | some value =>
            rw [stored] at finds
            obtain rfl : asked = userId := finds
            rw [stored]
            rfl
        | _ => exact finds.elim
  | _ => exact finds.elim

/-- What a login has found in a run was there at some moment of its work. -/
theorem found_moment {visited : List ClusterPool}
    (visits : clusterSystem.machine.Visits RoutesCurrent (startPool clockMs configs database)
      visited) :
    ∀ pool ∈ visited.head?, ∀ (number : ℕ) (thread : Thread ServerCall Job Unit) (id : UserId),
      pool.threads[number]? = some thread → thread.tag.handler.credentials.isSome = true →
      Found id thread.log →
        ∃ moment ∈ visited, AtWork moment number ∧
          (moment.state.store.session id).isSome = true := by
  induction visits with
  | start =>
    rintro pool isStart number thread id here - -
    obtain rfl := Option.some.inj isStart
    cases here
  | @step pool next turn before visits admitted moved ih =>
    rintro same isNext number thread id here logsIn found
    obtain rfl : next = same := Option.some.inj isNext
    have earlier : ∀ old, pool.threads[number]? = some old → old.tag = thread.tag →
        Found id old.log → ∃ moment ∈ next :: pool :: before, AtWork moment number ∧
          (moment.state.store.session id).isSome = true := by
      intro old there sameTag found
      obtain ⟨moment, passed, atWork⟩ :=
        ih pool rfl number old id there (sameTag ▸ logsIn) found
      exact ⟨moment, List.mem_cons_of_mem _ passed, atWork⟩
    rcases ThreadSystem.turn_cases moved with
      ⟨acting, old, β, request, cont, answer, rfl, there, program, ran, threads⟩ |
      ⟨event, jobs, rfl, acted, threads⟩
    · rw [threads] at here
      rcases ThreadSystem.getElem?_set_cases here with ⟨rfl, rfl⟩ | ⟨-, here⟩
      · obtain ⟨event, listed, finds⟩ := found
        rcases List.mem_cons.mp listed with rfl | listed
        · -- the session is found in this very turn
          have atWork : AtWork pool number := ⟨old, there, by rw [program]; rfl⟩
          refine ⟨pool, List.mem_cons_of_mem _ List.mem_cons_self, atWork, ?_⟩
          apply session_of_finds ran finds
          rw [← program]
          exact admitted old there logsIn
        · exact earlier old there rfl ⟨event, listed, finds⟩
      · exact earlier thread here rfl found
    · rw [threads] at here
      rcases ThreadSystem.getElem?_append_cases here with here | started
      · exact earlier thread here rfl found
      · obtain ⟨job, -, rfl⟩ := List.mem_map.mp started
        obtain ⟨event, listed, -⟩ := found
        cases listed

/-- **The account was in use.** In every run in which logins find in the caches of their nodes
only routes of users that have a session, a login that says that the account is in use was at
work at a moment when the user had a session. -/
theorem inUse_had_session {before : List ClusterPool}
    (visits : clusterSystem.machine.Visits RoutesCurrent (startPool clockMs configs database)
      (pool :: before))
    {number : ℕ} {thread : Thread ServerCall Job Unit} {id : UserId} {pwd : Bytes}
    {conn : Connection} (here : pool.threads[number]? = some thread)
    (logsIn : thread.tag.handler = .login id pwd conn) (answered : AnsweredInUse thread.log) :
    ∃ moment ∈ pool :: before, AtWork moment number ∧
      (moment.state.store.session id).isSome = true := by
  have truthful := truthful_of_reach visits.reach thread (List.mem_of_getElem? here)
  have found := (truthful id pwd conn logsIn).2 answered
  exact found_moment visits pool rfl number thread id here (by rw [logsIn]; rfl) found

/-- A node comes up, and one client connects to it and another one to the other node. -/
def nodeAndClients : List (Turn ClusterEvent) :=
  ThreadSystem.handling 0 10 (.initNode 0 0) ++
    [.environment (.connect 0 0), .environment (.connect 1 0)]

/-- A user who is logged in logs in again. -/
theorem inUse_had_session_twice :
    ∃ pool before thread, clusterSystem.machine.Visits RoutesCurrent
        (startPool 0 (twoServers 4) twoUsers) (pool :: before) ∧
      pool.threads[2]? = some thread ∧ thread.tag.handler = .login 7 password.bytes ⟨0, 0⟩ ∧
      AnsweredInUse thread.log ∧
      ∃ moment ∈ pool :: before, AtWork moment 2 ∧
        (moment.state.store.session 7).isSome = true := by
  have ran : ((clusterSystem.machine.trail RoutesCurrent (startPool 0 (twoServers 4) twoUsers) []
      (nodeAndClients ++ ThreadSystem.handling 1 16 (.request 0 (.login 7 password.bytes)) ++
        ThreadSystem.handling 2 4 (.request 0 (.login 7 password.bytes)))).any fun visited =>
      visited.head?.any fun pool => (pool.threads[2]?).any fun thread =>
        decide (thread.tag.handler.credentials = some (7, password.bytes, ⟨0, 0⟩) ∧
          AnsweredInUse thread.log)) = true := by
    decide +kernel
  obtain ⟨visited, went, found⟩ := (Option.any_eq_true _ _).mp ran
  obtain ⟨pool, latest, found⟩ := (Option.any_eq_true _ _).mp found
  obtain ⟨thread, here, found⟩ := (Option.any_eq_true _ _).mp found
  obtain ⟨logsIn, answered⟩ := of_decide_eq_true found
  obtain ⟨before, rfl⟩ := List.head?_eq_some_iff.mp latest
  have visits := Machine.Visits.of_trail .start went
  have logsIn := Handler.credentials_eq_some.mp logsIn
  exact ⟨pool, before, thread, visits, here, logsIn, answered,
    inUse_had_session visits here logsIn answered⟩

/-- A message to a user who is logged in leaves a route in the cache of the other node. The user
logs out, logs in on the other node with the right password, and is told that the account is in
use, when nobody has had a session since before that login. -/
theorem inUse_after_logout :
    ∃ pool before thread, clusterSystem.machine.Visits Machine.anyStep
        (startPool 0 (twoServers 4) twoUsers) (pool :: before) ∧
      pool.threads[4]? = some thread ∧ thread.tag.handler = .login 7 password.bytes ⟨1, 0⟩ ∧
      (pool.state.database.user 7).id = 7 ∧ (pool.state.database.user 7).password = password ∧
      AnsweredInUse thread.log ∧
      ∀ moment ∈ pool :: before, AtWork moment 4 → moment.state.store.session 7 = none := by
  have ran : ((clusterSystem.machine.trail Machine.anyStep
      (startPool 0 (twoServers 4) twoUsers) []
      (nodeAndClients ++ ThreadSystem.handling 1 16 (.request 0 (.login 7 password.bytes)) ++
        ThreadSystem.handling 2 22 (.request 1 (.oneChat 7 [])) ++
        ThreadSystem.handling 3 7 (.request 0 (.logout 7)) ++
        ThreadSystem.handling 4 4 (.request 1 (.login 7 password.bytes)))).any fun visited =>
      decide (∀ moment ∈ visited, AtWork moment 4 → moment.state.store.session 7 = none) &&
      visited.head?.any fun pool =>
        decide ((pool.state.database.user 7).id = 7 ∧
          (pool.state.database.user 7).password = password) &&
        (pool.threads[4]?).any fun thread =>
          decide (thread.tag.handler.credentials = some (7, password.bytes, ⟨1, 0⟩) ∧
            AnsweredInUse thread.log)) = true := by
    decide +kernel
  obtain ⟨visited, went, found⟩ := (Option.any_eq_true _ _).mp ran
  obtain ⟨gone, found⟩ := Bool.and_eq_true_iff.mp found
  obtain ⟨pool, latest, found⟩ := (Option.any_eq_true _ _).mp found
  obtain ⟨known, found⟩ := Bool.and_eq_true_iff.mp found
  obtain ⟨thread, here, found⟩ := (Option.any_eq_true _ _).mp found
  obtain ⟨sameId, samePassword⟩ := of_decide_eq_true known
  obtain ⟨logsIn, answered⟩ := of_decide_eq_true found
  obtain ⟨before, rfl⟩ := List.head?_eq_some_iff.mp latest
  exact ⟨pool, before, thread, .of_trail .start went, here,
    Handler.credentials_eq_some.mp logsIn, sameId, samePassword, answered, of_decide_eq_true gone⟩

end ClusterChat
