/-
# Messages reach the users they are for

A login enters its connection into the table only after it has compared the password with the one in
the user's row, and handlers of messages take connections from the table only. So whatever a server
passes to a client as a message for a user, it passes to a connection on which that user has logged
in, and it answers a login without an error only on the connection that has given the password, with
what the database holds for that user.
-/

import ClusterChat.Service.Accounts
import ClusterChat.Service.StaleRoutes

namespace ClusterChat

open ServerCall ChatService

/-! ### The contract of handlers -/

/-- By a log, the row of a user has been read, and it fits the id and the password. -/
def FitsPassword (id : UserId) (pwd : Bytes) (log : List (Event ServerCall)) : Prop :=
  ∃ user : User, ⟨.database (.queryUser id), user⟩ ∈ log ∧ user.id = id ∧ user.password.bytes = pwd

/-- By a log, a connection has been found for a user. -/
def FoundConnection (userId : UserId) (conn : Connection) (log : List (Event ServerCall)) : Prop :=
  ⟨.service (.getLocalConnection userId), some conn⟩ ∈ log

/-- By a log, an answer without an error tells what the database has answered about the user. -/
def TellsAnswers (id : UserId) (response : LoginResponse) (log : List (Event ServerCall)) : Prop :=
  match response with
  | .accepted user offlineMsg friends groups =>
    user.id = id ∧ ⟨.database (.queryOffline id), offlineMsg⟩ ∈ log ∧
      ⟨.database (.queryFriends id), friends⟩ ∈ log ∧ ⟨.database (.queryGroups id), groups⟩ ∈ log
  | _ => True

theorem FitsPassword.mono {id : UserId} {pwd : Bytes} {log longer : List (Event ServerCall)}
    (fits : FitsPassword id pwd log) (suffix : log <:+ longer) : FitsPassword id pwd longer := by
  obtain ⟨user, read, same⟩ := fits
  exact ⟨user, suffix.subset read, same⟩

theorem TellsAnswers.mono {id : UserId} {response : LoginResponse}
    {log longer : List (Event ServerCall)} (tells : TellsAnswers id response log)
    (suffix : log <:+ longer) : TellsAnswers id response longer := by
  cases response with
  | accepted user offlineMsg friends groups =>
    obtain ⟨same, offline, friends, groups⟩ := tells
    exact ⟨same, suffix.subset offline, suffix.subset friends, suffix.subset groups⟩
  | _ => trivial

/-- What a handler of a kind may do with connections, by its log: a login enters its own one, for a
user whose password it has compared, and answers on it; a message is passed to a connection that was
found for its recipient. -/
def ConnectionGuard (handler : Handler) (log : List (Event ServerCall)) :
    {β : Type} → ServerCall β → Prop
  | _, .service (.addLocalConnection userId conn) =>
    ∃ pwd, handler = .login userId pwd conn ∧ FitsPassword userId pwd log
  | _, .service (.send conn (.loginAck response)) =>
    ∃ id pwd, handler = .login id pwd conn ∧
      (response.errno = 0 → FitsPassword id pwd log ∧ TellsAnswers id response log)
  | _, .service (.send conn (.chat copy)) => FoundConnection copy.recipient conn log
  | _, .dispatch _ (.push task) => FoundConnection task.copy.recipient task.conn log
  | _, _ => True

/-- A program keeps to it, whatever it is answered. -/
def GuardsConnections {α : Type} (handler : Handler) (program : Calls ServerCall α)
    (log : List (Event ServerCall)) (post : List (Event ServerCall) → α → Prop) : Prop :=
  program.Meets (ConnectionGuard handler) post log

/-- What concerns no connection of a client. -/
def ServerCall.Apart ⦃β : Type⦄ (call : ServerCall β) : Prop :=
  ∀ handler log, ConnectionGuard handler log call

theorem apart_of_router ⦃β : Type⦄ (call : ServerCall β) (asked : call.OfRouter) : call.Apart := by
  intro handler log
  cases call with
  | router call => trivial
  | channel index call => trivial
  | _ => exact asked.elim

theorem registry_apart {α : Type} (program : Calls RegistryCall α) :
    (registry program).Only Apart :=
  Calls.Only.lift (Calls.only_of_forall (fun _ _ _ _ => trivial) program)

/-- What other handlers than those of messages and logins ask for. -/
theorem apart_of_bare ⦃β : Type⦄ (call : ServerCall β) (asked : call.OfOthers) (bare : call.Bare) :
    call.Apart := by
  intro handler log
  cases call with
  | service call =>
    cases call with
    | addLocalConnection userId conn =>
      rcases asked with (plain | ⟨_, unbinds⟩) | departs
      · exact plain.elim
      · exact unbinds.elim
      · exact departs.elim
    | send conn outgoing =>
      cases outgoing with
      | loginAck response =>
        rcases asked with (plain | ⟨_, unbinds⟩) | departs
        · exact plain.elim
        · exact unbinds.elim
        · exact departs.elim
      | chat copy => exact absurd bare (Multiset.singleton_ne_zero copy)
    | _ => trivial
  | dispatch index call =>
    cases call with
    | push task => exact absurd bare (Multiset.singleton_ne_zero task.copy)
    | _ => trivial
  | _ => trivial

section Guards

variable {α β : Type} {handler : Handler} {log : List (Event ServerCall)}

/-- A part that concerns no connection, and what comes after it. -/
theorem GuardsConnections.apart {program : Calls ServerCall α} {cont : α → Calls ServerCall β}
    {post : List (Event ServerCall) → β → Prop} (apart : program.Only Apart)
    (rest : ∀ longer value, log <:+ longer → GuardsConnections handler (cont value) longer post) :
    GuardsConnections handler (program >>= cont) log post := by
  apply Calls.meets_bind.mpr
  apply (apart.meets_longer (fun log _ _ asked => asked handler log) log).mono
  · exact fun _ _ _ permitted => permitted
  · exact fun longer value suffix => rest longer value suffix

theorem guards_of_apart {program : Calls ServerCall α} (apart : program.Only Apart) :
    GuardsConnections handler program log fun _ _ => True :=
  apart.meets (fun log _ _ asked => asked handler log) log

end Guards

namespace ChatService

theorem unbindUser_apart (server : Server) (userId : UserId) :
    (unbindUser server userId).Only Apart :=
  (registry_apart _).bind fun _ => trivial

theorem deliverToLocalUser_guards (handler : Handler) (copy : Copy)
    (log : List (Event ServerCall)) :
    GuardsConnections handler (deliverToLocalUser copy) log fun _ _ => True := by
  refine ⟨trivial, fun found => ?_⟩
  cases found with
  | none => trivial
  | some conn =>
    refine ⟨trivial, fun dispatcher => ?_⟩
    -- the log holds the answer that the task is made from
    refine ⟨List.mem_cons_of_mem _ List.mem_cons_self, fun reply => ?_⟩
    match reply with
    | .full => trivial
    | .pushed false => trivial
    | .pushed true =>
      refine ⟨trivial, fun inLoop => ?_⟩
      cases inLoop with
      | true => exact ⟨trivial, fun _ => ⟨trivial, fun _ => trivial⟩⟩
      | false => exact ⟨trivial, fun _ => trivial⟩

theorem oneChat_guards (handler : Handler) (server : Server) (copy : Copy)
    (log : List (Event ServerCall)) :
    GuardsConnections handler (oneChat server copy) log fun _ _ => True := by
  have stores : (database (.insertOffline copy)).Only Apart :=
    ⟨fun _ _ => trivial, fun _ => trivial⟩
  apply Calls.meets_bind.mpr
  apply (deliverToLocalUser_guards handler copy log).mono fun _ _ _ permitted => permitted
  intro log delivered _
  apply guards_of_apart
  cases delivered with
  | true => trivial
  | false =>
    apply (registry_apart _).bind
    intro found
    match found with
    | none => exact stores
    | some (nodeId, nodeMeta) =>
      dsimp only
      split
      · exact (unbindUser_apart server copy.recipient).bind fun _ => stores
      · have warms := ClusterRouter.prewarmNode_ofRouter server.shardCount nodeMeta
        have sends := ClusterRouter.sendOneChat_ofRouter server.shardCount nodeMeta copy
        refine (warms.mono apart_of_router).bind fun _ => ?_
        refine (sends.mono apart_of_router).bind fun accepted => ?_
        cases accepted with
        | true => trivial
        | false => exact stores

/-- Each connection that was found for a member is in the log. -/
theorem lookupMembers_guards (handler : Handler) (members : List UserId)
    (log : List (Event ServerCall)) :
    GuardsConnections handler (lookupMembers members) log fun longer found => log <:+ longer ∧
      ∀ localConn ∈ found.1, FoundConnection localConn.1 localConn.2 longer := by
  induction members generalizing log with
  | nil => exact ⟨List.suffix_refl log, List.forall_mem_nil _⟩
  | cons id rest ih =>
    rw [lookupMembers, service_bind]
    refine ⟨trivial, fun found => ?_⟩
    apply Calls.meets_bind.mpr
    apply (ih (⟨.service (.getLocalConnection id), found⟩ :: log)).mono
    · exact fun _ _ _ permitted => permitted
    rintro longer ⟨localConns, unresolved⟩ ⟨suffix, all⟩
    have suffix' := (List.suffix_cons _ log).trans suffix
    cases found with
    | none => exact ⟨suffix', all⟩
    | some conn =>
      refine ⟨suffix', ?_⟩
      intro localConn listed
      rcases List.mem_cons.mp listed with rfl | listed
      · exact suffix.subset List.mem_cons_self
      · exact all localConn listed

theorem sendToConnections_guards (handler : Handler) (message : Message)
    (localConns : List (UserId × Connection)) (log : List (Event ServerCall))
    (all : ∀ localConn ∈ localConns, FoundConnection localConn.1 localConn.2 log) :
    GuardsConnections handler (sendToConnections message localConns) log fun _ _ => True := by
  induction localConns generalizing log with
  | nil => trivial
  | cons localConn rest ih =>
    refine ⟨all localConn List.mem_cons_self, fun _ => ih _ ?_⟩
    intro other listed
    exact List.mem_cons_of_mem _ (all other (List.mem_cons_of_mem _ listed))

theorem groupChat_guards (handler : Handler) (server : Server) (message : Message)
    (userId : UserId) (groupId : Int32) :
    GuardsConnections handler (groupChat server message userId groupId) [] fun _ _ => True := by
  have resolves : ∀ members buckets offlineIds,
      (resolveMembers server members buckets offlineIds).Only Apart := by
    intro members
    induction members with
    | nil => exact fun _ _ => trivial
    | cons id rest ih =>
      intro buckets offlineIds
      refine (registry_apart _).bind fun found => ?_
      match found with
      | none => exact ih _ _
      | some (nodeId, nodeMeta) =>
        dsimp only
        split
        · exact (unbindUser_apart server id).bind fun _ => ih _ _
        · exact ih _ _
  have sends (buckets : List (CString × List UserId)) : ∀ offlineIds,
      (sendBuckets server message buckets offlineIds).Only Apart := by
    induction buckets with
    | nil => exact fun _ => trivial
    | cons bucket rest ih =>
      intro offlineIds
      refine (registry_apart _).bind fun found => ?_
      cases found with
      | none => exact ih _
      | some nodeMeta =>
        have warms := ClusterRouter.prewarmNode_ofRouter server.shardCount nodeMeta
        have sent :=
          ClusterRouter.sendGroupChat_ofRouter server.shardCount nodeMeta bucket.2 message
        refine (warms.mono apart_of_router).bind fun _ => ?_
        refine (sent.mono apart_of_router).bind fun accepted => ?_
        cases accepted <;> exact ih _
  have stores : ∀ ids, (insertAll message ids).Only Apart := by
    intro ids
    induction ids with
    | nil => trivial
    | cons id rest ih => exact ⟨fun _ _ => trivial, fun _ => ih⟩
  rw [groupChat, database_bind]
  refine ⟨trivial, fun members => ?_⟩
  dsimp only
  by_cases empty : members = []
  · rw [if_neg fun listed => listed empty]
    trivial
  · rw [if_pos empty]
    apply Calls.meets_bind.mpr
    apply (lookupMembers_guards handler members _).mono fun _ _ _ permitted => permitted
    rintro log ⟨localConns, unresolved⟩ ⟨-, all⟩
    apply GuardsConnections.apart (resolves unresolved [] [])
    rintro log ⟨buckets, offlineIds⟩ suffix
    have all' : ∀ localConn ∈ localConns, FoundConnection localConn.1 localConn.2 log :=
      fun localConn listed => suffix.subset (all localConn listed)
    apply Calls.meets_bind.mpr
    apply (sendToConnections_guards handler message localConns log all').mono
    · exact fun _ _ _ permitted => permitted
    · intro log _ _
      refine ⟨trivial, fun order => ?_⟩
      apply guards_of_apart
      exact (sends _ offlineIds).bind fun unsent => stores unsent

theorem handleClusterFrame_guards (handler : Handler) (server : Server) (frame : Frame) :
    GuardsConnections handler (handleClusterFrame server frame) [] fun _ _ => True := by
  have one : ∀ copy log,
      GuardsConnections handler (handleClusterOneChatFrame server copy) log fun _ _ => True := by
    intro copy log
    apply Calls.meets_bind.mpr
    apply (deliverToLocalUser_guards handler copy log).mono fun _ _ _ permitted => permitted
    intro log delivered _
    apply guards_of_apart
    cases delivered with
    | true => trivial
    | false =>
      have drops : (dropStaleRoute server copy.recipient).Only Apart := by
        refine (registry_apart _).bind fun found => ?_
        cases found with
        | none => exact unbindUser_apart server copy.recipient
        | some nodeId =>
          dsimp only
          split
          · exact unbindUser_apart server copy.recipient
          · trivial
      exact drops.bind fun _ => ⟨fun _ _ => trivial, fun _ => trivial⟩
  have group : ∀ message ids log,
      GuardsConnections handler (handleClusterGroupChat server message ids) log
        fun _ _ => True := by
    intro message ids
    induction ids with
    | nil => exact fun _ => trivial
    | cons userId rest ih =>
      intro log
      apply Calls.meets_bind.mpr
      apply (one ⟨message, userId⟩ log).mono fun _ _ _ permitted => permitted
      exact fun log _ _ => ih log
  rw [handleClusterFrame]
  split
  · exact one _ []
  · exact group _ _ []

/-! ### Logins -/

theorem acceptLogin_guards {id : UserId} {pwd : Bytes} {conn : Connection} {user : User}
    (sameId : user.id = id) {log : List (Event ServerCall)} (fits : FitsPassword id pwd log) :
    GuardsConnections (.login id pwd conn) (acceptLogin user conn) log fun _ _ => True := by
  subst sameId
  have answers : ∀ (offlineMsg : List Bytes) (longer : List (Event ServerCall)), log <:+ longer →
      ⟨.database (.queryOffline user.id), offlineMsg⟩ ∈ longer →
        GuardsConnections (.login user.id pwd conn) (answerLogin user conn offlineMsg) longer
          fun _ _ => True := by
    intro offlineMsg longer suffix asked
    refine ⟨trivial, fun friends => ⟨trivial, fun groups => ⟨?_, fun _ => trivial⟩⟩⟩
    refine ⟨user.id, pwd, rfl, fun _ => ⟨?_, rfl, ?_, ?_, ?_⟩⟩
    · apply fits.mono
      exact suffix.trans ((List.suffix_cons _ _).trans (List.suffix_cons _ _))
    · exact List.mem_cons_of_mem _ (List.mem_cons_of_mem _ asked)
    · exact List.mem_cons_of_mem _ List.mem_cons_self
    · exact List.mem_cons_self
  rw [acceptLogin_eq]
  refine ⟨trivial, fun _ => ⟨trivial, fun offlineMsg => ?_⟩⟩
  have two := (List.suffix_cons (⟨.database (.updateState user.id online), ()⟩ : Event ServerCall)
    log).trans (List.suffix_cons
      (⟨.database (.queryOffline user.id), offlineMsg⟩ : Event ServerCall)
      _)
  beta_reduce
  split
  · refine ⟨trivial, fun _ => answers offlineMsg _ ?_ ?_⟩
    · exact two.trans (List.suffix_cons _ _)
    · exact List.mem_cons_of_mem _ List.mem_cons_self
  · exact answers offlineMsg _ two List.mem_cons_self

theorem login_guards (server : Server) (id : UserId) (pwd : Bytes) (conn : Connection) :
    GuardsConnections (.login id pwd conn) (login server id pwd conn) [] fun _ _ => True := by
  have enters : ∀ (user : User) (log : List (Event ServerCall)), user.id = id →
      FitsPassword id pwd log →
        GuardsConnections (.login id pwd conn) (enterLogin server id conn user) log
          fun _ _ => True := by
    intro user log sameId fits
    refine ⟨⟨pwd, rfl, fits⟩, fun _ => ?_⟩
    apply GuardsConnections.apart (registry_apart _)
    intro log bound suffix
    have fits' : FitsPassword id pwd log := fits.mono ((List.suffix_cons _ _).trans suffix)
    cases bound with
    | false => exact ⟨trivial, fun _ => ⟨⟨id, pwd, rfl, nofun⟩, fun _ => trivial⟩⟩
    | true => exact acceptLogin_guards sameId fits'
  rw [login_eq]
  refine ⟨trivial, fun user => ?_⟩
  apply GuardsConnections.apart (registry_apart _)
  intro log session suffix
  unfold judgeLogin
  by_cases same : user.id = id ∧ user.password.bytes = pwd
  · rw [if_pos same]
    have fits : FitsPassword id pwd log := ⟨user, suffix.subset List.mem_cons_self, same⟩
    cases session with
    | some nodeId => exact ⟨⟨id, pwd, rfl, nofun⟩, fun _ => trivial⟩
    | none =>
      dsimp only
      split
      · exact ⟨trivial, fun _ => enters user _ same.1 (fits.mono (List.suffix_cons _ _))⟩
      · exact enters user log same.1 fits
  · rw [if_neg same]
    exact ⟨⟨id, pwd, rfl, nofun⟩, fun _ => trivial⟩

end ChatService

/-- **Every handler keeps to it**, whatever it is answered. -/
theorem program_guards (cluster : Cluster) (n : ℕ) (handler : Handler) :
    GuardsConnections handler (cluster.program n handler) [] fun _ _ => True := by
  have others : (∀ id pwd conn, handler ≠ .login id pwd conn) →
      (cluster.program n handler).Only Bare →
        GuardsConnections handler (cluster.program n handler) [] fun _ _ => True := by
    intro other bare
    apply guards_of_apart
    have asks := (program_only cluster n handler).mono (Handler.Asks.ofOthers other)
    exact (asks.and bare).mono fun _ call both => apart_of_bare call both.1 both.2
  cases handler with
  | initNode => exact others nofun (initNode_bare _ _)
  | heartbeat => exact others nofun ((registry_bare _).bind fun _ => trivial)
  | login id pwd conn => exact login_guards _ id pwd conn
  | logout userId => exact others nofun (logout_bare _ userId)
  | clientCloseException conn => exact others nofun (clientCloseException_bare _ conn)
  | oneChat copy => exact oneChat_guards _ _ copy []
  | groupChat message userId groupId => exact groupChat_guards _ _ message userId groupId
  | clusterFrame frame => exact handleClusterFrame_guards _ _ frame
  | closeAll => exact others nofun ClusterRouter.closeAll_bare
  | reset => exact others nofun (reset_bare _)

/-! ### Every run -/

/-- A thread keeps to the contract in what is left of its program. -/
def Thread.Guards (thread : Thread ServerCall Job Unit) : Prop :=
  GuardsConnections thread.tag.handler thread.rest thread.log fun _ _ => True

/-- On a connection a client has logged in as a user, with the password in the user's row. -/
def Pool.LoggedIn (pool : ClusterPool) (userId : UserId) (conn : Connection) : Prop :=
  ∃ thread ∈ pool.threads, ∃ pwd,
    thread.tag.handler = .login userId pwd conn ∧ FitsPassword userId pwd thread.log

/-- A connection may get this: a message for the user that has logged in on it, or the answer to
a login that came on it. -/
def Pool.Entitled (pool : ClusterPool) (conn : Connection) : Outgoing → Prop
  | .chat copy => pool.LoggedIn copy.recipient conn
  | .loginAck response =>
    ∃ thread ∈ pool.threads, ∃ id pwd, thread.tag.handler = .login id pwd conn ∧
      (response.errno = 0 → FitsPassword id pwd thread.log ∧ TellsAnswers id response thread.log)

/-- A login was asked for by the client that has the connection. -/
def Pool.AtHome (pool : ClusterPool) (job : Job) : Prop :=
  ∀ id pwd conn, job.handler = .login id pwd conn →
    ∃ client : Client, pool.state.clients[conn.id]? = some client ∧ client.node = job.node ∧
      client.loop = job.loop ∧ conn.loop = client.loop

/-- The invariant: tables, logs, delivery queues and the record know connections only for the users
that have logged in on them. -/
structure Recipients (pool : ClusterPool) : Prop where
  guards : ∀ thread ∈ pool.threads, thread.Guards
  home : ∀ thread ∈ pool.threads, pool.AtHome thread.tag
  entered : ∀ n userId entry, pool.state.localEntry n userId = some entry →
    pool.LoggedIn userId entry.conn
  found : ∀ thread ∈ pool.threads, ∀ userId conn, FoundConnection userId conn thread.log →
    pool.LoggedIn userId conn
  held : ∀ task ∈ pool.state.heldTasks, pool.LoggedIn task.copy.recipient task.conn
  passed : ∀ pair ∈ pool.state.sent ++ pool.state.dropped, pool.Entitled pair.1 pair.2

section Turn

variable {pool next : ClusterPool} {turn : Turn ClusterEvent}

/-- Who has logged in stays so. -/
theorem Pool.LoggedIn.goesOn {userId : UserId} {conn : Connection}
    (logged : pool.LoggedIn userId conn) (moved : clusterSystem.turn pool turn = some next) :
    next.LoggedIn userId conn := by
  obtain ⟨thread, member, pwd, handler, fits⟩ := logged
  obtain ⟨later, member', tag, suffix⟩ := ThreadSystem.turn_goesOn moved member
  refine ⟨later, member', pwd, ?_, fits.mono suffix⟩
  rw [tag]
  exact handler

theorem Pool.Entitled.goesOn {conn : Connection} {outgoing : Outgoing}
    (entitled : pool.Entitled conn outgoing) (moved : clusterSystem.turn pool turn = some next) :
    next.Entitled conn outgoing := by
  cases outgoing with
  | chat copy => exact Pool.LoggedIn.goesOn entitled moved
  | loginAck response =>
    obtain ⟨thread, member, id, pwd, handler, tells⟩ := entitled
    obtain ⟨later, member', tag, suffix⟩ := ThreadSystem.turn_goesOn moved member
    refine ⟨later, member', id, pwd, ?_, fun accepted => ?_⟩
    · rw [tag]
      exact handler
    · have told := tells accepted
      exact ⟨told.1.mono suffix, told.2.mono suffix⟩

/-- Clients stay where they are, and so do the logins on their connections. -/
theorem Pool.AtHome.kept {job : Job} (home : pool.AtHome job)
    (clients : pool.state.KeepsClients next.state) : next.AtHome job := by
  intro id pwd conn handler
  obtain ⟨client, found, node, loop, own⟩ := home id pwd conn handler
  obtain ⟨later, found', node', loop', -⟩ := clients conn.id client found
  exact ⟨later, found', node'.trans node, loop'.trans loop, own.trans loop'.symm⟩

end Turn

section Call

variable {cluster after : Cluster} {number : ℕ} {job : Job} {β : Type} {call : ServerCall β}
  {answer : β}

/-- The user and the connection that a call enters into the table. -/
def ServerCall.entersPair : {β : Type} → ServerCall β → Option (UserId × Connection)
  | _, .service (.addLocalConnection userId conn) => some (userId, conn)
  | _, _ => none

/-- An entry of the table after a call was there before, or the call has made it. -/
theorem entry_cases (ran : Cluster.exec number job call cluster = some (answer, after)) {n : ℕ}
    {userId : UserId} {entry : LocalEntry} (there : after.localEntry n userId = some entry) :
    cluster.localEntry n userId = some entry ∨ call.entersPair = some (userId, entry.conn) := by
  by_cases touches : cluster.Touches n userId job call
  · have table := (Cluster.exec_writes ran).2.2
    rw [table] at there
    cases call with
    | service call =>
      cases call with
      | addLocalConnection added conn =>
        obtain ⟨rfl, rfl⟩ := touches
        simp only [Cluster.tableAfter, Cluster.execService, Cluster.withNode, Cluster.localEntry,
          Function.update_self, AList.lookup_insert] at there
        obtain rfl := Option.some.inj there
        exact .inr rfl
      | removeLocalConnection removed =>
        obtain ⟨rfl, rfl⟩ := touches
        simp [Cluster.tableAfter, Cluster.execService, Cluster.withNode, Cluster.localEntry]
          at there
      | removeFromBucket bucket conn =>
        obtain ⟨rfl, -⟩ := touches
        simp only [Cluster.tableAfter, Cluster.execService] at there
        split at there
        · exact .inl there
        · rename_i found _
          simp only [Cluster.withNode, Cluster.localEntry, Function.update_self] at there
          -- the entry that was taken out is gone, the others are as they were
          by_cases same : userId = found.1
          · subst same
            rw [AList.lookup_erase] at there
            cases there
          · rw [AList.lookup_erase_ne same] at there
            exact .inl there
      | _ => exact touches.elim
    | _ => exact touches.elim
  · rw [Cluster.localEntry_of_untouched ran touches] at there
    exact .inl there

/-- The answer to a lookup of a connection is in the table. -/
theorem found_entry {userId : UserId} {conn : Connection}
    (ran : Cluster.exec number job (.service (.getLocalConnection userId)) cluster =
      some (some conn, after)) :
    ∃ entry, cluster.localEntry job.node userId = some entry ∧ entry.conn = conn := by
  have answered : (cluster.localEntry job.node userId).map LocalEntry.conn = some conn :=
    congrArg Prod.fst (Option.some.inj ran)
  exact Option.map_eq_some_iff.mp answered

end Call

/-- The jobs of an event: a login is asked for by the client that has its connection. -/
theorem environment_atHome {pool next : ClusterPool} {event : ClusterEvent}
    {jobs : List (Job × Calls ServerCall Unit)}
    (acted : clusterSystem.environment event pool.state = some (next.state, jobs)) :
    ∀ job ∈ jobs, next.AtHome job.1 := by
  intro job listed id pwd conn handler
  rcases Cluster.environment_requests acted with
    ⟨number, request, client, here, state, rfl⟩ | ⟨-, others⟩
  · obtain rfl := List.mem_singleton.mp listed
    cases request with
    | login userId password =>
      obtain ⟨rfl, rfl, rfl⟩ := Handler.login.inj handler
      refine ⟨client, ?_, rfl, rfl, rfl⟩
      rw [state]
      exact here
    | _ => cases handler
  · have other := others job listed
    rw [handler] at other
    cases other

section Answered

variable {pool next : ClusterPool} {number : ℕ} {thread : Thread ServerCall Job Unit} {β : Type}
  {request : ServerCall β} {cont : β → Calls ServerCall Unit} {answer : β}

/-- What a thread may do by its contract hands a connection only what it may get. -/
theorem Recipients.answered (before : Recipients pool)
    (moved : clusterSystem.turn pool (.thread number) = some next)
    (found : pool.threads[number]? = some thread) (program : thread.rest = .call request cont)
    (ran : Cluster.exec number thread.tag request pool.state = some (answer, next.state))
    (threads : next.threads = pool.threads.set number (thread.answered request cont answer)) :
    (∀ n userId entry, next.state.localEntry n userId = some entry →
      next.LoggedIn userId entry.conn) ∧
    (∀ userId conn, FoundConnection userId conn (thread.answered request cont answer).log →
      next.LoggedIn userId conn) ∧
    (∀ task ∈ next.state.heldTasks, next.LoggedIn task.copy.recipient task.conn) ∧
    ∀ pair ∈ next.state.sent ++ next.state.dropped, next.Entitled pair.1 pair.2 := by
  have member := List.mem_of_getElem? found
  have permitted : ConnectionGuard thread.tag.handler thread.log request := by
    have guards := before.guards thread member
    rw [Thread.Guards, program] at guards
    exact guards.1
  have records := Cluster.exec_records ran
  -- the thread itself is the login that its calls speak of
  have here : thread.answered request cont answer ∈ next.threads := by
    rw [threads]
    exact List.mem_of_getElem? (List.getElem?_set_self (List.getElem?_eq_some_iff.mp found).1)
  have longer : thread.log <:+ (thread.answered request cont answer).log := List.suffix_cons _ _
  refine ⟨?_, ?_, ?_, ?_⟩
  · intro n userId entry there
    rcases entry_cases ran there with old | made
    · exact (before.entered n userId entry old).goesOn moved
    · cases request with
      | service call =>
        cases call with
        | addLocalConnection added conn =>
          obtain ⟨rfl, rfl⟩ := Prod.mk.inj (Option.some.inj made)
          obtain ⟨pwd, handler, fits⟩ := permitted
          exact ⟨_, here, pwd, handler, fits.mono longer⟩
        | _ => cases made
      | _ => cases made
  · intro userId conn listed
    rw [Thread.answered_log] at listed
    rcases List.mem_cons.mp listed with now | old
    · have there : ∃ entry, pool.state.localEntry thread.tag.node userId = some entry ∧
          entry.conn = conn := by
        cases now
        exact found_entry ran
      obtain ⟨entry, there, rfl⟩ := there
      exact (before.entered _ userId entry there).goesOn moved
    · exact (before.found thread member userId conn old).goesOn moved
  · apply forall_of_tally (fun task => next.LoggedIn task.copy.recipient task.conn)
      (fun weight => (records.held weight).le)
    · exact fun task listed => (before.held task listed).goesOn moved
    · intro task queued
      cases request with
      | dispatch index call =>
        cases call with
        | push pushed =>
          have same : task = pushed := by
            simp only [ServerCall.queuing, DeliveryLoop.cameByCall] at queued
            split at queued
            · exact List.mem_singleton.mp queued
            · cases queued
          subst same
          exact (before.found thread member _ _ permitted).goesOn moved
        | _ => cases queued
      | _ => cases queued
  · have passed : ∀ up, ∀ pair ∈ pool.state.passedBy up request, next.Entitled pair.1 pair.2 := by
      intro up pair listed
      cases request with
      | service call =>
        cases call with
        | send conn outgoing =>
          obtain ⟨rfl, -⟩ := Cluster.mem_passed listed
          cases outgoing with
          | chat copy => exact (before.found thread member _ _ permitted).goesOn moved
          | loginAck response =>
            obtain ⟨id, pwd, handler, tells⟩ := permitted
            refine ⟨_, here, id, pwd, handler, fun accepted => ?_⟩
            have told := tells accepted
            exact ⟨told.1.mono longer, told.2.mono longer⟩
        | _ => cases listed
      | _ => cases listed
    intro pair listed
    rw [records.sent, records.dropped] at listed
    have old : pair ∈ pool.state.sent ++ pool.state.dropped → next.Entitled pair.1 pair.2 :=
      fun listed => (before.passed pair listed).goesOn moved
    rcases List.mem_append.mp listed with sent | dropped
    · rcases List.mem_append.mp sent with sent | now
      · exact old (List.mem_append_left _ sent)
      · exact passed true pair now
    · rcases List.mem_append.mp dropped with dropped | now
      · exact old (List.mem_append_right _ dropped)
      · exact passed false pair now

end Answered

theorem Recipients.turn {pool next : ClusterPool} {turn : Turn ClusterEvent}
    (before : Recipients pool) (moved : clusterSystem.turn pool turn = some next) :
    Recipients next := by
  -- that a handler sends to the named only is a matter of its program
  have guards : ∀ thread ∈ next.threads, thread.Guards := by
    apply ThreadSystem.turn_forall_threads before.guards _ _ moved
    · intro thread β request cont answer guards program
      rw [Thread.Guards, program] at guards
      exact guards.2 answer
    · intro event cluster jobs acted job listed
      obtain ⟨n, loop, handler, rfl⟩ := (Cluster.environment_writes acted).2.2.2.2 job listed
      exact program_guards pool.state n handler
  rcases ThreadSystem.turn_cases moved with
    ⟨number, thread, β, request, cont, answer, rfl, found, program, ran, threads⟩ |
    ⟨event, jobs, rfl, acted, threads⟩
  · obtain ⟨entered, foundHere, held, passed⟩ := before.answered moved found program ran threads
    have clients := Cluster.KeepsClients.of_eq (Cluster.exec_records ran).clients
    refine ⟨guards, ?_, entered, ?_, held, passed⟩
    · intro other member
      rw [threads] at member
      rcases List.mem_or_eq_of_mem_set member with old | rfl
      · exact (before.home other old).kept clients
      · exact (before.home thread (List.mem_of_getElem? found)).kept clients
    · intro other member userId conn listed
      rw [threads] at member
      rcases List.mem_or_eq_of_mem_set member with old | rfl
      · exact (before.found other old userId conn listed).goesOn moved
      · exact foundHere userId conn listed
  · have notes := Cluster.environment_notes acted
    refine ⟨guards, ?_, ?_, ?_, ?_, ?_⟩
    · intro other member
      rw [threads, List.mem_append] at member
      rcases member with old | new
      · exact (before.home other old).kept notes.clients
      · obtain ⟨job, started, rfl⟩ := List.mem_map.mp new
        exact environment_atHome acted job started
    · -- the entries are those from before, and what a user is entitled to goes on
      intro n userId entry there
      rw [(Cluster.environment_writes acted).2.2.1] at there
      exact (before.entered n userId entry there).goesOn moved
    · intro other member userId conn listed
      rw [threads, List.mem_append] at member
      rcases member with old | new
      · exact (before.found other old userId conn listed).goesOn moved
      · obtain ⟨job, -, rfl⟩ := List.mem_map.mp new
        cases listed
    · intro task listed
      exact (before.held task (notes.mem_heldTasks (List.mem_append_left _ listed))).goesOn moved
    · -- a drain sends what was in its queue
      have sent : ∀ up, ∀ pair ∈ pool.state.passedByEvent up event,
        next.Entitled pair.1 pair.2 := by
        intro up pair listed
        unfold Cluster.passedByEvent at listed
        cases due : pool.state.drained event with
        | none =>
          rw [due] at listed
          cases listed
        | some task =>
          rw [due] at listed
          obtain ⟨rfl, -⟩ := Cluster.mem_passed listed
          have there : task ∈ pool.state.heldTasks := by
            apply notes.mem_heldTasks
            rw [due]
            exact List.mem_append_right _ (List.mem_singleton_self task)
          exact (before.held task there).goesOn moved
      have old : ∀ pair ∈ pool.state.sent ++ pool.state.dropped, next.Entitled pair.1 pair.2 :=
        fun pair listed => (before.passed pair listed).goesOn moved
      intro pair listed
      rw [notes.sent, notes.dropped] at listed
      rcases List.mem_append.mp listed with listed | listed
      · rcases List.mem_append.mp listed with before | now
        · exact old pair (List.mem_append_left _ before)
        · exact sent true pair now
      · rcases List.mem_append.mp listed with before | now
        · exact old pair (List.mem_append_right _ before)
        · exact sent false pair now

theorem recipients_of_reach {allowed : ClusterPool → Turn ClusterEvent → Prop} {clockMs : Int}
    {configs : ℕ → ServerConfig} {database : Database} {pool : ClusterPool}
    (reached : clusterSystem.machine.Reach allowed (startPool clockMs configs database) pool) :
    Recipients pool := by
  apply reached.invariant Recipients
  · refine ⟨List.forall_mem_nil _, List.forall_mem_nil _, ?_, List.forall_mem_nil _,
      List.forall_mem_nil _, List.forall_mem_nil _⟩
    intro n userId entry there
    cases there
  · intro pool next turn before _ moved
    exact before.turn moved

/-- A client has asked for a login on its own connection: on its node, by its loop. -/
def Pool.LoginBy (pool : ClusterPool) (conn : Connection) (userId : UserId) (pwd : Bytes)
    (thread : Thread ServerCall Job Unit) : Prop :=
  thread ∈ pool.threads ∧ ∃ client : Client, pool.state.clients[conn.id]? = some client ∧
    client.loop = conn.loop ∧ thread.tag = ⟨client.node, client.loop, .login userId pwd conn⟩

theorem Recipients.loginBy {pool : ClusterPool} (recipients : Recipients pool)
    {thread : Thread ServerCall Job Unit} (member : thread ∈ pool.threads) {userId : UserId}
    {pwd : Bytes} {conn : Connection} (handler : thread.tag.handler = .login userId pwd conn) :
    pool.LoginBy conn userId pwd thread := by
  obtain ⟨client, found, node, loop, own⟩ := recipients.home thread member userId pwd conn handler
  refine ⟨member, client, found, own.symm, ?_⟩
  rw [node, loop, ← handler]

section Every

variable {clockMs : Int} {configs : ℕ → ServerConfig} {database : Database} {pool : ClusterPool}

/-- **Messages reach the users they are for.** In every run, whatever a server passes to a client
as a message for a user goes to a connection on which that client has logged in as that user, with
the password that the database has answered. -/
theorem messages_reach_recipients (reached : ClusterReach clockMs configs database pool) :
    ∀ conn copy, (conn, .chat copy) ∈ pool.state.sent ++ pool.state.dropped →
      ∃ pwd thread, pool.LoginBy conn copy.recipient pwd thread ∧
        FitsPassword copy.recipient pwd thread.log := by
  intro conn copy listed
  have recipients := recipients_of_reach reached
  obtain ⟨thread, member, pwd, handler, fits⟩ := recipients.passed _ listed
  exact ⟨pwd, thread, recipients.loginBy member handler, fits⟩

end Every

/-- A client logs in and gets a message from another one. -/
def loginAndMessage : List (Turn ClusterEvent) :=
  nodeAndLogin ++ ThreadSystem.handling 2 5 (.request 1 (.oneChat 7 [])) ++
    [.environment (.runQueued 0), .environment (.drainStep 0 0), .environment (.drainStep 0 0)]

/-- The message has gone to the connection of the user's login. -/
theorem messages_reach_recipients_login :
    ∃ pool, ClusterReach 0 (twoServers 4) twoUsers pool ∧
      ∃ pwd thread, pool.LoginBy ⟨0, 0⟩ 7 pwd thread ∧ FitsPassword 7 pwd thread.log := by
  have ran : ((clusterSystem.machine.run (startPool 0 (twoServers 4) twoUsers)
      loginAndMessage).any fun pool =>
        decide ((⟨0, 0⟩, .chat ⟨⟨1, []⟩, 7⟩) ∈ pool.state.sent ++ pool.state.dropped)) = true := by
    decide +kernel
  obtain ⟨pool, ran, listed⟩ := (Option.any_eq_true _ _).mp ran
  have reached := ClusterReach.of_run ran
  exact ⟨pool, reached, messages_reach_recipients reached _ _ (of_decide_eq_true listed)⟩

end ClusterChat
