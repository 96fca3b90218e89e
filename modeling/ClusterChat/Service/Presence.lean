/-
# The state of a user in the database

A user's row says whether the user is online, and Redis says whether the user has a session. A
login writes the one and then the other, and so do a logout and a closed connection. In between
such a handler owes a write. Where nobody owes one, the two agree, as long as no write is
overtaken: a login that says 'online' when the session is gone again, or a logout that says
'offline' when the user has logged in meanwhile.

The handlers of messages delete sessions too, and owe nothing afterwards.
-/

import ClusterChat.Service.Ownership

namespace ClusterChat

open ServerCall LoginPhase

/-! ### What a thread owes -/

/-- The database calls the user online. -/
def Database.Online (database : Database) (userId : UserId) : Prop :=
  ∃ user ∈ database.users userId, user.state = online

instance (database : Database) (userId : UserId) : Decidable (database.Online userId) :=
  inferInstanceAs (Decidable (∃ user ∈ database.users userId, user.state = online))

/-- The user has a session. -/
def Cluster.HasSession (cluster : Cluster) (userId : UserId) : Prop :=
  cluster.store.session userId ≠ none

instance (cluster : Cluster) (userId : UserId) : Decidable (cluster.HasSession userId) :=
  inferInstanceAs (Decidable (cluster.store.session userId ≠ none))

/-- The user of a login. -/
def Handler.loginUser : Handler → Option UserId
  | login id _ _ => some id
  | _ => none

/-- The handlers that unbind a user and then say so in the database. -/
def Handler.departs : Handler → Bool
  | logout _ => true
  | clientCloseException _ => true
  | _ => false

/-- The user that a departing handler has unbound and not yet called offline, after an event. -/
def departed : Option UserId → Event ServerCall → Option UserId
  | _, ⟨.registry (.redis (.command (.delSession _ userId))), _⟩ => some userId
  | _, ⟨.database (.updateState _ _), _⟩ => none
  | user, _ => user

/-- The same for a log. -/
def departedBy (log : List (Event ServerCall)) : Option UserId :=
  log.foldr (fun event user => departed user event) none

/-- The thread is a login that has stored the user's session and still has to call the user
online. -/
def Thread.OwesOnline (thread : Thread ServerCall Job Unit) (userId : UserId) : Prop :=
  thread.tag.handler.loginUser = some userId ∧ LoginPhase.of thread.log = bound

/-- The thread has unbound the user and still has to call the user offline. -/
def Thread.OwesOffline (thread : Thread ServerCall Job Unit) (userId : UserId) : Prop :=
  thread.tag.handler.departs = true ∧ departedBy thread.log = some userId

instance (thread : Thread ServerCall Job Unit) (userId : UserId) :
    Decidable (thread.OwesOnline userId) :=
  inferInstanceAs (Decidable (thread.tag.handler.loginUser = some userId ∧
    LoginPhase.of thread.log = bound))

instance (thread : Thread ServerCall Job Unit) (userId : UserId) :
    Decidable (thread.OwesOffline userId) :=
  inferInstanceAs (Decidable (thread.tag.handler.departs = true ∧
    departedBy thread.log = some userId))

/-! ### The condition -/

/-- A thread other than this one owes something. -/
def Others (pool : ClusterPool) (number : ℕ) (owes : Thread ServerCall Job Unit → Prop) : Prop :=
  ∃ index < pool.threads.length, index ≠ number ∧ ∃ thread ∈ pool.threads[index]?, owes thread

instance (pool : ClusterPool) (number : ℕ) (owes : Thread ServerCall Job Unit → Prop)
    [DecidablePred owes] : Decidable (Others pool number owes) :=
  inferInstanceAs (Decidable (∃ index < pool.threads.length, index ≠ number ∧
    ∃ thread ∈ pool.threads[index]?, owes thread))

/-- Whether a write of the user's state calls the user online; there has to be a row. -/
def CallsOnline (database : Database) (userId : UserId) (state : CString) : Prop :=
  state = online ∧ database.users userId ≠ none

instance (database : Database) (userId : UserId) (state : CString) :
    Decidable (CallsOnline database userId state) :=
  inferInstanceAs (Decidable (state = online ∧ database.users userId ≠ none))

/-- A state that is written fits the session, or a write that fits it is still to come. -/
def StateInTime (pool : ClusterPool) (number : ℕ) (userId : UserId) (state : CString) : Prop :=
  if CallsOnline pool.state.database userId state then
    pool.state.HasSession userId ∨ Others pool number (·.OwesOffline userId)
  else ¬pool.state.HasSession userId ∨ Others pool number (·.OwesOnline userId)

/-- A session is deleted by a handler that then calls the user offline, or nothing is lost by it:
there is no session, or the user is not online, or a write that says so is still to come. -/
def DeletionInTime (pool : ClusterPool) (number : ℕ) (job : Job) (userId : UserId) : Prop :=
  job.handler.departs = true ∨ ¬pool.state.HasSession userId ∨
    ¬pool.state.database.Online userId ∨ Others pool number (·.OwesOffline userId)

instance (pool : ClusterPool) (number : ℕ) (userId : UserId) (state : CString) :
    Decidable (StateInTime pool number userId state) :=
  inferInstanceAs (Decidable (if CallsOnline pool.state.database userId state then
    pool.state.HasSession userId ∨ Others pool number (·.OwesOffline userId)
  else ¬pool.state.HasSession userId ∨ Others pool number (·.OwesOnline userId)))

instance (pool : ClusterPool) (number : ℕ) (job : Job) (userId : UserId) :
    Decidable (DeletionInTime pool number job userId) :=
  inferInstanceAs (Decidable (job.handler.departs = true ∨ ¬pool.state.HasSession userId ∨
    ¬pool.state.database.Online userId ∨ Others pool number (·.OwesOffline userId)))

/-- The user whose state a call writes, and the state. -/
def ServerCall.presence : {β : Type} → ServerCall β → Option (UserId × CString)
  | _, .database (.updateState userId state) => some (userId, state)
  | _, _ => none

/-- What a call does to the state or the session of a user is in time. -/
def InTime {β : Type} (pool : ClusterPool) (number : ℕ) (job : Job) (call : ServerCall β) : Prop :=
  (∀ written ∈ call.presence, StateInTime pool number written.1 written.2) ∧
    ∀ userId ∈ call.deletion, DeletionInTime pool number job userId

instance {β : Type} (pool : ClusterPool) (number : ℕ) (job : Job) (call : ServerCall β) :
    Decidable (InTime pool number job call) :=
  -- the user is the one of the call, and not sought among all users
  have : Decidable (∀ userId ∈ call.deletion, DeletionInTime pool number job userId) :=
    Option.decidableForallMem call.deletion
  inferInstanceAs (Decidable (
    (∀ written ∈ call.presence, StateInTime pool number written.1 written.2) ∧
      ∀ userId ∈ call.deletion, DeletionInTime pool number job userId))

/-- The same for the next call of a program. -/
def NextInTime {ρ : Type} (pool : ClusterPool) (number : ℕ) (job : Job) :
    Calls ServerCall ρ → Prop
  | .call call _ => InTime pool number job call
  | .ret _ => True

/-- The condition on a turn: what is written is in time, and the tables of other models call the
same users online. -/
def KeepsPresence (pool : ClusterPool) : Turn ClusterEvent → Prop
  | .thread number =>
    ∀ thread ∈ pool.threads[number]?, NextInTime pool number thread.tag thread.rest
  | .environment (.tables users _ _) => ∀ userId,
      (∃ user ∈ users userId, user.state = online) ↔ pool.state.database.Online userId
  | .environment _ => True

/-! ### The contract of departing handlers -/

/-- A departing handler unbinds one user at a time, and calls that one offline. -/
def departureGuard (user : Option UserId) : ⦃β : Type⦄ → ServerCall β → Prop
  | _, .registry (.redis (.command (.delSession _ _))) => user = none
  | _, .database (.updateState userId state) => user = some userId ∧ state = offline
  | _, _ => True

/-- A departing handler's thread settles what it owes, whatever it is answered. -/
def Thread.Settles (thread : Thread ServerCall Job Unit) : Prop :=
  thread.tag.handler.departs = true →
    thread.rest.Follows departed departureGuard (fun user _ => user = none)
      (departedBy thread.log)

namespace ChatService

/-- Unbinding a user leaves the handler owing the user's state. -/
theorem unbindUser_departs (server : Server) (userId : UserId) :
    (unbindUser server userId).Follows departed departureGuard (fun user _ => user = some userId)
      none := by
  refine ⟨trivial, fun _ => ⟨trivial, fun _ => ⟨rfl, fun deleted => ?_⟩⟩⟩
  cases deleted with
  | none => exact ⟨trivial, fun _ => rfl⟩
  | some _ =>
    by_cases named : server.selfNode.nodeId = []
    · simp only [named]
      exact ⟨trivial, fun _ => rfl⟩
    · simp only [ne_eq, named, not_false_eq_true, if_true]
      refine ⟨trivial, fun removed => ?_⟩
      cases removed <;> exact ⟨trivial, fun _ => rfl⟩

theorem departure_settles (server : Server) (userId : UserId) :
    (unbindUser server userId >>= fun _ => database (.updateState userId offline)).Follows departed
      departureGuard (fun user _ => user = none) none := by
  apply (unbindUser_departs server userId).andThen
  intro user _ unbound
  subst unbound
  exact ⟨⟨rfl, rfl⟩, fun _ => rfl⟩

theorem logout_settles (server : Server) (userId : UserId) :
    (logout server userId).Follows departed departureGuard (fun user _ => user = none) none :=
  ⟨trivial, fun _ => departure_settles server userId⟩

theorem clientCloseException_settles (server : Server) (conn : Connection) :
    (clientCloseException server conn).Follows departed departureGuard (fun user _ => user = none)
      none := by
  have search : ∀ buckets, (removeFromBuckets conn buckets).Follows departed departureGuard
      (fun user _ => user = none) none := by
    intro buckets
    induction buckets with
    | nil => exact rfl
    | cons bucket rest ih =>
      refine ⟨trivial, fun found => ?_⟩
      cases found with
      | some userId => exact rfl
      | none => exact ih
  apply (search _).andThen
  intro user userId nobody
  subst nobody
  by_cases absent : userId = -1
  · rw [if_neg fun differ => differ absent]
    exact rfl
  · rw [if_pos absent]
    exact departure_settles server userId

end ChatService

theorem start_settles (cluster : Cluster) (n loop : ℕ) (handler : Handler) :
    (Thread.start (cluster.job n loop handler)).Settles := by
  intro departs
  cases handler with
  | logout userId => exact ChatService.logout_settles _ userId
  | clientCloseException conn => exact ChatService.clientCloseException_settles _ conn
  | _ => cases departs

/-! ### One call -/

/-- Only `SET NX` makes a session. -/
theorem RedisStore.session_exec_none {store : RedisStore} {clockMs : Int} {userId : UserId}
    {β : Type} {command : RedisCommand β} (absent : store.session userId = none)
    (notStored : (ServerCall.registry (.redis (.command command))).storing
      (store.exec clockMs command).1 ≠ some userId) :
    (store.exec clockMs command).2.session userId = none := by
  cases command with
  | setSession other value =>
    rw [exec] at notStored ⊢
    cases found : store.session other with
    | some _ => exact absent
    | none =>
      rw [found] at notStored
      have differ : userId ≠ other := fun same => notStored (same ▸ rfl)
      dsimp only
      rwa [Function.update_of_ne differ]
  | delSession caller other =>
    rw [exec]
    dsimp only
    by_cases same : userId = other
    · rw [same, Function.update_self]
    · rwa [Function.update_of_ne same]
  | setNode nodeId fields => exact absent
  | expireNode nodeId seconds =>
    rw [exec, expireNode]
    cases store.liveNode clockMs nodeId with
    | none => exact absent
    | some record => exact absent
  | _ => exact absent

section Call

variable {cluster after : Cluster} {number : ℕ} {job : Job} {β : Type} {call : ServerCall β}
  {answer : β} {userId : UserId}

theorem session_deleted (ran : Cluster.exec number job call cluster = some (answer, after))
    (deletes : call.deletion = some userId) : ¬after.HasSession userId := by
  rw [Cluster.HasSession, (Cluster.exec_writes ran).1]
  cases call with
  | registry call =>
    cases call with
    | redis call =>
      cases call with
      | command command =>
        cases command with
        | delSession caller other =>
          obtain rfl := Option.some.inj deletes
          rw [Cluster.storeAfter, RedisStore.exec]
          dsimp only
          rw [Function.update_self]
          exact fun there => there rfl
        | _ => cases deletes
      | client call => cases deletes
    | node call => cases deletes
  | _ => cases deletes

theorem session_iff (ran : Cluster.exec number job call cluster = some (answer, after))
    (spared : call.deletion ≠ some userId) (notStored : call.storing answer ≠ some userId) :
    after.HasSession userId ↔ cluster.HasSession userId := by
  refine ⟨fun there => ?_, session_kept ran spared⟩
  by_contra absent
  rw [Cluster.HasSession, (Cluster.exec_writes ran).1] at there
  cases call with
  | registry call =>
    cases call with
    | redis call =>
      cases call with
      | command command =>
        have replied : (cluster.store.exec cluster.clockMs command).1 = answer :=
          congrArg Prod.fst (Option.some.inj ran)
        subst replied
        exact there (RedisStore.session_exec_none (not_not.mp absent) notStored)
      | client call => exact absent there
    | node call => exact absent there
  | _ => exact absent there

theorem online_iff (ran : Cluster.exec number job call cluster = some (answer, after))
    (unwritten : ∀ state, call.presence ≠ some (userId, state)) :
    after.database.Online userId ↔ cluster.database.Online userId := by
  rw [(Cluster.exec_writes ran).2.1]
  cases call with
  | database call =>
    cases call with
    | updateState other state =>
      have differ : userId ≠ other := fun same => unwritten state (same ▸ rfl)
      rw [Database.Online, Database.Online, Cluster.databaseAfter, Database.exec,
        Database.updateState]
      dsimp only
      rw [Function.update_of_ne differ]
    | _ => rfl
  | _ => rfl

theorem online_written (ran : Cluster.exec number job call cluster = some (answer, after))
    {state : CString} (written : call.presence = some (userId, state)) :
    after.database.Online userId ↔ CallsOnline cluster.database userId state := by
  rw [(Cluster.exec_writes ran).2.1]
  cases call with
  | database call =>
    cases call with
    | updateState other value =>
      obtain ⟨rfl, rfl⟩ := Prod.mk.inj (Option.some.inj written)
      rw [Database.Online, CallsOnline, Cluster.databaseAfter, Database.exec, Database.updateState]
      dsimp only
      rw [Function.update_self]
      cases cluster.database.users other with
      | none => simp
      | some user => simp
    | _ => cases written
  | _ => cases written

end Call

section Debts

variable {pool next : ClusterPool} {number : ℕ} {thread : Thread ServerCall Job Unit} {β : Type}
  {request : ServerCall β} {cont : β → Calls ServerCall Unit} {answer : β} {userId : UserId}

/-- Only a login stores a session, its own user's, and from then on it owes the user's state. -/
theorem owesOnline_of_stores (permits : thread.tag.Permits (.of thread.log) request)
    (stores : request.storing answer = some userId) :
    (thread.answered request cont answer).OwesOnline userId := by
  cases request with
  | registry call =>
    cases call with
    | redis call =>
      cases call with
      | command command =>
        cases command with
        | setSession other value =>
          match answer with
          | none => cases stores
          | some false => cases stores
          | some true =>
            obtain rfl := Option.some.inj stores
            obtain ⟨⟨node, loop, handler⟩, log, rest⟩ := thread
            -- only a login stores a session, and it goes on to set its user online
            by_cases login : ∃ id pwd conn, handler = .login id pwd conn
            · obtain ⟨id, pwd, conn, rfl⟩ := login
              change (LoginPhase.of log).Permits id conn _ at permits
              rw [Thread.OwesOnline, Thread.answered_log, of_cons]
              cases phase : LoginPhase.of log with
              | asking =>
                rw [phase] at permits
                exact permits.elim False.elim fun registers => registers.choose_spec.elim
              | entered =>
                rw [phase] at permits
                exact ⟨congrArg some permits.symm, rfl⟩
              | _ =>
                rw [phase] at permits
                exact permits.elim
            · -- another handler may look up, unbind or clean, and stores no session
              have other : ∀ id pwd conn, handler ≠ .login id pwd conn :=
                fun id pwd conn same => login ⟨id, pwd, conn, same⟩
              have asked := asks_of_permits other permits
              rcases asked.ofOthers other with ((looks | ⟨_, registers⟩) | ⟨_, unbinds⟩) |
                (⟨_, unbinds⟩ | cleans)
              · exact looks.elim
              · exact registers.elim
              · exact unbinds.elim
              · exact unbinds.elim
              · exact cleans.elim
        | _ => cases stores
      | client call => cases stores
    | node call => cases stores
  | _ => cases stores

/-- A login that owes the user's state goes on owing it until it writes it. -/
theorem Thread.OwesOnline.answered (owes : thread.OwesOnline userId)
    (permits : thread.tag.Permits (.of thread.log) request)
    (ran : Cluster.exec number thread.tag request pool.state = some (answer, next.state))
    (unwritten : ∀ state, request.presence ≠ some (userId, state)) :
    (thread.answered request cont answer).OwesOnline userId := by
  obtain ⟨user, phase⟩ := owes
  refine ⟨user, ?_⟩
  rw [Thread.answered_log, of_cons]
  rw [phase] at permits ⊢
  obtain ⟨⟨node, loop, handler⟩, log, rest⟩ := thread
  cases handler with
  | login id pwd conn =>
    obtain rfl := Option.some.inj user
    cases request with
    | registry call =>
      cases call with
      | redis call =>
        cases call with
        | command command =>
          cases command with
          | addNodeUser nodeId added =>
            -- Redis answers every command
            have replied : some () = answer := congrArg Prod.fst (Option.some.inj ran)
            subst replied
            rfl
          | _ => rfl
        | client call => rfl
      | node call => rfl
    | database call =>
      cases call with
      | updateState other state =>
        obtain ⟨rfl, -⟩ := permits
        exact absurd rfl (unwritten state)
      | _ => rfl
    | _ => rfl
  | _ => cases user

/-- A handler that owes the user's state goes on owing it until it writes it. -/
theorem Thread.OwesOffline.answered (owes : thread.OwesOffline userId) (settles : thread.Settles)
    (program : thread.rest = .call request cont)
    (unwritten : ∀ state, request.presence ≠ some (userId, state)) :
    (thread.answered request cont answer).OwesOffline userId := by
  obtain ⟨departs, user⟩ := owes
  refine ⟨departs, ?_⟩
  have permits := settles departs
  rw [program, user] at permits
  have allowed := permits.1
  change departed (departedBy thread.log) ⟨request, answer⟩ = some userId
  rw [user]
  cases request with
  | registry call =>
    cases call with
    | redis call =>
      cases call with
      | command command =>
        -- the session is gone by now, and the handler does not delete it again
        cases command with
        | delSession caller other => cases allowed
        | _ => rfl
      | client call => rfl
    | node call => rfl
  | database call =>
    cases call with
    | updateState other state =>
      obtain ⟨same, -⟩ := allowed
      obtain rfl := Option.some.inj same
      exact absurd rfl (unwritten state)
    | _ => rfl
  | _ => rfl

/-- What others owe is owed after a turn of this thread. -/
theorem Others.kept {owes : Thread ServerCall Job Unit → Prop} (others : Others pool number owes)
    (threads : next.threads = pool.threads.set number (thread.answered request cont answer)) :
    ∃ other ∈ next.threads, owes other := by
  obtain ⟨index, -, differ, other, here, owing⟩ := others
  refine ⟨other, ?_, owing⟩
  rw [threads]
  exact List.mem_of_getElem? ((List.getElem?_set_ne (Ne.symm differ)).trans here)

/-- What is owed before a turn is owed after it, if the thread goes on owing its own part. -/
theorem owed_kept {owes : Thread ServerCall Job Unit → Prop}
    (found : pool.threads[number]? = some thread)
    (threads : next.threads = pool.threads.set number (thread.answered request cont answer))
    (own : owes thread → owes (thread.answered request cont answer))
    (owed : ∃ other ∈ pool.threads, owes other) : ∃ other ∈ next.threads, owes other := by
  obtain ⟨other, member, owing⟩ := owed
  obtain ⟨index, here⟩ := List.mem_iff_getElem?.mp member
  have bound : number < pool.threads.length := (List.getElem?_eq_some_iff.mp found).1
  rw [threads]
  by_cases same : index = number
  · subst same
    obtain rfl := Option.some.inj (here.symm.trans found)
    exact ⟨_, List.mem_of_getElem? (List.getElem?_set_self bound), own owing⟩
  · exact ⟨other, List.mem_of_getElem? ((List.getElem?_set_ne (Ne.symm same)).trans here), owing⟩

end Debts

/-! ### Every run -/

/-- The two say the same of the user, or somebody still owes the write that fits the session. -/
def Balanced (pool : ClusterPool) (userId : UserId) : Prop :=
  (pool.state.database.Online userId ↔ pool.state.HasSession userId) ∨
    (pool.state.HasSession userId ∧ ∃ thread ∈ pool.threads, thread.OwesOnline userId) ∨
    (¬pool.state.HasSession userId ∧ ∃ thread ∈ pool.threads, thread.OwesOffline userId)

/-- The invariant. -/
structure Together (pool : ClusterPool) : Prop where
  keeps : ∀ thread ∈ pool.threads, thread.Keeps
  settles : ∀ thread ∈ pool.threads, thread.Settles
  balanced : ∀ userId, Balanced pool userId

section Answered

variable {pool next : ClusterPool} {number : ℕ} {thread : Thread ServerCall Job Unit} {β : Type}
  {request : ServerCall β} {cont : β → Calls ServerCall Unit} {answer : β} {userId : UserId}

/-- A write of the user's state that is in time leaves the user balanced. -/
theorem balanced_written {state : CString} (inTime : StateInTime pool number userId state)
    (ran : Cluster.exec number thread.tag request pool.state = some (answer, next.state))
    (threads : next.threads = pool.threads.set number (thread.answered request cont answer))
    (written : request.presence = some (userId, state)) : Balanced next userId := by
  have online := online_written ran written
  have session : next.state.HasSession userId ↔ pool.state.HasSession userId := by
    cases request with
    | database call => exact session_iff ran nofun nofun
    | _ => cases written
  unfold StateInTime at inTime
  by_cases calls : CallsOnline pool.state.database userId state
  · rw [if_pos calls] at inTime
    by_cases there : next.state.HasSession userId
    · exact .inl (iff_of_true (online.mpr calls) there)
    · have owed := inTime.resolve_left fun before => there (session.mpr before)
      exact .inr (.inr ⟨there, owed.kept threads⟩)
  · rw [if_neg calls] at inTime
    by_cases there : next.state.HasSession userId
    · have owed := inTime.resolve_left fun absent => absent (session.mp there)
      exact .inr (.inl ⟨there, owed.kept threads⟩)
    · exact .inl (iff_of_false (fun claims => calls (online.mp claims)) there)

/-- So does a deletion of the user's session. -/
theorem balanced_deleted (balanced : Balanced pool userId)
    (inTime : DeletionInTime pool number thread.tag userId)
    (found : pool.threads[number]? = some thread)
    (ran : Cluster.exec number thread.tag request pool.state = some (answer, next.state))
    (threads : next.threads = pool.threads.set number (thread.answered request cont answer))
    (deletes : request.deletion = some userId) : Balanced next userId := by
  have gone := session_deleted ran deletes
  have online : next.state.database.Online userId ↔ pool.state.database.Online userId := by
    apply online_iff ran
    intro state written
    cases request with
    | database call => cases deletes
    | _ => cases written
  -- a departing handler owes the user's state from here on
  have owes (departs : thread.tag.handler.departs = true) :
      (thread.answered request cont answer).OwesOffline userId := by
    refine ⟨departs, ?_⟩
    change departed (departedBy thread.log) ⟨request, answer⟩ = some userId
    cases request with
    | registry call =>
      cases call with
      | redis call =>
        cases call with
        | command command =>
          cases command with
          | delSession caller other => exact deletes
          | _ => cases deletes
        | client call => cases deletes
      | node call => cases deletes
    | _ => cases deletes
  by_cases claims : next.state.database.Online userId
  · refine .inr (.inr ⟨gone, ?_⟩)
    rcases inTime with departs | absent | offline | others
    · have bound : number < pool.threads.length := (List.getElem?_eq_some_iff.mp found).1
      rw [threads]
      exact ⟨_, List.mem_of_getElem? (List.getElem?_set_self bound), owes departs⟩
    · rcases balanced with agrees | owed | owed
      · exact absurd (agrees.mp (online.mp claims)) absent
      · exact absurd owed.1 absent
      · exact owed_kept found threads (fun owing => owes owing.1) owed.2
    · exact absurd (online.mp claims) offline
    · exact others.kept threads
  · exact .inl (iff_of_false claims gone)

/-- A login that has just stored the user's session owes the user's state. -/
theorem balanced_stored (permits : thread.tag.Permits (.of thread.log) request)
    (found : pool.threads[number]? = some thread)
    (ran : Cluster.exec number thread.tag request pool.state = some (answer, next.state))
    (threads : next.threads = pool.threads.set number (thread.answered request cont answer))
    (stores : request.storing answer = some userId) : Balanced next userId := by
  refine .inr (.inl ⟨(session_stored ran stores).2, ?_⟩)
  have bound : number < pool.threads.length := (List.getElem?_eq_some_iff.mp found).1
  rw [threads]
  exact ⟨_, List.mem_of_getElem? (List.getElem?_set_self bound),
    owesOnline_of_stores permits stores⟩

/-- Other calls leave the user balanced. -/
theorem balanced_still (balanced : Balanced pool userId)
    (permits : thread.tag.Permits (.of thread.log) request) (settles : thread.Settles)
    (found : pool.threads[number]? = some thread) (program : thread.rest = .call request cont)
    (ran : Cluster.exec number thread.tag request pool.state = some (answer, next.state))
    (threads : next.threads = pool.threads.set number (thread.answered request cont answer))
    (unwritten : ∀ state, request.presence ≠ some (userId, state))
    (spared : request.deletion ≠ some userId) (notStored : request.storing answer ≠ some userId) :
    Balanced next userId := by
  have online := online_iff ran unwritten
  have session := session_iff ran spared notStored
  rw [Balanced, online, session]
  refine balanced.imp_right (Or.imp ?_ ?_)
  · intro ⟨there, owed⟩
    refine ⟨there, owed_kept found threads (fun owing => ?_) owed⟩
    exact owing.answered permits ran unwritten
  · intro ⟨absent, owed⟩
    refine ⟨absent, owed_kept found threads (fun owing => ?_) owed⟩
    exact owing.answered settles program unwritten

end Answered

theorem Together.turn {pool next : ClusterPool} {turn : Turn ClusterEvent}
    (together : Together pool) (inTime : KeepsPresence pool turn)
    (moved : clusterSystem.turn pool turn = some next) : Together next := by
  have keeps := keeps_turn together.keeps moved
  have settles : ∀ thread ∈ next.threads, thread.Settles := by
    apply ThreadSystem.turn_forall_threads together.settles _ _ moved
    · intro thread β request cont answer settles program departs
      have follows := settles departs
      rw [program] at follows
      exact follows.2 answer
    · intro event cluster jobs acted job listed
      obtain ⟨n, loop, handler, rfl⟩ := (Cluster.environment_writes acted).2.2.2.2 job listed
      exact start_settles pool.state n loop handler
  refine ⟨keeps, settles, fun userId => ?_⟩
  rcases ThreadSystem.turn_cases moved with
    ⟨number, thread, β, request, cont, answer, rfl, found, program, ran, threads⟩ |
    ⟨event, jobs, rfl, acted, threads⟩
  · have listed := List.mem_of_getElem? found
    have permits := (together.keeps thread listed).permits program
    have now : InTime pool number thread.tag request := by
      have soon := inTime thread found
      rwa [program] at soon
    -- a call writes the state, deletes the session, stores it, or does none of these
    by_cases written : ∃ state, request.presence = some (userId, state)
    · obtain ⟨state, written⟩ := written
      exact balanced_written (now.1 (userId, state) written) ran threads written
    · by_cases deletes : request.deletion = some userId
      · exact balanced_deleted (together.balanced userId) (now.2 userId deletes) found ran threads
          deletes
      · by_cases stores : request.storing answer = some userId
        · exact balanced_stored permits found ran threads stores
        · exact balanced_still (together.balanced userId) permits
            (together.settles thread listed) found program ran threads
            (fun state written' => written ⟨state, written'⟩) deletes stores
  · obtain ⟨store, database, -, -, -⟩ := Cluster.environment_writes acted
    have session : next.state.HasSession userId ↔ pool.state.HasSession userId := by
      rw [Cluster.HasSession, store]
      rfl
    have online : next.state.database.Online userId ↔ pool.state.database.Online userId := by
      rw [database]
      cases event with
      | tables users friends groups => exact inTime userId
      | _ => rfl
    have grown {owes : Thread ServerCall Job Unit → Prop}
        (owed : ∃ thread ∈ pool.threads, owes thread) : ∃ thread ∈ next.threads, owes thread := by
      obtain ⟨thread, member, owing⟩ := owed
      rw [threads]
      exact ⟨thread, List.mem_append_left _ member, owing⟩
    rw [Balanced, online, session]
    exact (together.balanced userId).imp_right
      (Or.imp (And.imp_right grown) (And.imp_right grown))

/-- **The database agrees with Redis** in every state that such a run comes to with no handler at
work: a user is online there just if the user has a session. -/
theorem presence_agrees {clockMs : Int} {configs : ℕ → ServerConfig} {database : Database}
    {pool : ClusterPool} (nobody : ∀ userId, ¬database.Online userId)
    (reached : clusterSystem.machine.Reach KeepsPresence (startPool clockMs configs database) pool)
    (idle : ∀ thread ∈ pool.threads, thread.rest.returned.isSome) (userId : UserId) :
    pool.state.database.Online userId ↔ pool.state.HasSession userId := by
  have together : Together pool := by
    apply reached.invariant Together
    · refine ⟨List.forall_mem_nil _, List.forall_mem_nil _, fun userId => .inl ?_⟩
      exact iff_of_false (nobody userId) fun there => there rfl
    · intro pool next turn together inTime moved
      exact together.turn inTime moved
  rcases together.balanced userId with agrees | ⟨-, thread, member, user, phase⟩ |
    ⟨-, thread, member, departs, user⟩
  · exact agrees
  · -- a login that has come to its end owes nothing
    obtain ⟨value, returned⟩ := Option.isSome_iff_exists.mp (idle thread member)
    have ended := together.keeps thread member
    rw [Thread.Keeps, Calls.returned_eq_some.mp returned, Calls.follows_ret, phase] at ended
    obtain ⟨⟨node, loop, handler⟩, log, rest⟩ := thread
    cases handler with
    | login id pwd conn => exact absurd rfl ended.2
    | _ => cases user
  · obtain ⟨value, returned⟩ := Option.isSome_iff_exists.mp (idle thread member)
    have ended := together.settles thread member departs
    rw [Calls.returned_eq_some.mp returned, Calls.follows_ret, user] at ended
    cases ended

instance {ρ : Type} (pool : ClusterPool) (number : ℕ) (job : Job) :
    (program : Calls ServerCall ρ) → Decidable (NextInTime pool number job program)
  | .call call _ => inferInstanceAs (Decidable (InTime pool number job call))
  | .ret _ => .isTrue trivial

/-- The condition can be checked of every turn but of what other models write. -/
noncomputable instance (pool : ClusterPool) :
    (turn : Turn ClusterEvent) → Decidable (KeepsPresence pool turn)
  | .thread number => inferInstanceAs (Decidable (∀ thread ∈ pool.threads[number]?,
      NextInTime pool number thread.tag thread.rest))
  | .environment (.tables _ _ _) => Classical.propDecidable _
  | .environment (.initNode _ _) => .isTrue trivial
  | .environment (.heartbeat _ _) => .isTrue trivial
  | .environment (.closeAll _ _) => .isTrue trivial
  | .environment (.reset _ _) => .isTrue trivial
  | .environment (.connect _ _) => .isTrue trivial
  | .environment (.disconnect _) => .isTrue trivial
  | .environment (.request _ _) => .isTrue trivial
  | .environment (.receive _ _ _) => .isTrue trivial
  | .environment (.move _ _) => .isTrue trivial
  | .environment (.runQueued _) => .isTrue trivial
  | .environment (.drainStep _ _) => .isTrue trivial
  | .environment (.iterate _) => .isTrue trivial
  | .environment (.wait _ _) => .isTrue trivial
  | .environment (.waitRedis _) => .isTrue trivial

theorem twoUsers_offline (userId : UserId) : ¬twoUsers.Online userId := by
  rintro ⟨user, row, claims⟩
  rw [twoUsers, Option.mem_def] at row
  dsimp only at row
  split at row
  · obtain rfl := Option.some.inj row
    have differ : offline ≠ online := by decide
    exact differ claims
  · cases row

/-- The user logs out where it is connected, and logs in on the other node. -/
theorem presence_agrees_moved :
    ∃ pool, clusterSystem.machine.Reach KeepsPresence (startPool 0 (twoServers 4) twoUsers) pool ∧
      (∀ thread ∈ pool.threads, thread.rest.returned.isSome) ∧ pool.state.HasSession 7 ∧
      ∀ userId, pool.state.database.Online userId ↔ pool.state.HasSession userId := by
  have ran : ((clusterSystem.machine.runWithin KeepsPresence (startPool 0 (twoServers 4) twoUsers)
      (bothNodesAndLogin ++ ThreadSystem.handling 3 7 (.request 0 (.logout 7)) ++
        ThreadSystem.handling 4 16 (.request 1 (.login 7 password.bytes)))).any fun pool =>
      decide ((∀ thread ∈ pool.threads, thread.rest.returned.isSome) ∧
        pool.state.HasSession 7)) = true := by
    decide +kernel
  obtain ⟨pool, ran, found⟩ := (Option.any_eq_true _ _).mp ran
  obtain ⟨idle, session⟩ := of_decide_eq_true found
  have reached := Machine.Reach.of_runWithin .refl ran
  exact ⟨pool, reached, idle, session, presence_agrees twoUsers_offline reached idle⟩

/-- The user logs out, and logs in on the other node before the logout has come to its end. -/
theorem overtakenLogout_offline :
    ∃ pool, ClusterReach 0 (twoServers 4) twoUsers pool ∧
      (∀ thread ∈ pool.threads, thread.rest.returned.isSome) ∧ pool.state.HasSession 7 ∧
      ¬pool.state.database.Online 7 := by
  have ran : ((clusterSystem.machine.run (startPool 0 (twoServers 4) twoUsers)
      (bothNodesAndLogin ++ ThreadSystem.handling 3 6 (.request 0 (.logout 7)) ++
        ThreadSystem.handling 4 17 (.request 1 (.login 7 password.bytes)) ++
          [.thread 3])).any fun pool =>
      decide ((∀ thread ∈ pool.threads, thread.rest.returned.isSome) ∧
        pool.state.HasSession 7 ∧ ¬pool.state.database.Online 7)) = true := by
    decide +kernel
  obtain ⟨pool, ran, found⟩ := (Option.any_eq_true _ _).mp ran
  exact ⟨pool, .of_run ran, of_decide_eq_true found⟩

end ClusterChat
