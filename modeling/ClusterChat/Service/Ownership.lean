/-
# One node for each user

A login owns its user once it has stored the session, for as long as the entry that it made is in
the connection table of its node. Of the logins for one user on all nodes, only one can own the
user at a time, as long as nobody deletes the session of a user who is owned.

Nobody has to ask who owns a session before deleting it. A logout that names a user of another
node, the cleanup of a stale route, or the close of an old connection may delete it, and then the
user can log in again elsewhere.
-/

import ClusterChat.Service.Contest

namespace ClusterChat

open ServerCall LoginPhase

/-! ### Owners -/

/-- The session of the login's user is stored. -/
def LoginPhase.Stored (phase : LoginPhase) : Prop := phase = bound ∨ phase = accepted

instance (phase : LoginPhase) : Decidable phase.Stored :=
  inferInstanceAs (Decidable (phase = bound ∨ phase = accepted))

/-- The thread is a login that has stored the user's session, and the entry that it made for the
user is in the table of its node. -/
def Owns (pool : ClusterPool) (userId : UserId) (index : ℕ) : Prop :=
  ∃ thread ∈ pool.threads[index]?, (LoginPhase.of thread.log).Stored ∧
    ∃ entry ∈ pool.state.localEntry thread.tag.node userId, entry.writer = index

instance (pool : ClusterPool) (userId : UserId) (index : ℕ) : Decidable (Owns pool userId index) :=
  inferInstanceAs (Decidable (∃ thread ∈ pool.threads[index]?, (LoginPhase.of thread.log).Stored ∧
    ∃ entry ∈ pool.state.localEntry thread.tag.node userId, entry.writer = index))

/-- The user whose session a call deletes. -/
def ServerCall.deletion : {β : Type} → ServerCall β → Option UserId
  | _, .registry (.redis (.command (.delSession _ userId))) => some userId
  | _, _ => none

/-- The same for the next call of a program. -/
def nextDeletion {ρ : Type} : Calls ServerCall ρ → Option UserId
  | .call call _ => call.deletion
  | .ret _ => none

/-- The condition on a turn: the session of a user whom a login owns is not deleted. -/
def SparesOwned (pool : ClusterPool) : Turn ClusterEvent → Prop
  | .thread number => ∀ thread ∈ pool.threads[number]?, ∀ userId ∈ nextDeletion thread.rest,
      ∀ index < pool.threads.length, ¬Owns pool userId index
  | .environment _ => True

instance (pool : ClusterPool) : (turn : Turn ClusterEvent) → Decidable (SparesOwned pool turn)
  | .thread number =>
    have : DecidablePred fun thread : Thread ServerCall Job Unit =>
        ∀ userId ∈ nextDeletion thread.rest, ∀ index < pool.threads.length,
          ¬Owns pool userId index :=
      -- the user is the one of the call, and not sought among all users
      fun thread => Option.decidableForallMem (nextDeletion thread.rest)
    inferInstanceAs (Decidable (∀ thread ∈ pool.threads[number]?,
      ∀ userId ∈ nextDeletion thread.rest, ∀ index < pool.threads.length,
        ¬Owns pool userId index))
  | .environment _ => .isTrue trivial

/-! ### Sessions and entries -/

/-- The user whose session a call has stored, by its answer. -/
def ServerCall.storing : {β : Type} → ServerCall β → β → Option UserId
  | _, .registry (.redis (.command (.setSession userId _))), some true => some userId
  | _, _, _ => none

theorem not_stored_asking : ¬asking.Stored := by decide

theorem not_stored_entered : ¬entered.Stored := by decide

theorem not_stored_failed : ¬failed.Stored := by decide

/-- Only a login's `SET NX` takes it to a phase in which the session is stored. -/
theorem LoginPhase.stored_of_advance {phase : LoginPhase} {β : Type} {call : ServerCall β}
    {answer : β} (stored : (phase.advance ⟨call, answer⟩).Stored) :
    phase.Stored ∨ (call.storing answer).isSome := by
  cases phase with
  | bound => exact .inl (.inl rfl)
  | accepted => exact .inl (.inr rfl)
  | failed => exact absurd stored not_stored_failed
  | asking =>
    cases call with
    | service call =>
      cases call with
      | addLocalConnection userId conn => exact absurd stored not_stored_entered
      | _ => exact absurd stored not_stored_asking
    | _ => exact absurd stored not_stored_asking
  | entered =>
    cases call with
    | registry call =>
      cases call with
      | redis call =>
        cases call with
        | command command =>
          cases command with
          | setSession userId value =>
            match answer with
            | none => exact absurd stored not_stored_failed
            | some false => exact absurd stored not_stored_failed
            | some true => exact .inr rfl
          | _ => exact absurd stored not_stored_entered
        | client call => exact absurd stored not_stored_entered
      | node call => exact absurd stored not_stored_entered
    | _ => exact absurd stored not_stored_entered

/-- A login stores the session of its own user. -/
theorem LoginPhase.storing_own {phase : LoginPhase} {id userId : UserId} {conn : Connection}
    {β : Type} {call : ServerCall β} {answer : β} (permits : phase.Permits id conn call)
    (stores : call.storing answer = some userId) : userId = id := by
  cases call with
  | registry call =>
    cases call with
    | redis call =>
      cases call with
      | command command =>
        cases command with
        | setSession other value =>
          match answer with
          | none => cases stores
          | some false => cases stores
          | some true =>
            obtain rfl := Option.some.inj stores
            cases phase with
            | asking => exact permits.elim False.elim fun registers => registers.choose_spec.elim
            | entered => exact permits
            | _ => exact permits.elim
        | _ => cases stores
      | client call => cases stores
    | node call => cases stores
  | _ => cases stores

/-- A login that registers its connection does not store a session by it. -/
theorem storing_of_enters {β : Type} {call : ServerCall β} {answer : β} (enters : call.Enters) :
    call.storing answer = none := by
  cases call with
  | service call => rfl
  | _ => cases enters

namespace RedisStore

variable {store : RedisStore} {clockMs : Int} {userId : UserId}

/-- A session stays until it is deleted. -/
theorem session_exec {β : Type} {command : RedisCommand β}
    (spared : (ServerCall.registry (.redis (.command command))).deletion ≠ some userId)
    (there : store.session userId ≠ none) :
    (store.exec clockMs command).2.session userId ≠ none := by
  cases command with
  | setSession other value =>
    rw [exec]
    cases found : store.session other with
    | some _ => exact there
    | none =>
      have differ : userId ≠ other := fun same => there (same ▸ found)
      dsimp only
      rwa [Function.update_of_ne differ]
  | delSession caller other =>
    have differ : userId ≠ other := fun same => spared (same ▸ rfl)
    rw [exec]
    dsimp only
    rwa [Function.update_of_ne differ]
  | setNode nodeId fields => exact there
  | expireNode nodeId seconds =>
    rw [exec, expireNode]
    cases store.liveNode clockMs nodeId with
    | none => exact there
    | some record => exact there
  | _ => exact there

/-- `SET NX` stores a session where there was none. -/
theorem session_setSession {other : UserId} {value : CString} {answer : Option Bool}
    {after : RedisStore} (ran : store.exec clockMs (.setSession other value) = (answer, after))
    (first : answer = some true) :
    store.session other = none ∧ after.session other ≠ none := by
  rw [exec] at ran
  cases found : store.session other with
  | some _ =>
    rw [found] at ran
    obtain ⟨rfl, -⟩ := Prod.mk.inj ran
    cases first
  | none =>
    rw [found] at ran
    obtain ⟨-, rfl⟩ := Prod.mk.inj ran
    dsimp only
    rw [Function.update_self]
    exact ⟨rfl, Option.some_ne_none value⟩

end RedisStore

section Call

variable {cluster after : Cluster} {number : ℕ} {job : Job} {β : Type} {call : ServerCall β}
  {answer : β} {userId : UserId}

theorem session_kept (ran : Cluster.exec number job call cluster = some (answer, after))
    (spared : call.deletion ≠ some userId) (there : cluster.store.session userId ≠ none) :
    after.store.session userId ≠ none := by
  rw [(Cluster.exec_writes ran).1]
  cases call with
  | registry call =>
    cases call with
    | redis call =>
      cases call with
      | command command => exact RedisStore.session_exec spared there
      | client call => exact there
    | node call => exact there
  | _ => exact there

theorem session_stored (ran : Cluster.exec number job call cluster = some (answer, after))
    (stores : call.storing answer = some userId) :
    cluster.store.session userId = none ∧ after.store.session userId ≠ none := by
  cases call with
  | registry call =>
    cases call with
    | redis call =>
      cases call with
      | command command =>
        cases command with
        | setSession other value =>
          have written := (Cluster.exec_writes ran).1
          have replied :
              (cluster.store.exec cluster.clockMs (.setSession other value)).1 = answer :=
            congrArg Prod.fst (Option.some.inj ran)
          match answer with
          | none => cases stores
          | some false => cases stores
          | some true =>
            obtain rfl := Option.some.inj stores
            rw [written]
            exact RedisStore.session_setSession (Prod.ext replied rfl) rfl
        | _ => cases stores
      | client call => cases stores
    | node call => cases stores
  | _ => cases stores

/-- What is permitted to a handler other than `login` is what it asks for. -/
theorem asks_of_permits {node loop : ℕ} {handler : Handler} {phase : LoginPhase}
    (other : ∀ id pwd conn, handler ≠ .login id pwd conn)
    (permits : (Job.mk node loop handler).Permits phase call) : handler.Asks call := by
  unfold Job.Permits at permits
  split at permits
  · rename_i same
    exact absurd same (other _ _ _)
  · exact permits

/-- Only a login makes entries, and only for its own user and connection. -/
theorem contestant_of_enters {phase : LoginPhase} {conn : Connection}
    (permits : job.Permits phase (.service (.addLocalConnection userId conn))) :
    job.contestant job.node userId = some conn := by
  obtain ⟨node, loop, handler⟩ := job
  by_cases login : ∃ id pwd other, handler = .login id pwd other
  · obtain ⟨id, pwd, other, rfl⟩ := login
    cases phase with
    | asking =>
      obtain ⟨rfl, rfl⟩ := permits
      exact if_pos ⟨rfl, rfl⟩
    | _ => exact permits.elim
  · have other : ∀ id pwd conn, handler ≠ .login id pwd conn :=
      fun id pwd conn same => login ⟨id, pwd, conn, same⟩
    have asked := asks_of_permits other permits
    rcases asked.ofOthers other with (plain | ⟨_, unbinds⟩) | departs
    · exact plain.elim
    · exact unbinds.elim
    · exact departs.elim

/-- An entry is an old one, or the one that a login for the user has just made. -/
theorem entry_made {phase : LoginPhase} (permits : job.Permits phase call)
    (ran : Cluster.exec number job call cluster = some (answer, after)) {n : ℕ}
    {entry : LocalEntry} (there : after.localEntry n userId = some entry) :
    cluster.localEntry n userId = some entry ∨
      entry.writer = number ∧ job.contestant n userId = some entry.conn := by
  by_cases touches : cluster.Touches n userId job call
  · have table := (Cluster.exec_writes ran).2.2
    cases call with
    | service call =>
      cases call with
      | addLocalConnection added conn =>
        obtain ⟨rfl, rfl⟩ := touches
        have made : entry = ⟨conn, number⟩ := by
          rw [table] at there
          simp only [Cluster.tableAfter, Cluster.execService, Cluster.withNode, Cluster.localEntry,
            Function.update_self, AList.lookup_insert] at there
          exact (Option.some.inj there).symm
        subst made
        exact .inr ⟨rfl, contestant_of_enters permits⟩
      | removeLocalConnection removed =>
        obtain ⟨rfl, rfl⟩ := touches
        rw [table] at there
        simp [Cluster.tableAfter, Cluster.execService, Cluster.withNode, Cluster.localEntry]
          at there
      | removeFromBucket bucket conn =>
        obtain ⟨rfl, -⟩ := touches
        rw [table] at there
        simp only [Cluster.tableAfter, Cluster.execService] at there
        split at there
        · exact .inl there
        · rename_i found _
          simp only [Cluster.withNode, Cluster.localEntry, Function.update_self] at there
          by_cases same : userId = found.1
          · subst same
            rw [AList.lookup_erase] at there
            cases there
          · rw [AList.lookup_erase_ne same] at there
            exact .inl there
      | _ => exact touches.elim
    | _ => exact touches.elim
  · rw [Cluster.localEntry_of_untouched ran touches] at there
    exact .inl there

end Call

/-! ### Every run -/

/-- The invariant: every entry is that of a login for the user, and of the logins for one user
one at most owns the user, and only while the user has a session. -/
structure Owned (pool : ClusterPool) : Prop where
  keeps : ∀ thread ∈ pool.threads, thread.Keeps
  made : ∀ n userId entry, pool.state.localEntry n userId = some entry →
    ∃ thread, pool.threads[entry.writer]? = some thread ∧
      thread.tag.contestant n userId = some entry.conn
  stored : ∀ userId index, Owns pool userId index → pool.state.store.session userId ≠ none
  sole : ∀ userId i j, Owns pool userId i → Owns pool userId j → i = j
  acked : ∀ thread ∈ pool.threads, ∀ n userId, thread.tag.contestant n userId ≠ none →
    acked thread.log = true → LoginPhase.of thread.log = accepted

variable {pool next : ClusterPool}

section Answered

variable {number : ℕ} {thread : Thread ServerCall Job Unit} {β : Type} {request : ServerCall β}
  {cont : β → Calls ServerCall Unit} {answer : β}

theorem Owned.made_answered (owned : Owned pool) (found : pool.threads[number]? = some thread)
    (program : thread.rest = .call request cont)
    (ran : Cluster.exec number thread.tag request pool.state = some (answer, next.state))
    (threads : next.threads = pool.threads.set number (thread.answered request cont answer))
    {n : ℕ} {userId : UserId} {entry : LocalEntry}
    (there : next.state.localEntry n userId = some entry) :
    ∃ thread, next.threads[entry.writer]? = some thread ∧
      thread.tag.contestant n userId = some entry.conn := by
  have bound : number < pool.threads.length := (List.getElem?_eq_some_iff.mp found).1
  have permits := (owned.keeps thread (List.mem_of_getElem? found)).permits program
  rw [threads]
  rcases entry_made permits ran there with old | ⟨rfl, contests⟩
  · obtain ⟨writer, here, contests⟩ := owned.made n userId entry old
    by_cases same : entry.writer = number
    · rw [same] at here ⊢
      obtain rfl := Option.some.inj (here.symm.trans found)
      exact ⟨_, List.getElem?_set_self bound, contests⟩
    · exact ⟨writer, (List.getElem?_set_ne (Ne.symm same)).trans here, contests⟩
  · exact ⟨_, List.getElem?_set_self bound, contests⟩

/-- A turn makes no login an owner but the one whose `SET NX` it is. -/
theorem Owned.owns_answered (owned : Owned pool) (found : pool.threads[number]? = some thread)
    (program : thread.rest = .call request cont)
    (ran : Cluster.exec number thread.tag request pool.state = some (answer, next.state))
    (threads : next.threads = pool.threads.set number (thread.answered request cont answer))
    {userId : UserId} {index : ℕ} (owns : Owns next userId index) :
    Owns pool userId index ∨ index = number ∧ request.storing answer = some userId := by
  obtain ⟨owner, here, stored, entry, there, writer⟩ := owns
  subst writer
  have permits := (owned.keeps thread (List.mem_of_getElem? found)).permits program
  rw [Option.mem_def, threads] at here
  rcases ThreadSystem.getElem?_set_cases here with ⟨same, rfl⟩ | ⟨differ, here⟩
  · -- the owner is the login itself, and the call has left its entry
    obtain ⟨writer, here, contests⟩ := owned.made_answered found program ran threads there
    have bound : number < pool.threads.length := (List.getElem?_eq_some_iff.mp found).1
    rw [same, threads, List.getElem?_set_self bound] at here
    obtain rfl := Option.some.inj here
    obtain ⟨loop, pwd, tag⟩ := contestant_eq_some contests
    rw [Thread.answered_tag] at tag there
    rw [tag] at permits ran
    rw [Thread.answered_log, of_cons] at stored
    rcases login_call permits ran with ⟨asks, enters, -⟩ | fails | ⟨kept, -⟩
    · rcases stored_of_advance stored with before | stores
      · rw [asks] at before
        exact absurd before not_stored_asking
      · rw [storing_of_enters enters] at stores
        cases stores
    · rw [fails] at stored
      exact absurd stored not_stored_failed
    · rcases stored_of_advance stored with before | stores
      · refine .inl ⟨thread, same ▸ found, before, entry, ?_, rfl⟩
        rw [tag] at there ⊢
        exact kept.symm.trans there
      · obtain ⟨user, stores⟩ := Option.isSome_iff_exists.mp stores
        exact .inr ⟨same, LoginPhase.storing_own permits stores ▸ stores⟩
  · rcases entry_made permits ran there with old | ⟨made, -⟩
    · exact .inl ⟨owner, here, stored, entry, old, rfl⟩
    · exact absurd made differ

end Answered

theorem Owned.turn {turn : Turn ClusterEvent} (owned : Owned pool)
    (spares : SparesOwned pool turn) (moved : clusterSystem.turn pool turn = some next) :
    Owned next := by
  have keeps := keeps_turn owned.keeps moved
  rcases ThreadSystem.turn_cases moved with
    ⟨number, thread, β, request, cont, answer, rfl, found, program, ran, threads⟩ |
    ⟨event, jobs, rfl, acted, threads⟩
  · have listed := List.mem_of_getElem? found
    have permits := (owned.keeps thread listed).permits program
    have inside {userId : UserId} {index : ℕ} (owns : Owns pool userId index) :
        index < pool.threads.length := by
      obtain ⟨owner, here, -⟩ := owns
      exact (List.getElem?_eq_some_iff.mp here).1
    have grown {userId : UserId} {index : ℕ} := @Owned.owns_answered pool next number thread β
      request cont answer owned found program ran threads userId index
    refine ⟨keeps, ?_, ?_, ?_, ?_⟩
    · -- who wrote an entry is a thread of the run
      intro n userId entry there
      exact owned.made_answered found program ran threads there
    · intro userId index owns
      rcases grown owns with before | ⟨-, stores⟩
      · -- the session of an owned user is not what the call deletes
        apply session_kept ran _ (owned.stored userId index before)
        intro deletes
        have deleted : userId ∈ nextDeletion thread.rest := by
          rw [program]
          exact deletes
        exact spares thread found userId deleted index (inside before) before
      · exact (session_stored ran stores).2
    · intro userId i j first second
      -- two owners would have stored the session one on top of the other
      rcases grown first with before | ⟨rfl, stores⟩
      · rcases grown second with earlier | ⟨-, stores⟩
        · exact owned.sole userId i j before earlier
        · exact absurd (session_stored ran stores).1 (owned.stored userId i before)
      · rcases grown second with earlier | ⟨rfl, -⟩
        · exact absurd (session_stored ran stores).1 (owned.stored userId j earlier)
        · rfl
    · intro other member n userId contests answered
      rw [threads] at member
      rcases List.mem_or_eq_of_mem_set member with old | rfl
      · exact owned.acked other old n userId contests answered
      · obtain ⟨conn, contestant⟩ := Option.ne_none_iff_exists'.mp contests
        obtain ⟨loop, pwd, tag⟩ := contestant_eq_some contestant
        rw [Thread.answered_tag] at tag contests
        rw [tag] at permits
        exact accepted_of_acked (owned.acked thread listed n userId contests) permits answered
  · obtain ⟨store, -, table, -, -⟩ := Cluster.environment_writes acted
    -- a login that starts has stored nothing yet, so an event makes no owner
    have started : ∀ thread ∈ jobs.map Thread.start, LoginPhase.of thread.log = asking := by
      intro thread member
      obtain ⟨job, -, rfl⟩ := List.mem_map.mp member
      rfl
    have old {userId : UserId} {index : ℕ} (owns : Owns next userId index) :
        Owns pool userId index := by
      obtain ⟨owner, here, stored, entry, there, writer⟩ := owns
      rw [Option.mem_def, threads] at here
      rw [table] at there
      rcases ThreadSystem.getElem?_append_cases here with here | new
      · exact ⟨owner, here, stored, entry, there, writer⟩
      · rw [started owner new] at stored
        exact absurd stored not_stored_asking
    refine ⟨keeps, ?_, ?_, ?_, ?_⟩
    · intro n userId entry there
      rw [table] at there
      obtain ⟨writer, here, contests⟩ := owned.made n userId entry there
      have bound := (List.getElem?_eq_some_iff.mp here).1
      rw [threads]
      exact ⟨writer, (List.getElem?_append_left bound).trans here, contests⟩
    · intro userId index owns
      rw [store]
      exact owned.stored userId index (old owns)
    · intro userId i j first second
      exact owned.sole userId i j (old first) (old second)
    · intro other member n userId contests answered
      rw [threads, List.mem_append] at member
      rcases member with before | new
      · exact owned.acked other before n userId contests answered
      · obtain ⟨job, -, rfl⟩ := List.mem_map.mp new
        cases answered

/-- The entry was made by a login that was answered without an error. -/
def LocalEntry.Acked (pool : ClusterPool) (entry : LocalEntry) : Prop :=
  ∃ thread ∈ pool.threads[entry.writer]?, acked thread.log = true

/-- **One node for each user.** In every run in which no session of an owned user is deleted, the
entries of a user that logins without an error have made are all on one node. -/
theorem one_node_each {clockMs : Int} {configs : ℕ → ServerConfig} {database : Database}
    (reached : clusterSystem.machine.Reach SparesOwned (startPool clockMs configs database) pool)
    {n m : ℕ} {userId : UserId} {first second : LocalEntry}
    (here : pool.state.localEntry n userId = some first)
    (there : pool.state.localEntry m userId = some second)
    (accepted : first.Acked pool) (accepted' : second.Acked pool) : n = m := by
  have owned : Owned pool := by
    apply reached.invariant Owned
    · refine ⟨List.forall_mem_nil _, ?_, ?_, ?_, List.forall_mem_nil _⟩
      · intro n userId entry there
        cases there
      · intro userId index owns
        obtain ⟨owner, here, -⟩ := owns
        cases here
      · intro userId i j owns
        obtain ⟨owner, here, -⟩ := owns
        cases here
    · intro pool next turn owned spares moved
      exact owned.turn spares moved
  have owner {k : ℕ} {entry : LocalEntry} (entered : pool.state.localEntry k userId = some entry)
      (accepted : entry.Acked pool) : Owns pool userId entry.writer ∧
        ∃ thread ∈ pool.threads[entry.writer]?, thread.tag.node = k := by
    obtain ⟨thread, found, contests⟩ := owned.made k userId entry entered
    obtain ⟨writer, found', answered⟩ := accepted
    obtain rfl := Option.some.inj (found'.symm.trans found)
    have contests' : writer.tag.contestant k userId ≠ none := by
      rw [contests]
      exact Option.some_ne_none entry.conn
    obtain ⟨loop, pwd, tag⟩ := contestant_eq_some contests
    have node : writer.tag.node = k := by rw [tag]
    have phase := owned.acked writer (List.mem_of_getElem? found) k userId contests' answered
    exact ⟨⟨writer, found, .inr phase, entry, node ▸ entered, rfl⟩, writer, found, node⟩
  obtain ⟨owns, thread, found, node⟩ := owner here accepted
  obtain ⟨owns', thread', found', node'⟩ := owner there accepted'
  rw [owned.sole userId _ _ owns owns', found'] at found
  obtain rfl := Option.some.inj found
  exact node.symm.trans node'

/-- Both nodes come up, a client connects to each, and the first client logs in. -/
def bothNodesAndLogin : List (Turn ClusterEvent) :=
  ThreadSystem.handling 0 10 (.initNode 0 0) ++ ThreadSystem.handling 1 22 (.initNode 1 0) ++
    [.environment (.connect 0 0), .environment (.connect 1 0)] ++
    ThreadSystem.handling 2 16 (.request 0 (.login 7 password.bytes))

instance (pool : ClusterPool) (entry : LocalEntry) : Decidable (entry.Acked pool) :=
  inferInstanceAs (Decidable (∃ thread ∈ pool.threads[entry.writer]?, acked thread.log = true))

/-- The user logs out where it is connected, and logs in on the other node. -/
theorem one_node_each_moves :
    ∃ pool entry,
      clusterSystem.machine.Reach SparesOwned (startPool 0 (twoServers 4) twoUsers) pool ∧
      pool.state.localEntry 1 7 = some entry ∧ entry.Acked pool ∧
      ∀ n other, pool.state.localEntry n 7 = some other → other.Acked pool → n = 1 := by
  have ran : ((clusterSystem.machine.runWithin SparesOwned (startPool 0 (twoServers 4) twoUsers)
      (bothNodesAndLogin ++ ThreadSystem.handling 3 7 (.request 0 (.logout 7)) ++
        ThreadSystem.handling 4 16 (.request 1 (.login 7 password.bytes)))).any fun pool =>
      (pool.state.localEntry 1 7).any fun entry => decide (entry.Acked pool)) = true := by
    decide +kernel
  obtain ⟨pool, ran, found⟩ := (Option.any_eq_true _ _).mp ran
  obtain ⟨entry, here, accepted⟩ := (Option.any_eq_true _ _).mp found
  have reached := Machine.Reach.of_runWithin .refl ran
  refine ⟨pool, entry, reached, here, of_decide_eq_true accepted, ?_⟩
  intro n other there accepted'
  exact one_node_each reached there here accepted' (of_decide_eq_true accepted)

/-- A client of the other node logs the user out, and then logs in as the user. -/
theorem logoutElsewhere_two_nodes :
    ∃ pool first second, ClusterReach 0 (twoServers 4) twoUsers pool ∧
      pool.state.localEntry 0 7 = some first ∧ first.Acked pool ∧
      pool.state.localEntry 1 7 = some second ∧ second.Acked pool := by
  have ran : ((clusterSystem.machine.run (startPool 0 (twoServers 4) twoUsers)
      (bothNodesAndLogin ++ ThreadSystem.handling 3 7 (.request 1 (.logout 7)) ++
        ThreadSystem.handling 4 16 (.request 1 (.login 7 password.bytes)))).any fun pool =>
      ((pool.state.localEntry 0 7).any fun entry => decide (entry.Acked pool)) &&
        (pool.state.localEntry 1 7).any fun entry => decide (entry.Acked pool)) = true := by
    decide +kernel
  obtain ⟨pool, ran, found⟩ := (Option.any_eq_true _ _).mp ran
  obtain ⟨here, there⟩ := Bool.and_eq_true_iff.mp found
  obtain ⟨first, here, accepted⟩ := (Option.any_eq_true _ _).mp here
  obtain ⟨second, there, accepted'⟩ := (Option.any_eq_true _ _).mp there
  exact ⟨pool, first, second, .of_run ran, here, of_decide_eq_true accepted, there,
    of_decide_eq_true accepted'⟩

end ClusterChat
