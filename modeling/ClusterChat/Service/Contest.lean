/-
# Logins for one user at the same time

Several logins for one user may pass the check for a session before one of them
binds the user. Each registers its connection, so the last one's is in the table;
the ones that lose take the entry out again, whoever's it is. So the winner keeps
its entry only where nobody else got as far as registering.
-/

import ClusterChat.Service.Login

namespace ClusterChat

open ChatService ServerCall LoginPhase

/-- The connection of a login for the user on the node. -/
def Job.contestant (job : Job) (n : ℕ) (userId : UserId) : Option Connection :=
  match job.handler with
  | .login id _ conn => if job.node = n ∧ id = userId then some conn else none
  | _ => none

/-- Whether a call registers a connection. -/
def ServerCall.Enters : {β : Type} → ServerCall β → Bool
  | _, .service (.addLocalConnection _ _) => true
  | _, _ => false

/-- The same for the next call of a program. -/
def nextEnters {ρ : Type} : Calls ServerCall ρ → Bool
  | .call call _ => call.Enters
  | .ret _ => false

/-- The next call of a program is about the user's entry. -/
def NextTouches {ρ : Type} (cluster : Cluster) (n : ℕ) (userId : UserId) (job : Job) :
    Calls ServerCall ρ → Prop
  | .ret _ => False
  | .call call _ => cluster.Touches n userId job call

/-- Whether a login has been answered without an error. -/
def acked (log : List (Event ServerCall)) : Bool :=
  log.any fun event =>
    match event with
    | ⟨.service (.send _ (.loginAck response)), _⟩ => response.errno = 0
    | _ => false

/-- Nothing but logins for the user on the node is about the user's entry there. -/
def OthersApart (n : ℕ) (userId : UserId) (pool : ClusterPool) : Turn ClusterEvent → Prop
  | .thread number => ∀ thread ∈ pool.threads[number]?,
      thread.tag.contestant n userId = none →
        ¬NextTouches pool.state n userId thread.tag thread.rest
  | .environment _ => True

/-- The condition on a turn: a login for the user on the node registers its connection
only where no other one has. -/
def EntersAlone (n : ℕ) (userId : UserId) (pool : ClusterPool) : Turn ClusterEvent → Prop
  | .thread number => ∀ thread ∈ pool.threads[number]?,
      thread.tag.contestant n userId ≠ none → nextEnters thread.rest = true →
        ∀ other ∈ pool.threads, other.tag.contestant n userId ≠ none →
          LoginPhase.of other.log = .asking
  | .environment _ => True

instance {ρ : Type} (cluster : Cluster) (n : ℕ) (userId : UserId) (job : Job) :
    (program : Calls ServerCall ρ) → Decidable (NextTouches cluster n userId job program)
  | .ret _ => .isFalse id
  | .call call _ => inferInstanceAs (Decidable (cluster.Touches n userId job call))

instance (n : ℕ) (userId : UserId) (pool : ClusterPool) :
    (turn : Turn ClusterEvent) → Decidable (OthersApart n userId pool turn)
  | .thread number => inferInstanceAs (Decidable (∀ thread ∈ pool.threads[number]?,
      thread.tag.contestant n userId = none →
        ¬NextTouches pool.state n userId thread.tag thread.rest))
  | .environment _ => .isTrue trivial

instance (n : ℕ) (userId : UserId) (pool : ClusterPool) :
    (turn : Turn ClusterEvent) → Decidable (EntersAlone n userId pool turn)
  | .thread number => inferInstanceAs (Decidable (∀ thread ∈ pool.threads[number]?,
      thread.tag.contestant n userId ≠ none → nextEnters thread.rest = true →
        ∀ other ∈ pool.threads, other.tag.contestant n userId ≠ none →
          LoginPhase.of other.log = .asking))
  | .environment _ => .isTrue trivial

variable {n : ℕ} {userId : UserId} {pool next : ClusterPool}

/-! ### One call of a login -/

/-- The entry is the login's own, as long as it has registered and not failed. -/
def LoginPhase.Holds (phase : LoginPhase) : Prop := phase ≠ asking ∧ phase ≠ failed

theorem contestant_eq_some {job : Job} {conn : Connection}
    (contests : job.contestant n userId = some conn) :
    ∃ loop pwd, job = ⟨n, loop, .login userId pwd conn⟩ := by
  obtain ⟨node, loop, handler⟩ := job
  cases handler with
  | login id pwd other =>
    simp only [Job.contestant] at contests
    split at contests
    · rename_i same
      obtain ⟨rfl, rfl⟩ := same
      obtain rfl := Option.some.inj contests
      exact ⟨loop, pwd, rfl⟩
    · cases contests
  | _ => cases contests

theorem entered_holds : entered.Holds := ⟨by decide, by decide⟩

theorem bound_holds : bound.Holds := ⟨by decide, by decide⟩

theorem accepted_holds : accepted.Holds := ⟨by decide, by decide⟩

/-- A login that is past asking, and has not failed, leaves the entry alone. -/
theorem untouched_of_holds {cluster : Cluster} {job : Job} {asker : UserId} {conn : Connection}
    {phase : LoginPhase} {β : Type} {call : ServerCall β} (holds : phase.Holds)
    (permits : phase.Permits asker conn call) : ¬cluster.Touches n userId job call := by
  intro touches
  cases call with
  | service call =>
    cases phase with
    | asking => exact holds.1 rfl
    | failed => exact holds.2 rfl
    | _ =>
      cases call with
      | addLocalConnection added other => exact permits
      | removeLocalConnection removed => exact permits
      | removeFromBucket bucket other => exact permits
      | _ => exact touches
  | _ => exact touches

/-- What a login's call does to the user's entry: it registers the connection, takes an
entry out after it has failed, or leaves the entry. -/
theorem login_call {cluster after : Cluster} {number loop : ℕ} {pwd : Bytes} {conn : Connection}
    {phase : LoginPhase} {β : Type} {call : ServerCall β} {answer : β}
    (permits : phase.Permits userId conn call)
    (ran : Cluster.exec number ⟨n, loop, .login userId pwd conn⟩ call cluster =
      some (answer, after)) :
    (phase = asking ∧ call.Enters = true ∧
        after.localEntry n userId = some ⟨conn, number⟩) ∨
      phase = failed ∨
      (after.localEntry n userId = cluster.localEntry n userId ∧
        (phase = asking → phase.advance ⟨call, answer⟩ = asking)) := by
  have kept (holds : phase.Holds) : after.localEntry n userId = cluster.localEntry n userId :=
    Cluster.localEntry_of_untouched ran (untouched_of_holds holds permits)
  cases phase with
  | asking =>
    cases call with
    | service call =>
      cases call with
      | addLocalConnection added other =>
        obtain ⟨rfl, rfl⟩ := permits
        refine .inl ⟨rfl, rfl, ?_⟩
        rw [(Cluster.exec_writes ran).2.2]
        simp [Cluster.tableAfter, Cluster.execService, Cluster.withNode, Cluster.localEntry]
      | removeLocalConnection removed => exact permits.elim
      | removeFromBucket bucket other => exact permits.elim
      | _ =>
        have same : after.localEntry n userId = cluster.localEntry n userId :=
          Cluster.localEntry_of_untouched ran fun touched => touched
        exact .inr (.inr ⟨same, fun _ => rfl⟩)
    | _ =>
      have same : after.localEntry n userId = cluster.localEntry n userId :=
        Cluster.localEntry_of_untouched ran fun touched => touched
      exact .inr (.inr ⟨same, fun _ => rfl⟩)
  | failed => exact .inr (.inl rfl)
  | entered => exact .inr (.inr ⟨kept entered_holds, fun asks => LoginPhase.noConfusion asks⟩)
  | bound => exact .inr (.inr ⟨kept bound_holds, fun asks => LoginPhase.noConfusion asks⟩)
  | accepted => exact .inr (.inr ⟨kept accepted_holds, fun asks => LoginPhase.noConfusion asks⟩)

/-- A login is answered without an error only after its user is online, and stays so. -/
theorem accepted_of_acked {id : UserId} {conn : Connection} {phase : LoginPhase} {β : Type}
    {call : ServerCall β} {answer : β} {log : List (Event ServerCall)}
    (before : acked log = true → phase = accepted) (permits : phase.Permits id conn call)
    (answered : acked (⟨call, answer⟩ :: log) = true) :
    phase.advance ⟨call, answer⟩ = accepted := by
  by_cases already : acked log = true
  · rw [before already]
    rfl
  · -- the call is the answer itself
    cases call with
    | service call =>
      cases call with
      | send other outgoing =>
        cases outgoing with
        | loginAck response =>
          have errno : response.errno = 0 := by
            rw [acked, List.any_cons, Bool.or_eq_true] at answered
            exact of_decide_eq_true (answered.resolve_right already)
          cases phase with
          | asking => exact absurd errno permits.2
          | entered => exact permits.elim
          | bound => exact permits.elim
          | failed => exact absurd errno permits.2
          | accepted => rfl
        | chat copy => exact absurd answered already
      | _ => exact absurd answered already
    | _ => exact absurd answered already

/-! ### Every run -/

/-- Only one of the logins for the user on the node has registered its connection, and
the user's entry is that one's until it fails. -/
structure Settled (n : ℕ) (userId : UserId) (pool : ClusterPool) : Prop where
  keeps : ∀ thread ∈ pool.threads, thread.Keeps
  sole : ∀ (i j : ℕ) (first second : Thread ServerCall Job Unit),
    pool.threads[i]? = some first → pool.threads[j]? = some second →
    first.tag.contestant n userId ≠ none → second.tag.contestant n userId ≠ none →
    LoginPhase.of first.log ≠ asking → LoginPhase.of second.log ≠ asking → i = j
  entry : ∀ (i : ℕ) (thread : Thread ServerCall Job Unit) (conn : Connection),
    pool.threads[i]? = some thread → thread.tag.contestant n userId = some conn →
    (LoginPhase.of thread.log).Holds → pool.state.localEntry n userId = some ⟨conn, i⟩
  acked : ∀ thread ∈ pool.threads, thread.tag.contestant n userId ≠ none →
    acked thread.log = true → LoginPhase.of thread.log = accepted

section Answered

variable {number : ℕ} {thread : Thread ServerCall Job Unit} {β : Type} {request : ServerCall β}
  {cont : β → Calls ServerCall Unit} {answer : β}

/-- What a call of one of the logins does to the user's entry. -/
theorem Settled.effect (settled : Settled n userId pool)
    (found : pool.threads[number]? = some thread) (program : thread.rest = .call request cont)
    (ran : Cluster.exec number thread.tag request pool.state = some (answer, next.state))
    {conn : Connection} (contests : thread.tag.contestant n userId = some conn) :
    (LoginPhase.of thread.log = asking ∧ nextEnters thread.rest = true ∧
        next.state.localEntry n userId = some ⟨conn, number⟩) ∨
      LoginPhase.of thread.log = failed ∨
      (next.state.localEntry n userId = pool.state.localEntry n userId ∧
        (LoginPhase.of thread.log = asking →
          (LoginPhase.of thread.log).advance ⟨request, answer⟩ = asking)) := by
  have permits := (settled.keeps thread (List.mem_of_getElem? found)).permits program
  obtain ⟨loop, pwd, tag⟩ := contestant_eq_some contests
  rw [tag] at permits ran
  rw [program]
  exact login_call permits ran

/-- Nobody who has registered is joined by another. -/
theorem Settled.sole_answered (settled : Settled n userId pool)
    (alone : EntersAlone n userId pool (.thread number))
    (found : pool.threads[number]? = some thread) (program : thread.rest = .call request cont)
    (ran : Cluster.exec number thread.tag request pool.state = some (answer, next.state))
    {index : ℕ} {other : Thread ServerCall Job Unit} (there : pool.threads[index]? = some other)
    (contests : thread.tag.contestant n userId ≠ none)
    (rivals : other.tag.contestant n userId ≠ none)
    (past : (LoginPhase.of thread.log).advance ⟨request, answer⟩ ≠ asking)
    (ahead : LoginPhase.of other.log ≠ asking) : index = number := by
  obtain ⟨conn, contestant⟩ := Option.ne_none_iff_exists'.mp contests
  by_cases asks : LoginPhase.of thread.log = asking
  · rcases settled.effect found program ran contestant with
      ⟨-, enters, -⟩ | failed | ⟨-, stays⟩
    · have waits := alone thread found contests enters other (List.mem_of_getElem? there) rivals
      exact absurd waits ahead
    · rw [asks] at failed
      cases failed
    · exact absurd (stays asks) past
  · exact settled.sole index number other thread there found rivals contests ahead asks

/-- A call of one thread leaves another login its entry. -/
theorem Settled.entry_kept (settled : Settled n userId pool)
    (apart : OthersApart n userId pool (.thread number))
    (alone : EntersAlone n userId pool (.thread number))
    (found : pool.threads[number]? = some thread) (program : thread.rest = .call request cont)
    (ran : Cluster.exec number thread.tag request pool.state = some (answer, next.state))
    {index : ℕ} {other : Thread ServerCall Job Unit} (there : pool.threads[index]? = some other)
    (differ : index ≠ number) (rivals : other.tag.contestant n userId ≠ none)
    (holds : (LoginPhase.of other.log).Holds) :
    next.state.localEntry n userId = pool.state.localEntry n userId := by
  by_cases contests : thread.tag.contestant n userId = none
  · have untouched := apart thread found contests
    rw [program] at untouched
    exact Cluster.localEntry_of_untouched ran untouched
  · obtain ⟨conn, contestant⟩ := Option.ne_none_iff_exists'.mp contests
    rcases settled.effect found program ran contestant with
      ⟨-, enters, -⟩ | failed | ⟨same, -⟩
    · have waits := alone thread found contests enters other (List.mem_of_getElem? there) rivals
      exact absurd waits holds.1
    · -- a login that takes the entry out had registered, and so has this one
      have past : LoginPhase.of thread.log ≠ asking := by
        rw [failed]
        decide
      exact absurd (settled.sole index number other thread there found rivals contests holds.1 past)
        differ
    · exact same

end Answered

theorem Settled.turn {turn : Turn ClusterEvent} (settled : Settled n userId pool)
    (apart : OthersApart n userId pool turn) (alone : EntersAlone n userId pool turn)
    (moved : clusterSystem.turn pool turn = some next) : Settled n userId next := by
  have keeps := keeps_turn settled.keeps moved
  rcases ThreadSystem.turn_cases moved with
    ⟨number, thread, β, request, cont, answer, rfl, found, program, ran, threads⟩ |
    ⟨event, jobs, rfl, acted, threads⟩
  · refine ⟨keeps, ?_, ?_, ?_⟩
    · -- of two logins the one that takes its step now is compared with the other
      intro i j first second here there contests rivals past ahead
      rw [threads] at here there
      rcases ThreadSystem.getElem?_set_cases here with ⟨rfl, rfl⟩ | ⟨-, first'⟩ <;>
        rcases ThreadSystem.getElem?_set_cases there with ⟨rfl, rfl⟩ | ⟨-, second'⟩
      · rfl
      · exact (settled.sole_answered alone found program ran second' contests rivals
          past ahead).symm
      · exact settled.sole_answered alone found program ran first' rivals contests ahead past
      · exact settled.sole i j first second first' second' contests rivals past ahead
    · intro index other conn there contests holds
      rw [threads] at there
      rcases ThreadSystem.getElem?_set_cases there with ⟨rfl, rfl⟩ | ⟨differ, there⟩
      · -- the caller has made the entry, has failed, or has done nothing to it
        rcases settled.effect found program ran contests with
          ⟨-, -, entry⟩ | failed | ⟨same, stays⟩
        · exact entry
        · refine absurd ?_ holds.2
          rw [Thread.answered_log, LoginPhase.of_cons, failed]
          rfl
        · rw [same]
          refine settled.entry index thread conn found contests ⟨fun asks => ?_, fun failed => ?_⟩
          · exact holds.1 (stays asks)
          · refine absurd ?_ holds.2
            rw [Thread.answered_log, LoginPhase.of_cons, failed]
            rfl
      · -- another login of the user stays in its entry while the caller is apart
        have rivals : other.tag.contestant n userId ≠ none := by
          rw [contests]
          exact Option.some_ne_none conn
        rw [settled.entry_kept apart alone found program ran there differ rivals holds]
        exact settled.entry index other conn there contests holds
    · intro other member contests answered
      rw [threads] at member
      rcases List.mem_or_eq_of_mem_set member with old | rfl
      · exact settled.acked other old contests answered
      · have listed := List.mem_of_getElem? found
        have permits := (settled.keeps thread listed).permits program
        obtain ⟨conn, contestant⟩ := Option.ne_none_iff_exists'.mp contests
        obtain ⟨loop, pwd, tag⟩ := contestant_eq_some contestant
        rw [Thread.answered_tag] at tag
        rw [tag] at permits
        exact accepted_of_acked (settled.acked thread listed contests) permits answered
  · -- a login that starts is asking
    have started : ∀ thread ∈ jobs.map Thread.start, LoginPhase.of thread.log = asking := by
      intro thread member
      obtain ⟨job, -, rfl⟩ := List.mem_map.mp member
      rfl
    refine ⟨keeps, ?_, ?_, ?_⟩
    · intro i j first second here there contests rivals past ahead
      rw [threads] at here there
      rcases ThreadSystem.getElem?_append_cases here with here | new
      · rcases ThreadSystem.getElem?_append_cases there with there | new
        · exact settled.sole i j first second here there contests rivals past ahead
        · exact absurd (started second new) ahead
      · exact absurd (started first new) past
    · intro index other conn there contests holds
      rw [threads] at there
      rcases ThreadSystem.getElem?_append_cases there with there | new
      · rw [(Cluster.environment_writes acted).2.2.1]
        exact settled.entry index other conn there contests holds
      · exact absurd (started other new) holds.1
    · intro other member contests answered
      rw [threads, List.mem_append] at member
      rcases member with old | new
      · exact settled.acked other old contests answered
      · obtain ⟨job, -, rfl⟩ := List.mem_map.mp new
        cases answered

/-- **A login that has won keeps its entry**, as long as a login for the user on the
node registers only where no other one has: of the logins for the user on the node one
at most is answered without an error, and from then on the user's entry is its own. -/
theorem winner_keeps_entry (n : ℕ) (userId : UserId) {start pool : ClusterPool}
    (started : ∀ thread ∈ start.threads, thread.Keeps ∧ thread.tag.contestant n userId = none)
    (reached : clusterSystem.machine.Reach
      (fun pool turn => OthersApart n userId pool turn ∧ EntersAlone n userId pool turn)
      start pool) :
    (∀ (i j : ℕ) (first second : Thread ServerCall Job Unit),
      pool.threads[i]? = some first → pool.threads[j]? = some second →
      first.tag.contestant n userId ≠ none → second.tag.contestant n userId ≠ none →
      acked first.log = true → acked second.log = true → i = j) ∧
    ∀ (i : ℕ) (thread : Thread ServerCall Job Unit) (conn : Connection),
      pool.threads[i]? = some thread → thread.tag.contestant n userId = some conn →
      acked thread.log = true → pool.state.localEntry n userId = some ⟨conn, i⟩ := by
  have settled : Settled n userId pool := by
    refine reached.invariant (Settled n userId) ?_ ?_
    · refine ⟨fun thread member => (started thread member).1, ?_, ?_, ?_⟩
      · intro i j first second here there contests
        exact absurd (started first (List.mem_of_getElem? here)).2 contests
      · intro i thread conn here contests
        have none := (started thread (List.mem_of_getElem? here)).2
        cases none.symm.trans contests
      · intro thread member contests
        exact absurd (started thread member).2 contests
    · rintro pool next turn settled ⟨apart, alone⟩ moved
      exact settled.turn apart alone moved
  have past {thread : Thread ServerCall Job Unit} (member : thread ∈ pool.threads)
      (contests : thread.tag.contestant n userId ≠ none) (answered : acked thread.log = true) :
      (LoginPhase.of thread.log).Holds := by
    rw [settled.acked thread member contests answered]
    exact accepted_holds
  refine ⟨?_, ?_⟩
  · intro i j first second here there contests rivals won won'
    exact settled.sole i j first second here there contests rivals
      (past (List.mem_of_getElem? here) contests won).1
      (past (List.mem_of_getElem? there) rivals won').1
  · intro i thread conn here contests won
    have contests' : thread.tag.contestant n userId ≠ none := by
      rw [contests]
      exact Option.some_ne_none conn
    exact settled.entry i thread conn here contests
      (past (List.mem_of_getElem? here) contests' won)

/-- The pool right before two clients of one node log in as the same user. -/
def twoClients : List (Turn ClusterEvent) :=
  [.environment (.connect 0 0), .environment (.connect 0 1)]

/-- The one asks who the user is, and the other logs in meanwhile. -/
theorem winner_keeps_entry_oneEnters :
    ∃ pool first, clusterSystem.machine.Reach
        (fun pool turn => OthersApart 0 7 pool turn ∧ EntersAlone 0 7 pool turn)
        (startPool 0 (twoServers 4) twoUsers) pool ∧
      pool.threads[0]? = some first ∧ first.tag.contestant 0 7 = some ⟨0, 0⟩ ∧
      acked first.log = true ∧ pool.state.localEntry 0 7 = some ⟨⟨0, 0⟩, 0⟩ := by
  have ran : ((clusterSystem.machine.runWithin
      (fun pool turn => OthersApart 0 7 pool turn ∧ EntersAlone 0 7 pool turn)
      (startPool 0 (twoServers 4) twoUsers)
      (twoClients ++ [.environment (.request 0 (.login 7 password.bytes))] ++
        ThreadSystem.handling 1 1 (.request 1 (.login 7 password.bytes)) ++
        List.replicate 16 (.thread 0) ++ List.replicate 5 (.thread 1))).any fun pool =>
      (pool.threads[0]?).any fun first =>
        decide (first.tag.contestant 0 7 = some ⟨0, 0⟩) && acked first.log) = true := by
    decide +kernel
  obtain ⟨pool, ran, found⟩ := (Option.any_eq_true _ _).mp ran
  obtain ⟨first, here, found⟩ := (Option.any_eq_true _ _).mp found
  obtain ⟨contests, won⟩ := Bool.and_eq_true_iff.mp found
  have contestant := of_decide_eq_true contests
  have reached := Machine.Reach.of_runWithin .refl ran
  have entry := (winner_keeps_entry 0 7 (List.forall_mem_nil _) reached).2 0 first _ here
    contestant won
  exact ⟨pool, first, reached, here, contestant, won, entry⟩

/-- Both get past the check; the first one binds the user, and the second one takes the
entry out. -/
theorem loser_removes_winner :
    ∃ pool first second, clusterSystem.machine.Reach (OthersApart 0 7)
        (startPool 0 (twoServers 4) twoUsers) pool ∧
      pool.threads = [first, second] ∧ first.tag.contestant 0 7 = some ⟨0, 0⟩ ∧
      second.tag.contestant 0 7 = some ⟨1, 1⟩ ∧
      (first.rest.returned).isSome = true ∧ (second.rest.returned).isSome = true ∧
      acked first.log = true ∧ pool.state.localEntry 0 7 = none := by
  have ran : ((clusterSystem.machine.runWithin (OthersApart 0 7)
      (startPool 0 (twoServers 4) twoUsers)
      (twoClients ++ ThreadSystem.handling 0 6 (.request 0 (.login 7 password.bytes)) ++
        ThreadSystem.handling 1 6 (.request 1 (.login 7 password.bytes)) ++
        List.replicate 10 (.thread 0) ++ List.replicate 5 (.thread 1))).any fun pool =>
      decide (pool.threads.length = 2 ∧ pool.state.localEntry 0 7 = none) &&
        ((pool.threads[0]?).any fun first => decide (first.tag.contestant 0 7 = some ⟨0, 0⟩ ∧
          (first.rest.returned).isSome = true ∧ acked first.log = true)) &&
        (pool.threads[1]?).any fun second => decide (second.tag.contestant 0 7 = some ⟨1, 1⟩ ∧
          (second.rest.returned).isSome = true)) = true := by
    decide +kernel
  obtain ⟨pool, ran, found⟩ := (Option.any_eq_true _ _).mp ran
  obtain ⟨found, there⟩ := Bool.and_eq_true_iff.mp found
  obtain ⟨found, here⟩ := Bool.and_eq_true_iff.mp found
  obtain ⟨two, gone⟩ := of_decide_eq_true found
  obtain ⟨first, here, found⟩ := (Option.any_eq_true _ _).mp here
  obtain ⟨one, ended, won⟩ := of_decide_eq_true found
  obtain ⟨second, there, found⟩ := (Option.any_eq_true _ _).mp there
  obtain ⟨other, ended'⟩ := of_decide_eq_true found
  have reached := Machine.Reach.of_runWithin .refl ran
  obtain ⟨head, tail, threads⟩ := List.length_eq_two.mp two
  rw [threads] at here there
  obtain rfl := Option.some.inj here
  obtain rfl := Option.some.inj there
  exact ⟨pool, _, _, reached, threads, one, other, ended, ended', won, gone⟩

end ClusterChat
