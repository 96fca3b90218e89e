/-
# Where messages come from

Copies of messages cross delivery queues, channels and nodes. Wherever one is, it stems from one
request of one client: a message for its recipient, or a message to a group in which the database
has found its recipient, who is not the sender. No handler makes up a message or a recipient.
-/

import ClusterChat.Service.Losses

namespace ClusterChat

open ServerCall

/-! ### The sources of copies -/

/-- By the log of the handler of a message, the message is for a user: it was sent to the user, or
to a group in which the database has found the user, and not by the user. -/
def Thread.Addresses (thread : Thread ServerCall Job Unit) (copy : Copy) : Prop :=
  thread.tag.handler = .oneChat copy ∨
    ∃ userId groupId members, thread.tag.handler = .groupChat copy.message userId groupId ∧
      ⟨.database (.queryGroupUsers userId groupId), members⟩ ∈ thread.log ∧
      copy.recipient ∈ members ∧ copy.recipient ≠ userId

/-- A thread is the source of a copy. -/
def Pool.Source (pool : ClusterPool) (number : ℕ) (copy : Copy) : Prop :=
  ∃ thread, pool.threads[number]? = some thread ∧ thread.Addresses copy

/-- The number of the message that a handler has taken from a client. -/
def Handler.messageNumber : Handler → Option ℕ
  | oneChat copy => some copy.message.number
  | groupChat message _ _ => some message.number
  | _ => none

theorem Thread.Addresses.messageNumber {thread : Thread ServerCall Job Unit} {copy : Copy}
    (addresses : thread.Addresses copy) :
    thread.tag.handler.messageNumber = some copy.message.number := by
  rcases addresses with handler | ⟨userId, groupId, members, handler, -⟩
  · rw [handler]
    rfl
  · rw [handler]
    rfl

/-- The invariant: every copy that is in some place or owed has a source, a handler that is yet to
ask for members asks for those of its own group, and no two handlers have the same message. -/
structure Sourced (pool : ClusterPool) : Prop where
  account : ∀ copy ∈ pool.state.account, ∃ number, pool.Source number copy
  owed : ∀ thread ∈ pool.threads, ∀ copies, thread.debt = .owing copies → ∀ copy ∈ copies,
    ∃ number, pool.Source number copy
  asking : ∀ thread ∈ pool.threads, ∀ message, thread.debt = .asking message →
    ∃ server userId groupId, thread.tag.handler = .groupChat message userId groupId ∧
      thread.rest = ChatService.groupChat server message userId groupId
  numbered : ∀ thread ∈ pool.threads, ∀ number, thread.tag.handler.messageNumber = some number →
    number < pool.state.messages
  apart : ∀ (i j number : ℕ) (first second : Thread ServerCall Job Unit),
    pool.threads[i]? = some first → pool.threads[j]? = some second →
    first.tag.handler.messageNumber = some number →
    second.tag.handler.messageNumber = some number → i = j

/-- The copies of a multiset weigh what they weigh as a list. -/
theorem Cluster.weigh_toList (weight : Copy → ℕ) (copies : Multiset Copy) :
    weigh weight copies = tally weight copies.toList := by
  rw [← weigh_coe, Multiset.coe_toList]

section Step

variable {pool next : ClusterPool}

/-- A thread keeps its number and goes on. -/
theorem source_goesOn {turn : Turn ClusterEvent}
    (moved : clusterSystem.turn pool turn = some next) {number : ℕ} {copy : Copy}
    (source : pool.Source number copy) : next.Source number copy := by
  obtain ⟨thread, found, addresses⟩ := source
  rcases ThreadSystem.turn_cases moved with
    ⟨moving, other, β, request, cont, answer, -, here, -, -, threads⟩ | ⟨event, jobs, -, -, threads⟩
  · by_cases same : moving = number
    · subst same
      obtain rfl := Option.some.inj (here.symm.trans found)
      refine ⟨other.answered request cont answer, ?_, ?_⟩
      · rw [threads]
        exact List.getElem?_set_self (List.getElem?_eq_some_iff.mp found).1
      · -- the log only gets longer
        rcases addresses with handler | ⟨userId, groupId, members, handler, asked, listed⟩
        · exact .inl handler
        · exact .inr ⟨userId, groupId, members, handler, List.mem_cons_of_mem _ asked, listed⟩
    · refine ⟨thread, ?_, addresses⟩
      rw [threads, List.getElem?_set_ne same, found]
  · refine ⟨thread, ?_, addresses⟩
    rw [threads, List.getElem?_append_left (List.getElem?_eq_some_iff.mp found).1, found]

/-- Members of a group are not the one who has asked for the others. -/
theorem Database.groupUsers_other {database : Database} {userId id : UserId} {groupId : Int32}
    (listed : id ∈ database.groupUsers userId groupId) : id ≠ userId := by
  unfold groupUsers at listed
  split at listed
  · cases listed
  · exact of_decide_eq_true (List.mem_filter.mp listed).2

variable {number : ℕ} {thread : Thread ServerCall Job Unit} {β : Type} {request : ServerCall β}
  {cont : β → Calls ServerCall Unit} {answer : β}

/-- The first call of a handler that owes a message to a group. -/
theorem Sourced.asks (before : Sourced pool) (answer : β) (member : thread ∈ pool.threads)
    (program : thread.rest = .call request cont) {message : Message}
    (asks : thread.debt = .asking message) :
    ∃ userId groupId members, thread.tag.handler = .groupChat message userId groupId ∧
      (⟨request, answer⟩ : Event ServerCall) =
        ⟨.database (.queryGroupUsers userId groupId), members⟩ := by
  obtain ⟨server, userId, groupId, handler, rest⟩ := before.asking thread member message asks
  rw [program, ChatService.groupChat, database_bind] at rest
  cases rest
  exact ⟨userId, groupId, answer, handler, rfl⟩

/-- What a handler owes after a call stems from its own request. -/
theorem Sourced.owed_answered (before : Sourced pool)
    (moved : clusterSystem.turn pool (.thread number) = some next)
    (found : pool.threads[number]? = some thread) (program : thread.rest = .call request cont)
    (ran : Cluster.exec number thread.tag request pool.state = some (answer, next.state))
    (threads : next.threads = pool.threads.set number (thread.answered request cont answer))
    {copies : Multiset Copy} (owes : (thread.answered request cont answer).debt = .owing copies)
    {copy : Copy} (listed : copy ∈ copies) : ∃ number, next.Source number copy := by
  have member := List.mem_of_getElem? found
  have debt : thread.debt.after ⟨request, answer⟩ = .owing copies := owes
  cases old : thread.debt with
  | owing known =>
    rw [old] at debt
    obtain rfl := Debt.owing.inj debt
    have there := Multiset.mem_of_le (Multiset.sub_le_self known _) listed
    obtain ⟨source, addresses⟩ := before.owed thread member known old copy there
    exact ⟨source, source_goesOn moved addresses⟩
  | asking message =>
    -- the database has just answered who the members are
    obtain ⟨userId, groupId, members, handler, event⟩ :=
      before.asks answer member program old
    have logged : (thread.answered request cont answer).log =
        ⟨.database (.queryGroupUsers userId groupId), members⟩ :: thread.log := by
      rw [Thread.answered_log, event]
    have answered : members = pool.state.database.groupUsers userId groupId := by
      cases event
      exact (congrArg Prod.fst (Option.some.inj ran)).symm
    rw [old, event] at debt
    obtain rfl := Debt.owing.inj debt
    obtain ⟨id, there, rfl⟩ := List.mem_map.mp (Multiset.mem_coe.mp listed)
    refine ⟨number, thread.answered request cont answer, ?_, .inr ?_⟩
    · rw [threads]
      exact List.getElem?_set_self (List.getElem?_eq_some_iff.mp found).1
    · refine ⟨userId, groupId, members, handler, ?_, there, ?_⟩
      · rw [logged]
        exact List.mem_cons_self
      · rw [answered] at there
        exact Database.groupUsers_other there

/-- A call leaves every thread with its tag. -/
theorem tag_answered (found : pool.threads[number]? = some thread)
    (threads : next.threads = pool.threads.set number (thread.answered request cont answer))
    {index : ℕ} {other : Thread ServerCall Job Unit} (there : next.threads[index]? = some other) :
    ∃ old, pool.threads[index]? = some old ∧ old.tag = other.tag := by
  rw [threads] at there
  rcases ThreadSystem.getElem?_set_cases there with ⟨rfl, rfl⟩ | ⟨-, there⟩
  · exact ⟨thread, found, rfl⟩
  · exact ⟨other, there, rfl⟩

theorem Sourced.answered (before : Sourced pool) (pays : thread.Pays)
    (moved : clusterSystem.turn pool (.thread number) = some next)
    (found : pool.threads[number]? = some thread) (program : thread.rest = .call request cont)
    (ran : Cluster.exec number thread.tag request pool.state = some (answer, next.state))
    (threads : next.threads = pool.threads.set number (thread.answered request cont answer)) :
    Sourced next := by
  have member := List.mem_of_getElem? found
  have permits : thread.debt.Permits request := by
    rw [Thread.Pays, program] at pays
    exact pays.1
  have later : ∀ copy, (∃ source, pool.Source source copy) → ∃ source, next.Source source copy := by
    rintro copy ⟨source, addresses⟩
    exact ⟨source, source_goesOn moved addresses⟩
  constructor
  · have books : ∀ weight, tally weight next.state.account ≤
        tally weight pool.state.account + tally weight (request.placed answer).toList := by
      intro weight
      rw [← Cluster.weigh_toList, Cluster.tally_exec weight ran]
    apply forall_of_tally (fun copy => ∃ source, next.Source source copy) books
    · exact fun copy listed => later copy (before.account copy listed)
    · -- what is placed was owed
      intro copy listed
      apply later
      have placed := Multiset.mem_toList.mp listed
      cases debt : thread.debt with
      | owing copies =>
        rw [debt] at permits
        have there := Multiset.mem_of_le ((request.placed_le answer).trans permits) placed
        exact before.owed thread member copies debt copy there
      | asking message =>
        rw [debt] at permits
        rw [placed_of_bare permits] at placed
        exact absurd placed (Multiset.notMem_zero copy)
  · intro other listed copies owes copy there
    rw [threads] at listed
    rcases List.mem_or_eq_of_mem_set listed with old | rfl
    · exact later copy (before.owed other old copies owes copy there)
    · exact before.owed_answered moved found program ran threads owes there
  · intro other listed message asks
    rw [threads] at listed
    rcases List.mem_or_eq_of_mem_set listed with old | rfl
    · exact before.asking other old message asks
    · -- after its first call the handler asks for nobody any more
      have debt : thread.debt.after ⟨request, answer⟩ = .asking message := asks
      have old := asking_after debt
      obtain ⟨userId, groupId, members, -, event⟩ := before.asks answer member program old
      rw [old, event] at debt
      cases debt
  · intro other listed value numbered
    obtain ⟨index, there⟩ := List.mem_iff_getElem?.mp listed
    obtain ⟨old, here, tag⟩ := tag_answered found threads there
    rw [(Cluster.exec_records ran).messages]
    rw [← tag] at numbered
    exact before.numbered old (List.mem_of_getElem? here) value numbered
  · intro i j value first second there there' numbered numbered'
    obtain ⟨old, here, tag⟩ := tag_answered found threads there
    obtain ⟨old', here', tag'⟩ := tag_answered found threads there'
    rw [← tag] at numbered
    rw [← tag'] at numbered'
    exact before.apart i j value old old' here here' numbered numbered'

end Step

section Event

variable {pool next : ClusterPool} {event : ClusterEvent}
  {jobs : List (Job × Calls ServerCall Unit)}

/-- A handler that an event starts has a message only if it is a client's, and then a new one. -/
theorem messageNumber_started
    (acted : clusterSystem.environment event pool.state = some (next.state, jobs))
    {job : Job × Calls ServerCall Unit} (listed : job ∈ jobs) {value : ℕ}
    (numbered : job.1.handler.messageNumber = some value) :
    value = pool.state.messages ∧ next.state.messages = pool.state.messages + 1 ∧ jobs = [job] := by
  rcases Cluster.environment_requests acted with ⟨id, request, client, -, state, rfl⟩ | ⟨-, others⟩
  · obtain rfl := List.mem_singleton.mp listed
    refine ⟨?_, ?_, rfl⟩
    · cases request with
      | oneChat toId text => exact (Option.some.inj numbered).symm
      | groupChat userId groupId text => exact (Option.some.inj numbered).symm
      | _ => cases numbered
    · rw [state]
  · have other := others job listed
    cases kind : job.1.handler with
    | oneChat copy =>
      rw [kind] at other
      cases other
    | groupChat message userId groupId =>
      rw [kind] at other
      cases other
    | _ =>
      rw [kind] at numbered
      cases numbered

/-- What a handler owes at its start it has received from another node, or it is a client's
message for one user. -/
theorem owed_started {job : Job × Calls ServerCall Unit} (listed : job ∈ jobs)
    {copies : Multiset Copy}
    (owes : job.1.handler.debt = .owing copies) {copy : Copy} (there : copy ∈ copies) :
    copy ∈ Cluster.received jobs ∨ job.1.handler = .oneChat copy := by
  cases kind : job.1.handler with
  | oneChat other =>
    rw [kind] at owes
    obtain rfl := Debt.owing.inj owes
    rw [Multiset.mem_singleton.mp there]
    exact .inr rfl
  | groupChat message userId groupId =>
    rw [kind] at owes
    cases owes
  | clusterFrame frame =>
    left
    rw [kind] at owes
    obtain rfl := Debt.owing.inj owes
    apply List.mem_flatMap.mpr
    refine ⟨job, listed, ?_⟩
    rw [kind]
    exact Multiset.mem_coe.mp there
  | _ =>
    rw [kind] at owes
    obtain rfl := Debt.owing.inj owes
    exact absurd there (Multiset.notMem_zero copy)

theorem Sourced.started (before : Sourced pool)
    (moved : clusterSystem.turn pool (.environment event) = some next)
    (acted : clusterSystem.environment event pool.state = some (next.state, jobs))
    (threads : next.threads = pool.threads ++ jobs.map Thread.start) : Sourced next := by
  have later : ∀ copy, (∃ source, pool.Source source copy) → ∃ source, next.Source source copy := by
    rintro copy ⟨source, addresses⟩
    exact ⟨source, source_goesOn moved addresses⟩
  -- what is in some place after the event, or received in it, was in some place before
  have moves : ∀ copy ∈ next.state.account ++ Cluster.received jobs,
      ∃ source, next.Source source copy := by
    have books : ∀ weight, tally weight (next.state.account ++ Cluster.received jobs) ≤
        tally weight pool.state.account + tally weight [] := by
      intro weight
      rw [tally_append, Cluster.tally_environment weight acted]
      exact le_rfl
    apply forall_of_tally (fun copy => ∃ source, next.Source source copy) books
    · exact fun copy listed => later copy (before.account copy listed)
    · exact List.forall_mem_nil _
  have more := messages_le acted
  -- a thread of the pool is an old one, or one of a job that has started
  have kinds : ∀ thread ∈ next.threads, thread ∈ pool.threads ∨
      ∃ job ∈ jobs, thread = .start job := by
    intro thread member
    rw [threads, List.mem_append] at member
    rcases member with old | new
    · exact .inl old
    · obtain ⟨job, listed, rfl⟩ := List.mem_map.mp new
      exact .inr ⟨job, listed, rfl⟩
  constructor
  · exact fun copy listed => moves copy (List.mem_append_left _ listed)
  · intro thread member copies owes copy there
    rcases kinds thread member with old | ⟨job, listed, rfl⟩
    · exact later copy (before.owed thread old copies owes copy there)
    · rcases owed_started listed owes there with received | handler
      · exact moves copy (List.mem_append_right _ received)
      · obtain ⟨index, found⟩ := List.mem_iff_getElem?.mp member
        exact ⟨index, .start job, found, .inl handler⟩
  · intro thread member message asks
    rcases kinds thread member with old | ⟨job, listed, rfl⟩
    · exact before.asking thread old message asks
    · obtain ⟨n, loop, handler, rfl⟩ := (Cluster.environment_writes acted).2.2.2.2 job listed
      cases handler with
      | groupChat other userId groupId =>
        obtain rfl := Debt.asking.inj asks
        exact ⟨pool.state.server n, userId, groupId, rfl, rfl⟩
      | _ => cases asks
  · intro thread member value numbered
    rcases kinds thread member with old | ⟨job, listed, rfl⟩
    · exact (before.numbered thread old value numbered).trans_le more
    · obtain ⟨rfl, messages, -⟩ := messageNumber_started acted listed numbered
      rw [messages]
      exact Nat.lt_succ_self _
  · intro i j value first second there there' numbered numbered'
    rw [threads] at there there'
    have old : ∀ {index : ℕ} {thread : Thread ServerCall Job Unit},
        (pool.threads ++ jobs.map Thread.start)[index]? = some thread →
        thread.tag.handler.messageNumber = some value →
        pool.threads[index]? = some thread ∧ value < pool.state.messages ∨
          value = pool.state.messages ∧ index = pool.threads.length := by
      intro index thread here numbered
      by_cases inside : index < pool.threads.length
      · rw [List.getElem?_append_left inside] at here
        exact .inl ⟨here, before.numbered thread (List.mem_of_getElem? here) value numbered⟩
      · rw [List.getElem?_append_right (Nat.not_lt.mp inside), List.getElem?_map] at here
        obtain ⟨job, started, rfl⟩ := Option.map_eq_some_iff.mp here
        obtain ⟨rfl, -, alone⟩ :=
          messageNumber_started acted (List.mem_of_getElem? started) numbered
        rw [alone] at started
        have bound := (List.getElem?_eq_some_iff.mp started).1
        rw [List.length_singleton] at bound
        exact .inr ⟨rfl, by omega⟩
    rcases old there numbered with ⟨here, less⟩ | ⟨new, last⟩
    · rcases old there' numbered' with ⟨here', -⟩ | ⟨new, -⟩
      · exact before.apart i j value first second here here' numbered numbered'
      · exact absurd less new.not_lt
    · rcases old there' numbered' with ⟨-, less⟩ | ⟨-, last'⟩
      · exact absurd less new.not_lt
      · exact last.trans last'.symm

end Event

variable {pool : ClusterPool}

theorem sourced_of_reach {allowed : ClusterPool → Turn ClusterEvent → Prop} {clockMs : Int}
    {configs : ℕ → ServerConfig} {database : Database}
    (reached : clusterSystem.machine.Reach allowed (startPool clockMs configs database) pool) :
    OnePlace pool ∧ Sourced pool := by
  apply reached.invariant fun pool => OnePlace pool ∧ Sourced pool
  · constructor
    · exact ⟨List.forall_mem_nil _, fun _ => Nat.zero_le 1, fun _ _ => rfl⟩
    · refine ⟨List.forall_mem_nil _, List.forall_mem_nil _, List.forall_mem_nil _,
        List.forall_mem_nil _, ?_⟩
      intro i j value first second there
      cases there
  · rintro pool next turn ⟨places, sourced⟩ _ moved
    refine ⟨places.turn moved, ?_⟩
    rcases ThreadSystem.turn_cases moved with
      ⟨number, thread, β, request, cont, answer, rfl, found, program, ran, threads⟩ |
      ⟨event, jobs, rfl, acted, threads⟩
    · exact sourced.answered (places.pays thread (List.mem_of_getElem? found)) moved found program
        ran threads
    · exact sourced.started moved acted threads

/-- **Every copy stems from one request.** In every run each copy that is handed to a client or
waits for it, travels between nodes, is stored or was lost on the way stems from one handler of a
client's message, and from no other: the message was sent to its recipient, or to a group in which
the database has found the recipient, by somebody else. -/
theorem copies_stem_from_requests {clockMs : Int} {configs : ℕ → ServerConfig}
    {database : Database} (reached : ClusterReach clockMs configs database pool) :
    ∀ copy ∈ pool.state.handedCopies ++ pool.state.travelling ++ pool.state.stored ++
        pool.state.lostCopies,
      ∃ number, pool.Source number copy ∧ ∀ other, pool.Source other copy → other = number := by
  intro copy listed
  have sourced := (sourced_of_reach reached).2
  obtain ⟨number, source⟩ := sourced.account copy listed
  refine ⟨number, source, ?_⟩
  intro other source'
  obtain ⟨thread, found, addresses⟩ := source
  obtain ⟨thread', found', addresses'⟩ := source'
  exact sourced.apart other number copy.message.number thread' thread found' found
    addresses'.messageNumber addresses.messageNumber

/-- A member of a group writes to it before the node has registered. -/
theorem copies_stem_from_requests_group :
    ∃ pool, ClusterReach 0 (twoServers 4) twoMembers pool ∧
      ∃ number, pool.Source number ⟨⟨0, []⟩, 8⟩ ∧
        ∀ other, pool.Source other ⟨⟨0, []⟩, 8⟩ → other = number := by
  have ran : ((clusterSystem.machine.run (startPool 0 (twoServers 4) twoMembers)
      ([.environment (.connect 0 0)] ++
        ThreadSystem.handling 0 9 (.request 0 (.groupChat 7 1 [])))).any fun pool =>
      decide (⟨⟨0, []⟩, 8⟩ ∈ pool.state.handedCopies ++ pool.state.travelling ++
        pool.state.stored ++ pool.state.lostCopies)) = true := by
    decide +kernel
  obtain ⟨pool, ran, listed⟩ := (Option.any_eq_true _ _).mp ran
  have reached := ClusterReach.of_run ran
  exact ⟨pool, reached, copies_stem_from_requests reached _ (of_decide_eq_true listed)⟩

end ClusterChat
