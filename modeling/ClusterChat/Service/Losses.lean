/-
# Where messages get lost

`oneChat` stores a message for its recipient when it cannot pass the message on. But what it has
passed on can still be lost: a task in a delivery queue whose recipient disconnects before the drain
comes to it, a message waiting in a channel that is stopped, a message on the wire of a connection
between two nodes that goes down, or one that is sent on a connection that is down already. Nobody
stores these.

There is no other way to lose one: in a run that takes none of these steps with some message, the
message has been passed to a connected recipient or is stored, once nothing is left to be done.
-/

import ClusterChat.Service.Dispositions
import ClusterChat.Service.Recipients

namespace ClusterChat

/-! ### The condition -/

/-- The condition on a call: a message goes only to a client that is connected, and in a channel it
is sent only on a connection that is up, and is not waiting where the channel is stopped. -/
def CallSpares (copy : Copy) (cluster : Cluster) : {β : Type} → ServerCall β → Prop
  | _, .service (.send conn (.chat passed)) =>
    passed = copy → cluster.isConnected conn = true
  | _, .channel index (.send link frame) => copy ∈ frame.copies →
    ∀ channel ∈ cluster.channels[index]?, channel.queue.network = .established link
  | _, .channel index .stop => ∀ channel ∈ cluster.channels[index]?,
    ∀ frame ∈ channel.queue.channel.pending, copy ∉ frame.copies
  | _, _ => True

/-- The condition on a functor that the loop of a channel runs. -/
def FunctorSpares (copy : Copy) (queue : ChannelLoop Frame) : List (ChannelFunctor Frame) → Prop
  | .send link frame :: _ => copy ∈ frame.copies → queue.network = .established link
  | .stop _ :: _ => ∀ frame ∈ queue.onWire, copy ∉ frame.copies
  | _ => True

/-- The condition on a callback that the loop of a channel goes on with. -/
def ActivitySpares (copy : Copy) (queue : ChannelLoop Frame) : ChannelActivity Frame → Prop
  | .drainSend link frame => copy ∈ frame.copies → queue.network = .established link
  | _ => True

/-- The condition on a step of a channel: the message is sent only on a connection that is up, and
is not on the wire of one that goes down. -/
def MoveSpares (copy : Copy) (queue : ChannelLoop Frame) : ChannelMove → Prop
  | .runFunctor => FunctorSpares copy queue queue.functors
  | .proceed => ActivitySpares copy queue queue.activity
  | .close => ∀ frame ∈ queue.onWire, copy ∉ frame.copies
  | _ => True

/-- The condition on an event: a channel keeps to it, and a drain comes to the message while its
recipient is connected. -/
def EventSpares (copy : Copy) (cluster : Cluster) : ClusterEvent → Prop
  | .move index move => ∀ channel ∈ cluster.channels[index]?, MoveSpares copy channel.queue move
  | .drainStep index drain => ∀ dispatcher ∈ cluster.dispatchers[index]?,
    ∀ task ∈ dispatcher.queue.nextSend drain,
      task.copy = copy → cluster.isConnected task.conn = true
  | _ => True

/-- The same for the next call of a program. -/
def NextCallSpares {ρ : Type} (copy : Copy) (cluster : Cluster) : Calls ServerCall ρ → Prop
  | .call call _ => CallSpares copy cluster call
  | .ret _ => True

/-- The condition on a turn. -/
def Spares (copy : Copy) (pool : ClusterPool) : Turn ClusterEvent → Prop
  | .thread number => ∀ thread ∈ pool.threads[number]?, NextCallSpares copy pool.state thread.rest
  | .environment event => EventSpares copy pool.state event

section Spared

variable {copy : Copy} {cluster : Cluster} {frames : List Frame}

theorem notMem_copies :
    copy ∉ frames.flatMap Frame.copies ↔ ∀ frame ∈ frames, copy ∉ frame.copies := by
  rw [List.mem_flatMap]
  constructor
  · intro none frame listed held
    exact none ⟨frame, listed, held⟩
  · intro none held
    obtain ⟨frame, listed, held⟩ := held
    exact none frame listed held

/-- A message that is sent on a connection that is up is not lost. -/
theorem notMem_lostOnSend {queue : ChannelLoop Frame} {link : ℕ} {frame : Frame}
    (up : copy ∈ frame.copies → queue.network = .established link) :
    copy ∉ (queue.lostOnSend link frame).flatMap Frame.copies := by
  rw [notMem_copies]
  intro lost listed held
  unfold ChannelLoop.lostOnSend at listed
  split at listed
  · cases listed
  · rename_i down
    obtain rfl := List.mem_singleton.mp listed
    exact down (up held)

theorem CallSpares.notMem_lost {β : Type} {call : ServerCall β}
    (spares : CallSpares copy cluster call) :
    copy ∉ cluster.lostBy call := by
  cases call with
  | channel index call =>
    cases found : cluster.channels[index]? with
    | none =>
      simp only [Cluster.lostBy, found]
      exact List.not_mem_nil
    | some channel =>
      simp only [Cluster.lostBy, found]
      have here : channel ∈ cluster.channels[index]? := found
      cases call with
      | send link frame => exact notMem_lostOnSend fun held => spares held channel here
      | stop => exact notMem_copies.mpr (spares channel here)
      | _ => exact List.not_mem_nil
  | _ => exact List.not_mem_nil

theorem CallSpares.notMem_dropped {β : Type} {call : ServerCall β}
    (spares : CallSpares copy cluster call) :
    ∀ pair ∈ cluster.passedBy false call, pair.2 ≠ .chat copy := by
  intro pair listed same
  cases call with
  | service call =>
    cases call with
    | send conn outgoing =>
      obtain ⟨rfl, down⟩ := Cluster.mem_passed listed
      dsimp only at same
      subst same
      have up : cluster.isConnected conn = true := spares rfl
      rw [up] at down
      cases down
    | _ => cases listed
  | _ => cases listed

theorem MoveSpares.notMem_lost {queue : ChannelLoop Frame} {move : ChannelMove}
    (spares : MoveSpares copy queue move) :
    copy ∉ (queue.lostByMove move).flatMap Frame.copies := by
  cases move with
  | runFunctor =>
    change FunctorSpares copy queue queue.functors at spares
    dsimp only [ChannelLoop.lostByMove]
    unfold ChannelLoop.lostByFunctor
    split
    · rename_i link frame rest functors
      rw [functors] at spares
      exact notMem_lostOnSend spares
    · rename_i link rest functors
      rw [functors] at spares
      exact notMem_copies.mpr spares
    · exact List.not_mem_nil
  | proceed =>
    change ActivitySpares copy queue queue.activity at spares
    dsimp only [ChannelLoop.lostByMove]
    unfold ChannelLoop.lostByActivity
    split
    · rename_i link frame activity
      rw [activity] at spares
      exact notMem_lostOnSend spares
    · exact List.not_mem_nil
  | close => exact notMem_copies.mpr spares
  | _ => exact List.not_mem_nil

theorem EventSpares.notMem_lost {event : ClusterEvent} (spares : EventSpares copy cluster event) :
    copy ∉ cluster.lostByEvent event := by
  cases event with
  | move index move =>
    unfold Cluster.lostByEvent
    dsimp only
    cases found : cluster.channels[index]? with
    | none => exact List.not_mem_nil
    | some channel => exact (spares channel found).notMem_lost
  | _ => exact List.not_mem_nil

theorem EventSpares.notMem_dropped {event : ClusterEvent}
    (spares : EventSpares copy cluster event) :
    ∀ pair ∈ cluster.passedByEvent false event, pair.2 ≠ .chat copy := by
  intro pair listed same
  unfold Cluster.passedByEvent at listed
  cases due : cluster.drained event with
  | none =>
    rw [due] at listed
    cases listed
  | some task =>
    rw [due] at listed
    obtain ⟨rfl, down⟩ := Cluster.mem_passed listed
    cases event with
    | drainStep index drain =>
      obtain ⟨dispatcher, found, next⟩ := Option.bind_eq_some_iff.mp due
      have up := spares dispatcher found task next (Outgoing.chat.inj same)
      rw [up] at down
      cases down
    | _ => cases due

end Spared

/-! ### Every run -/

/-- A handler of a client's message for one recipient has been started. -/
def Pool.Taken (pool : ClusterPool) (copy : Copy) : Prop :=
  ∃ thread ∈ pool.threads, thread.tag.handler = .oneChat copy

/-- Something is left to be done for a message: a handler that has not returned still has to place
it, a delivery queue holds it, or it is on its way in a channel. -/
def Pool.Outstanding (pool : ClusterPool) (copy : Copy) : Prop :=
  (∃ thread ∈ pool.threads, thread.rest.returned = none ∧ thread.debt.reserve copy ≠ 0) ∨
    (∃ task ∈ pool.state.heldTasks, task.copy = copy) ∨ copy ∈ pool.state.travelling

/-- The invariant: no loss of the message is recorded, and since its handler was started it is in
one place or owed by one handler. -/
structure Tracked (copy : Copy) (pool : ClusterPool) : Prop where
  kept : ∀ other ∈ pool.state.lostCopies, other ≠ copy
  passed : ∀ pair ∈ pool.state.dropped, pair.2 ≠ .chat copy
  numbered : pool.Taken copy → copy.message.number < pool.state.messages
  whole : pool.Taken copy → pool.total copy = 1
  asking : ∀ thread ∈ pool.threads, ∀ message, thread.debt = .asking message →
    message.number < pool.state.messages ∧ (pool.Taken copy → copy.message ≠ message)

section Step

variable {pool next : ClusterPool} {copy : Copy}

/-- A turn of a thread starts no handler. -/
theorem taken_answered {number : ℕ} {thread : Thread ServerCall Job Unit} {β : Type}
    {request : ServerCall β} {cont : β → Calls ServerCall Unit} {answer : β}
    (found : pool.threads[number]? = some thread)
    (threads : next.threads = pool.threads.set number (thread.answered request cont answer)) :
    next.Taken copy → pool.Taken copy := by
  rintro ⟨other, member, handler⟩
  rw [threads] at member
  rcases List.mem_or_eq_of_mem_set member with old | rfl
  · exact ⟨other, old, handler⟩
  · exact ⟨thread, List.mem_of_getElem? found, handler⟩

/-- What a call places is taken off the debt, where the message is not to be asked for. -/
theorem reserve_kept {debt : Debt} {β : Type} {request : ServerCall β} (answer : β)
    (permits : debt.Permits request)
    (other : ∀ message, debt = .asking message → copy.message ≠ message) :
    (debt.after ⟨request, answer⟩).reserve copy + (request.placed answer).count copy =
      debt.reserve copy := by
  cases debt with
  | owing copies => exact reserve_owing permits
  | asking message =>
    have differs := other message rfl
    have none : ∀ members, (copiesOf message members).count copy = 0 := by
      intro members
      apply Multiset.count_eq_zero_of_notMem
      intro listed
      obtain ⟨id, -, rfl⟩ := List.mem_map.mp (Multiset.mem_coe.mp listed)
      exact differs rfl
    have before : (Debt.asking message).reserve copy = 0 := if_neg differs
    rw [ServerCall.placed_of_bare permits, Multiset.count_zero, Nat.add_zero, before]
    cases request with
    | database call =>
      cases call with
      | queryGroupUsers userId groupId => exact none answer
      | _ => exact before
    | _ => exact before

/-- A debt that is yet to be asked for was so before. -/
theorem asking_after {debt : Debt} {event : Event ServerCall} {message : Message}
    (asks : debt.after event = .asking message) : debt = .asking message := by
  cases debt with
  | owing copies => cases asks
  | asking other =>
    obtain ⟨request, answer⟩ := event
    cases request with
    | database call =>
      cases call with
      | queryGroupUsers userId groupId => cases asks
      | _ => exact asks
    | _ => exact asks

theorem Tracked.answered {number : ℕ} {thread : Thread ServerCall Job Unit} {β : Type}
    {request : ServerCall β} {cont : β → Calls ServerCall Unit} {answer : β}
    (before : Tracked copy pool) (pays : thread.Pays) (spares : CallSpares copy pool.state request)
    (found : pool.threads[number]? = some thread) (program : thread.rest = .call request cont)
    (ran : Cluster.exec number thread.tag request pool.state = some (answer, next.state))
    (threads : next.threads = pool.threads.set number (thread.answered request cont answer)) :
    Tracked copy next := by
  have records := Cluster.exec_records ran
  have taken : next.Taken copy → pool.Taken copy := taken_answered found threads
  have permits : thread.debt.Permits request := by
    rw [Thread.Pays, program] at pays
    exact pays.1
  constructor
  · apply forall_of_tally (· ≠ copy) (fun weight => (records.lost weight).le) before.kept
    intro other listed same
    subst same
    exact spares.notMem_lost listed
  · intro pair listed
    rw [records.dropped] at listed
    rcases List.mem_append.mp listed with old | now
    · exact before.passed pair old
    · exact spares.notMem_dropped pair now
  · intro accepted
    rw [records.messages]
    exact before.numbered (taken accepted)
  · intro accepted
    have whole := before.whole (taken accepted)
    have other : ∀ message, thread.debt = .asking message → copy.message ≠ message :=
      fun message asks => (before.asking thread (List.mem_of_getElem? found) message asks).2
        (taken accepted)
    have account := Cluster.tally_exec (one copy) ran
    rw [tally_one, tally_one, weigh_one] at account
    have moved := tally_set_add (fun thread => thread.debt.reserve copy) found
      (thread.answered request cont answer)
    have debt : (thread.answered request cont answer).debt =
        thread.debt.after ⟨request, answer⟩ := rfl
    have paid := reserve_kept answer permits other
    rw [Pool.total] at whole ⊢
    rw [threads]
    rw [debt] at moved
    omega
  · intro other member message asks
    rw [records.messages]
    have old : ∀ thread ∈ pool.threads, thread.debt = .asking message →
        message.number < pool.state.messages ∧ (next.Taken copy → copy.message ≠ message) := by
      intro thread member asks
      have known := before.asking thread member message asks
      exact ⟨known.1, fun accepted => known.2 (taken accepted)⟩
    rw [threads] at member
    rcases List.mem_or_eq_of_mem_set member with there | rfl
    · exact old other there asks
    · exact old thread (List.mem_of_getElem? found) (asking_after asks)

/-- A handler has been started before, or an event has just started it. -/
theorem taken_started {jobs : List (Job × Calls ServerCall Unit)}
    (threads : next.threads = pool.threads ++ jobs.map Thread.start) (accepted : next.Taken copy) :
    pool.Taken copy ∨ ∃ job ∈ jobs, job.1.handler = .oneChat copy := by
  obtain ⟨thread, member, handler⟩ := accepted
  rw [threads, List.mem_append] at member
  rcases member with old | new
  · exact .inl ⟨thread, old, handler⟩
  · obtain ⟨job, listed, rfl⟩ := List.mem_map.mp new
    exact .inr ⟨job, listed, handler⟩

/-- What an event adds to the number of messages. -/
theorem messages_le {event : ClusterEvent} {jobs : List (Job × Calls ServerCall Unit)}
    (acted : clusterSystem.environment event pool.state = some (next.state, jobs)) :
    pool.state.messages ≤ next.state.messages := by
  rcases Cluster.environment_requests acted with ⟨_, _, _, -, state, -⟩ | ⟨same, -⟩
  · rw [state]
    exact Nat.le_succ _
  · exact same.ge

/-- A message that an event takes over is new, and its handler owes it. -/
theorem taken_new {event : ClusterEvent} {jobs : List (Job × Calls ServerCall Unit)}
    (acted : clusterSystem.environment event pool.state = some (next.state, jobs))
    {job : Job × Calls ServerCall Unit} (listed : job ∈ jobs)
    (handler : job.1.handler = .oneChat copy) :
    copy.message.number = pool.state.messages ∧
      next.state.messages = pool.state.messages + 1 ∧ jobs = [job] := by
  rcases Cluster.environment_requests acted with
    ⟨id, request, client, -, state, rfl⟩ | ⟨-, others⟩
  · obtain rfl := List.mem_singleton.mp listed
    refine ⟨?_, ?_, rfl⟩
    · cases request with
      | oneChat toId text =>
        obtain rfl := Handler.oneChat.inj handler
        rfl
      | _ => cases handler
    · rw [state]
  · have other := others job listed
    rw [handler] at other
    cases other

theorem Tracked.event {event : ClusterEvent} {jobs : List (Job × Calls ServerCall Unit)}
    (before : Tracked copy pool) (places : OnePlace pool)
    (spares : EventSpares copy pool.state event)
    (acted : clusterSystem.environment event pool.state = some (next.state, jobs))
    (threads : next.threads = pool.threads ++ jobs.map Thread.start) : Tracked copy next := by
  have notes := Cluster.environment_notes acted
  have more := messages_le acted
  have books := total_event acted threads copy
  constructor
  · -- what the event loses of the channels is not this copy
    apply forall_of_tally (· ≠ copy) (fun weight => (notes.lost weight).le) before.kept
    intro other listed same
    subst same
    exact spares.notMem_lost listed
  · intro pair listed
    -- nor is what a drain has sent on a connection that is down
    rw [notes.dropped] at listed
    rcases List.mem_append.mp listed with old | now
    · exact before.passed pair old
    · exact spares.notMem_dropped pair now
  · intro accepted
    rcases taken_started threads accepted with old | ⟨job, listed, handler⟩
    · exact (before.numbered old).trans_le more
    · obtain ⟨number, messages, -⟩ := taken_new acted listed handler
      rw [number, messages]
      exact Nat.lt_succ_self _
  · intro accepted
    rcases taken_started threads accepted with old | ⟨job, listed, handler⟩
    · -- the message is there already, so what is new is not owed by anybody
      have whole := before.whole old
      have numbered := before.numbered old
      rcases Cluster.environment_owes acted with ⟨-, owes⟩ | ⟨node, loop, conn, request, -, started⟩
      · have owes := owes copy
        omega
      · have owed := reserve_handlerOf pool.state.messages conn request copy
        rw [if_neg numbered.ne] at owed
        have reserve : newReserve copy jobs =
            (Cluster.handlerOf pool.state.messages conn request).debt.reserve copy := by
          rw [started]
          exact tally_singleton _ _
        have received : Cluster.received jobs = [] := by
          rw [started]
          cases request <;> rfl
        rw [received, List.count_nil] at books
        omega
    · -- the message has just come in, and was nowhere before
      obtain ⟨number, -, rfl⟩ := taken_new acted listed handler
      have none := places.fresh copy number.ge
      have received : Cluster.received [job] = [] := by
        simp [Cluster.received, handler]
      have reserve : newReserve copy [job] = 1 := by
        simp [newReserve, handler, Handler.debt, Debt.reserve]
      rw [received, List.count_nil] at books
      omega
  · -- a group message is owed to each member once its handler has asked who they are
    intro thread member message asks
    rw [threads, List.mem_append] at member
    rcases member with old | new
    · have known := before.asking thread old message asks
      refine ⟨known.1.trans_le more, fun accepted => ?_⟩
      rcases taken_started threads accepted with there | ⟨job, listed, handler⟩
      · exact known.2 there
      · -- a new message has a number that nobody asks for yet
        intro same
        have number := (taken_new acted listed handler).1
        rw [same] at number
        exact absurd known.1 number.not_lt
    · obtain ⟨job, listed, rfl⟩ := List.mem_map.mp new
      rcases Cluster.environment_requests acted with
        ⟨id, request, client, -, state, rfl⟩ | ⟨-, others⟩
      · obtain rfl := List.mem_singleton.mp listed
        cases request with
        -- its own message is the one that is counted next, which nobody else has
        | groupChat userId groupId text =>
          obtain rfl := Debt.asking.inj asks
          refine ⟨?_, fun accepted => ?_⟩
          · rw [state]
            exact Nat.lt_succ_self _
          · rcases taken_started threads accepted with there | ⟨job, listed, handler⟩
            · intro same
              have numbered := before.numbered there
              rw [same] at numbered
              exact absurd rfl numbered.ne
            · obtain rfl := List.mem_singleton.mp listed
              cases handler
        | _ => cases asks
      · -- no other handler asks for members
        have other := others job listed
        cases kind : job.1.handler with
        | groupChat message userId groupId =>
          rw [kind] at other
          cases other
        | _ =>
          have owed : (Thread.start job).debt = job.1.handler.debt := rfl
          rw [owed, kind] at asks
          cases asks

end Step

variable {pool : ClusterPool} {copy : Copy}

theorem tracked_of_reach {clockMs : Int} {configs : ℕ → ServerConfig} {database : Database}
    (reached :
      clusterSystem.machine.Reach (Spares copy) (startPool clockMs configs database) pool) :
    OnePlace pool ∧ Tracked copy pool := by
  apply reached.invariant fun pool => OnePlace pool ∧ Tracked copy pool
  · constructor
    · exact ⟨List.forall_mem_nil _, fun _ => Nat.zero_le 1, fun _ _ => rfl⟩
    · have none : ¬(startPool clockMs configs database).Taken copy := by
        rintro ⟨thread, member, -⟩
        cases member
      exact ⟨List.forall_mem_nil _, List.forall_mem_nil _, fun taken => absurd taken none,
        fun taken => absurd taken none, List.forall_mem_nil _⟩
  · rintro pool next turn ⟨places, tracked⟩ spares moved
    refine ⟨places.turn moved, ?_⟩
    rcases ThreadSystem.turn_cases moved with
      ⟨number, thread, β, request, cont, answer, rfl, found, program, ran, threads⟩ |
      ⟨event, jobs, rfl, acted, threads⟩
    · have spared := spares thread found
      rw [program] at spared
      exact tracked.answered (places.pays thread (List.mem_of_getElem? found)) spared found program
        ran threads
    · exact tracked.event places spares acted threads

/-- A handler that has returned owes nothing. -/
theorem returned_of_owes {thread : Thread ServerCall Job Unit} (pays : thread.Pays)
    (owes : thread.debt.reserve copy ≠ 0) : thread.rest.returned = none := by
  cases program : thread.rest with
  | call request cont => rfl
  | ret value =>
    rw [Thread.Pays, program] at pays
    rw [pays] at owes
    exact absurd (Multiset.count_zero copy) owes

/-- **A message that is not lost on the way is delivered or stored.** Where in a run the message
goes only to a client that is connected, no channel is stopped while the message waits in it, and
no connection between nodes is down when the message is sent on it or goes down with it on the
wire, then as soon as nothing is left to be done for the message it has been passed to a connection
of its recipient that was up, or it is stored for the recipient. -/
theorem taken_delivered_or_stored {clockMs : Int} {configs : ℕ → ServerConfig}
    {database : Database}
    (reached : clusterSystem.machine.Reach (Spares copy) (startPool clockMs configs database) pool)
    (taken : pool.Taken copy) (settled : ¬pool.Outstanding copy) :
    (∃ conn, (conn, .chat copy) ∈ pool.state.sent ∧ pool.LoggedIn copy.recipient conn) ∨
      copy ∈ pool.state.stored := by
  obtain ⟨places, tracked⟩ := tracked_of_reach reached
  have whole := tracked.whole taken
  -- nobody owes the message
  have paid : tally (fun thread => thread.debt.reserve copy) pool.threads = 0 := by
    by_contra owed
    apply settled
    have some : ¬∀ thread ∈ pool.threads, thread.debt.reserve copy = 0 := by
      intro all
      exact owed (List.sum_eq_zero (List.forall_mem_map.mpr all))
    push Not at some
    obtain ⟨thread, member, owes⟩ := some
    exact .inl ⟨thread, member, returned_of_owes (places.pays thread member) owes, owes⟩
  have placed : copy ∈ pool.state.account := by
    apply List.count_pos_iff.mp
    rw [Pool.total, paid] at whole
    omega
  simp only [Cluster.account, Cluster.handedCopies, List.mem_append] at placed
  rcases placed with (((passed | held) | travelling) | stored) | lost
  · left
    obtain ⟨⟨conn, outgoing⟩, listed, carried⟩ := List.mem_flatMap.mp passed
    have chat : outgoing = .chat copy := by
      cases outgoing with
      | chat other =>
        obtain rfl := List.mem_singleton.mp carried
        rfl
      | loginAck response => cases carried
    subst chat
    have entitled := (recipients_of_reach reached).passed _ listed
    rcases List.mem_append.mp listed with sent | dropped
    · exact ⟨conn, sent, entitled⟩
    · exact absurd rfl (tracked.passed _ dropped)
  · obtain ⟨dispatcher, member, held⟩ := List.mem_flatMap.mp held
    obtain ⟨task, listed, same⟩ := List.mem_map.mp held
    have there : task ∈ pool.state.heldTasks := List.mem_flatMap.mpr ⟨dispatcher, member, listed⟩
    exact absurd (.inr (.inl ⟨task, there, same⟩)) settled
  · exact absurd (.inr (.inr travelling)) settled
  · exact .inr stored
  · exact absurd rfl (tracked.kept copy lost)

/-- Nothing is left to be done where every handler has returned, and no queue and no channel holds
anything. -/
theorem settled_of_quiet (returned : ∀ thread ∈ pool.threads, thread.rest.returned ≠ none)
    (held : pool.state.heldTasks = []) (travelling : pool.state.travelling = []) :
    ¬pool.Outstanding copy := by
  rintro (⟨thread, member, running, -⟩ | ⟨task, listed, -⟩ | there)
  · exact returned thread member running
  · rw [held] at listed
    cases listed
  · rw [travelling] at there
    cases there

section Decidable

instance (cluster : Cluster) : {β : Type} → (call : ServerCall β) →
    Decidable (CallSpares copy cluster call)
  | _, .service (.send conn (.chat passed)) =>
    inferInstanceAs (Decidable (passed = copy → cluster.isConnected conn = true))
  | _, .channel index (.send link frame) =>
    inferInstanceAs (Decidable (copy ∈ frame.copies →
      ∀ channel ∈ cluster.channels[index]?, channel.queue.network = .established link))
  | _, .channel index .stop =>
    inferInstanceAs (Decidable (∀ channel ∈ cluster.channels[index]?,
      ∀ frame ∈ channel.queue.channel.pending, copy ∉ frame.copies))
  | _, .service (.send _ (.loginAck _)) => .isTrue trivial
  | _, .service (.addLocalConnection _ _) => .isTrue trivial
  | _, .service (.removeLocalConnection _) => .isTrue trivial
  | _, .service (.removeFromBucket _ _) => .isTrue trivial
  | _, .service (.getLocalConnection _) => .isTrue trivial
  | _, .service (.getOrCreateLocalDispatcher _) => .isTrue trivial
  | _, .service .iterationOrder => .isTrue trivial
  | _, .channel _ (.enqueue _) => .isTrue trivial
  | _, .channel _ .warm => .isTrue trivial
  | _, .channel _ .runInLoop => .isTrue trivial
  | _, .channel _ .returned => .isTrue trivial
  | _, .channel _ .queueDrain => .isTrue trivial
  | _, .channel _ (.queueStop _) => .isTrue trivial
  | _, .registry _ => .isTrue trivial
  | _, .dispatch _ _ => .isTrue trivial
  | _, .router _ => .isTrue trivial
  | _, .database _ => .isTrue trivial

instance {ρ : Type} (cluster : Cluster) : (program : Calls ServerCall ρ) →
    Decidable (NextCallSpares copy cluster program)
  | .call call _ => inferInstanceAs (Decidable (CallSpares copy cluster call))
  | .ret _ => .isTrue trivial

section Moves

variable (queue : ChannelLoop Frame)

instance : (functors : List (ChannelFunctor Frame)) → Decidable (FunctorSpares copy queue functors)
  | .send link frame :: _ =>
    inferInstanceAs (Decidable (copy ∈ frame.copies → queue.network = .established link))
  | .stop _ :: _ => inferInstanceAs (Decidable (∀ frame ∈ queue.onWire, copy ∉ frame.copies))
  | [] => .isTrue trivial
  | .connect :: _ => .isTrue trivial
  | .drain :: _ => .isTrue trivial
  | .highWaterMark _ :: _ => .isTrue trivial
  | .writeComplete _ :: _ => .isTrue trivial

instance : (activity : ChannelActivity Frame) → Decidable (ActivitySpares copy queue activity)
  | .drainSend link frame =>
    inferInstanceAs (Decidable (copy ∈ frame.copies → queue.network = .established link))
  | .idle => .isTrue trivial
  | .handleConnection _ => .isTrue trivial
  | .ensureClientInLoop => .isTrue trivial
  | .connectClient => .isTrue trivial
  | .drainPendingInLoop => .isTrue trivial

instance : (move : ChannelMove) → Decidable (MoveSpares copy queue move)
  | .runFunctor => inferInstanceAs (Decidable (FunctorSpares copy queue queue.functors))
  | .proceed => inferInstanceAs (Decidable (ActivitySpares copy queue queue.activity))
  | .close => inferInstanceAs (Decidable (∀ frame ∈ queue.onWire, copy ∉ frame.copies))
  | .establish => .isTrue trivial
  | .flush => .isTrue trivial
  | .socket _ => .isTrue trivial

end Moves

instance (cluster : Cluster) : (event : ClusterEvent) → Decidable (EventSpares copy cluster event)
  | .move index move => inferInstanceAs (Decidable (∀ channel ∈ cluster.channels[index]?,
      MoveSpares copy channel.queue move))
  | .drainStep index drain => inferInstanceAs (Decidable
      (∀ dispatcher ∈ cluster.dispatchers[index]?, ∀ task ∈ dispatcher.queue.nextSend drain,
        task.copy = copy → cluster.isConnected task.conn = true))
  | .initNode _ _ => .isTrue trivial
  | .heartbeat _ _ => .isTrue trivial
  | .closeAll _ _ => .isTrue trivial
  | .reset _ _ => .isTrue trivial
  | .connect _ _ => .isTrue trivial
  | .disconnect _ => .isTrue trivial
  | .request _ _ => .isTrue trivial
  | .receive _ _ _ => .isTrue trivial
  | .runQueued _ => .isTrue trivial
  | .tables _ _ _ => .isTrue trivial
  | .iterate _ => .isTrue trivial
  | .wait _ _ => .isTrue trivial
  | .waitRedis _ => .isTrue trivial

instance : (turn : Turn ClusterEvent) → Decidable (Spares copy pool turn)
  | .thread number => inferInstanceAs (Decidable (∀ thread ∈ pool.threads[number]?,
      NextCallSpares copy pool.state thread.rest))
  | .environment event => inferInstanceAs (Decidable (EventSpares copy pool.state event))

end Decidable

/-- The handler of a message has returned, and nothing is left to be done at all. -/
def Pool.quiet (pool : ClusterPool) : Bool :=
  pool.threads.all (fun thread => thread.rest.returned.isSome) && pool.state.heldTasks.isEmpty &&
    pool.state.travelling.isEmpty

theorem settled_of_pool_quiet (quiet : pool.quiet = true) : ¬pool.Outstanding copy := by
  simp only [Pool.quiet, Bool.and_eq_true, List.all_eq_true, List.isEmpty_iff,
    Option.isSome_iff_ne_none] at quiet
  exact settled_of_quiet quiet.1.1 quiet.1.2 quiet.2

/-- One message of a client that has taken its handler. -/
def firstMessage : Copy := ⟨⟨1, []⟩, 7⟩

/-- Whether the handler of a message has been started. -/
def Pool.tookFirst (pool : ClusterPool) : Bool :=
  pool.threads.any fun thread =>
    match thread.tag.handler with
    | .oneChat other => other = firstMessage
    | _ => false

theorem taken_of_tookFirst (took : pool.tookFirst = true) : pool.Taken firstMessage := by
  obtain ⟨thread, member, found⟩ := List.any_eq_true.mp took
  refine ⟨thread, member, ?_⟩
  split at found
  · rename_i other handler
    rw [handler, of_decide_eq_true found]
  · cases found

/-- A message comes to a user who is logged in, and the queue is drained. -/
theorem taken_delivered_or_stored_login :
    ∃ pool, clusterSystem.machine.Reach (Spares firstMessage)
      (startPool 0 (twoServers 4) twoUsers) pool ∧
        ((∃ conn, (conn, .chat firstMessage) ∈ pool.state.sent ∧
          pool.LoggedIn firstMessage.recipient conn) ∨ firstMessage ∈ pool.state.stored) := by
  have ran : ((clusterSystem.machine.runWithin (Spares firstMessage)
      (startPool 0 (twoServers 4) twoUsers)
      (loginAndMessage ++ [.environment (.drainStep 0 0)])).any fun pool =>
        pool.tookFirst && pool.quiet) = true := by
    decide +kernel
  obtain ⟨pool, ran, found⟩ := (Option.any_eq_true _ _).mp ran
  have reached := Machine.Reach.of_runWithin .refl ran
  obtain ⟨took, quiet⟩ := Bool.and_eq_true_iff.mp found
  exact ⟨pool, reached, taken_delivered_or_stored reached (taken_of_tookFirst took)
    (settled_of_pool_quiet quiet)⟩

/-- The user disconnects before the drain comes to the message. -/
theorem disconnect_losesMessage :
    ∃ pool, ClusterReach 0 (twoServers 4) twoUsers pool ∧ pool.Taken firstMessage ∧
      ¬pool.Outstanding firstMessage ∧ (∀ pair ∈ pool.state.sent, pair.2 ≠ .chat firstMessage) ∧
        firstMessage ∉ pool.state.stored := by
  have ran : ((clusterSystem.machine.run (startPool 0 (twoServers 4) twoUsers)
      (nodeAndLogin ++ ThreadSystem.handling 2 5 (.request 1 (.oneChat 7 [])) ++
        ThreadSystem.handling 3 14 (.disconnect 0) ++
        [.environment (.runQueued 0), .environment (.drainStep 0 0), .environment (.drainStep 0 0),
          .environment (.drainStep 0 0)])).any fun pool =>
      pool.tookFirst && pool.quiet &&
        decide ((∀ pair ∈ pool.state.sent, pair.2 ≠ .chat firstMessage) ∧
        firstMessage ∉ pool.state.stored)) = true := by
    decide +kernel
  obtain ⟨pool, ran, found⟩ := (Option.any_eq_true _ _).mp ran
  obtain ⟨found, lost⟩ := Bool.and_eq_true_iff.mp found
  obtain ⟨took, quiet⟩ := Bool.and_eq_true_iff.mp found
  exact ⟨pool, .of_run ran, taken_of_tookFirst took, settled_of_pool_quiet quiet,
    of_decide_eq_true lost⟩

end ClusterChat
