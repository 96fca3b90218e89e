/-
# The order of local deliveries

All tasks for one connection go to one delivery queue: that of the connection's loop, on the node
that its client is connected to. Each queue sends its tasks in the order in which it took them. So
whatever the interleaving of handlers and loops, no task that waits for a connection overtakes
another one.
-/

import ClusterChat.Service.Hands
import ClusterChat.Service.Recipients

namespace ClusterChat

variable {clockMs : Int} {configs : ℕ → ServerConfig} {database : Database}
  {pool next : ClusterPool}

/-! ### Each queue by itself -/

/-- How many threads are to start a drain of a queue. -/
def Pool.starters (pool : ClusterPool) (index : ℕ) : ℕ :=
  pool.threads.countP fun thread => thread.grip.starting = some index

/-- Every queue is in order. -/
def InOrder (pool : ClusterPool) : Prop :=
  ∀ (index : ℕ) (dispatcher : NodeDispatcher), pool.state.dispatchers[index]? = some dispatcher →
    dispatcher.queue.InFlow (pool.starters index)

/-- A thread that uses no queue, or another one, is to start a drain of this one as before. -/
theorem Grip.starting_of_apart {grip : Grip} {β : Type} {request : ServerCall β} {index : ℕ}
    (permits : grip.Permits request) (apart : ∀ call, request ≠ .dispatch index call) (answer : β) :
    (grip.after ⟨request, answer⟩).starting = some index ↔ grip.starting = some index := by
  cases request with
  | dispatch other call =>
    have differ : other ≠ index := by
      rintro rfl
      exact apart call rfl
    have before : grip.starting ≠ some index := by
      rw [permits.starting]
      split
      · exact fun same => differ (Option.some.inj same)
      · exact nofun
    have after : (grip.after ⟨.dispatch other call, answer⟩).starting ≠ some index := by
      simp only [Grip.after, ServerCall.startingAfter]
      split
      · exact fun same => differ (Option.some.inj same)
      · exact nofun
    exact iff_of_false after before
  | _ => exact Iff.rfl

/-- **A call keeps the queues in order.** -/
theorem InOrder.call (before : InOrder pool) (known : AllKnown pool) {number : ℕ}
    {thread : Thread ServerCall Job Unit} {β : Type} {request : ServerCall β}
    {cont : β → Calls ServerCall Unit} {answer : β} (found : pool.threads[number]? = some thread)
    (permits : thread.grip.Permits request)
    (ran : Cluster.exec number thread.tag request pool.state = some (answer, next.state))
    (threads : next.threads = pool.threads.set number (thread.answered request cont answer)) :
    InOrder next := by
  intro index dispatcher here
  obtain ⟨others, earlier, replaced⟩ := ThreadSystem.exists_countP_set
    (fun thread : Thread ServerCall Job Unit => decide (thread.grip.starting = some index)) found
  have later : next.starters index =
      others + (decide ((thread.grip.after ⟨request, answer⟩).starting = some index)).toNat := by
    rw [Pool.starters, threads]
    exact replaced _
  have now : pool.starters index = others + (decide (thread.grip.starting = some index)).toNat :=
    earlier
  have same : (∀ call, request ≠ .dispatch index call) →
      next.starters index = pool.starters index := by
    intro apart
    rw [later, now, decide_eq_decide.mpr (Grip.starting_of_apart permits apart answer)]
  rcases Cluster.exec_queue ran here with
    ⟨call, inLoop, old, rfl, there, acted, -, -⟩ | ⟨apart, there⟩ | ⟨apart, rfl, limit, queue, -⟩
  · -- the thread was to start a drain exactly if the call is one that starts it
    have flow := before index old there
    have was : decide (thread.grip.starting = some index) = schedules call := by
      rw [permits.starting]
      by_cases told : schedules call = true <;> simp [told]
    have becomes :
        decide ((thread.grip.after ⟨.dispatch index call, answer⟩).starting = some index) =
          startsDrain call answer := by
      simp only [Grip.after, ServerCall.startingAfter]
      by_cases told : startsDrain call answer = true <;> simp [told]
    rw [now, was] at flow
    rw [later, becomes]
    exact flow.exec acted
  · rw [same apart]
    exact before index dispatcher there
  · -- nobody can be about to start a drain of a queue that was not there
    have unknown : pool.starters pool.state.dispatchers.length = 0 := by
      apply List.countP_eq_zero.mpr
      intro other member starting
      obtain ⟨loop, queue, there, -⟩ :=
        (known.2 other member).starting _ (of_decide_eq_true starting)
      exact absurd (List.getElem?_eq_some_iff.mp there).1 (Nat.lt_irrefl _)
    rw [same apart, unknown, queue]
    exact DeliveryLoop.inFlow_create limit

theorem inOrder_of_reach (reached : ClusterReach clockMs configs database pool) : InOrder pool := by
  induction reached with
  | refl =>
    intro index dispatcher found
    cases found
  | @step pool next turn reached _ moved before =>
    rcases ThreadSystem.turn_cases moved with
      ⟨number, thread, β, request, cont, answer, -, found, program, ran, threads⟩ |
      ⟨event, jobs, -, acted, threads⟩
    · have follows := grips_of_reach reached thread (List.mem_of_getElem? found)
      rw [program] at follows
      exact before.call (allKnown_of_reach reached) found follows.1 ran threads
    · intro index dispatcher found
      obtain ⟨old, there, -, -, -, -, kept⟩ :=
        (Cluster.environment_steady acted).queues index _ found
      have same : next.starters index = pool.starters index := by
        have idle : ∀ job : Job × Calls ServerCall Unit,
            ¬(decide ((Thread.start job).grip.starting = some index) = true) := by
          intro job
          rw [Thread.start_grip]
          cases job.1.handler <;> simp [Handler.grip, Grip.create]
        rw [Pool.starters, threads, List.countP_append, List.countP_map]
        have none : (jobs.countP fun job =>
            decide ((Thread.start job).grip.starting = some index)) = 0 :=
          List.countP_eq_zero.mpr fun job _ => idle job
        exact congrArg _ none
      rw [same]
      exact kept _ (before index old there)

/-! ### One queue for each connection -/

/-- The connection is one of a client of the node. -/
def Cluster.Home (cluster : Cluster) (n : ℕ) (conn : Connection) : Prop :=
  ∃ client : Client, cluster.clients[conn.id]? = some client ∧ client.node = n ∧
    client.loop = conn.loop

/-- The connection of a client has gone down. -/
def Cluster.Down (cluster : Cluster) (conn : Connection) : Prop :=
  ∃ client : Client, cluster.clients[conn.id]? = some client ∧ client.connected = false

theorem Cluster.Home.kept {cluster after : Cluster} {n : ℕ} {conn : Connection}
    (home : cluster.Home n conn) (keeps : cluster.KeepsClients after) : after.Home n conn := by
  obtain ⟨client, found, node, loop⟩ := home
  obtain ⟨later, there, node', loop', -⟩ := keeps conn.id client found
  exact ⟨later, there, node'.trans node, loop'.trans loop⟩

theorem Cluster.Down.kept {cluster after : Cluster} {conn : Connection}
    (down : cluster.Down conn) (keeps : cluster.KeepsClients after) : after.Down conn := by
  obtain ⟨client, found, lost⟩ := down
  obtain ⟨later, there, -, -, stays⟩ := keeps conn.id client found
  exact ⟨later, there, stays lost⟩

/-- The connection of a client is up, or it has gone down. -/
theorem Cluster.Home.down {cluster : Cluster} {n : ℕ} {conn : Connection}
    (home : cluster.Home n conn) (notUp : cluster.isConnected conn = false) :
      cluster.Down conn := by
  obtain ⟨client, found, -, -⟩ := home
  refine ⟨client, found, ?_⟩
  rw [isConnected, found] at notUp
  exact notUp

theorem Cluster.Down.notUp {cluster : Cluster} {conn : Connection} (down : cluster.Down conn) :
    cluster.isConnected conn = false := by
  obtain ⟨client, found, lost⟩ := down
  rw [isConnected, found]
  exact lost

/-- What was passed to `send` for a connection: first while it was up, and then while it was down.
-/
def Cluster.passedTo (cluster : Cluster) (conn : Connection) : List Outgoing :=
  ((cluster.sent ++ cluster.dropped).filter fun pair => pair.1 = conn).map Prod.snd

/-- What a queue has sent on a connection. -/
def NodeDispatcher.sentTo (dispatcher : NodeDispatcher) (conn : Connection) : List Outgoing :=
  (dispatcher.queue.sent.filter fun task => task.conn = conn).map fun task => .chat task.copy

theorem Cluster.passedTo_grows {cluster after : Cluster}
    {sent dropped : List (Connection × Outgoing)}
    (up : after.sent = cluster.sent ++ sent) (down : after.dropped = cluster.dropped ++ dropped)
    (conn : Connection) : (cluster.passedTo conn).Sublist (after.passedTo conn) := by
  rw [passedTo, passedTo, up, down]
  apply List.Sublist.map
  apply List.Sublist.filter
  exact (List.sublist_append_left _ _).append (List.sublist_append_left _ _)

/-- The connections of tables, threads, queues and the record belong to clients of the node that has
them, no two queues are of the same loop, and what a queue has sent was passed to `send` in the same
order. -/
structure InPlace (pool : ClusterPool) : Prop where
  entered : ∀ n userId entry, pool.state.localEntry n userId = some entry →
    pool.state.Home n entry.conn
  known : ∀ thread ∈ pool.threads, ∀ conn ∈ thread.grip.connections,
    pool.state.Home thread.tag.node conn
  taken : ∀ (index : ℕ) (dispatcher : NodeDispatcher),
    pool.state.dispatchers[index]? = some dispatcher → ∀ pair ∈ dispatcher.queue.accepted,
      pair.2.conn.loop = dispatcher.loop ∧ pool.state.Home dispatcher.node pair.2.conn
  distinct : ∀ n loop first second, pool.state.QueueAt n loop first →
    pool.state.QueueAt n loop second → first = second
  down : ∀ pair ∈ pool.state.dropped, pool.state.Down pair.1
  passed : ∀ (index : ℕ) (dispatcher : NodeDispatcher),
    pool.state.dispatchers[index]? = some dispatcher → ∀ conn,
      (dispatcher.sentTo conn).Sublist (pool.state.passedTo conn)

/-- A queue that is there after a call was there before, or its loop had none. -/
theorem Cluster.queueAt_cases {cluster after : Cluster} {number : ℕ} {job : Job} {β : Type}
    {call : ServerCall β} {answer : β} (ran : exec number job call cluster = some (answer, after))
    {n loop index : ℕ} (there : after.QueueAt n loop index) :
    cluster.QueueAt n loop index ∨
      index = cluster.dispatchers.length ∧ ∀ other, ¬cluster.QueueAt n loop other := by
  obtain ⟨dispatcher, found, rfl, rfl⟩ := there
  rcases exec_queue ran found with
    ⟨_, _, old, -, there, -, node, place⟩ | ⟨-, there⟩ | ⟨-, last, _, -, first⟩
  · exact .inl ⟨old, there, node.symm, place.symm⟩
  · exact .inl ⟨dispatcher, there, rfl, rfl⟩
  · exact .inr ⟨last, first⟩

/-- **A call leaves everything in its place.** -/
theorem InPlace.call (before : InPlace pool) (exists_ : AllKnown pool) {number : ℕ}
    {thread : Thread ServerCall Job Unit} {β : Type} {request : ServerCall β}
    {cont : β → Calls ServerCall Unit} {answer : β} (found : pool.threads[number]? = some thread)
    (permits : thread.grip.Permits request)
    (ran : Cluster.exec number thread.tag request pool.state = some (answer, next.state))
    (threads : next.threads = pool.threads.set number (thread.answered request cont answer)) :
    InPlace next := by
  have member := List.mem_of_getElem? found
  have records := Cluster.exec_records ran
  have keeps : pool.state.KeepsClients next.state := .of_eq records.clients
  have own : ∀ conn ∈ thread.grip.connections, next.state.Home thread.tag.node conn :=
    fun conn listed => (before.known thread member conn listed).kept keeps
  constructor
  · intro n userId entry there
    -- an entry is the old one, or the login's on its own connection
    rcases entry_cases ran there with old | made
    · exact (before.entered n userId entry old).kept keeps
    · by_cases touches : pool.state.Touches n userId thread.tag request
      · cases request with
        | service call =>
          cases call with
          | addLocalConnection added conn =>
            obtain ⟨rfl, -⟩ := Prod.mk.inj (Option.some.inj made)
            obtain ⟨rfl, -⟩ := touches
            rw [← (Prod.mk.inj (Option.some.inj made)).2]
            exact own conn permits.2
          | _ => cases made
        | _ => cases made
      · rw [Cluster.localEntry_of_untouched ran touches] at there
        exact (before.entered n userId entry there).kept keeps
  · -- a thread learns of a connection only from an entry of its own node
    intro other listed conn listed'
    rw [threads] at listed
    rcases List.mem_or_eq_of_mem_set listed with old | rfl
    · exact (before.known other old conn listed').kept keeps
    · rcases List.mem_append.mp listed' with told | known
      · cases request with
        | service call =>
          cases call with
          | getLocalConnection userId =>
            obtain rfl := Option.mem_toList.mp told
            obtain ⟨entry, there, rfl⟩ := found_entry ran
            exact (before.entered _ userId entry there).kept keeps
          | _ => cases told
        | _ => cases told
      · exact own conn known
  · intro index dispatcher here pair listed
    rcases Cluster.exec_queue ran here with
      ⟨call, inLoop, old, rfl, there, acted, node, loop⟩ | ⟨-, there⟩ | ⟨-, -, limit, queue, -⟩
    · rw [node, loop]
      rcases DeliveryLoop.mem_accepted_exec acted pair listed with earlier | offered
      · obtain ⟨place, home⟩ := before.taken index old there pair earlier
        exact ⟨place, home.kept keeps⟩
      · -- the queue is the one that the thread was told of for the loop of the connection
        obtain ⟨told, knows⟩ := permits.offered pair.2 offered
        obtain ⟨queue, there', node', loop'⟩ := (exists_.2 thread member).dispatchers _ told
        obtain rfl := Option.some.inj (there'.symm.trans there)
        rw [node', loop']
        exact ⟨rfl, own _ knows⟩
    · obtain ⟨place, home⟩ := before.taken index dispatcher there pair listed
      exact ⟨place, home.kept keeps⟩
    · rw [queue] at listed
      cases listed
  · -- a queue is made only for a loop that has none
    intro n loop first second one other
    rcases Cluster.queueAt_cases ran one with one | ⟨last, none⟩
    · rcases Cluster.queueAt_cases ran other with other | ⟨-, none⟩
      · exact before.distinct n loop first second one other
      · exact absurd one (none first)
    · rcases Cluster.queueAt_cases ran other with other | ⟨last', -⟩
      · exact absurd other (none second)
      · rw [last, last']
  · intro pair listed
    -- a send is dropped only on a connection that is not up
    rw [records.dropped] at listed
    rcases List.mem_append.mp listed with old | now
    · exact (before.down pair old).kept keeps
    · cases request with
      | service call =>
        cases call with
        | send conn outgoing =>
          obtain ⟨rfl, notUp⟩ := Cluster.mem_passed now
          exact ((before.known thread member conn permits.2).down notUp).kept keeps
        | _ => cases now
      | _ => cases now
  · intro index dispatcher here conn
    have grows := Cluster.passedTo_grows records.sent records.dropped conn
    rcases Cluster.exec_queue ran here with
      ⟨call, inLoop, old, rfl, there, acted, -, -⟩ | ⟨-, there⟩ | ⟨-, -, limit, queue, -⟩
    · -- no call of a thread sends on behalf of a drain
      have same : dispatcher.sentTo conn = old.sentTo conn := by
        rw [NodeDispatcher.sentTo, NodeDispatcher.sentTo, DeliveryLoop.sent_exec acted]
      rw [same]
      exact (before.passed index old there conn).trans grows
    · exact (before.passed index dispatcher there conn).trans grows
    · rw [NodeDispatcher.sentTo, queue]
      exact List.nil_sublist _

/-! ### Events -/

section Event

variable {cluster after : Cluster} {event : ClusterEvent}
  {jobs : List (Job × Calls ServerCall Unit)}

/-- The task that a drain sends is one that its queue has taken. -/
theorem InOrder.drained_mem (flows : InOrder pool) {task : LocalDeliveryTask}
    (due : pool.state.drained event = some task) :
    ∃ (index : ℕ) (dispatcher : NodeDispatcher), pool.state.dispatchers[index]? = some dispatcher ∧
      task ∈ dispatcher.queue.accepted.map Prod.snd := by
  cases event with
  | drainStep index drain =>
    obtain ⟨dispatcher, found, next⟩ := Option.bind_eq_some_iff.mp due
    exact ⟨index, dispatcher, found, (flows index dispatcher found).nextSend_mem next⟩
  | _ => cases due

/-- **What a drain sends** comes last of what was passed to `send` on its connection: while that
connection is up nothing was passed to it in vain. -/
theorem Cluster.Notes.passedTo (notes : cluster.Notes after event)
    (down : ∀ pair ∈ cluster.dropped, cluster.Down pair.1) (conn : Connection) :
    after.passedTo conn = cluster.passedTo conn ++
      ((cluster.drained event).toList.filter fun task => task.conn = conn).map
        fun task => .chat task.copy := by
  rw [Cluster.passedTo, Cluster.passedTo, notes.sent, notes.dropped]
  simp only [Cluster.passedByEvent]
  cases cluster.drained event with
  | none => simp
  | some task =>
    by_cases own : task.conn = conn
    · subst own
      cases up : cluster.isConnected task.conn with
      | false => simp [Cluster.passed, up]
      | true =>
        have none : cluster.dropped.filter (fun pair => pair.1 = task.conn) = [] := by
          apply List.filter_eq_nil_iff.mpr
          intro pair listed same
          have lost := (down pair listed).notUp
          rw [of_decide_eq_true same, up] at lost
          cases lost
        simp [Cluster.passed, up, none]
    · -- what goes to another connection is left out on both sides
      have apart : ∀ up, (cluster.passed up task.conn (.chat task.copy)).filter
          (fun pair => pair.1 = conn) = [] := by
        intro up
        apply List.filter_eq_nil_iff.mpr
        intro pair listed same
        obtain ⟨rfl, -⟩ := Cluster.mem_passed listed
        exact own (of_decide_eq_true same)
      simp [apart, own]

/-- A handler that starts knows at most the connection of the client that it was started for. -/
theorem Pool.AtHome.grip {job : Job} (home : next.AtHome job) :
    ∀ conn ∈ job.handler.grip.connections, next.state.Home job.node conn := by
  intro conn listed
  cases handler : job.handler with
  | login id pwd own =>
    rw [handler] at listed
    obtain rfl := List.mem_singleton.mp listed
    obtain ⟨client, found, node, -, loop⟩ := home id pwd conn handler
    exact ⟨client, found, node, loop.symm⟩
  | _ =>
    rw [handler] at listed
    cases listed

/-- **An event leaves everything in its place.** -/
theorem InPlace.environment (before : InPlace pool) (flows : InOrder pool)
    (acted : clusterSystem.environment event pool.state = some (next.state, jobs))
    (threads : next.threads = pool.threads ++ jobs.map .start) : InPlace next := by
  have notes := Cluster.environment_notes acted
  have steady := Cluster.environment_steady acted
  have keeps := notes.clients
  constructor
  · intro n userId entry there
    rw [(Cluster.environment_writes acted).2.2.1] at there
    exact (before.entered n userId entry there).kept keeps
  · intro thread member conn listed
    rw [threads] at member
    rcases List.mem_append.mp member with old | new
    · exact (before.known thread old conn listed).kept keeps
    · obtain ⟨job, started, rfl⟩ := List.mem_map.mp new
      exact (environment_atHome acted job started).grip conn listed
  · intro index dispatcher found pair listed
    obtain ⟨old, there, node, loop, accepted, -⟩ := steady.queues index dispatcher found
    rw [accepted] at listed
    obtain ⟨place, home⟩ := before.taken index old there pair listed
    rw [node, loop]
    exact ⟨place, home.kept keeps⟩
  · intro n loop first second one other
    have earlier : ∀ index, next.state.QueueAt n loop index → pool.state.QueueAt n loop index := by
      rintro index ⟨dispatcher, found, rfl, rfl⟩
      obtain ⟨old, there, node, loop, -⟩ := steady.queues index dispatcher found
      exact ⟨old, there, node.symm, loop.symm⟩
    exact before.distinct n loop first second (earlier first one) (earlier second other)
  · intro pair listed
    rw [notes.dropped] at listed
    rcases List.mem_append.mp listed with old | now
    · exact (before.down pair old).kept keeps
    · unfold Cluster.passedByEvent at now
      cases due : pool.state.drained event with
      | none =>
        rw [due] at now
        cases now
      | some task =>
        rw [due] at now
        obtain ⟨rfl, notUp⟩ := Cluster.mem_passed now
        obtain ⟨index, dispatcher, found, taken⟩ := flows.drained_mem due
        obtain ⟨pair, accepted, rfl⟩ := List.mem_map.mp taken
        exact ((before.taken index dispatcher found pair accepted).2.down notUp).kept keeps
  · intro index dispatcher found conn
    obtain ⟨old, there, -, -, -, sent, -⟩ := steady.queues index dispatcher found
    have earlier := before.passed index old there conn
    rw [notes.passedTo before.down conn]
    rcases sent with same | more
    · rw [NodeDispatcher.sentTo, same]
      exact earlier.trans (List.sublist_append_left _ _)
    · rw [NodeDispatcher.sentTo, more, List.filter_append, List.map_append]
      exact earlier.append (List.Sublist.refl _)

end Event

theorem inPlace_of_reach (reached : ClusterReach clockMs configs database pool) : InPlace pool := by
  induction reached with
  | refl =>
    constructor
    · intro n userId entry there
      cases there
    · exact List.forall_mem_nil _
    · intro index dispatcher found
      cases found
    · rintro n loop first second ⟨dispatcher, found, -⟩
      cases found
    · exact List.forall_mem_nil _
    · intro index dispatcher found
      cases found
  | @step pool next turn reached _ moved before =>
    rcases ThreadSystem.turn_cases moved with
      ⟨number, thread, β, request, cont, answer, -, found, program, ran, threads⟩ |
      ⟨event, jobs, -, acted, threads⟩
    · have follows := grips_of_reach reached thread (List.mem_of_getElem? found)
      rw [program] at follows
      exact before.call (allKnown_of_reach reached) found follows.1 ran threads
    · exact before.environment (inOrder_of_reach reached) acted threads

/-! ### In every run -/

/-- What a queue has taken for a connection. -/
def NodeDispatcher.takenFor (dispatcher : NodeDispatcher) (conn : Connection) : List Outgoing :=
  ((dispatcher.queue.accepted.map Prod.snd).filter fun task => task.conn = conn).map
    fun task => .chat task.copy

/-- What waits in a queue for a connection: in the batches of drains, and behind them. -/
def NodeDispatcher.waitingFor (dispatcher : NodeDispatcher) (conn : Connection) : List Outgoing :=
  ((dispatcher.queue.drains.flatMap Drain.tasks ++ dispatcher.queue.dispatcher.pending).filter
    fun task => task.conn = conn).map fun task => .chat task.copy

theorem NodeDispatcher.takenFor_eq {dispatcher : NodeDispatcher} {starting : ℕ}
    (flow : dispatcher.queue.InFlow starting) (conn : Connection) :
    dispatcher.takenFor conn = dispatcher.sentTo conn ++ dispatcher.waitingFor conn := by
  rw [takenFor, sentTo, waitingFor, ← flow.fifo, List.append_assoc, List.filter_append,
    List.map_append]

/-- A connection for which a queue has taken something is one of a client of the queue's node, and
the queue is that of its loop. -/
theorem InPlace.queueAt (places : InPlace pool) {index : ℕ} {dispatcher : NodeDispatcher}
    (found : pool.state.dispatchers[index]? = some dispatcher) {conn : Connection}
    (taken : dispatcher.takenFor conn ≠ []) :
    pool.state.Home dispatcher.node conn ∧
      pool.state.QueueAt dispatcher.node conn.loop index := by
  obtain ⟨outgoing, listed⟩ := List.exists_mem_of_ne_nil _ taken
  obtain ⟨task, listed, -⟩ := List.mem_map.mp listed
  obtain ⟨listed, own⟩ := List.mem_filter.mp listed
  obtain ⟨pair, accepted, rfl⟩ := List.mem_map.mp listed
  obtain ⟨loop, home⟩ := places.taken index dispatcher found pair accepted
  rw [of_decide_eq_true own] at loop home
  exact ⟨home, dispatcher, found, rfl, loop.symm⟩

theorem Cluster.Home.unique {cluster : Cluster} {n m : ℕ} {conn : Connection}
    (home : cluster.Home n conn) (other : cluster.Home m conn) : n = m := by
  obtain ⟨client, found, rfl, -⟩ := home
  obtain ⟨same, found', rfl, -⟩ := other
  rw [Option.some.inj (found.symm.trans found')]

/-- **Local deliveries keep their order.** In every run, what a delivery queue has taken for a
connection is what it has sent on it and then what waits, and what it has sent was passed to `send`
in that order; no other queue of any node takes anything for that connection. A queue never holds
more than its limit, and while something is pending there is exactly one drain: at work, queued on
the loop, or about to be started by a thread. -/
theorem deliveries_in_order (reached : ClusterReach clockMs configs database pool) {index : ℕ}
    {dispatcher : NodeDispatcher} (found : pool.state.dispatchers[index]? = some dispatcher) :
    (∀ conn, dispatcher.takenFor conn = dispatcher.sentTo conn ++ dispatcher.waitingFor conn ∧
      (dispatcher.sentTo conn).Sublist (pool.state.passedTo conn) ∧
      (dispatcher.takenFor conn ≠ [] → ∀ (other : ℕ) (another : NodeDispatcher),
        pool.state.dispatchers[other]? = some another → other ≠ index →
          another.takenFor conn = [])) ∧
    dispatcher.queue.dispatcher.pending.length ≤ dispatcher.queue.dispatcher.pendingLimit ∧
    (dispatcher.queue.dispatcher.pending ≠ [] → pool.starters index +
      dispatcher.queue.queuedDrains + dispatcher.queue.drains.length = 1) := by
  have flow := inOrder_of_reach reached index dispatcher found
  have places := inPlace_of_reach reached
  refine ⟨fun conn => ⟨?_, ?_, ?_⟩, flow.bounded, ?_⟩
  · exact NodeDispatcher.takenFor_eq flow conn
  · exact places.passed index dispatcher found conn
  · intro taken other another there differ
    by_contra some
    -- both queues are that of the connection's loop, on the node of its client
    obtain ⟨home, here⟩ := places.queueAt found taken
    obtain ⟨home', there'⟩ := places.queueAt there some
    rw [home'.unique home] at there'
    exact differ (places.distinct _ _ _ _ there' here)
  · intro waiting
    have single := flow.single
    rw [flow.scheduled waiting] at single
    exact single

/-- A client is sent two messages, and the drain has come to the second one. -/
def twoMessages : List (Turn ClusterEvent) :=
  nodeAndLogin ++ ThreadSystem.handling 2 5 (.request 1 (.oneChat 7 [])) ++
    ThreadSystem.handling 3 3 (.request 1 (.oneChat 7 [])) ++
    [.environment (.runQueued 0), .environment (.drainStep 0 0), .environment (.drainStep 0 0)]

/-- The first message was sent, and the second one waits. -/
theorem deliveries_in_order_two :
    ∃ (pool : ClusterPool) (dispatcher : NodeDispatcher),
      ClusterReach 0 (twoServers 4) twoUsers pool ∧
      dispatcher.takenFor ⟨0, 0⟩ = [.chat ⟨⟨1, []⟩, 7⟩, .chat ⟨⟨2, []⟩, 7⟩] ∧
      [.chat ⟨⟨1, []⟩, 7⟩].Sublist (pool.state.passedTo ⟨0, 0⟩) := by
  have ran : ((clusterSystem.machine.run (startPool 0 (twoServers 4) twoUsers)
      twoMessages).any fun pool => (pool.state.dispatchers[0]?).any fun dispatcher =>
        decide (dispatcher.sentTo ⟨0, 0⟩ = [.chat ⟨⟨1, []⟩, 7⟩] ∧
          dispatcher.waitingFor ⟨0, 0⟩ = [.chat ⟨⟨2, []⟩, 7⟩])) = true := by
    decide +kernel
  obtain ⟨pool, ran, some⟩ := (Option.any_eq_true _ _).mp ran
  obtain ⟨dispatcher, found, listed⟩ := (Option.any_eq_true _ _).mp some
  obtain ⟨sent, waiting⟩ := of_decide_eq_true listed
  have reached := ClusterReach.of_run ran
  obtain ⟨whole, passed, -⟩ := (deliveries_in_order reached found).1 ⟨0, 0⟩
  rw [sent, waiting] at whole
  rw [sent] at passed
  exact ⟨pool, dispatcher, reached, whole, passed⟩

end ClusterChat
