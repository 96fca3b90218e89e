/-
# What a turn adds to the record

The cluster's record grows by what is passed to `send`, on a connection that is up or on one that is
down. Tasks come into the delivery queues by calls of handlers and leave them with the steps of
drains; what a channel loses is known before the step is taken. The sides of connections that belong
to clients change only by what clients do.
-/

import ClusterChat.Channel.Custody
import ClusterChat.Delivery.Custody
import ClusterChat.Service.Cluster

namespace ClusterChat

/-- What the next step of a channel loses. -/
def ChannelLoop.lostByMove {μ : Type} (loop : ChannelLoop μ) : ChannelMove → List μ
  | .runFunctor => loop.lostByFunctor
  | .proceed => loop.lostByActivity
  | .close => loop.onWire
  | _ => []

/-- **A step of a channel keeps the books.** -/
theorem ChannelLoop.booked_move {μ : Type} (weight : μ → ℕ) {loop next : ChannelLoop μ}
    {move : ChannelMove} (moved : loop.move move = some next) :
    Booked weight loop next [] (loop.lostByMove move) := by
  cases move with
  | runFunctor => exact booked_runFunctor moved
  | proceed => exact booked_proceed moved
  | establish => exact booked_establish moved
  | close => exact booked_close moved
  | flush => exact booked_flush moved
  | socket mood =>
    obtain rfl := Option.some.inj moved
    exact .still rfl rfl

/-- The handlers of what clients ask for. -/
def Handler.isRequest : Handler → Bool
  | login _ _ _ => true
  | logout _ => true
  | oneChat _ => true
  | groupChat _ _ _ => true
  | _ => false

/-- The tasks that a call puts into delivery queues. -/
def ServerCall.queuing : {β : Type} → ServerCall β → β → List LocalDeliveryTask
  | _, .dispatch _ call, answer => DeliveryLoop.cameByCall call answer
  | _, _, _ => []

namespace Cluster

/-- The tasks in delivery queues. -/
def heldTasks (cluster : Cluster) : List LocalDeliveryTask :=
  cluster.dispatchers.flatMap fun dispatcher => dispatcher.queue.held

/-- The copies that channels have lost. -/
def lostCopies (cluster : Cluster) : List Copy :=
  cluster.channels.flatMap fun channel => channel.queue.lost.flatMap Frame.copies

/-- What `send` records of a connection that is up, or of one that is down. -/
def passed (cluster : Cluster) (up : Bool) (conn : Connection) (outgoing : Outgoing) :
    List (Connection × Outgoing) :=
  if cluster.isConnected conn = up then [(conn, outgoing)] else []

/-- What a call passes to `send`. -/
def passedBy (cluster : Cluster) (up : Bool) : {β : Type} → ServerCall β →
    List (Connection × Outgoing)
  | _, .service (.send conn outgoing) => cluster.passed up conn outgoing
  | _, _ => []

/-- The copies that a call makes a channel lose. -/
def lostBy (cluster : Cluster) : {β : Type} → ServerCall β → List Copy
  | _, .channel index call =>
    match cluster.channels[index]? with
    | none => []
    | some channel => (channel.queue.lostByCall call).flatMap Frame.copies
  | _, _ => []

/-- The task that a step of a drain sends. -/
def drained (cluster : Cluster) : ClusterEvent → Option LocalDeliveryTask
  | .drainStep index drain =>
    (cluster.dispatchers[index]?).bind fun dispatcher => dispatcher.queue.nextSend drain
  | _ => none

/-- What an event passes to `send`. -/
def passedByEvent (cluster : Cluster) (up : Bool) (event : ClusterEvent) :
    List (Connection × Outgoing) :=
  match cluster.drained event with
  | none => []
  | some task => cluster.passed up task.conn (.chat task.copy)

/-- The copies that an event makes a channel lose. -/
def lostByEvent (cluster : Cluster) : ClusterEvent → List Copy
  | .move index move =>
    match cluster.channels[index]? with
    | none => []
    | some channel => (channel.queue.lostByMove move).flatMap Frame.copies
  | _ => []

variable {cluster after : Cluster} {number : ℕ} {job : Job} {β : Type} {answer : β}

theorem mem_passed {up : Bool} {conn : Connection} {outgoing : Outgoing}
    {pair : Connection × Outgoing} (listed : pair ∈ cluster.passed up conn outgoing) :
    pair = (conn, outgoing) ∧ cluster.isConnected conn = up := by
  unfold passed at listed
  split at listed
  · rename_i same
    exact ⟨List.mem_singleton.mp listed, same⟩
  · cases listed

/-! ### Calls -/

/-- What a change adds: to what was passed to `send` on connections that were up or down, to the
tasks in delivery queues, and to what channels have lost. It is no client's. -/
structure Records (cluster after : Cluster) (sent dropped : List (Connection × Outgoing))
    (queued : List LocalDeliveryTask) (lost : List Copy) : Prop where
  clients : after.clients = cluster.clients
  messages : after.messages = cluster.messages
  sent : after.sent = cluster.sent ++ sent
  dropped : after.dropped = cluster.dropped ++ dropped
  held : ∀ weight : LocalDeliveryTask → ℕ,
    tally weight after.heldTasks = tally weight cluster.heldTasks + tally weight queued
  lost : ∀ weight : Copy → ℕ,
    tally weight after.lostCopies = tally weight cluster.lostCopies + tally weight lost

/-- A change of anything else. -/
theorem Records.still (clients : after.clients = cluster.clients)
    (messages : after.messages = cluster.messages) (sent : after.sent = cluster.sent)
    (dropped : after.dropped = cluster.dropped)
    (dispatchers : after.dispatchers = cluster.dispatchers)
    (channels : after.channels = cluster.channels) : cluster.Records after [] [] [] [] := by
  constructor
  · exact clients
  · exact messages
  · rw [sent, List.append_nil]
  · rw [dropped, List.append_nil]
  · intro weight
    rw [heldTasks, dispatchers]
    exact (Nat.add_zero _).symm
  · intro weight
    rw [lostCopies, channels]
    exact (Nat.add_zero _).symm

/-- Something is passed to `send`. -/
theorem send_records (conn : Connection) (outgoing : Outgoing) :
    cluster.Records (cluster.send conn outgoing) (cluster.passed true conn outgoing)
      (cluster.passed false conn outgoing) [] [] := by
  unfold send passed
  cases cluster.isConnected conn with
  | true => exact ⟨rfl, rfl, rfl, (List.append_nil _).symm, fun _ => rfl, fun _ => rfl⟩
  | false => exact ⟨rfl, rfl, (List.append_nil _).symm, rfl, fun _ => rfl, fun _ => rfl⟩

/-- Putting a delivery queue in place of another changes the tasks by the two alone. -/
theorem tally_heldTasks_set (weight : LocalDeliveryTask → ℕ) {index : ℕ}
    {dispatcher : NodeDispatcher} (found : cluster.dispatchers[index]? = some dispatcher)
    (queue : DeliveryLoop LocalDeliveryTask) :
    tally weight (cluster.withDispatcher index { dispatcher with queue := queue }).heldTasks +
        tally weight dispatcher.queue.held =
      tally weight cluster.heldTasks + tally weight queue.held := by
  have moved := tally_set_add (fun dispatcher => tally weight dispatcher.queue.held) found
    { dispatcher with queue := queue }
  simp only [heldTasks, withDispatcher, tally_flatMap] at moved ⊢
  omega

/-- A channel that has lost more. -/
theorem tally_lost_set (weight : Copy → ℕ) {index : ℕ} {channel : NodeChannel}
    (found : cluster.channels[index]? = some channel) {queue : ChannelLoop Frame}
    {went : List Frame} (lost : queue.lost = channel.queue.lost ++ went) :
    tally weight (cluster.withChannel index { channel with queue := queue }).lostCopies =
      tally weight cluster.lostCopies + tally weight (went.flatMap Frame.copies) := by
  have moved := tally_set_add
    (fun channel => tally weight (channel.queue.lost.flatMap Frame.copies)) found
    { channel with queue := queue }
  simp only [lost, List.flatMap_append, tally_append] at moved
  rw [lostCopies, lostCopies, tally_flatMap, tally_flatMap]
  simp only [withChannel]
  omega

theorem execService_records (call : ServiceCall β) :
    cluster.Records (cluster.execService number job call).2
      (cluster.passedBy true (.service call)) (cluster.passedBy false (.service call)) [] [] := by
  cases call with
  | send conn outgoing => exact send_records conn outgoing
  | removeFromBucket bucket conn =>
    simp only [execService]
    split <;> exact .still rfl rfl rfl rfl rfl rfl
  | getOrCreateLocalDispatcher loop =>
    simp only [execService]
    split
    · exact .still rfl rfl rfl rfl rfl rfl
    · -- a new queue holds nothing
      refine ⟨rfl, rfl, (List.append_nil _).symm, (List.append_nil _).symm, ?_, fun _ => rfl⟩
      intro weight
      simp [heldTasks, DeliveryLoop.held, DeliveryLoop.create]
  | _ => exact .still rfl rfl rfl rfl rfl rfl

theorem execRouter_records (call : RouterCall β) :
    cluster.Records (cluster.execRouter job call).2 [] [] [] [] := by
  cases call with
  | warm nodeId instanceId =>
    simp only [execRouter]
    split <;> exact .still rfl rfl rfl rfl rfl rfl
  | findChannel channelKey interIp interPort =>
    simp only [execRouter]
    split
    · exact .still rfl rfl rfl rfl rfl rfl
    · split
      · exact .still rfl rfl rfl rfl rfl rfl
      · split <;> exact .still rfl rfl rfl rfl rfl rfl
  | createChannel nodeMeta =>
    -- a new channel has lost nothing
    refine ⟨rfl, rfl, (List.append_nil _).symm, (List.append_nil _).symm, fun _ => rfl, ?_⟩
    intro weight
    simp [execRouter, lostCopies, ChannelLoop.create]
  | publishChannel channelKey channel =>
    simp only [execRouter]
    split <;> exact .still rfl rfl rfl rfl rfl rfl
  | takeChannels => exact .still rfl rfl rfl rfl rfl rfl

/-- **What a call adds to the record.** -/
theorem exec_records {call : ServerCall β}
    (ran : exec number job call cluster = some (answer, after)) :
    cluster.Records after (cluster.passedBy true call) (cluster.passedBy false call)
      (call.queuing answer) (cluster.lostBy call) := by
  cases call with
  | registry call =>
    simp only [exec] at ran
    obtain ⟨⟨value, state⟩, -, ran⟩ := Option.map_eq_some_iff.mp ran
    obtain ⟨rfl, rfl⟩ := Prod.mk.inj ran
    exact .still rfl rfl rfl rfl rfl rfl
  | service call =>
    obtain ⟨-, rfl⟩ := Prod.mk.inj (Option.some.inj ran)
    exact execService_records call
  | dispatch index call =>
    simp only [exec] at ran
    split at ran
    · cases ran
    · rename_i dispatcher found
      obtain ⟨⟨value, queue⟩, acted, ran⟩ := Option.map_eq_some_iff.mp ran
      obtain ⟨rfl, rfl⟩ := Prod.mk.inj ran
      refine ⟨rfl, rfl, (List.append_nil _).symm, (List.append_nil _).symm, ?_, fun _ => rfl⟩
      intro weight
      have moved := tally_heldTasks_set weight found queue
      have books : tally weight queue.held = _ := DeliveryLoop.tally_held_exec acted
      simp only [ServerCall.queuing]
      omega
  | router call =>
    obtain ⟨-, rfl⟩ := Prod.mk.inj (Option.some.inj ran)
    exact execRouter_records call
  | channel index call =>
    simp only [exec] at ran
    split at ran
    · cases ran
    · rename_i channel found
      obtain ⟨⟨value, queue⟩, acted, ran⟩ := Option.map_eq_some_iff.mp ran
      obtain ⟨rfl, rfl⟩ := Prod.mk.inj ran
      refine ⟨rfl, rfl, (List.append_nil _).symm, (List.append_nil _).symm, fun _ => rfl, ?_⟩
      intro weight
      have booked : ChannelLoop.Booked (fun _ => 0) channel.queue queue _ _ :=
        ChannelLoop.booked_exec acted
      simp only [lostBy, found]
      exact tally_lost_set weight found booked.lost
  | database call =>
    obtain ⟨-, rfl⟩ := Prod.mk.inj (Option.some.inj ran)
    exact .still rfl rfl rfl rfl rfl rfl

/-! ### Events -/

/-- Clients of a cluster stay on their nodes and loops, and a connection that is down stays down. -/
def KeepsClients (cluster after : Cluster) : Prop :=
  ∀ (id : ℕ) (client : Client), cluster.clients[id]? = some client → ∃ later : Client,
    after.clients[id]? = some later ∧ later.node = client.node ∧ later.loop = client.loop ∧
      (client.connected = false → later.connected = false)

/-- What an event adds to the record, and what it takes out of the delivery queues. -/
structure Notes (cluster after : Cluster) (event : ClusterEvent) : Prop where
  clients : cluster.KeepsClients after
  sent : after.sent = cluster.sent ++ cluster.passedByEvent true event
  dropped : after.dropped = cluster.dropped ++ cluster.passedByEvent false event
  held : ∀ weight : LocalDeliveryTask → ℕ,
    tally weight after.heldTasks + tally weight (cluster.drained event).toList =
      tally weight cluster.heldTasks
  lost : ∀ weight : Copy → ℕ,
    tally weight after.lostCopies =
      tally weight cluster.lostCopies + tally weight (cluster.lostByEvent event)

theorem KeepsClients.of_eq (same : after.clients = cluster.clients) :
    cluster.KeepsClients after := by
  intro id client found
  rw [← same] at found
  exact ⟨client, found, rfl, rfl, fun down => down⟩

section Event

variable {event : ClusterEvent} {jobs : List (Job × Calls ServerCall Unit)}

/-- An event that is no step of a drain and no move of a channel. -/
theorem Notes.still (clients : cluster.KeepsClients after) (sent : after.sent = cluster.sent)
    (dropped : after.dropped = cluster.dropped)
    (dispatchers : after.dispatchers = cluster.dispatchers)
    (lost : ∀ weight, tally weight after.lostCopies = tally weight cluster.lostCopies)
    (noTask : cluster.drained event = none) (noLoss : cluster.lostByEvent event = []) :
    cluster.Notes after event := by
  constructor
  · exact clients
  · rw [passedByEvent, noTask, sent, List.append_nil]
  · rw [passedByEvent, noTask, dropped, List.append_nil]
  · intro weight
    rw [noTask, heldTasks, heldTasks, dispatchers]
    rfl
  · intro weight
    rw [noLoss, lost weight]
    rfl

theorem drainStep_notes {index drain : ℕ} (moved : cluster.drainStep index drain = some after) :
    cluster.Notes after (.drainStep index drain) := by
  simp only [drainStep] at moved
  obtain ⟨dispatcher, found, moved⟩ := Option.bind_eq_some_iff.mp moved
  obtain ⟨queue, stepped, rfl⟩ := Option.map_eq_some_iff.mp moved
  have task : cluster.drained (.drainStep index drain) = dispatcher.queue.nextSend drain := by
    simp only [drained, found, Option.bind_some]
  have books : ∀ weight : LocalDeliveryTask → ℕ,
      tally weight (cluster.withDispatcher index { dispatcher with queue := queue }).heldTasks +
        tally weight (dispatcher.queue.nextSend drain).toList = tally weight cluster.heldTasks := by
    intro weight
    have moved := tally_heldTasks_set weight found queue
    have held : tally weight queue.held + _ = _ := DeliveryLoop.tally_held_drainStep stepped
    omega
  cases next : dispatcher.queue.nextSend drain with
  | none =>
    rw [next] at task books
    refine ⟨.of_eq rfl, ?_, ?_, ?_, fun _ => rfl⟩
    · rw [passedByEvent, task]
      exact (List.append_nil _).symm
    · rw [passedByEvent, task]
      exact (List.append_nil _).symm
    · rw [task]
      exact books
  | some due =>
    rw [next] at task books
    have sends :
        Records (cluster.withDispatcher index { dispatcher with queue := queue }) _ _ _ _ _ :=
      send_records due.conn (.chat due.copy)
    refine ⟨.of_eq sends.clients, ?_, ?_, ?_, sends.lost⟩
    · rw [passedByEvent, task]
      exact sends.sent
    · rw [passedByEvent, task]
      exact sends.dropped
    · intro weight
      rw [task, sends.held weight]
      exact books weight

/-- No event makes up tasks: those that are left and the one that was sent were all there. -/
theorem Notes.mem_heldTasks (notes : cluster.Notes after event) {task : LocalDeliveryTask}
    (listed : task ∈ after.heldTasks ++ (cluster.drained event).toList) :
    task ∈ cluster.heldTasks := by
  have books : ∀ weight : LocalDeliveryTask → ℕ,
      tally weight (after.heldTasks ++ (cluster.drained event).toList) ≤
        tally weight cluster.heldTasks + tally weight [] := by
    intro weight
    rw [tally_append, notes.held weight]
    exact le_rfl
  exact forall_of_tally (· ∈ cluster.heldTasks) books (fun _ there => there)
    (List.forall_mem_nil _) task listed

/-- **What an event adds to the record.** -/
theorem environment_notes (acted : clusterSystem.environment event cluster = some (after, jobs)) :
    cluster.Notes after event := by
  cases event with
  | drainStep index drain =>
    obtain ⟨stepped, moved, acted⟩ := Option.map_eq_some_iff.mp acted
    obtain ⟨rfl, rfl⟩ := Prod.mk.inj acted
    exact drainStep_notes moved
  | receive index n loop =>
    obtain ⟨⟨frame, received⟩, taken, acted⟩ := Option.map_eq_some_iff.mp acted
    obtain ⟨rfl, rfl⟩ := Prod.mk.inj acted
    simp only [receive] at taken
    obtain ⟨channel, found, taken⟩ := Option.bind_eq_some_iff.mp taken
    split at taken
    · obtain ⟨⟨_, queue⟩, took, taken⟩ := Option.map_eq_some_iff.mp taken
      obtain ⟨-, rfl⟩ := Prod.mk.inj taken
      -- the frame goes from the wire to its handler, and none is lost
      have still : tally (fun _ => 0) queue.held + 0 = _ ∧ queue.lost = channel.queue.lost :=
        ChannelLoop.tally_held_receive took
      have lost : queue.lost = channel.queue.lost ++ [] := by
        rw [still.2, List.append_nil]
      exact .still (.of_eq rfl) rfl rfl rfl (fun weight => tally_lost_set weight found lost) rfl rfl
    · cases taken
  | move index move =>
    obtain ⟨channel, found, acted⟩ := Option.bind_eq_some_iff.mp acted
    obtain ⟨queue, moved, acted⟩ := Option.map_eq_some_iff.mp acted
    obtain ⟨rfl, rfl⟩ := Prod.mk.inj acted
    -- a move of the loop loses what its channel gives up
    have booked := ChannelLoop.booked_move (fun _ => 0) moved
    refine ⟨.of_eq rfl, (List.append_nil _).symm, (List.append_nil _).symm, fun _ => rfl, ?_⟩
    intro weight
    simp only [lostByEvent, found]
    exact tally_lost_set weight found booked.lost
  | runQueued index =>
    obtain ⟨dispatcher, found, acted⟩ := Option.bind_eq_some_iff.mp acted
    obtain ⟨queue, ran, acted⟩ := Option.map_eq_some_iff.mp acted
    obtain ⟨rfl, rfl⟩ := Prod.mk.inj acted
    refine ⟨.of_eq rfl, (List.append_nil _).symm, (List.append_nil _).symm, ?_, fun _ => rfl⟩
    intro weight
    -- the tasks go from the queue of the loop to the drain that runs
    have moved := tally_heldTasks_set weight found queue
    have held : tally weight queue.held = _ := DeliveryLoop.tally_held_runQueued ran
    simp only [drained, Option.toList_none, tally_nil]
    omega
  | connect n loop =>
    obtain ⟨rfl, rfl⟩ := Prod.mk.inj (Option.some.inj acted)
    refine .still ?_ rfl rfl rfl (fun _ => rfl) rfl rfl
    intro id client found
    -- the new client comes after those that are there
    refine ⟨client, ?_, rfl, rfl, fun down => down⟩
    exact (List.getElem?_append_left (List.getElem?_eq_some_iff.mp found).1).trans found
  | disconnect id =>
    simp only [clusterSystem] at acted
    split at acted
    · cases acted
    · split at acted
      · rename_i client here _
        obtain ⟨rfl, rfl⟩ := Prod.mk.inj (Option.some.inj acted)
        refine .still ?_ rfl rfl rfl (fun _ => rfl) rfl rfl
        intro other client' found
        -- the one that closes is down from now on, and the others are as they were
        by_cases same : id = other
        · subst same
          obtain rfl := Option.some.inj (here.symm.trans found)
          refine ⟨{ client with connected := false }, ?_, rfl, rfl, fun _ => rfl⟩
          exact List.getElem?_set_self (List.getElem?_eq_some_iff.mp found).1
        · exact ⟨client', (List.getElem?_set_ne same).trans found, rfl, rfl, fun down => down⟩
      · cases acted
  | request id request =>
    simp only [clusterSystem] at acted
    split at acted
    · cases acted
    · obtain ⟨rfl, rfl⟩ := Prod.mk.inj (Option.some.inj acted)
      exact .still (.of_eq rfl) rfl rfl rfl (fun _ => rfl) rfl rfl
  | _ =>
    obtain ⟨rfl, rfl⟩ := Prod.mk.inj (Option.some.inj acted)
    exact .still (.of_eq rfl) rfl rfl rfl (fun _ => rfl) rfl rfl

/-- **What an event starts.** It is a client's request, whose message gets the next number, or it
starts no handler of a request. -/
theorem environment_requests
    (acted : clusterSystem.environment event cluster = some (after, jobs)) :
    (∃ id request client, cluster.clients[id]? = some client ∧
      after = { cluster with messages := cluster.messages + 1 } ∧
      jobs = [cluster.job client.node client.loop
        (handlerOf cluster.messages ⟨id, client.loop⟩ request)]) ∨
    after.messages = cluster.messages ∧ ∀ job ∈ jobs, job.1.handler.isRequest = false := by
  cases event with
  | request id request =>
    left
    simp only [clusterSystem] at acted
    split at acted
    · cases acted
    · rename_i client here
      obtain ⟨rfl, rfl⟩ := Prod.mk.inj (Option.some.inj acted)
      -- the only event that counts a message
      exact ⟨id, request, client, here, rfl, rfl⟩
  | receive index n loop =>
    obtain ⟨⟨frame, received⟩, taken, acted⟩ := Option.map_eq_some_iff.mp acted
    obtain ⟨rfl, rfl⟩ := Prod.mk.inj acted
    simp only [receive] at taken
    obtain ⟨channel, -, taken⟩ := Option.bind_eq_some_iff.mp taken
    split at taken
    · obtain ⟨⟨_, queue⟩, -, taken⟩ := Option.map_eq_some_iff.mp taken
      obtain ⟨-, rfl⟩ := Prod.mk.inj taken
      exact .inr ⟨rfl, List.forall_mem_singleton.mpr rfl⟩
    · cases taken
  | move index move =>
    obtain ⟨channel, -, acted⟩ := Option.bind_eq_some_iff.mp acted
    obtain ⟨queue, -, acted⟩ := Option.map_eq_some_iff.mp acted
    obtain ⟨rfl, rfl⟩ := Prod.mk.inj acted
    exact .inr ⟨rfl, List.forall_mem_nil _⟩
  | runQueued index =>
    obtain ⟨dispatcher, -, acted⟩ := Option.bind_eq_some_iff.mp acted
    obtain ⟨queue, -, acted⟩ := Option.map_eq_some_iff.mp acted
    obtain ⟨rfl, rfl⟩ := Prod.mk.inj acted
    exact .inr ⟨rfl, List.forall_mem_nil _⟩
  | drainStep index drain =>
    obtain ⟨stepped, moved, acted⟩ := Option.map_eq_some_iff.mp acted
    obtain ⟨rfl, rfl⟩ := Prod.mk.inj acted
    simp only [drainStep] at moved
    obtain ⟨dispatcher, -, moved⟩ := Option.bind_eq_some_iff.mp moved
    obtain ⟨queue, -, rfl⟩ := Option.map_eq_some_iff.mp moved
    refine .inr ⟨?_, List.forall_mem_nil _⟩
    split
    · rfl
    · -- a drain sends what an earlier request has brought
      exact (send_records _ _).messages
  | disconnect id =>
    simp only [clusterSystem] at acted
    split at acted
    · cases acted
    · split at acted
      · obtain ⟨rfl, rfl⟩ := Prod.mk.inj (Option.some.inj acted)
        exact .inr ⟨rfl, List.forall_mem_singleton.mpr rfl⟩
      · cases acted
  | initNode n loop =>
    obtain ⟨rfl, rfl⟩ := Prod.mk.inj (Option.some.inj acted)
    exact .inr ⟨rfl, List.forall_mem_singleton.mpr rfl⟩
  | heartbeat n loop =>
    obtain ⟨rfl, rfl⟩ := Prod.mk.inj (Option.some.inj acted)
    exact .inr ⟨rfl, List.forall_mem_singleton.mpr rfl⟩
  | closeAll n loop =>
    obtain ⟨rfl, rfl⟩ := Prod.mk.inj (Option.some.inj acted)
    exact .inr ⟨rfl, List.forall_mem_singleton.mpr rfl⟩
  | reset n loop =>
    obtain ⟨rfl, rfl⟩ := Prod.mk.inj (Option.some.inj acted)
    exact .inr ⟨rfl, List.forall_mem_singleton.mpr rfl⟩
  | _ =>
    obtain ⟨rfl, rfl⟩ := Prod.mk.inj (Option.some.inj acted)
    exact .inr ⟨rfl, List.forall_mem_nil _⟩

end Event

end Cluster

end ClusterChat
