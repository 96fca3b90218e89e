/-
# The account of all copies

At any time a copy of a message may be handed to a connection or wait in a delivery queue, travel in
a channel, be stored for its recipient, be lost with a connection between two nodes, or be owed by a
handler. Calls and events move copies from place to place, and make none up: what a call places the
handler no longer owes, and what a node receives its handler owes from then on.

A message is owed by one handler when it comes in. So no copy is ever in two places, or in one place
twice.
-/

import ClusterChat.Service.Debts
import ClusterChat.Service.Record
import Mathlib.Algebra.BigOperators.Group.Multiset.Basic

namespace ClusterChat

open ServerCall

namespace Cluster

/-! ### The places of copies -/

/-- The copies handed to connections, or waiting in delivery queues. -/
def handedCopies (cluster : Cluster) : List Copy :=
  (cluster.sent ++ cluster.dropped).flatMap (fun passed => passed.2.copies) ++
    cluster.dispatchers.flatMap fun dispatcher =>
      dispatcher.queue.held.map LocalDeliveryTask.copy

/-- The copies in the custody of channels. -/
def travelling (cluster : Cluster) : List Copy :=
  cluster.channels.flatMap fun channel => channel.queue.held.flatMap Frame.copies

/-- All copies that are in some place. -/
def account (cluster : Cluster) : List Copy :=
  cluster.handedCopies ++ cluster.travelling ++ cluster.stored ++ cluster.lostCopies

variable {weight : Copy → ℕ} {cluster after : Cluster} {number : ℕ} {job : Job}

/-- The weights of the copies of a multiset together. -/
def weigh (weight : Copy → ℕ) (copies : Multiset Copy) : ℕ := (copies.map weight).sum

@[simp] theorem weigh_zero : weigh weight 0 = 0 := rfl

@[simp] theorem weigh_coe (copies : List Copy) : weigh weight copies = tally weight copies := rfl

@[simp] theorem weigh_singleton (copy : Copy) : weigh weight {copy} = weight copy := by
  simp [weigh]

@[simp] theorem weigh_add (first second : Multiset Copy) :
    weigh weight (first + second) = weigh weight first + weigh weight second := by
  simp [weigh]

/-- The weight of one channel, with what it has lost. -/
def channelWeight (weight : Copy → ℕ) (queue : ChannelLoop Frame) : ℕ :=
  tally (fun frame => tally weight frame.copies) queue.held +
    tally (fun frame => tally weight frame.copies) queue.lost

/-- The weight of one delivery queue. -/
def queueWeight (weight : Copy → ℕ) (queue : DeliveryLoop LocalDeliveryTask) : ℕ :=
  tally (fun task => weight task.copy) queue.held

theorem tally_account (weight : Copy → ℕ) (cluster : Cluster) :
    tally weight cluster.account =
      tally (fun passed => tally weight passed.2.copies) (cluster.sent ++ cluster.dropped) +
        tally (fun dispatcher => queueWeight weight dispatcher.queue) cluster.dispatchers +
        tally weight cluster.stored +
        tally (fun channel => channelWeight weight channel.queue) cluster.channels := by
  have both : ∀ channels : List NodeChannel,
      tally (fun channel => channelWeight weight channel.queue) channels =
        tally (fun channel => tally (fun frame => tally weight frame.copies) channel.queue.held)
          channels +
        tally (fun channel => tally (fun frame => tally weight frame.copies) channel.queue.lost)
          channels := by
    intro channels
    induction channels with
    | nil => rfl
    | cons channel rest ih =>
      rw [tally_cons, tally_cons, tally_cons, ih, channelWeight]
      omega
  simp only [account, handedCopies, travelling, lostCopies, tally_append, tally_flatMap, tally_map,
    both, queueWeight]
  omega

/-! ### One call -/

theorem tally_set_dispatcher (weight : Copy → ℕ) {index : ℕ} {dispatcher : NodeDispatcher}
    (found : cluster.dispatchers[index]? = some dispatcher)
    (queue : DeliveryLoop LocalDeliveryTask) :
    tally weight (cluster.withDispatcher index { dispatcher with queue := queue }).account +
        queueWeight weight dispatcher.queue =
      tally weight cluster.account + queueWeight weight queue := by
  have moved := tally_set_add (fun dispatcher => queueWeight weight dispatcher.queue) found
    { dispatcher with queue := queue }
  rw [tally_account, tally_account]
  simp only [withDispatcher] at moved ⊢
  omega

theorem tally_set_channel (weight : Copy → ℕ) {index : ℕ} {channel : NodeChannel}
    (found : cluster.channels[index]? = some channel) (queue : ChannelLoop Frame) :
    tally weight (cluster.withChannel index { channel with queue := queue }).account +
        channelWeight weight channel.queue =
      tally weight cluster.account + channelWeight weight queue := by
  have moved := tally_set_add (fun channel => channelWeight weight channel.queue) found
    { channel with queue := queue }
  rw [tally_account, tally_account]
  simp only [withChannel] at moved ⊢
  omega

theorem tally_addDispatcher (dispatcher : NodeDispatcher) :
    tally weight { cluster with dispatchers := cluster.dispatchers ++ [dispatcher] }.account =
      tally weight cluster.account + queueWeight weight dispatcher.queue := by
  rw [tally_account, tally_account]
  simp only [tally_append, tally_singleton]
  omega

theorem tally_addChannel (channel : NodeChannel) :
    tally weight { cluster with channels := cluster.channels ++ [channel] }.account =
      tally weight cluster.account + channelWeight weight channel.queue := by
  rw [tally_account, tally_account]
  simp only [tally_append, tally_singleton]
  omega

/-- A channel's books, with what it has lost. -/
theorem channelWeight_booked {loop next : ChannelLoop Frame} {came went : List Frame}
    (booked : ChannelLoop.Booked (fun frame => tally weight frame.copies) loop next came went) :
    channelWeight weight next =
      channelWeight weight loop + tally weight (came.flatMap Frame.copies) := by
  have held := booked.held
  rw [channelWeight, channelWeight, booked.lost, tally_append, tally_flatMap]
  omega

theorem tally_send (conn : Connection) (outgoing : Outgoing) :
    tally weight (cluster.send conn outgoing).account =
      tally weight cluster.account + tally weight outgoing.copies := by
  rw [tally_account, tally_account, send]
  split
  · simp only [tally_append, tally_singleton]
    omega
  · simp only [tally_append, tally_singleton]
    omega

theorem tally_execService {β : Type} (call : ServiceCall β) (answer : β) :
    tally weight (cluster.execService number job call).2.account =
      tally weight cluster.account + weigh weight ((ServerCall.service call).placed answer) := by
  cases call with
  | removeFromBucket bucket conn =>
    simp only [execService]
    split <;> rfl
  | getOrCreateLocalDispatcher loop =>
    simp only [execService]
    split
    · rfl
    · -- a new queue holds nothing
      exact tally_addDispatcher ⟨job.node, loop, .create (cluster.nodes job.node).localQueueLimit⟩
  | send conn outgoing =>
    rw [placed_send, weigh_coe]
    exact tally_send conn outgoing
  | _ => rfl

theorem tally_execRouter {β : Type} (call : RouterCall β) :
    tally weight (cluster.execRouter job call).2.account = tally weight cluster.account := by
  cases call with
  | warm nodeId instanceId =>
    simp only [execRouter]
    split <;> rfl
  | findChannel channelKey interIp interPort =>
    simp only [execRouter]
    split
    · rfl
    · split
      · rfl
      · split <;> rfl
  | createChannel nodeMeta =>
    -- a new channel holds nothing
    exact tally_addChannel
      ⟨job.node, nodeMeta, .create (cluster.nodes job.node).channelQueueLimit⟩
  | publishChannel channelKey channel =>
    simp only [execRouter]
    split <;> rfl
  | takeChannels => rfl

/-- **A call puts into the account what it places.** -/
theorem tally_exec (weight : Copy → ℕ) {β : Type} {call : ServerCall β} {answer : β}
    (ran : exec number job call cluster = some (answer, after)) :
    tally weight after.account =
      tally weight cluster.account + weigh weight (call.placed answer) := by
  cases call with
  | registry call =>
    simp only [exec] at ran
    obtain ⟨⟨value, state⟩, -, ran⟩ := Option.map_eq_some_iff.mp ran
    obtain ⟨-, rfl⟩ := Prod.mk.inj ran
    rfl
  | service call =>
    obtain ⟨-, rfl⟩ := Prod.mk.inj (Option.some.inj ran)
    exact tally_execService call answer
  | dispatch index call =>
    simp only [exec] at ran
    split at ran
    · cases ran
    · rename_i dispatcher found
      obtain ⟨⟨value, queue⟩, acted, ran⟩ := Option.map_eq_some_iff.mp ran
      obtain ⟨rfl, rfl⟩ := Prod.mk.inj ran
      have moved := tally_set_dispatcher weight found queue
      have held : tally (fun task => weight task.copy) queue.held = _ :=
        DeliveryLoop.tally_held_exec acted
      have placed : weigh weight ((ServerCall.dispatch index call).placed value) =
          tally (fun task => weight task.copy) (DeliveryLoop.cameByCall call value) := by
        simp [placed, handedOver, takenByChannel, storedOffline, tally_map]
      simp only [queueWeight] at moved
      dsimp only
      omega
  | router call =>
    obtain ⟨-, rfl⟩ := Prod.mk.inj (Option.some.inj ran)
    exact tally_execRouter call
  | channel index call =>
    simp only [exec] at ran
    split at ran
    · cases ran
    · rename_i channel found
      obtain ⟨⟨value, queue⟩, acted, ran⟩ := Option.map_eq_some_iff.mp ran
      obtain ⟨rfl, rfl⟩ := Prod.mk.inj ran
      have moved := tally_set_channel weight found queue
      have booked : channelWeight weight queue = _ :=
        channelWeight_booked (ChannelLoop.booked_exec acted)
      have placed : weigh weight ((ServerCall.channel index call).placed value) =
          tally weight ((ChannelLoop.cameByCall call value).flatMap Frame.copies) := by
        simp [placed, handedOver, takenByChannel, storedOffline]
      dsimp only
      omega
  | database call =>
    obtain ⟨-, rfl⟩ := Prod.mk.inj (Option.some.inj ran)
    have placed : weigh weight ((ServerCall.database call).placed answer) =
        tally weight (Database.stores call) := by
      simp [placed, handedOver, takenByChannel, storedOffline]
    rw [tally_account, tally_account, placed]
    simp only [tally_append]
    omega

/-! ### One event -/

/-- The copies that a job takes over from a channel. -/
def received (jobs : List (Job × Calls ServerCall Unit)) : List Copy :=
  jobs.flatMap fun job =>
    match job.1.handler with
    | .clusterFrame frame => frame.copies
    | _ => []

theorem channelWeight_move {queue next : ChannelLoop Frame} {move : ChannelMove}
    (moved : queue.move move = some next) : channelWeight weight next =
      channelWeight weight queue :=
  channelWeight_booked (ChannelLoop.booked_move _ moved)

theorem tally_receive (weight : Copy → ℕ) {index n : ℕ} {frame : Frame}
    (taken : cluster.receive index n = some (frame, after)) :
    tally weight after.account + tally weight frame.copies = tally weight cluster.account := by
  simp only [receive] at taken
  obtain ⟨channel, found, taken⟩ := Option.bind_eq_some_iff.mp taken
  split at taken
  · obtain ⟨⟨frame', queue⟩, took, taken⟩ := Option.map_eq_some_iff.mp taken
    obtain ⟨rfl, rfl⟩ := Prod.mk.inj taken
    have moved := tally_set_channel weight found queue
    obtain ⟨held, lost⟩ : tally (fun frame => tally weight frame.copies) queue.held +
        tally weight frame'.copies =
          tally (fun frame => tally weight frame.copies) channel.queue.held ∧
        queue.lost = channel.queue.lost := ChannelLoop.tally_held_receive took
    simp only [channelWeight, lost] at moved
    dsimp only
    omega
  · cases taken

theorem tally_drainStep {index drain : ℕ} (moved : cluster.drainStep index drain = some after) :
    tally weight after.account = tally weight cluster.account := by
  simp only [drainStep] at moved
  obtain ⟨dispatcher, found, moved⟩ := Option.bind_eq_some_iff.mp moved
  obtain ⟨queue, drained, rfl⟩ := Option.map_eq_some_iff.mp moved
  have replaced := tally_set_dispatcher weight found queue
  have held : tally (fun task => weight task.copy) queue.held + _ = _ :=
    DeliveryLoop.tally_held_drainStep drained
  simp only [queueWeight] at replaced
  cases next : dispatcher.queue.nextSend drain with
  | none =>
    rw [next] at held
    simp only [Option.toList_none, tally_nil] at held
    dsimp only
    omega
  | some task =>
    rw [next] at held
    simp only [Option.toList_some, tally_singleton] at held
    dsimp only
    rw [tally_send]
    simp only [Outgoing.copies, tally_singleton]
    omega

/-- **An event moves copies along**, and hands those that a node receives to their handler. -/
theorem tally_environment (weight : Copy → ℕ) {event : ClusterEvent}
    {jobs : List (Job × Calls ServerCall Unit)}
    (acted : clusterSystem.environment event cluster = some (after, jobs)) :
    tally weight after.account + tally weight (received jobs) = tally weight cluster.account := by
  cases event with
  | receive index n loop =>
    obtain ⟨⟨frame, received⟩, taken, acted⟩ := Option.map_eq_some_iff.mp acted
    obtain ⟨rfl, rfl⟩ := Prod.mk.inj acted
    have moved := tally_receive weight taken
    simpa [Cluster.received, Cluster.job] using moved
  | move index move =>
    obtain ⟨channel, found, acted⟩ := Option.bind_eq_some_iff.mp acted
    obtain ⟨queue, moved, acted⟩ := Option.map_eq_some_iff.mp acted
    obtain ⟨rfl, rfl⟩ := Prod.mk.inj acted
    have replaced := tally_set_channel weight found queue
    rw [channelWeight_move moved] at replaced
    simp only [Cluster.received, List.flatMap_nil, tally_nil]
    omega
  | runQueued index =>
    obtain ⟨dispatcher, found, acted⟩ := Option.bind_eq_some_iff.mp acted
    obtain ⟨queue, ran, acted⟩ := Option.map_eq_some_iff.mp acted
    obtain ⟨rfl, rfl⟩ := Prod.mk.inj acted
    have replaced := tally_set_dispatcher weight found queue
    have held : tally (fun task => weight task.copy) queue.held = _ :=
      DeliveryLoop.tally_held_runQueued ran
    simp only [queueWeight, held] at replaced
    simp only [Cluster.received, List.flatMap_nil, tally_nil]
    omega
  | drainStep index drain =>
    obtain ⟨drained, moved, acted⟩ := Option.map_eq_some_iff.mp acted
    obtain ⟨rfl, rfl⟩ := Prod.mk.inj acted
    exact tally_drainStep moved
  | disconnect id =>
    simp only [clusterSystem] at acted
    split at acted
    · cases acted
    · split at acted
      · obtain ⟨rfl, rfl⟩ := Prod.mk.inj (Option.some.inj acted)
        rfl
      · cases acted
  | request id request =>
    simp only [clusterSystem] at acted
    split at acted
    · cases acted
    · obtain ⟨rfl, rfl⟩ := Prod.mk.inj (Option.some.inj acted)
      cases request <;> rfl
  | _ =>
    obtain ⟨rfl, rfl⟩ := Prod.mk.inj (Option.some.inj acted)
    rfl

end Cluster

end ClusterChat
