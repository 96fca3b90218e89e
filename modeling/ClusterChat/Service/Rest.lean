/-
# Coming to rest

When nothing comes to a cluster from outside, its handlers go on, and its loops run what is queued
on them. None of this goes on forever, and nothing gets stuck: a handler waits only for the mutex of
the Redis client, whose owner goes on, or for the drain that it has called, which goes on as well.
So the cluster comes to rest: every handler has returned, the loops have nothing left to do, and
each task that a delivery queue has taken was passed to `send`.

An operation of the database is one step of the cluster, and waits for nothing here.
-/

import ClusterChat.Concurrency.Stillness
import ClusterChat.Service.DeliveryOrder

namespace ClusterChat

/-! ### What the loops have left to do -/

namespace DeliveryLoop

variable {T : Type} {loop next : DeliveryLoop T}

/-- What is left to do for a delivery queue: each task that waits is taken over into a batch and
then sent, and a drain starts and ends. -/
def work (loop : DeliveryLoop T) : ℕ :=
  2 * loop.dispatcher.pending.length + 2 * loop.queuedDrains +
    tally (fun drain => drain.tasks.length + 1) loop.drains

theorem work_runQueued (ran : loop.runQueued = some next) : next.work < loop.work := by
  unfold runQueued at ran
  cases queued : loop.queuedDrains with
  | zero =>
    rw [queued] at ran
    cases ran
  | succ more =>
    rw [queued] at ran
    cases ran
    simp only [work, queued, tally_append, tally_singleton, List.length_nil]
    omega

theorem work_drainStep {index : ℕ} (ran : loop.drainStep index = some next) :
    next.work < loop.work := by
  unfold drainStep at ran
  cases found : loop.drains[index]? with
  | none =>
    rw [found] at ran
    cases ran
  | some drain =>
    have replaced := tally_set_add (fun drain : Drain T => drain.tasks.length + 1) found
    have removed := tally_eraseIdx_add (fun drain : Drain T => drain.tasks.length + 1) found
    simp only [found] at ran
    cases batch : drain.tasks with
    | cons task rest =>
      simp only [batch] at ran
      cases ran
      -- one task less is left in the batch
      have shorter := replaced { drain with tasks := rest }
      simp only [batch, List.length_cons] at shorter
      simp only [work]
      omega
    | nil =>
      rw [batch] at removed
      cases waiting : loop.dispatcher.pending with
      | nil =>
        simp only [batch, LocalLoopDispatcher.swapOut, waiting] at ran
        cases ran
        -- nothing is waiting any more, so the drain itself is done
        simp only [work, waiting, List.length_nil] at removed ⊢
        omega
      | cons task rest =>
        simp only [batch, LocalLoopDispatcher.swapOut, waiting] at ran
        cases ran
        -- the batch that is swapped in weighs less in the drain than it did in the queue
        have longer := replaced { drain with tasks := task :: rest }
        simp only [batch, List.length_cons, List.length_nil] at longer
        simp only [work, waiting, List.length_cons, List.length_nil]
        omega

/-- A drain at work can go on. -/
theorem drains_of_stuck (stuck : loop.drainStep 0 = none) : loop.drains = [] := by
  cases drains : loop.drains with
  | nil => rfl
  | cons drain rest =>
    exfalso
    simp only [drainStep, drains, List.getElem?_cons_zero] at stuck
    split at stuck
    · cases stuck
    · split at stuck <;> cases stuck

/-- A drain in the queue of the loop can be run. -/
theorem queuedDrains_of_stuck (stuck : loop.runQueued = none) : loop.queuedDrains = 0 := by
  unfold runQueued at stuck
  split at stuck
  · assumption
  · cases stuck

end DeliveryLoop

/-- What a functor has left to do: it may start a callback. -/
def ChannelFunctor.work {μ : Type} : ChannelFunctor μ → ℕ
  | connect => 3
  | drain => 2
  | send _ _ => 3
  | highWaterMark _ => 1
  | writeComplete _ => 2
  | stop _ => 3

/-- What a callback has left to do. -/
def ChannelActivity.work {μ : Type} : ChannelActivity μ → ℕ
  | idle => 0
  | handleConnection _ => 2
  | ensureClientInLoop => 2
  | connectClient => 1
  | drainPendingInLoop => 1
  | drainSend _ _ => 4

namespace ChannelLoop

variable {μ : Type} {loop next : ChannelLoop μ}

/-- What is left to do on the loop of a channel. A message that waits is written, and the functor
that reports it drains the queue once more. -/
def work (loop : ChannelLoop μ) : ℕ :=
  4 * loop.channel.pending.length + tally ChannelFunctor.work loop.functors + loop.activity.work

/-- Writing a message queues at most one functor. -/
theorem work_write (loop : ChannelLoop μ) (link : ℕ) (message : μ) :
    (loop.write link message).work ≤ loop.work + 2 := by
  unfold write
  by_cases up : loop.network = .established link
  · simp only [if_pos up]
    split
    · split
      · simp [work]
      · simp only [work, queue, tally_append, tally_singleton, ChannelFunctor.work]
        omega
    · split
      · simp only [work, queue, tally_append, tally_singleton, ChannelFunctor.work]
        omega
      · simp [work]
  · rw [if_neg up]
    simp [work]

theorem work_startConnect (loop : ChannelLoop μ) (idle : loop.activity = .idle) :
    loop.startConnect.work ≤ loop.work + 2 := by
  unfold startConnect
  split
  · simp [work]
  · simp [work, idle, ChannelActivity.work]

theorem work_runFunctor (ran : loop.runFunctor = some next) : next.work < loop.work := by
  unfold runFunctor at ran
  split at ran
  · rename_i functor rest idle functors
    have whole : loop.work =
        { loop with functors := rest }.work + functor.work := by
      simp only [work, functors, tally_cons]
      omega
    rw [whole]
    cases functor with
    | connect =>
      cases ran
      have less := work_startConnect { loop with functors := rest } idle
      simp only [ChannelFunctor.work]
      omega
    | send link message =>
      cases ran
      have less := work_write { loop with functors := rest } link message
      simp only [ChannelFunctor.work]
      omega
    | stop link =>
      dsimp only at ran
      split at ran <;> cases ran <;>
        simp only [work, idle, ChannelFunctor.work, ChannelActivity.work] <;> omega
    | _ =>
      cases ran
      simp only [work, idle, ChannelFunctor.work, ChannelActivity.work]
      omega
  · cases ran

theorem work_proceed (ran : loop.proceed = some next) : next.work < loop.work := by
  unfold proceed at ran
  cases activity : loop.activity with
  | idle =>
    rw [activity] at ran
    cases ran
  | drainPendingInLoop =>
    simp only [activity] at ran
    split at ran
    · cases ran
      simp only [work, activity, ChannelActivity.work]
      omega
    · split at ran
      · -- a message taken off the queue counts for less once it is about to be sent
        rename_i message rest link waiting _
        cases ran
        simp only [work, activity, waiting, List.length_cons, ChannelActivity.work]
        omega
      · cases ran
        simp only [work, activity, ChannelActivity.work]
        omega
  | drainSend link message =>
    simp only [activity] at ran
    cases ran
    have less := work_write loop link message
    have written := write_activity loop link message
    simp only [work, written, activity, ChannelActivity.work] at less ⊢
    omega
  | ensureClientInLoop =>
    simp only [activity] at ran
    cases ran
    simp only [work, activity, ChannelActivity.work]
    omega
  | handleConnection link =>
    simp only [activity] at ran
    split at ran <;> cases ran <;> simp only [work, activity, ChannelActivity.work] <;> omega
  | connectClient =>
    simp only [activity] at ran
    split at ran
    · cases ran
      simp only [work, activity, ChannelActivity.work]
      omega
    · split at ran <;> cases ran <;> simp only [work, activity, ChannelActivity.work] <;> omega

/-- A callback goes on until it returns. -/
theorem idle_of_stuck (stuck : loop.proceed = none) : loop.activity = .idle := by
  unfold proceed at stuck
  cases activity : loop.activity with
  | idle => rfl
  | handleConnection link =>
    simp only [activity] at stuck
    split at stuck <;> cases stuck
  | ensureClientInLoop =>
    simp only [activity] at stuck
    cases stuck
  | connectClient =>
    simp only [activity] at stuck
    split at stuck
    · cases stuck
    · split at stuck <;> cases stuck
  | drainPendingInLoop =>
    simp only [activity] at stuck
    split at stuck
    · cases stuck
    · split at stuck <;> cases stuck
  | drainSend link message =>
    simp only [activity] at stuck
    cases stuck

/-- An idle loop can run what is queued on it. -/
theorem functors_of_stuck (idle : loop.activity = .idle) (stuck : loop.runFunctor = none) :
    loop.functors = [] := by
  cases functors : loop.functors with
  | nil => rfl
  | cons functor rest =>
    exfalso
    simp only [runFunctor, idle, functors] at stuck
    cases functor with
    | stop link =>
      dsimp only at stuck
      split at stuck <;> cases stuck
    | _ => cases stuck

end ChannelLoop

/-! ### What a cluster does by itself -/

/-- The events that need nothing from outside: loops run what is queued on them. -/
def ClusterEvent.IsOwn : ClusterEvent → Prop
  | .runQueued _ => True
  | .drainStep _ _ => True
  | .move _ .runFunctor => True
  | .move _ .proceed => True
  | _ => False

/-- The turns that need nothing from outside: those of the loops, and of handlers. -/
def OwnTurn : Turn ClusterEvent → Prop
  | .thread _ => True
  | .environment event => event.IsOwn

namespace Cluster

/-- What is left to do on the loops of a cluster. -/
def work (cluster : Cluster) : ℕ :=
  tally (fun dispatcher => dispatcher.queue.work) cluster.dispatchers +
    tally (fun channel => channel.queue.work) cluster.channels

variable {cluster after : Cluster}

theorem work_withDispatcher {index : ℕ} {dispatcher : NodeDispatcher}
    (found : cluster.dispatchers[index]? = some dispatcher) {queue : DeliveryLoop LocalDeliveryTask}
    (less : queue.work < dispatcher.queue.work) :
    (cluster.withDispatcher index { dispatcher with queue := queue }).work < cluster.work := by
  have moved := tally_set_add (fun dispatcher => dispatcher.queue.work) found
    { dispatcher with queue := queue }
  simp only [work, withDispatcher] at moved ⊢
  omega

theorem work_withChannel {index : ℕ} {channel : NodeChannel}
    (found : cluster.channels[index]? = some channel) {queue : ChannelLoop Frame}
    (less : queue.work < channel.queue.work) :
    (cluster.withChannel index { channel with queue := queue }).work < cluster.work := by
  have moved := tally_set_add (fun channel => channel.queue.work) found
    { channel with queue := queue }
  simp only [work, withChannel] at moved ⊢
  omega

theorem work_send (conn : Connection) (outgoing : Outgoing) :
    (cluster.send conn outgoing).work = cluster.work := by
  unfold send
  split <;> rfl

/-- **Each turn of a loop leaves less to do.** -/
theorem work_environment {event : ClusterEvent} {jobs : List (Job × Calls ServerCall Unit)}
    (owned : event.IsOwn)
    (acted : clusterSystem.environment event cluster = some (after, jobs)) :
    jobs = [] ∧ after.work < cluster.work := by
  cases event with
  | runQueued index =>
    obtain ⟨dispatcher, found, acted⟩ := Option.bind_eq_some_iff.mp acted
    obtain ⟨queue, ran, acted⟩ := Option.map_eq_some_iff.mp acted
    obtain ⟨rfl, rfl⟩ := Prod.mk.inj acted
    exact ⟨rfl, work_withDispatcher found (DeliveryLoop.work_runQueued ran)⟩
  | drainStep index drain =>
    obtain ⟨drained, moved, acted⟩ := Option.map_eq_some_iff.mp acted
    obtain ⟨rfl, rfl⟩ := Prod.mk.inj acted
    simp only [drainStep] at moved
    obtain ⟨dispatcher, found, moved⟩ := Option.bind_eq_some_iff.mp moved
    obtain ⟨queue, ran, rfl⟩ := Option.map_eq_some_iff.mp moved
    have less := work_withDispatcher found (DeliveryLoop.work_drainStep ran)
    refine ⟨rfl, ?_⟩
    split
    · exact less
    · rw [work_send]
      exact less
  | move index move =>
    obtain ⟨channel, found, acted⟩ := Option.bind_eq_some_iff.mp acted
    obtain ⟨queue, ran, acted⟩ := Option.map_eq_some_iff.mp acted
    obtain ⟨rfl, rfl⟩ := Prod.mk.inj acted
    cases move with
    | runFunctor => exact ⟨rfl, work_withChannel found (ChannelLoop.work_runFunctor ran)⟩
    | proceed => exact ⟨rfl, work_withChannel found (ChannelLoop.work_proceed ran)⟩
    | _ => exact owned.elim
  | _ => exact owned.elim

end Cluster

/-- **A cluster that nothing comes to cannot go on forever.** -/
theorem own_wellFounded : WellFounded (clusterSystem.machine.Goes OwnTurn) :=
  ThreadSystem.goes_wellFounded Cluster.work fun _ _ _ _ => Cluster.work_environment

/-! ### Nobody waits for long -/

/-- What a call waits for: the mutex of its node's Redis client, or a drain. -/
def Cluster.Waits (cluster : Cluster) (job : Job) : {β : Type} → ServerCall β → Prop
  | _, .registry (.redis (.client .lock)) => ∃ owner, cluster.holder job.node = some owner
  | _, .dispatch index .drained => ∃ dispatcher : NodeDispatcher,
      cluster.dispatchers[index]? = some dispatcher ∧ dispatcher.queue.drains ≠ []
  | _, _ => False

/-- A call of a thread that keeps to its grip is answered at once, or waits. -/
theorem Cluster.waits_of_stuck {cluster : Cluster} {number : ℕ} {job : Job} {grip : Grip}
    {β : Type} {request : ServerCall β} (permits : grip.Permits request)
    (known : grip.Known job.node cluster) (stuck : exec number job request cluster = none) :
    cluster.Waits job request := by
  cases request with
  | registry call =>
    simp only [exec, Option.map_eq_none_iff] at stuck
    cases call with
    | redis call =>
      cases call with
      | client call =>
        cases call with
        | lock =>
          simp only [RegistryState.exec] at stuck
          split at stuck
          · cases stuck
          · -- the lock of the Redis client is taken by another thread
            rename_i owner held
            exact ⟨owner, held⟩
        | _ => cases stuck
      | command command => cases stuck
    | node call => cases stuck
  | service call => cases stuck
  | dispatch index call =>
    obtain ⟨loop, told⟩ := permits.known
    obtain ⟨dispatcher, found, -⟩ := known.dispatchers _ told
    simp only [exec, found, Option.map_eq_none_iff] at stuck
    cases call with
    | push task =>
      simp only [DeliveryLoop.exec, LocalLoopDispatcher.push] at stuck
      split at stuck <;> cases stuck
    | drained =>
      -- the thread waits for the drain that it runs in its own loop
      refine ⟨dispatcher, found, ?_⟩
      intro none
      simp [DeliveryLoop.exec, none] at stuck
    | _ => cases stuck
  | router call => cases stuck
  | channel index call =>
    have there := List.getElem?_eq_getElem (known.channels index permits.2)
    simp only [exec, there, Option.map_eq_none_iff] at stuck
    cases call with
    | send link message =>
      simp only [ChannelLoop.exec] at stuck
      split at stuck <;> cases stuck
    | warm =>
      simp only [ChannelLoop.exec] at stuck
      split at stuck <;> cases stuck
    | _ => cases stuck
  | database call => cases stuck

section Still

variable {clockMs : Int} {configs : ℕ → ServerConfig} {database : Database} {pool : ClusterPool}

theorem environment_of_still (still : clusterSystem.machine.Still OwnTurn pool)
    (event : ClusterEvent) (owned : event.IsOwn) :
    clusterSystem.environment event pool.state = none := by
  have stuck := still (.environment event) owned
  simp only [ThreadSystem.machine_step, ThreadSystem.turn, Option.map_eq_none_iff] at stuck
  exact stuck

theorem drains_of_still (still : clusterSystem.machine.Still OwnTurn pool) {index : ℕ}
    {dispatcher : NodeDispatcher} (found : pool.state.dispatchers[index]? = some dispatcher) :
    dispatcher.queue.drains = [] ∧ dispatcher.queue.queuedDrains = 0 := by
  constructor
  · have stuck := environment_of_still still (.drainStep index 0) trivial
    simp only [clusterSystem, Option.map_eq_none_iff, Cluster.drainStep, found,
      Option.bind_some] at stuck
    exact DeliveryLoop.drains_of_stuck stuck
  · have stuck := environment_of_still still (.runQueued index) trivial
    simp only [clusterSystem, found, Option.bind_some, Option.map_eq_none_iff] at stuck
    exact DeliveryLoop.queuedDrains_of_stuck stuck

theorem idle_of_still (still : clusterSystem.machine.Still OwnTurn pool) {channel : NodeChannel}
    (member : channel ∈ pool.state.channels) :
    channel.queue.activity = .idle ∧ channel.queue.functors = [] := by
  obtain ⟨index, found⟩ := List.mem_iff_getElem?.mp member
  have stuck : ∀ move, (ClusterEvent.move index move).IsOwn →
      channel.queue.move move = none := by
    intro move owned
    have stuck := environment_of_still still _ owned
    simp only [clusterSystem, found, Option.bind_some, Option.map_eq_none_iff] at stuck
    exact stuck
  have idle := ChannelLoop.idle_of_stuck (stuck .proceed trivial)
  exact ⟨idle, ChannelLoop.functors_of_stuck idle (stuck .runFunctor trivial)⟩

/-- A thread of a cluster that stands still has returned, or its next call waits. -/
theorem thread_of_still (reached : ClusterReach clockMs configs database pool)
    (still : clusterSystem.machine.Still OwnTurn pool) {number : ℕ}
    {thread : Thread ServerCall Job Unit} (found : pool.threads[number]? = some thread) :
    (thread.rest = .ret () ∧ thread.grip.Free) ∨
      ∃ (β : Type) (request : ServerCall β), thread.grip.Permits request ∧
        pool.state.Waits thread.tag request := by
  have member := List.mem_of_getElem? found
  have follows := grips_of_reach reached thread member
  cases program : thread.rest with
  | ret value =>
    rw [program] at follows
    exact .inl ⟨rfl, follows⟩
  | call request cont =>
    rw [program] at follows
    have stuck := still (.thread number) trivial
    simp only [ThreadSystem.machine_step, ThreadSystem.turn,
      ThreadSystem.callStep_call found program, Option.map_eq_none_iff] at stuck
    have known := (allKnown_of_reach reached).2 thread member
    exact .inr ⟨_, request, follows.1, Cluster.waits_of_stuck follows.1 known stuck⟩

/-- **Nobody has a mutex** where a cluster stands still: its owner would go on. -/
theorem holder_of_still (reached : ClusterReach clockMs configs database pool)
    (still : clusterSystem.machine.Still OwnTurn pool) (n : ℕ) : pool.state.holder n = none := by
  cases held : pool.state.holder n with
  | none => rfl
  | some owner =>
    exfalso
    obtain ⟨thread, found, -, holds⟩ := mutexHeld_of_reach reached n owner held
    rcases thread_of_still reached still found with ⟨-, free⟩ | ⟨β, request, permits, waits⟩
    · exact Bool.noConfusion (holds.symm.trans free.holds)
    · -- what waits may be called without the mutex only
      have unheld : thread.grip.holds = false := by
        cases request with
        | registry call =>
          cases call with
          | redis call =>
            cases call with
            | client call =>
              cases call with
              | lock => exact permits
              | _ => exact waits.elim
            | command command => exact waits.elim
          | node call => exact waits.elim
        | dispatch index call => exact permits.holds
        | _ => exact waits.elim
      exact Bool.noConfusion (holds.symm.trans unheld)

/-- **Every handler has returned** where a cluster stands still. -/
theorem returned_of_still (reached : ClusterReach clockMs configs database pool)
    (still : clusterSystem.machine.Still OwnTurn pool) :
    ∀ thread ∈ pool.threads, thread.rest = .ret () ∧ thread.grip.Free := by
  intro thread member
  obtain ⟨number, found⟩ := List.mem_iff_getElem?.mp member
  rcases thread_of_still reached still found with ended | ⟨β, request, -, waits⟩
  · exact ended
  · exfalso
    cases request with
    | registry call =>
      cases call with
      | redis call =>
        cases call with
        | client call =>
          cases call with
          | lock =>
            obtain ⟨owner, held⟩ := waits
            cases (holder_of_still reached still _).symm.trans held
          | _ => exact waits
        | command command => exact waits
      | node call => exact waits
    | dispatch index call =>
      cases call with
      | drained =>
        obtain ⟨dispatcher, found, atWork⟩ := waits
        exact atWork (drains_of_still still found).1
      | _ => exact waits
    | _ => exact waits

end Still

/-- Nothing is left to do: every handler has returned, nobody has the mutex of a Redis client, the
delivery queues are empty and what they have taken was passed to `send` in the same order, and the
loops of the channels are idle. -/
structure AtRest (pool : ClusterPool) : Prop where
  returned : ∀ thread ∈ pool.threads, thread.rest = .ret ()
  unlocked : ∀ n, pool.state.holder n = none
  empty : ∀ dispatcher ∈ pool.state.dispatchers, dispatcher.queue.dispatcher.pending = [] ∧
    dispatcher.queue.drains = [] ∧ dispatcher.queue.queuedDrains = 0
  passed : ∀ dispatcher ∈ pool.state.dispatchers, ∀ conn,
    (dispatcher.takenFor conn).Sublist (pool.state.passedTo conn)
  idle : ∀ channel ∈ pool.state.channels, channel.queue.activity = .idle ∧
    channel.queue.functors = []

section Rest

variable {clockMs : Int} {configs : ℕ → ServerConfig} {database : Database} {pool : ClusterPool}

/-- **A cluster that stands still is at rest.** -/
theorem atRest_of_still (reached : ClusterReach clockMs configs database pool)
    (still : clusterSystem.machine.Still OwnTurn pool) : AtRest pool := by
  have returned := returned_of_still reached still
  have empty : ∀ (index : ℕ) (dispatcher : NodeDispatcher),
      pool.state.dispatchers[index]? = some dispatcher →
        dispatcher.queue.dispatcher.pending = [] := by
    intro index dispatcher found
    have flow := inOrder_of_reach reached index dispatcher found
    obtain ⟨none, unqueued⟩ := drains_of_still still found
    -- a thread that has returned is not about to start a drain
    have unstarted : pool.starters index = 0 := by
      apply List.countP_eq_zero.mpr
      intro thread member starting
      have free := (returned thread member).2.starting
      rw [free] at starting
      cases of_decide_eq_true starting
    have single := flow.single
    rw [unstarted, unqueued, none] at single
    by_contra waiting
    rw [flow.scheduled waiting] at single
    cases single
  constructor
  · exact fun thread member => (returned thread member).1
  · exact holder_of_still reached still
  · intro dispatcher member
    obtain ⟨index, found⟩ := List.mem_iff_getElem?.mp member
    exact ⟨empty index dispatcher found, drains_of_still still found⟩
  · intro dispatcher member conn
    obtain ⟨index, found⟩ := List.mem_iff_getElem?.mp member
    have flow := inOrder_of_reach reached index dispatcher found
    have nothing : dispatcher.waitingFor conn = [] := by
      rw [NodeDispatcher.waitingFor, empty index dispatcher found, (drains_of_still still found).1]
      rfl
    rw [NodeDispatcher.takenFor_eq flow conn, nothing, List.append_nil]
    exact (inPlace_of_reach reached).passed index dispatcher found conn
  · exact fun channel member => idle_of_still still member

/-- **The cluster comes to rest** whenever nothing comes to it from outside. From whatever a run has
come to, its handlers and loops cannot go on forever by themselves; whichever of them goes on, and
in whatever order, where none can go on any more the cluster is at rest; and it can be brought
there. -/
theorem comes_to_rest (reached : ClusterReach clockMs configs database pool) :
    (¬∃ pools : ℕ → ClusterPool, pools 0 = pool ∧
      ∀ count, clusterSystem.machine.Goes OwnTurn (pools (count + 1)) (pools count)) ∧
    (∀ last, clusterSystem.machine.Reach (fun _ turn => OwnTurn turn) pool last →
      clusterSystem.machine.Still OwnTurn last → AtRest last) ∧
    ∃ last, clusterSystem.machine.Reach (fun _ turn => OwnTurn turn) pool last ∧ AtRest last := by
  have rests : ∀ last, clusterSystem.machine.Reach (fun _ turn => OwnTurn turn) pool last →
      clusterSystem.machine.Still OwnTurn last → AtRest last := by
    intro last goesOn still
    have here : ClusterReach clockMs configs database last :=
      goesOn.invariant (ClusterReach clockMs configs database) reached
        fun before _ moved => before.step trivial moved
    exact atRest_of_still here still
  refine ⟨?_, rests, ?_⟩
  · rintro ⟨pools, -, goes⟩
    have : IsWellFounded ClusterPool (clusterSystem.machine.Goes OwnTurn) := ⟨own_wellFounded⟩
    obtain ⟨count, stops⟩ := WellFounded.not_rel_apply_succ
      (r := clusterSystem.machine.Goes OwnTurn) pools
    exact stops (goes count)
  · obtain ⟨last, goesOn, still⟩ := Machine.exists_still own_wellFounded pool
    exact ⟨last, goesOn, rests last goesOn still⟩

end Rest

/-- A handler of a message has put it into the queue, and is about to start the drain. -/
theorem comes_to_rest_message :
    ∃ pool last, ClusterReach 0 (twoServers 4) twoUsers pool ∧ ¬AtRest pool ∧ AtRest last ∧
      clusterSystem.machine.Reach (fun _ turn => OwnTurn turn) pool last := by
  have ran : ((clusterSystem.machine.run (startPool 0 (twoServers 4) twoUsers)
      (nodeAndLogin ++ ThreadSystem.handling 2 3 (.request 1 (.oneChat 7 [])))).any fun pool =>
        pool.state.dispatchers.any fun dispatcher =>
          !dispatcher.queue.dispatcher.pending.isEmpty) = true := by
    decide +kernel
  obtain ⟨pool, ran, waits⟩ := (Option.any_eq_true _ _).mp ran
  obtain ⟨dispatcher, member, waits⟩ := List.any_eq_true.mp waits
  have reached := ClusterReach.of_run ran
  obtain ⟨-, -, last, goesOn, rests⟩ := comes_to_rest reached
  refine ⟨pool, last, reached, ?_, rests, goesOn⟩
  intro already
  rw [(already.empty dispatcher member).1] at waits
  cases waits

end ClusterChat
