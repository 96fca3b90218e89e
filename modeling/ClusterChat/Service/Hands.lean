/-
# What threads have and know, over whole runs

In every run, whoever has the mutex of a node's Redis client is a thread of that node that knows it,
and threads know only queues and channels that exist. A call uses one delivery queue, makes one for
a loop of its node that has none, or leaves the queues alone; what happens besides the calls of
handlers keeps each queue in its order.
-/

import ClusterChat.Service.Grip
import ClusterChat.Service.Record

namespace ClusterChat

/-- What a thread has in its hands, by its log. -/
def Thread.grip (thread : Thread ServerCall Job Unit) : Grip :=
  Calls.ghostAfter Grip.after thread.tag.handler.grip thread.log

@[simp] theorem Thread.answered_grip (thread : Thread ServerCall Job Unit) {β : Type}
    (request : ServerCall β) (next : β → Calls ServerCall Unit) (answer : β) :
    (thread.answered request next answer).grip = thread.grip.after ⟨request, answer⟩ := rfl

@[simp] theorem Thread.start_grip (job : Job × Calls ServerCall Unit) :
    (Thread.start job).grip = job.1.handler.grip := rfl

variable {clockMs : Int} {configs : ℕ → ServerConfig} {database : Database}
  {pool next : ClusterPool}

/-- **Every thread is tidy**, whatever it is answered from here on. -/
theorem grips_of_reach (reached : ClusterReach clockMs configs database pool) :
    ∀ thread ∈ pool.threads,
      thread.rest.Follows Grip.after Grip.Permits (fun grip _ => grip.Free) thread.grip := by
  refine ThreadSystem.reach_follows
    (fun job log => Calls.ghostAfter Grip.after job.handler.grip log) Grip.after Grip.Permits
    (fun grip _ => grip.Free) ?_ ?_ ?_ reached
  · intro job event log
    rfl
  · exact List.forall_mem_nil _
  · intro event cluster after jobs acted job listed
    obtain ⟨n, loop, handler, rfl⟩ := (Cluster.environment_writes acted).2.2.2.2 job listed
    exact program_tidy cluster n handler

/-! ### The mutex of the Redis client -/

/-- Who has the mutex after a call of the registry. -/
def RegistryState.holderAfter (state : RegistryState) (number : ℕ) :
    {β : Type} → RegistryCall β → Option ℕ
  | _, .redis (.client .lock) => some number
  | _, .redis (.client .unlock) => none
  | _, _ => state.node.commandHolder

theorem RegistryState.exec_holder {number : ℕ} {β : Type} {call : RegistryCall β}
    {state after : RegistryState} {answer : β}
    (ran : exec number call state = some (answer, after)) :
    after.node.commandHolder = state.holderAfter number call := by
  cases call with
  | redis call =>
    cases call with
    | client call =>
      cases call with
      | lock =>
        simp only [exec] at ran
        split at ran
        · obtain ⟨-, rfl⟩ := Prod.mk.inj (Option.some.inj ran)
          rfl
        · cases ran
      | unlock =>
        obtain ⟨-, rfl⟩ := Prod.mk.inj (Option.some.inj ran)
        rfl
      | time =>
        obtain ⟨-, rfl⟩ := Prod.mk.inj (Option.some.inj ran)
        rfl
    | command command =>
      obtain ⟨-, rfl⟩ := Prod.mk.inj (Option.some.inj ran)
      rfl
  | node call =>
    obtain ⟨-, rfl⟩ := Prod.mk.inj (Option.some.inj ran)
    cases call with
    | getCachedUserNode userId =>
      dsimp only [RegistryNode.exec]
      split <;> rfl
    | getCachedNode nodeId =>
      dsimp only [RegistryNode.exec]
      split <;> rfl
    | _ => rfl

namespace Cluster

/-- The thread that has the mutex of a node's Redis client. -/
def holder (cluster : Cluster) (n : ℕ) : Option ℕ := (cluster.nodes n).registry.commandHolder

/-- Who has the mutexes after a call. -/
def holderAfter (cluster : Cluster) (number : ℕ) (job : Job) :
    {β : Type} → ServerCall β → ℕ → Option ℕ
  | _, .registry call =>
    Function.update cluster.holder job.node ((cluster.view job.node).holderAfter number call)
  | _, _ => cluster.holder

variable {cluster after : Cluster} {number : ℕ} {job : Job} {β : Type} {call : ServerCall β}
  {answer : β}

theorem SameStores.holder (same : cluster.SameStores after) : after.holder = cluster.holder := by
  funext n
  exact congrArg _ (same.registry n)

/-- **A call** takes the mutex of its node, lets go of it, or leaves it where it is. -/
theorem exec_holder (ran : exec number job call cluster = some (answer, after)) :
    after.holder = cluster.holderAfter number job call := by
  cases call with
  | registry call =>
    simp only [exec] at ran
    obtain ⟨⟨value, state⟩, acted, ran⟩ := Option.map_eq_some_iff.mp ran
    obtain ⟨-, rfl⟩ := Prod.mk.inj ran
    have taken : state.node.commandHolder = (cluster.view job.node).holderAfter number call :=
      RegistryState.exec_holder acted
    funext n
    by_cases same : n = job.node
    · subst same
      simp [holder, holderAfter, putRegistry, withNode, taken]
    · simp [holder, holderAfter, putRegistry, withNode, same]
  | service call =>
    obtain ⟨-, rfl⟩ := Prod.mk.inj (Option.some.inj ran)
    exact (execService_same call).holder
  | dispatch index call =>
    simp only [exec] at ran
    split at ran
    · cases ran
    · obtain ⟨⟨value, queue⟩, -, ran⟩ := Option.map_eq_some_iff.mp ran
      obtain ⟨-, rfl⟩ := Prod.mk.inj ran
      rfl
  | router call =>
    obtain ⟨-, rfl⟩ := Prod.mk.inj (Option.some.inj ran)
    exact (execRouter_same call).1.holder
  | channel index call =>
    simp only [exec] at ran
    split at ran
    · cases ran
    · obtain ⟨⟨value, queue⟩, -, ran⟩ := Option.map_eq_some_iff.mp ran
      obtain ⟨-, rfl⟩ := Prod.mk.inj ran
      rfl
  | database call =>
    obtain ⟨-, rfl⟩ := Prod.mk.inj (Option.some.inj ran)
    rfl

/-- Whoever has a mutex after a call has just taken it, or had it and has not let go of it. -/
theorem holderAfter_cases {n other : ℕ} (held : cluster.holderAfter number job call n = some other)
    (answer : β) :
    (n = job.node ∧ other = number ∧ ∀ holds, call.holdsAfter holds answer = true) ∨
      cluster.holder n = some other ∧
        (n = job.node → ∀ holds, call.holdsAfter holds answer = holds) := by
  cases call with
  | registry call =>
    by_cases same : n = job.node
    · subst same
      rw [holderAfter, Function.update_self] at held
      cases call with
      | redis call =>
        cases call with
        | client call =>
          cases call with
          | lock => exact .inl ⟨rfl, (Option.some.inj held).symm, fun _ => rfl⟩
          | unlock => cases held
          | time => exact .inr ⟨held, fun _ _ => rfl⟩
        | command command => exact .inr ⟨held, fun _ _ => rfl⟩
      | node call => exact .inr ⟨held, fun _ _ => rfl⟩
    · rw [holderAfter, Function.update_of_ne same] at held
      exact .inr ⟨held, fun here => absurd here same⟩
  | _ => exact .inr ⟨held, fun _ _ => rfl⟩

end Cluster

/-- Whoever has the mutex of a node's Redis client is a thread of the node, and knows it. -/
def MutexHeld (pool : ClusterPool) : Prop :=
  ∀ n number, pool.state.holder n = some number → ∃ thread, pool.threads[number]? = some thread ∧
    thread.tag.node = n ∧ thread.grip.holds = true

/-- **The mutex over a call.** -/
theorem MutexHeld.call (before : MutexHeld pool) {number : ℕ} {thread : Thread ServerCall Job Unit}
    {β : Type} {request : ServerCall β} {cont : β → Calls ServerCall Unit} {answer : β}
    (found : pool.threads[number]? = some thread)
    (ran : Cluster.exec number thread.tag request pool.state = some (answer, next.state))
    (threads : next.threads = pool.threads.set number (thread.answered request cont answer)) :
    MutexHeld next := by
  intro n other held
  rw [Cluster.exec_holder ran] at held
  have moved : next.threads[number]? = some (thread.answered request cont answer) := by
    rw [threads]
    exact List.getElem?_set_self (List.getElem?_eq_some_iff.mp found).1
  rcases Cluster.holderAfter_cases held answer with ⟨rfl, rfl, taken⟩ | ⟨held, kept⟩
  · exact ⟨_, moved, rfl, taken _⟩
  · obtain ⟨owner, there, place, holds⟩ := before n other held
    by_cases same : number = other
    · subst same
      obtain rfl := Option.some.inj (there.symm.trans found)
      refine ⟨_, moved, place, ?_⟩
      rw [← holds]
      exact kept place.symm _
    · refine ⟨owner, ?_, place, holds⟩
      rw [threads, List.getElem?_set_ne same]
      exact there

/-! ### Queues and channels that exist -/

/-- The channel that a call puts into a map. -/
def RouterCall.published : {β : Type} → RouterCall β → List ℕ
  | _, .publishChannel _ channel => [channel]
  | _, _ => []

namespace Cluster

variable {cluster after : Cluster} {number : ℕ} {job : Job} {β : Type} {call : ServerCall β}
  {answer : β}

/-- The maps of the routers lead to channels that exist. -/
def MapsLead (cluster : Cluster) : Prop :=
  ∀ n, ∀ entry ∈ (cluster.nodes n).connMap, entry.2 < cluster.channels.length

/-- A delivery queue of a loop of a node. -/
def QueueAt (cluster : Cluster) (n loop index : ℕ) : Prop :=
  ∃ dispatcher : NodeDispatcher, cluster.dispatchers[index]? = some dispatcher ∧
    dispatcher.node = n ∧ dispatcher.loop = loop

/-- The delivery queues stay what they were. -/
def KeepsQueues (cluster after : Cluster) : Prop :=
  ∀ n loop index, cluster.QueueAt n loop index → after.QueueAt n loop index

/-- Queues and channels stay, those that a thread of a node is told of exist, and so do those that
the maps of the routers lead to. -/
structure Tells (cluster after : Cluster) (n : ℕ) (dispatchers : List (ℕ × ℕ)) (channels : List ℕ) :
    Prop where
  queues : cluster.KeepsQueues after
  moreChannels : cluster.channels.length ≤ after.channels.length
  dispatchers : ∀ told ∈ dispatchers, after.QueueAt n told.1 told.2
  channels : ∀ index ∈ channels, index < after.channels.length
  mapped : after.MapsLead

theorem KeepsQueues.of_eq (same : after.dispatchers = cluster.dispatchers) :
    cluster.KeepsQueues after := by
  intro n loop index there
  rw [QueueAt, same]
  exact there

theorem KeepsQueues.withDispatcher {index : ℕ} {dispatcher : NodeDispatcher}
    (found : cluster.dispatchers[index]? = some dispatcher)
      (queue : DeliveryLoop LocalDeliveryTask) :
    cluster.KeepsQueues (cluster.withDispatcher index { dispatcher with queue := queue }) := by
  rintro n loop other ⟨old, here, node, place⟩
  by_cases same : index = other
  · subst same
    obtain rfl := Option.some.inj (here.symm.trans found)
    refine ⟨{ old with queue := queue }, ?_, node, place⟩
    exact List.getElem?_set_self (List.getElem?_eq_some_iff.mp found).1
  · refine ⟨old, ?_, node, place⟩
    rw [Cluster.withDispatcher, List.getElem?_set_ne same]
    exact here

/-- The caller is told of nothing new. -/
theorem Tells.still {n : ℕ} (mapped : cluster.MapsLead) (queues : cluster.KeepsQueues after)
    (channels : after.channels.length = cluster.channels.length)
    (connMap : ∀ n, (after.nodes n).connMap = (cluster.nodes n).connMap) :
    cluster.Tells after n [] [] where
  queues := queues
  moreChannels := channels.ge
  dispatchers := List.forall_mem_nil _
  channels := List.forall_mem_nil _
  mapped n entry listed := by
    rw [connMap n] at listed
    rw [channels]
    exact mapped n entry listed

theorem withNode_connMap (n : ℕ) {node : ServerNode}
    (same : node.connMap = (cluster.nodes n).connMap) (m : ℕ) :
    ((cluster.withNode n node).nodes m).connMap = (cluster.nodes m).connMap := by
  by_cases here : m = n
  · subst here
    simpa [withNode] using same
  · simp [withNode, here]

/-- A node whose map leads to channels that exist. -/
theorem MapsLead.withNode (mapped : cluster.MapsLead) (n : ℕ) {node : ServerNode}
    (leads : ∀ entry ∈ node.connMap, entry.2 < cluster.channels.length) :
    (cluster.withNode n node).MapsLead := by
  intro m entry listed
  by_cases here : m = n
  · subst here
    simp only [Cluster.withNode, Function.update_self] at listed
    exact leads entry listed
  · simp only [Cluster.withNode, Function.update_of_ne here] at listed
    exact mapped m entry listed

theorem execService_tells (mapped : cluster.MapsLead) (call : ServiceCall β) :
    cluster.Tells (cluster.execService number job call).2 job.node
      ((ServerCall.service call).dispatchersTold (cluster.execService number job call).1) [] := by
  have table : ∀ {node : ServerNode}, node.connMap = (cluster.nodes job.node).connMap →
      cluster.Tells (cluster.withNode job.node node) job.node [] [] :=
    fun same => .still mapped (.of_eq rfl) rfl (withNode_connMap job.node same)
  cases call with
  | addLocalConnection userId conn => exact table rfl
  | removeLocalConnection userId => exact table rfl
  | removeFromBucket bucket conn =>
    simp only [execService]
    split
    · exact .still mapped (.of_eq rfl) rfl fun _ => rfl
    · exact table rfl
  | getOrCreateLocalDispatcher loop =>
    simp only [execService]
    split
    · rename_i index found
      obtain ⟨bound, fits, -⟩ := List.findIdx?_eq_some_iff_getElem.mp found
      obtain ⟨node, place⟩ := of_decide_eq_true fits
      refine ⟨.of_eq rfl, le_rfl, List.forall_mem_singleton.mpr ?_, List.forall_mem_nil _, mapped⟩
      exact ⟨_, List.getElem?_eq_getElem bound, node, place⟩
    · refine ⟨?_, le_rfl, List.forall_mem_singleton.mpr ?_, List.forall_mem_nil _, mapped⟩
      · rintro n place index ⟨old, here, rest⟩
        refine ⟨old, ?_, rest⟩
        exact (List.getElem?_append_left (List.getElem?_eq_some_iff.mp here).1).trans here
      · exact ⟨_, List.getElem?_concat_length, rfl, rfl⟩
  | send conn outgoing =>
    simp only [execService, send]
    split <;> exact .still mapped (.of_eq rfl) rfl fun _ => rfl
  | _ => exact .still mapped (.of_eq rfl) rfl fun _ => rfl

theorem execRouter_tells (mapped : cluster.MapsLead) (call : RouterCall β)
    (known : ∀ index ∈ call.published, index < cluster.channels.length) :
    cluster.Tells (cluster.execRouter job call).2 job.node []
      ((ServerCall.router call).channelsTold (cluster.execRouter job call).1) := by
  have told : ∀ {channelKey channel},
      (cluster.nodes job.node).connMap.lookup channelKey = some channel →
        channel < cluster.channels.length := by
    intro channelKey channel found
    obtain ⟨before, behind, whole, -⟩ := List.lookup_eq_some_iff.mp found
    apply mapped job.node (channelKey, channel)
    rw [whole]
    exact List.mem_append_right _ List.mem_cons_self
  have one : ∀ {channel}, channel < cluster.channels.length →
      ∀ index ∈ [channel], index < cluster.channels.length :=
    fun bound => List.forall_mem_singleton.mpr bound
  cases call with
  | warm nodeId instanceId =>
    simp only [execRouter]
    split
    · exact .still mapped (.of_eq rfl) rfl fun _ => rfl
    · exact .still mapped (.of_eq rfl) rfl (withNode_connMap job.node rfl)
  | findChannel channelKey interIp interPort =>
    simp only [execRouter]
    split
    · exact .still mapped (.of_eq rfl) rfl fun _ => rfl
    · rename_i channel found
      split
      · exact .still mapped (.of_eq rfl) rfl fun _ => rfl
      · split
        · exact ⟨.of_eq rfl, le_rfl, List.forall_mem_nil _, one (told found), mapped⟩
        · refine ⟨.of_eq rfl, le_rfl, List.forall_mem_nil _, one (told found), ?_⟩
          apply mapped.withNode
          exact fun entry listed => mapped job.node entry (List.mem_of_mem_filter listed)
  | createChannel nodeMeta =>
    refine ⟨.of_eq rfl, ?_, List.forall_mem_nil _, ?_, ?_⟩
    · simp [execRouter]
    · intro index listed
      obtain rfl := List.mem_singleton.mp listed
      simp [execRouter]
    · intro n entry listed
      have bound := mapped n entry listed
      simp only [execRouter, List.length_append, List.length_singleton]
      omega
  | publishChannel channelKey channel =>
    simp only [execRouter]
    split
    · rename_i other found
      exact ⟨.of_eq rfl, le_rfl, List.forall_mem_nil _, one (told found), mapped⟩
    · refine ⟨.of_eq rfl, le_rfl, List.forall_mem_nil _, List.forall_mem_nil _, ?_⟩
      apply mapped.withNode
      exact List.forall_mem_cons.mpr ⟨known channel List.mem_cons_self, mapped job.node⟩
  | takeChannels =>
    refine ⟨.of_eq rfl, le_rfl, List.forall_mem_nil _, ?_, ?_⟩
    · intro index listed
      obtain ⟨entry, there, rfl⟩ := List.mem_map.mp listed
      exact mapped job.node entry there
    · exact mapped.withNode job.node (List.forall_mem_nil _)

/-- **What a call tells of exists**, where the caller publishes only channels that exist. -/
theorem exec_tells (mapped : cluster.MapsLead) {grip : Grip} (permits : grip.Permits call)
    (known : ∀ index ∈ grip.channels, index < cluster.channels.length)
    (ran : exec number job call cluster = some (answer, after)) :
    cluster.Tells after job.node (call.dispatchersTold answer) (call.channelsTold answer) := by
  cases call with
  | registry call =>
    simp only [exec] at ran
    obtain ⟨⟨value, state⟩, -, ran⟩ := Option.map_eq_some_iff.mp ran
    obtain ⟨-, rfl⟩ := Prod.mk.inj ran
    exact .still mapped (.of_eq rfl) rfl (withNode_connMap job.node rfl)
  | service call =>
    obtain ⟨rfl, rfl⟩ := Prod.mk.inj (Option.some.inj ran)
    exact execService_tells mapped call
  | dispatch index call =>
    simp only [exec] at ran
    split at ran
    · cases ran
    · rename_i dispatcher found
      obtain ⟨⟨value, queue⟩, -, ran⟩ := Option.map_eq_some_iff.mp ran
      obtain ⟨-, rfl⟩ := Prod.mk.inj ran
      exact .still mapped (.withDispatcher found queue) rfl fun _ => rfl
  | router call =>
    obtain ⟨rfl, rfl⟩ := Prod.mk.inj (Option.some.inj ran)
    apply execRouter_tells mapped call
    intro index named
    cases call with
    | publishChannel channelKey channel =>
      obtain rfl := List.mem_singleton.mp named
      exact known index permits.2
    | _ => cases named
  | channel index call =>
    simp only [exec] at ran
    split at ran
    · cases ran
    · obtain ⟨⟨value, queue⟩, -, ran⟩ := Option.map_eq_some_iff.mp ran
      obtain ⟨-, rfl⟩ := Prod.mk.inj ran
      exact .still mapped (.of_eq rfl) List.length_set fun _ => rfl
  | database call =>
    obtain ⟨-, rfl⟩ := Prod.mk.inj (Option.some.inj ran)
    exact .still mapped (.of_eq rfl) rfl fun _ => rfl

/-! ### What a call makes of a queue -/

/-- What a call makes of one delivery queue: it uses the queue, leaves it alone, or makes it for a
loop of a node that has none. -/
inductive QueueStep (cluster : Cluster) (number index : ℕ) (call : ServerCall β) (answer : β)
    (dispatcher : NodeDispatcher) : Prop
  | used (request : DispatchCall LocalDeliveryTask β) (inLoop : Bool) (old : NodeDispatcher)
      (uses : call = .dispatch index request) (there : cluster.dispatchers[index]? = some old)
      (ran : old.queue.exec number inLoop request = some (answer, dispatcher.queue))
      (node : dispatcher.node = old.node) (loop : dispatcher.loop = old.loop)
  | left (apart : ∀ request, call ≠ .dispatch index request)
      (there : cluster.dispatchers[index]? = some dispatcher)
  | made (apart : ∀ request, call ≠ .dispatch index request)
      (last : index = cluster.dispatchers.length) (limit : ℕ)
      (queue : dispatcher.queue = .create limit)
      (first : ∀ other, ¬cluster.QueueAt dispatcher.node dispatcher.loop other)

theorem execService_queue {call : ServiceCall β} {index : ℕ} {dispatcher : NodeDispatcher}
    (found : (cluster.execService number job call).2.dispatchers[index]? = some dispatcher) :
    cluster.QueueStep number index (.service call) (cluster.execService number job call).1
      dispatcher := by
  have apart : ∀ request, ServerCall.service call ≠ .dispatch index request := by
    intro request same
    cases same
  cases call with
  | getOrCreateLocalDispatcher loop =>
    simp only [execService] at found ⊢
    split at found
    · exact .left apart found
    · rename_i none
      rw [List.findIdx?_eq_none_iff] at none
      rcases Nat.lt_trichotomy index cluster.dispatchers.length with old | rfl | beyond
      · rw [List.getElem?_append_left old] at found
        exact .left apart found
      · rw [List.getElem?_concat_length] at found
        obtain rfl := Option.some.inj found
        refine .made apart rfl _ rfl ?_
        rintro other ⟨known, here, node, place⟩
        have differs := none known (List.mem_of_getElem? here)
        exact of_decide_eq_false differs ⟨node, place⟩
      · rw [List.getElem?_eq_none] at found
        · cases found
        · rw [List.length_append, List.length_singleton]
          exact beyond
  | removeFromBucket bucket conn =>
    simp only [execService] at found
    split at found <;> exact .left apart found
  | send conn outgoing =>
    simp only [execService, send] at found
    split at found <;> exact .left apart found
  | _ => exact .left apart found

theorem execRouter_dispatchers (call : RouterCall β) :
    (cluster.execRouter job call).2.dispatchers = cluster.dispatchers := by
  cases call with
  | warm nodeId instanceId =>
    simp only [execRouter]
    split <;> rfl
  | findChannel channelKey interIp interPort =>
    simp only [execRouter]
    split
    · rfl
    · split
      · rfl
      · split <;> rfl
  | publishChannel channelKey channel =>
    simp only [execRouter]
    split <;> rfl
  | _ => rfl

/-- **A call and a queue.** -/
theorem exec_queue (ran : exec number job call cluster = some (answer, after)) {index : ℕ}
    {dispatcher : NodeDispatcher} (found : after.dispatchers[index]? = some dispatcher) :
    cluster.QueueStep number index call answer dispatcher := by
  cases call with
  | registry call =>
    simp only [exec] at ran
    obtain ⟨⟨value, state⟩, -, ran⟩ := Option.map_eq_some_iff.mp ran
    obtain ⟨-, rfl⟩ := Prod.mk.inj ran
    refine .left ?_ found
    intro request same
    cases same
  | service call =>
    obtain ⟨rfl, rfl⟩ := Prod.mk.inj (Option.some.inj ran)
    exact execService_queue found
  | dispatch used call =>
    simp only [exec] at ran
    split at ran
    · cases ran
    · rename_i old there
      obtain ⟨⟨value, queue⟩, acted, ran⟩ := Option.map_eq_some_iff.mp ran
      obtain ⟨rfl, rfl⟩ := Prod.mk.inj ran
      rcases ThreadSystem.getElem?_set_cases found with ⟨rfl, rfl⟩ | ⟨differ, here⟩
      · exact .used call _ old rfl there acted rfl rfl
      · refine .left ?_ here
        intro request same
        cases same
        exact differ rfl
  | router call =>
    obtain ⟨-, rfl⟩ := Prod.mk.inj (Option.some.inj ran)
    have kept : (cluster.execRouter job call).2.dispatchers = cluster.dispatchers :=
      execRouter_dispatchers call
    apply QueueStep.left
    · intro request same
      cases same
    · rw [← kept]
      exact found
  | channel used call =>
    simp only [exec] at ran
    split at ran
    · cases ran
    · obtain ⟨⟨value, queue⟩, -, ran⟩ := Option.map_eq_some_iff.mp ran
      obtain ⟨-, rfl⟩ := Prod.mk.inj ran
      refine .left ?_ found
      intro request same
      cases same
  | database call =>
    obtain ⟨-, rfl⟩ := Prod.mk.inj (Option.some.inj ran)
    refine .left ?_ found
    intro request same
    cases same

/-! ### Events -/

/-- An event leaves the mutexes and the channels where they are, and the queues in the order in
which they were, with what they have taken; a task may have been sent. -/
structure Steady (cluster after : Cluster) (task : Option LocalDeliveryTask) : Prop where
  holder : after.holder = cluster.holder
  tells : ∀ n, cluster.MapsLead → cluster.Tells after n [] []
  queues : ∀ (index : ℕ) (dispatcher : NodeDispatcher),
    after.dispatchers[index]? = some dispatcher →
    ∃ old : NodeDispatcher, cluster.dispatchers[index]? = some old ∧ dispatcher.node = old.node ∧
      dispatcher.loop = old.loop ∧ dispatcher.queue.accepted = old.queue.accepted ∧
      (dispatcher.queue.sent = old.queue.sent ∨
        dispatcher.queue.sent = old.queue.sent ++ task.toList) ∧
      ∀ starting, old.queue.InFlow starting → dispatcher.queue.InFlow starting

variable {task : Option LocalDeliveryTask}

theorem Steady.of_eq (nodes : after.nodes = cluster.nodes)
    (dispatchers : after.dispatchers = cluster.dispatchers)
    (channels : after.channels.length = cluster.channels.length) : cluster.Steady after task where
  holder := by
    funext n
    rw [Cluster.holder, Cluster.holder, nodes]
  tells n mapped := .still mapped (.of_eq dispatchers) channels fun m => by rw [nodes]
  queues index dispatcher found := by
    rw [dispatchers] at found
    exact ⟨dispatcher, found, rfl, rfl, rfl, .inl rfl, fun _ flow => flow⟩

/-- A queue that has gone on in its order. -/
theorem Steady.withDispatcher {index : ℕ} {dispatcher : NodeDispatcher}
    (found : cluster.dispatchers[index]? = some dispatcher) {queue : DeliveryLoop LocalDeliveryTask}
    (accepted : queue.accepted = dispatcher.queue.accepted)
    (sent : queue.sent = dispatcher.queue.sent ++ task.toList)
    (kept : ∀ starting, dispatcher.queue.InFlow starting → queue.InFlow starting) :
    cluster.Steady (cluster.withDispatcher index { dispatcher with queue := queue }) task where
  holder := rfl
  tells n mapped := .still mapped (.withDispatcher found queue) rfl fun _ => rfl
  queues other now here := by
    rcases ThreadSystem.getElem?_set_cases here with ⟨rfl, rfl⟩ | ⟨-, here⟩
    · exact ⟨dispatcher, found, rfl, rfl, accepted, .inr sent, kept⟩
    · exact ⟨now, here, rfl, rfl, rfl, .inl rfl, fun _ flow => flow⟩

/-- What is sent after a step of a drain changes no queue. -/
theorem Steady.send (steady : cluster.Steady after task) (conn : Connection) (outgoing : Outgoing) :
    cluster.Steady (after.send conn outgoing) task := by
  have nodes : (after.send conn outgoing).nodes = after.nodes := by
    rw [Cluster.send]
    split <;> rfl
  have dispatchers : (after.send conn outgoing).dispatchers = after.dispatchers := by
    rw [Cluster.send]
    split <;> rfl
  have channels : (after.send conn outgoing).channels = after.channels := by
    rw [Cluster.send]
    split <;> rfl
  constructor
  · funext n
    rw [← steady.holder, Cluster.holder, Cluster.holder, nodes]
  · intro n mapped
    have before := steady.tells n mapped
    refine ⟨?_, ?_, List.forall_mem_nil _, List.forall_mem_nil _, ?_⟩
    · intro m loop index there
      rw [QueueAt, dispatchers]
      exact before.queues m loop index there
    · rw [channels]
      exact before.moreChannels
    · rw [MapsLead, nodes, channels]
      exact before.mapped
  · rw [dispatchers]
    exact steady.queues

/-- **An event** keeps the queues in order. -/
theorem environment_steady {event : ClusterEvent} {jobs : List (Job × Calls ServerCall Unit)}
    (acted : clusterSystem.environment event cluster = some (after, jobs)) :
    cluster.Steady after (cluster.drained event) := by
  cases event with
  | disconnect id =>
    simp only [clusterSystem] at acted
    split at acted
    · cases acted
    · split at acted
      · obtain ⟨rfl, rfl⟩ := Prod.mk.inj (Option.some.inj acted)
        exact .of_eq rfl rfl rfl
      · cases acted
  | request id request =>
    simp only [clusterSystem] at acted
    split at acted
    · cases acted
    · obtain ⟨rfl, rfl⟩ := Prod.mk.inj (Option.some.inj acted)
      exact .of_eq rfl rfl rfl
  | receive index n loop =>
    obtain ⟨⟨frame, received⟩, taken, acted⟩ := Option.map_eq_some_iff.mp acted
    obtain ⟨rfl, rfl⟩ := Prod.mk.inj acted
    obtain ⟨channel, -, taken⟩ := Option.bind_eq_some_iff.mp taken
    dsimp only at taken
    split at taken
    · obtain ⟨⟨_, queue⟩, -, taken⟩ := Option.map_eq_some_iff.mp taken
      obtain ⟨-, rfl⟩ := Prod.mk.inj taken
      exact .of_eq rfl rfl List.length_set
    · cases taken
  | move index move =>
    obtain ⟨channel, -, acted⟩ := Option.bind_eq_some_iff.mp acted
    obtain ⟨queue, -, acted⟩ := Option.map_eq_some_iff.mp acted
    obtain ⟨rfl, rfl⟩ := Prod.mk.inj acted
    exact .of_eq rfl rfl List.length_set
  | runQueued index =>
    obtain ⟨dispatcher, found, acted⟩ := Option.bind_eq_some_iff.mp acted
    obtain ⟨queue, ran, acted⟩ := Option.map_eq_some_iff.mp acted
    obtain ⟨rfl, rfl⟩ := Prod.mk.inj acted
    -- the drain takes over the whole queue, in its order
    have kept := DeliveryLoop.kept_runQueued ran
    apply Steady.withDispatcher found kept.1
    · exact kept.2.trans (List.append_nil _).symm
    · exact fun _ flow => flow.runQueued ran
  | drainStep index drain =>
    obtain ⟨drained, moved, acted⟩ := Option.map_eq_some_iff.mp acted
    obtain ⟨rfl, rfl⟩ := Prod.mk.inj acted
    simp only [drainStep] at moved
    obtain ⟨dispatcher, found, moved⟩ := Option.bind_eq_some_iff.mp moved
    obtain ⟨queue, ran, rfl⟩ := Option.map_eq_some_iff.mp moved
    have kept := DeliveryLoop.kept_drainStep ran
    -- what is sent next is the first of what the drain holds
    have goesOn : cluster.Steady (cluster.withDispatcher index { dispatcher with queue := queue })
        (cluster.drained (.drainStep index drain)) := by
      apply Steady.withDispatcher found kept.1
      · rw [drained, found, Option.bind_some]
        exact kept.2
      · exact fun _ flow => flow.drainStep ran
    split
    · exact goesOn
    · exact goesOn.send _ _
  | wait n ms =>
    obtain ⟨rfl, rfl⟩ := Prod.mk.inj (Option.some.inj acted)
    constructor
    · -- the clock of a node is not what its maps hold
      funext m
      by_cases same : m = n
      · subst same
        simp [Cluster.holder, wait, withNode]
      · simp [Cluster.holder, wait, withNode, same]
    · exact fun _ mapped => .still mapped (.of_eq rfl) rfl (withNode_connMap n rfl)
    · intro index dispatcher found
      exact ⟨dispatcher, found, rfl, rfl, rfl, .inl rfl, fun _ flow => flow⟩
  | _ =>
    obtain ⟨rfl, rfl⟩ := Prod.mk.inj (Option.some.inj acted)
    exact .of_eq rfl rfl rfl

end Cluster

/-! ### Over whole runs -/

theorem mutexHeld_of_reach (reached : ClusterReach clockMs configs database pool) :
    MutexHeld pool := by
  refine reached.invariant MutexHeld ?_ ?_
  · intro n number held
    cases held
  · intro pool next turn before _ moved
    rcases ThreadSystem.turn_cases moved with
      ⟨number, thread, β, request, cont, answer, -, found, -, ran, threads⟩ |
      ⟨event, jobs, -, acted, threads⟩
    · exact before.call found ran threads
    · intro n number held
      rw [(Cluster.environment_steady acted).holder] at held
      obtain ⟨thread, there, rest⟩ := before n number held
      refine ⟨thread, ?_, rest⟩
      rw [threads, List.getElem?_append_left (List.getElem?_eq_some_iff.mp there).1]
      exact there

/-- The queues and channels that a thread of a node knows exist. -/
structure Grip.Known (grip : Grip) (n : ℕ) (cluster : Cluster) : Prop where
  dispatchers : ∀ told ∈ grip.dispatchers, cluster.QueueAt n told.1 told.2
  channels : ∀ index ∈ grip.channels, index < cluster.channels.length
  starting : ∀ index ∈ grip.starting, ∃ loop, cluster.QueueAt n loop index

theorem Grip.Known.mono {grip : Grip} {n m : ℕ} {cluster after : Cluster}
    (known : grip.Known n cluster) {dispatchers : List (ℕ × ℕ)} {channels : List ℕ}
    (tells : cluster.Tells after m dispatchers channels) : grip.Known n after where
  dispatchers told listed := tells.queues n told.1 told.2 (known.dispatchers told listed)
  channels index listed := (known.channels index listed).trans_le tells.moreChannels
  starting index listed := by
    obtain ⟨loop, there⟩ := known.starting index listed
    exact ⟨loop, tells.queues n loop index there⟩

/-- **A thread knows what it was told of**, and is to start a drain only of a queue that it knew. -/
theorem Grip.Known.after {grip : Grip} {n : ℕ} {cluster after : Cluster}
    (known : grip.Known n cluster) {β : Type} {request : ServerCall β} {answer : β}
    (permits : grip.Permits request)
    (tells : cluster.Tells after n (request.dispatchersTold answer) (request.channelsTold answer)) :
    (grip.after ⟨request, answer⟩).Known n after where
  dispatchers told listed := by
    rcases List.mem_append.mp listed with now | before
    · exact tells.dispatchers told now
    · exact (known.mono tells).dispatchers told before
  channels index listed := by
    rcases List.mem_append.mp listed with now | before
    · exact tells.channels index now
    · exact (known.mono tells).channels index before
  starting index listed := by
    cases request with
    | dispatch other call =>
      simp only [Grip.after, ServerCall.startingAfter] at listed
      split at listed
      · obtain rfl := Option.some.inj listed
        obtain ⟨loop, told⟩ := permits.known
        exact ⟨loop, (known.mono tells).dispatchers _ told⟩
      · cases listed
    | _ => exact (known.mono tells).starting index listed

/-- A handler that starts knows no queue and no channel. -/
theorem Handler.grip_known (handler : Handler) (n : ℕ) (cluster : Cluster) :
    handler.grip.Known n cluster := by
  have none : ∀ connections, (Grip.create connections).Known n cluster := by
    intro connections
    refine ⟨List.forall_mem_nil _, List.forall_mem_nil _, ?_⟩
    intro index listed
    cases listed
  cases handler with
  | login id pwd conn => exact none [conn]
  | _ => exact none []

/-- The threads know only what exists, and so do the maps of the routers. -/
def AllKnown (pool : ClusterPool) : Prop :=
  pool.state.MapsLead ∧ ∀ thread ∈ pool.threads, thread.grip.Known thread.tag.node pool.state

theorem allKnown_of_reach (reached : ClusterReach clockMs configs database pool) :
    AllKnown pool := by
  induction reached with
  | refl =>
    refine ⟨?_, List.forall_mem_nil _⟩
    intro n entry listed
    cases listed
  | @step pool next turn reached _ moved before =>
    obtain ⟨mapped, known⟩ := before
    rcases ThreadSystem.turn_cases moved with
      ⟨number, thread, β, request, cont, answer, -, found, program, ran, threads⟩ |
      ⟨event, jobs, -, acted, threads⟩
    · have member := List.mem_of_getElem? found
      have follows := grips_of_reach reached thread member
      rw [program] at follows
      have tells : pool.state.Tells next.state thread.tag.node _ _ :=
        Cluster.exec_tells mapped follows.1 (known thread member).channels ran
      refine ⟨tells.mapped, fun other listed => ?_⟩
      rw [threads] at listed
      rcases List.mem_or_eq_of_mem_set listed with old | rfl
      · exact (known other old).mono tells
      · exact (known thread member).after follows.1 tells
    · have tells := (Cluster.environment_steady acted).tells 0 mapped
      refine ⟨tells.mapped, fun other listed => ?_⟩
      rw [threads] at listed
      rcases List.mem_append.mp listed with old | new
      · exact (known other old).mono tells
      · obtain ⟨job, -, rfl⟩ := List.mem_map.mp new
        exact job.1.handler.grip_known _ _

end ClusterChat
