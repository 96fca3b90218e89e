/-
# One channel for each node and shard

A router makes the channel of a node and shard when it is first needed: it looks, makes one
where there is none, and looks again before it publishes it, so that of two threads that make
a channel one finds that the other was first. Each thread is followed through the stages of
its call. A channel that is not published belongs to the thread that made it; what is
published stays, and nobody stops it before the router is closed.
-/

import ClusterChat.Channel.Progress
import ClusterChat.Data.NumberText
import ClusterChat.Service.Cluster

namespace ClusterChat

open ClusterRouter

/-! ### Names -/

/-- A separator that is no digit splits a text from the number at its end. -/
theorem append_printInt_inj {front front' : CString} (sep : CChar)
    (noDigit : JsonText.isDigit sep.val = false) {n m : ℕ}
    (same : front ++ sep :: printInt n = front' ++ sep :: printInt m) : front = front' ∧ n = m := by
  have absent (k : ℕ) : sep ∉ printInt k := by
    intro listed
    rw [isDigit_of_mem_printInt listed] at noDigit
    exact Bool.noConfusion noDigit
  have whole {k l : ℕ} {middle : CString}
      (shape : sep :: printInt k = middle ++ sep :: printInt l) : middle = [] := by
    cases middle with
    | nil => rfl
    | cons c rest =>
      -- otherwise the separator would be among the digits
      have tail := (List.cons.inj shape).2
      refine absurd ?_ (absent k)
      rw [tail]
      exact List.mem_append_right _ (List.mem_cons_self ..)
  rcases List.append_eq_append_iff.mp same with ⟨middle, rfl, shape⟩ | ⟨middle, rfl, shape⟩
  · obtain rfl := whole shape
    rw [List.nil_append] at shape
    refine ⟨(List.append_nil _).symm, Int.ofNat.inj (printInt_injective (List.cons.inj shape).2)⟩
  · obtain rfl := whole shape
    rw [List.nil_append] at shape
    exact ⟨List.append_nil _, Int.ofNat.inj (printInt_injective (List.cons.inj shape).2).symm⟩

/-- **A key names one node and one shard**, whatever characters the node's id has. -/
theorem makeChannelKey_inj {nodeId nodeId' : CString} {shardIndex shardIndex' : ℕ} :
    makeChannelKey nodeId shardIndex = makeChannelKey nodeId' shardIndex' ↔
      nodeId = nodeId' ∧ shardIndex = shardIndex' := by
  constructor
  · intro same
    rw [makeChannelKey, makeChannelKey, List.append_assoc, List.append_assoc] at same
    exact append_printInt_inj ⟨35, by decide⟩ (by decide) same
  · rintro ⟨rfl, rfl⟩
    rfl

/-- The id of a node is made of its endpoint, as `initNode` makes it. -/
def NodeMeta.Formed (nodeMeta : NodeMeta) : Prop :=
  nodeMeta.nodeId = nodeMeta.interIp ++ cString [':'] ++ printInt nodeMeta.interPort.toNat

theorem initNode_formed (clientIp : CString) (clientPort : UInt16) (interIp : CString)
    (interPort : UInt16) (heartbeatMs : Int) :
    (initNode clientIp clientPort interIp interPort heartbeatMs).Formed := rfl

/-- The id of a node determines its endpoint. -/
theorem NodeMeta.Formed.endpoint {nodeMeta other : NodeMeta} (formed : nodeMeta.Formed)
    (formed' : other.Formed) (same : nodeMeta.nodeId = other.nodeId) :
    nodeMeta.interIp = other.interIp ∧ nodeMeta.interPort = other.interPort := by
  rw [NodeMeta.Formed] at formed formed'
  rw [formed, formed', List.append_assoc, List.append_assoc] at same
  obtain ⟨ip, port⟩ := append_printInt_inj ⟨58, by decide⟩ (by decide) same
  exact ⟨ip, UInt16.toNat_inj.mp port⟩

/-! ### Threads that use a router -/

/-- What happens on a router before it is closed: sends and warmings on any node, and the
channels at work. -/
inductive RouterEvent
  | getOrCreateChannel (n : ℕ) (nodeMeta : NodeMeta) (shardIndex : ℕ)
  | sendInternalMessage (n : ℕ) (nodeMeta : NodeMeta) (shardIndex : ℕ) (frame : Frame)
  | prewarmNode (n : ℕ) (nodeMeta : NodeMeta)
  | move (channel : ℕ) (move : ChannelMove)
  | receive (channel : ℕ)

/-- A step of one channel of the cluster. -/
def Cluster.moveChannel (cluster : Cluster) (index : ℕ)
    (step : ChannelLoop Frame → Option (ChannelLoop Frame)) : Option Cluster :=
  (cluster.channels[index]?).bind fun channel =>
    (step channel.queue).map fun queue => cluster.withChannel index { channel with queue := queue }

/-- Any threads that use the routers of the nodes. Which loop a thread runs on, and for which
handler, does not matter to a router. -/
def routerSystem : ThreadSystem Cluster ServerCall ℕ Unit RouterEvent where
  exec number n _ call cluster := cluster.exec number ⟨n, 0, .initNode⟩ call
  environment
    | .getOrCreateChannel n nodeMeta shardIndex, cluster =>
      some (cluster, [(n, do let _ ← getOrCreateChannel nodeMeta shardIndex)])
    | .sendInternalMessage n nodeMeta shardIndex frame, cluster =>
      some (cluster, [(n, do let _ ← sendInternalMessage nodeMeta shardIndex frame)])
    | .prewarmNode n nodeMeta, cluster =>
      some (cluster, [(n, prewarmNode (cluster.nodes n).shardCount nodeMeta)])
    | .move channel move, cluster =>
      (cluster.moveChannel channel fun queue => queue.move move).map (·, [])
    | .receive channel, cluster =>
      (cluster.moveChannel channel fun queue => queue.receive.map Prod.snd).map (·, [])

abbrev RouterPool := Pool Cluster ServerCall ℕ Unit

/-- The nodes that are sent to and warmed have ids made of their endpoints. -/
def FormedNodes (_ : RouterPool) : Turn RouterEvent → Prop
  | .environment (.getOrCreateChannel _ nodeMeta _) => nodeMeta.Formed
  | .environment (.sendInternalMessage _ nodeMeta _ _) => nodeMeta.Formed
  | .environment (.prewarmNode _ nodeMeta) => nodeMeta.Formed
  | _ => True

/-! ### The stages of a call -/

/-- Where a thread stands with its call of `getOrCreateChannel`: before it, with none found,
with one found for another endpoint, with one made, with the race lost, with the lost one
being stopped, or with a channel to use. -/
inductive RouterStage
  | free
  | missing (channelKey : CString)
  | stale
  | made (channelKey : CString) (channel : ℕ)
  | lost (channelKey : CString) (channel other : ℕ)
  | stopping (channelKey : CString) (channel other : ℕ)
  | granted (channelKey : CString) (channel : ℕ)

/-- The channel that a thread has made and not published. -/
def RouterStage.owned : RouterStage → Option ℕ
  | made _ channel => some channel
  | lost _ channel _ => some channel
  | stopping _ channel _ => some channel
  | _ => none

/-- The stage after an answer. -/
def RouterStage.next : RouterStage → {β : Type} → ServerCall β → β → RouterStage
  | stale, _, _, _ => stale
  | _, _, .router (.findChannel channelKey _ _), .current channel => granted channelKey channel
  | _, _, .router (.findChannel _ _ _), .stale _ => stale
  | _, _, .router (.findChannel channelKey _ _), .absent => missing channelKey
  | missing channelKey, _, .router (.createChannel _), channel => made channelKey channel
  | _, _, .router (.publishChannel channelKey channel), none => granted channelKey channel
  | _, _, .router (.publishChannel channelKey channel), some other =>
    lost channelKey channel other
  | lost channelKey channel other, _, .channel _ .stop, _ => stopping channelKey channel other
  | stopping channelKey _ other, _, .channel _ (.queueStop _), _ => granted channelKey other
  | stage, _, _, _ => stage

/-- A use of a channel stops nothing. -/
def ChannelCall.Uses {μ : Type} : ⦃β : Type⦄ → ChannelCall μ β → Prop
  | _, .stop => False
  | _, .queueStop _ => False
  | _, _ => True

/-- Whether a thread between two calls may do this: look for a channel, or ask for warming. -/
def asksChannel : ⦃β : Type⦄ → ServerCall β → Prop
  | _, .router (.warm _ _) => True
  | _, .router (.findChannel channelKey interIp interPort) =>
    ∃ (nodeMeta : NodeMeta) (shardIndex : ℕ), nodeMeta.Formed ∧
      channelKey = makeChannelKey nodeMeta.nodeId shardIndex ∧ interIp = nodeMeta.interIp ∧
        interPort = nodeMeta.interPort
  | _, _ => False

/-- What a thread may do at a stage. -/
def RouterStage.permits : RouterStage → ⦃β : Type⦄ → ServerCall β → Prop
  | free, _, call => asksChannel call
  | missing channelKey, _, .router (.createChannel nodeMeta) =>
    nodeMeta.Formed ∧ ∃ shardIndex, channelKey = makeChannelKey nodeMeta.nodeId shardIndex
  | stale, _, _ => True
  | made channelKey channel, _, .router (.publishChannel channelKey' channel') =>
    channelKey' = channelKey ∧ channel' = channel
  | lost _ channel _, _, .channel channel' .stop => channel' = channel
  | stopping _ channel _, _, .channel channel' (.queueStop _) => channel' = channel
  | granted _ channel, _, .channel channel' call => channel' = channel ∧ call.Uses
  | granted _ _, _, call => asksChannel call
  | _, _, _ => False

/-- The stage of a thread. -/
def stageOf : List (Event ServerCall) → RouterStage
  | [] => .free
  | event :: log => (stageOf log).next event.request event.answer

/-- A thread between two calls, or with one that was found stale. -/
def RouterStage.Ready : RouterStage → Prop
  | free => True
  | stale => True
  | granted _ _ => True
  | _ => False

theorem free_ready : RouterStage.free.Ready := trivial

/-- A thread's program goes through the stages from the one it stands at. -/
abbrev Stages {α : Type} (post : RouterStage → α → Prop) (program : Calls ServerCall α)
    (stage : RouterStage) : Prop :=
  program.Follows (fun stage event => stage.next event.request event.answer)
    RouterStage.permits post stage

/-! ### The programs -/

theorem stages_stale {α : Type} {post : RouterStage → α → Prop} (program : Calls ServerCall α)
    (returns : ∀ value, post .stale value) : Stages post program .stale := by
  induction program with
  | ret value => exact returns value
  | call request next ih => exact ⟨trivial, fun answer => ih answer⟩

theorem enqueueOrSend_uses {μ : Type} (message : μ) :
    (enqueueOrSend message).Only ChannelCall.Uses := by
  refine ⟨trivial, fun answer => ?_⟩
  cases answer with
  | refused => exact trivial
  | direct link => exact ⟨trivial, fun _ => trivial⟩
  | queued => exact trivial
  | queuedConnect => exact ⟨trivial, fun _ => ⟨trivial, fun _ => trivial⟩⟩
  | queuedDrain => exact ⟨trivial, fun _ => trivial⟩

theorem prewarmChannel_uses {μ : Type} :
    (prewarmChannel : Calls (ChannelCall μ) Unit).Only ChannelCall.Uses := by
  refine ⟨trivial, fun answer => ?_⟩
  cases answer with
  | true => exact ⟨trivial, fun _ => ⟨trivial, fun _ => trivial⟩⟩
  | false => exact trivial

/-- A channel that was granted may be used. -/
theorem onChannel_stages {α : Type} {program : Calls (ChannelCall Frame) α}
    (uses : program.Only ChannelCall.Uses) (channelKey : CString) (channel : ℕ) :
    Stages (fun stage _ => stage = .granted channelKey channel) (onChannel channel program)
      (.granted channelKey channel) := by
  induction program with
  | ret value => exact rfl
  | call request next ih => exact ⟨⟨rfl, uses.1⟩, fun answer => ih answer (uses.2 answer)⟩

/-- **The stages of `getOrCreateChannel`**: it returns the channel that it is granted. -/
theorem getOrCreateChannel_stages {nodeMeta : NodeMeta} (formed : nodeMeta.Formed)
    (shardIndex : ℕ) {stage : RouterStage} (ready : stage.Ready) :
    Stages (fun stage channel => stage = .stale ∨
        stage = .granted (makeChannelKey nodeMeta.nodeId shardIndex) channel)
      (getOrCreateChannel nodeMeta shardIndex) stage := by
  -- the second half: a new channel is published unless another thread was faster
  have publish : Stages (fun stage channel => stage = .stale ∨
        stage = .granted (makeChannelKey nodeMeta.nodeId shardIndex) channel)
      (getOrCreateChannel.publish nodeMeta (makeChannelKey nodeMeta.nodeId shardIndex))
      (.missing (makeChannelKey nodeMeta.nodeId shardIndex)) := by
    refine ⟨⟨formed, shardIndex, rfl⟩, fun channel => ⟨⟨rfl, rfl⟩, fun answer => ?_⟩⟩
    cases answer with
    | none => exact .inr rfl
    | some other => exact ⟨rfl, fun link => ⟨rfl, fun _ => .inr rfl⟩⟩
  have asks : asksChannel (.router (.findChannel (makeChannelKey nodeMeta.nodeId shardIndex)
      nodeMeta.interIp nodeMeta.interPort)) := ⟨nodeMeta, shardIndex, formed, rfl, rfl, rfl⟩
  cases stage with
  | stale => exact stages_stale _ fun _ => .inl rfl
  | free =>
    refine ⟨asks, fun answer => ?_⟩
    cases answer with
    | current channel => exact .inr rfl
    | stale channel => exact stages_stale _ fun _ => .inl rfl
    | absent => exact publish
  | granted channelKey channel =>
    refine ⟨asks, fun answer => ?_⟩
    cases answer with
    | current channel => exact .inr rfl
    | stale channel => exact stages_stale _ fun _ => .inl rfl
    | absent => exact publish
  | _ => exact ready.elim

/-- A thread that is done may be at any stage between two calls. -/
def returns {α : Type} (stage : RouterStage) (_ : α) : Prop := stage.Ready

theorem sendInternalMessage_stages {nodeMeta : NodeMeta} (formed : nodeMeta.Formed)
    (shardIndex : ℕ) (frame : Frame) :
    Stages returns (sendInternalMessage nodeMeta shardIndex frame) .free := by
  refine (getOrCreateChannel_stages formed shardIndex free_ready).andThen ?_
  rintro stage channel (rfl | rfl)
  · exact stages_stale _ fun _ => trivial
  · refine (onChannel_stages (enqueueOrSend_uses frame) _ channel).mono ?_
    rintro stage value rfl
    exact trivial

theorem prewarmShards_stages {nodeMeta : NodeMeta} (formed : nodeMeta.Formed) (shards : List ℕ)
    {stage : RouterStage} (ready : stage.Ready) :
    Stages returns (prewarmShards nodeMeta shards) stage := by
  induction shards generalizing stage with
  | nil => exact ready
  | cons shardIndex rest ih =>
    rw [prewarmShards]
    refine (getOrCreateChannel_stages formed shardIndex ready).andThen ?_
    rintro stage channel (rfl | rfl)
    · exact stages_stale _ fun _ => trivial
    · refine (onChannel_stages prewarmChannel_uses _ channel).andThen ?_
      rintro stage value rfl
      exact ih trivial

theorem prewarmNode_stages (shardCount : ℕ) {nodeMeta : NodeMeta} (formed : nodeMeta.Formed) :
    Stages returns (prewarmNode shardCount nodeMeta) .free := by
  rw [prewarmNode]
  cases nodeMeta.valid with
  | false => exact trivial
  | true =>
    refine ⟨trivial, fun answer => ?_⟩
    cases answer with
    | false => exact trivial
    | true => exact prewarmShards_stages formed (List.range shardCount) trivial

/-- Every thread goes through the stages. -/
theorem stages_environment {event : RouterEvent} {cluster after : Cluster}
    {jobs : List (ℕ × Calls ServerCall Unit)} {pool : RouterPool}
    (formed : FormedNodes pool (.environment event))
    (acted : routerSystem.environment event cluster = some (after, jobs)) :
    ∀ job ∈ jobs, Stages returns job.2 .free := by
  cases event with
  | getOrCreateChannel n nodeMeta shardIndex =>
    obtain ⟨-, rfl⟩ := Prod.mk.inj (Option.some.inj acted)
    refine List.forall_mem_singleton.mpr ?_
    refine (getOrCreateChannel_stages formed shardIndex free_ready).andThen ?_
    rintro stage channel (rfl | rfl)
    · exact trivial
    · exact trivial
  | sendInternalMessage n nodeMeta shardIndex frame =>
    obtain ⟨-, rfl⟩ := Prod.mk.inj (Option.some.inj acted)
    refine List.forall_mem_singleton.mpr ?_
    exact (sendInternalMessage_stages formed shardIndex frame).andThen fun _ _ ready => ready
  | prewarmNode n nodeMeta =>
    obtain ⟨-, rfl⟩ := Prod.mk.inj (Option.some.inj acted)
    exact List.forall_mem_singleton.mpr (prewarmNode_stages _ formed)
  | move channel move =>
    obtain ⟨result, -, same⟩ := Option.map_eq_some_iff.mp acted
    obtain ⟨-, rfl⟩ := Prod.mk.inj same
    exact List.forall_mem_nil _
  | receive channel =>
    obtain ⟨result, -, same⟩ := Option.map_eq_some_iff.mp acted
    obtain ⟨-, rfl⟩ := Prod.mk.inj same
    exact List.forall_mem_nil _

/-! ### The channels of a cluster -/

namespace Cluster

/-- The channel that a router has under a key. -/
def channelOf (cluster : Cluster) (n : ℕ) (channelKey : CString) : Option ℕ :=
  (cluster.nodes n).connMap.lookup channelKey

/-- A queue that no message has come to: nothing waits, nothing was written, nothing was
lost, and nobody is connected. -/
structure Untouched (queue : ChannelLoop Frame) : Prop where
  pending : queue.channel.pending = []
  written : queue.written = []
  lost : queue.lost = []
  wire : queue.wire = []
  network : queue.network = .idle
  activity : queue.activity = .idle
  functors : ∀ functor ∈ queue.functors, ∃ link, functor = .stop link

/-- A channel that no router has, and that no message has come to. -/
structure Spare (cluster : Cluster) (index : ℕ) : Prop where
  untouched : ∃ channel, cluster.channels[index]? = some channel ∧ Untouched channel.queue
  unpublished : ∀ n channelKey, cluster.channelOf n channelKey ≠ some index

/-- The channel is not being stopped. -/
def Open (cluster : Cluster) (index : ℕ) : Prop :=
  ∃ channel, cluster.channels[index]? = some channel ∧ channel.queue.channel.closing = false

/-- The channel has been stopped. -/
def Stopped (cluster : Cluster) (index : ℕ) : Prop :=
  ∃ channel, cluster.channels[index]? = some channel ∧ channel.queue.channel.closing = true

/-- The channel was made for a node of a well-formed id, under its key. -/
def MadeFor (cluster : Cluster) (channelKey : CString) (index : ℕ) : Prop :=
  ∃ channel shardIndex, cluster.channels[index]? = some channel ∧ channel.nodeMeta.Formed ∧
    channelKey = makeChannelKey channel.nodeMeta.nodeId shardIndex

/-- What holds of a thread of a node at a stage. -/
def StageHolds (cluster : Cluster) (n : ℕ) : RouterStage → Prop
  | .free => True
  | .missing _ => True
  | .stale => False
  | .made channelKey channel =>
    cluster.Spare channel ∧ cluster.Open channel ∧ cluster.MadeFor channelKey channel
  | .lost channelKey channel other =>
    cluster.Spare channel ∧ cluster.channelOf n channelKey = some other
  | .stopping channelKey channel other =>
    cluster.Spare channel ∧ cluster.Stopped channel ∧ cluster.channelOf n channelKey = some other
  | .granted channelKey channel => cluster.channelOf n channelKey = some channel

/-- A step by which channels are published and stopped, one at most of each. What was
published stays, and a queue that no message has come to stays so if it is not published. -/
structure Grows (cluster after : Cluster) (published : Option (ℕ × CString × ℕ))
    (stopped : Option ℕ) : Prop where
  kept : ∀ n channelKey channel, cluster.channelOf n channelKey = some channel →
    after.channelOf n channelKey = some channel
  fresh : ∀ n channelKey channel, after.channelOf n channelKey = some channel →
    cluster.channelOf n channelKey = some channel ∨ published = some (n, channelKey, channel)
  channels : ∀ index channel, cluster.channels[index]? = some channel →
    ∃ channel', after.channels[index]? = some channel' ∧
      channel'.nodeMeta = channel.nodeMeta ∧
      (channel.queue.channel.closing = true → channel'.queue.channel.closing = true) ∧
      (stopped ≠ some index → channel'.queue.channel.closing = channel.queue.channel.closing)
  untouched : ∀ index, cluster.Spare index → ∃ channel,
    after.channels[index]? = some channel ∧ Untouched channel.queue

section Grows

variable {cluster after : Cluster} {published : Option (ℕ × CString × ℕ)} {stopped : Option ℕ}
  {index : ℕ}

theorem Spare.grows (spare : cluster.Spare index) (grows : Grows cluster after published stopped)
    (apart : ∀ n channelKey, published ≠ some (n, channelKey, index)) : after.Spare index := by
  refine ⟨grows.untouched index spare, fun n channelKey holds => ?_⟩
  rcases grows.fresh n channelKey index holds with old | new
  · exact spare.unpublished n channelKey old
  · exact apart n channelKey new

theorem Open.grows (isOpen : cluster.Open index) (grows : Grows cluster after published stopped)
    (apart : stopped ≠ some index) : after.Open index := by
  obtain ⟨channel, found, closing⟩ := isOpen
  obtain ⟨channel', found', -, -, same⟩ := grows.channels index channel found
  exact ⟨channel', found', (same apart).trans closing⟩

theorem Stopped.grows (isStopped : cluster.Stopped index)
    (grows : Grows cluster after published stopped) : after.Stopped index := by
  obtain ⟨channel, found, closing⟩ := isStopped
  obtain ⟨channel', found', -, stays, -⟩ := grows.channels index channel found
  exact ⟨channel', found', stays closing⟩

theorem MadeFor.grows {channelKey : CString} (madeFor : cluster.MadeFor channelKey index)
    (grows : Grows cluster after published stopped) : after.MadeFor channelKey index := by
  obtain ⟨channel, shardIndex, found, formed, key⟩ := madeFor
  obtain ⟨channel', found', nodeMeta, -, -⟩ := grows.channels index channel found
  rw [← nodeMeta] at formed key
  exact ⟨channel', shardIndex, found', formed, key⟩

/-- A thread that takes no step stays where it is, if its channel is not another's. -/
theorem StageHolds.grows {n : ℕ} {stage : RouterStage} (holds : cluster.StageHolds n stage)
    (grows : Grows cluster after published stopped)
    (apart : ∀ channel, stage.owned = some channel →
      (∀ m channelKey, published ≠ some (m, channelKey, channel)) ∧ stopped ≠ some channel) :
    after.StageHolds n stage := by
  cases stage with
  | free => exact trivial
  | missing channelKey => exact trivial
  | stale => exact holds
  | made channelKey channel =>
    have apart := apart channel rfl
    exact ⟨holds.1.grows grows apart.1, holds.2.1.grows grows apart.2, holds.2.2.grows grows⟩
  | lost channelKey channel other =>
    have apart := apart channel rfl
    exact ⟨holds.1.grows grows apart.1, grows.kept n channelKey other holds.2⟩
  | stopping channelKey channel other =>
    have apart := apart channel rfl
    exact ⟨holds.1.grows grows apart.1, holds.2.1.grows grows,
      grows.kept n channelKey other holds.2.2⟩
  | granted channelKey channel => exact grows.kept n channelKey channel holds

end Grows

/-! ### What the steps do to the channels -/

/-- A queue that no message has come to stays so when its loop or the network moves. -/
theorem Untouched.move {queue next : ChannelLoop Frame} (untouched : Untouched queue)
    {move : ChannelMove} (ran : queue.move move = some next) : Untouched next := by
  have idle := untouched.activity
  have down := untouched.network
  cases move with
  | runFunctor =>
    simp only [ChannelLoop.move, ChannelLoop.runFunctor, idle] at ran
    cases queued : queue.functors with
    | nil =>
      rw [queued] at ran
      cases ran
    | cons functor rest =>
      -- what is queued for a channel that nobody has used can only stop it
      have stops := untouched.functors functor (queued ▸ List.mem_cons_self ..)
      obtain ⟨link, rfl⟩ := stops
      simp only [queued, down] at ran
      obtain rfl := Option.some.inj ran
      exact { untouched with
        network := rfl
        activity := rfl
        functors := fun other listed =>
          untouched.functors other (queued ▸ List.mem_cons_of_mem _ listed) }
  | proceed =>
    simp only [ChannelLoop.move, ChannelLoop.proceed, idle] at ran
    cases ran
  | establish =>
    simp only [ChannelLoop.move, ChannelLoop.establish, idle, down] at ran
    cases ran
  | close =>
    simp only [ChannelLoop.move, ChannelLoop.close, idle, down] at ran
    cases ran
  | flush =>
    simp only [ChannelLoop.move, ChannelLoop.flush, idle, down] at ran
    cases ran
  | socket mood =>
    obtain rfl := Option.some.inj ran
    exact { untouched with }

/-- No step of the loop or of the network opens or stops a channel. -/
theorem move_closing {queue next : ChannelLoop Frame} {move : ChannelMove}
    (ran : queue.move move = some next) : next.channel.closing = queue.channel.closing := by
  cases move with
  | runFunctor => exact (runFunctor_frame ran).1
  | proceed => exact (proceed_frame ran).1
  | establish =>
    simp only [ChannelLoop.move, ChannelLoop.establish] at ran
    split at ran
    · split at ran
      · cases ran
      · obtain rfl := Option.some.inj ran
        rfl
    · cases ran
  | close =>
    simp only [ChannelLoop.move, ChannelLoop.close] at ran
    split at ran
    · obtain rfl := Option.some.inj ran
      rfl
    · cases ran
  | flush =>
    simp only [ChannelLoop.move, ChannelLoop.flush] at ran
    split at ran
    · obtain rfl := Option.some.inj ran
      rfl
    · cases ran
  | socket mood =>
    obtain rfl := Option.some.inj ran
    rfl

theorem receive_closing {queue next : ChannelLoop Frame}
    (ran : queue.receive.map Prod.snd = some next) :
    next.channel.closing = queue.channel.closing := by
  cases waiting : queue.wire with
  | nil =>
    rw [ChannelLoop.receive, waiting] at ran
    cases ran
  | cons frame rest =>
    rw [ChannelLoop.receive, waiting] at ran
    obtain rfl := Option.some.inj ran
    rfl

section Steps

variable {cluster after : Cluster}

theorem Spare.queue {index : ℕ} {channel : NodeChannel} (spare : cluster.Spare index)
    (found : cluster.channels[index]? = some channel) : Untouched channel.queue := by
  obtain ⟨other, here, untouched⟩ := spare.untouched
  obtain rfl := Option.some.inj (found.symm.trans here)
  exact untouched

/-- A spare channel has been made. -/
theorem Spare.bound {index : ℕ} (spare : cluster.Spare index) :
    index < cluster.channels.length := by
  obtain ⟨channel, found, -⟩ := spare.untouched
  exact (List.getElem?_eq_some_iff.mp found).1

theorem Grows.refl (cluster : Cluster) : Grows cluster cluster none none where
  kept _ _ _ holds := holds
  fresh _ _ _ holds := .inl holds
  channels _ channel found := ⟨channel, found, rfl, id, fun _ => rfl⟩
  untouched _ spare := spare.untouched

/-- A step that neither the maps nor the channels see. -/
theorem Grows.still (maps : ∀ n, (after.nodes n).connMap = (cluster.nodes n).connMap)
    (channels : after.channels = cluster.channels) : Grows cluster after none none := by
  have same (n : ℕ) (channelKey : CString) :
      after.channelOf n channelKey = cluster.channelOf n channelKey := by
    rw [channelOf, channelOf, maps]
  constructor
  · intro n channelKey channel holds
    rwa [same]
  · intro n channelKey channel holds
    rw [same] at holds
    exact .inl holds
  · intro index channel found
    rw [channels]
    exact ⟨channel, found, rfl, id, fun _ => rfl⟩
  · intro index spare
    rw [channels]
    exact spare.untouched

/-- A step of one channel. -/
theorem Grows.withChannel {index : ℕ} {channel : NodeChannel} {queue : ChannelLoop Frame}
    {stopped : Option ℕ} (found : cluster.channels[index]? = some channel)
    (stays : channel.queue.channel.closing = true → queue.channel.closing = true)
    (same : stopped ≠ some index → queue.channel.closing = channel.queue.channel.closing)
    (untouched : cluster.Spare index → Untouched queue) :
    Grows cluster (cluster.withChannel index { channel with queue := queue }) none stopped := by
  have bound := (List.getElem?_eq_some_iff.mp found).1
  have here : (cluster.withChannel index { channel with queue := queue }).channels[index]? =
      some { channel with queue := queue } := List.getElem?_set_self bound
  constructor
  · exact fun _ _ _ holds => holds
  · exact fun _ _ _ holds => .inl holds
  · intro other known foundOther
    by_cases at_ : index = other
    · subst at_
      obtain rfl := Option.some.inj (found.symm.trans foundOther)
      exact ⟨_, here, rfl, stays, same⟩
    · refine ⟨known, ?_, rfl, id, fun _ => rfl⟩
      exact (List.getElem?_set_ne at_).trans foundOther
  · intro other spare
    by_cases at_ : index = other
    · subst at_
      exact ⟨_, here, untouched spare⟩
    · obtain ⟨known, foundOther, holds⟩ := spare.untouched
      exact ⟨known, (List.getElem?_set_ne at_).trans foundOther, holds⟩

/-- A new channel comes after those that are there. -/
theorem Grows.create (channel : NodeChannel) :
    Grows cluster { cluster with channels := cluster.channels ++ [channel] } none none := by
  have old {index : ℕ} {known : NodeChannel} (found : cluster.channels[index]? = some known) :
      (cluster.channels ++ [channel])[index]? = some known := by
    rw [List.getElem?_append_left (List.getElem?_eq_some_iff.mp found).1]
    exact found
  constructor
  · exact fun _ _ _ holds => holds
  · exact fun _ _ _ holds => .inl holds
  · exact fun index known found => ⟨known, old found, rfl, id, fun _ => rfl⟩
  · intro index spare
    obtain ⟨known, found, holds⟩ := spare.untouched
    exact ⟨known, old found, holds⟩

/-- A channel goes into the map of a node that has none under its key. -/
theorem Grows.publish {n : ℕ} {channelKey : CString}
    (absent : cluster.channelOf n channelKey = none)
    (channel : ℕ) :
    Grows cluster (cluster.withNode n { cluster.nodes n with
      connMap := (channelKey, channel) :: (cluster.nodes n).connMap })
      (some (n, channelKey, channel)) none := by
  have lookup (m : ℕ) (key : CString) : (cluster.withNode n { cluster.nodes n with
      connMap := (channelKey, channel) :: (cluster.nodes n).connMap }).channelOf m key =
        if m = n ∧ key = channelKey then some channel else cluster.channelOf m key := by
    by_cases here : m = n
    · subst here
      rw [channelOf, withNode]
      dsimp only
      rw [Function.update_self, List.lookup_cons]
      by_cases same : key = channelKey
      · subst same
        simp
      · rw [beq_false_of_ne same, if_neg fun both => same both.2]
        rfl
    · rw [channelOf, withNode]
      dsimp only
      rw [Function.update_of_ne here]
      simp [here, channelOf]
  constructor
  · intro m key other holds
    rw [lookup, if_neg]
    · exact holds
    · rintro ⟨rfl, rfl⟩
      rw [absent] at holds
      cases holds
  · intro m key other holds
    rw [lookup] at holds
    split at holds
    · rename_i here
      obtain ⟨rfl, rfl⟩ := here
      obtain rfl := Option.some.inj holds
      exact .inr rfl
    · exact .inl holds
  · exact fun index known found => ⟨known, found, rfl, id, fun _ => rfl⟩
  · exact fun index spare => spare.untouched

/-! ### The maps of channels -/

/-- What the routers have: open channels made for their keys, each of them under one key of
one router. -/
structure Mapped (cluster : Cluster) : Prop where
  known : ∀ n channelKey channel, cluster.channelOf n channelKey = some channel →
    cluster.Open channel ∧ cluster.MadeFor channelKey channel
  distinct : ∀ n channelKey m channelKey' channel, cluster.channelOf n channelKey = some channel →
    cluster.channelOf m channelKey' = some channel → n = m ∧ channelKey = channelKey'

/-- The maps stay so when what is published was a spare channel made for its key, and only a
spare channel is stopped. -/
theorem Mapped.grows {published : Option (ℕ × CString × ℕ)} {stopped : Option ℕ}
    (mapped : cluster.Mapped) (grows : Grows cluster after published stopped)
    (news : ∀ n channelKey channel, published = some (n, channelKey, channel) →
      cluster.Spare channel ∧ cluster.Open channel ∧ cluster.MadeFor channelKey channel ∧
        stopped = none)
    (stops : ∀ channel, stopped = some channel → cluster.Spare channel) : after.Mapped := by
  constructor
  · intro n channelKey channel holds
    rcases grows.fresh n channelKey channel holds with old | new
    · obtain ⟨isOpen, madeFor⟩ := mapped.known n channelKey channel old
      have apart : stopped ≠ some channel :=
        fun stop => (stops channel stop).unpublished n channelKey old
      exact ⟨isOpen.grows grows apart, madeFor.grows grows⟩
    · obtain ⟨-, isOpen, madeFor, none⟩ := news n channelKey channel new
      have apart : stopped ≠ some channel := by
        rw [none]
        exact (Option.some_ne_none channel).symm
      exact ⟨isOpen.grows grows apart, madeFor.grows grows⟩
  · intro n channelKey m channelKey' channel first second
    rcases grows.fresh n channelKey channel first with old | new
    · rcases grows.fresh m channelKey' channel second with old' | new'
      · exact mapped.distinct n channelKey m channelKey' channel old old'
      · exact ((news _ _ _ new').1.unpublished n channelKey old).elim
    · rcases grows.fresh m channelKey' channel second with old' | new'
      · exact ((news _ _ _ new).1.unpublished m channelKey' old').elim
      · have same := Prod.mk.inj (Option.some.inj (new.symm.trans new'))
        exact ⟨same.1, (Prod.mk.inj same.2).1⟩

/-- No channel is found stale, as the id of a node determines its endpoint. -/
theorem Mapped.find (mapped : cluster.Mapped) {nodeMeta : NodeMeta} (formed : nodeMeta.Formed)
    (job : Job) (shardIndex : ℕ) :
    (cluster.channelOf job.node (makeChannelKey nodeMeta.nodeId shardIndex) = none ∧
      cluster.execRouter job (.findChannel (makeChannelKey nodeMeta.nodeId shardIndex)
        nodeMeta.interIp nodeMeta.interPort) = (.absent, cluster)) ∨
    ∃ channel,
      cluster.channelOf job.node (makeChannelKey nodeMeta.nodeId shardIndex) = some channel ∧
        cluster.execRouter job (.findChannel (makeChannelKey nodeMeta.nodeId shardIndex)
          nodeMeta.interIp nodeMeta.interPort) = (.current channel, cluster) := by
  cases found : cluster.channelOf job.node (makeChannelKey nodeMeta.nodeId shardIndex) with
  | none =>
    rw [channelOf] at found
    refine .inl ⟨rfl, ?_⟩
    simp only [execRouter, found]
  | some channel =>
    obtain ⟨known, shardIndex', here, formed', key⟩ := (mapped.known _ _ _ found).2
    have sameId := (makeChannelKey_inj.mp key).1
    obtain ⟨ip, port⟩ := formed.endpoint formed' sameId
    rw [channelOf] at found
    refine .inr ⟨channel, rfl, ?_⟩
    simp only [execRouter, found, here]
    rw [if_pos ⟨ip.symm, port.symm⟩]

/-! ### One call of a thread -/

/-- What a call of a thread makes of the cluster: it publishes the channel that it has made, or
stops the one that lost the race, and what it has made is new. -/
structure Advances (cluster after : Cluster) (n : ℕ) (stage stage' : RouterStage) : Prop where
  grows : ∃ published stopped, Grows cluster after published stopped ∧
    (∀ m channelKey channel, published = some (m, channelKey, channel) →
      stage = .made channelKey channel ∧ stopped = none) ∧
    ∀ channel, stopped = some channel → ∃ channelKey other, stage = .lost channelKey channel other
  holds : after.StageHolds n stage'
  owned : ∀ channel, stage'.owned = some channel →
    stage.owned = some channel ∨ cluster.channels.length ≤ channel

/-- A call that publishes and stops nothing. -/
theorem Advances.of_grows {n : ℕ} {stage stage' : RouterStage}
    (grows : Grows cluster after none none) (holds : after.StageHolds n stage')
    (owned : ∀ channel, stage'.owned = some channel →
      stage.owned = some channel ∨ cluster.channels.length ≤ channel) :
    Advances cluster after n stage stage' where
  grows := ⟨none, none, grows, fun _ _ _ none => (Option.some_ne_none _ none.symm).elim,
    fun _ none => (Option.some_ne_none _ none.symm).elim⟩
  holds := holds
  owned := owned

/-- A call after which the thread owns no channel. -/
theorem Advances.of_unowned {n : ℕ} {stage stage' : RouterStage}
    (grows : Grows cluster after none none) (holds : after.StageHolds n stage')
    (unowned : stage'.owned = none) : Advances cluster after n stage stage' := by
  refine .of_grows grows holds fun channel owned => ?_
  rw [unowned] at owned
  cases owned

variable {number n : ℕ} {β : Type} {call : ServerCall β} {answer : β}

/-- A thread that has no call under way looks for a channel, or asks for warming. -/
theorem Mapped.asks (mapped : cluster.Mapped) {stage : RouterStage}
    (ready : stage = .free ∨ ∃ channelKey channel, stage = .granted channelKey channel)
    (holds : cluster.StageHolds n stage) (asks : asksChannel call)
    (ran : cluster.exec number ⟨n, 0, .initNode⟩ call = some (answer, after)) :
    Advances cluster after n stage (stage.next call answer) := by
  cases call with
  | router call =>
    cases call with
    | warm nodeId instanceId =>
      have unowned : (stage.next (.router (.warm nodeId instanceId)) answer) = stage := by
        rcases ready with rfl | ⟨channelKey, channel, rfl⟩ <;> rfl
      have maps (m : ℕ) : (after.nodes m).connMap = (cluster.nodes m).connMap ∧
          after.channels = cluster.channels := by
        have ran := Option.some.inj ran
        simp only [execRouter] at ran
        split at ran
        · obtain ⟨-, rfl⟩ := Prod.mk.inj ran
          exact ⟨rfl, rfl⟩
        · obtain ⟨-, rfl⟩ := Prod.mk.inj ran
          refine ⟨?_, rfl⟩
          by_cases here : m = n
          · subst here
            simp only [withNode, Function.update_self]
          · simp only [withNode, Function.update_of_ne here]
      have grows : Grows cluster after none none := .still (fun m => (maps m).1) (maps 0).2
      rw [unowned]
      refine .of_grows grows (holds.grows grows fun _ _ => ?_) fun _ owned => .inl owned
      exact ⟨fun _ _ => (Option.some_ne_none _).symm, (Option.some_ne_none _).symm⟩
    | findChannel channelKey interIp interPort =>
      obtain ⟨nodeMeta, shardIndex, formed, rfl, rfl, rfl⟩ := asks
      have ran := Option.some.inj ran
      rcases mapped.find formed ⟨n, 0, .initNode⟩ shardIndex with
        ⟨absent, executed⟩ | ⟨channel, present, executed⟩
      · obtain ⟨rfl, rfl⟩ := Prod.mk.inj (executed.symm.trans ran)
        rcases ready with rfl | ⟨channelKey, channel, rfl⟩
        · exact .of_unowned (.refl cluster) trivial rfl
        · exact .of_unowned (.refl cluster) trivial rfl
      · obtain ⟨rfl, rfl⟩ := Prod.mk.inj (executed.symm.trans ran)
        rcases ready with rfl | ⟨channelKey, channel, rfl⟩
        · exact .of_unowned (.refl cluster) present rfl
        · exact .of_unowned (.refl cluster) present rfl
    | createChannel nodeMeta => exact asks.elim
    | publishChannel channelKey channel => exact asks.elim
    | takeChannels => exact asks.elim
  | registry call => exact asks.elim
  | service call => exact asks.elim
  | dispatch dispatcher call => exact asks.elim
  | channel channel call => exact asks.elim
  | database call => exact asks.elim

/-- A thread that found none makes a channel, which nobody else has. -/
theorem Mapped.create (mapped : cluster.Mapped) {channelKey : CString} {nodeMeta : NodeMeta}
    (formed : nodeMeta.Formed) {shardIndex : ℕ}
    (key : channelKey = makeChannelKey nodeMeta.nodeId shardIndex) {answer : ℕ}
    (ran : cluster.exec number ⟨n, 0, .initNode⟩ (.router (.createChannel nodeMeta)) =
      some (answer, after)) :
    Advances cluster after n (.missing channelKey) (.made channelKey answer) := by
  obtain ⟨rfl, rfl⟩ := Prod.mk.inj (Option.some.inj ran)
  have here : (cluster.channels ++ [(⟨n, nodeMeta,
      .create (cluster.nodes n).channelQueueLimit⟩ : NodeChannel)])[cluster.channels.length]? =
        some ⟨n, nodeMeta, .create (cluster.nodes n).channelQueueLimit⟩ :=
    List.getElem?_concat_length
  refine .of_grows (.create _)
    ⟨⟨⟨_, here, ?_⟩, ?_⟩, ⟨_, here, rfl⟩, _, shardIndex, here, formed, key⟩
    ?_
  · exact ⟨rfl, rfl, rfl, rfl, rfl, rfl, List.forall_mem_nil _⟩
  · -- what a router has was made before
    intro m other published
    obtain ⟨known, found, -⟩ := (mapped.known m other _ published).1
    exact (Nat.lt_irrefl _ (List.getElem?_eq_some_iff.mp found).1).elim
  · intro channel owned
    exact .inr (Option.some.inj owned).le

/-- A thread that has made a channel publishes it, or finds that another was first. -/
theorem publish_advances {channelKey : CString} {channel : ℕ} {answer : Option ℕ}
    (holds : cluster.StageHolds n (.made channelKey channel))
    (ran : cluster.exec number ⟨n, 0, .initNode⟩ (.router (.publishChannel channelKey channel)) =
      some (answer, after)) :
    Advances cluster after n (.made channelKey channel)
      ((RouterStage.made channelKey channel).next (.router (.publishChannel channelKey channel))
        answer) := by
  have ran := Option.some.inj ran
  cases found : (cluster.nodes n).connMap.lookup channelKey with
  | none =>
    simp only [execRouter, found] at ran
    obtain ⟨rfl, rfl⟩ := Prod.mk.inj ran
    refine ⟨⟨some (n, channelKey, channel), none, .publish found channel, ?_, ?_⟩, ?_, ?_⟩
    · rintro m key other same
      obtain ⟨rfl, rfl, rfl⟩ := Option.some.inj same
      exact ⟨rfl, rfl⟩
    · intro other none
      cases none
    · simp only [RouterStage.next, StageHolds, channelOf, withNode, Function.update_self,
        List.lookup_cons_self]
    · intro other owned
      cases owned
  | some other =>
    simp only [execRouter, found] at ran
    obtain ⟨rfl, rfl⟩ := Prod.mk.inj ran
    exact .of_grows (.refl cluster) ⟨holds.1, found⟩ fun _ owned => .inl owned

/-- The thread that lost the race stops the channel that it made. -/
theorem stop_advances {channelKey : CString} {channel other : ℕ} {answer : Option ℕ}
    (holds : cluster.StageHolds n (.lost channelKey channel other))
    (ran : cluster.exec number ⟨n, 0, .initNode⟩ (.channel channel .stop) = some (answer, after)) :
    Advances cluster after n (.lost channelKey channel other)
      (.stopping channelKey channel other) := by
  obtain ⟨spare, winner⟩ := holds
  obtain ⟨known, found, untouched⟩ := spare.untouched
  simp only [exec, found, ChannelLoop.exec, Option.map_some] at ran
  obtain ⟨-, rfl⟩ := Prod.mk.inj (Option.some.inj ran)
  have still : Untouched ({ known.queue with
      channel := { known.queue.channel with
        closing := true, connecting := false, pending := [], connection := none }
      lost := known.queue.lost ++ known.queue.channel.pending } : ChannelLoop Frame) := by
    refine { untouched with pending := rfl, lost := ?_ }
    rw [untouched.lost, untouched.pending, List.append_nil]
  have grows : Grows cluster _ none (some channel) :=
    .withChannel found (fun _ => rfl) (fun apart => (apart rfl).elim) fun _ => still
  have bound := (List.getElem?_eq_some_iff.mp found).1
  refine ⟨⟨none, some channel, grows, ?_, ?_⟩, ⟨?_, ?_, ?_⟩, fun _ owned => .inl owned⟩
  · rintro m key other none
    cases none
  · rintro other' same
    obtain rfl := Option.some.inj same
    exact ⟨channelKey, other, rfl⟩
  · exact spare.grows grows fun _ _ => (Option.some_ne_none _).symm
  · exact ⟨_, List.getElem?_set_self bound, rfl⟩
  · exact winner

/-- It puts the stop into the queue of the channel's loop, and uses the other one. -/
theorem queueStop_advances {channelKey : CString} {channel other : ℕ} {link : Option ℕ}
    {answer : Unit} (holds : cluster.StageHolds n (.stopping channelKey channel other))
    (ran : cluster.exec number ⟨n, 0, .initNode⟩ (.channel channel (.queueStop link)) =
      some (answer, after)) :
    Advances cluster after n (.stopping channelKey channel other) (.granted channelKey other) := by
  obtain ⟨spare, -, winner⟩ := holds
  obtain ⟨known, found, untouched⟩ := spare.untouched
  simp only [exec, found, ChannelLoop.exec, Option.map_some] at ran
  obtain ⟨-, rfl⟩ := Prod.mk.inj (Option.some.inj ran)
  have still : Untouched (known.queue.queue (.stop link)) := by
    refine { untouched with functors := fun functor listed => ?_ }
    rcases List.mem_append.mp listed with old | new
    · exact untouched.functors functor old
    · exact ⟨link, List.mem_singleton.mp new⟩
  exact .of_unowned (.withChannel found id (fun _ => rfl) fun _ => still) winner rfl

/-- A thread uses the channel that it was granted. -/
theorem uses_advances {channelKey : CString} {channel : ℕ} {call : ChannelCall Frame β}
    (uses : call.Uses) (holds : cluster.StageHolds n (.granted channelKey channel))
    (ran : cluster.exec number ⟨n, 0, .initNode⟩ (.channel channel call) = some (answer, after)) :
    Advances cluster after n (.granted channelKey channel) (.granted channelKey channel) := by
  have stays : stopsChannel call = false := by
    cases call with
    | stop => exact uses.elim
    | queueStop link => exact uses.elim
    | _ => rfl
  cases found : cluster.channels[channel]? with
  | none =>
    simp only [exec, found] at ran
    cases ran
  | some known =>
    simp only [exec, found] at ran
    obtain ⟨⟨answer', queue⟩, executed, same⟩ := Option.map_eq_some_iff.mp ran
    obtain ⟨rfl, rfl⟩ := Prod.mk.inj same
    have closing := exec_closing executed stays
    refine .of_unowned (.withChannel found (fun shut => closing.trans shut) (fun _ => closing) ?_)
      holds rfl
    exact fun spare => (spare.unpublished n channelKey holds).elim

/-- **Step lemma.** What a thread does at its stage leads it to the next one. -/
theorem Mapped.advances (mapped : cluster.Mapped) {stage : RouterStage}
    (holds : cluster.StageHolds n stage) (permitted : stage.permits call)
    (ran : cluster.exec number ⟨n, 0, .initNode⟩ call = some (answer, after)) :
    Advances cluster after n stage (stage.next call answer) := by
  cases stage with
  | free => exact mapped.asks (.inl rfl) holds permitted ran
  | stale => exact holds.elim
  | missing channelKey =>
    cases call with
    | router call =>
      cases call with
      | createChannel nodeMeta =>
        obtain ⟨formed, shardIndex, key⟩ := permitted
        exact mapped.create formed key ran
      | _ => exact permitted.elim
    | _ => exact permitted.elim
  | made channelKey channel =>
    cases call with
    | router call =>
      cases call with
      | publishChannel channelKey' channel' =>
        obtain ⟨rfl, rfl⟩ := permitted
        exact publish_advances holds ran
      | _ => exact permitted.elim
    | _ => exact permitted.elim
  | lost channelKey channel other =>
    cases call with
    | channel channel' call =>
      cases call with
      | stop =>
        obtain rfl := permitted
        exact stop_advances holds ran
      | _ => exact permitted.elim
    | _ => exact permitted.elim
  | stopping channelKey channel other =>
    cases call with
    | channel channel' call =>
      cases call with
      | queueStop link =>
        obtain rfl := permitted
        exact queueStop_advances holds ran
      | _ => exact permitted.elim
    | _ => exact permitted.elim
  | granted channelKey channel =>
    have ready : RouterStage.granted channelKey channel = .free ∨
        ∃ channelKey' channel', RouterStage.granted channelKey channel =
          .granted channelKey' channel' := .inr ⟨channelKey, channel, rfl⟩
    cases call with
    | channel channel' call =>
      obtain ⟨rfl, uses⟩ := permitted
      exact uses_advances uses holds ran
    | router call => exact mapped.asks ready holds permitted ran
    | registry call => exact mapped.asks ready holds permitted ran
    | service call => exact mapped.asks ready holds permitted ran
    | dispatch dispatcher call => exact mapped.asks ready holds permitted ran
    | database call => exact mapped.asks ready holds permitted ran

end Steps

end Cluster

end ClusterChat
