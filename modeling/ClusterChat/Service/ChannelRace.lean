/-
# The race for a channel

Of the threads that make a channel for one node and shard the first to publish it wins, and
the others are granted its channel. So all calls for one pair get one channel, and a channel
that is one too many is stopped by the thread that made it, before anybody else has seen it.
-/

import ClusterChat.Service.ChannelMap

namespace ClusterChat

open ClusterRouter

/-! ### Events -/

/-- The channel that a thread is granted by an event, with its key. -/
def grants : Event ServerCall → Option (CString × ℕ)
  | ⟨.router (.findChannel channelKey _ _), .current channel⟩ => some (channelKey, channel)
  | ⟨.router (.publishChannel channelKey channel), none⟩ => some (channelKey, channel)
  | ⟨.router (.publishChannel channelKey _), some other⟩ => some (channelKey, other)
  | _ => none

/-- The channel that is found to be one too many: another was published first. -/
def surplus : Event ServerCall → Option ℕ
  | ⟨.router (.publishChannel _ channel), some _⟩ => some channel
  | _ => none

/-- A call returns the channel that an event of it grants. -/
theorem getOrCreateChannel_grants (nodeMeta : NodeMeta) (shardIndex : ℕ) :
    (getOrCreateChannel nodeMeta shardIndex).Meets (fun _ _ _ => True)
      (fun log channel => ∃ event ∈ log,
        grants event = some (makeChannelKey nodeMeta.nodeId shardIndex, channel)) [] := by
  have publish (log : List (Event ServerCall)) :
      (getOrCreateChannel.publish nodeMeta (makeChannelKey nodeMeta.nodeId shardIndex)).Meets
        (fun _ _ _ => True) (fun log channel => ∃ event ∈ log,
          grants event = some (makeChannelKey nodeMeta.nodeId shardIndex, channel)) log := by
    refine ⟨trivial, fun channel => ⟨trivial, fun answer => ?_⟩⟩
    cases answer with
    | none => exact ⟨_, List.mem_cons_self .., rfl⟩
    | some other =>
      refine ⟨trivial, fun link => ⟨trivial, fun _ => ?_⟩⟩
      exact ⟨_, List.mem_cons_of_mem _ (List.mem_cons_of_mem _ (List.mem_cons_self ..)), rfl⟩
  refine ⟨trivial, fun answer => ?_⟩
  cases answer with
  | current channel => exact ⟨_, List.mem_cons_self .., rfl⟩
  | stale channel => exact ⟨trivial, fun link => ⟨trivial, fun _ => publish _⟩⟩
  | absent => exact publish _

section Next

variable {stage : RouterStage} {event : Event ServerCall} {channelKey : CString} {channel : ℕ}

theorem grants_next (fresh : stage ≠ .stale) (granted : grants event = some (channelKey, channel)) :
    stage.next event.request event.answer = .granted channelKey channel ∨
      ∃ made, stage.next event.request event.answer = .lost channelKey made channel := by
  obtain ⟨request, answer⟩ := event
  cases request with
  | router call =>
    cases call with
    | findChannel key interIp interPort =>
      cases answer with
      | current known =>
        obtain ⟨rfl, rfl⟩ := Prod.mk.inj (Option.some.inj granted)
        cases stage with
        | stale => exact (fresh rfl).elim
        | _ => exact .inl rfl
      | _ => cases granted
    | publishChannel key made =>
      cases answer with
      | none =>
        obtain ⟨rfl, rfl⟩ := Prod.mk.inj (Option.some.inj granted)
        cases stage with
        | stale => exact (fresh rfl).elim
        | _ => exact .inl rfl
      | some other =>
        obtain ⟨rfl, rfl⟩ := Prod.mk.inj (Option.some.inj granted)
        cases stage with
        | stale => exact (fresh rfl).elim
        | _ => exact .inr ⟨made, rfl⟩
    | _ => cases granted
  | _ => cases granted

theorem surplus_next (fresh : stage ≠ .stale) (lost : surplus event = some channel) :
    ∃ channelKey other, stage.next event.request event.answer = .lost channelKey channel other := by
  obtain ⟨request, answer⟩ := event
  cases request with
  | router call =>
    cases call with
    | publishChannel key made =>
      cases answer with
      | none => cases lost
      | some other =>
        obtain rfl := Option.some.inj lost
        cases stage with
        | stale => exact (fresh rfl).elim
        | _ => exact ⟨key, other, rfl⟩
    | _ => cases lost
  | _ => cases lost

/-- A thread that lost the race does nothing before it has stopped its channel. -/
theorem lost_next {other : ℕ} {β : Type} {call : ServerCall β}
    (permitted : (RouterStage.lost channelKey channel other).permits call) (answer : β) :
    (RouterStage.lost channelKey channel other).next call answer =
      .stopping channelKey channel other := by
  cases call with
  | channel channel' call =>
    cases call with
    | stop => rfl
    | _ => exact permitted.elim
  | _ => exact permitted.elim

end Next

/-! ### Every state reached -/

/-- What holds while no router is closed: every thread is at its stage, no two of them own one
channel, what a thread was granted is what the router has, and a channel that is one too many
belongs to nobody once it is stopped. -/
structure Raced (pool : RouterPool) : Prop where
  programs : ∀ thread ∈ pool.threads, Stages returns thread.rest (stageOf thread.log)
  mapped : pool.state.Mapped
  stages : ∀ thread ∈ pool.threads, pool.state.StageHolds thread.tag (stageOf thread.log)
  apart : ∀ (number number' : ℕ) (thread thread' : Thread ServerCall ℕ Unit) (channel : ℕ),
    pool.threads[number]? = some thread →
    pool.threads[number']? = some thread' → (stageOf thread.log).owned = some channel →
    (stageOf thread'.log).owned = some channel → number = number'
  granted : ∀ thread ∈ pool.threads, ∀ event ∈ thread.log, ∀ channelKey channel,
    grants event = some (channelKey, channel) →
    pool.state.channelOf thread.tag channelKey = some channel
  surplus : ∀ thread ∈ pool.threads, ∀ event ∈ thread.log, ∀ channel,
    surplus event = some channel → pool.state.Spare channel ∧ (pool.state.Stopped channel ∨
      ∃ channelKey other, stageOf thread.log = .lost channelKey channel other)

theorem Cluster.StageHolds.spare {cluster : Cluster} {n channel : ℕ} {stage : RouterStage}
    (holds : cluster.StageHolds n stage) (owned : stage.owned = some channel) :
    cluster.Spare channel := by
  cases stage with
  | made channelKey known =>
    obtain rfl := Option.some.inj owned
    exact holds.1
  | lost channelKey known other =>
    obtain rfl := Option.some.inj owned
    exact holds.1
  | stopping channelKey known other =>
    obtain rfl := Option.some.inj owned
    exact holds.1
  | _ => cases owned

section Raced

open Cluster

variable {pool next : RouterPool}

/-- The state moved, and neither published nor stopped a channel. -/
theorem Raced.moved (raced : Raced pool) {jobs : List (ℕ × Calls ServerCall Unit)}
    (grows : Grows pool.state next.state none none)
    (threads : next.threads = pool.threads ++ jobs.map Thread.start)
    (started : ∀ job ∈ jobs, Stages returns job.2 .free) : Raced next := by
  have cases_ {thread : Thread ServerCall ℕ Unit} (member : thread ∈ next.threads) :
      thread ∈ pool.threads ∨ thread.log = [] ∧ Stages returns thread.rest .free := by
    rw [threads, List.mem_append, List.mem_map] at member
    rcases member with old | ⟨job, listed, rfl⟩
    · exact .inl old
    · exact .inr ⟨rfl, started job listed⟩
  have old {number channel : ℕ} {thread : Thread ServerCall ℕ Unit}
      (found : next.threads[number]? = some thread)
      (owned : (stageOf thread.log).owned = some channel) :
      pool.threads[number]? = some thread := by
    rw [threads] at found
    rcases ThreadSystem.getElem?_append_cases found with old | new
    · exact old
    · obtain ⟨job, -, rfl⟩ := List.mem_map.mp new
      cases owned
  constructor
  · intro thread member
    rcases cases_ member with old | ⟨log, program⟩
    · exact raced.programs thread old
    · rw [log]
      exact program
  · refine raced.mapped.grows grows ?_ ?_
    · intro n channelKey channel none
      cases none
    · intro channel none
      cases none
  · intro thread member
    rcases cases_ member with old | ⟨log, -⟩
    · refine (raced.stages thread old).grows grows fun _ _ => ?_
      exact ⟨fun _ _ => (Option.some_ne_none _).symm, (Option.some_ne_none _).symm⟩
    · rw [log]
      exact trivial
  · intro number number' thread thread' channel found found' owned owned'
    exact raced.apart number number' thread thread' channel (old found owned)
      (old found' owned') owned owned'
  · intro thread member event logged channelKey channel granted
    rcases cases_ member with old | ⟨log, -⟩
    · exact grows.kept _ _ _ (raced.granted thread old event logged channelKey channel granted)
    · rw [log] at logged
      cases logged
  · intro thread member event logged channel lost
    rcases cases_ member with old | ⟨log, -⟩
    · obtain ⟨spare, held⟩ := raced.surplus thread old event logged channel lost
      exact ⟨spare.grows grows fun _ _ => (Option.some_ne_none _).symm,
        held.imp_left fun stopped => stopped.grows grows⟩
    · rw [log] at logged
      cases logged

/-- A thread took a step. -/
theorem Raced.call (raced : Raced pool) {number : ℕ} {thread : Thread ServerCall ℕ Unit}
    {β : Type} {request : ServerCall β} {cont : β → Calls ServerCall Unit} {answer : β}
    (found : pool.threads[number]? = some thread) (program : thread.rest = .call request cont)
    (ran : pool.state.exec number ⟨thread.tag, 0, .initNode⟩ request = some (answer, next.state))
    (threads : next.threads = pool.threads.set number (thread.answered request cont answer)) :
    Raced next := by
  have member := List.mem_of_getElem? found
  have follows := raced.programs thread member
  rw [program] at follows
  obtain ⟨permitted, goes⟩ := follows
  have holds := raced.stages thread member
  have fresh : stageOf thread.log ≠ .stale := by
    intro stale
    rw [stale] at holds
    exact holds
  have advances := raced.mapped.advances holds permitted ran
  obtain ⟨published, stopped, grows, publishes, stops⟩ := advances.grows
  -- what is published or stopped belongs to this thread
  have made {m : ℕ} {channelKey : CString} {channel : ℕ}
      (new : published = some (m, channelKey, channel)) :
      (stageOf thread.log).owned = some channel ∧ pool.state.Spare channel ∧
        pool.state.Open channel ∧ pool.state.MadeFor channelKey channel ∧ stopped = none := by
    obtain ⟨stage, none⟩ := publishes m channelKey channel new
    rw [stage] at holds
    exact ⟨congrArg RouterStage.owned stage, holds.1, holds.2.1, holds.2.2, none⟩
  have lost {channel : ℕ} (stop : stopped = some channel) :
      (stageOf thread.log).owned = some channel ∧ pool.state.Spare channel := by
    obtain ⟨channelKey, other, stage⟩ := stops channel stop
    have owned := congrArg RouterStage.owned stage
    exact ⟨owned, holds.spare owned⟩
  have others {number' channel : ℕ} {thread' : Thread ServerCall ℕ Unit} (differ : number' ≠ number)
      (found' : pool.threads[number']? = some thread')
      (owned : (stageOf thread'.log).owned = some channel) :
      (stageOf thread.log).owned ≠ some channel := fun mine =>
    differ (raced.apart number' number thread' thread channel found' found owned mine)
  -- what was lost stays so: it is stopped, or another thread's
  have remains {channel : ℕ} (spare : pool.state.Spare channel)
      (held : pool.state.Stopped channel ∨ (stageOf thread.log).owned ≠ some channel) :
      next.state.Spare channel := by
    refine spare.grows grows fun m channelKey new => ?_
    obtain ⟨owned, -, isOpen, -, -⟩ := made new
    rcases held with isStopped | differ
    · obtain ⟨known, here, closing⟩ := isStopped
      obtain ⟨known', here', opening⟩ := isOpen
      obtain rfl := Option.some.inj (here.symm.trans here')
      exact Bool.noConfusion (closing.symm.trans opening)
    · exact differ owned
  have cases_ {other : Thread ServerCall ℕ Unit} (listed : other ∈ next.threads) :
      (∃ number', number' ≠ number ∧ pool.threads[number']? = some other) ∨
        other = thread.answered request cont answer := by
    obtain ⟨number', here⟩ := List.mem_iff_getElem?.mp listed
    rw [threads] at here
    rcases ThreadSystem.getElem?_set_cases here with ⟨-, same⟩ | ⟨differ, old⟩
    · exact .inr same
    · exact .inl ⟨number', differ, old⟩
  constructor
  · intro other listed
    rcases cases_ listed with ⟨number', -, old⟩ | rfl
    · exact raced.programs other (List.mem_of_getElem? old)
    · exact goes answer
  · exact raced.mapped.grows grows (fun _ _ _ new => (made new).2) fun _ stop => (lost stop).2
  · intro other listed
    rcases cases_ listed with ⟨number', differ, old⟩ | rfl
    · refine (raced.stages other (List.mem_of_getElem? old)).grows grows fun channel owned => ?_
      have mine := others differ old owned
      exact ⟨fun _ _ new => mine (made new).1, fun stop => mine (lost stop).1⟩
    · exact advances.holds
  · -- a channel that was just made is nobody else's
    have alone {number' channel : ℕ} {other : Thread ServerCall ℕ Unit} (differ : number' ≠ number)
        (old : pool.threads[number']? = some other)
        (owned : (stageOf other.log).owned = some channel)
        (mine : ((stageOf thread.log).next request answer).owned = some channel) : False := by
      rcases advances.owned channel mine with before | new
      · exact others differ old owned before
      · have spare := (raced.stages other (List.mem_of_getElem? old)).spare owned
        exact (Nat.not_lt.mpr new) spare.bound
    intro first second thread₁ thread₂ channel found₁ found₂ owned₁ owned₂
    rw [threads] at found₁ found₂
    rcases ThreadSystem.getElem?_set_cases found₁ with ⟨rfl, rfl⟩ | ⟨differ₁, old₁⟩
    · rcases ThreadSystem.getElem?_set_cases found₂ with ⟨rfl, rfl⟩ | ⟨differ₂, old₂⟩
      · rfl
      · exact (alone differ₂ old₂ owned₂ owned₁).elim
    · rcases ThreadSystem.getElem?_set_cases found₂ with ⟨rfl, rfl⟩ | ⟨differ₂, old₂⟩
      · exact (alone differ₁ old₁ owned₁ owned₂).elim
      · exact raced.apart first second thread₁ thread₂ channel old₁ old₂ owned₁ owned₂
  · intro other listed event logged channelKey channel granted
    rcases cases_ listed with ⟨number', -, old⟩ | rfl
    · exact grows.kept _ _ _
        (raced.granted other (List.mem_of_getElem? old) event logged channelKey channel granted)
    · rcases List.mem_cons.mp logged with rfl | earlier
      · have holds := advances.holds
        rcases grants_next fresh granted with stage | ⟨made, stage⟩
        · rw [stage] at holds
          exact holds
        · rw [stage] at holds
          exact holds.2
      · exact grows.kept _ _ _
          (raced.granted thread member event earlier channelKey channel granted)
  · intro other listed event logged channel none
    rcases cases_ listed with ⟨number', differ, old⟩ | rfl
    · obtain ⟨spare, held⟩ :=
        raced.surplus other (List.mem_of_getElem? old) event logged channel none
      refine ⟨remains spare ?_, held.imp_left fun isStopped => isStopped.grows grows⟩
      refine held.imp_right ?_
      rintro ⟨channelKey, winner, stage⟩
      exact others differ old (congrArg RouterStage.owned stage)
    · rcases List.mem_cons.mp logged with rfl | earlier
      · obtain ⟨channelKey, winner, stage⟩ := surplus_next fresh none
        have holds := advances.holds
        rw [stage] at holds
        exact ⟨holds.1, .inr ⟨channelKey, winner, stage⟩⟩
      · obtain ⟨spare, isStopped | ⟨channelKey, winner, stage⟩⟩ :=
          raced.surplus thread member event earlier channel none
        · exact ⟨remains spare (.inl isStopped), .inl (isStopped.grows grows)⟩
        · -- the step is the one that stops it
          have holds := advances.holds
          rw [stage] at permitted
          rw [stage, lost_next permitted] at holds
          exact ⟨holds.1, .inl holds.2.1⟩

end Raced

/-- No router has a channel before it is used. -/
theorem raced_start (clockMs : Int) (configs : ℕ → ServerConfig) (database : Database) :
    Raced ⟨.start clockMs configs database, []⟩ where
  programs := List.forall_mem_nil _
  mapped := by
    constructor
    · intro n channelKey channel holds
      cases holds
    · intro n channelKey m channelKey' channel holds
      cases holds
  stages := List.forall_mem_nil _
  apart := by
    intro number number' thread thread' channel found
    cases found
  granted := List.forall_mem_nil _
  surplus := List.forall_mem_nil _

section Reach

open Cluster

variable {pool next : RouterPool}

theorem Raced.turn (raced : Raced pool) {label : Turn RouterEvent} (formed : FormedNodes pool label)
    (moved : routerSystem.turn pool label = some next) : Raced next := by
  rcases ThreadSystem.turn_cases moved with
    ⟨number, thread, β, request, cont, answer, -, found, program, ran, threads⟩ |
    ⟨event, jobs, rfl, acted, threads⟩
  · exact raced.call found program ran threads
  · have started := stages_environment formed acted
    refine raced.moved ?_ threads started
    cases event with
    | getOrCreateChannel n nodeMeta shardIndex =>
      rw [← (Prod.mk.inj (Option.some.inj acted)).1]
      exact .refl _
    | sendInternalMessage n nodeMeta shardIndex frame =>
      rw [← (Prod.mk.inj (Option.some.inj acted)).1]
      exact .refl _
    | prewarmNode n nodeMeta =>
      rw [← (Prod.mk.inj (Option.some.inj acted)).1]
      exact .refl _
    | move index move =>
      obtain ⟨after, stepped, same⟩ := Option.map_eq_some_iff.mp acted
      rw [← (Prod.mk.inj same).1]
      obtain ⟨channel, found, stepped⟩ := Option.bind_eq_some_iff.mp stepped
      obtain ⟨queue, ran, rfl⟩ := Option.map_eq_some_iff.mp stepped
      have closing := move_closing ran
      refine .withChannel found (fun shut => closing.trans shut) (fun _ => closing) fun spare => ?_
      exact (spare.queue found).move ran
    | receive index =>
      obtain ⟨after, stepped, same⟩ := Option.map_eq_some_iff.mp acted
      rw [← (Prod.mk.inj same).1]
      obtain ⟨channel, found, stepped⟩ := Option.bind_eq_some_iff.mp stepped
      obtain ⟨queue, ran, rfl⟩ := Option.map_eq_some_iff.mp stepped
      have closing := receive_closing ran
      refine .withChannel found (fun shut => closing.trans shut) (fun _ => closing) fun spare => ?_
      -- nothing is on the wire of a channel that no message has come to
      have empty := (spare.queue found).wire
      simp only [ChannelLoop.receive, empty] at ran
      cases ran

theorem raced_of_reach {clockMs : Int} {configs : ℕ → ServerConfig} {database : Database}
    (reached : routerSystem.machine.Reach FormedNodes ⟨.start clockMs configs database, []⟩ pool) :
    Raced pool :=
  reached.invariant Raced (raced_start clockMs configs database) fun raced formed moved =>
    raced.turn formed moved

/-! ### One channel for each node and shard -/

/-- A call of `getOrCreateChannel` on a node has returned a channel. -/
def Returned (pool : RouterPool) (n : ℕ) (nodeMeta : NodeMeta) (shardIndex channel : ℕ) : Prop :=
  ∃ thread ∈ pool.threads, thread.tag = n ∧ ∃ later log earlier,
    thread.log = later ++ log ++ earlier ∧
      (getOrCreateChannel nodeMeta shardIndex).Answers log channel

/-- A thread has made the channel and lost the race. -/
def Surplus (pool : RouterPool) (channel : ℕ) : Prop :=
  ∃ thread ∈ pool.threads, ∃ event ∈ thread.log, surplus event = some channel

/-- Each pair of a node and a shard has one channel on a router, which is open, and a channel
that is one too many gets no message: no router has it, and it is stopped, or this is what the
thread that made it does next. -/
structure OneEach (pool : RouterPool) : Prop where
  live : ∀ n nodeMeta shardIndex channel, Returned pool n nodeMeta shardIndex channel →
    pool.state.channelOf n (makeChannelKey nodeMeta.nodeId shardIndex) = some channel ∧
      pool.state.Open channel
  same : ∀ n nodeMeta shardIndex channel m nodeMeta' shardIndex' channel',
    Returned pool n nodeMeta shardIndex channel →
    Returned pool m nodeMeta' shardIndex' channel' →
    (channel = channel' ↔ n = m ∧ nodeMeta.nodeId = nodeMeta'.nodeId ∧ shardIndex = shardIndex')
  spare : ∀ channel, Surplus pool channel → pool.state.Spare channel ∧
    (pool.state.Stopped channel ∨ ∃ thread ∈ pool.threads, ∃ cont,
      thread.rest = .call (.channel channel .stop) cont)

theorem Raced.returned (raced : Raced pool) {n : ℕ} {nodeMeta : NodeMeta} {shardIndex channel : ℕ}
    (returned : Returned pool n nodeMeta shardIndex channel) :
    pool.state.channelOf n (makeChannelKey nodeMeta.nodeId shardIndex) = some channel := by
  obtain ⟨thread, member, rfl, later, log, earlier, logged, answers⟩ := returned
  have ends := answers.post (getOrCreateChannel_grants nodeMeta shardIndex)
  rw [List.append_nil] at ends
  obtain ⟨event, listed, granted⟩ := ends
  refine raced.granted thread member event ?_ _ channel granted
  rw [logged]
  exact List.mem_append_left _ (List.mem_append_right _ listed)

/-- A thread that lost the race stops its channel next. -/
theorem stops_next {program : Calls ServerCall Unit} {channelKey : CString} {channel other : ℕ}
    (stages : Stages returns program (.lost channelKey channel other)) :
    ∃ cont, program = .call (.channel channel .stop) cont := by
  cases program with
  | ret value => exact stages.elim
  | call request cont =>
    have permitted := stages.1
    cases request with
    | channel channel' call =>
      cases call with
      | stop =>
        obtain rfl := permitted
        exact ⟨cont, rfl⟩
      | _ => exact permitted.elim
    | _ => exact permitted.elim

theorem Raced.oneEach (raced : Raced pool) : OneEach pool := by
  constructor
  · intro n nodeMeta shardIndex channel returned
    have here := raced.returned returned
    exact ⟨here, (raced.mapped.known _ _ _ here).1⟩
  · intro n nodeMeta shardIndex channel m nodeMeta' shardIndex' channel' first second
    have here := raced.returned first
    have there := raced.returned second
    constructor
    · rintro rfl
      obtain ⟨node, key⟩ := raced.mapped.distinct _ _ _ _ _ here there
      exact ⟨node, makeChannelKey_inj.mp key⟩
    · rintro ⟨rfl, pair⟩
      rw [makeChannelKey_inj.mpr pair] at here
      exact Option.some.inj (here.symm.trans there)
  · rintro channel ⟨thread, member, event, logged, lost⟩
    obtain ⟨spare, isStopped | ⟨channelKey, other, stage⟩⟩ :=
      raced.surplus thread member event logged channel lost
    · exact ⟨spare, .inl isStopped⟩
    · have stages := raced.programs thread member
      rw [stage] at stages
      exact ⟨spare, .inr ⟨thread, member, stops_next stages⟩⟩

/-- **One channel for each node and shard.** Whatever threads do on the routers before they are
closed, all calls for a node and a shard return one channel, calls for other pairs return
others, every channel that was returned is the one that the router has and open, and a channel
made by a thread that lost the race is stopped before any message comes to it. -/
theorem getOrCreateChannel_oneEach (clockMs : Int) (configs : ℕ → ServerConfig)
    (database : Database) (pool : RouterPool)
    (reached : routerSystem.machine.Reach FormedNodes ⟨.start clockMs configs database, []⟩ pool) :
    OneEach pool :=
  (raced_of_reach reached).oneEach

/-- The node that two threads want a channel to. -/
def racedNode : NodeMeta := initNode [] 6000 (cString ['1', '0', '.', '1']) 7001 0

instance (nodeMeta : NodeMeta) : Decidable nodeMeta.Formed :=
  inferInstanceAs (Decidable (nodeMeta.nodeId = _))

instance (pool : RouterPool) : (label : Turn RouterEvent) → Decidable (FormedNodes pool label)
  | .thread _ => .isTrue trivial
  | .environment (.getOrCreateChannel _ nodeMeta _) =>
    inferInstanceAs (Decidable nodeMeta.Formed)
  | .environment (.sendInternalMessage _ nodeMeta _ _) =>
    inferInstanceAs (Decidable nodeMeta.Formed)
  | .environment (.prewarmNode _ nodeMeta) => inferInstanceAs (Decidable nodeMeta.Formed)
  | .environment (.move _ _) => .isTrue trivial
  | .environment (.receive _) => .isTrue trivial

/-- Both find none, both make one, and the second to publish stops its own. -/
def raceTurns : List (Turn RouterEvent) :=
  [.environment (.getOrCreateChannel 0 racedNode 0),
    .environment (.getOrCreateChannel 0 racedNode 0),
    .thread 0, .thread 1, .thread 0, .thread 1, .thread 0, .thread 1, .thread 1, .thread 1]

theorem getOrCreateChannel_oneEach_race :
    ∃ pool : RouterPool, (pool.threads.all fun thread => thread.rest.returned.isSome) = true ∧
      pool.state.channels.length = 2 ∧
      (pool.threads.flatMap fun thread => thread.log.filterMap surplus) = [1] ∧ OneEach pool := by
  have ran : ((routerSystem.machine.runWithin FormedNodes
      ⟨.start 0 (twoServers 4) twoUsers, []⟩ raceTurns).any fun pool =>
        (pool.threads.all fun thread => thread.rest.returned.isSome) &&
          decide (pool.state.channels.length = 2) &&
          decide ((pool.threads.flatMap fun thread => thread.log.filterMap surplus) = [1])) =
        true := by
    decide +kernel
  obtain ⟨pool, ran, facts⟩ := (Option.any_eq_true _ _).mp ran
  obtain ⟨facts, lost⟩ := Bool.and_eq_true_iff.mp facts
  obtain ⟨ended, made⟩ := Bool.and_eq_true_iff.mp facts
  exact ⟨pool, ended, of_decide_eq_true made, of_decide_eq_true lost,
    getOrCreateChannel_oneEach 0 (twoServers 4) twoUsers pool (.of_runWithin .refl ran)⟩

end Reach

end ClusterChat
