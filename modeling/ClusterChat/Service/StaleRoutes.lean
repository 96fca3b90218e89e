/-
# Stale routes

A handler of messages that does not reach a user looks the user's route up. A route that leads to
its own node is taken to be stale, and is dropped with the user's session. That is right as long
as the user is not connected to the node. The handler knows of two reasons why it did not reach the
user, and does not tell them apart: the user has no entry in the connection table, or the delivery
queue of the user's loop is full. Even where there was no entry, the user may log in before the
route is looked up.
-/

import ClusterChat.Service.Login

namespace ClusterChat

open ServerCall

/-! ### The users that a handler has missed -/

/-- The users that a handler of messages has not reached and whose route it may still drop, after
an event: looking up the route of one is the end of those before, and dropping it, or going on
with the message, is the end of all. -/
def missedAfter : List UserId → Event ServerCall → List UserId
  | missed, ⟨.service (.getLocalConnection userId), none⟩ => missed ++ [userId]
  | missed, ⟨.dispatch _ (.push task), .full⟩ => missed ++ [task.copy.recipient]
  | missed, ⟨.registry (.node (.getCachedUserNode userId)), _⟩ => missed.dropWhile (· ≠ userId)
  | missed, ⟨.registry (.node (.eraseCachedUserNode .unbindUser _)), _⟩ => missed.tail
  | _, ⟨.service (.send _ _), _⟩ => []
  | _, ⟨.service .iterationOrder, _⟩ => []
  | _, ⟨.router _, _⟩ => []
  | _, ⟨.channel _ _, _⟩ => []
  | _, ⟨.database _, _⟩ => []
  | missed, _ => missed

/-- The same for a log. -/
def missedBy (log : List (Event ServerCall)) : List UserId :=
  log.foldr (fun event missed => missedAfter missed event) []

@[simp] theorem missedBy_cons (event : Event ServerCall) (log : List (Event ServerCall)) :
    missedBy (event :: log) = missedAfter (missedBy log) event := rfl

/-- A handler of messages drops the route of a user that it has missed. -/
def dropGuard (missed : List UserId) : ⦃β : Type⦄ → ServerCall β → Prop
  | _, .registry (.node (.eraseCachedUserNode .unbindUser userId)) => userId ∈ missed
  | _, _ => True

/-! ### The condition -/

/-- The condition on a call: a task is refused by a full queue only where its recipient is not
connected any more, and a login enters its user only where no handler of messages on the node has
missed the user and may still drop the user's route. -/
def CallInTime (pool : ClusterPool) (node : ℕ) : {β : Type} → ServerCall β → Prop
  | _, .dispatch index (.push task) => ∀ dispatcher ∈ pool.state.dispatchers[index]?,
      dispatcher.queue.dispatcher.pending.length < dispatcher.queue.dispatcher.pendingLimit ∨
        pool.state.localEntry node task.copy.recipient = none
  | _, .service (.addLocalConnection userId _) => ∀ thread ∈ pool.threads,
      thread.tag.handler.isMessagePath = true → thread.tag.node = node →
        userId ∉ missedBy thread.log
  | _, _ => True

/-- The same for the next call of a program. -/
def NextCallInTime {ρ : Type} (pool : ClusterPool) (node : ℕ) : Calls ServerCall ρ → Prop
  | .call call _ => CallInTime pool node call
  | .ret _ => True

/-- The condition on a turn. -/
def KeepsLookups (pool : ClusterPool) : Turn ClusterEvent → Prop
  | .thread number =>
    ∀ thread ∈ pool.threads[number]?, NextCallInTime pool thread.tag.node thread.rest
  | .environment _ => True

section Decidable

variable (pool : ClusterPool) (node : ℕ)

instance : {β : Type} → (call : ServerCall β) → Decidable (CallInTime pool node call)
  | _, .dispatch index (.push task) =>
    inferInstanceAs (Decidable (∀ dispatcher ∈ pool.state.dispatchers[index]?,
      dispatcher.queue.dispatcher.pending.length < dispatcher.queue.dispatcher.pendingLimit ∨
        pool.state.localEntry node task.copy.recipient = none))
  | _, .service (.addLocalConnection userId _) =>
    inferInstanceAs (Decidable (∀ thread ∈ pool.threads,
      thread.tag.handler.isMessagePath = true → thread.tag.node = node →
        userId ∉ missedBy thread.log))
  | _, .dispatch _ .isInLoopThread => .isTrue trivial
  | _, .dispatch _ .drainLocalDeliveriesInLoop => .isTrue trivial
  | _, .dispatch _ .drained => .isTrue trivial
  | _, .dispatch _ .queueInLoop => .isTrue trivial
  | _, .service (.removeLocalConnection _) => .isTrue trivial
  | _, .service (.removeFromBucket _ _) => .isTrue trivial
  | _, .service (.getLocalConnection _) => .isTrue trivial
  | _, .service (.getOrCreateLocalDispatcher _) => .isTrue trivial
  | _, .service (.send _ _) => .isTrue trivial
  | _, .service .iterationOrder => .isTrue trivial
  | _, .registry _ => .isTrue trivial
  | _, .router _ => .isTrue trivial
  | _, .channel _ _ => .isTrue trivial
  | _, .database _ => .isTrue trivial

instance {ρ : Type} : (program : Calls ServerCall ρ) → Decidable (NextCallInTime pool node program)
  | .call call _ => inferInstanceAs (Decidable (CallInTime pool node call))
  | .ret _ => .isTrue trivial

instance : (turn : Turn ClusterEvent) → Decidable (KeepsLookups pool turn)
  | .thread number => inferInstanceAs (Decidable (∀ thread ∈ pool.threads[number]?,
      NextCallInTime pool thread.tag.node thread.rest))
  | .environment _ => .isTrue trivial

end Decidable

/-! ### The contract of the handlers of messages -/

/-- A program drops the routes of users that it has missed, and no others. -/
def DropsMissed {α : Type} (program : Calls ServerCall α) (missed : List UserId)
    (post : List UserId → α → Prop) : Prop :=
  program.Follows missedAfter dropGuard post missed

theorem dropGuard_of_plain (missed : List UserId) ⦃β : Type⦄ (call : ServerCall β)
    (plain : call.Plain) : dropGuard missed call := by
  cases call with
  | registry call =>
    cases call with
    | redis call => trivial
    | node call =>
      cases call with
      | eraseCachedUserNode caller userId =>
        cases caller with
        | unbindUser => rcases plain with lookup | ⟨_, registers⟩ <;> contradiction
        | _ => trivial
      | _ => trivial
  | _ => trivial

/-- Plain calls need nobody to be missed. -/
theorem dropsMissed_of_plain {α : Type} {program : Calls ServerCall α} (plain : program.Only Plain)
    (missed : List UserId) : DropsMissed program missed fun _ _ => True :=
  plain.follows_of_kept (fun missed _ call _ plain => dropGuard_of_plain missed call plain)
    (fun _ _ _ _ _ _ => trivial) trivial

theorem suffix_dropWhile {members missed : List UserId} {userId : UserId}
    (suffix : userId :: members <:+ missed) :
    userId :: members <:+ missed.dropWhile (· ≠ userId) := by
  induction missed with
  | nil => exact absurd (List.eq_nil_of_suffix_nil suffix) (List.cons_ne_nil _ _)
  | cons head missed ih =>
    by_cases same : head = userId
    · rw [List.dropWhile_cons_of_neg (by simp [same])]
      exact suffix
    · rw [List.dropWhile_cons_of_pos (by simp [same])]
      rcases List.suffix_cons_iff.mp suffix with whole | suffix
      · exact absurd (List.cons.inj whole).1.symm same
      · exact ih suffix

/-- The members to come stay missed while the route of the first is looked up. -/
theorem route_drops {α : Type} {program : Calls RegistryCall α} {userId : UserId}
    (only : program.Only (RegistryCall.OfRoute userId)) {members missed : List UserId}
    (suffix : userId :: members <:+ missed) :
    DropsMissed (registry program) missed fun missed _ => userId :: members <:+ missed := by
  have looksUp : (registry program).Only fun _ call =>
      ∃ request, call = .registry request ∧ request.OfRoute userId :=
    Calls.Only.lift (only.mono fun _ request asked => ⟨request, rfl, asked⟩)
  apply looksUp.follows_of_kept _ _ suffix
  · rintro missed β call - ⟨request, rfl, asked⟩
    exact dropGuard_of_plain missed _ (.inl (RegistryCall.OfRoute.ofLookup request asked))
  · rintro missed β call answer suffix ⟨request, rfl, asked⟩
    cases request with
    | redis call => exact suffix
    | node call =>
      cases call with
      | getCachedUserNode other =>
        obtain rfl : other = userId := asked
        exact suffix_dropWhile suffix
      | eraseCachedUserNode caller other =>
        cases caller with
        | unbindUser => exact asked.elim
        | _ => exact suffix
      | _ => exact suffix

/-- A user whose route is dropped is done with. -/
theorem unbindUser_drops (server : Server) {userId : UserId} {members missed : List UserId}
    (suffix : userId :: members <:+ missed) :
    DropsMissed (ChatService.unbindUser server userId) missed fun missed _ =>
      members <:+ missed := by
  have listed : userId ∈ missed := suffix.subset List.mem_cons_self
  have rest : members <:+ missed.tail := by
    obtain ⟨earlier, rfl⟩ := suffix
    cases earlier with
    | nil => exact List.suffix_refl members
    | cons head earlier => exact ⟨earlier ++ [userId], by simp⟩
  have redis : (registry (NodeRegistry.redis
      (Redis.unbindUserNode .unbindUser userId server.selfNode.nodeId))).Only fun _ call =>
        ∃ request, call = .registry (.redis request) :=
    Calls.Only.lift (Calls.Only.lift (Calls.only_of_forall (fun _ request => ⟨request, rfl⟩) _))
  refine ⟨listed, fun _ => ?_⟩
  have unbinds : DropsMissed (registry (NodeRegistry.redis
      (Redis.unbindUserNode .unbindUser userId server.selfNode.nodeId))) missed.tail
        fun missed _ => members <:+ missed := by
    apply redis.follows_of_kept _ _ rest
    · rintro missed β call - ⟨request, rfl⟩
      trivial
    · rintro missed β call answer suffix ⟨request, rfl⟩
      exact suffix
  exact unbinds.andThen fun _ _ suffix => suffix

namespace ChatService

/-- A recipient whom a handler did not reach is missed. -/
theorem deliverToLocalUser_drops (copy : Copy) (missed : List UserId) :
    DropsMissed (deliverToLocalUser copy) missed fun missed delivered =>
      delivered = false → [copy.recipient] <:+ missed := by
  refine ⟨trivial, fun found => ?_⟩
  cases found with
  | none => exact fun _ => List.suffix_append missed _
  | some conn =>
    refine ⟨trivial, fun dispatcher => ⟨trivial, fun reply => ?_⟩⟩
    match reply with
    | .full => exact fun _ => List.suffix_append missed _
    | .pushed false => exact Bool.noConfusion
    | .pushed true =>
      refine ⟨trivial, fun inLoop => ?_⟩
      cases inLoop with
      | true => exact ⟨trivial, fun _ => ⟨trivial, fun _ => Bool.noConfusion⟩⟩
      | false => exact ⟨trivial, fun _ => Bool.noConfusion⟩

theorem oneChat_drops (server : Server) (copy : Copy) (missed : List UserId) :
    DropsMissed (oneChat server copy) missed fun _ _ => True := by
  apply (deliverToLocalUser_drops copy missed).andThen
  intro missed delivered suffix
  cases delivered with
  | true => trivial
  | false =>
    apply (route_drops (resolveUserNode_route copy.recipient) (suffix rfl)).andThen
    intro missed found suffix
    match found with
    | none => exact ⟨trivial, fun _ => trivial⟩
    | some (nodeId, nodeMeta) =>
      dsimp only
      by_cases self : isSelfNode server nodeId = true
      · rw [if_pos self]
        apply (unbindUser_drops server suffix).andThen
        intro missed _ _
        exact ⟨trivial, fun _ => trivial⟩
      · rw [if_neg self]
        -- what is left looks nobody up
        apply dropsMissed_of_plain
        apply (ClusterRouter.prewarmNode_only server.shardCount nodeMeta).bind
        intro _
        apply (ClusterRouter.sendOneChat_only server.shardCount nodeMeta copy).bind
        intro accepted
        cases accepted with
        | true => trivial
        | false => exact ⟨trivial, fun _ => trivial⟩

/-- The members that were not found are missed, in order. -/
theorem lookupMembers_drops (members missed : List UserId) :
    DropsMissed (lookupMembers members) missed fun after found => after = missed ++ found.2 := by
  induction members generalizing missed with
  | nil => exact (List.append_nil missed).symm
  | cons id rest ih =>
    refine ⟨trivial, fun found => ?_⟩
    cases found with
    | none =>
      apply (ih (missed ++ [id])).andThen
      rintro after ⟨localConns, unresolved⟩ same
      exact same.trans (List.append_assoc missed [id] unresolved)
    | some conn =>
      apply (ih missed).andThen
      rintro after ⟨localConns, unresolved⟩ same
      exact same

theorem resolveMembers_drops (server : Server) {members missed : List UserId}
    (buckets : List (CString × List UserId)) (offlineIds : List UserId)
    (suffix : members <:+ missed) :
    DropsMissed (resolveMembers server members buckets offlineIds) missed fun _ _ => True := by
  induction members generalizing missed buckets offlineIds with
  | nil => trivial
  | cons id rest ih =>
    apply (route_drops (resolveUserNode_route id) suffix).andThen
    intro missed found suffix
    have later : rest <:+ missed := (List.suffix_cons id rest).trans suffix
    match found with
    | none => exact ih _ _ later
    | some (nodeId, nodeMeta) =>
      dsimp only
      by_cases self : isSelfNode server nodeId = true
      · rw [if_pos self]
        apply (unbindUser_drops server suffix).andThen
        intro missed _ later
        exact ih _ _ later
      · rw [if_neg self]
        exact ih _ _ later

theorem groupChat_drops (server : Server) (message : Message) (userId : UserId) (groupId : Int32) :
    DropsMissed (groupChat server message userId groupId) [] fun _ _ => True := by
  rw [groupChat, database_bind]
  refine ⟨trivial, fun members => ?_⟩
  dsimp only
  by_cases empty : members = []
  · rw [if_neg fun listed => listed empty]
    trivial
  · rw [if_pos empty]
    apply (lookupMembers_drops members []).andThen
    rintro missed ⟨localConns, unresolved⟩ rfl
    apply (resolveMembers_drops server [] [] (List.suffix_refl _)).andThen
    rintro missed ⟨buckets, offlineIds⟩ -
    apply dropsMissed_of_plain
    apply (sendToConnections_only message localConns).bind
    intro _
    refine ⟨trivial, fun order => ?_⟩
    exact (sendBuckets_only server message _ offlineIds).bind fun _ => insertAll_only message _

theorem dropStaleRoute_drops (server : Server) {userId : UserId} {missed : List UserId}
    (suffix : [userId] <:+ missed) :
    DropsMissed (dropStaleRoute server userId) missed fun _ _ => True := by
  apply (route_drops (queryUserNode_route userId) suffix).andThen
  intro missed found suffix
  have drops : DropsMissed (unbindUser server userId) missed fun _ _ => True :=
    (unbindUser_drops server suffix).mono fun _ _ _ => trivial
  cases found with
  | none => exact drops
  | some nodeId =>
    dsimp only
    by_cases self : isSelfNode server nodeId = true
    · rw [if_pos self]
      exact drops
    · rw [if_neg self]
      trivial

theorem handleClusterOneChatFrame_drops (server : Server) (copy : Copy) (missed : List UserId) :
    DropsMissed (handleClusterOneChatFrame server copy) missed fun _ _ => True := by
  apply (deliverToLocalUser_drops copy missed).andThen
  intro missed delivered suffix
  cases delivered with
  | true => trivial
  | false =>
    apply (dropStaleRoute_drops server (suffix rfl)).andThen
    intro missed _ _
    exact ⟨trivial, fun _ => trivial⟩

theorem handleClusterFrame_drops (server : Server) (frame : Frame) :
    DropsMissed (handleClusterFrame server frame) [] fun _ _ => True := by
  have group : ∀ message members missed,
      DropsMissed (handleClusterGroupChat server message members) missed fun _ _ => True := by
    intro message members
    induction members with
    | nil => exact fun _ => trivial
    | cons userId rest ih =>
      intro missed
      apply (handleClusterOneChatFrame_drops server ⟨message, userId⟩ missed).andThen
      intro missed _ _
      exact ih missed
  rw [handleClusterFrame]
  split
  · exact handleClusterOneChatFrame_drops server _ _
  · exact group _ _ _

end ChatService

/-- **A handler of messages drops the routes of users that it has missed**, whatever it is
answered. -/
def Thread.DropsMissed (thread : Thread ServerCall Job Unit) : Prop :=
  thread.tag.handler.isMessagePath = true →
    ClusterChat.DropsMissed thread.rest (missedBy thread.log) fun _ _ => True

theorem start_dropsMissed (cluster : Cluster) (n loop : ℕ) (handler : Handler) :
    (Thread.start (cluster.job n loop handler)).DropsMissed := by
  intro messages
  cases handler with
  | oneChat copy => exact ChatService.oneChat_drops _ copy []
  | groupChat message userId groupId => exact ChatService.groupChat_drops _ message userId groupId
  | clusterFrame frame => exact ChatService.handleClusterFrame_drops _ frame
  | _ => cases messages

/-! ### One call -/

/-- The routes that a call of a job drops. -/
def Cluster.dropsOf (cluster : Cluster) (job : Job) :
    {β : Type} → ServerCall β → List (ℕ × UserId × Bool)
  | _, .registry call => cluster.routeDrop job call
  | _, _ => []

/-- The user that a call enters into the connection table. -/
def ServerCall.entering : {β : Type} → ServerCall β → Option UserId
  | _, .service (.addLocalConnection userId _) => some userId
  | _, _ => none

section Call

variable {cluster after : Cluster} {number : ℕ} {job : Job} {β : Type} {call : ServerCall β}
  {answer : β}

theorem Cluster.execService_droppedRoutes (call : ServiceCall β) :
    (cluster.execService number job call).2.droppedRoutes = cluster.droppedRoutes := by
  cases call with
  | removeFromBucket bucket conn =>
    simp only [Cluster.execService]
    split <;> rfl
  | getOrCreateLocalDispatcher loop =>
    simp only [Cluster.execService]
    split <;> rfl
  | send conn outgoing =>
    simp only [Cluster.execService, Cluster.send]
    split <;> rfl
  | _ => rfl

theorem Cluster.execRouter_droppedRoutes (call : RouterCall β) :
    (cluster.execRouter job call).2.droppedRoutes = cluster.droppedRoutes := by
  cases call with
  | warm nodeId instanceId =>
    simp only [Cluster.execRouter]
    split <;> rfl
  | findChannel channelKey interIp interPort =>
    simp only [Cluster.execRouter]
    split
    · rfl
    · split
      · rfl
      · split <;> rfl
  | publishChannel channelKey channel =>
    simp only [Cluster.execRouter]
    split <;> rfl
  | _ => rfl

/-- The record of dropped routes grows by the routes that the call drops. -/
theorem Cluster.exec_droppedRoutes
    (ran : Cluster.exec number job call cluster = some (answer, after)) :
    after.droppedRoutes = cluster.droppedRoutes ++ cluster.dropsOf job call := by
  have same : cluster.droppedRoutes = cluster.droppedRoutes ++ [] := (List.append_nil _).symm
  cases call with
  | registry call =>
    simp only [Cluster.exec] at ran
    obtain ⟨⟨value, state⟩, -, ran⟩ := Option.map_eq_some_iff.mp ran
    obtain ⟨-, rfl⟩ := Prod.mk.inj ran
    rfl
  | service call =>
    obtain ⟨-, rfl⟩ := Prod.mk.inj (Option.some.inj ran)
    exact (Cluster.execService_droppedRoutes call).trans same
  | dispatch index call =>
    simp only [Cluster.exec] at ran
    split at ran
    · cases ran
    · obtain ⟨⟨value, queue⟩, -, ran⟩ := Option.map_eq_some_iff.mp ran
      obtain ⟨-, rfl⟩ := Prod.mk.inj ran
      exact same
  | router call =>
    obtain ⟨-, rfl⟩ := Prod.mk.inj (Option.some.inj ran)
    exact (Cluster.execRouter_droppedRoutes call).trans same
  | channel index call =>
    simp only [Cluster.exec] at ran
    split at ran
    · cases ran
    · obtain ⟨⟨value, queue⟩, -, ran⟩ := Option.map_eq_some_iff.mp ran
      obtain ⟨-, rfl⟩ := Prod.mk.inj ran
      exact same
  | database call =>
    obtain ⟨-, rfl⟩ := Prod.mk.inj (Option.some.inj ran)
    exact same

/-- No event drops a route. -/
theorem Cluster.environment_droppedRoutes {event : ClusterEvent}
    {jobs : List (Job × Calls ServerCall Unit)}
    (acted : clusterSystem.environment event cluster = some (after, jobs)) :
    after.droppedRoutes = cluster.droppedRoutes := by
  cases event with
  | initNode n loop => cases acted; rfl
  | heartbeat n loop => cases acted; rfl
  | closeAll n loop => cases acted; rfl
  | reset n loop => cases acted; rfl
  | connect n loop => cases acted; rfl
  | disconnect id =>
    simp only [clusterSystem] at acted
    split at acted
    · cases acted
    · split at acted
      · cases acted; rfl
      · cases acted
  | request id request =>
    simp only [clusterSystem] at acted
    split at acted
    · cases acted
    · cases acted; rfl
  | receive index n loop =>
    obtain ⟨⟨frame, received⟩, taken, acted⟩ := Option.map_eq_some_iff.mp acted
    obtain ⟨rfl, -⟩ := Prod.mk.inj acted
    simp only [Cluster.receive] at taken
    obtain ⟨channel, -, taken⟩ := Option.bind_eq_some_iff.mp taken
    split at taken
    · obtain ⟨⟨_, queue⟩, -, taken⟩ := Option.map_eq_some_iff.mp taken
      obtain ⟨-, rfl⟩ := Prod.mk.inj taken
      rfl
    · cases taken
  | move index move =>
    obtain ⟨channel, -, acted⟩ := Option.bind_eq_some_iff.mp acted
    obtain ⟨queue, -, acted⟩ := Option.map_eq_some_iff.mp acted
    obtain ⟨rfl, -⟩ := Prod.mk.inj acted
    rfl
  | runQueued index =>
    obtain ⟨dispatcher, -, acted⟩ := Option.bind_eq_some_iff.mp acted
    obtain ⟨queue, -, acted⟩ := Option.map_eq_some_iff.mp acted
    obtain ⟨rfl, -⟩ := Prod.mk.inj acted
    rfl
  | drainStep index drain =>
    obtain ⟨drained, moved, acted⟩ := Option.map_eq_some_iff.mp acted
    obtain ⟨rfl, -⟩ := Prod.mk.inj acted
    simp only [Cluster.drainStep] at moved
    obtain ⟨dispatcher, -, moved⟩ := Option.bind_eq_some_iff.mp moved
    obtain ⟨queue, -, rfl⟩ := Option.map_eq_some_iff.mp moved
    split
    · rfl
    · rw [Cluster.send]
      split <;> rfl
  | tables users friends groups => cases acted; rfl
  | iterate order => cases acted; rfl
  | wait n ms => cases acted; rfl
  | waitRedis ms => cases acted; rfl

/-- A user without an entry gets one by being entered. -/
theorem absent_or_entering (ran : Cluster.exec number job call cluster = some (answer, after))
    {n : ℕ} {userId : UserId} (absent : cluster.localEntry n userId = none) :
    after.localEntry n userId = none ∨ job.node = n ∧ call.entering = some userId := by
  by_cases touches : cluster.Touches n userId job call
  · have table := (Cluster.exec_writes ran).2.2
    cases call with
    | service call =>
      cases call with
      | addLocalConnection added conn => exact .inr ⟨touches.1, congrArg some touches.2⟩
      | removeLocalConnection removed =>
        obtain ⟨rfl, rfl⟩ := touches
        rw [table]
        simp [Cluster.tableAfter, Cluster.execService, Cluster.withNode, Cluster.localEntry]
      | removeFromBucket bucket conn =>
        obtain ⟨-, entry, there, -⟩ := touches
        rw [absent] at there
        cases there
      | _ => exact touches.elim
    | _ => exact touches.elim
  · rw [Cluster.localEntry_of_untouched ran touches]
    exact .inl absent

/-- A user whom a handler has just missed has no entry, where the call was in time. -/
theorem missed_absent {pool : ClusterPool} (inTime : CallInTime pool job.node call)
    (ran : Cluster.exec number job call pool.state = some (answer, after)) {missed : List UserId}
    (before : ∀ userId ∈ missed, pool.state.localEntry job.node userId = none) :
    ∀ userId ∈ missedAfter missed ⟨call, answer⟩,
      pool.state.localEntry job.node userId = none := by
  intro userId listed
  cases call with
  | registry call =>
    cases call with
    | redis call => exact before userId listed
    | node call =>
      cases call with
      | getCachedUserNode asked =>
        -- the lookup ends those that were missed before this user
        exact before userId ((List.dropWhile_suffix _).subset listed)
      | eraseCachedUserNode caller erased =>
        cases caller with
        -- the route of the first that was missed goes
        | unbindUser => exact before userId (List.mem_of_mem_tail listed)
        | _ => exact before userId listed
      | _ => exact before userId listed
  | service call =>
    cases call with
    | getLocalConnection asked =>
      -- a user who is not in the local table is missed from now on
      have found : (pool.state.localEntry job.node asked).map LocalEntry.conn = answer :=
        congrArg Prod.fst (Option.some.inj ran)
      cases answer with
      | none =>
        rcases List.mem_append.mp listed with old | new
        · exact before userId old
        · obtain rfl := List.mem_singleton.mp new
          exact Option.map_eq_none_iff.mp found
      | some conn => exact before userId listed
    | send conn outgoing => cases listed
    | iterationOrder => cases listed
    | _ => exact before userId listed
  | dispatch index call =>
    cases call with
    | push task =>
      cases answer with
      | full =>
        rcases List.mem_append.mp listed with old | new
        · exact before userId old
        · -- the queue was full, so the recipient is gone
          obtain rfl := List.mem_singleton.mp new
          simp only [Cluster.exec] at ran
          split at ran
          · cases ran
          · rename_i dispatcher found
            rcases inTime dispatcher found with room | gone
            · simp only [DeliveryLoop.exec, LocalLoopDispatcher.push, if_neg (not_le.mpr room),
                Option.map_some] at ran
              cases ran
            · exact gone
      | pushed shouldSchedule => exact before userId listed
    | _ => exact before userId listed
  | router call => cases listed
  | channel index call => cases listed
  | database call => cases listed

end Call

/-! ### Every run -/

/-- The invariant: nobody whom a handler of messages has missed is connected to its node, and no
route of a connected user was dropped. -/
structure DropsStale (pool : ClusterPool) : Prop where
  drops : ∀ thread ∈ pool.threads, thread.DropsMissed
  missed : ∀ thread ∈ pool.threads, thread.tag.handler.isMessagePath = true →
    ∀ userId ∈ missedBy thread.log, pool.state.localEntry thread.tag.node userId = none
  stale : ∀ drop ∈ pool.state.droppedRoutes, drop.2.2 = false

variable {pool next : ClusterPool}

theorem DropsStale.turn {turn : Turn ClusterEvent} (before : DropsStale pool)
    (keeps : KeepsLookups pool turn) (moved : clusterSystem.turn pool turn = some next) :
    DropsStale next := by
  have drops : ∀ thread ∈ next.threads, thread.DropsMissed := by
    apply ThreadSystem.turn_forall_threads before.drops _ _ moved
    · intro thread β request cont answer drops program messages
      have follows := drops messages
      rw [program] at follows
      exact follows.2 answer
    · intro event cluster jobs acted job listed
      obtain ⟨n, loop, handler, rfl⟩ := (Cluster.environment_writes acted).2.2.2.2 job listed
      exact start_dropsMissed pool.state n loop handler
  rcases ThreadSystem.turn_cases moved with
    ⟨number, thread, β, request, cont, answer, rfl, found, program, ran, threads⟩ |
    ⟨event, jobs, rfl, acted, threads⟩
  · have listed := List.mem_of_getElem? found
    have inTime : CallInTime pool thread.tag.node request := by
      have inTime := keeps thread found
      rw [program] at inTime
      exact inTime
    -- whoever is missed on some node is not the one that is entered there
    have absent {other : Thread ServerCall Job Unit} (member : other ∈ pool.threads)
        (messages : other.tag.handler.isMessagePath = true) {userId : UserId}
        (missed : userId ∈ missedBy other.log) :
        next.state.localEntry other.tag.node userId = none := by
      rcases absent_or_entering ran (before.missed other member messages userId missed) with
        absent | ⟨node, enters⟩
      · exact absent
      · cases request with
        | service call =>
          cases call with
          | addLocalConnection added conn =>
            obtain rfl := Option.some.inj enters
            exact absurd missed (inTime other member messages node.symm)
          | _ => cases enters
        | _ => cases enters
    refine ⟨drops, ?_, ?_⟩
    · intro other member messages userId missed
      rw [threads] at member
      rcases List.mem_or_eq_of_mem_set member with old | rfl
      · exact absent old messages missed
      · rw [Thread.answered_log, missedBy_cons] at missed
        have now := missed_absent inTime ran (before.missed thread listed messages) userId missed
        rcases absent_or_entering ran now with absent' | ⟨-, enters⟩
        · exact absent'
        · -- a handler of messages enters nobody; if this one did, the condition forbids it
          cases request with
          | service call =>
            cases call with
            | addLocalConnection added conn =>
              obtain rfl := Option.some.inj enters
              exact absurd missed (inTime thread listed messages rfl)
            | _ => cases enters
          | _ => cases enters
    · intro drop dropped
      rw [Cluster.exec_droppedRoutes ran] at dropped
      rcases List.mem_append.mp dropped with old | new
      · exact before.stale drop old
      · cases request with
        | registry call =>
          cases call with
          | redis call => cases new
          | node call =>
            cases call with
            | eraseCachedUserNode caller userId =>
              cases caller with
              | unbindUser =>
                simp only [Cluster.dropsOf, Cluster.routeDrop] at new
                split at new
                · rename_i messages
                  have follows := before.drops thread listed messages
                  rw [program] at follows
                  have gone := before.missed thread listed messages userId follows.1
                  obtain rfl := List.mem_singleton.mp new
                  rw [gone]
                  rfl
                · cases new
              | _ => cases new
            | _ => cases new
        | _ => cases new
  · obtain ⟨-, -, table, -, -⟩ := Cluster.environment_writes acted
    refine ⟨drops, ?_, ?_⟩
    · intro other member messages userId missed
      rw [table]
      rw [threads, List.mem_append] at member
      rcases member with old | new
      · exact before.missed other old messages userId missed
      · obtain ⟨job, -, rfl⟩ := List.mem_map.mp new
        cases missed
    · intro drop dropped
      rw [Cluster.environment_droppedRoutes acted] at dropped
      exact before.stale drop dropped

/-- **Only stale routes are dropped**, in every run in which a queue refuses a message only where
its recipient is gone, and in which a user logs in only where no handler of messages has just
missed the user: whenever a handler of messages unbinds a user, the user is not connected to its
node. -/
theorem droppedRoutes_stale {clockMs : Int} {configs : ℕ → ServerConfig} {database : Database}
    (reached : clusterSystem.machine.Reach KeepsLookups (startPool clockMs configs database) pool) :
    ∀ drop ∈ pool.state.droppedRoutes, drop.2.2 = false := by
  have stale : DropsStale pool := by
    apply reached.invariant DropsStale
    · exact ⟨List.forall_mem_nil _, List.forall_mem_nil _, List.forall_mem_nil _⟩
    · intro pool next turn before keeps moved
      exact before.turn keeps moved
  exact stale.stale

/-- A node whose loops queue one message comes up, two clients connect to different loops of it, and
the first logs in. -/
def nodeAndLogin : List (Turn ClusterEvent) :=
  ThreadSystem.handling 0 10 (.initNode 0 0) ++
    [.environment (.connect 0 0), .environment (.connect 0 1)] ++
    ThreadSystem.handling 1 16 (.request 0 (.login 7 password.bytes))

/-- A message comes while the user is logging out: the user's entry is gone, and the route is not.
-/
theorem droppedRoutes_stale_logout :
    ∃ pool, clusterSystem.machine.Reach KeepsLookups (startPool 0 (twoServers 1) twoUsers) pool ∧
      pool.state.droppedRoutes ≠ [] ∧ ∀ drop ∈ pool.state.droppedRoutes, drop.2.2 = false := by
  have ran : ((clusterSystem.machine.runWithin KeepsLookups (startPool 0 (twoServers 1) twoUsers)
      (nodeAndLogin ++ ThreadSystem.handling 2 1 (.request 0 (.logout 7)) ++
        ThreadSystem.handling 3 9 (.request 1 (.oneChat 7 [])))).any fun pool =>
      decide (pool.state.droppedRoutes ≠ [])) = true := by
    decide +kernel
  obtain ⟨pool, ran, dropped⟩ := (Option.any_eq_true _ _).mp ran
  have reached := Machine.Reach.of_runWithin .refl ran
  exact ⟨pool, reached, of_decide_eq_true dropped, droppedRoutes_stale reached⟩

/-- The second message finds the queue full, and the session of the connected user is deleted. -/
theorem fullQueue_dropsRoute :
    ∃ pool, ClusterReach 0 (twoServers 1) twoUsers pool ∧
      (0, 7, true) ∈ pool.state.droppedRoutes ∧ pool.state.localEntry 0 7 ≠ none ∧
        pool.state.store.session 7 = none := by
  have ran : ((clusterSystem.machine.run (startPool 0 (twoServers 1) twoUsers)
      (nodeAndLogin ++ ThreadSystem.handling 2 5 (.request 1 (.oneChat 7 [])) ++
        ThreadSystem.handling 3 11 (.request 1 (.oneChat 7 [])))).any fun pool =>
      decide ((0, 7, true) ∈ pool.state.droppedRoutes ∧ pool.state.localEntry 0 7 ≠ none ∧
        pool.state.store.session 7 = none)) = true := by
    decide +kernel
  obtain ⟨pool, ran, found⟩ := (Option.any_eq_true _ _).mp ran
  exact ⟨pool, .of_run ran, of_decide_eq_true found⟩

end ClusterChat
