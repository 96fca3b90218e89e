/-
# What a thread has in its hands

A handler may have the mutex of the Redis client, and it may have been told to start a drain of a
delivery queue. It knows the delivery queues, the channels and the connections that it was told of.
Whatever it is answered, a handler never waits for the mutex while it has it, does nothing but talk
to Redis meanwhile, starts the drain that it was told to start before it turns to another queue,
uses no queue, channel or connection that it does not know, gives a task to the queue of the loop
that the task's connection belongs to, and returns with free hands.
-/

import ClusterChat.Registry.Brackets
import ClusterChat.Delivery.Flow
import ClusterChat.Service.Login

namespace ClusterChat

/-- What a thread has in its hands, and the queues, each with its loop, the channels and the
connections that it was told of. -/
structure Grip where
  holds : Bool
  starting : Option ℕ
  dispatchers : List (ℕ × ℕ)
  channels : List ℕ
  connections : List Connection

/-- The channel that a lookup found. -/
def ChannelFound.told : ChannelFound → List ℕ
  | current channel => [channel]
  | stale channel => [channel]
  | absent => []

namespace ServerCall

/-- Whether a thread has the mutex after a call. -/
def holdsAfter (holds : Bool) : {β : Type} → ServerCall β → β → Bool
  | _, .registry call, answer => ClusterChat.holdsAfter holds ⟨call, answer⟩
  | _, _, _ => holds

/-- The delivery queue that a thread is to start a drain of after a call. -/
def startingAfter (starting : Option ℕ) : {β : Type} → ServerCall β → β → Option ℕ
  | _, .dispatch index call, answer => if startsDrain call answer then some index else none
  | _, _, _ => starting

/-- The delivery queues that an answer tells of. -/
def dispatchersTold : {β : Type} → ServerCall β → β → List (ℕ × ℕ)
  | _, .service (.getOrCreateLocalDispatcher loop), index => [(loop, index)]
  | _, _, _ => []

/-- The channels that an answer tells of. -/
def channelsTold : {β : Type} → ServerCall β → β → List ℕ
  | _, .router (.findChannel _ _ _), found => found.told
  | _, .router (.createChannel _), made => [made]
  | _, .router (.publishChannel _ _), other => other.toList
  | _, .router .takeChannels, taken => taken
  | _, _, _ => []

/-- The connections that an answer tells of. -/
def connectionsTold : {β : Type} → ServerCall β → β → List Connection
  | _, .service (.getLocalConnection _), found => found.toList
  | _, _, _ => []

end ServerCall

namespace Grip

/-- Free hands, and some connections. -/
def create (connections : List Connection) : Grip := ⟨false, none, [], [], connections⟩

/-- What a thread has in its hands after a call. -/
def after (grip : Grip) (event : Event ServerCall) : Grip where
  holds := event.request.holdsAfter grip.holds event.answer
  starting := event.request.startingAfter grip.starting event.answer
  dispatchers := event.request.dispatchersTold event.answer ++ grip.dispatchers
  channels := event.request.channelsTold event.answer ++ grip.channels
  connections := event.request.connectionsTold event.answer ++ grip.connections

/-- What a thread may do to a delivery queue. -/
structure PermitsDispatch (grip : Grip) (index : ℕ) {β : Type}
    (call : DispatchCall LocalDeliveryTask β) : Prop where
  holds : grip.holds = false
  starting : grip.starting = if schedules call then some index else none
  known : ∃ loop, (loop, index) ∈ grip.dispatchers
  offered : ∀ task ∈ offered call,
    (task.conn.loop, index) ∈ grip.dispatchers ∧ task.conn ∈ grip.connections

/-- What a thread may call. -/
def Permits (grip : Grip) : ⦃β : Type⦄ → ServerCall β → Prop
  | _, .registry call => HoldPermits grip.holds call
  | _, .dispatch index call => grip.PermitsDispatch index call
  | _, .channel index _ => grip.holds = false ∧ index ∈ grip.channels
  | _, .router (.publishChannel _ index) => grip.holds = false ∧ index ∈ grip.channels
  | _, .service (.addLocalConnection _ conn) => grip.holds = false ∧ conn ∈ grip.connections
  | _, .service (.send conn _) => grip.holds = false ∧ conn ∈ grip.connections
  | _, _ => grip.holds = false

/-- The hands of a thread are free. -/
structure Free (grip : Grip) : Prop where
  holds : grip.holds = false
  starting : grip.starting = none

end Grip

/-- A handler of a login knows the connection of the client. -/
def Handler.grip : Handler → Grip
  | login _ _ conn => .create [conn]
  | _ => .create []

/-- A call that needs no more than free hands, and leaves them free. -/
def ServerCall.Light : ⦃β : Type⦄ → ServerCall β → Prop
  | _, .registry _ => False
  | _, .dispatch _ _ => False
  | _, .channel _ _ => False
  | _, .router (.publishChannel _ _) => False
  | _, .service (.addLocalConnection _ _) => False
  | _, .service (.send _ _) => False
  | _, _ => True

/-- A program that a thread with free hands may run, whatever it is answered, and that leaves them
free. -/
def Tidy {α : Type} (program : Calls ServerCall α) : Prop :=
  ∀ grip : Grip, grip.Free → program.Follows Grip.after Grip.Permits (fun grip _ => grip.Free) grip

/-- The same for a program that returns a channel. -/
def Finds (program : Calls ServerCall ℕ) : Prop :=
  ∀ grip : Grip, grip.Free →
    program.Follows Grip.after Grip.Permits (fun grip channel =>
      grip.Free ∧ channel ∈ grip.channels)
      grip

/-- The same where the thread knows some connections. -/
def Serves {α : Type} (conns : List Connection) (program : Calls ServerCall α) : Prop :=
  ∀ grip : Grip, grip.Free → (∀ conn ∈ conns, conn ∈ grip.connections) →
    program.Follows Grip.after Grip.Permits (fun grip _ => grip.Free) grip

section Tidy

variable {α β : Type}

theorem Tidy.ret (value : α) : Tidy (.ret value) := fun _ free => free

theorem Tidy.bind {program : Calls ServerCall α} {cont : α → Calls ServerCall β}
    (first : Tidy program) (rest : ∀ value, Tidy (cont value)) :
    Tidy (program >>= cont) := by
  intro grip free
  apply (first grip free).andThen
  intro grip value free
  exact rest value grip free

/-- A thread forgets no connection. -/
theorem Calls.Follows.remembers {program : Calls ServerCall α}
    {post : Grip → α → Prop} {grip : Grip}
    (follows : program.Follows Grip.after Grip.Permits post grip) :
    program.Follows Grip.after Grip.Permits
      (fun after value => post after value ∧ ∀ conn ∈ grip.connections, conn ∈ after.connections)
      grip := by
  induction program generalizing grip with
  | ret value => exact ⟨follows, fun _ known => known⟩
  | call request next ih =>
    refine ⟨follows.1, fun answer => ?_⟩
    apply (ih answer (follows.2 answer)).mono
    rintro after value ⟨ended, known⟩
    exact ⟨ended, fun conn listed => known conn (List.mem_append_right _ listed)⟩

section Light

variable {grip : Grip} {γ : Type} {request : ServerCall γ}

theorem Grip.Free.permits (free : grip.Free) (light : request.Light) : grip.Permits request := by
  cases request with
  | registry call => exact light.elim
  | dispatch index call => exact light.elim
  | channel index call => exact light.elim
  | router call =>
    cases call with
    | publishChannel channelKey index => exact light.elim
    | _ => exact free.holds
  | service call =>
    cases call with
    | addLocalConnection userId conn => exact light.elim
    | send conn outgoing => exact light.elim
    | _ => exact free.holds
  | database call => exact free.holds

/-- A light call leaves the hands of a thread free. -/
theorem Grip.Free.after (free : grip.Free) (light : request.Light) (answer : γ) :
    (grip.after ⟨request, answer⟩).Free := by
  cases request with
  | registry call => exact light.elim
  | dispatch index call => exact light.elim
  | channel index call => exact light.elim
  | _ => exact ⟨free.holds, free.starting⟩

theorem Tidy.call {next : γ → Calls ServerCall α} (light : request.Light)
    (rest : ∀ answer, Tidy (next answer)) : Tidy (.call request next) := by
  intro grip free
  exact ⟨free.permits light, fun answer => rest answer _ (free.after light answer)⟩

theorem Serves.call {conns : List Connection} {next : γ → Calls ServerCall α}
    (light : request.Light)
    (rest : ∀ answer, Serves conns (next answer)) : Serves conns (.call request next) := by
  intro grip free known
  refine ⟨free.permits light, fun answer => rest answer _ (free.after light answer) ?_⟩
  exact fun conn listed => List.mem_append_right _ (known conn listed)

end Light

section Serves

variable {conns : List Connection}

theorem Tidy.serves {program : Calls ServerCall α} (tidy : Tidy program) : Serves conns program :=
  fun grip free _ => tidy grip free

theorem Serves.bind {program : Calls ServerCall α} {cont : α → Calls ServerCall β}
    (first : Tidy program) (rest : ∀ value, Serves conns (cont value)) :
    Serves conns (program >>= cont) := by
  intro grip free known
  apply (first grip free).remembers.andThen
  rintro grip value ⟨free, kept⟩
  exact rest value grip free fun conn listed => kept conn (known conn listed)

/-- What is sent goes to a connection that is known. -/
theorem Serves.send {conn : Connection} {outgoing : Outgoing} {next : Unit → Calls ServerCall α}
    (listed : conn ∈ conns) (rest : ∀ answer, Serves conns (next answer)) :
    Serves conns (.call (.service (.send conn outgoing)) next) := by
  intro grip free known
  exact ⟨⟨free.holds, known conn listed⟩, fun answer =>
    rest answer _ ⟨free.holds, free.starting⟩ known⟩

end Serves

/-- **A program of the registry that brackets its commands** leaves the hands free. -/
theorem tidy_registry {program : Calls RegistryCall α} (bracketed : Bracketed program) :
    Tidy (registry program) := by
  intro grip free
  have follows :
      program.Follows holdsAfter HoldPermits (fun holds _ => holds = false) grip.holds := by
    rw [free.holds]
    exact bracketed
  have unstarted := free.starting
  clear free bracketed
  induction program generalizing grip with
  | ret value => exact ⟨follows, unstarted⟩
  | call request next ih =>
    refine ⟨follows.1, fun answer => ?_⟩
    exact ih answer _ (follows.2 answer) unstarted

/-- What is done to a channel that is known leaves everything as it is. -/
theorem onChannel_follows {grip : Grip} (free : grip.Free) {channel : ℕ}
    (known : channel ∈ grip.channels) (program : Calls (ChannelCall Frame) α) :
    (onChannel channel program).Follows Grip.after Grip.Permits (fun after _ =>
      after = grip) grip := by
  induction program with
  | ret value => rfl
  | call request next ih => exact ⟨⟨free.holds, known⟩, ih⟩

end Tidy

/-! ### The router -/

namespace ClusterRouter

theorem getOrCreateChannel_finds (nodeMeta : NodeMeta) (shardIndex : ℕ) :
    Finds (getOrCreateChannel nodeMeta shardIndex) := by
  have publish : ∀ channelKey, Finds (getOrCreateChannel.publish nodeMeta channelKey) := by
    intro channelKey grip free
    refine ⟨free.holds, fun channel => ⟨⟨free.holds, List.mem_cons_self⟩, fun found => ?_⟩⟩
    cases found with
    | none => exact ⟨⟨free.holds, free.starting⟩, List.mem_cons_self⟩
    | some other =>
      -- the channel that lost the race is stopped, and the other one is returned
      change (onChannel channel stopChannel >>= fun _ => .ret other).Follows _ _ _ _
      refine (onChannel_follows ?_ ?_ stopChannel).andThen ?_
      · exact ⟨free.holds, free.starting⟩
      · exact List.mem_cons_of_mem _ List.mem_cons_self
      · rintro _ _ rfl
        exact ⟨⟨free.holds, free.starting⟩, List.mem_cons_self⟩
  intro grip free
  refine ⟨free.holds, fun found => ?_⟩
  cases found with
  | current channel => exact ⟨⟨free.holds, free.starting⟩, List.mem_cons_self⟩
  | stale channel =>
    change (onChannel channel stopChannel >>=
      fun _ => getOrCreateChannel.publish nodeMeta _).Follows
      _ _ _ _
    refine (onChannel_follows ?_ ?_ stopChannel).andThen ?_
    · exact ⟨free.holds, free.starting⟩
    · exact List.mem_cons_self
    · rintro _ _ rfl
      exact publish _ _ ⟨free.holds, free.starting⟩
  | absent => exact publish _ _ ⟨free.holds, free.starting⟩

/-- Something is done to a channel that was looked up or made. -/
theorem tidy_onChannel {α : Type} {program : Calls ServerCall ℕ} (finds : Finds program)
    (action : Calls (ChannelCall Frame) α) :
    Tidy (program >>= fun channel => onChannel channel action) := by
  intro grip free
  apply (finds grip free).andThen
  rintro grip channel ⟨free, known⟩
  apply (onChannel_follows free known action).mono
  rintro _ _ rfl
  exact free

theorem sendOneChat_tidy (shardCount : ℕ) (nodeMeta : NodeMeta) (copy : Copy) :
    Tidy (sendOneChat shardCount nodeMeta copy) := by
  unfold sendOneChat
  split
  · exact tidy_onChannel (getOrCreateChannel_finds nodeMeta _) _
  · exact .ret false

theorem sendGroupChat_tidy (shardCount : ℕ) (nodeMeta : NodeMeta) (toUsers : List UserId)
    (message : Message) : Tidy (sendGroupChat shardCount nodeMeta toUsers message) := by
  unfold sendGroupChat
  split
  · exact tidy_onChannel (getOrCreateChannel_finds nodeMeta _) _
  · exact .ret false

theorem prewarmShards_tidy (nodeMeta : NodeMeta) (shards : List ℕ) :
    Tidy (prewarmShards nodeMeta shards) := by
  induction shards with
  | nil => exact .ret ()
  | cons shardIndex rest ih =>
    intro grip free
    apply (getOrCreateChannel_finds nodeMeta shardIndex grip free).andThen
    rintro grip channel ⟨free, known⟩
    apply (onChannel_follows free known prewarmChannel).andThen
    rintro _ _ rfl
    exact ih _ free

theorem prewarmNode_tidy (shardCount : ℕ) (nodeMeta : NodeMeta) :
    Tidy (prewarmNode shardCount nodeMeta) := by
  unfold prewarmNode
  split
  · refine .call trivial fun warmed => ?_
    cases warmed with
    | false => exact .ret ()
    | true => exact prewarmShards_tidy nodeMeta _
  · exact .ret ()

theorem closeAll_tidy : Tidy closeAll := by
  have stop : ∀ (channels : List ℕ) (grip : Grip), grip.Free →
      (∀ channel ∈ channels, channel ∈ grip.channels) →
      (stopChannels channels).Follows Grip.after Grip.Permits (fun grip _ => grip.Free) grip := by
    intro channels grip free known
    induction channels with
    | nil => exact free
    | cons channel rest ih =>
      apply (onChannel_follows free (known channel List.mem_cons_self) stopChannel).andThen
      rintro _ _ rfl
      exact ih fun other listed => known other (List.mem_cons_of_mem _ listed)
  intro grip free
  rw [closeAll, router_bind]
  refine ⟨free.holds, fun channels => ?_⟩
  refine stop channels _ ?_ ?_
  · exact ⟨free.holds, free.starting⟩
  · exact fun channel listed => List.mem_append_left _ listed

end ClusterRouter

/-! ### The handlers -/

namespace ChatService

open ClusterRouter

theorem unbindUser_tidy (server : Server) (userId : UserId) :
    Tidy (unbindUser server userId) :=
  (tidy_registry (NodeRegistry.unbindUser_bracketed server.selfNode userId)).bind fun _ => .ret ()

/-- **A delivery** goes to the queue of the connection's loop, and starts the drain that it is told
to start. -/
theorem deliverToLocalUser_tidy (copy : Copy) : Tidy (deliverToLocalUser copy) := by
  intro grip free
  refine ⟨free.holds, fun found => ?_⟩
  cases found with
  | none => exact ⟨free.holds, free.starting⟩
  | some conn =>
    refine ⟨free.holds, fun dispatcher => ?_⟩
    have told : (conn.loop, dispatcher) ∈ (conn.loop, dispatcher) :: grip.dispatchers :=
      List.mem_cons_self
    have known : ∃ loop, (loop, dispatcher) ∈ (conn.loop, dispatcher) :: grip.dispatchers :=
      ⟨conn.loop, told⟩
    have offers : ∀ task ∈ [(⟨conn, copy⟩ : LocalDeliveryTask)],
        (task.conn.loop, dispatcher) ∈ (conn.loop, dispatcher) :: grip.dispatchers ∧
          task.conn ∈ conn :: grip.connections :=
      List.forall_mem_singleton.mpr ⟨told, List.mem_cons_self⟩
    refine ⟨⟨free.holds, free.starting, known, offers⟩, fun reply => ?_⟩
    match reply with
    | .full => exact ⟨free.holds, rfl⟩
    | .pushed false => exact ⟨free.holds, rfl⟩
    | .pushed true =>
      refine ⟨⟨free.holds, rfl, known, List.forall_mem_nil _⟩, fun inLoop => ?_⟩
      cases inLoop with
      | true =>
        refine ⟨⟨free.holds, rfl, known, List.forall_mem_nil _⟩, fun _ => ?_⟩
        exact ⟨⟨free.holds, rfl, known, List.forall_mem_nil _⟩, fun _ => ⟨free.holds, rfl⟩⟩
      | false =>
        exact ⟨⟨free.holds, rfl, known, List.forall_mem_nil _⟩, fun _ => ⟨free.holds, rfl⟩⟩

theorem acceptLogin_serves (user : User) (conn : Connection) :
    Serves [conn] (acceptLogin user conn) := by
  have own : conn ∈ [conn] := List.mem_cons_self
  have answers : ∀ offlineMsg, Serves [conn] (answerLogin user conn offlineMsg) := by
    intro offlineMsg
    refine .call trivial fun _ => .call trivial fun _ => .send own fun _ => ?_
    exact (Tidy.ret ()).serves
  rw [acceptLogin_eq]
  refine .call trivial fun _ => .call trivial fun offlineMsg => ?_
  split
  · exact .call trivial fun _ => answers offlineMsg
  · exact answers offlineMsg

/-- A login enters and answers the connection that it was asked for on. -/
theorem login_serves (server : Server) (id : UserId) (pwd : Bytes) (conn : Connection) :
    Serves [conn] (login server id pwd conn) := by
  have own : conn ∈ [conn] := List.mem_cons_self
  have answers : ∀ response, Serves [conn] (service (.send conn (.loginAck response))) :=
    fun response => .send own fun _ => (Tidy.ret ()).serves
  have binds : Tidy (registry (NodeRegistry.bindUser server.selfNode id)) :=
    tidy_registry (NodeRegistry.bindUser_bracketed server.selfNode id)
  have enters : ∀ user, Serves [conn] (enterLogin server id conn user) := by
    intro user grip free known
    refine ⟨⟨free.holds, known conn own⟩, fun _ => ?_⟩
    refine Serves.bind binds (fun bound => ?_) _ ⟨free.holds, free.starting⟩ known
    cases bound with
    | false => exact .call trivial fun _ => answers .registerFailed
    | true => exact acceptLogin_serves user conn
  rw [login_eq]
  refine .call trivial fun user => ?_
  apply Serves.bind (tidy_registry (NodeRegistry.queryUserNode_bracketed id))
  intro session
  unfold judgeLogin
  split
  · cases session with
    | some nodeId => exact answers .inUse
    | none =>
      dsimp only
      split
      · exact .call trivial fun _ => enters user
      · exact enters user
  · exact answers .invalid

theorem logout_tidy (server : Server) (userId : UserId) : Tidy (logout server userId) := by
  refine .call trivial fun _ => ?_
  exact (unbindUser_tidy server userId).bind fun _ => .call trivial fun _ => .ret ()

theorem clientCloseException_tidy (server : Server) (conn : Connection) :
    Tidy (clientCloseException server conn) := by
  have search : ∀ buckets, Tidy (removeFromBuckets conn buckets) := by
    intro buckets
    induction buckets with
    | nil => exact .ret (-1)
    | cons bucket rest ih =>
      refine .call trivial fun found => ?_
      cases found with
      | some userId => exact .ret userId
      | none => exact ih
  apply (search _).bind
  intro userId
  split
  · exact (unbindUser_tidy server userId).bind fun _ => .call trivial fun _ => .ret ()
  · exact .ret ()

theorem oneChat_tidy (server : Server) (copy : Copy) : Tidy (oneChat server copy) := by
  have stores : Tidy (database (.insertOffline copy)) := .call trivial fun _ => .ret ()
  apply (deliverToLocalUser_tidy copy).bind
  intro delivered
  cases delivered with
  | true => exact .ret ()
  | false =>
    apply (tidy_registry (NodeRegistry.resolveUserNode_bracketed copy.recipient)).bind
    intro found
    cases found with
    | none => exact stores
    | some route =>
      dsimp only
      split
      · exact (unbindUser_tidy server copy.recipient).bind fun _ => stores
      · apply (prewarmNode_tidy server.shardCount route.2).bind
        intro _
        apply (sendOneChat_tidy server.shardCount route.2 copy).bind
        intro sent
        cases sent with
        | true => exact .ret ()
        | false => exact stores

/-- The connections that are found for members are known from then on. -/
theorem lookupMembers_follows (ids : List UserId) (grip : Grip) (free : grip.Free) :
    (lookupMembers ids).Follows Grip.after Grip.Permits
      (fun grip members => grip.Free ∧ ∀ conn ∈ members.1.map Prod.snd, conn ∈ grip.connections)
      grip := by
  induction ids generalizing grip with
  | nil => exact ⟨free, List.forall_mem_nil _⟩
  | cons id rest ih =>
    refine ⟨free.holds, fun localConn => ?_⟩
    have rest := ih (grip.after ⟨.service (.getLocalConnection id), localConn⟩)
      ⟨free.holds, free.starting⟩
    apply rest.remembers.andThen
    rintro grip members ⟨⟨free, others⟩, kept⟩
    cases localConn with
    | none => exact ⟨free, others⟩
    | some conn => exact ⟨free, List.forall_mem_cons.mpr ⟨kept conn List.mem_cons_self, others⟩⟩

theorem resolveMembers_tidy (server : Server) (ids : List UserId)
    (remoteNodeUsers : List (CString × List UserId)) (offlineIds : List UserId) :
    Tidy (resolveMembers server ids remoteNodeUsers offlineIds) := by
  induction ids generalizing remoteNodeUsers offlineIds with
  | nil => exact .ret _
  | cons id rest ih =>
    apply (tidy_registry (NodeRegistry.resolveUserNode_bracketed id)).bind
    intro found
    cases found with
    | none => exact ih _ _
    | some route =>
      dsimp only
      split
      · exact (unbindUser_tidy server id).bind fun _ => ih _ _
      · exact ih _ _

theorem sendToConnections_serves (message : Message) (localConns : List (UserId × Connection)) :
    Serves (localConns.map Prod.snd) (sendToConnections message localConns) := by
  intro grip free known
  induction localConns generalizing grip with
  | nil => exact free
  | cons member rest ih =>
    obtain ⟨first, others⟩ := List.forall_mem_cons.mp known
    exact ⟨⟨free.holds, first⟩, fun _ => ih _ ⟨free.holds, free.starting⟩ others⟩

theorem sendBuckets_tidy (server : Server) (message : Message)
    (buckets : List (CString × List UserId)) (offlineIds : List UserId) :
    Tidy (sendBuckets server message buckets offlineIds) := by
  induction buckets generalizing offlineIds with
  | nil => exact .ret _
  | cons bucket rest ih =>
    apply (tidy_registry (NodeRegistry.queryNode_bracketed bucket.1)).bind
    intro found
    cases found with
    | none => exact ih _
    | some nodeMeta =>
      apply (prewarmNode_tidy server.shardCount nodeMeta).bind
      intro _
      apply (sendGroupChat_tidy server.shardCount nodeMeta bucket.2 message).bind
      intro sent
      cases sent with
      | true => exact ih _
      | false => exact ih _

theorem insertAll_tidy (message : Message) (ids : List UserId) :
    Tidy (insertAll message ids) := by
  induction ids with
  | nil => exact .ret ()
  | cons id rest ih => exact .call trivial fun _ => ih

theorem groupChat_tidy (server : Server) (message : Message) (userId : UserId)
    (groupId : Int32) : Tidy (groupChat server message userId groupId) := by
  rw [groupChat, database_bind]
  refine .call trivial fun userIdVec => ?_
  split
  · intro grip free
    apply (lookupMembers_follows userIdVec grip free).andThen
    rintro grip members ⟨free, known⟩
    -- what was found is still known when the message is sent
    apply (resolveMembers_tidy server members.2 [] [] grip free).remembers.andThen
    rintro grip resolved ⟨free, kept⟩
    apply (sendToConnections_serves message members.1 grip free fun conn listed =>
      kept conn (known conn listed)).andThen
    intro grip _ free
    have rest : Tidy (service .iterationOrder >>= fun order =>
        sendBuckets server message (arrange order resolved.1) resolved.2 >>= fun offlineIds =>
          insertAll message offlineIds) := by
      refine .call trivial fun order => ?_
      exact (sendBuckets_tidy server message _ _).bind fun offlineIds =>
        insertAll_tidy message offlineIds
    exact rest grip free
  · exact .ret ()

theorem handleClusterOneChatFrame_tidy (server : Server) (copy : Copy) :
    Tidy (handleClusterOneChatFrame server copy) := by
  have drops : Tidy (dropStaleRoute server copy.recipient) := by
    apply (tidy_registry (NodeRegistry.queryUserNode_bracketed copy.recipient)).bind
    intro route
    cases route with
    | none => exact unbindUser_tidy server copy.recipient
    | some nodeId =>
      dsimp only
      split
      · exact unbindUser_tidy server copy.recipient
      · exact .ret ()
  apply (deliverToLocalUser_tidy copy).bind
  intro delivered
  cases delivered with
  | true => exact .ret ()
  | false => exact drops.bind fun _ => .call trivial fun _ => .ret ()

theorem handleClusterFrame_tidy (server : Server) (frame : Frame) :
    Tidy (handleClusterFrame server frame) := by
  have group : ∀ message ids, Tidy (handleClusterGroupChat server message ids) := by
    intro message ids
    induction ids with
    | nil => exact .ret ()
    | cons id rest ih =>
      exact (handleClusterOneChatFrame_tidy server ⟨message, id⟩).bind fun _ => ih
  unfold handleClusterFrame
  cases frame.request with
  | oneChat toUser payload => exact handleClusterOneChatFrame_tidy server _
  | groupChat toUsers payload => exact group _ toUsers

theorem initNode_tidy (server : Server) (timeoutMs : Int) : Tidy (initNode server timeoutMs) := by
  have others : ∀ nodes, Tidy (prewarmOthers server nodes) := by
    intro nodes
    induction nodes with
    | nil => exact .ret ()
    | cons nodeMeta rest ih =>
      rw [prewarmOthers]
      split
      · exact (prewarmNode_tidy server.shardCount nodeMeta).bind fun _ => ih
      · exact ih
  apply (tidy_registry (NodeRegistry.register_bracketed server.selfNode timeoutMs)).bind
  intro registered
  cases registered with
  | false => exact .ret ()
  | true => exact (tidy_registry NodeRegistry.listNodes_bracketed).bind others

theorem reset_tidy (server : Server) : Tidy (reset server) := by
  have marked : ∀ ids, Tidy (markOffline ids) := by
    intro ids
    induction ids with
    | nil => exact .ret ()
    | cons userId rest ih => exact .call trivial fun _ => ih
  apply (tidy_registry (getNodeUsers_bracketed server.selfNode.nodeId)).bind
  intro selfUsers
  apply (tidy_registry (NodeRegistry.cleanupSelf_bracketed server.selfNode)).bind
  intro _
  exact closeAll_tidy.bind fun _ => marked selfUsers

end ChatService

/-- **Every handler is tidy**, whatever it is answered. -/
theorem program_tidy (cluster : Cluster) (n : ℕ) (handler : Handler) :
    (cluster.program n handler).Follows Grip.after Grip.Permits (fun grip _ => grip.Free)
      handler.grip := by
  have free : ∀ connections, (Grip.create connections).Free := fun _ => ⟨rfl, rfl⟩
  cases handler with
  | initNode => exact ChatService.initNode_tidy _ _ _ (free [])
  | heartbeat =>
    have beats : Tidy (registry (NodeRegistry.heartbeat (cluster.server n).selfNode
        (cluster.nodes n).heartbeatTimeoutMs)) :=
          tidy_registry (NodeRegistry.heartbeat_bracketed _ _)
    exact (beats.bind fun _ => .ret ()) _ (free [])
  | login id pwd conn =>
    exact ChatService.login_serves _ id pwd conn _ (free [conn]) fun _ own => own
  | logout userId => exact ChatService.logout_tidy _ userId _ (free [])
  | clientCloseException conn => exact ChatService.clientCloseException_tidy _ conn _ (free [])
  | oneChat copy => exact ChatService.oneChat_tidy _ copy _ (free [])
  | groupChat message userId groupId =>
    exact ChatService.groupChat_tidy _ message userId groupId _ (free [])
  | clusterFrame frame => exact ChatService.handleClusterFrame_tidy _ frame _ (free [])
  | closeAll => exact ClusterRouter.closeAll_tidy _ (free [])
  | reset => exact ChatService.reset_tidy _ _ (free [])

end ClusterChat
