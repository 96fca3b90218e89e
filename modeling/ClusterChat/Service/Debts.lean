/-
# What a handler owes

A handler of messages takes over copies of a message, one for each recipient, and owes each of them
a place: a connection of its node or the delivery queue of one, a channel, or the database. The
debt goes down by what is placed, and a handler may only place what it owes. `groupChat` does not
know its recipients before the database has told it.

A handler that comes to its end owes nothing any more, whatever it was answered. So every copy has
got one place, and none has got two.
-/

import ClusterChat.Concurrency.Calls
import ClusterChat.Delivery.Custody
import ClusterChat.Channel.Custody
import ClusterChat.Service.Login
import Mathlib.Data.Multiset.AddSub

namespace ClusterChat

/-! ### Placing copies -/

namespace ServerCall

/-- The copies that a call is about. -/
def carried : {β : Type} → ServerCall β → Multiset Copy
  | _, .dispatch _ (.push task) => {task.copy}
  | _, .service (.send _ outgoing) => outgoing.copies
  | _, .channel _ (.enqueue frame) => frame.copies
  | _, .channel _ (.send _ frame) => frame.copies
  | _, .database call => Database.stores call
  | _, _ => 0

/-- The copies that a call hands to a connection of the node or to its delivery queue. -/
def handedOver : {β : Type} → ServerCall β → β → Multiset Copy
  | _, .dispatch _ call, answer =>
    (DeliveryLoop.cameByCall call answer).map LocalDeliveryTask.copy
  | _, .service (.send _ outgoing), _ => outgoing.copies
  | _, _, _ => 0

/-- The copies that a channel takes over by a call. -/
def takenByChannel : {β : Type} → ServerCall β → β → Multiset Copy
  | _, .channel _ call, answer => (ChannelLoop.cameByCall call answer).flatMap Frame.copies
  | _, _, _ => 0

/-- The copies that a call stores for absent users. -/
def storedOffline : {β : Type} → ServerCall β → Multiset Copy
  | _, .database call => Database.stores call
  | _, _ => 0

/-- The copies that a call puts into any of the three places. -/
def placed {β : Type} (call : ServerCall β) (answer : β) : Multiset Copy :=
  call.handedOver answer + call.takenByChannel answer + call.storedOffline

/-- A call that is about no copy. -/
def Bare ⦃β : Type⦄ (call : ServerCall β) : Prop := call.carried = 0

@[simp] theorem placed_push (index : ℕ) (task : LocalDeliveryTask) (answer : PushReply) :
    (dispatch index (.push task)).placed answer =
      bif DeliveryLoop.pushedReply answer then {task.copy} else 0 := by
  cases answer <;> rfl

@[simp] theorem placed_send (conn : Connection) (outgoing : Outgoing) (answer : Unit) :
    (ServerCall.service (.send conn outgoing)).placed answer = outgoing.copies := by
  simp [placed, handedOver, takenByChannel, storedOffline]

@[simp] theorem placed_enqueue (index : ℕ) (frame : Frame) (answer : EnqueueReply) :
    (channel index (.enqueue frame)).placed answer =
      bif ChannelLoop.queuedReply answer then (frame.copies : Multiset Copy) else 0 := by
  cases answer <;> simp [placed, handedOver, takenByChannel, storedOffline, ChannelLoop.cameByCall,
    ChannelLoop.queuedReply]

@[simp] theorem placed_channelSend (index link : ℕ) (frame : Frame) (answer : Unit) :
    (channel index (.send link frame)).placed answer = frame.copies := by
  simp [placed, handedOver, takenByChannel, storedOffline, ChannelLoop.cameByCall]

@[simp] theorem placed_insertOffline (copy : Copy) (answer : Unit) :
    (ServerCall.database (.insertOffline copy)).placed answer = {copy} := by
  rfl

/-- A call places what it is about, or nothing. -/
theorem placed_eq {β : Type} (call : ServerCall β) (answer : β) :
    call.placed answer = call.carried ∨ call.placed answer = 0 := by
  cases call with
  | registry call => exact .inr rfl
  | service call =>
    cases call with
    | send conn outgoing => exact .inl (placed_send conn outgoing answer)
    | _ => exact .inr rfl
  | dispatch index call =>
    cases call with
    | push task =>
      rw [placed_push]
      cases DeliveryLoop.pushedReply answer with
      | true => exact .inl rfl
      | false => exact .inr rfl
    | _ => exact .inr rfl
  | router call => exact .inr rfl
  | channel index call =>
    cases call with
    | enqueue frame =>
      rw [placed_enqueue]
      cases ChannelLoop.queuedReply answer with
      | true => exact .inl rfl
      | false => exact .inr rfl
    | send link frame => exact .inl (placed_channelSend index link frame answer)
    | _ => exact .inr rfl
  | database call =>
    left
    simp [placed, handedOver, takenByChannel, storedOffline, carried]

theorem placed_of_bare {β : Type} {call : ServerCall β} (bare : call.Bare) (answer : β) :
    call.placed answer = 0 := by
  rcases call.placed_eq answer with all | none
  · rw [all, bare]
  · exact none

theorem placed_le {β : Type} (call : ServerCall β) (answer : β) :
    call.placed answer ≤ call.carried := by
  rcases call.placed_eq answer with all | none
  · rw [all]
  · rw [none]
    exact Multiset.zero_le _

end ServerCall

open ServerCall

/-! ### Debts -/

/-- What a handler owes: copies, or a message to members that it has yet to ask for. -/
inductive Debt
  | asking (message : Message)
  | owing (copies : Multiset Copy)

/-- A message for each of some users. -/
def copiesOf (message : Message) (ids : List UserId) : Multiset Copy := ids.map (Copy.mk message)

namespace Debt

/-- The debt after an answered call. -/
def after : Debt → Event ServerCall → Debt
  | asking message, ⟨.database (.queryGroupUsers _ _), members⟩ => owing (copiesOf message members)
  | asking message, _ => asking message
  | owing copies, ⟨call, answer⟩ => owing (copies - call.placed answer)

/-- A call is about copies that are owed. -/
def Permits : Debt → ⦃β : Type⦄ → ServerCall β → Prop
  | asking _, _, call => call.Bare
  | owing copies, _, call => call.carried ≤ copies

end Debt

/-- What a handler owes at its start. -/
def Handler.debt : Handler → Debt
  | oneChat copy => .owing {copy}
  | groupChat message _ _ => .asking message
  | clusterFrame frame => .owing frame.copies
  | _ => .owing 0

/-- A program places nothing but what it owes, and ends with a debt that `post` speaks of. -/
def Pays {α : Type} (program : Calls ServerCall α) (copies : Multiset Copy)
    (post : Multiset Copy → α → Prop) : Prop :=
  program.Follows Debt.after Debt.Permits (fun debt value => ∃ left, debt = .owing left ∧
    post left value) (.owing copies)

section Pays

variable {α β : Type} {copies rest : Multiset Copy}

theorem Pays.andThen {program : Calls ServerCall α} {cont : α → Calls ServerCall β}
    {middle : Multiset Copy → α → Prop} {post : Multiset Copy → β → Prop}
    (first : Pays program copies middle)
    (goesOn : ∀ left value, middle left value → Pays (cont value) left post) :
    Pays (program >>= cont) copies post := by
  apply Calls.Follows.andThen first
  rintro debt value ⟨left, rfl, holds⟩
  exact goesOn left value holds

theorem Pays.ret {value : α} {post : Multiset Copy → α → Prop} (holds : post copies value) :
    Pays (.ret value) copies post :=
  ⟨copies, rfl, holds⟩

/-- A call that is about no copy leaves the debt. -/
theorem Pays.bare {γ : Type} {call : ServerCall γ} {next : γ → Calls ServerCall α}
    {post : Multiset Copy → α → Prop} (bare : call.Bare)
    (goesOn : ∀ answer, Pays (next answer) copies post) : Pays (.call call next) copies post := by
  refine ⟨?_, fun answer => ?_⟩
  · rw [Debt.Permits, bare]
    exact Multiset.zero_le copies
  · rw [Debt.after, placed_of_bare bare, Multiset.sub_zero]
    exact goesOn answer

/-- A call that is about copies that are owed: its answer tells whether it has placed them. -/
theorem Pays.call {γ : Type} (call : ServerCall γ) {next : γ → Calls ServerCall α}
    {post : Multiset Copy → α → Prop} (paid : γ → Bool)
    (places : ∀ answer, call.placed answer = bif paid answer then call.carried else 0)
    (goesOn : ∀ answer,
      Pays (next answer) (bif paid answer then rest else call.carried + rest) post) :
    Pays (.call call next) (call.carried + rest) post := by
  refine ⟨Multiset.le_add_right _ _, fun answer => ?_⟩
  have later := goesOn answer
  rw [Debt.after, places answer]
  cases settled : paid answer with
  | true =>
    rw [cond_true, Multiset.add_comm, Multiset.add_sub_cancel_right]
    rw [settled] at later
    exact later
  | false =>
    rw [cond_false, Multiset.sub_zero]
    rw [settled] at later
    exact later

/-- A program that is about no copy leaves the debt. -/
theorem pays_of_bare {program : Calls ServerCall α} (bare : program.Only Bare) :
    Pays program copies fun left _ => left = copies := by
  induction program with
  | ret value => exact .ret rfl
  | call request next ih => exact .bare bare.1 fun answer => ih answer (bare.2 answer)

end Pays

/-- A program that pays all it owes owes nothing at its end. -/
theorem follows_of_pays {program : Calls ServerCall Unit} {copies : Multiset Copy}
    (pays : Pays program copies fun left _ => left = 0) :
    program.Follows Debt.after Debt.Permits (fun debt _ => debt = .owing 0) (.owing copies) := by
  apply pays.mono
  rintro debt value ⟨left, rfl, rfl⟩
  rfl

/-! ### Programs that are about no copy -/

theorem registry_bare {α : Type} (program : Calls RegistryCall α) : (registry program).Only Bare :=
  Calls.Only.lift (Calls.only_of_forall (fun _ _ => rfl) program)

namespace ClusterRouter

theorem stopChannel_bare (channel : ℕ) : (onChannel channel stopChannel).Only Bare :=
  ⟨rfl, fun _ => ⟨rfl, fun _ => trivial⟩⟩

theorem prewarmChannel_bare (channel : ℕ) : (onChannel channel prewarmChannel).Only Bare := by
  refine ⟨rfl, fun warmed => ?_⟩
  cases warmed with
  | false => trivial
  | true => exact ⟨rfl, fun _ => ⟨rfl, fun _ => trivial⟩⟩

theorem getOrCreateChannel_bare (nodeMeta : NodeMeta) (shardIndex : ℕ) :
    (getOrCreateChannel nodeMeta shardIndex).Only Bare := by
  have published : ∀ channelKey, (getOrCreateChannel.publish nodeMeta channelKey).Only Bare := by
    intro channelKey
    refine ⟨rfl, fun channel => ⟨rfl, fun found => ?_⟩⟩
    cases found with
    | none => trivial
    | some other => exact (stopChannel_bare channel).bind fun _ => trivial
  refine ⟨rfl, fun found => ?_⟩
  cases found with
  | current channel => trivial
  | stale channel => exact (stopChannel_bare channel).bind fun _ => published _
  | absent => exact published _

theorem prewarmNode_bare (shardCount : ℕ) (nodeMeta : NodeMeta) :
    (prewarmNode shardCount nodeMeta).Only Bare := by
  have shards : ∀ indices, (prewarmShards nodeMeta indices).Only Bare := by
    intro indices
    induction indices with
    | nil => trivial
    | cons shardIndex rest ih =>
      apply (getOrCreateChannel_bare nodeMeta shardIndex).bind
      intro channel
      exact (prewarmChannel_bare channel).bind fun _ => ih
  rw [prewarmNode]
  split
  · refine ⟨rfl, fun warmed => ?_⟩
    cases warmed with
    | false => trivial
    | true => exact shards _
  · trivial

theorem closeAll_bare : closeAll.Only Bare := by
  refine ⟨rfl, fun channels => ?_⟩
  induction channels with
  | nil => trivial
  | cons channel rest ih => exact (stopChannel_bare channel).bind fun _ => ih

end ClusterRouter

namespace ChatService

theorem unbindUser_bare (server : Server) (userId : UserId) :
    (unbindUser server userId).Only Bare :=
  (registry_bare _).bind fun _ => trivial

theorem acceptLogin_bare (user : User) (conn : Connection) :
    (acceptLogin user conn).Only Bare := by
  have answers : ∀ offlineMsg, (answerLogin user conn offlineMsg).Only Bare :=
    fun offlineMsg => ⟨rfl, fun _ => ⟨rfl, fun _ => ⟨rfl, fun _ => trivial⟩⟩⟩
  rw [acceptLogin_eq]
  refine ⟨rfl, fun _ => ⟨rfl, fun offlineMsg => ?_⟩⟩
  beta_reduce
  split
  · exact ⟨rfl, fun _ => answers offlineMsg⟩
  · exact answers offlineMsg

theorem login_bare (server : Server) (id : UserId) (pwd : Bytes) (conn : Connection) :
    (login server id pwd conn).Only Bare := by
  have enters : ∀ user, (enterLogin server id conn user).Only Bare := by
    intro user
    refine ⟨rfl, fun _ => (registry_bare _).bind fun bound => ?_⟩
    cases bound with
    | false => exact ⟨rfl, fun _ => ⟨rfl, fun _ => trivial⟩⟩
    | true => exact acceptLogin_bare user conn
  rw [login_eq]
  refine ⟨rfl, fun user => (registry_bare _).bind fun session => ?_⟩
  unfold judgeLogin
  split
  · cases session with
    | some nodeId => exact ⟨rfl, fun _ => trivial⟩
    | none =>
      dsimp only
      split
      · exact ⟨rfl, fun _ => enters user⟩
      · exact enters user
  · exact ⟨rfl, fun _ => trivial⟩

theorem initNode_bare (server : Server) (timeoutMs : Int) :
    (initNode server timeoutMs).Only Bare := by
  refine (registry_bare _).bind fun registered => ?_
  cases registered with
  | false => trivial
  | true =>
    refine (registry_bare _).bind fun nodes => ?_
    induction nodes with
    | nil => trivial
    | cons nodeMeta rest ih =>
      rw [prewarmOthers]
      split
      · exact (ClusterRouter.prewarmNode_bare server.shardCount nodeMeta).bind fun _ => ih
      · exact ih

theorem logout_bare (server : Server) (userId : UserId) : (logout server userId).Only Bare :=
  ⟨rfl, fun _ => (unbindUser_bare server userId).bind fun _ => ⟨rfl, fun _ => trivial⟩⟩

theorem clientCloseException_bare (server : Server) (conn : Connection) :
    (clientCloseException server conn).Only Bare := by
  have search : ∀ buckets, (removeFromBuckets conn buckets).Only Bare := by
    intro buckets
    induction buckets with
    | nil => trivial
    | cons bucket rest ih =>
      refine ⟨rfl, fun found => ?_⟩
      cases found with
      | some userId => trivial
      | none => exact ih
  refine (search _).bind fun userId => ?_
  split
  · exact (unbindUser_bare server userId).bind fun _ => ⟨rfl, fun _ => trivial⟩
  · trivial

theorem reset_bare (server : Server) : (reset server).Only Bare := by
  have marked : ∀ ids, (markOffline ids).Only Bare := by
    intro ids
    induction ids with
    | nil => trivial
    | cons userId rest ih => exact ⟨rfl, fun _ => ih⟩
  refine (registry_bare _).bind fun selfUsers => (registry_bare _).bind fun _ => ?_
  exact ClusterRouter.closeAll_bare.bind fun _ => marked selfUsers

end ChatService

/-! ### Programs that place copies -/

section Place

variable {rest : Multiset Copy}

/-- Storing a copy settles it. -/
theorem insertOffline_pays (copy : Copy) :
    Pays (database (.insertOffline copy)) ({copy} + rest) fun left _ => left = rest :=
  Pays.call (.database (.insertOffline copy)) (fun _ => true)
    (fun answer => placed_insertOffline copy answer) fun _ => .ret rfl

/-- A channel takes all the copies of a frame, or none of them. -/
theorem enqueueOrSend_pays (channel : ℕ) (frame : Frame) :
    Pays (onChannel channel (enqueueOrSend frame)) (frame.copies + rest) fun left sent =>
      left = bif sent then rest else frame.copies + rest := by
  apply Pays.call (.channel channel (.enqueue frame)) ChannelLoop.queuedReply
  · exact placed_enqueue channel frame
  · intro reply
    cases reply with
    | refused => exact .ret rfl
    | direct link =>
      apply Pays.call (.channel channel (.send link frame)) fun _ => true
      · exact placed_channelSend channel link frame
      · exact fun _ => .ret rfl
    | queued => exact .ret rfl
    | queuedConnect => exact .bare rfl fun _ => .bare rfl fun _ => .ret rfl
    | queuedDrain => exact .bare rfl fun _ => .ret rfl

namespace ClusterRouter

theorem sendInternalMessage_pays (nodeMeta : NodeMeta) (shardIndex : ℕ) (frame : Frame) :
    Pays (sendInternalMessage nodeMeta shardIndex frame) (frame.copies + rest) fun left sent =>
      left = bif sent then rest else frame.copies + rest := by
  apply (pays_of_bare (getOrCreateChannel_bare nodeMeta shardIndex)).andThen
  rintro left channel rfl
  exact enqueueOrSend_pays channel frame

theorem sendOneChat_pays (shardCount : ℕ) (nodeMeta : NodeMeta) (copy : Copy) :
    Pays (sendOneChat shardCount nodeMeta copy) ({copy} + rest) fun left sent =>
      left = bif sent then rest else {copy} + rest := by
  rw [sendOneChat]
  split
  · exact sendInternalMessage_pays nodeMeta _ _
  · exact .ret rfl

theorem sendGroupChat_pays (shardCount : ℕ) (nodeMeta : NodeMeta) (toUsers : List UserId)
    (message : Message) :
    Pays (sendGroupChat shardCount nodeMeta toUsers message) (copiesOf message toUsers + rest)
      fun left sent => left = bif sent then rest else copiesOf message toUsers + rest := by
  unfold sendGroupChat
  split
  · exact sendInternalMessage_pays nodeMeta _ _
  · exact .ret rfl

end ClusterRouter

namespace ChatService

/-- A local delivery places the copy just if it says so. -/
theorem deliverToLocalUser_pays (copy : Copy) :
    Pays (deliverToLocalUser copy) ({copy} + rest) fun left delivered =>
      left = bif delivered then rest else {copy} + rest := by
  refine .bare rfl fun found => ?_
  cases found with
  | none => exact .ret rfl
  | some conn =>
    refine .bare rfl fun dispatcher => ?_
    apply Pays.call (.dispatch dispatcher (.push ⟨conn, copy⟩)) DeliveryLoop.pushedReply
    · exact placed_push dispatcher ⟨conn, copy⟩
    · intro reply
      match reply with
      | .full => exact .ret rfl
      | .pushed false => exact .ret rfl
      | .pushed true =>
        refine .bare rfl fun inLoop => ?_
        cases inLoop with
        | true => exact .bare rfl fun _ => .bare rfl fun _ => .ret rfl
        | false => exact .bare rfl fun _ => .ret rfl

theorem oneChat_pays (server : Server) (copy : Copy) (rest : Multiset Copy) :
    Pays (oneChat server copy) ({copy} + rest) fun left _ => left = rest := by
  apply (deliverToLocalUser_pays copy).andThen
  rintro left delivered rfl
  cases delivered with
  | true => exact .ret rfl
  | false =>
    apply (pays_of_bare (registry_bare _)).andThen
    rintro left found rfl
    match found with
    | none => exact insertOffline_pays copy
    | some (nodeId, nodeMeta) =>
      dsimp only
      by_cases self : isSelfNode server nodeId = true
      · rw [if_pos self]
        apply (pays_of_bare (unbindUser_bare server copy.recipient)).andThen
        rintro left _ rfl
        exact insertOffline_pays copy
      · rw [if_neg self]
        apply (pays_of_bare (ClusterRouter.prewarmNode_bare server.shardCount nodeMeta)).andThen
        rintro left _ rfl
        apply (ClusterRouter.sendOneChat_pays server.shardCount nodeMeta copy).andThen
        rintro left sent rfl
        cases sent with
        | true => exact .ret rfl
        | false => exact insertOffline_pays copy

theorem handleClusterOneChatFrame_pays (server : Server) (copy : Copy) (rest : Multiset Copy) :
    Pays (handleClusterOneChatFrame server copy) ({copy} + rest) fun left _ => left = rest := by
  apply (deliverToLocalUser_pays copy).andThen
  rintro left delivered rfl
  cases delivered with
  | true => exact .ret rfl
  | false =>
    have drops : (dropStaleRoute server copy.recipient).Only Bare := by
      refine (registry_bare _).bind fun found => ?_
      cases found with
      | none => exact unbindUser_bare server copy.recipient
      | some nodeId =>
        dsimp only
        split
        · exact unbindUser_bare server copy.recipient
        · trivial
    apply (pays_of_bare drops).andThen
    rintro left _ rfl
    exact insertOffline_pays copy

theorem copiesOf_cons (message : Message) (id : UserId) (ids : List UserId) :
    copiesOf message (id :: ids) = {⟨message, id⟩} + copiesOf message ids := rfl

theorem copiesOf_append (message : Message) (first second : List UserId) :
    copiesOf message (first ++ second) = copiesOf message first + copiesOf message second := by
  simp [copiesOf]

theorem copiesOf_perm (message : Message) {first second : List UserId} (same : first.Perm second) :
    copiesOf message first = copiesOf message second :=
  Multiset.coe_eq_coe.mpr (same.map _)

theorem handleClusterFrame_pays (server : Server) (frame : Frame) :
    Pays (handleClusterFrame server frame) frame.copies fun left _ => left = 0 := by
  have group : ∀ message ids,
      Pays (handleClusterGroupChat server message ids) (copiesOf message ids)
        fun left _ => left = 0 := by
    intro message ids
    induction ids with
    | nil => exact .ret rfl
    | cons userId rest ih =>
      rw [copiesOf_cons]
      apply (handleClusterOneChatFrame_pays server ⟨message, userId⟩ _).andThen
      rintro left _ rfl
      exact ih
  obtain ⟨number, request⟩ := frame
  cases request with
  | oneChat toUser payload =>
    exact handleClusterOneChatFrame_pays server ⟨⟨number, payload⟩, toUser⟩ 0
  | groupChat toUsers payload => exact group ⟨number, payload⟩ toUsers

/-- Looking the members up sorts them. -/
theorem lookupMembers_pays (members : List UserId) (copies : Multiset Copy) :
    Pays (lookupMembers members) copies fun left found =>
      left = copies ∧ (found.1.map Prod.fst ++ found.2).Perm members := by
  induction members with
  | nil => exact .ret ⟨rfl, .refl _⟩
  | cons id rest ih =>
    refine .bare rfl fun found => ih.andThen ?_
    rintro left ⟨localConns, unresolved⟩ ⟨rfl, sorted⟩
    cases found with
    | some conn => exact .ret ⟨rfl, sorted.cons id⟩
    | none => exact .ret ⟨rfl, List.perm_middle.trans (sorted.cons id)⟩

theorem addToBucket_perm (nodeId : CString) (id : UserId) (buckets : List (CString × List UserId)) :
    ((addToBucket nodeId id buckets).flatMap Prod.snd).Perm (id :: buckets.flatMap Prod.snd) := by
  induction buckets with
  | nil => exact .refl _
  | cons bucket rest ih =>
    rw [addToBucket]
    by_cases same : bucket.1 = nodeId
    · rw [if_pos same, List.flatMap_cons, List.flatMap_cons, List.append_assoc]
      exact List.perm_middle
    · rw [if_neg same, List.flatMap_cons, List.flatMap_cons]
      exact (ih.append_left bucket.2).trans List.perm_middle

/-- Resolving the members puts each into a bucket or with the others. -/
theorem resolveMembers_pays (server : Server) (members : List UserId)
    (buckets : List (CString × List UserId)) (offlineIds : List UserId) (copies : Multiset Copy) :
    Pays (resolveMembers server members buckets offlineIds) copies fun left found =>
      left = copies ∧ (found.1.flatMap Prod.snd ++ found.2).Perm
        (buckets.flatMap Prod.snd ++ offlineIds ++ members) := by
  induction members generalizing buckets offlineIds with
  | nil => exact .ret ⟨rfl, by rw [List.append_nil]⟩
  | cons id rest ih =>
    apply (pays_of_bare (registry_bare _)).andThen
    rintro left found rfl
    have offline : Pays (resolveMembers server rest buckets (offlineIds ++ [id])) left
        fun left' found => left' = left ∧ (found.1.flatMap Prod.snd ++ found.2).Perm
          (buckets.flatMap Prod.snd ++ offlineIds ++ id :: rest) := by
      have sorted := ih buckets (offlineIds ++ [id])
      simp only [List.append_assoc, List.singleton_append] at sorted ⊢
      exact sorted
    match found with
    | none => exact offline
    | some (nodeId, nodeMeta) =>
      dsimp only
      by_cases self : isSelfNode server nodeId = true
      · rw [if_pos self]
        apply (pays_of_bare (unbindUser_bare server id)).andThen
        rintro left _ rfl
        exact offline
      · rw [if_neg self]
        apply (ih (addToBucket nodeId id buckets) offlineIds).mono
        rintro debt found' ⟨left', rfl, rfl, sorted⟩
        refine ⟨_, rfl, rfl, sorted.trans ?_⟩
        have added := (addToBucket_perm nodeId id buckets).append_right (offlineIds ++ rest)
        have middle : (id :: (buckets.flatMap Prod.snd ++ offlineIds ++ rest)).Perm
            (buckets.flatMap Prod.snd ++ offlineIds ++ id :: rest) := List.perm_middle.symm
        rw [List.cons_append, ← List.append_assoc, ← List.append_assoc] at added
        exact added.trans middle

theorem sendToConnections_pays (message : Message) (localConns : List (UserId × Connection)) :
    Pays (sendToConnections message localConns) (copiesOf message (localConns.map Prod.fst) + rest)
      fun left _ => left = rest := by
  induction localConns with
  | nil => exact .ret (Multiset.zero_add rest)
  | cons localConn others ih =>
    rw [List.map_cons, copiesOf_cons, Multiset.add_assoc]
    apply Pays.call (.service (.send localConn.2 (.chat ⟨message, localConn.1⟩)))
      fun _ => true
    · exact placed_send localConn.2 _
    · exact fun _ => ih

/-- The copies of a bucket that no channel takes are owed with the others. -/
theorem sendBuckets_pays (server : Server) (message : Message)
    (buckets : List (CString × List UserId)) (offlineIds : List UserId) :
    Pays (sendBuckets server message buckets offlineIds)
      (copiesOf message (buckets.flatMap Prod.snd ++ offlineIds)) fun left unsent =>
        left = copiesOf message unsent := by
  induction buckets generalizing offlineIds with
  | nil => exact .ret rfl
  | cons bucket others ih =>
    have later : copiesOf message ((bucket :: others).flatMap Prod.snd ++ offlineIds) =
        copiesOf message (others.flatMap Prod.snd ++ (offlineIds ++ bucket.2)) := by
      apply copiesOf_perm
      rw [List.flatMap_cons, List.append_assoc, ← List.append_assoc (others.flatMap Prod.snd)]
      exact List.perm_append_comm
    have unsent : Pays (sendBuckets server message others (offlineIds ++ bucket.2))
        (copiesOf message ((bucket :: others).flatMap Prod.snd ++ offlineIds)) fun left unsent =>
          left = copiesOf message unsent := later ▸ ih (offlineIds ++ bucket.2)
    apply (pays_of_bare (registry_bare _)).andThen
    rintro left found rfl
    cases found with
    | none => exact unsent
    | some nodeMeta =>
      apply (pays_of_bare (ClusterRouter.prewarmNode_bare server.shardCount nodeMeta)).andThen
      rintro left _ rfl
      rw [List.flatMap_cons, List.append_assoc, copiesOf_append] at unsent ⊢
      apply (ClusterRouter.sendGroupChat_pays server.shardCount nodeMeta bucket.2 message).andThen
      rintro left sent rfl
      cases sent with
      | true => exact ih offlineIds
      | false => exact unsent

theorem insertAll_pays (message : Message) (ids : List UserId) :
    Pays (insertAll message ids) (copiesOf message ids) fun left _ => left = 0 := by
  induction ids with
  | nil => exact .ret rfl
  | cons id others ih =>
    rw [copiesOf_cons]
    apply (insertOffline_pays ⟨message, id⟩).andThen
    rintro left _ rfl
    exact ih

theorem groupChat_pays (server : Server) (message : Message) (userId : UserId) (groupId : Int32) :
    (groupChat server message userId groupId).Follows Debt.after Debt.Permits
      (fun debt _ => debt = .owing 0) (.asking message) := by
  rw [groupChat, database_bind]
  refine ⟨rfl, fun members => ?_⟩
  -- now the members are known
  apply follows_of_pays
  dsimp only
  by_cases empty : members = []
  · rw [if_neg fun listed => listed empty, empty]
    exact .ret rfl
  · rw [if_pos empty]
    apply (lookupMembers_pays members _).andThen
    rintro left ⟨localConns, unresolved⟩ ⟨rfl, sorted⟩
    apply (resolveMembers_pays server unresolved [] [] _).andThen
    rintro left ⟨buckets, offlineIds⟩ ⟨rfl, resolved⟩
    have owed : copiesOf message members = copiesOf message (localConns.map Prod.fst) +
        copiesOf message (buckets.flatMap Prod.snd ++ offlineIds) := by
      rw [← copiesOf_perm message sorted, copiesOf_append, copiesOf_perm message resolved]
      rfl
    rw [owed]
    apply (sendToConnections_pays message localConns).andThen
    rintro left _ rfl
    refine .bare rfl fun order => ?_
    have arranged : copiesOf message (buckets.flatMap Prod.snd ++ offlineIds) =
        copiesOf message ((arrange order buckets).flatMap Prod.snd ++ offlineIds) :=
      copiesOf_perm message (((arrange_perm order buckets).symm.flatMap_right _).append_right _)
    rw [arranged]
    apply (sendBuckets_pays server message (arrange order buckets) offlineIds).andThen
    rintro left unsent rfl
    exact insertAll_pays message unsent

end ChatService

end Place

/-- What the thread of a job owes, by its log. -/
def Thread.debt (thread : Thread ServerCall Job Unit) : Debt :=
  Calls.ghostAfter Debt.after thread.tag.handler.debt thread.log

/-- A thread settles what it owes, whatever it is answered from here on. -/
def Thread.Pays (thread : Thread ServerCall Job Unit) : Prop :=
  thread.rest.Follows Debt.after Debt.Permits (fun debt _ => debt = .owing 0) thread.debt

/-- **Every handler pays**, whatever it is answered: it places what it owes, and nothing else. -/
theorem program_pays (cluster : Cluster) (n : ℕ) (handler : Handler) :
    (cluster.program n handler).Follows Debt.after Debt.Permits (fun debt _ => debt = .owing 0)
      handler.debt := by
  cases handler with
  | initNode => exact follows_of_pays (pays_of_bare (ChatService.initNode_bare _ _))
  | heartbeat => exact follows_of_pays (pays_of_bare ((registry_bare _).bind fun _ => trivial))
  | login id pwd conn => exact follows_of_pays (pays_of_bare (ChatService.login_bare _ id pwd conn))
  | logout userId => exact follows_of_pays (pays_of_bare (ChatService.logout_bare _ userId))
  | clientCloseException conn =>
    exact follows_of_pays (pays_of_bare (ChatService.clientCloseException_bare _ conn))
  | oneChat copy => exact follows_of_pays (ChatService.oneChat_pays _ copy 0)
  | groupChat message userId groupId => exact ChatService.groupChat_pays _ message userId groupId
  | clusterFrame frame => exact follows_of_pays (ChatService.handleClusterFrame_pays _ frame)
  | closeAll => exact follows_of_pays (pays_of_bare ClusterRouter.closeAll_bare)
  | reset => exact follows_of_pays (pays_of_bare (ChatService.reset_bare _))

end ClusterChat
