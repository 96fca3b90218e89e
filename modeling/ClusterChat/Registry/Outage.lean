/-
# Registry writes that fail halfway

Each write of the registry is two or three commands, and the client gives up at the first one
that gets no reply. It does not take back the commands before that one. A failed write leaves
Redis as it was only where the commands before the failing one had nothing to change.
-/

import ClusterChat.Registry.Publish

namespace ClusterChat

/-- A command gets no reply. -/
def RedisCommand.noReply : {β : Type} → RedisCommand β → β
  | _, .setSession .. => none
  | _, .getSession _ => none
  | _, .delSession .. => none
  | _, .addNodeUser .. => none
  | _, .remNodeUser .. => none
  | _, .nodeUsers _ => none
  | _, .delNodeUsers _ => none
  | _, .setNode .. => none
  | _, .expireNode .. => none
  | _, .getNode _ => none
  | _, .delNode _ => none
  | _, .addNode _ => none
  | _, .remNode _ => none
  | _, .nodes => none

/-- Redis, and how many commands it still executes before the one that it does not; `none`
once that one has been sent. -/
structure RedisOutage where
  store : RedisStore
  before : Option ℕ

/-- The effect of a call while one command fails. -/
def RedisOutage.exec (clockMs seconds : Int) :
    {β : Type} → RedisCall β → RedisOutage → Option (β × RedisOutage)
  | _, .client .lock, outage => some ((), outage)
  | _, .client .unlock, outage => some ((), outage)
  | _, .client .time, outage => some (seconds, outage)
  | _, .command command, ⟨store, some 0⟩ => some (command.noReply, ⟨store, none⟩)
  | _, .command command, ⟨store, some (n + 1)⟩ =>
    some ((store.exec clockMs command).1, ⟨(store.exec clockMs command).2, some n⟩)
  | _, .command command, ⟨store, none⟩ =>
    some ((store.exec clockMs command).1, ⟨(store.exec clockMs command).2, none⟩)

/-- The writes of the registry. -/
inductive RegistryWrite
  | registerNode (node : NodeMeta) (ttlSeconds : Int)
  | unregisterNode (nodeId : CString)
  | bindUserNode (userId : UserId) (nodeId instanceId : CString)
  | unbindUserNode (caller : Unbinder) (userId : UserId) (nodeId : CString)

def RegistryWrite.program : RegistryWrite → Calls RedisCall Bool
  | registerNode node ttlSeconds => Redis.registerNode node ttlSeconds
  | unregisterNode nodeId => Redis.unregisterNode nodeId
  | bindUserNode userId nodeId instanceId => Redis.bindUserNode userId nodeId instanceId
  | unbindUserNode caller userId nodeId => Redis.unbindUserNode caller userId nodeId

/-! ### What Redis shows -/

/-- Two hashes with the same value in every field and the same expiry. -/
def NodeRecord.Same (record other : NodeRecord) : Prop :=
  (∀ field, record.fields.lookup field = other.fields.lookup field) ∧
    record.expireAtMs = other.expireAtMs

/-- Redis shows the same sessions, members of the sets, and hashes that have not expired. -/
structure RedisStore.Same (clockMs : Int) (store other : RedisStore) : Prop where
  session : store.session = other.session
  nodeUsers : ∀ nodeId userId, userId ∈ store.nodeUsers nodeId ↔ userId ∈ other.nodeUsers nodeId
  node : ∀ nodeId, Option.Rel NodeRecord.Same (store.liveNode clockMs nodeId)
    (other.liveNode clockMs nodeId)
  nodes : ∀ nodeId, nodeId ∈ store.nodes ↔ nodeId ∈ other.nodes

/-- A write whose command at `position` gets no reply, if it sends that many. -/
def RegistryWrite.run (write : RegistryWrite) (clockMs seconds : Int) (store : RedisStore)
    (position : ℕ) : Option (Bool × RedisOutage) :=
  write.program.eval (RedisOutage.exec clockMs seconds) ⟨store, some position⟩

/-- A write that fails at a command fails as a whole, and leaves Redis as it was. -/
def RegistryWrite.Atomic (write : RegistryWrite) (clockMs seconds : Int) (store : RedisStore)
    (position : ℕ) : Prop :=
  ∀ result after, write.run clockMs seconds store position = some (result, after) →
    after.before = none → result = false ∧ store.Same clockMs after.store

/-- The time of the heartbeat that `registerNode` writes. -/
def NodeMeta.heartbeatAt (node : NodeMeta) (seconds : Int) : Int :=
  if node.heartbeatMs ≤ 0 then 1000 * seconds else node.heartbeatMs

/-- The hash of the node is there with the values that `registerNode` writes. -/
def RedisStore.Written (store : RedisStore) (clockMs seconds : Int) (node : NodeMeta)
    (record : NodeRecord) : Prop :=
  store.liveNode clockMs node.nodeId = some record ∧
    ∀ field, record.fields.lookup field = (node.fields (node.heartbeatAt seconds)).lookup field

/-- The commands before the one at `position`, if the write sends that many, have nothing to
change. -/
def RegistryWrite.Idle (clockMs seconds : Int) (store : RedisStore) : RegistryWrite → ℕ → Prop
  | registerNode node _, 1 => ∃ record, store.Written clockMs seconds node record
  | registerNode node ttlSeconds, 2 =>
    if ttlSeconds ≤ 0 then store.liveNode clockMs node.nodeId = none
    else ∃ record, store.Written clockMs seconds node record ∧
      record.expireAtMs = some (clockMs + 1000 * ttlSeconds)
  | unregisterNode nodeId, 1 => store.liveNode clockMs nodeId = none
  | unregisterNode nodeId, 2 =>
    store.liveNode clockMs nodeId = none ∧ store.nodeUsers nodeId = []
  | bindUserNode userId _ _, 1 => store.session userId ≠ none
  | unbindUserNode _ userId nodeId, 1 => nodeId = [] ∨ store.session userId = none
  | _, _ => True

/-! ### What a command changes -/

theorem NodeRecord.Same.refl (record : NodeRecord) : record.Same record := ⟨fun _ => rfl, rfl⟩

theorem Option.rel_refl {α : Type} {r : α → α → Prop} (refl : ∀ a, r a a) (a : Option α) :
    Option.Rel r a a := by
  cases a with
  | none => exact .none
  | some a => exact .some (refl a)

namespace RedisStore

variable {clockMs : Int} {store : RedisStore}

theorem Same.refl (store : RedisStore) : store.Same clockMs store :=
  ⟨rfl, fun _ _ => .rfl, fun _ => Option.rel_refl NodeRecord.Same.refl _, fun _ => .rfl⟩

/-- Only the hash of one node differs. -/
structure OnlyNode (nodeId : CString) (store after : RedisStore) : Prop where
  session : after.session = store.session
  nodeUsers : after.nodeUsers = store.nodeUsers
  nodes : after.nodes = store.nodes
  others : ∀ other, other ≠ nodeId → after.node other = store.node other

theorem OnlyNode.update (nodeId : CString) (record : Option NodeRecord) :
    OnlyNode nodeId store { store with node := Function.update store.node nodeId record } :=
  ⟨rfl, rfl, rfl, fun _ here => Function.update_of_ne here ..⟩

theorem OnlyNode.expireNode {nodeId : CString} {middle : RedisStore}
    (only : OnlyNode nodeId store middle) (seconds : Int) :
    OnlyNode nodeId store (middle.expireNode clockMs nodeId seconds) := by
  rw [RedisStore.expireNode]
  cases middle.liveNode clockMs nodeId with
  | none => exact only
  | some record =>
    refine ⟨only.session, only.nodeUsers, only.nodes, fun other here => ?_⟩
    exact (Function.update_of_ne here ..).trans (only.others other here)

/-- Where only one hash differs, what is shown of it decides. -/
theorem OnlyNode.same_iff {after : RedisStore} {nodeId : CString}
    (only : OnlyNode nodeId store after) :
    store.Same clockMs after ↔
      Option.Rel NodeRecord.Same (store.liveNode clockMs nodeId)
        (after.liveNode clockMs nodeId) := by
  constructor
  · intro same
    exact same.node nodeId
  · intro same
    refine ⟨only.session.symm, fun _ _ => by rw [only.nodeUsers], fun other => ?_,
      fun _ => by rw [only.nodes]⟩
    by_cases here : other = nodeId
    · subst here
      exact same
    · have kept : after.liveNode clockMs other = store.liveNode clockMs other := by
        rw [liveNode, liveNode, only.others other here]
      rw [kept]
      exact Option.rel_refl NodeRecord.Same.refl _

theorem rel_none_iff {shown : Option NodeRecord} :
    Option.Rel NodeRecord.Same shown none ↔ shown = none := by
  constructor
  · rintro ⟨⟩
    rfl
  · rintro rfl
    exact .none

theorem rel_some_iff {shown : Option NodeRecord} {other : NodeRecord} :
    Option.Rel NodeRecord.Same shown (some other) ↔
      ∃ record, shown = some record ∧ record.Same other := by
  constructor
  · intro same
    cases same with
    | some same => exact ⟨_, rfl, same⟩
  · rintro ⟨record, rfl, same⟩
    exact .some same

/-- A session that was deleted is missed unless there was none. -/
theorem same_delSession (userId : UserId) :
    store.Same clockMs { store with session := Function.update store.session userId none } ↔
      store.session userId = none := by
  constructor
  · intro same
    exact (congrFun same.session userId).trans (Function.update_self ..)
  · intro absent
    have kept : Function.update store.session userId none = store.session := by
      rw [← absent, Function.update_eq_self]
    rw [kept]
    exact .refl store

/-- A hash that was deleted is missed unless there was none. -/
theorem same_delNode (nodeId : CString) :
    store.Same clockMs { store with node := Function.update store.node nodeId none } ↔
      store.liveNode clockMs nodeId = none := by
  have gone : RedisStore.liveNode { store with node := Function.update store.node nodeId none }
      clockMs nodeId = none := by
    rw [liveNode]
    dsimp only
    rw [Function.update_self]
    rfl
  rw [(OnlyNode.update nodeId none).same_iff, gone, rel_none_iff]

/-- So is one that was deleted with the set of its users, unless the set was empty too. -/
theorem same_delNodeUsers (nodeId : CString) :
    store.Same clockMs { store with
        node := Function.update store.node nodeId none
        nodeUsers := Function.update store.nodeUsers nodeId [] } ↔
      store.liveNode clockMs nodeId = none ∧ store.nodeUsers nodeId = [] := by
  have hash : store.Same clockMs { store with node := Function.update store.node nodeId none } ↔
      store.liveNode clockMs nodeId = none := same_delNode nodeId
  constructor
  · intro same
    refine ⟨hash.mp ⟨rfl, fun _ _ => .rfl, same.node, fun _ => .rfl⟩, ?_⟩
    apply List.eq_nil_iff_forall_not_mem.mpr
    intro userId present
    have missing := (same.nodeUsers nodeId userId).mp present
    dsimp only at missing
    rw [Function.update_self] at missing
    exact List.not_mem_nil missing
  · rintro ⟨absent, users⟩
    have kept : Function.update store.nodeUsers nodeId [] = store.nodeUsers := by
      rw [← users, Function.update_eq_self]
    rw [kept]
    exact hash.mpr absent

/-- `HMSET` goes unseen just where the hash has the fields already. -/
theorem same_setNode (node : NodeMeta) (heartbeatMs : Int) :
    store.Same clockMs (store.setNode clockMs node.nodeId (node.fields heartbeatMs)) ↔
      ∃ record, store.liveNode clockMs node.nodeId = some record ∧
        ∀ field, record.fields.lookup field = (node.fields heartbeatMs).lookup field := by
  have only : OnlyNode node.nodeId store
      (store.setNode clockMs node.nodeId (node.fields heartbeatMs)) := OnlyNode.update _ _
  rw [only.same_iff, liveNode_setNode, rel_some_iff]
  refine exists_congr fun record => and_congr_right fun found => ?_
  rw [found]
  exact and_iff_left rfl

/-- `EXPIRE` after `HMSET` goes unseen just where there was no hash and there is none again,
or where the hash has the fields and the expiry already. -/
theorem same_expireNode (node : NodeMeta) (heartbeatMs ttlSeconds : Int) :
    store.Same clockMs ((store.setNode clockMs node.nodeId (node.fields heartbeatMs)).expireNode
        clockMs node.nodeId ttlSeconds) ↔
      if ttlSeconds ≤ 0 then store.liveNode clockMs node.nodeId = none
      else ∃ record, (store.liveNode clockMs node.nodeId = some record ∧
        ∀ field, record.fields.lookup field = (node.fields heartbeatMs).lookup field) ∧
          record.expireAtMs = some (clockMs + 1000 * ttlSeconds) := by
  have written := liveNode_setNode store clockMs node heartbeatMs
  have only : OnlyNode node.nodeId store
      (store.setNode clockMs node.nodeId (node.fields heartbeatMs)) := OnlyNode.update _ _
  rw [(only.expireNode ttlSeconds).same_iff]
  by_cases past : ttlSeconds ≤ 0
  · have gone : ((store.setNode clockMs node.nodeId (node.fields heartbeatMs)).expireNode clockMs
        node.nodeId ttlSeconds).liveNode clockMs node.nodeId = none := by
      rw [RedisStore.expireNode, written, liveNode]
      dsimp only
      rw [if_pos past, Function.update_self]
      rfl
    rw [if_pos past, gone, rel_none_iff]
  · have lasting : clockMs < clockMs + 1000 * ttlSeconds := by omega
    rw [if_neg past, liveNode_expireNode written (Int.le_refl clockMs) lasting, rel_some_iff]
    refine exists_congr fun record => ?_
    rw [and_assoc]
    exact Iff.rfl

end RedisStore

/-! ### The writes -/

section Writes

variable {clockMs seconds : Int} {store : RedisStore}

/-- A write that ends before it reaches the failing command. -/
theorem RegistryWrite.atomic_of_unreached {write : RegistryWrite} {position left : ℕ}
    {result : Bool} {after : RedisStore}
    (ran : write.run clockMs seconds store position = some (result, ⟨after, some left⟩)) :
    write.Atomic clockMs seconds store position := by
  intro result' after' ran' reached
  obtain ⟨-, rfl⟩ := Prod.mk.inj (Option.some.inj (ran.symm.trans ran'))
  cases reached

/-- A write that gives up at the failing command. -/
theorem RegistryWrite.atomic_iff_same {write : RegistryWrite} {position : ℕ} {after : RedisStore}
    (ran : write.run clockMs seconds store position = some (false, ⟨after, none⟩)) :
    write.Atomic clockMs seconds store position ↔ store.Same clockMs after := by
  constructor
  · intro atomic
    exact (atomic false _ ran rfl).2
  · intro same result' after' ran' _
    obtain ⟨rfl, rfl⟩ := Prod.mk.inj (Option.some.inj (ran.symm.trans ran'))
    exact ⟨rfl, same⟩

theorem bindUserNode_atomic (userId : UserId) (nodeId instanceId : CString) (position : ℕ) :
    (RegistryWrite.bindUserNode userId nodeId instanceId).Atomic clockMs seconds store position ↔
      (RegistryWrite.bindUserNode userId nodeId instanceId).Idle
        clockMs seconds store position := by
  cases held : store.session userId with
  | some value =>
    -- the user has a session, and nothing is written
    cases position with
    | zero => exact (RegistryWrite.atomic_iff_same rfl).trans (iff_of_true (.refl store) trivial)
    | succ n =>
      have ran : (RegistryWrite.bindUserNode userId nodeId instanceId).run clockMs seconds store
          (n + 1) = some (false, ⟨store, some n⟩) := by
        simp [RegistryWrite.run, RegistryWrite.program, Redis.bindUserNode, Redis.locked,
          Redis.send, RedisOutage.exec, RedisStore.exec, held]
      refine iff_of_true (RegistryWrite.atomic_of_unreached ran) ?_
      cases n with
      | zero =>
        show store.session userId ≠ none
        rw [held]
        exact Option.some_ne_none value
      | succ n => trivial
  | none =>
    rcases position with _ | _ | n
    · exact (RegistryWrite.atomic_iff_same rfl).trans (iff_of_true (.refl store) trivial)
    · have ran : (RegistryWrite.bindUserNode userId nodeId instanceId).run clockMs seconds store 1 =
          some (false, ⟨{ store with
            session := Function.update store.session userId
              (some (sessionValue nodeId instanceId)) }, none⟩) := by
        simp [RegistryWrite.run, RegistryWrite.program, Redis.bindUserNode, Redis.locked,
          Redis.send, RedisOutage.exec, RedisStore.exec, RedisCommand.noReply, held]
      rw [RegistryWrite.atomic_iff_same ran]
      refine iff_of_false (fun same => ?_) fun busy => busy held
      have kept := congrFun same.session userId
      rw [held] at kept
      exact absurd kept.symm (by simp)
    · have ran : ∃ after, (RegistryWrite.bindUserNode userId nodeId instanceId).run clockMs seconds
          store (n + 2) = some (true, ⟨after, some n⟩) := by
        simp [RegistryWrite.run, RegistryWrite.program, Redis.bindUserNode, Redis.locked,
          Redis.send, RedisOutage.exec, RedisStore.exec, held]
      obtain ⟨after, ran⟩ := ran
      exact iff_of_true (RegistryWrite.atomic_of_unreached ran) trivial

theorem unbindUserNode_atomic (caller : Unbinder) (userId : UserId) (nodeId : CString)
    (position : ℕ) :
    (RegistryWrite.unbindUserNode caller userId nodeId).Atomic clockMs seconds store position ↔
      (RegistryWrite.unbindUserNode caller userId nodeId).Idle clockMs seconds store position := by
  rcases position with _ | _ | n
  · exact (RegistryWrite.atomic_iff_same rfl).trans (iff_of_true (.refl store) trivial)
  · by_cases named : nodeId = []
    · have ran : ∃ after, (RegistryWrite.unbindUserNode caller userId nodeId).run clockMs seconds
          store 1 = some (true, ⟨after, some 0⟩) := by
        simp [RegistryWrite.run, RegistryWrite.program, Redis.unbindUserNode, Redis.locked,
          Redis.send, RedisOutage.exec, RedisStore.exec, named]
      obtain ⟨after, ran⟩ := ran
      exact iff_of_true (RegistryWrite.atomic_of_unreached ran) (.inl named)
    · have ran : (RegistryWrite.unbindUserNode caller userId nodeId).run clockMs seconds store 1 =
          some (false, ⟨{ store with
            session := Function.update store.session userId none }, none⟩) := by
        simp [RegistryWrite.run, RegistryWrite.program, Redis.unbindUserNode, Redis.locked,
          Redis.send, RedisOutage.exec, RedisStore.exec, RedisCommand.noReply, named]
      rw [RegistryWrite.atomic_iff_same ran, RedisStore.same_delSession]
      exact (or_iff_right named).symm
  · have ran : ∃ after left, (RegistryWrite.unbindUserNode caller userId nodeId).run clockMs
        seconds store (n + 2) = some (true, ⟨after, some left⟩) := by
      by_cases named : nodeId = []
      · simp [RegistryWrite.run, RegistryWrite.program, Redis.unbindUserNode, Redis.locked,
          Redis.send, RedisOutage.exec, RedisStore.exec, named]
      · simp [RegistryWrite.run, RegistryWrite.program, Redis.unbindUserNode, Redis.locked,
          Redis.send, RedisOutage.exec, RedisStore.exec, named]
    obtain ⟨after, left, ran⟩ := ran
    exact iff_of_true (RegistryWrite.atomic_of_unreached ran) trivial

theorem unregisterNode_atomic (nodeId : CString) (position : ℕ) :
    (RegistryWrite.unregisterNode nodeId).Atomic clockMs seconds store position ↔
      (RegistryWrite.unregisterNode nodeId).Idle clockMs seconds store position := by
  rcases position with _ | _ | _ | n
  · exact (RegistryWrite.atomic_iff_same rfl).trans (iff_of_true (.refl store) trivial)
  · exact (RegistryWrite.atomic_iff_same rfl).trans (RedisStore.same_delNode nodeId)
  · exact (RegistryWrite.atomic_iff_same rfl).trans (RedisStore.same_delNodeUsers nodeId)
  · have ran : (RegistryWrite.unregisterNode nodeId).run clockMs seconds store (n + 3) =
        some (true, ⟨store.unregistered nodeId, some n⟩) := rfl
    exact iff_of_true (RegistryWrite.atomic_of_unreached ran) trivial

/-- `registerNode` writes the time it is given, or else the time it reads. -/
theorem registerNode_run (clockMs seconds : Int) (store : RedisStore) (node : NodeMeta)
    (ttlSeconds : Int) (position : ℕ) :
    (RegistryWrite.registerNode node ttlSeconds).run clockMs seconds store position =
      (Redis.locked (Redis.writeNode node ttlSeconds (node.heartbeatAt seconds))).eval
        (RedisOutage.exec clockMs seconds) ⟨store, some position⟩ := by
  by_cases unset : node.heartbeatMs ≤ 0
  · simp [RegistryWrite.run, RegistryWrite.program, Redis.registerNode, Redis.locked,
      NodeMeta.heartbeatAt, unset, RedisOutage.exec]
  · simp [RegistryWrite.run, RegistryWrite.program, Redis.registerNode, Redis.locked,
      NodeMeta.heartbeatAt, unset]

theorem registerNode_atomic (node : NodeMeta) (ttlSeconds : Int) (position : ℕ) :
    (RegistryWrite.registerNode node ttlSeconds).Atomic clockMs seconds store position ↔
      (RegistryWrite.registerNode node ttlSeconds).Idle clockMs seconds store position := by
  have run := registerNode_run clockMs seconds store node ttlSeconds
  rcases position with _ | _ | _ | n
  · exact (RegistryWrite.atomic_iff_same (run 0)).trans (iff_of_true (.refl store) trivial)
  · exact (RegistryWrite.atomic_iff_same (run 1)).trans
      (RedisStore.same_setNode node (node.heartbeatAt seconds))
  · exact (RegistryWrite.atomic_iff_same (run 2)).trans
      (RedisStore.same_expireNode node (node.heartbeatAt seconds) ttlSeconds)
  · have ran : (RegistryWrite.registerNode node ttlSeconds).run clockMs seconds store (n + 3) =
        some (true, ⟨store.withRegistered clockMs node ttlSeconds (node.heartbeatAt seconds),
          some n⟩) := run (n + 3)
    exact iff_of_true (RegistryWrite.atomic_of_unreached ran) trivial

/-- **When a failed write leaves Redis as it was.** A write that fails at the command at
`position` does so on every store if that is its first command, and otherwise just where the
commands before it had nothing to change. -/
theorem RegistryWrite.atomic_iff_idle (write : RegistryWrite) (clockMs seconds : Int)
    (store : RedisStore) (position : ℕ) :
    write.Atomic clockMs seconds store position ↔ write.Idle clockMs seconds store position := by
  cases write with
  | registerNode node ttlSeconds => exact registerNode_atomic node ttlSeconds position
  | unregisterNode nodeId => exact unregisterNode_atomic nodeId position
  | bindUserNode userId nodeId instanceId =>
    exact bindUserNode_atomic userId nodeId instanceId position
  | unbindUserNode caller userId nodeId => exact unbindUserNode_atomic caller userId nodeId position

end Writes

/-- **A login that fails in the middle locks the user out.** A node is registered, and the
`SADD` of a login on it gets no reply: the login fails, its session stays, and the next login
finds the user logged in. A registration that loses its `EXPIRE` leaves a hash for good. -/
theorem failed_login_locks_out :
    ¬(RegistryWrite.bindUserNode 1 (twoNodes 0).selfNode.nodeId
        (twoNodes 0).selfNode.instanceId).Atomic 0 0
          (RedisStore.empty.withRegistered 0 (twoNodes 0).selfNode 12 1000) 1 ∧
      (∃ after, (RegistryWrite.bindUserNode 1 (twoNodes 0).selfNode.nodeId
          (twoNodes 0).selfNode.instanceId).run 0 0
            (RedisStore.empty.withRegistered 0 (twoNodes 0).selfNode 12 1000) 1 =
              some (false, ⟨after, none⟩) ∧
        ((NodeRegistry.queryUserNode 1).eval (RegistryState.exec 0)
          ⟨after, 0, .create (twoNodes 0)⟩).map Prod.fst =
            some (some (twoNodes 0).selfNode.nodeId)) ∧
      ∃ after record, (RegistryWrite.registerNode (twoNodes 0).selfNode 12).run 0 0 .empty 1 =
          some (false, ⟨after, none⟩) ∧
        after.liveNode 0 (twoNodes 0).selfNode.nodeId = some record ∧ record.expireAtMs = none := by
  refine ⟨?_, ⟨_, rfl, ?_⟩, _, ⟨(twoNodes 0).selfNode.fields 1000, none⟩, rfl, ?_, rfl⟩
  · intro atomic
    exact (bindUserNode_atomic 1 _ _ 1).mp atomic rfl
  · decide +kernel
  · rfl

end ClusterChat
