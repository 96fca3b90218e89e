/-
# The mutex of the Redis client

Each method of `Redis` takes the mutex of the client, sends its commands and releases the mutex, and
`NodeRegistry` calls one after the other. So a thread never asks for the mutex while it has it, does
nothing but send commands meanwhile, and has let go of it when it returns.
-/

import ClusterChat.Registry.NodeRegistry

namespace ClusterChat

open NodeRegistry

/-- Whether a thread has the mutex after a call. -/
def holdsAfter (holds : Bool) : Event RegistryCall → Bool
  | ⟨.redis (.client .lock), _⟩ => true
  | ⟨.redis (.client .unlock), _⟩ => false
  | _ => holds

/-- What a thread may do that has the mutex, or has it not. -/
def HoldPermits (holds : Bool) : ⦃β : Type⦄ → RegistryCall β → Prop
  | _, .redis (.client .lock) => holds = false
  | _, .redis _ => holds = true
  | _, .node _ => holds = false

/-- A program that starts and ends without the mutex. -/
def Bracketed {α : Type} (program : Calls RegistryCall α) : Prop :=
  program.Follows holdsAfter HoldPermits (fun holds _ => holds = false) false

/-- What a method of `Redis` does with the mutex in its hands. -/
def RedisCall.Inside : ⦃β : Type⦄ → RedisCall β → Prop
  | _, .client .lock => False
  | _, .client .unlock => False
  | _, _ => True

section Bracketed

variable {α β : Type}

theorem Bracketed.ret (value : α) : Bracketed (.ret value) := rfl

theorem Bracketed.bind {program : Calls RegistryCall α} {cont : α → Calls RegistryCall β}
    (first : Bracketed program) (rest : ∀ value, Bracketed (cont value)) :
    Bracketed (program >>= cont) := by
  apply Calls.Follows.andThen first
  intro holds value free
  subst free
  exact rest value

theorem Bracketed.node {γ : Type} (call : NodeCall γ) {next : γ → Calls RegistryCall α}
    (rest : ∀ answer, Bracketed (next answer)) : Bracketed (.call (.node call) next) :=
  ⟨rfl, rest⟩

/-- **A method of `Redis` brackets its commands.** -/
theorem bracketed_locked {body : Calls RedisCall α} (inside : body.Only RedisCall.Inside) :
    Bracketed (redis (Redis.locked body)) := by
  refine ⟨rfl, fun _ => ?_⟩
  change (Calls.lift _ (body >>= _)).Follows _ _ _ true
  induction body with
  | ret value => exact ⟨rfl, fun _ => rfl⟩
  | call request next ih =>
    refine ⟨?_, fun answer => ?_⟩
    · cases request with
      | client call =>
        cases call with
        | lock => exact inside.1.elim
        | unlock => exact inside.1.elim
        | time => rfl
      | command command => rfl
    · have still : holdsAfter true ⟨.redis request, answer⟩ = true := by
        cases request with
        | client call =>
          cases call with
          | lock => rfl
          | unlock => exact inside.1.elim
          | time => rfl
        | command command => rfl
      rw [still]
      exact ih answer (inside.2 answer)

end Bracketed

/-! ### The methods -/

theorem writeNode_inside (node : NodeMeta) (ttlSeconds heartbeatMs : Int) :
    (Redis.writeNode node ttlSeconds heartbeatMs).Only RedisCall.Inside := by
  refine ⟨trivial, fun reply => ?_⟩
  cases reply with
  | none => trivial
  | some _ =>
    refine ⟨trivial, fun reply => ?_⟩
    cases reply with
    | none => trivial
    | some _ =>
      refine ⟨trivial, fun reply => ?_⟩
      cases reply <;> trivial

theorem registerNode_bracketed (node : NodeMeta) (ttlSeconds : Int) :
    Bracketed (redis (Redis.registerNode node ttlSeconds)) := by
  apply bracketed_locked
  by_cases unset : node.heartbeatMs ≤ 0
  · rw [if_pos unset]
    exact ⟨trivial, fun seconds => writeNode_inside node ttlSeconds _⟩
  · rw [if_neg unset]
    exact writeNode_inside node ttlSeconds _

theorem unregisterNode_bracketed (nodeId : CString) :
    Bracketed (redis (Redis.unregisterNode nodeId)) := by
  apply bracketed_locked
  refine ⟨trivial, fun reply => ?_⟩
  cases reply with
  | none => trivial
  | some _ =>
    refine ⟨trivial, fun reply => ?_⟩
    cases reply with
    | none => trivial
    | some _ =>
      refine ⟨trivial, fun reply => ?_⟩
      cases reply <;> trivial

theorem getNode_bracketed (nodeId : CString) : Bracketed (redis (Redis.getNode nodeId)) := by
  apply bracketed_locked
  refine ⟨trivial, fun reply => ?_⟩
  cases reply <;> trivial

theorem getNodeIds_bracketed : Bracketed (redis Redis.getNodeIds) := by
  apply bracketed_locked
  refine ⟨trivial, fun reply => ?_⟩
  cases reply <;> trivial

theorem getNodeUsers_bracketed (nodeId : CString) :
    Bracketed (redis (Redis.getNodeUsers nodeId)) := by
  apply bracketed_locked
  refine ⟨trivial, fun reply => ?_⟩
  cases reply <;> trivial

theorem bindUserNode_bracketed (userId : UserId) (nodeId instanceId : CString) :
    Bracketed (redis (Redis.bindUserNode userId nodeId instanceId)) := by
  apply bracketed_locked
  refine ⟨trivial, fun reply => ?_⟩
  match reply with
  | none => trivial
  | some false => trivial
  | some true =>
    refine ⟨trivial, fun reply => ?_⟩
    cases reply <;> trivial

theorem unbindUserNode_bracketed (caller : Unbinder) (userId : UserId) (nodeId : CString) :
    Bracketed (redis (Redis.unbindUserNode caller userId nodeId)) := by
  apply bracketed_locked
  refine ⟨trivial, fun reply => ?_⟩
  cases reply with
  | none => trivial
  | some _ =>
    by_cases named : nodeId = []
    · subst named
      trivial
    · simp only [Calls.pure_eq, ne_eq, named, not_false_eq_true, if_true]
      refine ⟨trivial, fun reply => ?_⟩
      cases reply <;> trivial

theorem getUserSession_bracketed (userId : UserId) :
    Bracketed (redis (Redis.getUserSession userId)) := by
  apply bracketed_locked
  refine ⟨trivial, fun reply => ?_⟩
  match reply with
  | none => trivial
  | some none => trivial
  | some (some _) => trivial

namespace NodeRegistry

theorem register_bracketed (selfNode : NodeMeta) (timeoutMs : Int) :
    Bracketed (register selfNode timeoutMs) :=
  .node _ fun _ => registerNode_bracketed selfNode _

theorem heartbeat_bracketed (selfNode : NodeMeta) (timeoutMs : Int) :
    Bracketed (heartbeat selfNode timeoutMs) :=
  .node _ fun _ => register_bracketed _ timeoutMs

theorem bindUser_bracketed (selfNode : NodeMeta) (userId : UserId) :
    Bracketed (bindUser selfNode userId) := by
  apply (bindUserNode_bracketed userId selfNode.nodeId selfNode.instanceId).bind
  intro bound
  cases bound with
  | false => exact .ret false
  | true => exact .node _ fun _ => .ret true

theorem unbindUser_bracketed (selfNode : NodeMeta) (userId : UserId) :
    Bracketed (unbindUser selfNode userId) :=
  .node _ fun _ => unbindUserNode_bracketed .unbindUser userId selfNode.nodeId

theorem queryNode_bracketed (nodeId : CString) : Bracketed (queryNode nodeId) := by
  refine .node _ fun cached => ?_
  cases cached with
  | some nodeMeta => exact .ret (some nodeMeta)
  | none =>
    apply (getNode_bracketed nodeId).bind
    intro found
    cases found with
    | none => exact .node _ fun _ => .ret none
    | some nodeMeta => exact .node _ fun _ => .ret (some nodeMeta)

theorem judge_bracketed (userId : UserId) (nodeId instanceId : CString) :
    Bracketed (judge userId nodeId instanceId) := by
  apply (queryNode_bracketed nodeId).bind
  intro seen
  cases sessionAlive instanceId seen with
  | true => exact .ret (some nodeId)
  | false =>
    apply (unbindUserNode_bracketed _ userId nodeId).bind
    exact fun _ => .node _ fun _ => .ret none

theorem queryUserNode_bracketed (userId : UserId) : Bracketed (queryUserNode userId) := by
  refine .node _ fun cached => ?_
  cases cached with
  | some route => exact judge_bracketed userId route.1 route.2
  | none =>
    apply (getUserSession_bracketed userId).bind
    intro session
    cases session with
    | none => exact .ret none
    | some route => exact .node _ fun _ => judge_bracketed userId route.1 route.2

theorem resolveCached_bracketed (userId : UserId) : Bracketed (resolveCached userId) := by
  refine .node _ fun cached => ?_
  cases cached with
  | none => exact .ret none
  | some route => exact .node _ fun nodeMeta => .ret _

theorem resolveUserNode_bracketed (userId : UserId) : Bracketed (resolveUserNode userId) := by
  apply (resolveCached_bracketed userId).bind
  intro cached
  cases cached with
  | some found => exact .ret (some found)
  | none =>
    apply (queryUserNode_bracketed userId).bind
    intro found
    cases found with
    | none => exact .ret none
    | some nodeId => exact (queryNode_bracketed nodeId).bind fun _ => .ret _

theorem listNodes_bracketed : Bracketed listNodes := by
  have rest : ∀ nodeIds, Bracketed (listFrom nodeIds) := by
    intro nodeIds
    induction nodeIds with
    | nil => exact .ret []
    | cons nodeId rest ih =>
      apply (queryNode_bracketed nodeId).bind
      intro found
      cases found with
      | none => exact .node _ fun _ => ih
      | some nodeMeta => exact ih.bind fun _ => .ret _
  exact getNodeIds_bracketed.bind rest

theorem cleanupSelf_bracketed (selfNode : NodeMeta) : Bracketed (cleanupSelf selfNode) := by
  have users : ∀ ids, Bracketed (unbindUsers selfNode.nodeId ids) := by
    intro ids
    induction ids with
    | nil => exact .ret ()
    | cons userId rest ih =>
      exact (unbindUserNode_bracketed .cleanupSelf userId selfNode.nodeId).bind fun _ => ih
  apply (getNodeUsers_bracketed selfNode.nodeId).bind
  intro ids
  apply (users ids).bind
  exact fun _ => (unregisterNode_bracketed selfNode.nodeId).bind fun _ => .node _ fun _ => .ret ()

end NodeRegistry

end ClusterChat
