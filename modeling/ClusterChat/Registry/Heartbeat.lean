/-
# The registration of a live node

`NodeRegistry::init` writes the hash of its node and gives it a time to live, and `heartbeatLoop`
does the same again after each sleep. Here this goes on in real time. A command is executed at
some moment, Redis reads the time in whole milliseconds, and meanwhile other threads and other
nodes go about their work.

An expiry counts from the moment of its `EXPIRE`, and the next one may come as late as two
registrations and a sleep after it. The first registration may also find the hash of an earlier
process. `HMSET` keeps its expiry, so that hash can be gone before the `EXPIRE` comes, and then
there is nothing left to give a time to.
-/

import ClusterChat.Concurrency.Machine
import ClusterChat.Registry.Requests
import Mathlib.Data.Rat.Floor
import Mathlib.Tactic.Linarith

namespace ClusterChat

/-! ### The model -/

/-- Where a node stands with its registration: in the registration that `init` makes (`first`) or
one of `heartbeatLoop`, begun at a time; asleep until a time; or at an end. -/
inductive HeartbeatStage : Type 1
  | registering (first : Bool) (sinceMs : ℚ) (rest : Calls RegistryCall Bool)
  | sleeping (untilMs : ℚ)
  | failed
  | stopped

/-- A node and Redis at a moment; `running` is `running_`. -/
structure Heartbeat : Type 1 where
  timeMs : ℚ
  store : RedisStore
  node : RegistryNode
  running : Bool
  stage : HeartbeatStage

/-- What happens: time passes, the node takes the next step of its registration or wakes up,
another of its threads makes a call, another node sends a command, `stop` is called. -/
inductive HeartbeatEvent : Type 1
  | wait (ms : ℚ)
  | proceed
  | wake
  | call (number : ℕ) {β : Type} (request : RegistryCall β)
  | command {β : Type} (command : RedisCommand β)
  | stop

namespace Heartbeat

/-- Redis and the node as a call finds them. -/
def registry (beat : Heartbeat) : RegistryState := ⟨beat.store, ⌊beat.timeMs⌋, beat.node⟩

/-- The same moment after a call. -/
def withRegistry (beat : Heartbeat) (state : RegistryState) : Heartbeat :=
  { beat with store := state.store, node := state.node }

/-- Time passes, also on the clocks of the node. -/
def wait (beat : Heartbeat) (ms : ℚ) : Heartbeat :=
  let elapsed := ⌊beat.timeMs + ms⌋ - ⌊beat.timeMs⌋
  { beat with
    timeMs := beat.timeMs + ms
    node := { beat.node with
      nowMs := beat.node.nowMs + elapsed
      systemMs := beat.node.systemMs + elapsed } }

/-- `heartbeatLoop` at its condition; `sleep_for` takes a negative interval for none. -/
def loop (intervalMs : Int) (beat : Heartbeat) : Heartbeat :=
  if beat.running then { beat with stage := .sleeping (beat.timeMs + (max intervalMs 0 : Int)) }
  else { beat with stage := .stopped }

/-- A registration goes on, or has come to its end. `init` gives up if it failed; `heartbeatLoop`
does not look. -/
def resume (intervalMs : Int) (first : Bool) (sinceMs : ℚ) (beat : Heartbeat) :
    Calls RegistryCall Bool → Heartbeat
  | .ret registered =>
    match first, registered with
    | true, false => { beat with stage := .failed }
    | true, true => loop intervalMs { beat with running := true }
    | false, _ => loop intervalMs beat
  | rest => { beat with stage := .registering first sinceMs rest }

/-- One event. -/
def step (config : NodeConfig) (beat : Heartbeat) : HeartbeatEvent → Option Heartbeat
  | .wait ms => if 0 ≤ ms then some (beat.wait ms) else none
  | .proceed =>
    match beat.stage with
    | .registering first sinceMs (.call request next) =>
      (RegistryState.exec 0 request beat.registry).map fun (answer, state) =>
        resume config.heartbeatIntervalMs first sinceMs (beat.withRegistry state) (next answer)
    | _ => none
  | .wake =>
    match beat.stage with
    | .sleeping untilMs =>
      if untilMs ≤ beat.timeMs then
        if beat.running then
          some { beat with
            stage := .registering false beat.timeMs
              (NodeRegistry.heartbeat config.selfNode config.heartbeatTimeoutMs) }
        else some { beat with stage := .stopped }
      else none
    | _ => none
  | .call number request =>
    (RegistryState.exec (number + 1) request beat.registry).map fun (_, state) =>
      beat.withRegistry state
  | .command command => some { beat with store := (beat.store.exec ⌊beat.timeMs⌋ command).2 }
  | .stop => some { beat with running := false }

/-- `init` begins, at any time and with anything in Redis. -/
def start (config : NodeConfig) (store : RedisStore) (timeMs : ℚ) : Heartbeat where
  timeMs := timeMs
  store := store
  node := .create config
  running := false
  stage := .registering true timeMs
    (NodeRegistry.register config.selfNode config.heartbeatTimeoutMs)

/-- `init` has returned true. -/
def initialized (beat : Heartbeat) : Bool :=
  match beat.stage with
  | .registering true _ _ | .failed => false
  | _ => true

end Heartbeat

/-- The registration of a node in real time. -/
def heartbeatMachine (config : NodeConfig) : Machine Heartbeat HeartbeatEvent :=
  ⟨Heartbeat.step config⟩

/-- The key `chat:node:<id>` exists at a time. -/
def RedisStore.ExistsAt (store : RedisStore) (timeMs : ℚ) (nodeId : CString) : Prop :=
  (store.liveNode ⌊timeMs⌋ nodeId).isSome

instance (store : RedisStore) (timeMs : ℚ) (nodeId : CString) :
    Decidable (store.ExistsAt timeMs nodeId) :=
  inferInstanceAs (Decidable ((store.liveNode ⌊timeMs⌋ nodeId).isSome = true))

/-- The command leaves the hash of the node alone. -/
def RedisCommand.Spares (nodeId : CString) : ⦃β : Type⦄ → RedisCommand β → Prop
  | _, .setNode other _ => other ≠ nodeId
  | _, .expireNode other _ => other ≠ nodeId
  | _, .delNode other => other ≠ nodeId
  | _, _ => True

/-- The call leaves the hash of the node alone. -/
def RegistryCall.Spares (nodeId : CString) : ⦃β : Type⦄ → RegistryCall β → Prop
  | _, .redis (.command command) => command.Spares nodeId
  | _, _ => True

/-- The stage may last up to a time: a registration is answered within less than one second, and
a sleep has its exact length. -/
def HeartbeatStage.Lasts (timeMs : ℚ) : HeartbeatStage → Prop
  | .registering _ sinceMs _ => timeMs < sinceMs + 1000
  | .sleeping untilMs => timeMs ≤ untilMs
  | _ => True

/-- The condition on an event: each stage is left in time, nobody else touches the hash of the
node, and the node is not stopped. -/
def OnTime (nodeId : CString) (beat : Heartbeat) : HeartbeatEvent → Prop
  | .wait ms => beat.stage.Lasts (beat.timeMs + ms)
  | .call _ request => request.Spares nodeId
  | .command command => command.Spares nodeId
  | .stop => False
  | _ => True

/-! ### What others ask for -/

section Others

open NodeRegistry

/-- The methods with which a node writes or deletes its own hash. -/
def RegistryMethod.OfHash : RegistryMethod → Prop
  | register | heartbeat | cleanupSelf => True
  | _ => False

variable {nodeId : CString}

theorem lookup_spares ⦃β : Type⦄ (call : RegistryCall β) (asked : call.OfLookup) :
    call.Spares nodeId := by
  cases call with
  | node call => trivial
  | redis call =>
    cases call with
    | client call => trivial
    | command command => cases command <;> first | exact asked.elim | trivial

theorem bind_spares {userId : UserId} ⦃β : Type⦄ (call : RegistryCall β)
    (asked : call.OfBind userId) : call.Spares nodeId := by
  cases call with
  | node call => trivial
  | redis call =>
    cases call with
    | client call => trivial
    | command command => cases command <;> first | exact asked.elim | trivial

theorem unbind_spares {userId : UserId} ⦃β : Type⦄ (call : RegistryCall β)
    (asked : call.OfUnbind userId) : call.Spares nodeId := by
  cases call with
  | node call => trivial
  | redis call =>
    cases call with
    | client call => trivial
    | command command => cases command <;> first | exact asked.elim | trivial

theorem register_spares {selfNode : NodeMeta} (timeoutMs : Int) (other : selfNode.nodeId ≠ nodeId) :
    (register selfNode timeoutMs).Only (RegistryCall.Spares nodeId) := by
  have commands : ∀ seconds heartbeatMs, (Redis.writeNode selfNode seconds heartbeatMs).Only
      fun _ call => RegistryCall.Spares nodeId (.redis call) := by
    intro seconds heartbeatMs
    refine ⟨other, fun reply => ?_⟩
    cases reply with
    | none => trivial
    | some _ =>
      refine ⟨other, fun reply => ?_⟩
      cases reply with
      | none => trivial
      | some _ =>
        refine ⟨trivial, fun reply => ?_⟩
        cases reply <;> trivial
  refine ⟨trivial, fun _ => locked_only (fun _ _ => trivial) ?_⟩
  by_cases unset : selfNode.heartbeatMs ≤ 0
  · rw [if_pos unset]
    exact ⟨trivial, fun seconds => commands _ _⟩
  · rw [if_neg unset]
    exact commands _ _

theorem cleanupSelf_spares {selfNode : NodeMeta} (other : selfNode.nodeId ≠ nodeId) :
    (cleanupSelf selfNode).Only (RegistryCall.Spares nodeId) := by
  apply (getNodeUsers_only (fun _ _ => trivial) trivial).bind
  intro users
  have unbinds : (unbindUsers selfNode.nodeId users).Only (RegistryCall.Spares nodeId) := by
    induction users with
    | nil => trivial
    | cons userId rest ih =>
      exact (unbindUserNode_only (fun _ _ => trivial) trivial trivial).bind fun _ => ih
  apply unbinds.bind
  intro _
  have unregisters : (redis (Redis.unregisterNode selfNode.nodeId)).Only
      (RegistryCall.Spares nodeId) := by
    refine locked_only (fun _ _ => trivial) ⟨other, fun reply => ?_⟩
    cases reply with
    | none => trivial
    | some _ =>
      refine ⟨trivial, fun reply => ?_⟩
      cases reply with
      | none => trivial
      | some _ =>
        refine ⟨trivial, fun reply => ?_⟩
        cases reply <;> trivial
  exact unregisters.bind fun _ => ⟨trivial, fun _ => trivial⟩

/-- The hash of a node is left alone by the methods of other nodes, and by the node's own but for
those that register it and clean up after it. -/
theorem method_spares (node : RegistryNode) (method : RegistryMethod)
    (others : method.OfHash → node.selfNode.nodeId ≠ nodeId) :
    (method.program node).Only (RegistryCall.Spares nodeId) := by
  cases method with
  | bindUser userId => exact ((bindUser_only _ userId).mono bind_spares).bind fun _ => trivial
  | unbindUser userId => exact ((unbindUser_only _ userId).mono unbind_spares).bind fun _ => trivial
  | queryUserNode userId =>
    exact ((queryUserNode_only userId).mono lookup_spares).bind fun _ => trivial
  | resolveUserNode userId =>
    exact ((resolveUserNode_only userId).mono lookup_spares).bind fun _ => trivial
  | queryNode nodeId => exact ((queryNode_only nodeId).mono lookup_spares).bind fun _ => trivial
  | listNodes => exact (listNodes_only.mono lookup_spares).bind fun _ => trivial
  | register => exact (register_spares _ (others trivial)).bind fun _ => trivial
  | heartbeat =>
    have beats : (heartbeat node.selfNode node.heartbeatTimeoutMs).Only
        (RegistryCall.Spares nodeId) :=
      ⟨trivial, fun heartbeatMs => register_spares _ (others trivial)⟩
    exact beats.bind fun _ => trivial
  | cleanupSelf => exact cleanupSelf_spares (others trivial)

end Others

/-! ### The hash of a node over time -/

namespace RedisStore

variable {store : RedisStore} {nodeId : CString} {clockMs laterMs : Int}

/-- The hash is there at every time before the end. -/
def Outlasts (store : RedisStore) (nodeId : CString) (endMs : ℚ) : Prop :=
  ∀ timeMs < endMs, store.ExistsAt timeMs nodeId

theorem Outlasts.mono {endMs soonerMs : ℚ} (outlasts : store.Outlasts nodeId endMs)
    (sooner : soonerMs ≤ endMs) : store.Outlasts nodeId soonerMs :=
  fun timeMs before => outlasts timeMs (before.trans_le sooner)

/-- The hash as it stands depends on what is stored under its key alone. -/
theorem Outlasts.same {after : RedisStore} {endMs : ℚ} (outlasts : store.Outlasts nodeId endMs)
    (same : after.node nodeId = store.node nodeId) : after.Outlasts nodeId endMs := by
  intro timeMs before
  have there := outlasts timeMs before
  rw [ExistsAt, liveNode] at there ⊢
  rwa [same]

/-- An expired hash does not come back. -/
theorem liveNode_gone (gone : store.liveNode clockMs nodeId = none) (later : clockMs ≤ laterMs) :
    store.liveNode laterMs nodeId = none := by
  rw [liveNode, Option.filter_eq_none_iff] at gone ⊢
  intro record stored
  have expired := gone record stored
  cases expiry : record.expireAtMs with
  | none =>
    rw [expiry] at expired
    exact absurd rfl expired
  | some expireAtMs =>
    rw [expiry] at expired
    simp only [decide_eq_true_eq] at expired ⊢
    exact fun unexpired => expired (later.trans unexpired)

/-- `HMSET` makes a hash that does not expire, or leaves a live one its expiry. -/
theorem liveNode_setNode_isSome (fields : List (NodeField × CString)) :
    ((store.setNode clockMs nodeId fields).liveNode laterMs nodeId).isSome ↔
      store.liveNode clockMs nodeId = none ∨ (store.liveNode laterMs nodeId).isSome := by
  cases live : store.liveNode clockMs nodeId with
  | none =>
    rw [setNode, live, liveNode]
    dsimp only
    rw [Function.update_self]
    exact iff_of_true rfl (.inl rfl)
  | some old =>
    have stored : store.node nodeId = some old := (Option.filter_eq_some_iff.mp live).1
    rw [setNode, live, liveNode, liveNode, stored]
    dsimp only
    rw [Function.update_self, Option.isSome_filter, Option.isSome_filter]
    exact (or_iff_right (Option.some_ne_none old)).symm

/-- `EXPIRE` on a live hash decides how long it is there. -/
theorem liveNode_expireNode_isSome {seconds : Int} (live : (store.liveNode clockMs nodeId).isSome)
    (positive : 0 < seconds) :
    ((store.expireNode clockMs nodeId seconds).liveNode laterMs nodeId).isSome ↔
      laterMs ≤ clockMs + 1000 * seconds := by
  obtain ⟨record, found⟩ := Option.isSome_iff_exists.mp live
  rw [expireNode, found, liveNode]
  dsimp only
  rw [if_neg (Int.not_le.mpr positive), Function.update_self, Option.isSome_filter]
  exact decide_eq_true_iff

/-- `EXPIRE` without a time to live deletes the hash. -/
theorem liveNode_expireNode_none {seconds : Int} (past : seconds ≤ 0)
    (later : clockMs ≤ laterMs) :
    (store.expireNode clockMs nodeId seconds).liveNode laterMs nodeId = none := by
  rw [expireNode]
  cases live : store.liveNode clockMs nodeId with
  | none => exact liveNode_gone live later
  | some record =>
    rw [liveNode]
    dsimp only
    rw [if_pos past, Function.update_self]
    rfl

/-- `HMSET` on a hash that is gone, or that is there up to some end. -/
theorem Outlasts.setNode {endMs : ℚ} (fields : List (NodeField × CString))
    (before : store.liveNode clockMs nodeId = none ∨ store.Outlasts nodeId endMs) :
    (store.setNode clockMs nodeId fields).Outlasts nodeId endMs := by
  intro timeMs sooner
  exact (liveNode_setNode_isSome fields).mpr (before.imp_right fun outlasts =>
    outlasts timeMs sooner)

/-- `EXPIRE` at a time counts from then on. -/
theorem ExistsAt.expireNode {timeMs sinceMs : ℚ} {seconds : Int}
    (there : store.ExistsAt timeMs nodeId) (since : sinceMs ≤ timeMs) (positive : 0 < seconds) :
    (store.expireNode ⌊timeMs⌋ nodeId seconds).Outlasts nodeId (sinceMs + 1000 * seconds) := by
  intro laterMs sooner
  rw [ExistsAt, liveNode_expireNode_isSome there positive]
  have reach : laterMs ≤ timeMs + (1000 * seconds : Int) := by
    push_cast
    linarith
  calc ⌊laterMs⌋ ≤ ⌊timeMs + (1000 * seconds : Int)⌋ := Int.floor_mono reach
    _ = ⌊timeMs⌋ + 1000 * seconds := Int.floor_add_intCast _ _

/-- A command that spares the hash changes nothing under its key. -/
theorem node_exec {β : Type} (store : RedisStore) (clockMs : Int) {command : RedisCommand β}
    (spares : command.Spares nodeId) :
    (store.exec clockMs command).2.node nodeId = store.node nodeId := by
  cases command with
  | setNode other fields => exact Function.update_of_ne (Ne.symm spares) _ _
  | delNode other => exact Function.update_of_ne (Ne.symm spares) _ _
  | expireNode other seconds =>
    rw [exec, RedisStore.expireNode]
    cases store.liveNode clockMs other with
    | none => rfl
    | some record => exact Function.update_of_ne (Ne.symm spares) _ _
  | setSession userId value =>
    rw [exec]
    cases store.session userId <;> rfl
  | _ => rfl

end RedisStore

/-! ### What a registration asks for -/

/-- How far a registration has come with the hash of its node. -/
inductive RegistrationMark
  | fresh
  | written
  | renewed
  | unanswered

namespace RegistrationMark

/-- The mark after a call and its answer. -/
def after (mark : RegistrationMark) : {β : Type} → RegistryCall β → β → RegistrationMark
  | _, .redis (.command (.setNode _ _)), some _ => written
  | _, .redis (.command (.setNode _ _)), none => unanswered
  | _, .redis (.command (.expireNode _ _)), some _ => renewed
  | _, .redis (.command (.expireNode _ _)), none => unanswered
  | _, _, _ => mark

def advance (mark : RegistrationMark) (event : Event RegistryCall) : RegistrationMark :=
  mark.after event.request event.answer

/-- The hash is written once, and then given its time to live. -/
def Permits (nodeId : CString) (seconds : Int) (mark : RegistrationMark) :
    ⦃β : Type⦄ → RegistryCall β → Prop
  | _, .redis (.command (.setNode other _)) => mark = fresh ∧ other = nodeId
  | _, .redis (.command (.expireNode other ttl)) => mark = written ∧ other = nodeId ∧ ttl = seconds
  | _, .redis (.command (.delNode _)) => False
  | _, _ => True

end RegistrationMark

/-- A registration from a mark on: where it ends, the hash is renewed, or a command got no
answer. -/
def Calls.Registers (nodeId : CString) (seconds : Int) (rest : Calls RegistryCall Bool)
    (mark : RegistrationMark) : Prop :=
  rest.Follows RegistrationMark.advance (RegistrationMark.Permits nodeId seconds)
    (fun mark _ => mark = .renewed ∨ mark = .unanswered) mark

section Registers

open NodeRegistry

/-- The time to live that a registration gives. -/
def timeToLive (timeoutMs : Int) : Int := timeoutMs.tdiv 1000 + 2

theorem register_registers (selfNode : NodeMeta) (timeoutMs : Int) :
    (register selfNode timeoutMs).Registers selfNode.nodeId (timeToLive timeoutMs) .fresh := by
  have commands : ∀ heartbeatMs,
      (redis (do
        let registered ← Redis.writeNode selfNode (timeToLive timeoutMs) heartbeatMs
        Calls.perform (.client .unlock)
        return registered)).Registers selfNode.nodeId (timeToLive timeoutMs) .fresh := by
    intro heartbeatMs
    refine ⟨⟨rfl, rfl⟩, fun reply => ?_⟩
    cases reply with
    | none => exact ⟨trivial, fun _ => .inr rfl⟩
    | some _ =>
      refine ⟨⟨rfl, rfl, rfl⟩, fun reply => ?_⟩
      cases reply with
      | none => exact ⟨trivial, fun _ => .inr rfl⟩
      | some _ =>
        refine ⟨trivial, fun reply => ?_⟩
        cases reply <;> exact ⟨trivial, fun _ => .inl rfl⟩
  refine ⟨trivial, fun _ => ⟨trivial, fun _ => ?_⟩⟩
  by_cases unset : selfNode.heartbeatMs ≤ 0
  · rw [if_pos unset]
    exact ⟨trivial, fun seconds => commands _⟩
  · rw [if_neg unset]
    exact commands _

theorem heartbeat_registers (selfNode : NodeMeta) (timeoutMs : Int) :
    (heartbeat selfNode timeoutMs).Registers selfNode.nodeId (timeToLive timeoutMs) .fresh :=
  ⟨trivial, fun heartbeatMs =>
    register_registers { selfNode with heartbeatMs := heartbeatMs } timeoutMs⟩

end Registers

/-! ### The invariant -/

section Invariant

/-- The hash at a mark of a registration that began at a time. Only `init` may find none. -/
def RedisStore.HoldsAt (store : RedisStore) (nodeId : CString) (seconds : Int) (first : Bool)
    (sinceMs : ℚ) : RegistrationMark → Prop
  | .fresh =>
    (first = true ∧ store.liveNode ⌊sinceMs⌋ nodeId = none) ∨ store.Outlasts nodeId (sinceMs + 1000)
  | .written => store.Outlasts nodeId (sinceMs + 1000)
  | .renewed => store.Outlasts nodeId (sinceMs + 1000 * seconds)
  | .unanswered => False

variable {nodeId : CString} {seconds : Int} {first : Bool} {sinceMs timeMs : ℚ}
  {mark : RegistrationMark} {store : RedisStore}

theorem RedisStore.HoldsAt.same {after : RedisStore}
    (holds : store.HoldsAt nodeId seconds first sinceMs mark)
    (same : after.node nodeId = store.node nodeId) :
    after.HoldsAt nodeId seconds first sinceMs mark := by
  cases mark with
  | fresh =>
    refine holds.imp (fun none => ⟨none.1, ?_⟩) fun outlasts => outlasts.same same
    rw [liveNode, same]
    exact none.2
  | written => exact Outlasts.same holds same
  | renewed => exact Outlasts.same holds same
  | unanswered => exact holds

/-- A call that spares the hash leaves it as it is. -/
theorem node_of_spares {β : Type} {request : RegistryCall β} {number : ℕ} {answer : β}
    {state after : RegistryState} (spares : request.Spares nodeId)
    (ran : RegistryState.exec number request state = some (answer, after)) :
    after.store.node nodeId = state.store.node nodeId := by
  cases request with
  | node call =>
    cases ran
    rfl
  | redis call =>
    cases call with
    | command command =>
      cases ran
      exact RedisStore.node_exec _ _ spares
    | client call =>
      cases call with
      | lock =>
        rw [RegistryState.exec] at ran
        split at ran
        · cases ran
          rfl
        · cases ran
      | unlock =>
        cases ran
        rfl
      | time =>
        cases ran
        rfl

/-- **One call of a registration** takes the hash from mark to mark. -/
theorem RedisStore.HoldsAt.exec {β : Type} {request : RegistryCall β} {answer : β}
    {node : RegistryNode} {after : RegistryState}
    (holds : store.HoldsAt nodeId seconds first sinceMs mark)
    (permits : mark.Permits nodeId seconds request) (since : sinceMs ≤ timeMs)
    (soon : timeMs < sinceMs + 1000) (positive : 0 < seconds)
    (ran : RegistryState.exec 0 request ⟨store, ⌊timeMs⌋, node⟩ = some (answer, after)) :
    after.store.HoldsAt nodeId seconds first sinceMs (mark.after request answer) := by
  cases request with
  | node call =>
    apply holds.same (node_of_spares ?_ ran)
    exact trivial
  | redis call =>
    cases call with
    | client call =>
      apply holds.same (node_of_spares ?_ ran)
      exact trivial
    | command command =>
      cases command with
      | setNode other fields =>
        -- HSET leaves the time to live as it is, and makes the key if it is gone
        obtain ⟨rfl, rfl⟩ := permits
        cases ran
        refine Outlasts.setNode fields (holds.imp_left fun none => ?_)
        exact liveNode_gone none.2 (Int.floor_mono since)
      | expireNode other ttl =>
        -- EXPIRE comes while the key is there, which lasts its full time from now on
        obtain ⟨rfl, rfl, rfl⟩ := permits
        cases ran
        exact ExistsAt.expireNode (holds timeMs soon) since positive
      | delNode other => exact permits.elim
      | _ =>
        apply holds.same (node_of_spares ?_ ran)
        exact trivial

namespace Heartbeat

variable {config : NodeConfig} {beat next : Heartbeat} {event : HeartbeatEvent}

/-- **The invariant.** At each stage the hash is there long enough for the next one. -/
def Lasting (config : NodeConfig) (beat : Heartbeat) : Prop :=
  match beat.stage with
  | .registering first sinceMs rest =>
    (sinceMs ≤ beat.timeMs ∧ beat.timeMs < sinceMs + 1000) ∧
      (first = false → beat.running = true) ∧
      ∃ mark, rest.Registers config.selfNode.nodeId (timeToLive config.heartbeatTimeoutMs) mark ∧
        beat.store.HoldsAt config.selfNode.nodeId (timeToLive config.heartbeatTimeoutMs) first
          sinceMs mark
  | .sleeping untilMs =>
    beat.running = true ∧ beat.timeMs ≤ untilMs ∧
      beat.store.Outlasts config.selfNode.nodeId (untilMs + 1000)
  | .failed => True
  | .stopped => False

/-- The time to live covers a sleep and the two registrations around it. -/
def Covers (config : NodeConfig) : Prop :=
  max config.heartbeatIntervalMs 0 + 2000 ≤ 1000 * timeToLive config.heartbeatTimeoutMs

instance (config : NodeConfig) : Decidable (Covers config) :=
  inferInstanceAs (Decidable (max config.heartbeatIntervalMs 0 + 2000 ≤
    1000 * timeToLive config.heartbeatTimeoutMs))

theorem Covers.ms (covers : Covers config) :
    ((max config.heartbeatIntervalMs 0 : Int) : ℚ) + 2000 ≤
      1000 * timeToLive config.heartbeatTimeoutMs := by
  exact_mod_cast covers

theorem Covers.positive (covers : Covers config) : 0 < timeToLive config.heartbeatTimeoutMs := by
  unfold Covers at covers
  omega

/-- What others do leaves the invariant as it is. -/
theorem Lasting.same {after : Heartbeat} (lasting : beat.Lasting config)
    (stage : after.stage = beat.stage) (time : after.timeMs = beat.timeMs)
    (running : after.running = beat.running)
    (same : after.store.node config.selfNode.nodeId = beat.store.node config.selfNode.nodeId) :
    after.Lasting config := by
  unfold Lasting at lasting ⊢
  rw [stage]
  cases at_ : beat.stage with
  | registering first sinceMs rest =>
    rw [at_] at lasting
    obtain ⟨times, runs, mark, registers, holds⟩ := lasting
    simp only [time, running]
    exact ⟨times, runs, mark, registers, holds.same same⟩
  | sleeping untilMs =>
    rw [at_] at lasting
    simp only [time, running]
    exact ⟨lasting.1, lasting.2.1, lasting.2.2.same same⟩
  | failed => trivial
  | stopped =>
    rw [at_] at lasting
    exact lasting

/-- A registration that goes on keeps the invariant, and so does one that comes to its end. -/
theorem lasting_resume {first : Bool} {sinceMs : ℚ} {rest : Calls RegistryCall Bool}
    {mark : RegistrationMark} (covers : Covers config) (since : sinceMs ≤ beat.timeMs)
    (soon : beat.timeMs < sinceMs + 1000) (runs : first = false → beat.running = true)
    (registers : rest.Registers config.selfNode.nodeId (timeToLive config.heartbeatTimeoutMs) mark)
    (holds : beat.store.HoldsAt config.selfNode.nodeId (timeToLive config.heartbeatTimeoutMs) first
      sinceMs mark) :
    (resume config.heartbeatIntervalMs first sinceMs beat rest).Lasting config := by
  cases rest with
  | call request next => exact ⟨⟨since, soon⟩, runs, mark, registers, holds⟩
  | ret registered =>
    -- the sleep that follows, and the registration after it, end before the hash does
    have outlasts : beat.store.Outlasts config.selfNode.nodeId
        (beat.timeMs + (max config.heartbeatIntervalMs 0 : Int) + 1000) := by
      cases registers with
      | inl renewed =>
        subst renewed
        have enough := covers.ms
        exact RedisStore.Outlasts.mono holds (by linarith)
      | inr unanswered =>
        subst unanswered
        exact holds.elim
    have sleep : (0 : ℚ) ≤ (max config.heartbeatIntervalMs 0 : Int) :=
      Int.cast_nonneg (le_max_right _ _)
    have later : beat.timeMs ≤ beat.timeMs + (max config.heartbeatIntervalMs 0 : Int) := by
      linarith
    cases first with
    | true =>
      cases registered with
      | false => trivial
      | true => exact ⟨rfl, later, outlasts⟩
    | false =>
      rw [resume, loop, if_pos (runs rfl)]
      exact ⟨runs rfl, later, outlasts⟩

/-- **Every event** that is on time keeps the invariant. -/
theorem Lasting.step (covers : Covers config) (lasting : beat.Lasting config)
    (onTime : OnTime config.selfNode.nodeId beat event)
    (moved : beat.step config event = some next) : next.Lasting config := by
  cases event with
  | wait ms =>
    by_cases forward : 0 ≤ ms
    · rw [Heartbeat.step, if_pos forward] at moved
      cases moved
      unfold Lasting wait at *
      unfold OnTime at onTime
      cases at_ : beat.stage with
      | registering first sinceMs rest =>
        rw [at_] at lasting onTime
        -- time passes within a registration, as far as the steps are on time
        obtain ⟨⟨since, -⟩, rest⟩ := lasting
        exact ⟨⟨by linarith, onTime⟩, rest⟩
      | sleeping untilMs =>
        rw [at_] at lasting onTime
        exact ⟨lasting.1, onTime, lasting.2.2⟩
      | failed => trivial
      | stopped =>
        rw [at_] at lasting
        exact lasting
    · rw [Heartbeat.step, if_neg forward] at moved
      cases moved
  | proceed =>
    rw [Heartbeat.step] at moved
    split at moved
    · rename_i first sinceMs β request cont at_
      unfold Lasting at lasting
      rw [at_] at lasting
      obtain ⟨⟨since, soon⟩, runs, mark, registers, holds⟩ := lasting
      obtain ⟨⟨answer, state⟩, ran, rfl⟩ := Option.map_eq_some_iff.mp moved
      -- the registration goes on with the answer, or goes to sleep
      exact lasting_resume covers since soon runs (registers.2 answer)
        (holds.exec registers.1 since soon covers.positive ran)
    · cases moved
  | wake =>
    rw [Heartbeat.step] at moved
    split at moved
    · rename_i untilMs at_
      unfold Lasting at lasting
      rw [at_] at lasting
      obtain ⟨runs, early, outlasts⟩ := lasting
      split at moved
      · rename_i late
        cases moved
        -- it wakes at its time, so the key still has the rest of its life
        have now : beat.timeMs = untilMs := le_antisymm early late
        rw [← now] at outlasts
        refine ⟨⟨le_rfl, by linarith⟩, fun _ => runs, .fresh, ?_, .inr outlasts⟩
        exact heartbeat_registers _ _
      · cases moved
    · cases moved
  | call number request =>
    obtain ⟨⟨answer, state⟩, ran, rfl⟩ := Option.map_eq_some_iff.mp moved
    exact lasting.same rfl rfl rfl (node_of_spares onTime ran)
  | command command =>
    cases moved
    exact lasting.same rfl rfl rfl (RedisStore.node_exec _ _ onTime)
  | stop => exact onTime.elim

/-- Where the invariant holds and `init` has returned true, the hash is there. -/
theorem Lasting.existsAt (covers : Covers config) (lasting : beat.Lasting config)
    (initialized : beat.initialized = true) :
    beat.store.ExistsAt beat.timeMs config.selfNode.nodeId := by
  unfold Lasting at lasting
  unfold Heartbeat.initialized at initialized
  cases at_ : beat.stage with
  | registering first sinceMs rest =>
    rw [at_] at lasting initialized
    obtain ⟨⟨-, soon⟩, -, mark, -, holds⟩ := lasting
    cases first with
    | true => cases initialized
    | false =>
      cases mark with
      | fresh =>
        cases holds with
        | inl none => cases none.1
        | inr outlasts => exact outlasts _ soon
      | written => exact holds _ soon
      | renewed =>
        have enough := covers.ms
        have sleep : (0 : ℚ) ≤ (max config.heartbeatIntervalMs 0 : Int) :=
          Int.cast_nonneg (le_max_right _ _)
        exact holds _ (by linarith)
      | unanswered => exact holds.elim
  | sleeping untilMs =>
    rw [at_] at lasting
    exact lasting.2.2 _ (by linarith [lasting.2.1])
  | failed =>
    rw [at_] at initialized
    cases initialized
  | stopped =>
    rw [at_] at lasting
    exact lasting.elim

/-- Redis holds no hash of an earlier process that is there when `init` begins and gone within a
second. -/
def Clear (config : NodeConfig) (store : RedisStore) (timeMs : ℚ) : Prop :=
  store.liveNode ⌊timeMs⌋ config.selfNode.nodeId = none ∨
    store.Outlasts config.selfNode.nodeId (timeMs + 1000)

theorem lasting_start {store : RedisStore} {timeMs : ℚ} (clear : Clear config store timeMs) :
    (start config store timeMs).Lasting config := by
  have soon : timeMs < timeMs + 1000 := by linarith
  refine ⟨⟨le_rfl, soon⟩, Bool.noConfusion, .fresh, ?_, ?_⟩
  · exact register_registers _ _
  · exact clear.imp_left fun none => ⟨rfl, none⟩

/-! ### Runs in which the hash goes -/

/-- A registration as it begins. -/
structure Begins (config : NodeConfig) (first : Bool) (beat : Heartbeat) : Prop where
  stage : ∃ heartbeatMs, beat.stage = .registering first beat.timeMs
    (NodeRegistry.register { config.selfNode with heartbeatMs := heartbeatMs }
      config.heartbeatTimeoutMs)
  free : beat.node.commandHolder = none
  runs : first = false → beat.running = true

/-- The sleep after a registration. -/
structure Sleeps (untilMs : ℚ) (beat : Heartbeat) : Prop where
  stage : beat.stage = .sleeping untilMs
  early : beat.timeMs ≤ untilMs
  free : beat.node.commandHolder = none
  runs : beat.running = true

/-- A registration after its `EXPIRE`. -/
def adding (nodeId : CString) : Calls RedisCall Bool := do
  let some () ← Redis.send (.addNode nodeId) | return false
  return true

/-- A registration after its `HMSET`. -/
def expiring (nodeId : CString) (seconds : Int) : Calls RedisCall Bool := do
  let some () ← Redis.send (.expireNode nodeId seconds) | return false
  adding nodeId

/-- What is left of a method of the Redis client. -/
def unlocking (body : Calls RedisCall Bool) : Calls RegistryCall Bool :=
  NodeRegistry.redis do
    let registered ← body
    Calls.perform (.client .unlock)
    return registered

/-- The states that a run on time comes to. -/
def Reached (config : NodeConfig) (initial beat : Heartbeat) : Prop :=
  (heartbeatMachine config).Reach (OnTime config.selfNode.nodeId) initial beat

section Reached

variable {initial : Heartbeat}

theorem Reached.proceed (reached : Reached config initial beat)
    (moved : beat.step config .proceed = some next) : Reached config initial next :=
  have admitted : OnTime config.selfNode.nodeId beat .proceed := trivial
  Machine.Reach.step reached admitted moved

theorem Reached.wait {ms : ℚ} (reached : Reached config initial beat) (forward : 0 ≤ ms)
    (lasts : beat.stage.Lasts (beat.timeMs + ms)) : Reached config initial (beat.wait ms) :=
  have admitted : OnTime config.selfNode.nodeId beat (.wait ms) := lasts
  Machine.Reach.step reached admitted (if_pos forward)

/-- A registration up to its `HMSET`. -/
theorem Reached.written {first : Bool} (reached : Reached config initial beat)
    (begins : Begins config first beat) :
    ∃ fields node, Reached config initial
      ⟨beat.timeMs, beat.store.setNode ⌊beat.timeMs⌋ config.selfNode.nodeId fields, node,
        beat.running, .registering first beat.timeMs
          (unlocking
            (expiring config.selfNode.nodeId (timeToLive config.heartbeatTimeoutMs)))⟩ := by
  obtain ⟨⟨heartbeatMs, stage⟩, free, -⟩ := begins
  obtain ⟨timeMs, store, ⟨self, timeoutMs, ttlMs, routes, metas, nowMs, systemMs, holder⟩, running,
    at_⟩ := beat
  dsimp only at stage free
  subst stage free
  by_cases unset : heartbeatMs ≤ 0
  · rw [NodeRegistry.register, Redis.registerNode, if_pos unset] at reached
    exact ⟨_, _, (((reached.proceed rfl).proceed rfl).proceed rfl).proceed rfl⟩
  · rw [NodeRegistry.register, Redis.registerNode, if_neg unset] at reached
    exact ⟨_, _, ((reached.proceed rfl).proceed rfl).proceed rfl⟩

/-- Its `EXPIRE`. -/
theorem Reached.renewed {timeMs sinceMs : ℚ} {store : RedisStore} {node : RegistryNode}
    {running first : Bool} {nodeId : CString} {seconds : Int}
    (reached : Reached config initial ⟨timeMs, store, node, running,
      .registering first sinceMs (unlocking (expiring nodeId seconds))⟩) :
    Reached config initial ⟨timeMs, store.expireNode ⌊timeMs⌋ nodeId seconds, node, running,
      .registering first sinceMs (unlocking (adding nodeId))⟩ :=
  reached.proceed rfl

/-- Its end, and the sleep after it. -/
theorem Reached.asleep {timeMs sinceMs : ℚ} {store : RedisStore} {node : RegistryNode}
    {running first : Bool} {nodeId : CString}
    (reached : Reached config initial ⟨timeMs, store, node, running,
      .registering first sinceMs (unlocking (adding nodeId))⟩)
    (runs : first = false → running = true) :
    Reached config initial ⟨timeMs, { store with nodes := setAdd nodeId store.nodes },
      { node with commandHolder := none }, true,
      .sleeping (timeMs + (max config.heartbeatIntervalMs 0 : Int))⟩ := by
  cases first with
  | true => exact (reached.proceed rfl).proceed rfl
  | false =>
    have going := runs rfl
    subst going
    exact (reached.proceed rfl).proceed rfl

/-- A whole registration, answered some time after its `EXPIRE`. -/
theorem Reached.round {first : Bool} {delayMs : ℚ} (reached : Reached config initial beat)
    (begins : Begins config first beat) (forward : 0 ≤ delayMs) (soon : delayMs < 1000) :
    ∃ after, Reached config initial after ∧
      Sleeps (after.timeMs + (max config.heartbeatIntervalMs 0 : Int)) after ∧
      after.timeMs = beat.timeMs + delayMs ∧
      ∀ laterMs, ⌊beat.timeMs⌋ ≤ laterMs →
        ((after.store.liveNode laterMs config.selfNode.nodeId).isSome ↔
          0 < timeToLive config.heartbeatTimeoutMs ∧
            laterMs ≤ ⌊beat.timeMs⌋ + 1000 * timeToLive config.heartbeatTimeoutMs) := by
  obtain ⟨fields, node, written⟩ := reached.written begins
  have lasts : beat.timeMs + delayMs < beat.timeMs + 1000 := by linarith
  have later := (written.renewed.wait forward lasts).asleep begins.runs
  have sleep : (0 : ℚ) ≤ (max config.heartbeatIntervalMs 0 : Int) :=
    Int.cast_nonneg (le_max_right _ _)
  refine ⟨_, later, ⟨rfl, by linarith, rfl, rfl⟩, rfl, fun laterMs notBefore => ?_⟩
  have live : ((beat.store.setNode ⌊beat.timeMs⌋ config.selfNode.nodeId fields).liveNode
      ⌊beat.timeMs⌋ config.selfNode.nodeId).isSome := by
    rw [RedisStore.liveNode_setNode_isSome]
    cases beat.store.liveNode ⌊beat.timeMs⌋ config.selfNode.nodeId with
    | none => exact .inl rfl
    | some record => exact .inr rfl
  by_cases positive : 0 < timeToLive config.heartbeatTimeoutMs
  · rw [and_iff_right positive]
    exact RedisStore.liveNode_expireNode_isSome live positive
  · have gone : ((beat.store.setNode ⌊beat.timeMs⌋ config.selfNode.nodeId fields).expireNode
        ⌊beat.timeMs⌋ config.selfNode.nodeId (timeToLive config.heartbeatTimeoutMs)).liveNode
        laterMs config.selfNode.nodeId = none :=
      RedisStore.liveNode_expireNode_none (Int.not_lt.mp positive) notBefore
    apply iff_of_false
    · exact Option.not_isSome_iff_eq_none.mpr gone
    · exact fun both => positive both.1

/-- A whole sleep, and the beginning of the next registration. -/
theorem Reached.awake {untilMs : ℚ} (reached : Reached config initial beat)
    (sleeps : Sleeps untilMs beat) :
    ∃ next, Reached config initial next ∧ Begins config false next ∧ next.timeMs = untilMs ∧
      next.store = beat.store := by
  obtain ⟨stage, early, free, runs⟩ := sleeps
  obtain ⟨timeMs, store, node, running, at_⟩ := beat
  dsimp only at stage early free runs
  subst stage runs
  have now : timeMs + (untilMs - timeMs) = untilMs := by ring
  have waited : Reached config initial ⟨untilMs, store,
      { node with
        nowMs := node.nowMs + (⌊untilMs⌋ - ⌊timeMs⌋)
        systemMs := node.systemMs + (⌊untilMs⌋ - ⌊timeMs⌋) }, true, .sleeping untilMs⟩ := by
    have lasts : timeMs + (untilMs - timeMs) ≤ untilMs := now.le
    have forward : 0 ≤ untilMs - timeMs := by linarith
    have after := reached.wait forward lasts
    rw [Heartbeat.wait] at after
    dsimp only at after
    rwa [now] at after
  have awake : Reached config initial ⟨untilMs, store, _, true,
      .registering false untilMs
        (NodeRegistry.heartbeat config.selfNode config.heartbeatTimeoutMs)⟩ :=
    have admitted : OnTime config.selfNode.nodeId _ .wake := trivial
    Machine.Reach.step waited admitted (if_pos le_rfl)
  exact ⟨_, awake.proceed rfl, ⟨⟨_, rfl⟩, free, fun _ => rfl⟩, rfl, rfl⟩

end Reached

/-- A time to live that does not cover what it has to: the hash is deleted by the first `EXPIRE`,
or it is gone before the second one after a full sleep. -/
theorem uncovered_lapses (store : RedisStore) (timeMs : ℚ) (uncovered : ¬Covers config) :
    ∃ beat, Reached config (start config store timeMs) beat ∧ beat.initialized = true ∧
      ¬beat.store.ExistsAt beat.timeMs config.selfNode.nodeId := by
  have begins : Begins config true (start config store timeMs) :=
    ⟨⟨config.selfNode.heartbeatMs, rfl⟩, rfl, Bool.noConfusion⟩
  -- `init` is answered half a millisecond past a whole one
  have low := Int.floor_le timeMs
  have high := Int.lt_floor_add_one timeMs
  have forward : 0 ≤ (⌊timeMs⌋ : ℚ) + 3 / 2 - timeMs := by linarith
  have soon : (⌊timeMs⌋ : ℚ) + 3 / 2 - timeMs < 1000 := by linarith
  obtain ⟨first, reached, sleeps, time, there⟩ := Reached.round .refl begins forward soon
  have moment : first.timeMs = ⌊timeMs⌋ + 3 / 2 := by
    rw [time]
    exact add_sub_cancel _ _
  by_cases positive : 0 < timeToLive config.heartbeatTimeoutMs
  · -- the next registration is answered as late as it may be, and the one after it is as late
    obtain ⟨second, reached, begins, time, -⟩ := reached.awake sleeps
    have late : (0 : ℚ) ≤ 3999 / 4 := by norm_num
    have inTime : (3999 / 4 : ℚ) < 1000 := by norm_num
    obtain ⟨third, reached, sleeps, later, there⟩ := reached.round begins late inTime
    obtain ⟨last, reached, ⟨⟨heartbeatMs, stage⟩, -, -⟩, latest, same⟩ := reached.awake sleeps
    have lasts : last.stage.Lasts (last.timeMs + 3999 / 4) := by
      rw [stage]
      exact add_lt_add_right inTime _
    refine ⟨last.wait (3999 / 4), reached.wait late lasts, ?_, ?_⟩
    · rw [initialized, Heartbeat.wait]
      dsimp only
      rw [stage]
    · have begun : ⌊second.timeMs⌋ = ⌊timeMs⌋ + 1 + max config.heartbeatIntervalMs 0 := by
        rw [Int.floor_eq_iff, time, moment]
        push_cast
        constructor <;> linarith
      have ended : ⌊last.timeMs + 3999 / 4⌋ =
          ⌊timeMs⌋ + 2 * max config.heartbeatIntervalMs 0 + 2001 := by
        rw [Int.floor_eq_iff, latest, later, time, moment]
        push_cast
        constructor <;> linarith
      have after : ¬(last.store.liveNode ⌊last.timeMs + 3999 / 4⌋
          config.selfNode.nodeId).isSome := by
        unfold Covers at uncovered
        rw [same, there _ (by omega)]
        omega
      exact after
  · refine ⟨first, reached, ?_, ?_⟩
    · rw [initialized, sleeps.stage]
    · rw [RedisStore.ExistsAt, there]
      · exact fun both => positive both.1
      · exact Int.floor_mono (time ▸ le_add_of_nonneg_right forward)

/-- A hash that is gone between the first `HMSET`, which keeps its expiry, and the `EXPIRE`. -/
theorem unclear_lapses {store : RedisStore} {timeMs : ℚ} (unclear : ¬Clear config store timeMs) :
    ∃ beat, Reached config (start config store timeMs) beat ∧ beat.initialized = true ∧
      ¬beat.store.ExistsAt beat.timeMs config.selfNode.nodeId := by
  have begins : Begins config true (start config store timeMs) :=
    ⟨⟨config.selfNode.heartbeatMs, rfl⟩, rfl, Bool.noConfusion⟩
  rw [Clear, not_or] at unclear
  obtain ⟨there, outlasts⟩ := unclear
  simp only [RedisStore.Outlasts, not_forall] at outlasts
  obtain ⟨laterMs, soon, gone⟩ := outlasts
  have expired : store.liveNode ⌊laterMs⌋ config.selfNode.nodeId = none :=
    Option.not_isSome_iff_eq_none.mp gone
  have forward : 0 ≤ laterMs - timeMs := by
    by_contra back
    exact there (RedisStore.liveNode_gone expired (Int.floor_mono (by linarith)))
  obtain ⟨fields, node, written⟩ := Reached.written .refl begins
  have now : timeMs + (laterMs - timeMs) = laterMs := by ring
  have waited := written.wait forward (now.trans_lt soon)
  rw [Heartbeat.wait] at waited
  dsimp only [start] at waited
  rw [now] at waited
  have done := waited.renewed.asleep Bool.noConfusion
  refine ⟨_, done, rfl, ?_⟩
  have kept : (store.setNode ⌊timeMs⌋ config.selfNode.nodeId fields).liveNode ⌊laterMs⌋
      config.selfNode.nodeId = none := by
    rw [← Option.not_isSome_iff_eq_none, RedisStore.liveNode_setNode_isSome]
    exact not_or.mpr ⟨there, gone⟩
  have still : (store.setNode ⌊timeMs⌋ config.selfNode.nodeId fields).expireNode ⌊laterMs⌋
      config.selfNode.nodeId (timeToLive config.heartbeatTimeoutMs) =
      store.setNode ⌊timeMs⌋ config.selfNode.nodeId fields := by
    rw [RedisStore.expireNode, kept]
  rw [RedisStore.ExistsAt, still]
  exact Option.not_isSome_iff_eq_none.mpr kept

/-- **A live node stays registered** in every run just if its time to live covers a sleep and two
registrations, and no hash of an earlier process goes while the first one is under way. -/
theorem registration_lasts_iff (config : NodeConfig) (store : RedisStore) (timeMs : ℚ) :
    (∀ beat, (heartbeatMachine config).Reach (OnTime config.selfNode.nodeId)
        (start config store timeMs) beat → beat.initialized = true →
        beat.store.ExistsAt beat.timeMs config.selfNode.nodeId) ↔
      Covers config ∧ Clear config store timeMs := by
  constructor
  · intro lasts
    constructor
    · by_contra uncovered
      obtain ⟨beat, reached, initialized, gone⟩ := uncovered_lapses store timeMs uncovered
      exact gone (lasts beat reached initialized)
    · by_contra unclear
      obtain ⟨beat, reached, initialized, gone⟩ := unclear_lapses unclear
      exact gone (lasts beat reached initialized)
  · intro ⟨covers, clear⟩ beat reached initialized
    have lasting : beat.Lasting config :=
      reached.invariant (Lasting config) (lasting_start clear) fun lasting onTime moved =>
        lasting.step covers onTime moved
    exact lasting.existsAt covers initialized

/-- A node that sleeps twenty seconds and lives twelve. -/
theorem slowHeartbeat_lapses :
    ∃ beat, (heartbeatMachine { twoNodes 0 with heartbeatIntervalMs := 20000 }).Reach
        (OnTime (twoNodes 0).selfNode.nodeId)
        (start { twoNodes 0 with heartbeatIntervalMs := 20000 } .empty 0) beat ∧
      beat.initialized = true ∧ ¬beat.store.ExistsAt beat.timeMs (twoNodes 0).selfNode.nodeId :=
  uncovered_lapses .empty 0 (by decide)

example : Covers (twoNodes 0) := by decide

/-- Redis with the hash of an earlier process that has half a second left. -/
def leftover (config : NodeConfig) : RedisStore :=
  { RedisStore.empty with
    node := Function.update (fun _ => none) config.selfNode.nodeId (some ⟨[], some 500⟩) }

/-- After a restart at the wrong moment `init` succeeds, and the node is not registered. -/
theorem restarted_lapses :
    ∃ beat, (heartbeatMachine (twoNodes 0)).Reach (OnTime (twoNodes 0).selfNode.nodeId)
        (start (twoNodes 0) (leftover (twoNodes 0)) 0) beat ∧
      beat.initialized = true ∧ ¬beat.store.ExistsAt beat.timeMs (twoNodes 0).selfNode.nodeId := by
  have there :
      ((leftover (twoNodes 0)).liveNode ⌊(0 : ℚ)⌋ (twoNodes 0).selfNode.nodeId).isSome := by
    decide
  have gone : ¬(leftover (twoNodes 0)).ExistsAt 600 (twoNodes 0).selfNode.nodeId := by decide
  apply unclear_lapses
  rw [Clear, not_or]
  constructor
  · exact fun none => by rw [none] at there; cases there
  · exact fun outlasts => gone (outlasts 600 (by norm_num))

end Heartbeat

end Invariant

end ClusterChat
