/-
# The control plane in Redis

Redis holds the session of each connected user, the users bound to each node, and
the nodes with their addresses. A session names a node and the instance of it that
bound the user. `Redis` is the program's client: each of its methods sends one or
more commands while holding the client's mutex, and a command may get no reply.

A deletion of a session carries the method of the registry that asked for it, and
for a lookup the grounds of its verdict; Redis does not see them.
-/

import ClusterChat.Concurrency.Calls
import ClusterChat.Data.Bytes
import Mathlib.Logic.Function.Basic

namespace ClusterChat

/-- `NodeMeta`. -/
structure NodeMeta where
  nodeId : CString
  instanceId : CString
  clientIp : CString
  clientPort : UInt16
  interIp : CString
  interPort : UInt16
  heartbeatMs : Int
  deriving DecidableEq

/-- A fresh `NodeMeta`. -/
def NodeMeta.empty : NodeMeta := ⟨[], [], [], 0, [], 0, 0⟩

def NodeMeta.valid (node : NodeMeta) : Bool :=
  node.nodeId ≠ [] && node.interIp ≠ [] && node.interPort ≠ 0

/-! ### What Redis holds -/

/-- The fields of the hash `chat:node:<id>`. -/
inductive NodeField
  | nodeId | instanceId | clientIp | clientPort | interIp | interPort | heartbeatMs
  deriving DecidableEq

/-- The hash of a node, and when it expires. -/
structure NodeRecord where
  fields : List (NodeField × CString)
  expireAtMs : Option Int

/-- The keys `chat:session:<user>`, `chat:node-users:<node>` and
`chat:node:<node>`, and the set `chat:nodes`. -/
structure RedisStore where
  session : UserId → Option CString
  nodeUsers : CString → List UserId
  node : CString → Option NodeRecord
  nodes : List CString

/-- Who deletes a session; a lookup does so because of the route it judged and the
node it saw under the id of the route. -/
inductive Unbinder
  | unbindUser
  | queryUserNode (nodeId instanceId : CString) (seen : Option NodeMeta)
  | cleanupSelf
  deriving DecidableEq

/-- The commands the program sends, with their replies; `none` stands for no
reply. `SET NX` answers whether it was the first. -/
inductive RedisCommand : Type → Type
  | setSession (userId : UserId) (value : CString) : RedisCommand (Option Bool)
  | getSession (userId : UserId) : RedisCommand (Option (Option CString))
  | delSession (caller : Unbinder) (userId : UserId) : RedisCommand (Option Unit)
  | addNodeUser (nodeId : CString) (userId : UserId) : RedisCommand (Option Unit)
  | remNodeUser (nodeId : CString) (userId : UserId) : RedisCommand (Option Unit)
  | nodeUsers (nodeId : CString) : RedisCommand (Option (List UserId))
  | delNodeUsers (nodeId : CString) : RedisCommand (Option Unit)
  | setNode (nodeId : CString) (fields : List (NodeField × CString)) : RedisCommand (Option Unit)
  | expireNode (nodeId : CString) (seconds : Int) : RedisCommand (Option Unit)
  | getNode (nodeId : CString) : RedisCommand (Option (List (NodeField × CString)))
  | delNode (nodeId : CString) : RedisCommand (Option Unit)
  | addNode (nodeId : CString) : RedisCommand (Option Unit)
  | remNode (nodeId : CString) : RedisCommand (Option Unit)
  | nodes : RedisCommand (Option (List CString))

/-- `SADD` on the members of a set. -/
def setAdd {α : Type} [DecidableEq α] (member : α) (members : List α) : List α :=
  if member ∈ members then members else members ++ [member]

/-- `SREM` on the members of a set. -/
def setRemove {α : Type} [DecidableEq α] (member : α) (members : List α) : List α :=
  members.filter (· ≠ member)

@[simp] theorem mem_setAdd {α : Type} [DecidableEq α] {member other : α} {members : List α} :
    other ∈ setAdd member members ↔ other = member ∨ other ∈ members := by
  unfold setAdd
  split
  · rename_i present
    exact ⟨.inr, Or.rec (fun same => same ▸ present) id⟩
  · rw [List.mem_append, List.mem_singleton, or_comm]

@[simp] theorem mem_setRemove {α : Type} [DecidableEq α] {member other : α} {members : List α} :
    other ∈ setRemove member members ↔ other ∈ members ∧ other ≠ member := by
  simp [setRemove]

namespace RedisStore

/-- Nothing is stored. -/
def empty : RedisStore := ⟨fun _ => none, fun _ => [], fun _ => none, []⟩

/-- The hash of a node that has not expired: a key is gone once the clock is past its
expiry. -/
def liveNode (store : RedisStore) (clockMs : Int) (nodeId : CString) : Option NodeRecord :=
  (store.node nodeId).filter fun record =>
    match record.expireAtMs with
    | none => true
    | some expireAtMs => clockMs ≤ expireAtMs

/-- `HMSET`: fields over those of a live hash, which keeps its expiry. -/
def setNode (store : RedisStore) (clockMs : Int) (nodeId : CString)
    (fields : List (NodeField × CString)) : RedisStore :=
  let record : NodeRecord :=
    match store.liveNode clockMs nodeId with
    | none => ⟨fields, none⟩
    | some old => { old with
      fields := fields ++ old.fields.filter fun field => field.1 ∉ fields.map Prod.fst }
  { store with node := Function.update store.node nodeId (some record) }

/-- `EXPIRE`: a live hash gets an expiry, or goes at once. -/
def expireNode (store : RedisStore) (clockMs : Int) (nodeId : CString) (seconds : Int) :
    RedisStore :=
  match store.liveNode clockMs nodeId with
  | none => store
  | some record =>
    let record : Option NodeRecord :=
      if seconds ≤ 0 then none else some { record with expireAtMs := clockMs + 1000 * seconds }
    { store with node := Function.update store.node nodeId record }

/-- Execute a command and reply to it. -/
def exec (store : RedisStore) (clockMs : Int) : {β : Type} → RedisCommand β → β × RedisStore
  | _, .setSession userId value =>
    match store.session userId with
    | none =>
      (some true, { store with session := Function.update store.session userId (some value) })
    | some _ => (some false, store)
  | _, .getSession userId => (some (store.session userId), store)
  | _, .delSession _ userId =>
    (some (), { store with session := Function.update store.session userId none })
  | _, .addNodeUser nodeId userId =>
    (some (), { store with
      nodeUsers :=
        Function.update store.nodeUsers nodeId (setAdd userId (store.nodeUsers nodeId)) })
  | _, .remNodeUser nodeId userId =>
    (some (), { store with
      nodeUsers :=
        Function.update store.nodeUsers nodeId (setRemove userId (store.nodeUsers nodeId)) })
  | _, .nodeUsers nodeId => (some (store.nodeUsers nodeId), store)
  | _, .delNodeUsers nodeId =>
    (some (), { store with nodeUsers := Function.update store.nodeUsers nodeId [] })
  | _, .setNode nodeId fields => (some (), store.setNode clockMs nodeId fields)
  | _, .expireNode nodeId seconds => (some (), store.expireNode clockMs nodeId seconds)
  | _, .getNode nodeId =>
    (some (((store.liveNode clockMs nodeId).map NodeRecord.fields).getD []), store)
  | _, .delNode nodeId =>
    (some (), { store with node := Function.update store.node nodeId none })
  | _, .addNode nodeId => (some (), { store with nodes := setAdd nodeId store.nodes })
  | _, .remNode nodeId => (some (), { store with nodes := setRemove nodeId store.nodes })
  | _, .nodes => (some store.nodes, store)

end RedisStore

/-! ### Values as text -/

/-- The character between the two parts of a session. -/
def bar : CChar := ⟨124, by decide⟩

/-- The value that `bindUserNode` stores. -/
def sessionValue (nodeId instanceId : CString) : CString := nodeId ++ bar :: instanceId

/-- The text before the last bar and the text behind it; without a bar, all of it
and nothing. -/
def splitSession (value : CString) : CString × CString :=
  match value.reverse.takeWhile (· ≠ bar), value.reverse.dropWhile (· ≠ bar) with
  | _, [] => (value, [])
  | behind, _ :: before => (before.reverse, behind.reverse)

/-- The last bar of a session value splits it, whatever stands before it. -/
theorem splitSession_append (before behind : CString) (plain : bar ∉ behind) :
    splitSession (before ++ bar :: behind) = (before, behind) := by
  have barless : ∀ c ∈ behind.reverse, decide (c ≠ bar) = true := by
    intro c member
    rw [List.mem_reverse] at member
    exact decide_eq_true fun same => plain (same ▸ member)
  have reversed : (before ++ bar :: behind).reverse = behind.reverse ++ bar :: before.reverse := by
    simp
  rw [splitSession, reversed, List.takeWhile_append_of_pos barless,
    List.dropWhile_append_of_pos barless]
  simp

/-- The node part of a stored session is the node's id just if the instance id
has no bar of its own. -/
theorem splitSession_sessionValue (nodeId instanceId : CString) :
    (splitSession (sessionValue nodeId instanceId)).1 = nodeId ↔ bar ∉ instanceId := by
  constructor
  · intro same present
    -- otherwise the node part reaches up to the last bar of the instance id
    obtain ⟨last, first, reversed, plain⟩ :=
      List.eq_append_cons_of_mem (List.mem_reverse.mpr present)
    have whole : instanceId = first.reverse ++ bar :: last.reverse := by
      rw [← List.reverse_reverse instanceId, reversed]
      simp
    have value : sessionValue nodeId instanceId =
        (nodeId ++ bar :: first.reverse) ++ bar :: last.reverse := by
      rw [sessionValue, whole, List.append_assoc, List.cons_append]
    rw [value, splitSession_append _ _ fun member => plain (List.mem_reverse.mp member)] at same
    exact absurd (congrArg List.length same) (by simp)
  · intro plain
    rw [sessionValue, splitSession_append nodeId instanceId plain]

/-- What `registerNode` writes about a node. -/
def NodeMeta.fields (node : NodeMeta) (heartbeatMs : Int) : List (NodeField × CString) :=
  [(.nodeId, node.nodeId), (.instanceId, node.instanceId), (.clientIp, node.clientIp),
    (.clientPort, printInt node.clientPort.toNat), (.interIp, node.interIp),
    (.interPort, printInt node.interPort.toNat), (.heartbeatMs, printInt heartbeatMs)]

/-- `static_cast<uint16_t>(atoi(..))`. -/
def readPort (value : CString) : UInt16 := .ofNat (atoi value % 2 ^ 16).toNat

/-- One field of a hash put into the node that `getNode` fills. -/
def NodeMeta.put (node : NodeMeta) : NodeField × CString → NodeMeta
  | (.nodeId, value) => { node with nodeId := value }
  | (.instanceId, value) => { node with instanceId := value }
  | (.clientIp, value) => { node with clientIp := value }
  | (.clientPort, value) => { node with clientPort := readPort value }
  | (.interIp, value) => { node with interIp := value }
  | (.interPort, value) => { node with interPort := readPort value }
  | (.heartbeatMs, value) => { node with heartbeatMs := atoi value }

/-- The node that a hash describes. -/
def nodeOf (fields : List (NodeField × CString)) : NodeMeta := fields.foldl NodeMeta.put .empty

/-- The node that `getNode` reads in a hash; none in an empty or incomplete one. -/
def readNode (fields : List (NodeField × CString)) : Option NodeMeta :=
  if fields ≠ [] ∧ (nodeOf fields).valid then some (nodeOf fields) else none

/-! ### The client -/

/-- What a method of `Redis` does besides sending commands: take and release the
mutex of the client, and read the time in seconds. -/
inductive ClientCall : Type → Type
  | lock : ClientCall Unit
  | unlock : ClientCall Unit
  | time : ClientCall Int

/-- What the methods of `Redis` do. -/
inductive RedisCall (β : Type)
  | client (call : ClientCall β)
  | command (command : RedisCommand β)

namespace Redis

/-- Send a command. -/
def send {β : Type} (command : RedisCommand β) : Calls RedisCall β :=
  Calls.perform (.command command)

/-- Hold the mutex of the client: `lock_guard<mutex> lock(command_mtx_)`. -/
def locked {α : Type} (body : Calls RedisCall α) : Calls RedisCall α := do
  Calls.perform (.client .lock)
  let result ← body
  Calls.perform (.client .unlock)
  return result

/-- The commands of `registerNode`. -/
def writeNode (node : NodeMeta) (ttlSeconds heartbeatMs : Int) : Calls RedisCall Bool := do
  let some () ← send (.setNode node.nodeId (node.fields heartbeatMs)) | return false
  let some () ← send (.expireNode node.nodeId ttlSeconds) | return false
  let some () ← send (.addNode node.nodeId) | return false
  return true

/-- `Redis::registerNode`. -/
def registerNode (node : NodeMeta) (ttlSeconds : Int) : Calls RedisCall Bool := locked do
  if node.heartbeatMs ≤ 0 then
    writeNode node ttlSeconds (1000 * (← Calls.perform (.client .time)))
  else
    writeNode node ttlSeconds node.heartbeatMs

/-- `Redis::unregisterNode`. -/
def unregisterNode (nodeId : CString) : Calls RedisCall Bool := locked do
  let some () ← send (.delNode nodeId) | return false
  let some () ← send (.delNodeUsers nodeId) | return false
  let some () ← send (.remNode nodeId) | return false
  return true

/-- `Redis::getNode`; the node it fills where it returns true. -/
def getNode (nodeId : CString) : Calls RedisCall (Option NodeMeta) := locked do
  let some fields ← send (.getNode nodeId) | return none
  return readNode fields

/-- `Redis::getNodeIds`. -/
def getNodeIds : Calls RedisCall (List CString) := locked do
  let some nodeIds ← send .nodes | return []
  return nodeIds

/-- `Redis::bindUserNode`. -/
def bindUserNode (userId : UserId) (nodeId instanceId : CString) : Calls RedisCall Bool := locked do
  let some ok ← send (.setSession userId (sessionValue nodeId instanceId)) | return false
  if !ok then return false
  let some () ← send (.addNodeUser nodeId userId) | return false
  return true

/-- `Redis::unbindUserNode`. -/
def unbindUserNode (caller : Unbinder) (userId : UserId) (nodeId : CString) :
    Calls RedisCall Bool := locked do
  let some () ← send (.delSession caller userId) | return false
  if nodeId ≠ [] then
    let some () ← send (.remNodeUser nodeId userId) | return false
  return true

/-- `Redis::getUserSession`; the two parts it fills in where it returns true. -/
def getUserSession (userId : UserId) : Calls RedisCall (Option (CString × CString)) := locked do
  let some (some value) ← send (.getSession userId) | return none
  return if (splitSession value).1 ≠ [] then some (splitSession value) else none

/-- `Redis::getNodeUsers`. -/
def getNodeUsers (nodeId : CString) : Calls RedisCall (List UserId) := locked do
  let some users ← send (.nodeUsers nodeId) | return []
  return users

end Redis

end ClusterChat
